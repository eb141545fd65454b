import AccountRecovery.Text.Blank
/-!
# Environment files

A file with one variable on each line, as in `NAME=value`.  Values may stand between quotes, in
which backslashes escape, and may refer to other variables as in `$` followed by a name in braces.
A line that cannot be read is left out.
-/

namespace AccountRecovery.EnvFile

/-- A variable with its value; a name without an equals sign has none. -/
structure Binding where
  name : String
  value : Option String
deriving Repr, DecidableEq

def isInnerBlank (c : Char) : Bool :=
  Text.isBlank c && c != '\n' && c != '\r'

def unifyLines : List Char → List Char
  | [] => []
  | '\r' :: '\n' :: cs => '\n' :: unifyLines cs
  | '\r' :: cs => '\n' :: unifyLines cs
  | c :: cs => c :: unifyLines cs

/-- The text up to its closing quote and what follows.  A quote behind a backslash closes the text
only if no other one does. -/
def takeQuoted (q : Char) : List Char → Option (List Char × List Char)
  | [] => none
  | [c] => if c = q then some ([], []) else none
  | c :: d :: cs =>
    if c = q then
      some ([], d :: cs)
    else if c = '\\' ∧ d = q then
      match takeQuoted q cs with
      | some (t, rest) => some (c :: d :: t, rest)
      | none => some ([c], cs)
    else
      (takeQuoted q (d :: cs)).map fun p => (c :: p.1, p.2)

def escaped? : Char → Option Char
  | '\\' => some '\\'
  | '\'' => some '\''
  | '"' => some '"'
  | 'a' => some (Char.ofNat 7)
  | 'b' => some (Char.ofNat 8)
  | 'f' => some (Char.ofNat 12)
  | 'n' => some '\n'
  | 'r' => some '\r'
  | 't' => some '\t'
  | 'v' => some (Char.ofNat 11)
  | _ => none

/-- Replaces the escapes that pass a test; other backslashes stay. -/
def unescape (known : Char → Bool) : List Char → List Char
  | '\\' :: c :: cs =>
    match escaped? c with
    | some e =>
      if known c then e :: unescape known cs else '\\' :: unescape known (c :: cs)
    | none => '\\' :: unescape known (c :: cs)
  | c :: cs => c :: unescape known cs
  | [] => []

/-- Drops the comment of a value without quotes: a number sign behind a blank, and all after it. -/
def dropComment : List Char → List Char
  | [] => []
  | c :: cs =>
    if Text.isBlank c && (cs.dropWhile Text.isBlank).head? == some '#' then []
    else c :: dropComment cs

def cutLine (cs : List Char) : List Char × List Char :=
  (cs.takeWhile (· != '\n'), cs.dropWhile (· != '\n'))

def takeValue (cs : List Char) : Option (String × List Char) :=
  match cs with
  | '\'' :: r =>
    (takeQuoted '\'' r).map fun p =>
      (String.ofList (unescape (fun c => c == '\\' || c == '\'') p.1), p.2)
  | '"' :: r =>
    (takeQuoted '"' r).map fun p => (String.ofList (unescape (fun _ => true) p.1), p.2)
  | _ =>
    let (line, rest) := cutLine cs
    some (String.ofList ((dropComment line).reverse.dropWhile Text.isBlank).reverse, rest)

/-- The rest behind a comment and the end of the line, if nothing else stands there. -/
def endLine? (cs : List Char) : Option (List Char) :=
  let behind := cs.dropWhile isInnerBlank
  match behind with
  | '#' :: r => some ((r.dropWhile (· != '\n')).drop 1)
  | '\n' :: r => some r
  | [] => some []
  | _ => none

def skipLine (cs : List Char) : List Char :=
  (cutLine cs).2.drop 1

def skipExport (cs : List Char) : List Char :=
  if "export".toList.isPrefixOf cs then
    match cs.drop 6 with
    | c :: r => if isInnerBlank c then r.dropWhile isInnerBlank else cs
    | [] => cs
  else
    cs

/-- The name in front of the given characters and what follows; a comment has no name. -/
def takeName (cs : List Char) : Option (Option String × List Char) :=
  match cs with
  | '#' :: _ => some (none, cs)
  | '\'' :: r =>
    let name := r.takeWhile (· != '\'')
    match r.drop name.length with
    | _ :: rest => if name.isEmpty then none else some (some (String.ofList name), rest)
    | [] => none
  | _ =>
    let isPart := fun c : Char => c != '=' && c != '#' && !Text.isBlank c
    let name := cs.takeWhile isPart
    if name.isEmpty then none else some (some (String.ofList name), cs.dropWhile isPart)

/-- Reads the line in front of the given characters.  Where it cannot be read there is no variable
and the rest of the line is skipped. -/
def takeBinding (cs : List Char) : Option Binding × List Char :=
  let start := skipExport cs
  match takeName start with
  | none => (none, skipLine start)
  | some (name, afterName) =>
    let behind := afterName.dropWhile isInnerBlank
    match behind with
    | '=' :: r =>
      let place := r.dropWhile isInnerBlank
      match takeValue place with
      | none => (none, skipLine place)
      | some (value, afterValue) =>
        match endLine? afterValue with
        | some rest => (name.map fun n => ⟨n, some value⟩, rest)
        | none => (none, skipLine afterValue)
    | _ =>
      match endLine? behind with
      | some rest => (name.map fun n => ⟨n, none⟩, rest)
      | none => (none, skipLine behind)

/-- Reads lines; each takes at least one character, so `fuel` need not be above their number. -/
def bindingsFrom : (fuel : Nat) → List Char → List Binding
  | 0, _ => []
  | fuel + 1, cs =>
    match cs.dropWhile Text.isBlank with
    | [] => []
    | start =>
      let (binding, rest) := takeBinding start
      match binding with
      | some b => b :: bindingsFrom fuel rest
      | none => bindingsFrom fuel rest

def bindings (text : String) : List Binding :=
  let cs := unifyLines text.toList
  bindingsFrom (cs.length + 1) cs

/-- A reference at the given characters, behind its dollar sign and brace: the name, the value to
take if there is no such variable, and what follows. -/
def reference? (cs : List Char) : Option (List Char × List Char × List Char) :=
  let name := cs.takeWhile fun c => c != '\x7d' && c != ':'
  match cs.drop name.length with
  | '\x7d' :: rest => some (name, [], rest)
  | ':' :: '-' :: r =>
    let default := r.takeWhile (· != '\x7d')
    match r.drop default.length with
    | _ :: rest => some (name, default, rest)
    | [] => none
  | _ => none

/-- Replaces references by values.  Each step takes at least one character. -/
def expandChars (valueOf : String → Option String) : (fuel : Nat) → List Char → List Char
  | 0, cs => cs
  | _, [] => []
  | fuel + 1, c :: cs =>
    let found :=
      match c, cs with
      | '$', '\x7b' :: r => reference? r
      | _, _ => none
    match found with
    | some (name, default, rest) =>
      let value := ((valueOf (String.ofList name)).map String.toList).getD default
      value ++ expandChars valueOf fuel rest
    | none => c :: expandChars valueOf fuel cs

def setVariable (name : String) (value : Option String) :
    List (String × Option String) → List (String × Option String)
  | [] => [(name, value)]
  | v :: vs => if v.1 = name then (name, value) :: vs else v :: setVariable name value vs

/-- Replaces references in the values, one after the other.  A variable of the file goes before one
of the environment; a variable without a value is empty. -/
def resolve (environment : List (String × String)) :
    List (String × Option String) → List Binding → List (String × Option String)
  | known, [] => known
  | known, b :: bs =>
    let valueOf := fun name =>
      match known.lookup name with
      | some v => some (v.getD "")
      | none => environment.lookup name
    let value := b.value.map fun v =>
      String.ofList (expandChars valueOf (v.length + 1) v.toList)
    resolve environment (setVariable b.name value known) bs

def read (environment : List (String × String)) (text : String) :
    List (String × Option String) :=
  resolve environment [] (bindings text)

end AccountRecovery.EnvFile
