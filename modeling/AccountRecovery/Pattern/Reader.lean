import AccountRecovery.Pattern.Scanner
import AccountRecovery.Text.Integer
/-!
# Reading patterns

Patterns are read by recursive descent.  Flags that a pattern sets for the whole of itself stand at
its start, so every part is read under the flags that hold for it.
-/

namespace AccountRecovery.Pattern

/-- Repeat counts stay below this number, and no look-behind goes further back. -/
def countLimit : Nat := 4294967295

def isHexDigit (c : Char) : Bool :=
  c.isDigit || ('a' ≤ c && c ≤ 'f') || ('A' ≤ c && c ≤ 'F')

def isOctalDigit (c : Char) : Bool :=
  '0' ≤ c && c ≤ '7'

def digitsToNat (base : Nat) (cs : List Char) : Nat :=
  cs.foldl
    (fun n c =>
      base * n + (if c.isDigit then c.toNat - 0x30 else if c ≤ 'F' then c.toNat - 0x37
        else c.toNat - 0x57))
    0

def controlEscape? : Char → Option Nat
  | 'a' => some 7
  | 'f' => some 12
  | 'n' => some 10
  | 'r' => some 13
  | 't' => some 9
  | 'v' => some 11
  | '\\' => some 0x5C
  | _ => none

def classEscape? (ascii : Bool) : Char → Option SetItem
  | 'd' => some (.charClass .digit true ascii)
  | 'D' => some (.charClass .digit false ascii)
  | 's' => some (.charClass .blank true ascii)
  | 'S' => some (.charClass .blank false ascii)
  | 'w' => some (.charClass .word true ascii)
  | 'W' => some (.charClass .word false ascii)
  | _ => none

def anchorEscape? (ascii : Bool) : Char → Option Anchor
  | 'A' => some .textStart
  | 'b' => some (.wordBoundary ascii)
  | 'B' => some (.insideWord ascii)
  | 'Z' => some .textEnd
  | _ => none

namespace Scanner

def takeCode (n : Nat) : Scanner Nat := do
  let ds ← takePlain n isHexDigit
  if ds.length < n then reject
  let code := digitsToNat 16 ds
  if 0x10FFFF < code then reject
  return code

def namedCharacter : Scanner Nat := do
  expect '\x7b'
  let name ← takeName '\x7d'
  match (← get).characters (String.ofList name) with
  | some c => return c.toNat
  | none => reject

/-- The code point of an escape that is neither a class, an anchor nor starts with a digit. -/
def literalEscape (c : Char) : Scanner Nat := do
  match controlEscape? c with
  | some code => return code
  | none =>
    if c = 'x' then takeCode 2
    else if c = 'u' then takeCode 4
    else if c = 'U' then takeCode 8
    else if c = 'N' then namedCharacter
    else if c.isAlpha then reject
    else return c.toNat

def escape (flags : Flags) (c : Char) : Scanner Pattern := do
  match anchorEscape? flags.ascii c, classEscape? flags.ascii c with
  | some a, _ => return .anchor a
  | none, some item => return .one (.set false [item] flags.casing)
  | none, none =>
    if c = '0' then
      let ds ← takePlain 2 isOctalDigit
      return .one (.char (digitsToNat 8 ds) flags.casing)
    else if c.isDigit then
      let second ← takePlain 1 Char.isDigit
      let octal := isOctalDigit c && second.any isOctalDigit
      let third ← if octal then takePlain 1 isOctalDigit else pure []
      if third.isEmpty then
        let n := digitsToNat 10 (c :: second)
        unless ← isClosed n do reject
        checkBehind n
        return .again n flags.casing
      else
        let code := digitsToNat 8 (c :: second ++ third)
        if 0xFF < code then reject
        return .one (.char code flags.casing)
    else
      return .one (.char (← literalEscape c) flags.casing)

def setEscape (flags : Flags) (c : Char) : Scanner SetItem := do
  match classEscape? flags.ascii c with
  | some item => return item
  | none =>
    if c = 'b' then return .char 8
    else if isOctalDigit c then
      let ds ← takePlain 2 isOctalDigit
      let code := digitsToNat 8 (c :: ds)
      if 0xFF < code then reject
      return .char code
    else if c.isDigit then reject
    else return .char (← literalEscape c)

def setItem (flags : Flags) : Token → Scanner SetItem
  | .char c => return .char c.toNat
  | .escaped c => setEscape flags c
  | .dangling => reject

/-- Reads the members of a set up to its bracket, `items` being those read so far. -/
def setItems (flags : Flags) : (fuel : Nat) → (items : List SetItem) → Scanner (List SetItem)
  | 0, _ => reject
  | fuel + 1, items => do
    let t ← next
    if t = .char ']' ∧ items ≠ [] then
      return items
    let first ← setItem flags t
    unless ← accept '-' do
      return ← setItems flags fuel (items ++ [first])
    let u ← next
    if u = .char ']' then
      return items ++ [first, .char '-'.toNat]
    match first, ← setItem flags u with
    | .char lo, .char hi =>
      if hi < lo then reject
      setItems flags fuel (items ++ [.range lo hi])
    | _, _ => reject

/-- Reads the counts of a repeat behind its brace, or nothing if they are no counts. -/
def counts? : Scanner (Option (Nat × Option Nat)) := do
  let start := (← get).rest
  if start.head? = some (.char '\x7d') then
    return none
  let lo ← takePlain start.length Char.isDigit
  let hi ← if ← accept ',' then takePlain start.length Char.isDigit else pure lo
  unless ← accept '\x7d' do
    moveTo start
    return none
  let least := digitsToNat 10 lo
  if countLimit ≤ least then throw .countTooLarge
  if hi.isEmpty then
    return some (least, none)
  let greatest := digitsToNat 10 hi
  if countLimit ≤ greatest then throw .countTooLarge
  if greatest < least then reject
  return some (least, some greatest)

/-- Reads flag letters up to a character that is none of them, which it gives too. -/
def flagLetters : (fuel : Nat) → Token → Scanner (List Flag × Token)
  | fuel + 1, .char c =>
    match Flag.ofLetter? c with
    | some f => do
      let (fs, stop) ← flagLetters fuel (← next)
      return (f :: fs, stop)
    | none => return ([], .char c)
  | _, t => return ([], t)

end Scanner

inductive FlagSetting where
  | whole (on : List Flag)
  | group (on off : List Flag)

namespace Scanner

/-- Reads flags from their first letter or minus sign on, up to the colon or the parenthesis behind
them. -/
def flagSetting (first : Token) : Scanner FlagSetting := do
  let fuel := (← get).rest.length + 1
  let (on, stop) ← flagLetters fuel first
  if on.contains .ascii && on.contains .unicode then reject
  if stop = .char ')' ∧ on ≠ [] then
    return .whole on
  if on.contains .template then reject
  if stop = .char '-' then
    let (off, last) ← flagLetters fuel (← next)
    if off.isEmpty ∨ last ≠ .char ':' ∨ off.any Flag.isAlphabet ∨ off.contains .template ∨
        on.any off.contains then
      reject
    return .group on off
  if stop = .char ':' ∧ on ≠ [] then
    return .group on []
  reject

end Scanner

structure Piece where
  pattern : Pattern
  repeatable : Bool := true

namespace Scanner

def greed : Scanner Greed := do
  if ← accept '?' then return .lazy
  if ← accept '+' then return .possessive
  return .greedy

/-- Repeats the last one of the pieces, which are held with the last one in front. -/
def repeatLast (pieces : List Piece) (least : Nat) (greatest : Option Nat) :
    Scanner (List Piece) := do
  match pieces with
  | [] => reject
  | p :: ps =>
    unless p.repeatable do reject
    return ⟨.repeated p.pattern least greatest (← greed), false⟩ :: ps

def testedGroup (name : List Char) : Scanner Nat := do
  if Text.isIdentifier name then
    match (← get).names.lookup (String.ofList name) with
    | some n => return n
    | none => reject
  else
    match Text.integer? (String.ofList name) with
    | some (.ofNat (n + 1)) =>
      if 1073741823 ≤ n + 1 then reject
      modify fun s => { s with tested := (n + 1) :: s.tested }
      return n + 1
    | _ => reject

def isVerboseSpace (c : Char) : Bool :=
  c == ' ' || (9 ≤ c.toNat && c.toNat ≤ 13)

def skipLine : Scanner Unit := do
  let ts := (← get).rest
  match skipPast '\n' ts with
  | some rest => moveTo rest
  | none =>
    if ts.contains .dangling then reject
    moveTo []

/-- A character that stands for itself or has a meaning of its own outside of sets and repeats. -/
def plainPiece (flags : Flags) (c : Char) : Piece :=
  if c = '.' then ⟨.one (.any flags.dotAll), true⟩
  else if c = '^' then ⟨.anchor (if flags.multiline then .lineStart else .textStart), false⟩
  else if c = '$' then ⟨.anchor (if flags.multiline then .lineEnd else .lastLineEnd), false⟩
  else ⟨.one (.char c.toNat flags.casing), true⟩

def escapePiece (p : Pattern) : Piece :=
  match p with
  | .anchor _ => ⟨p, false⟩
  | _ => ⟨p, true⟩

inductive Opening where
  | capturing (name : Option String)
  | plain (on off : List Flag)
  | atomic
  | look (behind negated : Bool)
  | condition (group : Nat)
  /-- A group that is complete: a comment, or one that stands for a piece of its own. -/
  | complete (piece : Option Piece)
  | wholeFlags (on : List Flag)

def opening (flags : Flags) : Scanner Opening := do
  unless ← accept '?' do
    return .capturing none
  match ← next with
  | .char 'P' =>
    if ← accept '<' then
      let name ← takeName '>'
      unless Text.isIdentifier name do reject
      return .capturing (some (String.ofList name))
    expect '='
    let name ← takeName ')'
    unless Text.isIdentifier name do reject
    match (← get).names.lookup (String.ofList name) with
    | none => reject
    | some n =>
      unless ← isClosed n do reject
      checkBehind n
      return .complete (some ⟨.again n flags.casing, true⟩)
  | .char ':' => return .plain [] []
  | .char '#' =>
    match skipPast ')' (← get).rest with
    | some ts =>
      moveTo ts
      return .complete none
    | none => reject
  | .char '=' => return .look false false
  | .char '!' => return .look false true
  | .char '<' =>
    match ← next with
    | .char '=' => return .look true false
    | .char '!' => return .look true true
    | _ => reject
  | .char '(' =>
    let n ← testedGroup (← takeName ')')
    checkBehind n
    return .condition n
  | .char '>' => return .atomic
  | t =>
    match ← flagSetting t with
    | .whole on => return .wholeFlags on
    | .group on off => return .plain on off

mutual

/-- Reads alternatives up to a closing parenthesis or the end.  Only the whole pattern, with
`outer`, may set flags for itself. -/
def alternatives (outer : Bool) : (fuel : Nat) → Flags → Scanner Pattern
  | 0, _ => reject
  | fuel + 1, flags => do
    let first ← pieces outer fuel flags []
    if ← accept '|' then
      return .choice (first :: (← furtherAlternatives outer fuel flags))
    return first

def furtherAlternatives (outer : Bool) : (fuel : Nat) → Flags → Scanner (List Pattern)
  | 0, _ => reject
  | fuel + 1, flags => do
    let whole := (← get).flags
    let flags := if outer then whole else flags
    let p ← pieces false fuel flags []
    if ← accept '|' then
      return p :: (← furtherAlternatives outer fuel flags)
    return [p]

/-- Reads a sequence up to a bar, a closing parenthesis or the end; `done` are the pieces read so
far, the last one in front. -/
def pieces (outer : Bool) : (fuel : Nat) → Flags → (done : List Piece) → Scanner Pattern
  | 0, _, _ => reject
  | fuel + 1, flags, done => do
    let finished := Pattern.ofList (done.reverse.map (·.pattern))
    match ← peek with
    | none => return finished
    | some t =>
      if t = .char '|' ∨ t = .char ')' then
        return finished
      let _ ← next
      match t with
      | .dangling => reject
      | .escaped c => pieces outer fuel flags (escapePiece (← escape flags c) :: done)
      | .char c =>
        if flags.verbose && isVerboseSpace c then
          pieces outer fuel flags done
        else if flags.verbose && c = '#' then
          skipLine
          pieces outer fuel flags done
        else if c = '[' then
          let negated ← accept '^'
          let items ← setItems flags ((← get).rest.length + 1) []
          pieces outer fuel flags (⟨.one (.set negated items flags.casing), true⟩ :: done)
        else if c = '?' then
          pieces outer fuel flags (← repeatLast done 0 (some 1))
        else if c = '*' then
          pieces outer fuel flags (← repeatLast done 0 none)
        else if c = '+' then
          pieces outer fuel flags (← repeatLast done 1 none)
        else if c = '\x7b' then
          match ← counts? with
          | some (least, greatest) =>
            pieces outer fuel flags (← repeatLast done least greatest)
          | none => pieces outer fuel flags (plainPiece flags c :: done)
        else if c = '(' then
          match ← opening flags with
          | .wholeFlags on =>
            unless outer ∧ done.isEmpty do reject
            modify fun s =>
              { s with
                flags := on.foldl (Flag.put true) s.flags
                alphabets := on.filter Flag.isAlphabet ++ s.alphabets }
            pieces outer fuel (← get).flags done
          | .complete none => pieces outer fuel flags done
          | .complete (some p) => pieces outer fuel flags (p :: done)
          | o =>
            let p ← groupBody fuel flags o
            expect ')'
            pieces outer fuel flags (⟨p, true⟩ :: done)
        else
          pieces outer fuel flags (plainPiece flags c :: done)

def groupBody : (fuel : Nat) → Flags → Opening → Scanner Pattern
  | 0, _, _ => reject
  | fuel + 1, flags, o => do
    match o with
    | .capturing name =>
      let n ← openGroup name
      let p ← alternatives false fuel flags
      closeGroup n p
      return .group n p
    | .plain on off =>
      alternatives false fuel (off.foldl (Flag.put false) (on.foldl (Flag.put true) flags))
    | .atomic => return .atomic (← alternatives false fuel flags)
    | .look false negated => return .look none negated (← alternatives false fuel flags)
    | .look true negated =>
      let outerFrom := (← get).behindFrom
      modify fun s => { s with behindFrom := outerFrom <|> some (s.widths.length + 1) }
      let p ← alternatives false fuel flags
      modify fun s => { s with behindFrom := outerFrom }
      let w ← widthOf p
      unless w.greatest = some w.least ∧ w.least ≤ countLimit do
        modify fun s => { s with looseBehind := true }
      return .look (some w.least) negated p
    | .condition n =>
      let yes ← pieces false fuel flags []
      if ← accept '|' then
        let no ← pieces false fuel flags []
        return .ifGroup n yes no
      return .ifGroup n yes .empty
    | .complete _ => reject
    | .wholeFlags _ => reject

end

def whole : Scanner Pattern := do
  let ts := (← get).rest
  moveTo ts
  let p ← alternatives true (4 * ts.length + 8) {}
  let s ← get
  if s.alphabets.contains .ascii && s.alphabets.contains .unicode then
    throw .conflictingAlphabets
  unless s.rest.isEmpty do reject
  if s.looseBehind || s.tested.any (s.widths.length < ·) then reject
  if s.flags.template && p.hasRepeats then reject
  return p

end Scanner

def parse (characters : Text.CharacterNames) (s : String) : Except Rejection Pattern :=
  Scanner.whole.run' ⟨tokens s.toList, characters, [], [], none, {}, [], [], false⟩

end AccountRecovery.Pattern
