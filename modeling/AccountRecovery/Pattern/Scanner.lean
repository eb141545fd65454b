import AccountRecovery.Pattern.Basic
import AccountRecovery.Text.CharacterNames
/-!
# Scanning patterns

The text of a pattern is cut into tokens, an escape being one token.  A scanner works through the
tokens and keeps what it has learned: the groups, their names and widths, and the flags.
-/

namespace AccountRecovery.Pattern

inductive Rejection where
  | malformed
  /-- A repeat count beyond the greatest one. -/
  | countTooLarge
  /-- The ASCII and the Unicode alphabet are both asked for. -/
  | conflictingAlphabets
deriving Repr, DecidableEq

/-- A character, a character behind a backslash, or a backslash that ends the text. -/
inductive Token where
  | char (c : Char)
  | escaped (c : Char)
  | dangling
deriving Repr, DecidableEq

def tokens : List Char → List Token
  | [] => []
  | ['\\'] => [.dangling]
  | '\\' :: c :: cs => .escaped c :: tokens cs
  | c :: cs => .char c :: tokens cs

structure Flags where
  ignoreCase : Bool := false
  multiline : Bool := false
  dotAll : Bool := false
  verbose : Bool := false
  ascii : Bool := false
  /-- Nothing may be repeated. -/
  template : Bool := false
deriving Repr, DecidableEq

namespace Flags

def casing (f : Flags) : Casing :=
  if f.ignoreCase then (if f.ascii then .ascii else .caseless) else .exact

end Flags

inductive Flag where
  | ignoreCase
  | multiline
  | dotAll
  | verbose
  | ascii
  | unicode
  | template
deriving Repr, DecidableEq

namespace Flag

def ofLetter? : Char → Option Flag
  | 'i' => some ignoreCase
  | 'm' => some multiline
  | 's' => some dotAll
  | 'x' => some verbose
  | 'a' => some ascii
  | 'u' => some unicode
  | 't' => some template
  | _ => none

def isAlphabet (f : Flag) : Bool :=
  f = ascii || f = unicode

/-- Sets or clears a flag.  The two alphabets exclude each other. -/
def put (on : Bool) (f : Flags) : Flag → Flags
  | ignoreCase => { f with ignoreCase := on }
  | multiline => { f with multiline := on }
  | dotAll => { f with dotAll := on }
  | verbose => { f with verbose := on }
  | ascii => { f with ascii := on }
  | unicode => { f with ascii := !on }
  | template => { f with template := on }

end Flag

structure Scan where
  rest : List Token
  /-- The characters that may be called by name. -/
  characters : Text.CharacterNames
  /-- The widths of the groups by number from 1 on; a group that is still open has none. -/
  widths : List (Option Width) := []
  names : List (String × Nat) := []
  /-- The first group number that stands inside the look-behind that is being read. -/
  behindFrom : Option Nat := none
  /-- The flags of the whole pattern. -/
  flags : Flags := {}
  alphabets : List Flag := []
  /-- Group numbers that must exist in the end. -/
  tested : List Nat := []
  /-- Whether some look-behind has no fixed width. -/
  looseBehind : Bool := false

abbrev Scanner := StateT Scan (Except Rejection)

namespace Scanner

def reject {α : Type} : Scanner α :=
  throw .malformed

def moveTo (rest : List Token) : Scanner Unit := do
  if rest.head? = some .dangling then reject
  modify fun s => { s with rest }

def peek : Scanner (Option Token) :=
  return (← get).rest.head?

def next? : Scanner (Option Token) := do
  match (← get).rest with
  | [] => return none
  | t :: ts =>
    moveTo ts
    return some t

def next : Scanner Token := do
  match ← next? with
  | some t => return t
  | none => reject

def accept (c : Char) : Scanner Bool := do
  match (← get).rest with
  | t :: ts =>
    if t = .char c then
      moveTo ts
      return true
    else
      return false
  | [] => return false

def expect (c : Char) : Scanner Unit := do
  unless ← accept c do reject

def splitPlain (test : Char → Bool) : Nat → List Token → List Char × List Token
  | n + 1, .char c :: ts =>
    if test c then
      let p := splitPlain test n ts
      (c :: p.1, p.2)
    else
      ([], .char c :: ts)
  | _, ts => ([], ts)

def takePlain (n : Nat) (test : Char → Bool) : Scanner (List Char) := do
  let p := splitPlain test n (← get).rest
  moveTo p.2
  return p.1

/-- The characters in front of a closing character and the tokens behind it. -/
def splitName? (stop : Char) : List Token → Option (List Char × List Token)
  | [] => none
  | .char c :: ts =>
    if c = stop then some ([], ts) else (splitName? stop ts).map fun p => (c :: p.1, p.2)
  | .escaped c :: ts => (splitName? stop ts).map fun p => ('\\' :: c :: p.1, p.2)
  | .dangling :: _ => none

def takeName (stop : Char) : Scanner (List Char) := do
  match splitName? stop (← get).rest with
  | some (c :: cs, ts) =>
    moveTo ts
    return c :: cs
  | _ => reject

def skipPast (stop : Char) : List Token → Option (List Token)
  | [] => none
  | t :: ts => if t = .char stop then some ts else skipPast stop ts

/-- Whether a group with this number has been read to its end. -/
def isClosed (n : Nat) : Scanner Bool :=
  return ((← get).widths[n - 1]?.join).isSome

/-- Within a look-behind only groups that were closed in front of it may be named. -/
def checkBehind (n : Nat) : Scanner Unit := do
  match (← get).behindFrom with
  | none => return
  | some first =>
    unless ← isClosed n do reject
    if first ≤ n then reject

def openGroup (name : Option String) : Scanner Nat := do
  let s ← get
  let n := s.widths.length + 1
  match name with
  | some name =>
    if (s.names.lookup name).isSome then reject
    set { s with widths := s.widths ++ [none], names := (name, n) :: s.names }
  | none => set { s with widths := s.widths ++ [none] }
  return n

def widthOf (p : Pattern) : Scanner Width := do
  let s ← get
  return p.width fun n => (s.widths[n - 1]?.join).getD (.exactly 0)

def closeGroup (n : Nat) (p : Pattern) : Scanner Unit := do
  let w ← widthOf p
  modify fun s => { s with widths := s.widths.set (n - 1) (some w) }

end Scanner

end AccountRecovery.Pattern
