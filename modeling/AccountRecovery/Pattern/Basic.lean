/-!
# Search patterns

A pattern describes pieces of a text: single characters, anchors, sequences, alternatives, repeated
parts, groups that remember what they matched, and looks at the neighbourhood.  Literal characters
are code points, since a pattern may name one that no text can hold.
-/

namespace AccountRecovery

/-- How a letter in a pattern compares with a letter of the text. -/
inductive Casing where
  | exact
  /-- ASCII letters match in either case. -/
  | ascii
  /-- Letters match in any case. -/
  | caseless
deriving Repr, DecidableEq

inductive CharClass where
  | digit
  | blank
  | word
deriving Repr, DecidableEq

inductive SetItem where
  | char (code : Nat)
  | range (first last : Nat)
  /-- The characters inside the class, or with `inside = false` those outside it.  With `ascii` the
  class holds ASCII characters only. -/
  | charClass (name : CharClass) (inside ascii : Bool)
deriving Repr, DecidableEq

inductive CharTest where
  /-- Every character; a line feed only with `lineFeed`. -/
  | any (lineFeed : Bool)
  | char (code : Nat) (casing : Casing)
  | set (negated : Bool) (items : List SetItem) (casing : Casing)
deriving Repr, DecidableEq

inductive Anchor where
  | textStart
  | lineStart
  | textEnd
  /-- The end of the text, or in front of a line feed that ends it. -/
  | lastLineEnd
  | lineEnd
  | wordBoundary (ascii : Bool)
  | insideWord (ascii : Bool)
deriving Repr, DecidableEq

/-- What a repeated part tries first: one more turn, to go on without, or as many turns as there are
with no way back. -/
inductive Greed where
  | greedy
  | lazy
  | possessive
deriving Repr, DecidableEq

inductive Pattern where
  | empty
  | one (test : CharTest)
  | anchor (a : Anchor)
  | seq (first second : Pattern)
  | alt (first second : Pattern)
  /-- At least `min` turns, and at most `max` if that is given. -/
  | repeated (body : Pattern) (min : Nat) (max : Option Nat) (greed : Greed)
  /-- Remembers what the body matched under a number. -/
  | group (index : Nat) (body : Pattern)
  /-- What the group with this number matched last. -/
  | again (index : Nat) (casing : Casing)
  /-- Looks for the body without moving: ahead, or behind at a fixed distance. -/
  | look (behind : Option Nat) (negated : Bool) (body : Pattern)
  /-- Takes the first match of the body, with no way back into it. -/
  | atomic (body : Pattern)
  /-- Goes on by whether the group with this number has matched. -/
  | ifGroup (index : Nat) (yes no : Pattern)
deriving Repr, DecidableEq

namespace Pattern

def ofList : List Pattern → Pattern
  | [] => empty
  | [p] => p
  | p :: ps => seq p (ofList ps)

def choice : List Pattern → Pattern
  | [] => empty
  | [p] => p
  | p :: ps => alt p (choice ps)

/-- Least and greatest number of characters of a match; `none` stands for no bound. -/
structure Width where
  least : Nat
  greatest : Option Nat
deriving Repr, DecidableEq

namespace Width

def exactly (n : Nat) : Width := ⟨n, some n⟩

def add (v w : Width) : Width :=
  ⟨v.least + w.least, do return (← v.greatest) + (← w.greatest)⟩

def either (v w : Width) : Width :=
  ⟨min v.least w.least, do return max (← v.greatest) (← w.greatest)⟩

/-- Nothing at all repeated without a bound is empty, and so is anything repeated no times. -/
def times (w : Width) (least : Nat) (greatest : Option Nat) : Width :=
  ⟨w.least * least,
    if w.greatest = some 0 ∨ greatest = some 0 then some 0
    else do return (← w.greatest) * (← greatest)⟩

end Width

def width (groups : Nat → Width) : Pattern → Width
  | empty => .exactly 0
  | one _ => .exactly 1
  | anchor _ => .exactly 0
  | seq p q => (width groups p).add (width groups q)
  | alt p q => (width groups p).either (width groups q)
  | repeated p least greatest _ => (width groups p).times least greatest
  | group _ p => width groups p
  | again i _ => groups i
  | look .. => .exactly 0
  | atomic p => width groups p
  | ifGroup _ p q => (width groups p).either (width groups q)

def hasRepeats : Pattern → Bool
  | seq p q => hasRepeats p || hasRepeats q
  | alt p q => hasRepeats p || hasRepeats q
  | repeated .. => true
  | group _ p => hasRepeats p
  | look _ _ p => hasRepeats p
  | atomic p => hasRepeats p
  | ifGroup _ p q => hasRepeats p || hasRepeats q
  | _ => false

end Pattern

end AccountRecovery
