import AccountRecovery.Pattern.Basic
import AccountRecovery.Text.Blank
import AccountRecovery.Text.Case
import AccountRecovery.Text.Word
/-!
# Matching patterns

A backtracking matcher.  A thread is a place in the text with what the groups remember; a pattern
offers the threads behind its matches to a continuation, in order of preference, until one is
accepted.
-/

namespace AccountRecovery

namespace CharClass

def holds (k : CharClass) (ascii : Bool) (c : Char) : Bool :=
  (!ascii || c.toNat < 0x80) &&
    match k with
    | digit => Text.isDigit c
    | blank => Text.isBlank c && (!ascii || c.toNat ≤ 0x0D || c == ' ')
    | word => Text.isWord c

end CharClass

namespace Casing

def swapAscii (c : Char) : List Char :=
  let n := c.toNat
  if 0x41 ≤ n ∧ n ≤ 0x5A then [c, Char.ofNat (n + 0x20)]
  else if 0x61 ≤ n ∧ n ≤ 0x7A then [c, Char.ofNat (n - 0x20)]
  else [c]

/-- The characters that count as a character of the text. -/
def variants : Casing → Char → List Char
  | exact, c => [c]
  | ascii, c => swapAscii c
  | caseless, c => Text.caseVariants c

/-- Whether two characters of the text count as the same when a group is matched again. -/
def same : Casing → Char → Char → Bool
  | exact, c, d => c == d
  | ascii, c, d => (swapAscii c).contains d
  | caseless, c, d => Text.lowerChar c == Text.lowerChar d

end Casing

def SetItem.holds (casing : Casing) (c : Char) : SetItem → Bool
  | char code => (casing.variants c).any (·.toNat == code)
  | range first last => (casing.variants c).any fun v => first ≤ v.toNat && v.toNat ≤ last
  | charClass name inside ascii => name.holds ascii c == inside

def CharTest.holds (c : Char) : CharTest → Bool
  | any lineFeed => lineFeed || c != '\n'
  | char code casing => (casing.variants c).any (·.toNat == code)
  | set negated items casing => items.any (·.holds casing c) != negated

namespace Anchor

/-- Whether the place behind `pos` characters is between a word character and something else. -/
def atBoundary (text : Array Char) (ascii : Bool) (pos : Nat) : Bool :=
  let isWord := fun c : Option Char => c.any (CharClass.word.holds ascii)
  let before := if pos = 0 then none else text[pos - 1]?
  isWord before != isWord text[pos]?

def holds (text : Array Char) (pos : Nat) : Anchor → Bool
  | textStart => pos == 0
  | lineStart => pos == 0 || text[pos - 1]? == some '\n'
  | textEnd => pos == text.size
  | lastLineEnd => pos == text.size || (pos + 1 == text.size && text[pos]? == some '\n')
  | lineEnd => pos == text.size || text[pos]? == some '\n'
  | wordBoundary ascii => !text.isEmpty && atBoundary text ascii pos
  | insideWord ascii => !text.isEmpty && !atBoundary text ascii pos

end Anchor

namespace Pattern

/-- A place in the text, and the start and end of what each group matched last. -/
structure Thread where
  pos : Nat
  groups : List (Nat × Nat × Nat)
deriving Repr, DecidableEq

/-- A part of a pattern as it runs: it takes a thread and offers the threads behind its matches to a
continuation. -/
abbrev Step := Thread → (Thread → Option Thread) → Option Thread

def turns (body : Step) : Nat → Step
  | 0, t, k => k t
  | n + 1, t, k => body t fun u => turns body n u k

/-- Up to `budget` further turns, as many as possible.  No turn starts where the one before it
started, so `fuel` above the number of characters left never runs out. -/
def greedyTurns (body : Step) (k : Thread → Option Thread) :
    (fuel : Nat) → (budget last : Option Nat) → Thread → Option Thread
  | 0, _, _, t => k t
  | fuel + 1, budget, last, t =>
    if budget = some 0 ∨ last = some t.pos then
      k t
    else
      match body t fun u => greedyTurns body k fuel (budget.map (· - 1)) (some t.pos) u with
      | some u => some u
      | none => k t

def lazyTurns (body : Step) (k : Thread → Option Thread) :
    (fuel : Nat) → (budget last : Option Nat) → Thread → Option Thread
  | 0, _, _, t => k t
  | fuel + 1, budget, last, t =>
    match k t with
    | some u => some u
    | none =>
      if budget = some 0 ∨ last = some t.pos then
        none
      else
        body t fun u => lazyTurns body k fuel (budget.map (· - 1)) (some t.pos) u

def possessiveTurns (body : Step) :
    (fuel : Nat) → (budget last : Option Nat) → Thread → Thread
  | 0, _, _, t => t
  | fuel + 1, budget, last, t =>
    if budget = some 0 ∨ last = some t.pos then
      t
    else
      match body t some with
      | some u => possessiveTurns body fuel (budget.map (· - 1)) (some t.pos) u
      | none => t

/-- The place behind a text that stands at `pos` for the second time. -/
def repeatAt (text : Array Char) (casing : Casing) (first last pos : Nat) : Option Nat :=
  let n := last - first
  if (List.range n).all fun i =>
      match text[first + i]?, text[pos + i]? with
      | some c, some d => casing.same c d
      | _, _ => false then
    some (pos + n)
  else
    none

def run (text : Array Char) : Pattern → Step
  | empty, t, k => k t
  | one test, t, k =>
    match text[t.pos]? with
    | some c => if test.holds c then k { t with pos := t.pos + 1 } else none
    | none => none
  | anchor a, t, k => if a.holds text t.pos then k t else none
  | seq p q, t, k => run text p t fun u => run text q u k
  | alt p q, t, k =>
    match run text p t k with
    | some u => some u
    | none => run text q t k
  | repeated p least greatest greed, t, k =>
    let body : Step := run text p
    let budget := greatest.map (· - least)
    match greed with
    | .greedy => turns body least t fun u => greedyTurns body k (text.size + 2) budget none u
    | .lazy => turns body least t fun u => lazyTurns body k (text.size + 2) budget none u
    | .possessive =>
      match turns body least t some with
      | some u => k (possessiveTurns body (text.size + 2) budget none u)
      | none => none
  | group i p, t, k =>
    run text p t fun u => k { u with groups := (i, t.pos, u.pos) :: u.groups }
  | again i casing, t, k =>
    match t.groups.lookup i with
    | some (first, last) =>
      match repeatAt text casing first last t.pos with
      | some pos => k { t with pos }
      | none => none
    | none => none
  | look behind negated p, t, k =>
    let distance := behind.getD 0
    let found :=
      if t.pos < distance then none else run text p { t with pos := t.pos - distance } some
    match found, negated with
    | some u, false => k { u with pos := t.pos }
    | none, true => k t
    | _, _ => none
  | atomic p, t, k =>
    match run text p t some with
    | some u => k u
    | none => none
  | ifGroup i p q, t, k =>
    if (t.groups.lookup i).isSome then run text p t k else run text q t k

/-- The end of the preferred match at `pos` among those whose end is accepted. -/
def matchEnd? (p : Pattern) (text : Array Char) (pos : Nat) (accepts : Nat → Bool) : Option Nat :=
  (p.run text ⟨pos, []⟩ fun t => if accepts t.pos then some t else none).map (·.pos)

/-- The end of the match that a search hides at `pos`.  If the preferred match is empty, the
preferred one that is not empty takes its place. -/
def hiddenEnd? (p : Pattern) (text : Array Char) (pos : Nat) : Option Nat :=
  match p.matchEnd? text pos (fun _ => true) with
  | some e => if pos < e then some e else p.matchEnd? text pos (pos < ·)
  | none => none

/-- A piece of a text, from `first` up to but without `last`. -/
structure Span where
  first : Nat
  last : Nat
deriving Repr, DecidableEq

def spansFrom (p : Pattern) (text : Array Char) : (fuel pos : Nat) → List Span
  | 0, _ => []
  | fuel + 1, pos =>
    match p.hiddenEnd? text pos with
    | some e => ⟨pos, e⟩ :: spansFrom p text fuel e
    | none => spansFrom p text fuel (pos + 1)

def spans (p : Pattern) (text : Array Char) : List Span :=
  p.spansFrom text text.size 0

end Pattern

end AccountRecovery
