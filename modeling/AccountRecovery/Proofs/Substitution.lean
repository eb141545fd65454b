import AccountRecovery.Proofs.Masking
import Mathlib
/-!
# Masking as substitution

A search takes the matches of a pattern one after the other, from left to right, and goes on where a
match has ended (`Finds`).  Matches may be empty; behind an empty one the search has to move.
Whatever the pattern is, a masked value is the value with every match replaced by as many marks
(`toList_hide_eq_substitute`).

Main statement: masking keeps the length of a value, and it hides the characters that the matches
cover and no others (`mask_hides_matches`).
-/

namespace AccountRecovery

namespace Pattern

variable {size : Nat} {text : Array Char} {p : Pattern} {i j pos : Nat}

/-! ## Matches end in the text -/

/-- From a place to itself, or to a later one that is not beyond a text of this size. -/
def Onward (size i j : Nat) : Prop :=
  j = i ∨ i < j ∧ j ≤ size

theorem Onward.refl (size i : Nat) : Onward size i i :=
  .inl rfl

theorem Onward.trans {k : Nat} (h : Onward size i j) (h' : Onward size j k) : Onward size i k := by
  unfold Onward at *
  omega

/-- What follows a part of a pattern gets threads only at places that lie onward. -/
def Advances (size : Nat) (body : Step) : Prop :=
  ∀ (t : Thread) (k : Thread → Option Thread) (u : Thread), body t k = some u →
    ∃ v, Onward size t.pos v.pos ∧ k v = some u

variable {body first second : Step}

theorem Advances.seq (hfirst : Advances size first) (hsecond : Advances size second) :
    Advances size fun t k => first t fun u => second u k := by
  intro t k u hu
  obtain ⟨v, hv, hrest⟩ := hfirst _ _ _ hu
  obtain ⟨w, hw, hk⟩ := hsecond _ _ _ hrest
  exact ⟨w, hv.trans hw, hk⟩

theorem Advances.alt (hfirst : Advances size first) (hsecond : Advances size second) :
    Advances size fun t k =>
      match first t k with
      | some u => some u
      | none => second t k := by
  intro t k u hu
  dsimp only at hu
  split at hu
  · next found hfound =>
      cases hu
      exact hfirst _ _ _ hfound
  · exact hsecond _ _ _ hu

theorem Advances.onward (h : Advances size body) {t v : Thread} (hv : body t some = some v) :
    Onward size t.pos v.pos := by
  obtain ⟨w, hw, hsome⟩ := h _ _ _ hv
  obtain rfl := Option.some.inj hsome
  exact hw

theorem Advances.turns (h : Advances size body) (n : Nat) : Advances size (turns body n) := by
  induction n with
  | zero =>
      intro t k u hu
      exact ⟨t, .refl size t.pos, hu⟩
  | succ n ih => exact h.seq ih

theorem Advances.further (h : Advances size body)
    {f : (Thread → Option Thread) → Nat → Option Nat → Option Nat → Thread → Option Thread}
    (hf : ∀ k, TakesTurns body k (f k)) (fuel : Nat) (budget last : Option Nat) :
    Advances size fun t k => f k fuel budget last t := by
  intro t k u hu
  induction fuel generalizing budget last t with
  | zero =>
      rcases (hf k).cases hu with hk | ⟨fuel', hfuel, -⟩
      · exact ⟨t, .refl size t.pos, hk⟩
      · cases hfuel
  | succ fuel ih =>
      rcases (hf k).cases hu with hk | ⟨fuel', hfuel, -, hturn⟩
      · exact ⟨t, .refl size t.pos, hk⟩
      · cases hfuel
        obtain ⟨v, hv, hrest⟩ := h _ _ _ hturn
        obtain ⟨w, hw, hk⟩ := ih _ _ _ hrest
        exact ⟨w, hv.trans hw, hk⟩

theorem Advances.possessiveTurns (h : Advances size body) (fuel : Nat)
    (budget last : Option Nat) (t : Thread) :
    Onward size t.pos (possessiveTurns body fuel budget last t).pos := by
  induction fuel generalizing budget last t with
  | zero => exact .refl size t.pos
  | succ fuel ih =>
      rw [Pattern.possessiveTurns]
      split
      · exact .refl size t.pos
      · split
        · next v hturn =>
            have hv : Onward size t.pos v.pos := h.onward hturn
            exact hv.trans (ih _ _ v)
        · exact .refl size t.pos

theorem onward_of_repeatAt {casing : Casing} {first last : Nat}
    (h : repeatAt text casing first last pos = some j) : Onward text.size pos j := by
  unfold repeatAt at h
  dsimp only at h
  split at h
  · next hall =>
      cases h
      rcases Nat.eq_zero_or_pos (last - first) with hzero | hpos
      · exact .inl (by omega)
      · -- The last character of the repetition is one of the text.
        have hlast := List.all_eq_true.1 hall (last - first - 1) (List.mem_range.2 (by omega))
        have hsize : pos + (last - first - 1) < text.size := by
          split at hlast
          · next d _ hd =>
              obtain ⟨hsize, -⟩ := Array.getElem?_eq_some_iff.1 hd
              exact hsize
          · cases hlast
        exact .inr ⟨by omega, by omega⟩
  · cases h

/-- However a pattern is made, it never leads back, nor out of the text. -/
theorem advances_run (text : Array Char) (p : Pattern) : Advances text.size (run text p) := by
  induction p with
  | empty =>
      intro t k u hu
      exact ⟨t, .refl _ t.pos, hu⟩
  | one test =>
      intro t k u hu
      rw [run] at hu
      split at hu
      · next c hc =>
          obtain ⟨hlt, -⟩ := Array.getElem?_eq_some_iff.1 hc
          split at hu
          · exact ⟨_, .inr ⟨Nat.lt_succ_self t.pos, Nat.succ_le_of_lt hlt⟩, hu⟩
          · cases hu
      · cases hu
  | anchor a =>
      intro t k u hu
      rw [run] at hu
      split at hu
      · exact ⟨t, .refl _ t.pos, hu⟩
      · cases hu
  | seq p q ihp ihq => exact ihp.seq ihq
  | alt p q ihp ihq => exact ihp.alt ihq
  | repeated p least greatest greed ih =>
      cases greed with
      | greedy => exact (Advances.turns ih least).seq (ih.further (takesTurns_greedy _) _ _ _)
      | lazy => exact (Advances.turns ih least).seq (ih.further (takesTurns_lazy _) _ _ _)
      | possessive =>
          intro t k u hu
          unfold run at hu
          dsimp only at hu
          split at hu
          · next v hv =>
              have hleast : Onward text.size t.pos v.pos := (ih.turns least).onward hv
              exact ⟨_, hleast.trans (ih.possessiveTurns _ _ _ v), hu⟩
          · cases hu
  | group index p ih =>
      intro t k u hu
      obtain ⟨v, hv, hk⟩ := ih _ _ _ hu
      exact ⟨{ v with groups := (index, t.pos, v.pos) :: v.groups }, hv, hk⟩
  | again index casing =>
      intro t k u hu
      rw [run] at hu
      split at hu
      · split at hu
        · next place hrepeat => exact ⟨_, onward_of_repeatAt hrepeat, hu⟩
        · cases hu
      · cases hu
  | look behind negated p ih =>
      intro t k u hu
      unfold run at hu
      dsimp only at hu
      split at hu
      · next found _ => exact ⟨{ found with pos := t.pos }, .refl _ t.pos, hu⟩
      · exact ⟨t, .refl _ t.pos, hu⟩
      · cases hu
  | atomic p ih =>
      intro t k u hu
      rw [run] at hu
      split at hu
      · next v hv => exact ⟨v, ih.onward hv, hu⟩
      · cases hu
  | ifGroup index p q ihp ihq =>
      intro t k u hu
      rw [run] at hu
      split at hu
      · exact ihp _ _ _ hu
      · exact ihq _ _ _ hu

theorem onward_of_matchEnd? {accepts : Nat → Bool} (h : p.matchEnd? text i accepts = some j) :
    Onward text.size i j ∧ accepts j = true := by
  obtain ⟨u, hu, rfl⟩ := Option.map_eq_some_iff.1 h
  obtain ⟨v, hv, hk⟩ := advances_run text p _ _ _ hu
  split at hk
  · next haccepts =>
      cases hk
      exact ⟨hv, haccepts⟩
  · cases hk

/-! ## Searches for all matches -/

/-- The end of the match at a place.  One that has to move does not end where it began. -/
def foundEnd? (p : Pattern) (text : Array Char) (moves : Bool) (pos : Nat) : Option Nat :=
  p.matchEnd? text pos fun e => !moves || pos < e

/-- The matches that a search finds from a place on, from left to right and without overlap.  The
next one may begin where one has ended, but if that was empty it has to move. -/
inductive Finds (p : Pattern) (text : Array Char) :
    (moves : Bool) → (pos : Nat) → List Span → Prop
  | ended {moves : Bool} {pos : Nat} (beyond : text.size < pos) : Finds p text moves pos []
  | passed {moves : Bool} {pos : Nat} {found : List Span} (inside : pos ≤ text.size)
      (unmatched : p.foundEnd? text moves pos = none) (rest : Finds p text false (pos + 1) found) :
      Finds p text moves pos found
  | matched {moves : Bool} {pos e : Nat} {found : List Span} (inside : pos ≤ text.size)
      (ends : p.foundEnd? text moves pos = some e) (rest : Finds p text (e == pos) e found) :
      Finds p text moves pos (⟨pos, e⟩ :: found)

variable {moves : Bool} {e fuel : Nat} {found found' : List Span}

theorem Finds.unique (h : Finds p text moves pos found) (h' : Finds p text moves pos found') :
    found' = found := by
  induction h generalizing found' with
  | ended beyond =>
      cases h' with
      | ended => rfl
      | passed inside => omega
      | matched inside => omega
  | passed inside unmatched rest ih =>
      cases h' with
      | ended beyond => omega
      | passed _ _ rest' => exact ih rest'
      | matched _ ends => rw [unmatched] at ends; cases ends
  | matched inside ends rest ih =>
      cases h' with
      | ended beyond => omega
      | passed _ unmatched => rw [unmatched] at ends; cases ends
      | matched _ ends' rest' =>
          rw [ends, Option.some.injEq] at ends'
          subst ends'
          rw [ih rest']

theorem onward_of_foundEnd? (h : p.foundEnd? text moves pos = some e) :
    Onward text.size pos e ∧ (moves = true → pos < e) := by
  obtain ⟨honward, haccepts⟩ := onward_of_matchEnd? h
  refine ⟨honward, fun hmoves => ?_⟩
  rw [hmoves] at haccepts
  simpa using haccepts

theorem hiddenEnd?_eq (p : Pattern) (text : Array Char) (pos : Nat) :
    p.hiddenEnd? text pos =
      match p.foundEnd? text false pos with
      | some e => if pos < e then some e else p.foundEnd? text true pos
      | none => none :=
  rfl

theorem hiddenEnd?_of_size_le (h : text.size ≤ pos) : p.hiddenEnd? text pos = none := by
  have hshort (moves : Bool) (e : Nat) (hend : p.foundEnd? text moves pos = some e) :
      e = pos ∧ moves = false := by
    obtain ⟨honward, hmoves⟩ := onward_of_foundEnd? hend
    have heq : e = pos := by
      unfold Onward at honward
      omega
    refine ⟨heq, Bool.eq_false_iff.2 fun hm => ?_⟩
    have hlt := hmoves hm
    omega
  rw [hiddenEnd?_eq]
  cases hend : p.foundEnd? text false pos with
  | none => rfl
  | some e =>
      obtain ⟨rfl, -⟩ := hshort _ _ hend
      dsimp only
      rw [if_neg (Nat.lt_irrefl e)]
      cases hfurther : p.foundEnd? text true e with
      | none => rfl
      | some e' =>
          obtain ⟨-, hmoves⟩ := hshort _ _ hfurther
          cases hmoves

theorem spansFrom_of_size_le (h : text.size ≤ pos) : p.spansFrom text fuel pos = [] := by
  induction fuel generalizing pos with
  | zero => rfl
  | succ fuel ih =>
      rw [spansFrom, hiddenEnd?_of_size_le h]
      exact ih (Nat.le_succ_of_le h)

def nonEmpty (found : List Span) : List Span :=
  found.filter fun s => s.first < s.last

theorem nonEmpty_cons {s : Span} (h : s.first < s.last) :
    nonEmpty (s :: found) = s :: nonEmpty found :=
  List.filter_cons_of_pos (decide_eq_true h)

theorem nonEmpty_cons_of_empty : nonEmpty (⟨pos, pos⟩ :: found) = nonEmpty found :=
  List.filter_cons_of_neg (by simp)

def spansBehind (p : Pattern) (text : Array Char) (fuel pos : Nat) : Option Nat → List Span
  | some e => ⟨pos, e⟩ :: p.spansFrom text fuel e
  | none => p.spansFrom text fuel (pos + 1)

theorem spansFrom_succ :
    p.spansFrom text (fuel + 1) pos = p.spansBehind text fuel pos (p.hiddenEnd? text pos) := by
  rw [spansFrom]
  cases p.hiddenEnd? text pos <;> rfl

/-- From every later place, a search finds the spans and perhaps empty matches. -/
def SearchedBehind (p : Pattern) (text : Array Char) (fuel pos : Nat) : Prop :=
  ∀ pos', pos < pos' →
    ∃ found, Finds p text false pos' found ∧ nonEmpty found = p.spansFrom text fuel pos'

theorem SearchedBehind.finds (later : SearchedBehind p text fuel pos) (inside : pos ≤ text.size)
    (leaves : ∀ e, p.foundEnd? text moves pos = some e → pos < e) :
    ∃ found, Finds p text moves pos found ∧
      nonEmpty found = p.spansBehind text fuel pos (p.foundEnd? text moves pos) := by
  cases hend : p.foundEnd? text moves pos with
  | none =>
      obtain ⟨found, hfinds, hspans⟩ := later (pos + 1) (Nat.lt_succ_self pos)
      exact ⟨found, .passed inside hend hfinds, hspans⟩
  | some e =>
      have hlt := leaves e hend
      obtain ⟨found, hfinds, hspans⟩ := later e hlt
      have hmoved : (e == pos) = false := beq_false_of_ne (Nat.ne_of_gt hlt)
      refine ⟨⟨pos, e⟩ :: found, .matched inside hend (hmoved ▸ hfinds), ?_⟩
      rw [nonEmpty_cons hlt, hspans]
      rfl

theorem SearchedBehind.step (later : SearchedBehind p text fuel pos)
    (inside : pos ≤ text.size) :
    ∃ found, Finds p text false pos found ∧ nonEmpty found = p.spansFrom text (fuel + 1) pos := by
  rw [spansFrom_succ, hiddenEnd?_eq]
  by_cases hstays : p.foundEnd? text false pos = some pos
  · -- An empty match: the one that is hidden in its place begins where it has ended.
    have hleaves (e : Nat) (hend : p.foundEnd? text true pos = some e) : pos < e :=
      (onward_of_foundEnd? hend).2 rfl
    obtain ⟨found, hfinds, hspans⟩ := later.finds inside hleaves
    refine ⟨⟨pos, pos⟩ :: found, .matched inside hstays ?_, ?_⟩
    · rwa [beq_self_eq_true]
    · rw [nonEmpty_cons_of_empty, hspans, hstays]
      dsimp only
      rw [if_neg (Nat.lt_irrefl pos)]
  · have hleaves (e : Nat) (hend : p.foundEnd? text false pos = some e) : pos < e := by
      rcases (onward_of_foundEnd? hend).1 with rfl | ⟨hlt, -⟩
      · exact (hstays hend).elim
      · exact hlt
    obtain ⟨found, hfinds, hspans⟩ := later.finds inside hleaves
    refine ⟨found, hfinds, ?_⟩
    rw [hspans]
    cases hend : p.foundEnd? text false pos with
    | none => rfl
    | some e =>
        dsimp only
        rw [if_pos (hleaves e hend)]

theorem exists_finds_of_size_le (h : text.size ≤ pos) :
    ∃ found, Finds p text false pos found ∧ nonEmpty found = [] := by
  have later : SearchedBehind p text 0 pos := fun pos' hlt => ⟨[], .ended (by omega), rfl⟩
  rcases Nat.eq_or_lt_of_le h with heq | hlt
  · obtain ⟨found, hfinds, hspans⟩ := later.step (Nat.le_of_eq heq.symm)
    rw [spansFrom_of_size_le h] at hspans
    exact ⟨found, hfinds, hspans⟩
  · exact ⟨[], .ended hlt, rfl⟩

theorem exists_finds (h : text.size ≤ pos + fuel) :
    ∃ found, Finds p text false pos found ∧ nonEmpty found = p.spansFrom text fuel pos := by
  induction fuel generalizing pos with
  | zero => exact exists_finds_of_size_le h
  | succ fuel ih =>
      rcases Nat.lt_or_ge pos text.size with hlt | hge
      · have later : SearchedBehind p text fuel pos := fun pos' hlt' => ih (by omega)
        exact later.step (Nat.le_of_lt hlt)
      · rw [spansFrom_of_size_le hge]
        exact exists_finds_of_size_le hge

/-! ## Where matches stand -/

def Span.Covers (s : Span) (i : Nat) : Prop :=
  s.first ≤ i ∧ i < s.last

theorem exists_covers_nonEmpty :
    (∃ s ∈ nonEmpty found, s.Covers i) ↔ ∃ s ∈ found, s.Covers i := by
  constructor
  · rintro ⟨s, hs, hcovers⟩
    exact ⟨s, (List.mem_filter.1 hs).1, hcovers⟩
  · rintro ⟨s, hs, hfirst, hlast⟩
    have hlt : s.first < s.last := Nat.lt_of_le_of_lt hfirst hlast
    exact ⟨s, List.mem_filter.2 ⟨hs, decide_eq_true hlt⟩, hfirst, hlast⟩

/-- The spans stand one behind the other from a place on, in a text of this size. -/
def InOrder (size : Nat) : (pos : Nat) → List Span → Prop
  | _, [] => True
  | pos, s :: rest => pos ≤ s.first ∧ s.first ≤ s.last ∧ s.last ≤ size ∧ InOrder size s.last rest

theorem InOrder.of_le (h : InOrder size j found) (hle : i ≤ j) : InOrder size i found := by
  cases found with
  | nil => trivial
  | cons s rest => exact ⟨Nat.le_trans hle h.1, h.2⟩

theorem InOrder.bounds (h : InOrder size pos found) {s : Span} (hs : s ∈ found) :
    pos ≤ s.first ∧ s.last ≤ size := by
  induction found generalizing pos with
  | nil => cases hs
  | cons s' rest ih =>
      obtain ⟨hfirst, hlast, hsize, hrest⟩ := h
      rcases List.mem_cons.1 hs with rfl | hs
      · exact ⟨hfirst, hsize⟩
      · have hbehind := ih hrest hs
        omega

theorem Finds.inOrder (h : Finds p text moves pos found) : InOrder text.size pos found := by
  induction h with
  | ended => trivial
  | passed _ _ _ ih => exact ih.of_le (Nat.le_succ _)
  | @matched moves pos e found inside ends rest ih =>
      obtain ⟨honward, -⟩ := onward_of_foundEnd? ends
      unfold Onward at honward
      exact ⟨Nat.le_refl pos, by dsimp only; omega, by dsimp only; omega, ih⟩

end Pattern

namespace Masker

open Pattern

/-- The text from a place on, with every one of the matches replaced by as many marks. -/
def substitute (mark : Char) (cs : List Char) : (pos : Nat) → List Span → List Char
  | pos, [] => cs.drop pos
  | pos, s :: rest =>
    (cs.drop pos).take (s.first - pos) ++ List.replicate (s.last - s.first) mark ++
      substitute mark cs s.last rest

section

variable (mark : Char) {cs : List Char} {pos i : Nat} {s : Span} {found rest : List Span}

theorem length_take_gap (h : InOrder cs.length pos (s :: rest)) :
    ((cs.drop pos).take (s.first - pos)).length = s.first - pos := by
  obtain ⟨hfirst, hlast, hsize, -⟩ := h
  rw [List.length_take, List.length_drop]
  omega

theorem getElem?_substitute_before (h : InOrder cs.length pos (s :: rest))
    (hi : pos + i < s.first) : (substitute mark cs pos (s :: rest))[i]? = cs[pos + i]? := by
  have hgap := length_take_gap h
  have hplace : i < s.first - pos := by omega
  rw [substitute, List.append_assoc, List.getElem?_append_left (by omega),
    List.getElem?_take_of_lt hplace, List.getElem?_drop]

theorem getElem?_substitute_inside (h : InOrder cs.length pos (s :: rest))
    (hcovers : s.Covers (pos + i)) :
    (substitute mark cs pos (s :: rest))[i]? = some mark := by
  have hgap := length_take_gap h
  obtain ⟨hfirst, -⟩ := h
  obtain ⟨hstart, hend⟩ := hcovers
  have hmarks : (List.replicate (s.last - s.first) mark).length = s.last - s.first :=
    List.length_replicate
  rw [substitute, List.append_assoc, List.getElem?_append_right (by omega), hgap,
    List.getElem?_append_left (by omega), List.getElem?_replicate, if_pos (by omega)]

theorem getElem?_substitute_behind (h : InOrder cs.length pos (s :: rest))
    (hi : s.last ≤ pos + i) :
    (substitute mark cs pos (s :: rest))[i]? =
      (substitute mark cs s.last rest)[pos + i - s.last]? := by
  have hgap := length_take_gap h
  obtain ⟨hfirst, hlast, -⟩ := h
  have hmarks : ((cs.drop pos).take (s.first - pos) ++
      List.replicate (s.last - s.first) mark).length = s.last - pos := by
    rw [List.length_append, hgap, List.length_replicate]
    omega
  have hplace : i - (s.last - pos) = pos + i - s.last := by omega
  rw [substitute, List.getElem?_append_right (by omega), hmarks, hplace]

/-- The places that matches cover show the mark, and all others the text. -/
theorem getElem?_substitute (h : InOrder cs.length pos found) (i : Nat) :
    ((∃ s ∈ found, s.Covers (pos + i)) → (substitute mark cs pos found)[i]? = some mark) ∧
      ((¬∃ s ∈ found, s.Covers (pos + i)) →
        (substitute mark cs pos found)[i]? = cs[pos + i]?) := by
  induction found generalizing pos i with
  | nil => simp [substitute]
  | cons s rest ih =>
      rcases Nat.lt_or_ge (pos + i) s.last with hi | hi
      · have hlater : ¬∃ s' ∈ rest, s'.Covers (pos + i) := by
          rintro ⟨s', hs', hstart, -⟩
          have hbounds := h.2.2.2.bounds hs'
          omega
        simp only [List.exists_mem_cons_iff, hlater, or_false]
        refine ⟨getElem?_substitute_inside mark h, fun hfree => ?_⟩
        have hbefore : pos + i < s.first := Nat.lt_of_not_le fun hstart => hfree ⟨hstart, hi⟩
        exact getElem?_substitute_before mark h hbefore
      · -- All places behind the first match are those of the rest.
        have hfree : ¬s.Covers (pos + i) := fun hcovers => Nat.not_lt_of_le hi hcovers.2
        have hplace : s.last + (pos + i - s.last) = pos + i := by omega
        have hrest := ih h.2.2.2 (pos + i - s.last)
        rw [hplace] at hrest
        simp only [List.exists_mem_cons_iff, hfree, false_or]
        rwa [getElem?_substitute_behind mark h hi]

end

/-- A masked value is the value with its matches replaced. -/
theorem toList_hide_eq_substitute (mark : Char) {p : Pattern} {value : String} {found : List Span}
    (h : Finds p value.toList.toArray false 0 found) :
    (hide mark p value).toList = substitute mark value.toList 0 found := by
  have hsize : value.toList.toArray.size ≤ 0 + value.toList.length := by simp
  obtain ⟨found', hfinds, hspans⟩ : ∃ found', Finds p value.toList.toArray false 0 found' ∧
      nonEmpty found' = p.spansFrom value.toList.toArray value.toList.length 0 :=
    exists_finds hsize
  obtain rfl := h.unique hfinds
  have horder : InOrder value.toList.length 0 found' := h.inOrder
  -- The spans that are hidden cover the same places as all matches do.
  have hcovered (i : Nat) :
      (∃ s ∈ p.spans value.toList.toArray, s.first ≤ 0 + i ∧ 0 + i < s.last) ↔
        ∃ s ∈ found', s.Covers (0 + i) := by
    have hspans : p.spans value.toList.toArray = nonEmpty found' := hspans.symm
    rw [hspans]
    exact exists_covers_nonEmpty
  rw [hide, String.toList_ofList]
  refine List.ext_getElem? fun i => ?_
  obtain ⟨hmark, hkept⟩ := getElem?_substitute mark horder i
  rw [getElem?_hideSpans]
  by_cases hcovers : ∃ s ∈ found', s.Covers (0 + i)
  · have hsize : i < value.toList.length := by
      obtain ⟨s, hs, -, hlast⟩ := hcovers
      have hbounds := horder.bounds hs
      omega
    rw [if_pos ((hcovered i).2 hcovers), hmark hcovers, List.getElem?_eq_getElem hsize]
    rfl
  · rw [if_neg (mt (hcovered i).1 hcovers), hkept hcovers, Nat.zero_add]

/-! ## Masks -/

theorem eq_of_make {email mobile mark : String} {characters : Text.CharacterNames} {m : Masker}
    (h : make email mobile mark characters = .ok m) :
    Pattern.parse characters email = .ok m.email ∧ Pattern.parse characters mobile = .ok m.mobile ∧
      mark = String.singleton m.mark := by
  unfold make at h
  split at h
  · next c hmark =>
      cases hemail : Pattern.parse characters email with
      | error e => rw [hemail] at h; cases h
      | ok p =>
          cases hmobile : Pattern.parse characters mobile with
          | error e => rw [hemail, hmobile] at h; cases h
          | ok q =>
              rw [hemail, hmobile] at h
              cases h
              refine ⟨rfl, rfl, String.toList_inj.1 ?_⟩
              rw [hmark, String.toList_singleton]
  · cases h

/-- The matches that a masker replaces in a value. -/
def Finds (m : Masker) (type : ChannelType) (value : String) (found : List Span) : Prop :=
  match type with
  | .email => m.email.Finds value.toList.toArray false 0 found
  | .sms => m.mobile.Finds value.toList.toArray false 0 found
  | .external => found = []

theorem exists_finds (m : Masker) (type : ChannelType) (value : String) :
    ∃ found, m.Finds type value found := by
  cases type with
  | external => exact ⟨[], rfl⟩
  | email | sms =>
      have hsize : value.toList.toArray.size ≤ 0 + value.toList.toArray.size :=
        Nat.le_add_left _ 0
      obtain ⟨found, hfinds, -⟩ := Pattern.exists_finds hsize
      exact ⟨found, hfinds⟩

theorem Finds.unique {m : Masker} {type : ChannelType} {value : String} {found found' : List Span}
    (h : m.Finds type value found) (h' : m.Finds type value found') : found' = found := by
  cases type with
  | email => exact Pattern.Finds.unique h h'
  | sms => exact Pattern.Finds.unique h h'
  | external => exact h'.trans h.symm

theorem Finds.inOrder {m : Masker} {type : ChannelType} {value : String} {found : List Span}
    (h : m.Finds type value found) : InOrder value.toList.length 0 found := by
  cases type with
  | email => exact Pattern.Finds.inOrder h
  | sms => exact Pattern.Finds.inOrder h
  | external =>
      obtain rfl : found = [] := h
      trivial

theorem toList_mask_eq_substitute {m : Masker} {type : ChannelType} {value : String}
    {found : List Span} (h : m.Finds type value found) :
    (m.mask type value).toList = substitute m.mark value.toList 0 found := by
  cases type with
  | email => exact toList_hide_eq_substitute m.mark h
  | sms => exact toList_hide_eq_substitute m.mark h
  | external =>
      obtain rfl : found = [] := h
      rfl

theorem length_mask (m : Masker) (type : ChannelType) (value : String) :
    (m.mask type value).length = value.length := by
  cases type with
  | email => exact length_hide _ _ _
  | sms => exact length_hide _ _ _
  | external => rfl

/-- Whatever patterns and mark a masker is made of, a masked value is as long as the value.  The
matches that are found in a value are determined, and each is replaced by as many marks; so every
place keeps its character or shows the mark, and it shows the mark just if a match covers it or the
mark stood there before.  Empty values and those of external channels are not changed. -/
theorem mask_hides_matches {email mobile mark : String} {characters : Text.CharacterNames}
    {m : Masker} (h : make email mobile mark characters = .ok m) (type : ChannelType)
    (value : String) :
    (Pattern.parse characters email = .ok m.email ∧
        Pattern.parse characters mobile = .ok m.mobile ∧ mark = String.singleton m.mark) ∧
      let masked := m.mask type value
      masked.length = value.length ∧ (value = "" ∨ type = .external → masked = value) ∧
        ∃ found, m.Finds type value found ∧ (∀ found', m.Finds type value found' → found' = found) ∧
          masked.toList = substitute m.mark value.toList 0 found ∧
          ∀ i < value.length,
            (masked.toList[i]? = value.toList[i]? ∨ masked.toList[i]? = some m.mark) ∧
              (masked.toList[i]? = some m.mark ↔
                (∃ s ∈ found, s.Covers i) ∨ value.toList[i]? = some m.mark) := by
  refine ⟨eq_of_make h, length_mask m type value, ?_, ?_⟩
  · rintro (rfl | rfl)
    · have hempty : (m.mask type "").length = 0 := length_mask m type ""
      rwa [String.length_eq_zero_iff] at hempty
    · rfl
  · obtain ⟨found, hfinds⟩ := m.exists_finds type value
    refine ⟨found, hfinds, fun _ => hfinds.unique, toList_mask_eq_substitute hfinds, fun i _ => ?_⟩
    obtain ⟨hmark, hkept⟩ := getElem?_substitute m.mark hfinds.inOrder i
    rw [Nat.zero_add] at hmark hkept
    rw [toList_mask_eq_substitute hfinds]
    by_cases hcovers : ∃ s ∈ found, s.Covers i
    · exact ⟨.inr (hmark hcovers), iff_of_true (hmark hcovers) (.inl hcovers)⟩
    · rw [hkept hcovers]
      exact ⟨.inl rfl, (or_iff_right hcovers).symm⟩

def runsAndPlaces : Pattern :=
  .alt (.repeated (.one (.char 98 .exact)) 1 none .greedy)
    (.look none false (.one (.char 97 .exact)))

theorem finds_runsAndPlaces :
    runsAndPlaces.Finds "abbab".toList.toArray false 0 [⟨0, 0⟩, ⟨1, 3⟩, ⟨3, 3⟩, ⟨4, 5⟩] :=
  have behind : runsAndPlaces.Finds "abbab".toList.toArray true 3 [⟨4, 5⟩] :=
    .passed (by decide) (by decide) (.matched (by decide) (by decide)
      (.passed (by decide) (by decide) (.ended (by decide))))
  .matched (by decide) (by decide) (.passed (by decide) (by decide)
    (.matched (by decide) (by decide) (.matched (by decide) (by decide) behind)))

theorem parse_runsAndPlaces (characters : Text.CharacterNames) :
    Pattern.parse characters "b+|(?=a)" = .ok runsAndPlaces := by
  cbv

/-- Matches of no characters, of several and next to each other: only the runs of `b` are hidden. -/
theorem mask_hides_matches_adjacent :
    ∃ m, make "b+|(?=a)" "b+|(?=a)" "#" = .ok m ∧
      let masked := (m.mask .email "abbab").toList
      masked[0]? ≠ some '#' ∧ masked[2]? = some '#' ∧ masked[3]? ≠ some '#' := by
  have hmake : make "b+|(?=a)" "b+|(?=a)" "#" = .ok ⟨runsAndPlaces, runsAndPlaces, '#'⟩ := by
    simp only [make, parse_runsAndPlaces]
    rfl
  obtain ⟨-, -, -, found, hfinds, -, -, hplace⟩ := mask_hides_matches hmake .email "abbab"
  obtain rfl := Pattern.Finds.unique finds_runsAndPlaces hfinds
  have hcovers (i : Nat) : (∃ s ∈ [⟨0, 0⟩, ⟨1, 3⟩, ⟨3, 3⟩, ⟨4, 5⟩], Span.Covers s i) ↔
      1 ≤ i ∧ i < 3 ∨ 4 ≤ i ∧ i < 5 := by
    simp only [List.mem_cons, List.not_mem_nil, or_false, exists_eq_or_imp, exists_eq_left,
      Span.Covers]
    omega
  have hshown (i : Nat) (hi : i < "abbab".length) (hother : "abbab".toList[i]? ≠ some '#') :
      (mask ⟨runsAndPlaces, runsAndPlaces, '#'⟩ .email "abbab").toList[i]? = some '#' ↔
        1 ≤ i ∧ i < 3 ∨ 4 ≤ i ∧ i < 5 := by
    rw [(hplace i hi).2, hcovers, or_iff_left hother]
  refine ⟨_, hmake, ?_, ?_, ?_⟩
  · rw [ne_eq, hshown 0 (by decide) (by decide)]
    decide
  · rw [hshown 2 (by decide) (by decide)]
    decide
  · rw [ne_eq, hshown 3 (by decide) (by decide)]
    decide

end Masker

end AccountRecovery
