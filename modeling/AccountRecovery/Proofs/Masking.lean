import AccountRecovery.Channel.Masking
import AccountRecovery.Proofs.Matching
/-!
# What masking hides

A masked value differs from the value only in the places that a match covers (`getElem?_hideSpans`).
If the matches of a pattern are single characters, these are the places that the pattern leads on
from, and the search from left to right plays no part (`getElem?_hide`).
-/

namespace AccountRecovery

namespace Pattern

variable {text : Array Char} {p : Pattern} {i j : Nat}

/-! ## Matches of one character -/

/-- A pattern whose matches in a text are single characters. -/
structure Single (text : Array Char) (p : Pattern) : Prop where
  plain : p.isPlain = true
  width : ∀ {i j}, Reaches text p i j → j = i + 1

theorem Single.hiddenEnd?_eq_some_iff (h : Single text p) :
    p.hiddenEnd? text i = some j ↔ j = i + 1 ∧ Reaches text p i (i + 1) := by
  rw [hiddenEnd?]
  cases hend : p.matchEnd? text i fun _ => true with
  | none =>
      have hnone : ¬Reaches text p i (i + 1) := by
        intro hreaches
        have hsome := isSome_matchEnd? h.plain hreaches (fun _ => true) rfl
        rw [hend] at hsome
        cases hsome
      simp [hnone]
  | some e =>
      obtain ⟨hreaches, -⟩ := reaches_of_matchEnd? h.plain hend
      obtain rfl := h.width hreaches
      simp [hreaches, eq_comm]

theorem Single.mem_spansFrom (h : Single text p) {fuel pos : Nat} {s : Span} :
    s ∈ p.spansFrom text fuel pos ↔
      ∃ d < fuel, Reaches text p (pos + d) (pos + d + 1) ∧ s = ⟨pos + d, pos + d + 1⟩ := by
  induction fuel generalizing pos with
  | zero => simp [spansFrom]
  | succ fuel ih =>
      -- A match ends at the next place, so the search goes on there with or without one.
      have hsearch : s ∈ p.spansFrom text (fuel + 1) pos ↔
          (Reaches text p pos (pos + 1) ∧ s = ⟨pos, pos + 1⟩) ∨
            s ∈ p.spansFrom text fuel (pos + 1) := by
        rw [spansFrom]
        cases hend : p.hiddenEnd? text pos with
        | none =>
            have hnone : ¬Reaches text p pos (pos + 1) := by
              intro hreaches
              rw [h.hiddenEnd?_eq_some_iff.2 ⟨rfl, hreaches⟩] at hend
              cases hend
            simp [hnone]
        | some e =>
            obtain ⟨rfl, hreaches⟩ := h.hiddenEnd?_eq_some_iff.1 hend
            simp [hreaches]
      rw [hsearch, ih]
      constructor
      · rintro (⟨hreaches, rfl⟩ | ⟨d, hd, hreaches, rfl⟩)
        · exact ⟨0, Nat.zero_lt_succ fuel, hreaches, rfl⟩
        · have hplace : pos + 1 + d = pos + (d + 1) := by omega
          rw [hplace] at hreaches ⊢
          exact ⟨d + 1, Nat.succ_lt_succ hd, hreaches, rfl⟩
      · rintro ⟨d, hd, hreaches, rfl⟩
        cases d with
        | zero => exact .inl ⟨hreaches, rfl⟩
        | succ d =>
            have hplace : pos + (d + 1) = pos + 1 + d := by omega
            rw [hplace] at hreaches ⊢
            exact .inr ⟨d, Nat.lt_of_succ_lt_succ hd, hreaches, rfl⟩

end Pattern

namespace Masker

open Pattern

theorem getElem?_hideSpans (mark : Char) (pos : Nat) (spans : List Span) (cs : List Char)
    (i : Nat) :
    (hideSpans mark pos spans cs)[i]? =
      if ∃ s ∈ spans, s.first ≤ pos + i ∧ pos + i < s.last then cs[i]?.map fun _ => mark
      else cs[i]? := by
  induction cs generalizing pos i with
  | nil => simp [hideSpans]
  | cons c cs ih =>
      cases i with
      | zero =>
          simp only [hideSpans, List.getElem?_cons_zero, Nat.add_zero, Option.map_some,
            List.any_eq_true, Bool.and_eq_true, decide_eq_true_eq]
          split <;> rfl
      | succ i =>
          have hplace : pos + 1 + i = pos + (i + 1) := by omega
          rw [hideSpans, List.getElem?_cons_succ, List.getElem?_cons_succ, ih, hplace]

theorem length_hide (mark : Char) (p : Pattern) (value : String) :
    (hide mark p value).length = value.length := by
  rw [hide, ← String.length_toList, String.toList_ofList, length_hideSpans, String.length_toList]

/-- With matches of single characters, a place is hidden if and only if the pattern leads on from
it. -/
theorem getElem?_hide {p : Pattern} {value : String} (h : Single value.toList.toArray p)
    (mark : Char) (i : Nat) :
    (Reaches value.toList.toArray p i (i + 1) →
        (hide mark p value).toList[i]? = value.toList[i]?.map fun _ => mark) ∧
      (¬Reaches value.toList.toArray p i (i + 1) →
        (hide mark p value).toList[i]? = value.toList[i]?) := by
  have hcovered : (∃ s ∈ p.spans value.toList.toArray, s.first ≤ 0 + i ∧ 0 + i < s.last) ↔
      Reaches value.toList.toArray p i (i + 1) := by
    constructor
    · rintro ⟨s, hs, hfirst, hlast⟩
      obtain ⟨d, hd, hreaches, rfl⟩ := h.mem_spansFrom.1 hs
      dsimp only at hfirst hlast
      have hplace : 0 + d = i := by omega
      rwa [hplace] at hreaches
    · intro hreaches
      have hsize : i < value.toList.toArray.size := by
        rcases forward_reaches _ _ _ _ hreaches with heq | ⟨-, hle⟩
        · omega
        · exact hle
      refine ⟨⟨i, i + 1⟩, h.mem_spansFrom.2 ⟨i, hsize, ?_⟩, by simp, by simp⟩
      rw [Nat.zero_add]
      exact ⟨hreaches, rfl⟩
  have hget := getElem?_hideSpans mark 0 (p.spans value.toList.toArray) value.toList i
  rw [hide, String.toList_ofList]
  constructor
  · intro hreaches
    rw [hget, if_pos (hcovered.2 hreaches)]
  · intro hnot
    rw [hget, if_neg (mt hcovered.1 hnot)]

end Masker

end AccountRecovery
