import AccountRecovery.Account
import Mathlib.Data.List.Basic
/-!
# Upper case

The tables of the upper-case mapping give three facts: what is in upper case stays as it is
(`upper_upper`), no text becomes empty (`flatMap_upperChar_eq_nil`), and slashes neither come nor
go, so that a text may be cut at its first slash before or after (`cut?_upper`).

All three rest on one fact about the tables as sets of characters: no character that a mapping leads
to is mapped itself, or is a slash (`images_disjoint`).  For that the sets are written as numbers,
with a bit for each member.
-/

namespace AccountRecovery.Text

/-! ## Sets of characters as numbers -/

/-- The number that has the bits of a set, and no others. -/
def bits (ns : List Nat) : Nat :=
  ns.foldr (fun n m => 1 <<< n ||| m) 0

theorem testBit_bits (ns : List Nat) (n : Nat) : (bits ns).testBit n = decide (n ∈ ns) := by
  induction ns with
  | nil => simp [bits]
  | cons k ns ih =>
      change (1 <<< k ||| bits ns).testBit n = _
      rw [Nat.testBit_or, ih, Nat.one_shiftLeft, Nat.testBit_two_pow]
      simp [eq_comm]

theorem not_mem_of_bits {ns ms : List Nat} (h : bits ns &&& bits ms = 0) {n : Nat} (hn : n ∈ ns) :
    n ∉ ms := by
  have hbit : (bits ns &&& bits ms).testBit n = false := by simp [h]
  simpa [testBit_bits, hn] using hbit

/-! ## The characters that are mapped -/

def CaseRun.sources (r : CaseRun) : List Nat :=
  (List.range' r.first (r.last + 1 - r.first)).filter fun n => (n - r.first) % r.step = 0

def CaseRun.images (r : CaseRun) : List Nat :=
  r.sources.map fun n => r.image + (n - r.first)

theorem CaseRun.mem_of_map? {r : CaseRun} {n m : Nat} (h : r.map? n = some m) :
    n ∈ r.sources ∧ m ∈ r.images := by
  rw [map?, Option.ite_none_right_eq_some] at h
  obtain ⟨⟨hfirst, hlast, hstep⟩, heq⟩ := h
  have hsource : n ∈ r.sources := by
    rw [sources, List.mem_filter, List.mem_range'_1]
    exact ⟨by omega, by simp [hstep]⟩
  exact ⟨hsource, List.mem_map.2 ⟨n, hsource, Option.some.inj heq⟩⟩

def upperSources : List Nat :=
  List.range' 0x61 26 ++ upperExpansions.map Prod.fst ++ upperRuns.flatMap CaseRun.sources

def upperImages : List Nat :=
  List.range' 0x41 26 ++ upperExpansions.flatMap Prod.snd ++ upperRuns.flatMap CaseRun.images

theorem images_disjoint :
    bits (upperImages.map fun n => (Char.ofNat n).toNat) &&&
      bits (Account.separator.toNat :: upperSources) = 0 := by
  decide +kernel

theorem expansions_ne_nil : ∀ p ∈ upperExpansions, p.2 ≠ [] := by
  decide

theorem upperChar_cases (c : Char) :
    upperChar c = [c] ∨
      c.toNat ∈ upperSources ∧
        ∃ ns, ns ≠ [] ∧ (∀ n ∈ ns, n ∈ upperImages) ∧ upperChar c = ns.map Char.ofNat := by
  unfold upperChar
  dsimp only
  split
  · split
    · next hletter =>
        refine .inr ⟨?_, [c.toNat - 0x20], by simp, ?_, rfl⟩
        · rw [upperSources, List.append_assoc, List.mem_append, List.mem_range'_1]
          exact .inl (by omega)
        · rw [List.forall_mem_singleton, upperImages, List.append_assoc, List.mem_append,
            List.mem_range'_1]
          exact .inl (by omega)
    · exact .inl rfl
  · split
    · next ns hlookup =>
        obtain ⟨l₁, l₂, heq, -⟩ := List.lookup_eq_some_iff.1 hlookup
        have hmem : (c.toNat, ns) ∈ upperExpansions := by simp [heq]
        refine .inr ⟨?_, ns, expansions_ne_nil _ hmem, fun n hn => ?_, rfl⟩
        · simp only [upperSources, List.mem_append, List.mem_map]
          exact .inl (.inr ⟨_, hmem, rfl⟩)
        · simp only [upperImages, List.mem_append, List.mem_flatMap]
          exact .inl (.inr ⟨_, hmem, hn⟩)
    · cases hrun : upperRuns.findSome? (·.map? c.toNat) with
      | none => exact .inl rfl
      | some m =>
          obtain ⟨r, hr, hmap⟩ := List.exists_of_findSome?_eq_some hrun
          obtain ⟨hsource, himage⟩ := CaseRun.mem_of_map? hmap
          refine .inr ⟨?_, [m], by simp, ?_, rfl⟩
          · simp only [upperSources, List.mem_append, List.mem_flatMap]
            exact .inr ⟨r, hr, hsource⟩
          · simp only [List.forall_mem_singleton, upperImages, List.mem_append, List.mem_flatMap]
            exact .inr ⟨r, hr, himage⟩

/-- What a character is mapped to is not mapped itself, and it is no slash. -/
theorem image_not_mem {n : Nat} (h : n ∈ upperImages) :
    (Char.ofNat n).toNat ∉ Account.separator.toNat :: upperSources :=
  not_mem_of_bits images_disjoint (List.mem_map_of_mem h)

/-! ## Characters in upper case -/

variable {c d : Char}

theorem upperChar_ne_nil (c : Char) : upperChar c ≠ [] := by
  rcases upperChar_cases c with h | ⟨-, ns, hne, -, h⟩
  · simp [h]
  · simpa [h] using hne

theorem upperChar_of_mem (hd : d ∈ upperChar c) : upperChar d = [d] := by
  rcases upperChar_cases c with h | ⟨-, ns, -, himages, h⟩
  · rw [h, List.mem_singleton] at hd
    rw [hd, h]
  · rw [h, List.mem_map] at hd
    obtain ⟨n, hn, rfl⟩ := hd
    have hfixed := image_not_mem (himages n hn)
    rw [List.mem_cons, not_or] at hfixed
    exact (upperChar_cases _).resolve_right fun hmapped => hfixed.2 hmapped.1

@[simp] theorem upperChar_separator : upperChar Account.separator = [Account.separator] := by
  decide

theorem separator_mem_upperChar : Account.separator ∈ upperChar c ↔ c = Account.separator := by
  constructor
  · intro hmem
    rcases upperChar_cases c with h | ⟨-, ns, -, himages, h⟩
    · rw [h, List.mem_singleton] at hmem
      exact hmem.symm
    · rw [h, List.mem_map] at hmem
      obtain ⟨n, hn, heq⟩ := hmem
      have hslash := image_not_mem (himages n hn)
      rw [heq] at hslash
      exact (hslash List.mem_cons_self).elim
  · rintro rfl
    simp

/-! ## Texts in upper case -/

@[simp] theorem toList_upper (s : String) : (upper s).toList = s.toList.flatMap upperChar := by
  simp [upper]

theorem flatMap_upperChar (cs : List Char) :
    (cs.flatMap upperChar).flatMap upperChar = cs.flatMap upperChar := by
  rw [List.flatMap_assoc]
  refine List.flatMap_congr fun c _ => ?_
  calc (upperChar c).flatMap upperChar
      = (upperChar c).flatMap ([·]) := List.flatMap_congr fun d hd => upperChar_of_mem hd
    _ = upperChar c := List.flatMap_singleton' _

@[simp] theorem upper_upper (s : String) : upper (upper s) = upper s := by
  rw [← String.toList_inj, toList_upper, toList_upper, flatMap_upperChar]

theorem flatMap_upperChar_eq_nil {cs : List Char} : cs.flatMap upperChar = [] ↔ cs = [] := by
  cases cs with
  | nil => simp
  | cons c cs => simp [upperChar_ne_nil]

theorem separator_mem_flatMap {cs : List Char} :
    Account.separator ∈ cs.flatMap upperChar ↔ Account.separator ∈ cs := by
  simp [List.mem_flatMap, separator_mem_upperChar]

theorem upper_eq_empty_iff {s : String} : upper s = "" ↔ s = "" := by
  rw [← String.toList_eq_nil_iff, toList_upper, flatMap_upperChar_eq_nil, String.toList_eq_nil_iff]

theorem separator_mem_upper {s : String} :
    Account.separator ∈ (upper s).toList ↔ Account.separator ∈ s.toList := by
  rw [toList_upper, separator_mem_flatMap]

theorem cut?_append_of_not_mem {sep : Char} {l : List Char} (h : sep ∉ l) (cs : List Char) :
    cut? sep (l ++ cs) = (cut? sep cs).map fun p => (l ++ p.1, p.2) := by
  induction l with
  | nil => simp
  | cons c l ih =>
      rw [List.mem_cons, not_or] at h
      rw [List.cons_append, cut?, if_neg (Ne.symm h.1), ih h.2, Option.map_map]
      rfl

/-- A text in upper case is cut where the text itself is. -/
theorem cut?_upper (cs : List Char) :
    cut? Account.separator (cs.flatMap upperChar) =
      (cut? Account.separator cs).map fun p => (p.1.flatMap upperChar, p.2.flatMap upperChar) := by
  induction cs with
  | nil => rfl
  | cons c cs ih =>
      rw [List.flatMap_cons]
      by_cases hc : c = Account.separator
      · subst hc
        simp [cut?]
      · have hnot : Account.separator ∉ upperChar c := fun h => hc (separator_mem_upperChar.1 h)
        rw [cut?_append_of_not_mem hnot, ih, cut?, if_neg hc, Option.map_map, Option.map_map]
        rfl

end AccountRecovery.Text
