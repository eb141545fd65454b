import AccountRecovery.Proofs.Addresses
/-!
# What the default pattern hides of a number

The default pattern for numbers matches one character, if four more follow it on its line
(`FourFollow`).  So all characters of a number but the last four are hidden.  A line feed is never
hidden, nor is any of the four characters in front of it (`default_mask_of_number`).
-/

namespace AccountRecovery

namespace Pattern

variable {cs : List Char} {i j : Nat}

/-- Behind the place there are four more characters, and neither it nor they hold a line feed. -/
def FourFollow (cs : List Char) (i : Nat) : Prop :=
  i + 4 < cs.length ∧ ∀ d ≤ 4, cs[i + d]? ≠ some '\n'

instance : Decidable (FourFollow cs i) :=
  inferInstanceAs (Decidable (_ ∧ _))

def numberPattern : Pattern :=
  .seq (.one (.any false)) (.look none false (.repeated (.one (.any false)) 4 (some 4) .greedy))

theorem throughout_any (hle : j ≤ cs.length) :
    Throughout cs (.any false) i j ↔ ∀ h, i ≤ h → h < j → cs[h]? ≠ some '\n' := by
  constructor
  · intro hthrough h hi hj
    obtain ⟨c, hc, hholds⟩ := hthrough h hi hj
    rw [hc, ne_eq, Option.some.injEq]
    exact CharTest.holds_any.1 hholds
  · intro hfree h hi hj
    have hc : cs[h]? = some cs[h] := List.getElem?_eq_getElem (Nat.lt_of_lt_of_le hj hle)
    have hfeed := hfree h hi hj
    rw [hc, ne_eq, Option.some.injEq] at hfeed
    exact ⟨cs[h], hc, CharTest.holds_any.2 hfeed⟩

theorem Throughout.le_length {test : CharTest} (h : Throughout cs test i j) (hlt : i < j) :
    j ≤ cs.length := by
  obtain ⟨c, hc, -⟩ := h (j - 1) (by omega) (by omega)
  obtain ⟨hlast, -⟩ := List.getElem?_eq_some_iff.1 hc
  omega

theorem fourFollow_iff : FourFollow cs i ↔ Throughout cs (.any false) i (i + 5) := by
  constructor
  · rintro ⟨hlength, hfree⟩
    refine (throughout_any hlength).2 fun h hi hj => ?_
    have hplace : i + (h - i) = h := Nat.add_sub_cancel' hi
    rw [← hplace]
    exact hfree (h - i) (by omega)
  · intro hthrough
    have hlength : i + 5 ≤ cs.length := hthrough.le_length (by omega)
    refine ⟨hlength, fun d hd => ?_⟩
    exact (throughout_any hlength).1 hthrough (i + d) (by omega) (by omega)

theorem reaches_numberPattern :
    Reaches cs.toArray numberPattern i j ↔ j = i + 1 ∧ FourFollow cs i := by
  rw [fourFollow_iff]
  constructor
  · rintro ⟨_, hhere, hahead⟩
    obtain ⟨rfl, c, hc, hholds⟩ := reaches_one.1 hhere
    obtain ⟨rfl, k, hrepeated⟩ := reaches_ahead.1 hahead
    obtain ⟨hle, -, hover⟩ := reaches_repeated_one.1 hrepeated
    refine ⟨rfl, fun h hi hj => ?_⟩
    rcases Nat.eq_or_lt_of_le hi with rfl | hlt
    · exact ⟨c, hc, hholds⟩
    · exact hover h hlt (by omega)
  · rintro ⟨rfl, hthrough⟩
    have hhere := hthrough i (Nat.le_refl i) (by omega)
    refine ⟨i + 1, reaches_one.2 ⟨rfl, hhere⟩, reaches_ahead.2 ⟨rfl, i + 5, ?_⟩⟩
    refine reaches_repeated_one.2 ⟨Nat.le_refl _, fun b _ => ?_, fun h hi hj => ?_⟩
    · have hnone : i + 5 - (i + 1 + 4) = 0 := by omega
      rw [hnone]
      exact Nat.zero_le b
    · exact hthrough h (by omega) hj

theorem single_numberPattern (cs : List Char) : Single cs.toArray numberPattern where
  plain := by decide
  width h := (reaches_numberPattern.1 h).1

end Pattern

namespace Masker

open Pattern

variable {number masked : List Char} {mark : Char}

/-- Where the places in front of the last four characters are hidden and no others, these are left.
-/
theorem eq_of_fourFollow_iff (hlength : masked.length = number.length)
    (hplaces : ∀ i < number.length, (FourFollow number i → masked[i]? = some mark) ∧
      (¬FourFollow number i → masked[i]? = number[i]?))
    (hiff : ∀ i, FourFollow number i ↔ i + 4 < number.length) :
    masked = List.replicate (number.length - 4) mark ++ number.drop (number.length - 4) := by
  refine List.ext_getElem? fun i => ?_
  rcases Nat.lt_or_ge i number.length with hi | hi
  · obtain ⟨hmark, hkept⟩ := hplaces i hi
    rcases Nat.lt_or_ge i (number.length - 4) with hfront | hback
    · have hfollow : FourFollow number i := (hiff i).2 (by omega)
      rw [hmark hfollow, List.getElem?_append_left (by simpa using hfront),
        List.getElem?_replicate, if_pos hfront]
    · have hlast : ¬FourFollow number i := fun h => by
        have hlt := (hiff i).1 h
        omega
      have hplace : number.length - 4 + (i - (number.length - 4)) = i := by omega
      rw [hkept hlast, List.getElem?_append_right (by simpa using hback),
        List.length_replicate, List.getElem?_drop, hplace]
  · rw [List.getElem?_eq_none (by omega), List.getElem?_eq_none]
    rw [List.length_append, List.length_replicate, List.length_drop]
    omega

theorem getElem?_hide_number (mark : Char) (number : String) {i : Nat}
    (hi : i < number.toList.length) :
    (FourFollow number.toList i → (hide mark numberPattern number).toList[i]? = some mark) ∧
      (¬FourFollow number.toList i →
        (hide mark numberPattern number).toList[i]? = number.toList[i]?) := by
  have hhidden : FourFollow number.toList i ↔
      Reaches number.toList.toArray numberPattern i (i + 1) := by
    rw [reaches_numberPattern]
    exact (and_iff_right rfl).symm
  obtain ⟨hmark, hkept⟩ := getElem?_hide (single_numberPattern number.toList) mark i
  rw [hhidden]
  refine ⟨fun h => ?_, hkept⟩
  rw [hmark h, List.getElem?_eq_getElem hi, Option.map_some]

theorem toList_hide_number (mark : Char) {number : String}
    (hiff : ∀ i, FourFollow number.toList i ↔ i + 4 < number.toList.length) :
    (hide mark numberPattern number).toList =
      List.replicate (number.length - 4) mark ++ number.toList.drop (number.length - 4) := by
  have hlength : (hide mark numberPattern number).toList.length = number.toList.length := by
    rw [String.length_toList, length_hide, String.length_toList]
  rw [← String.length_toList]
  exact eq_of_fourFollow_iff hlength (fun i hi => getElem?_hide_number mark number hi) hiff

/-- With the default pattern for numbers, any readable pattern for addresses and any mark there is a
masker.  A masked number is as long as the number; it has the mark in all places that four
characters follow on their line, and the character of the number in all others.  So on a single line
all characters but the last four are hidden, and four characters or fewer are left as they are. -/
theorem default_mask_of_number {characters : Text.CharacterNames} {email : String}
    {address : Pattern} (hemail : Pattern.parse characters email = .ok address) (mark : Char) :
    ∃ m, make email defaultMobilePattern (String.singleton mark) characters = .ok m ∧
      ∀ number : String,
        let cs := number.toList
        let masked := m.mask .sms number
        masked.length = number.length ∧
          (∀ i < number.length,
            (FourFollow cs i → masked.toList[i]? = some mark) ∧
              (¬FourFollow cs i → masked.toList[i]? = cs[i]?)) ∧
          ('\n' ∉ cs → masked.toList =
            List.replicate (number.length - 4) mark ++ cs.drop (number.length - 4)) ∧
          (number.length ≤ 4 → masked = number) := by
  have hmake : make email defaultMobilePattern (String.singleton mark) characters =
      .ok ⟨address, numberPattern, mark⟩ := by
    simp only [make, String.toList_singleton, hemail, parse_defaultMobilePattern]
    rfl
  refine ⟨_, hmake, fun number => ?_⟩
  refine ⟨length_hide mark numberPattern number, fun i hi => ?_, fun hfeed => ?_, fun hshort => ?_⟩
  · rw [← String.length_toList] at hi
    exact getElem?_hide_number mark number hi
  · refine toList_hide_number mark fun i => ⟨And.left, fun hlt => ⟨hlt, fun d _ hd => ?_⟩⟩
    exact hfeed (List.mem_of_getElem? hd)
  · have hsize : number.toList.length ≤ 4 := by rwa [String.length_toList]
    have hnone (i : Nat) : FourFollow number.toList i ↔ i + 4 < number.toList.length := by
      refine iff_of_false (fun h => ?_) (by omega)
      have hlt := h.1
      omega
    refine String.toList_inj.1 ((toList_hide_number mark hnone).trans ?_)
    rw [Nat.sub_eq_zero_of_le hshort, List.replicate_zero, List.nil_append, List.drop_zero]

/-- Two lines: of each the last four characters are left, and so is the line feed. -/
theorem default_mask_of_number_lines :
    Pattern.parse Text.asciiByName defaultEmailPattern =
        .ok (.alt localPattern domainPattern) ∧
      ∃ m, make defaultEmailPattern defaultMobilePattern "#" = .ok m ∧
        let masked := (m.mask .sms "12345\n678901").toList
        masked[0]? = some '#' ∧ masked[1]? = some '2' ∧ masked[5]? = some '\n' ∧
          masked[7]? = some '#' ∧ masked[8]? = some '8' := by
  refine ⟨parse_defaultEmailPattern _, ?_⟩
  obtain ⟨m, hm, hmask⟩ := default_mask_of_number (parse_defaultEmailPattern Text.asciiByName) '#'
  obtain ⟨-, hplace, -⟩ := hmask "12345\n678901"
  exact ⟨m, hm, (hplace 0 (by decide)).1 (by decide), (hplace 1 (by decide)).2 (by decide),
    (hplace 5 (by decide)).2 (by decide), (hplace 7 (by decide)).1 (by decide),
    (hplace 8 (by decide)).2 (by decide)⟩

end Masker

end AccountRecovery
