import AccountRecovery.Proofs.Masking
import Mathlib
/-!
# What the default pattern hides of an address

The default pattern for addresses has two alternatives, each of which matches one character.  The
first one is for characters in front of an at sign (`InLocalPart`), the second one for those behind
the last at sign and in front of the last dot (`InDomain`).  What either looks for at a distance is
said by the first place of a sign behind a place (`exists_first`) or by what the rest of the text is
free of.
-/

namespace AccountRecovery

/-! ## Conditions on one character -/

namespace CharTest

def only (d : Char) : CharTest :=
  .char d.toNat .exact

def noneOf (ds : List Char) : CharTest :=
  .set true (ds.map fun d => .char d.toNat) .exact

variable {c d : Char} {ds : List Char}

@[simp] theorem holds_any : (any false).holds c = true ↔ c ≠ '\n' := by
  simp [holds]

@[simp] theorem holds_only : (only d).holds c = true ↔ c = d := by
  simp [only, holds, Casing.variants, Char.toNat_inj]

@[simp] theorem holds_noneOf : (noneOf ds).holds c = true ↔ c ∉ ds := by
  have hitems : (ds.map fun d => SetItem.char d.toNat).any (·.holds .exact c) = true ↔ c ∈ ds := by
    simp [SetItem.holds, Casing.variants, Char.toNat_inj]
  rw [noneOf, holds, bne_iff_ne, ne_eq, Bool.not_eq_true, ← Bool.not_eq_true, hitems]

end CharTest

namespace Pattern

variable {cs : List Char} {test : CharTest} {i j n : Nat}

/-- The places from one up to but without another have characters that meet a condition. -/
def Throughout (cs : List Char) (test : CharTest) (i j : Nat) : Prop :=
  ∀ h, i ≤ h → h < j → ∃ c, cs[h]? = some c ∧ test.holds c = true

theorem reaches_one : Reaches cs.toArray (.one test) i j ↔
    j = i + 1 ∧ ∃ c, cs[i]? = some c ∧ test.holds c = true := by
  simp [Reaches]

theorem chain_one : Chain (Reaches cs.toArray (.one test)) n i j ↔
    j = i + n ∧ Throughout cs test i j := by
  induction n generalizing i with
  | zero =>
      refine ⟨?_, And.left⟩
      rintro rfl
      exact ⟨rfl, fun h hle hlt => absurd hlt (Nat.not_lt.2 hle)⟩
  | succ n ih =>
      constructor
      · rintro ⟨m, hfirst, hrest⟩
        obtain ⟨rfl, hc⟩ := reaches_one.1 hfirst
        obtain ⟨rfl, hthrough⟩ := ih.1 hrest
        refine ⟨by omega, fun h hle hlt => ?_⟩
        rcases Nat.eq_or_lt_of_le hle with rfl | hgt
        · exact hc
        · exact hthrough h hgt hlt
      · rintro ⟨rfl, hthrough⟩
        refine ⟨i + 1, reaches_one.2 ⟨rfl, ?_⟩, ih.2 ⟨by omega, fun h hle hlt => ?_⟩⟩
        · exact hthrough i (Nat.le_refl i) (by omega)
        · exact hthrough h (by omega) hlt

theorem reaches_repeated_one {least : Nat} {greatest : Option Nat} {greed : Greed} :
    Reaches cs.toArray (.repeated (.one test) least greatest greed) i j ↔
      i + least ≤ j ∧ Within (greatest.map (· - least)) (j - (i + least)) ∧
        Throughout cs test i j := by
  rw [Reaches]
  constructor
  · rintro ⟨m, hfirst, n, hn, hrest⟩
    obtain ⟨rfl, hfirst⟩ := chain_one.1 hfirst
    obtain ⟨rfl, hrest⟩ := chain_one.1 hrest
    refine ⟨by omega, by rwa [Nat.add_sub_cancel_left], fun h hle hlt => ?_⟩
    by_cases hh : h < i + least
    · exact hfirst h hle hh
    · exact hrest h (Nat.not_lt.1 hh) hlt
  · rintro ⟨hle, hwithin, hthrough⟩
    refine ⟨i + least, chain_one.2 ⟨rfl, fun h hi hlt => hthrough h hi (by omega)⟩,
      j - (i + least), hwithin, chain_one.2 ⟨by omega, fun h hi hlt => hthrough h (by omega) hlt⟩⟩

theorem reaches_ahead {p : Pattern} :
    Reaches cs.toArray (.look none false p) i j ↔ j = i ∧ ∃ m, Reaches cs.toArray p i m := by
  simp [Reaches]

theorem reaches_behind {negated : Bool} :
    Reaches cs.toArray (.look (some 1) negated (.one test)) i j ↔
      j = i ∧ ((1 ≤ i ∧ ∃ c, cs[i - 1]? = some c ∧ test.holds c = true) ↔ negated = false) := by
  rw [Reaches, Option.getD_some]
  simp only [reaches_one, exists_eq_left]

/-! ## The two alternatives -/

/-- A character in front of an at sign, but not at the start of a line. -/
def localPattern : Pattern :=
  .seq (.look (some 1) false (.one (.any false)))
    (.seq (.one (.noneOf ['@'])) (.look none false
      (.seq (.repeated (.one (.noneOf ['@'])) 0 none .greedy) (.one (.only '@')))))

/-- The rest of a text without an at sign, with its last dot somewhere in front of its end. -/
def restPattern : Pattern :=
  .seq (.repeated (.one (.noneOf ['@'])) 0 none .greedy)
    (.seq (.one (.only '.'))
      (.seq (.repeated (.one (.noneOf ['@', '.'])) 1 none .greedy) (.anchor .lastLineEnd)))

/-- A character in front of the last dot, but not right behind an at sign. -/
def domainPattern : Pattern :=
  .seq (.look (some 1) true (.one (.only '@')))
    (.seq (.one (.noneOf ['@', '.'])) (.look none false restPattern))

theorem parse_defaultEmailPattern (characters : Text.CharacterNames) :
    parse characters Masker.defaultEmailPattern = .ok (.alt localPattern domainPattern) := by
  cbv

/-! ## What is looked for ahead -/

theorem exists_of_lt {k : Nat} {d : Char} (hk : cs[k]? = some d) (hlt : i < k) :
    ∃ c, cs[i]? = some c := by
  obtain ⟨hsize, -⟩ := List.getElem?_eq_some_iff.1 hk
  exact ⟨cs[i], List.getElem?_eq_getElem (Nat.lt_trans hlt hsize)⟩

theorem exists_first {d : Char} :
    (∃ h, i ≤ h ∧ Throughout cs (.noneOf [d]) i h ∧ cs[h]? = some d) ↔
      ∃ h, i ≤ h ∧ cs[h]? = some d := by
  constructor
  · rintro ⟨h, hle, -, hd⟩
    exact ⟨h, hle, hd⟩
  · intro hex
    obtain ⟨hle, hd⟩ := Nat.find_spec hex
    refine ⟨Nat.find hex, hle, fun g hg hlt => ?_, hd⟩
    obtain ⟨c, hc⟩ := exists_of_lt hd hlt
    refine ⟨c, hc, CharTest.holds_noneOf.2 fun hmem => ?_⟩
    rw [List.mem_singleton] at hmem
    exact Nat.find_min hex hlt ⟨hg, by rw [hc, hmem]⟩

/-- A look at the last line ends, over other characters than some, exactly if none of these is
ahead: a line feed at the end of the text is not among them. -/
theorem exists_lastLineEnd (cs : List Char) {ds : List Char} (hds : '\n' ∉ ds) :
    (∃ q, i < q ∧ Throughout cs (.noneOf ds) i q ∧ Anchor.lastLineEnd.holds cs.toArray q = true) ↔
      i < cs.length ∧ ∀ h, i ≤ h → ∀ d ∈ ds, cs[h]? ≠ some d := by
  constructor
  · rintro ⟨q, hlt, hthrough, hend⟩
    have hend : q = cs.length ∨ q + 1 = cs.length ∧ cs[q]? = some '\n' := by
      simpa [Anchor.holds] using hend
    have hq : q ≤ cs.length := hend.elim Nat.le_of_eq fun h => Nat.le_of_succ_le (Nat.le_of_eq h.1)
    refine ⟨Nat.lt_of_lt_of_le hlt hq, fun h hle d hd heq => ?_⟩
    -- From `q` on there is at most a line feed, and that is none of them.
    by_cases hbefore : h < q
    · obtain ⟨c, hc, hholds⟩ := hthrough h hle hbefore
      rw [heq, Option.some.injEq] at hc
      exact CharTest.holds_noneOf.1 hholds (hc ▸ hd)
    · obtain ⟨hsize, -⟩ := List.getElem?_eq_some_iff.1 heq
      rcases hend with rfl | ⟨hlast, hfeed⟩
      · exact hbefore hsize
      · have hhere : h = q := by omega
        rw [hhere, hfeed, Option.some.injEq] at heq
        exact hds (heq ▸ hd)
  · rintro ⟨hsize, hfree⟩
    refine ⟨cs.length, hsize, fun h hle hlt => ?_, by simp [Anchor.holds]⟩
    have hc : cs[h]? = some cs[h] := List.getElem?_eq_getElem hlt
    exact ⟨cs[h], hc, CharTest.holds_noneOf.2 fun hmem => hfree h hle _ hmem hc⟩

/-! ## The places that are hidden -/

/-- The place is in front of an at sign.  It is not one itself, nor is it the first of a line. -/
def InLocalPart (cs : List Char) (i : Nat) : Prop :=
  (∃ k, i < k ∧ cs[k]? = some '@') ∧ cs[i]? ≠ some '@' ∧ 1 ≤ i ∧ cs[i - 1]? ≠ some '\n'

/-- The place is behind the last at sign, but not right behind it, and in front of the last dot,
which does not end the text.  It is not a dot itself. -/
def InDomain (cs : List Char) (i : Nat) : Prop :=
  (∀ k, i ≤ k → cs[k]? ≠ some '@') ∧ cs[i]? ≠ some '.' ∧ (i = 0 ∨ cs[i - 1]? ≠ some '@') ∧
    ∃ k, i < k ∧ k + 1 < cs.length ∧ cs[k]? = some '.' ∧ ∀ h, k < h → cs[h]? ≠ some '.'

theorem mem_drop_iff {d : Char} : d ∈ cs.drop i ↔ ∃ k, i ≤ k ∧ cs[k]? = some d := by
  rw [List.mem_iff_getElem?]
  constructor
  · rintro ⟨n, hn⟩
    rw [List.getElem?_drop] at hn
    exact ⟨i + n, Nat.le_add_right i n, hn⟩
  · rintro ⟨k, hle, hk⟩
    refine ⟨k - i, ?_⟩
    rwa [List.getElem?_drop, Nat.add_sub_cancel' hle]

instance : Decidable (InLocalPart cs i) :=
  decidable_of_iff
    ('@' ∈ cs.drop (i + 1) ∧ cs[i]? ≠ some '@' ∧ 1 ≤ i ∧ cs[i - 1]? ≠ some '\n')
    (and_congr_left' mem_drop_iff)

instance : Decidable (InDomain cs i) :=
  decidable_of_iff
    ('@' ∉ cs.drop i ∧ cs[i]? ≠ some '.' ∧ (i = 0 ∨ cs[i - 1]? ≠ some '@') ∧
      ∃ k < cs.length, i < k ∧ k + 1 < cs.length ∧ cs[k]? = some '.' ∧ '.' ∉ cs.drop (k + 1)) <| by
    simp only [InDomain, mem_drop_iff, not_exists, not_and]
    refine and_congr_right' (and_congr_right' (and_congr_right' ⟨?_, ?_⟩))
    · rintro ⟨k, -, h⟩
      exact ⟨k, h⟩
    · rintro ⟨k, hlt, hsize, h⟩
      exact ⟨k, Nat.lt_of_succ_lt hsize, hlt, hsize, h⟩

theorem reaches_localPattern :
    Reaches cs.toArray localPattern i j ↔ j = i + 1 ∧ InLocalPart cs i := by
  constructor
  · rintro ⟨_, hbehind, _, hhere, hahead⟩
    obtain ⟨rfl, hbehind⟩ := reaches_behind.1 hbehind
    obtain ⟨hpos, b, hb, hfeed⟩ := hbehind.2 rfl
    obtain ⟨rfl, c, hc, hat⟩ := reaches_one.1 hhere
    obtain ⟨rfl, _, k, hover, hsign⟩ := reaches_ahead.1 hahead
    obtain ⟨hle, -⟩ := reaches_repeated_one.1 hover
    obtain ⟨-, d, hd, hd'⟩ := reaches_one.1 hsign
    rw [CharTest.holds_any] at hfeed
    rw [CharTest.holds_noneOf, List.mem_singleton] at hat
    rw [CharTest.holds_only] at hd'
    refine ⟨rfl, ⟨k, by omega, by rw [hd, hd']⟩, ?_, hpos, ?_⟩
    · rwa [hc, ne_eq, Option.some.injEq]
    · rwa [hb, ne_eq, Option.some.injEq]
  · rintro ⟨rfl, ⟨k, hlt, hk⟩, hat, hpos, hfeed⟩
    obtain ⟨b, hb⟩ := exists_of_lt (i := i - 1) hk (by omega)
    obtain ⟨c, hc⟩ := exists_of_lt hk hlt
    rw [hb, ne_eq, Option.some.injEq] at hfeed
    rw [hc, ne_eq, Option.some.injEq] at hat
    obtain ⟨h, hle, hover, hsign⟩ := exists_first.2 ⟨k, hlt, hk⟩
    refine ⟨i, reaches_behind.2 ⟨rfl, iff_of_true ⟨hpos, b, hb, CharTest.holds_any.2 hfeed⟩ rfl⟩,
      i + 1, reaches_one.2 ⟨rfl, c, hc, CharTest.holds_noneOf.2 ?_⟩,
      reaches_ahead.2 ⟨rfl, h + 1, h, reaches_repeated_one.2 ⟨hle, nofun, hover⟩,
        reaches_one.2 ⟨rfl, '@', hsign, CharTest.holds_only.2 rfl⟩⟩⟩
    rwa [List.mem_singleton]

/-- There is a last dot ahead, with something behind it, and no at sign. -/
theorem reaches_restPattern :
    (∃ m, Reaches cs.toArray restPattern i m) ↔
      (∀ h, i ≤ h → cs[h]? ≠ some '@') ∧
        ∃ k, i ≤ k ∧ k + 1 < cs.length ∧ cs[k]? = some '.' ∧ ∀ h, k < h → cs[h]? ≠ some '.' := by
  have hfeed : '\n' ∉ ['@', '.'] := by decide
  have hrest (k : Nat) := exists_lastLineEnd (i := k + 1) cs hfeed
  constructor
  · rintro ⟨q, k, hover, _, hdot, _, htail, rfl, hend⟩
    obtain ⟨hle, -, hover⟩ := reaches_repeated_one.1 hover
    obtain ⟨rfl, d, hd, hd'⟩ := reaches_one.1 hdot
    obtain ⟨hlt, -, htail⟩ := reaches_repeated_one.1 htail
    obtain rfl := CharTest.holds_only.1 hd'
    obtain ⟨hsize, hfree⟩ := (hrest k).1 ⟨q, by omega, htail, hend⟩
    refine ⟨fun h hh hat => ?_, k, hle, hsize, hd, fun h hh => hfree h hh '.' (by simp)⟩
    rcases Nat.lt_trichotomy h k with hbefore | rfl | hbehind
    · obtain ⟨c, hc, hholds⟩ := hover h hh hbefore
      rw [hat, Option.some.injEq] at hc
      rw [← hc, CharTest.holds_noneOf] at hholds
      exact hholds (List.mem_singleton_self '@')
    · rw [hat] at hd
      cases hd
    · exact hfree h hbehind '@' (by simp) hat
  · rintro ⟨hat, k, hle, hsize, hdot, hlast⟩
    have hfree (h : Nat) (hh : k + 1 ≤ h) (d : Char) (hd : d ∈ ['@', '.']) : cs[h]? ≠ some d := by
      rcases List.mem_cons.1 hd with rfl | hd
      · exact hat h (by omega)
      · rw [List.mem_singleton.1 hd]
        exact hlast h hh
    obtain ⟨q, hlt, htail, hend⟩ := (hrest k).2 ⟨hsize, hfree⟩
    refine ⟨q, k, reaches_repeated_one.2 ⟨hle, nofun, fun h hh hlt => ?_⟩, k + 1,
      reaches_one.2 ⟨rfl, '.', hdot, CharTest.holds_only.2 rfl⟩, q,
      reaches_repeated_one.2 ⟨hlt, nofun, htail⟩, rfl, hend⟩
    obtain ⟨c, hc⟩ := exists_of_lt hdot hlt
    refine ⟨c, hc, CharTest.holds_noneOf.2 fun hmem => hat h hh ?_⟩
    rw [hc, List.mem_singleton.1 hmem]

theorem reaches_domainPattern :
    Reaches cs.toArray domainPattern i j ↔ j = i + 1 ∧ InDomain cs i := by
  constructor
  · rintro ⟨_, hbehind, _, hhere, hahead⟩
    obtain ⟨rfl, hbehind⟩ := reaches_behind.1 hbehind
    obtain ⟨rfl, c, hc, hholds⟩ := reaches_one.1 hhere
    obtain ⟨rfl, hfound⟩ := reaches_ahead.1 hahead
    obtain ⟨hat, k, hle, hsize, hdot, hlast⟩ := reaches_restPattern.1 hfound
    simp only [CharTest.holds_noneOf, List.mem_cons, List.not_mem_nil, or_false, not_or] at hholds
    refine ⟨rfl, fun h hh => ?_, ?_, ?_, k, hle, hsize, hdot, hlast⟩
    · rcases Nat.eq_or_lt_of_le hh with rfl | hlt
      · rw [hc, ne_eq, Option.some.injEq]
        exact hholds.1
      · exact hat h hlt
    · rw [hc, ne_eq, Option.some.injEq]
      exact hholds.2
    · rw [or_iff_not_imp_left]
      intro hpos hsign
      have hnegated := hbehind.1 ⟨by omega, '@', hsign, CharTest.holds_only.2 rfl⟩
      cases hnegated
  · rintro ⟨rfl, hat, hdot, hright, k, hlt, hsize, hk, hlast⟩
    obtain ⟨c, hc⟩ := exists_of_lt hk hlt
    have hhere : c ∉ ['@', '.'] := by
      simp only [List.mem_cons, List.not_mem_nil, or_false, not_or]
      constructor
      · rintro rfl
        exact hat _ (Nat.le_refl _) hc
      · rintro rfl
        exact hdot hc
    have hbehind : ¬(1 ≤ i ∧ ∃ b, cs[i - 1]? = some b ∧ (CharTest.only '@').holds b = true) := by
      rintro ⟨hpos, b, hb, hholds⟩
      rw [CharTest.holds_only.1 hholds] at hb
      rcases hright with hzero | hright
      · omega
      · exact hright hb
    exact ⟨i, reaches_behind.2 ⟨rfl, iff_of_false hbehind nofun⟩, i + 1,
      reaches_one.2 ⟨rfl, c, hc, CharTest.holds_noneOf.2 hhere⟩,
      reaches_ahead.2 ⟨rfl, reaches_restPattern.2
        ⟨fun h hh => hat h (by omega), k, hlt, hsize, hk, hlast⟩⟩⟩

theorem single_addressPattern (cs : List Char) :
    Single cs.toArray (.alt localPattern domainPattern) where
  plain := by decide
  width h := h.elim (fun h => (reaches_localPattern.1 h).1) fun h => (reaches_domainPattern.1 h).1

end Pattern

namespace Masker

open Pattern

/-- With the default pattern for addresses, any readable pattern for numbers and any mark there is
a masker.  A masked address is as long as the address; it has the mark in all places of the local
part and of the domain, and the character of the address in all others. -/
theorem default_mask_of_address {characters : Text.CharacterNames} {mobile : String}
    {number : Pattern} (hmobile : Pattern.parse characters mobile = .ok number) (mark : Char) :
    ∃ m, make defaultEmailPattern mobile (String.singleton mark) characters = .ok m ∧
      ∀ address : String,
        let cs := address.toList
        let masked := m.mask .email address
        masked.length = address.length ∧
          ∀ i < address.length,
            (InLocalPart cs i ∨ InDomain cs i → masked.toList[i]? = some mark) ∧
              (¬(InLocalPart cs i ∨ InDomain cs i) → masked.toList[i]? = cs[i]?) := by
  refine ⟨⟨.alt localPattern domainPattern, number, mark⟩, ?_, fun address => ?_⟩
  · simp only [make, String.toList_singleton, parse_defaultEmailPattern, hmobile]
    rfl
  dsimp only [mask]
  refine ⟨length_hide mark _ address, fun i hi => ?_⟩
  have hhidden : InLocalPart address.toList i ∨ InDomain address.toList i ↔
      Reaches address.toList.toArray (.alt localPattern domainPattern) i (i + 1) := by
    simp only [Reaches, reaches_localPattern, reaches_domainPattern, true_and]
  have hget := getElem?_hide (single_addressPattern address.toList) mark i
  rw [hhidden]
  refine ⟨fun h => ?_, hget.2⟩
  rw [← String.length_toList] at hi
  rw [hget.1 h, List.getElem?_eq_getElem hi, Option.map_some]

theorem parse_defaultMobilePattern (characters : Text.CharacterNames) :
    Pattern.parse characters defaultMobilePattern =
      .ok (.seq (.one (.any false))
        (.look none false (.repeated (.one (.any false)) 4 (some 4) .greedy))) := by
  cbv

/-- Two lines with an at sign each: the line feed is hidden, the character behind it is not, nor is
the one behind the last at sign. -/
theorem default_mask_of_address_lines :
    Pattern.parse Text.asciiByName defaultMobilePattern =
        .ok (.seq (.one (.any false))
          (.look none false (.repeated (.one (.any false)) 4 (some 4) .greedy))) ∧
      ∃ m, make defaultEmailPattern defaultMobilePattern "#" = .ok m ∧
        let masked := (m.mask .email "ab@c\nde@f.gh.ij").toList
        masked[4]? = some '#' ∧ masked[5]? = some 'd' ∧ masked[8]? = some 'f' ∧
          masked[10]? = some '#' := by
  refine ⟨parse_defaultMobilePattern _, ?_⟩
  obtain ⟨m, hm, hmask⟩ := default_mask_of_address (parse_defaultMobilePattern Text.asciiByName) '#'
  obtain ⟨-, hplace⟩ := hmask "ab@c\nde@f.gh.ij"
  exact ⟨m, hm, (hplace 4 (by decide)).1 (by decide), (hplace 5 (by decide)).2 (by decide),
    (hplace 8 (by decide)).2 (by decide), (hplace 10 (by decide)).1 (by decide)⟩

end Masker

end AccountRecovery
