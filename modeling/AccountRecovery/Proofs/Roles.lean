import AccountRecovery.Proofs.Eligibility
import AccountRecovery.Proofs.NormalForm
/-!
# Roles

The roles of a user are one text, in which their names are joined with a separator.  The names are
read back from it (`Text.splitOn_intercalate`), so a user has signed up without an administrator if
and only if one of the names is that of the role, apart from blanks around it.  Where it stands and
which names stand around it does not matter.

Main statement: `isSelfRegistered_iff_named`.
-/

namespace AccountRecovery

/-! ## Splitting what has been joined -/

namespace Text

theorem fields_intercalate {sep : Char} {ps : List (List Char)} (hne : ps ≠ [])
    (h : ∀ p ∈ ps, sep ∉ p) : fields sep ([sep].intercalate ps) = ps := by
  have hfields := fields_intercalate_concat hne h
  rw [fields_append_sep, fields] at hfields
  exact List.append_cancel_right hfields

theorem splitOn_intercalate {separator : String} {sep : Char} (hsep : separator.toList = [sep])
    {names : List String} (hne : names ≠ []) (h : ∀ name ∈ names, sep ∉ name.toList) :
    splitOn separator (separator.intercalate names) = names := by
  have hfields : fields sep ([sep].intercalate (names.map String.toList)) =
      names.map String.toList := by
    refine fields_intercalate (by simpa using hne) fun p hp => ?_
    obtain ⟨name, hname, rfl⟩ := List.mem_map.1 hp
    exact h name hname
  rw [splitOn, String.toList_intercalate, hsep, splitFrom_singleton, hfields, List.map_map]
  exact (List.map_congr_left fun name _ => String.ofList_toList).trans (List.map_id names)

theorem strip_empty : strip "" = "" := rfl

end Text

/-! ## The names of the roles -/

namespace Selector

/-- One of the names is that of the users who signed up without an administrator. -/
def NamesSignup (s : Selector) (names : List String) : Prop :=
  ∃ name ∈ names, Text.strip name = s.selfSignupRole

variable {s : Selector} {names names' : List String} {sep : Char}

instance : Decidable (s.NamesSignup names) :=
  inferInstanceAs (Decidable (∃ _ ∈ _, _))

theorem NamesSignup.congr
    (h : ∀ name, Text.strip name = s.selfSignupRole → (name ∈ names ↔ name ∈ names')) :
    s.NamesSignup names ↔ s.NamesSignup names' := by
  constructor
  · rintro ⟨name, hname, hrole⟩
    exact ⟨name, (h name hrole).1 hname, hrole⟩
  · rintro ⟨name, hname, hrole⟩
    exact ⟨name, (h name hrole).2 hname, hrole⟩

theorem isSelfRegistered_intercalate (hsep : s.roleSeparator.toList = [sep])
    (hrole : s.selfSignupRole ≠ "") (hnames : ∀ name ∈ names, sep ∉ name.toList) :
    s.isSelfRegistered (some (s.roleSeparator.intercalate names)) =
      .ok (decide (s.NamesSignup names)) := by
  by_cases hempty : names = []
  · subst hempty
    rfl
  have hsplit := Text.splitOn_intercalate hsep hempty hnames
  have hseparator : ¬s.roleSeparator.isEmpty = true := by
    rw [String.isEmpty_iff, ← String.toList_inj, hsep]
    exact List.cons_ne_nil _ _
  rw [isSelfRegistered]
  by_cases hjoined : s.roleSeparator.intercalate names = ""
  · -- The only names that are joined to nothing are a single empty one.
    have hsingle : names = [""] := by
      rw [hjoined] at hsplit
      exact hsplit.symm
    have hnone : ¬s.NamesSignup names := by
      rw [hsingle, NamesSignup]
      simpa [Text.strip_empty] using hrole.symm
    simp [hjoined, hnone]
  · rw [if_neg (by rwa [String.isEmpty_iff]), if_neg hseparator, hsplit, Except.ok.injEq,
      Bool.eq_iff_iff, decide_eq_true_eq, NamesSignup]
    simp

variable {values : ClaimValues}

theorem selfRegistered_iff_namesSignup (hsep : s.roleSeparator.toList = [sep])
    (hrole : s.selfSignupRole ≠ "") (hnames : ∀ name ∈ names, sep ∉ name.toList)
    (hroles : claimText values s.rolesClaim = some (s.roleSeparator.intercalate names)) :
    s.SelfRegistered values ↔ s.NamesSignup names := by
  have hseparator : s.roleSeparator ≠ "" := by
    rw [ne_eq, ← String.toList_inj, hsep]
    exact List.cons_ne_nil _ _
  have hnamed := isSelfRegistered_intercalate hsep hrole hnames
  rw [← hroles, isSelfRegistered_eq_ok hseparator, Except.ok.injEq, decide_eq_decide] at hnamed
  exact hnamed

/-- An unverified channel is withheld if and only if the user signed up without an administrator. -/
theorem channelOf?_unverified {d : ChannelDefinition}
    (hvalue : (claimText values d.valueClaim).getD "" ≠ "")
    (hverified : isAffirmative (claimText values d.verifiedClaim) = false) :
    s.channelOf? values (decide (s.SelfRegistered values)) d =
      if s.SelfRegistered values then none else some (s.channelFor values d) := by
  have hadmits : s.Admits values d ↔ ¬s.SelfRegistered values := by
    rw [Admits, hverified]
    simp [hvalue]
  rw [channelOf?_eq]
  simp only [hadmits, ite_not]

/-- The roles of a user are names joined with a separator of one character, which none of the names
holds.  They say that the user signed up without an administrator if and only if one of the names,
without the blanks around it, is that of the role.  Roles that are not there or empty do not say so.
An unverified channel with a value is withheld in just that case.  Names other than that of the role
can be added, removed and moved, and the answer stays. -/
theorem isSelfRegistered_iff_named (hsep : s.roleSeparator.toList = [sep])
    (hrole : s.selfSignupRole ≠ "") (hnames : ∀ name ∈ names, sep ∉ name.toList) :
    s.isSelfRegistered (some (s.roleSeparator.intercalate names)) =
        .ok (decide (∃ name ∈ names, Text.strip name = s.selfSignupRole)) ∧
      s.isSelfRegistered none = .ok false ∧
      s.isSelfRegistered (some "") = .ok false ∧
      (∀ values, claimText values s.rolesClaim = some (s.roleSeparator.intercalate names) →
        ∀ d : ChannelDefinition, (claimText values d.valueClaim).getD "" ≠ "" →
          isAffirmative (claimText values d.verifiedClaim) = false →
            (s.isSelfRegistered (claimText values s.rolesClaim)).map (s.channelOf? values · d) =
              .ok (if ∃ name ∈ names, Text.strip name = s.selfSignupRole then none
                else some (s.channelFor values d))) ∧
      ∀ names', (∀ name ∈ names', sep ∉ name.toList) →
        (∀ name, Text.strip name = s.selfSignupRole → (name ∈ names' ↔ name ∈ names)) →
          s.isSelfRegistered (some (s.roleSeparator.intercalate names')) =
            s.isSelfRegistered (some (s.roleSeparator.intercalate names)) := by
  have hjoined := isSelfRegistered_intercalate hsep hrole hnames
  refine ⟨hjoined, rfl, rfl, fun values hroles d hvalue hverified => ?_,
    fun names' hnames' hsame => ?_⟩
  · have hself := selfRegistered_iff_namesSignup hsep hrole hnames hroles
    have hchannel := channelOf?_unverified (s := s) hvalue hverified
    simp only [hself] at hchannel
    rw [hroles, hjoined]
    exact congrArg Except.ok hchannel
  · rw [hjoined, isSelfRegistered_intercalate hsep hrole hnames', Except.ok.injEq, decide_eq_decide]
    exact NamesSignup.congr hsame

/-- Names of roles.  The role of those who signed up alone stands last, behind an empty name and
with blanks of several kinds around it. -/
def lateRoles : List String := ["staff", "", " \u00a0Internal/selfsignup\t"]

def lateClaims : ClaimValues :=
  [("urn:identity:claims:roles", some "staff,, \u00a0Internal/selfsignup\t"),
    ("urn:identity:claims:emailaddress", some "ann@example.com")]

theorem isSelfRegistered_iff_named_late :
    let s : Selector := {}
    s.isSelfRegistered (some (",".intercalate lateRoles)) = .ok true ∧
      (s.isSelfRegistered (claimText lateClaims s.rolesClaim)).map
        (s.channelOf? lateClaims · s.channels[0]) = .ok none ∧
      s.isSelfRegistered (some " \u00a0Internal/selfsignup\t,guest") = .ok true := by
  intro s
  have hsep : s.roleSeparator.toList = [','] := by decide +kernel
  have hrole : s.selfSignupRole ≠ "" := by decide +kernel
  have hfree : ∀ name ∈ lateRoles, ',' ∉ name.toList := by decide +kernel
  obtain ⟨hnamed, -, -, hwithheld, hsame⟩ := isSelfRegistered_iff_named hsep hrole hfree
  have hsignup : ∃ name ∈ lateRoles, Text.strip name = s.selfSignupRole := by decide +kernel
  rw [decide_eq_true hsignup] at hnamed
  refine ⟨hnamed, ?_, ?_⟩
  · have hnone := hwithheld lateClaims (by decide +kernel) s.channels[0] (by decide +kernel)
      (by decide +kernel)
    rwa [if_pos hsignup] at hnone
  · refine (hsame [" \u00a0Internal/selfsignup\t", "guest"] (by decide +kernel) ?_).trans hnamed
    have hothers : Text.strip "guest" ≠ s.selfSignupRole ∧ Text.strip "staff" ≠ s.selfSignupRole ∧
        Text.strip "" ≠ s.selfSignupRole := by decide +kernel
    intro name hname
    simp only [lateRoles, List.mem_cons, List.not_mem_nil, or_false]
    constructor
    · rintro (rfl | rfl)
      · exact .inr (.inr rfl)
      · exact (hothers.1 hname).elim
    · rintro (rfl | rfl | rfl)
      · exact (hothers.2.1 hname).elim
      · exact (hothers.2.2 hname).elim
      · exact .inl rfl

end Selector

end AccountRecovery
