import AccountRecovery.Proofs.Consulting
/-!
# Which channels are offered

The selector sees the claims that it asks for and none of the others of a user.  It comes to what
the rules say of all claims (`Selector.admitted`): every claim that a rule looks at is asked for
(`Selector.eligible_congr`), and an asked claim reads the same among those that are answered as it
does among all (`Directory.lookup_claimValues`).
-/

namespace AccountRecovery

open Dialogue Recovery

/-! ## Asked claims -/

theorem lookup_filterMap_lookup {α β : Type} [BEq α] [LawfulBEq α] (entries : List (α × β))
    (keys : List α) (k : α) :
    (keys.filterMap fun a => (entries.lookup a).map fun v => (a, v)).lookup k =
      if keys.contains k then entries.lookup k else none := by
  induction keys with
  | nil => rfl
  | cons a keys ih =>
      by_cases hk : k = a
      · subst hk
        cases hv : entries.lookup k with
        | none => simp [hv, ih]
        | some v => simp [hv]
      · have ha : (k == a) = false := beq_false_of_ne hk
        cases hv : entries.lookup a with
        | none => simp [hv, ih, hk]
        | some v => simp [hv, ih, hk, List.lookup_cons, ha]

namespace Directory

variable {d : Directory} {id : Int} {username : String} {keys : List String}

theorem lookup_claimValues {k : String} (hk : k ∈ keys) :
    (d.claimValues id username keys).lookup k = (d.claimsOf id username).lookup k := by
  have hasked : keys.eraseDups.contains k = true := by
    rwa [List.contains_iff_mem, List.mem_eraseDups]
  rw [claimValues, lookup_filterMap_lookup, if_pos hasked]

theorem claimValues_eq_nil_iff :
    d.claimValues id username keys = [] ↔
      ∀ k ∈ keys, (d.claimsOf id username).lookup k = none := by
  simp [claimValues, List.filterMap_eq_nil_iff]

end Directory

/-! ## The rules -/

namespace Selector

def Unconfigured (s : Selector) (claims : ClaimValues) : Prop :=
  ∀ k ∈ s.requiredClaims, claims.lookup k = none

/-- One of the roles is that of the users who signed up without an administrator. -/
def SelfRegistered (s : Selector) (claims : ClaimValues) : Prop :=
  ∃ roles, claimText claims s.rolesClaim = some roles ∧ roles ≠ "" ∧
    ∃ role ∈ Text.splitOn s.roleSeparator roles, Text.strip role = s.selfSignupRole

/-- The channel has a value and, if the user signed up without an administrator, it is verified. -/
def Admits (s : Selector) (claims : ClaimValues) (d : ChannelDefinition) : Prop :=
  (claimText claims d.valueClaim).getD "" ≠ "" ∧
    (s.SelfRegistered claims → isAffirmative (claimText claims d.verifiedClaim) = true)

variable (s : Selector) (claims : ClaimValues)

instance : Decidable (s.Unconfigured claims) :=
  inferInstanceAs (Decidable (∀ _ ∈ _, _))

instance : Decidable (s.SelfRegistered claims) :=
  decidable_of_iff
    (∃ roles ∈ claimText claims s.rolesClaim, roles ≠ "" ∧
      ∃ role ∈ Text.splitOn s.roleSeparator roles, Text.strip role = s.selfSignupRole)
    Iff.rfl

instance (d : ChannelDefinition) : Decidable (s.Admits claims d) :=
  inferInstanceAs (Decidable (_ ∧ (_ → _)))

def channelFor (d : ChannelDefinition) : Channel where
  type := d.type
  value := (claimText claims d.valueClaim).getD ""
  verified := isAffirmative (claimText claims d.verifiedClaim)
  preferred := claimText claims s.preferredChannelClaim = some d.type.name

def admitted : List Channel :=
  (s.channels.filter (s.Admits claims ·)).map (s.channelFor claims)

variable {s claims}

theorem isSelfRegistered_eq_ok (hseparator : s.roleSeparator ≠ "") :
    s.isSelfRegistered (claimText claims s.rolesClaim) =
      .ok (decide (s.SelfRegistered claims)) := by
  cases hclaim : claimText claims s.rolesClaim with
  | none =>
      have hnone : ¬s.SelfRegistered claims := by simp [SelfRegistered, hclaim]
      simp [isSelfRegistered, hnone]
  | some roles =>
      have hself : s.SelfRegistered claims ↔ roles ≠ "" ∧
          ∃ role ∈ Text.splitOn s.roleSeparator roles, Text.strip role = s.selfSignupRole := by
        simp [SelfRegistered, hclaim]
      by_cases hroles : roles = ""
      · simp [isSelfRegistered, hself, hroles]
      · have hempty : ¬roles.isEmpty = true := by rwa [String.isEmpty_iff]
        have hsplits : ¬s.roleSeparator.isEmpty = true := by rwa [String.isEmpty_iff]
        rw [isSelfRegistered, if_neg hempty, if_neg hsplits, Except.ok.injEq, Bool.eq_iff_iff]
        simp [hself, hroles]

/-- The name of a type is never empty, so an empty preference prefers no channel. -/
theorem preferred_eq (d : ChannelDefinition) (preference : Option String) :
    (!(preference.getD "").isEmpty && d.type.name == preference.getD "") =
      decide (preference = some d.type.name) := by
  cases preference with
  | none => rfl
  | some p =>
      have hname : d.type.name ≠ "" := by cases d.type <;> decide
      rw [Bool.eq_iff_iff]
      simp only [Option.getD_some, Bool.and_eq_true, Bool.not_eq_true', beq_iff_eq,
        decide_eq_true_eq, Option.some.injEq]
      constructor
      · exact fun h => h.2.symm
      · rintro rfl
        exact ⟨by simpa using hname, rfl⟩

theorem channelOf?_eq (d : ChannelDefinition) :
    s.channelOf? claims (decide (s.SelfRegistered claims)) d =
      if s.Admits claims d then some (s.channelFor claims d) else none := by
  have hexcluded : (((claimText claims d.valueClaim).getD "").isEmpty ||
      (decide (s.SelfRegistered claims) &&
        !isAffirmative (claimText claims d.verifiedClaim))) = true ↔ ¬s.Admits claims d := by
    rw [Admits, not_and_or, not_not, Classical.not_imp, Bool.or_eq_true, String.isEmpty_iff,
      Bool.and_eq_true, decide_eq_true_eq, Bool.not_eq_true', Bool.not_eq_true]
  unfold channelOf?
  dsimp only
  rw [preferred_eq]
  by_cases hd : s.Admits claims d
  · rw [if_neg (mt hexcluded.1 (not_not_intro hd)), if_pos hd, channelFor]
  · rw [if_pos (hexcluded.2 hd), if_neg hd]

theorem eligible_eq_admitted :
    s.eligible claims (decide (s.SelfRegistered claims)) = s.admitted claims := by
  unfold eligible admitted
  induction s.channels with
  | nil => rfl
  | cons d ds ih =>
      rw [List.filterMap_cons, channelOf?_eq, List.filter_cons, ih]
      by_cases hd : s.Admits claims d <;> simp [hd]

theorem eligible_congr {values : ClaimValues} {selfRegistered : Bool}
    (h : ∀ k ∈ s.requiredClaims, claimText values k = claimText claims k) :
    s.eligible values selfRegistered = s.eligible claims selfRegistered := by
  have hpreferred := h s.preferredChannelClaim (by simp [requiredClaims])
  refine List.filterMap_congr fun d hd => ?_
  have hvalue := h d.valueClaim (by
    simp only [requiredClaims, List.mem_append, List.mem_flatMap]
    exact .inl ⟨d, hd, by simp⟩)
  have hverified := h d.verifiedClaim (by
    simp only [requiredClaims, List.mem_append, List.mem_flatMap]
    exact .inl ⟨d, hd, by simp⟩)
  rw [channelOf?, channelOf?, hvalue, hverified, hpreferred]

theorem Unconfigured.admitted_eq_nil (h : s.Unconfigured claims) : s.admitted claims = [] := by
  by_contra hadmitted
  obtain ⟨c, hc⟩ := List.exists_mem_of_ne_nil _ hadmitted
  obtain ⟨d, hd, -⟩ := List.mem_map.1 hc
  rw [List.mem_filter, decide_eq_true_eq] at hd
  have hrequired : d.valueClaim ∈ s.requiredClaims := by
    simp only [requiredClaims, List.mem_append, List.mem_flatMap]
    exact .inl ⟨d, hd.1, by simp⟩
  apply hd.2.1
  rw [claimText, h _ hrequired]
  rfl

theorem verified_of_mem_admitted {c : Channel} (hself : s.SelfRegistered claims)
    (hc : c ∈ s.admitted claims) : c.verified = true := by
  obtain ⟨d, hd, rfl⟩ := List.mem_map.1 hc
  have hadmits := (List.mem_filter.1 hd).2
  rw [decide_eq_true_eq] at hadmits
  exact hadmits.2 hself

end Selector

namespace Registry

variable {σ : Type} {r : Registry} {tenantDomain : String} {id : Int} {s : Selector}

/-- The rules are applied to all claims of the user, unless none is there of those asked for. -/
theorem consult_selectChannels (known : r.tenants.lookup tenantDomain = some id)
    (separator : s.roleSeparator ≠ "") (username : String) :
    let claims := r.directory.claimsOf id username
    r.consult (selectChannels s username tenantDomain true) =
      if s.Unconfigured claims then .error (refusal .noChannels none)
      else if s.admitted claims = [] then .error (refusal .noVerifiedChannels none)
      else .ok (s.admitted claims) := by
  intro claims
  let values := r.directory.claimValues id username s.requiredClaims
  have htext : ∀ k ∈ s.requiredClaims, Selector.claimText values k = Selector.claimText claims k :=
    fun k hk => congrArg Option.join (Directory.lookup_claimValues hk)
  have hroles := htext s.rolesClaim (by simp [Selector.requiredClaims])
  have hvalues : values.isEmpty = true ↔ s.Unconfigured claims := by
    rw [List.isEmpty_iff]
    exact Directory.claimValues_eq_nil_iff
  -- The stage is that of any service with this selector, for a request that does not say who
  -- sends notifications.
  let service : Service := ⟨s, ⟨.empty, .empty, '*'⟩, true⟩
  let q : RecoveryRequest := ⟨[], tenantDomain, .username, []⟩
  have hassess : r.assess service q username =
      if s.Unconfigured claims then .error (refusal .noChannels none)
      else .ok (decide (s.SelfRegistered claims), s.admitted claims) := by
    simp only [assess, q, known]
    by_cases hnone : s.Unconfigured claims
    · rw [if_pos (hvalues.2 hnone), if_pos hnone]
    · rw [if_neg (mt hvalues.1 hnone), if_neg hnone, hroles,
        Selector.isSelfRegistered_eq_ok separator, Except.map, Selector.eligible_congr htext,
        Selector.eligible_eq_admitted]
  have hoffer := (r.consult_offer service q username).1
  have hmanages : service.manages q = true := rfl
  rw [if_pos hmanages, hassess] at hoffer
  refine hoffer.trans ?_
  split
  · rfl
  · simp only [Except.bind, List.isEmpty_iff]

/-- For a known tenant the outcome is told by all claims of the user: there are no channels exactly
if no required claim is there, there is no eligible one exactly if some claim is there but no
channel is admitted, and otherwise the admitted ones are offered.  A user who signed up without an
administrator is offered verified channels only.  If another system sends the notifications, nobody
is asked for anything. -/
theorem selectChannels_offers_admitted (known : r.tenants.lookup tenantDomain = some id)
    (separator : s.roleSeparator ≠ "") (username : String) (records : RecordStore σ)
    (codes : CodeSource) (st : σ) (n : Nat) :
    let claims := r.directory.claimsOf id username
    let result :=
      ((selectChannels s username tenantDomain true).run (r.answer records) codes st n).result
    (result = .error (refusal .noChannels none) ↔ s.Unconfigured claims) ∧
      (result = .error (refusal .noVerifiedChannels none) ↔
        ¬s.Unconfigured claims ∧ s.admitted claims = []) ∧
      (∀ channels, result = .ok channels ↔ channels ≠ [] ∧ channels = s.admitted claims) ∧
      (s.SelfRegistered claims → ∀ channels, result = .ok channels →
        ∀ c ∈ channels, c.verified = true) ∧
      ∀ answer : Handler σ, (selectChannels s username tenantDomain false).run answer codes st n =
        ⟨.ok [⟨.external, "", false, false⟩], st, n, [], []⟩ := by
  intro claims result
  have hconfined : (selectChannels s username tenantDomain true).Confined
      (·.concernsRecords = false) :=
    (confined_selectChannels _ _ _ _).mono fun _ => Call.concernsRecords_of_asksChannelsOf
  have hresult : result =
      if s.Unconfigured claims then .error (refusal .noChannels none)
      else if s.admitted claims = [] then .error (refusal .noVerifiedChannels none)
      else .ok (s.admitted claims) :=
    (run_answer_of_confined hconfined r records codes st n).1.trans
      (consult_selectChannels known separator username)
  have hanswers : (result = .error (refusal .noChannels none) ↔ s.Unconfigured claims) ∧
      (result = .error (refusal .noVerifiedChannels none) ↔
        ¬s.Unconfigured claims ∧ s.admitted claims = []) ∧
      ∀ channels, result = .ok channels ↔ channels ≠ [] ∧ channels = s.admitted claims := by
    by_cases hnone : s.Unconfigured claims
    · have hempty := hnone.admitted_eq_nil
      rw [if_pos hnone] at hresult
      simp [hresult, hnone, hempty, refusal]
    · rw [if_neg hnone] at hresult
      by_cases hempty : s.admitted claims = []
      · rw [if_pos hempty] at hresult
        simp [hresult, hnone, hempty, refusal]
      · rw [if_neg hempty] at hresult
        refine ⟨by simp [hresult, hnone], by simp [hresult, hempty], fun channels => ?_⟩
        rw [hresult, Except.ok.injEq]
        constructor
        · rintro rfl
          exact ⟨hempty, rfl⟩
        · exact fun h => h.2.symm
  obtain ⟨hnoChannels, hnoVerified, hok⟩ := hanswers
  refine ⟨hnoChannels, hnoVerified, hok, fun hself channels hchannels c hc => ?_, fun answer => rfl⟩
  obtain ⟨-, rfl⟩ := (hok channels).1 hchannels
  exact Selector.verified_of_mem_admitted hself hc

/-- A selector with three definitions, two of which share the claim with the value and two that with
the verified flag. -/
def sharingSelector : Selector where
  channels := [⟨.email, "mail", "mailVerified"⟩, ⟨.sms, "phone", "phoneVerified"⟩,
    ⟨.external, "mail", "phoneVerified"⟩]
  preferredChannelClaim := "preferred"
  rolesClaim := "roles"

def signedUp : Registry where
  directory := .ofUsers [(7, [("ann",
    [("shoe", some "42"), ("mail", some "ann@example.com"), ("phone", some "+15550100"),
      ("phoneVerified", some " True"), ("preferred", some "SMS"),
      ("roles", some "staff, Internal/selfsignup")])])] []
  tenants := [("example.com", 7)]

theorem selectChannels_offers_admitted_signedUp :
    signedUp.tenants.lookup "example.com" = some 7 ∧ sharingSelector.roleSeparator ≠ "" ∧
      ((selectChannels sharingSelector "ann" "example.com" true).run
        (signedUp.answer .empty) (fun _ => "") () 0).result =
          .ok [⟨.sms, "+15550100", true, true⟩, ⟨.external, "ann@example.com", true, false⟩] := by
  have hknown : signedUp.tenants.lookup "example.com" = some 7 := rfl
  have hseparator : sharingSelector.roleSeparator ≠ "" := by decide
  obtain ⟨-, -, hok, -⟩ := selectChannels_offers_admitted hknown hseparator "ann"
    (.empty : RecordStore Unit) (fun _ => "") () 0
  exact ⟨hknown, hseparator, (hok _).2 ⟨by decide, by decide +kernel⟩⟩

end Registry

end AccountRecovery
