import AccountRecovery.Proofs.SearchScope
import AccountRecovery.Proofs.Session
/-!
# What the stages come to

Over a registry the stages before a code is issued can be worked out: what each comes to, and what
it logs (`consult_clear`, `consult_offer`, `consult_approve`).  A stage that fails refuses with a
fault of its own, unless it is the offer and the roles of the user cannot be told apart
(`refuses_resolveUser`, `refuses_clear`, `assess_error`).
-/

namespace AccountRecovery

open Dialogue Recovery

theorem map_eq_error_iff {ε α β : Type} {g : α → β} {x : Except ε α} {e : ε} :
    x.map g = .error e ↔ x = .error e := by
  cases x <;> simp [Except.map]

theorem Selector.isSelfRegistered_eq_error_iff (s : Selector) {roles : Option String}
    {e : Failure} :
    s.isSelfRegistered roles = .error e ↔
      e = .value .emptySeparator ∧ s.roleSeparator = "" ∧ ∃ rs, roles = some rs ∧ rs ≠ "" := by
  unfold isSelfRegistered
  cases roles with
  | none => simp
  | some rs =>
      by_cases hroles : rs = ""
      · simp [hroles]
      · by_cases hseparator : s.roleSeparator = ""
        · simp only [hroles, hseparator, String.isEmpty_iff, if_false, if_true,
            Except.error.injEq, Option.some.injEq, exists_eq_left', ne_eq,
            not_false_eq_true, and_true]
          exact eq_comm
        · simp [hroles, hseparator]

namespace Registry

variable {α β σ : Type} (r : Registry)

/-! ## Dialogues without a record store -/

def chronicle (d : Dialogue α) : List Log.Entry :=
  (d.run (r.answer .empty) (fun _ => "") () 0).entries

/-- Whatever store there is, the same is logged. -/
theorem entries_of_confined {d : Dialogue α} (hd : d.Confined (·.concernsRecords = false))
    (records : RecordStore σ) (codes : CodeSource) (st : σ) (n : Nat) :
    (d.run (r.answer records) codes st n).entries = r.chronicle d := by
  have hagree (q : Call) (s : σ) (t : Unit) (hq : q.concernsRecords = false) :
      (r.answer records q s).1 = (r.answer .empty q t).1 := by
    cases q <;> first | rfl | cases hq
  exact (hd.run_agree hagree _ _ _ _ _ _).2.2

theorem consult_bind {d : Dialogue α} (hd : d.Confined (·.concernsRecords = false))
    (f : α → Dialogue β) : r.consult (d.bind f) = (r.consult d).bind fun a => r.consult (f a) := by
  obtain ⟨-, hstate, hdrawn⟩ := run_answer_of_confined hd r .empty (fun _ => "") () 0
  unfold consult
  rw [run_bind, Outcome.andThen, hstate, hdrawn]
  cases (d.run (r.answer .empty) (fun _ => "") () 0).result <;> rfl

theorem chronicle_bind {d : Dialogue α} (hd : d.Confined (·.concernsRecords = false))
    (f : α → Dialogue β) :
    r.chronicle (d.bind f) =
      r.chronicle d ++ (r.consult d).toOption.elim [] fun a => r.chronicle (f a) := by
  obtain ⟨-, hstate, hdrawn⟩ := run_answer_of_confined hd r .empty (fun _ => "") () 0
  unfold chronicle consult
  rw [run_bind, Outcome.andThen, hstate, hdrawn]
  cases (d.run (r.answer .empty) (fun _ => "") () 0).result with
  | error e => simp [Except.toOption]
  | ok a => rfl

/-! ## The stages -/

def refusal (fault : RecoveryFault) (detail : Option String) : Failure :=
  .recovery ⟨fault, detail, fault.code, none⟩

def Refuses (faults : List RecoveryFault) (e : Failure) : Prop :=
  ∃ fault ∈ faults, ∃ detail, e = refusal fault detail

theorem Refuses.mono {faults faults' : List RecoveryFault} {e : Failure} (h : Refuses faults e)
    (hfaults : faults ⊆ faults') : Refuses faults' e := by
  obtain ⟨fault, hfault, detail, rfl⟩ := h
  exact ⟨fault, hfaults hfault, detail, rfl⟩

theorem Refuses.faultOf_ne {α : Type} {faults : List RecoveryFault} {e : Failure}
    (h : Refuses faults e) {fault : RecoveryFault} (hfault : fault ∉ faults) :
    faultOf (α := α) (.error e) ≠ some fault := by
  obtain ⟨fault', hfault', detail, rfl⟩ := h
  rintro ⟨⟩
  exact hfault hfault'

theorem refuses_resolveUser {claims : Claims} {tenantDomain : String} {e : Failure}
    (h : r.consult (resolveUser claims tenantDomain) = .error e) :
    Refuses [.noClaims, .invalidTenant, .noUser, .multipleUsers] e := by
  have hresolve : r.lookups.resolve (r.answer .empty) (fun _ => "") () 0 claims tenantDomain =
      .error e := by
    rw [← h, consult, Lookups.resolve, r.answer_lookups]
  by_cases hclaims : claims = []
  · rw [hclaims] at h
    cases h
    exact ⟨.noClaims, by simp, none, rfl⟩
  cases htenant : r.lookups.tenants.lookup tenantDomain with
  | none =>
      rw [Lookups.resolve_unknown _ _ _ _ _ hclaims htenant] at hresolve
      cases hresolve
      exact ⟨.invalidTenant, by simp, some tenantDomain, rfl⟩
  | some id =>
      have hfinding :=
        r.lookups.finding_resolve (r.answer .empty) (fun _ => "") () 0 hclaims htenant
      rw [hresolve] at hfinding
      cases hfinding with
      | ambiguous search many => exact ⟨.multipleUsers, by simp, none, rfl⟩
      | nobody none => exact ⟨.noUser, by simp, Option.none, rfl⟩

theorem consult_clear (a : Account) :
    r.consult (clear a) =
        (if a ∈ r.statuses.disabled then .error (refusal .accountDisabled (some a.username))
        else if a ∈ r.statuses.locked then .error (refusal .accountLocked (some a.username))
        else .ok ()) ∧
      r.chronicle (clear a) = [] := by
  unfold consult chronicle
  by_cases hdisabled : a ∈ r.statuses.disabled
  · simp [clear, statusOf, call, rescue, Dialogue.bind, Dialogue.ofExcept, run, answer,
      hdisabled, refuse, refusal]
  · by_cases hlocked : a ∈ r.statuses.locked
    · simp [clear, statusOf, call, rescue, Dialogue.bind, Dialogue.ofExcept, run, answer,
        hdisabled, hlocked, refuse, refusal]
    · simp [clear, statusOf, call, rescue, Dialogue.bind, Dialogue.ofExcept, run, answer,
        hdisabled, hlocked]

theorem refuses_clear {a : Account} {e : Failure} (h : r.consult (clear a) = .error e) :
    Refuses [.accountDisabled, .accountLocked] e := by
  rw [(r.consult_clear a).1] at h
  split at h
  · cases h
    exact ⟨.accountDisabled, by simp, some a.username, rfl⟩
  · split at h
    · cases h
      exact ⟨.accountLocked, by simp, some a.username, rfl⟩
    · cases h

variable (s : Service) (q : RecoveryRequest) (username : String)

/-- What the selector makes of the claims of a user: whether the user signed up without an
administrator, and the eligible channels. -/
def assess : Except Failure (Bool × List Channel) :=
  match r.tenants.lookup q.tenantDomain with
  | none => .error (refusal .invalidTenant (some q.tenantDomain))
  | some id =>
    let values := r.directory.claimValues id username s.selector.requiredClaims
    if values.isEmpty then .error (refusal .noChannels none)
    else
      (s.selector.isSelfRegistered (Selector.claimText values s.selector.rolesClaim)).map
        fun selfRegistered => (selfRegistered, s.selector.eligible values selfRegistered)

/-- Claims of a user are refused, or the roles among them cannot be told apart. -/
theorem assess_error {s : Service} {q : RecoveryRequest} {username : String} {e : Failure}
    (h : r.assess s q username = .error e) :
    Refuses [.invalidTenant, .noChannels] e ∨ e = .value .emptySeparator := by
  unfold assess at h
  split at h
  · cases h
    exact .inl ⟨.invalidTenant, by simp, some q.tenantDomain, rfl⟩
  · dsimp only at h
    split at h
    · cases h
      exact .inl ⟨.noChannels, by simp, none, rfl⟩
    · rw [map_eq_error_iff] at h
      exact .inr (s.selector.isSelfRegistered_eq_error_iff.1 h).1

def assessmentEntry (selfRegistered : Bool) (eligible : Nat) : Log.Entry :=
  ⟨.debug, .channels, toString eligible ++ " eligible channel(s), self registered: " ++
    (if selfRegistered then "True" else "False")⟩

/-- If this service sends notifications, the claims of the user are assessed, and that is logged. -/
theorem consult_offer :
    r.consult (s.offer q username) =
        (if s.manages q then
          (r.assess s q username).bind fun assessed =>
            if assessed.2.isEmpty then .error (refusal .noVerifiedChannels none)
            else .ok assessed.2
        else .ok [⟨.external, "", false, false⟩]) ∧
      r.chronicle (s.offer q username) =
        if s.manages q then
          (r.assess s q username).toOption.elim [] fun assessed =>
            [assessmentEntry assessed.1 assessed.2.length]
        else [] := by
  unfold consult chronicle Service.offer selectChannels channelClaims assess
  cases s.manages q with
  | false => exact ⟨rfl, rfl⟩
  | true =>
      simp only [bind_eq, pure_eq, call, Dialogue.bind, run, answer, TenantRegistry.idOf, if_true]
      cases r.tenants.lookup q.tenantDomain with
      | none => exact ⟨rfl, rfl⟩
      | some id =>
          simp only [Dialogue.ofExcept, rescue, Dialogue.bind, run, answer]
          generalize r.directory.claimValues id username s.selector.requiredClaims = values
          cases values.isEmpty with
          | true => exact ⟨rfl, rfl⟩
          | false =>
              simp only [Bool.false_eq_true, if_false]
              cases s.selector.isSelfRegistered
                (Selector.claimText values s.selector.rolesClaim) with
              | error e => exact ⟨rfl, rfl⟩
              | ok selfRegistered =>
                  simp only [log, Dialogue.bind, run, Except.map, Except.bind,
                    Except.toOption, Option.elim]
                  cases (s.selector.eligible values selfRegistered).isEmpty <;> exact ⟨rfl, rfl⟩

theorem consult_approve :
    r.consult (s.approve q) =
        ((r.consult (resolveUser q.claims q.tenantDomain)).bind fun username =>
          (r.consult (clear (.ofRawName username q.tenantDomain))).bind fun _ =>
            (r.consult (s.offer q username)).map fun channels => (username, channels)) ∧
      r.chronicle (s.approve q) =
        r.chronicle (resolveUser q.claims q.tenantDomain) ++
          (r.consult (resolveUser q.claims q.tenantDomain)).toOption.elim [] fun username =>
            (r.consult (clear (.ofRawName username q.tenantDomain))).toOption.elim [] fun _ =>
              r.chronicle (s.offer q username) := by
  have hfind : (resolveUser q.claims q.tenantDomain).Confined (·.concernsRecords = false) :=
    (confined_resolveUser _ _).mono fun _ => Call.concernsRecords_of_isLookup
  have hclear (a : Account) : (clear a).Confined (·.concernsRecords = false) :=
    (confined_clear a).mono fun _ => Call.concernsRecords_of_asksStatusOf
  have hoffer (username : String) : (s.offer q username).Confined (·.concernsRecords = false) :=
    (s.confined_offer q username).mono fun _ => Call.concernsRecords_of_asksChannelsOf
  have hdone (username : String) (channels : List Channel) :
      r.consult (done (username, channels)) = .ok (username, channels) ∧
        r.chronicle (done (username, channels)) = [] :=
    ⟨rfl, rfl⟩
  have hlast (offered : Except Failure (List Channel)) :
      offered.toOption.elim ([] : List Log.Entry) (fun _ => []) = [] := by
    cases offered <;> rfl
  unfold Service.approve
  constructor
  · simp only [r.consult_bind hfind, r.consult_bind (hclear _), r.consult_bind (hoffer _), hdone]
    rfl
  · simp only [r.chronicle_bind hfind, r.chronicle_bind (hclear _), r.chronicle_bind (hoffer _),
      hdone, (r.consult_clear _).2, List.nil_append, hlast, List.append_nil]

/-- What the selector makes of the claims of the user who is found, if it comes to that. -/
def assessed? : Option (Bool × List Channel) :=
  (r.consult (resolveUser q.claims q.tenantDomain)).toOption.bind fun username =>
    (r.consult (clear (.ofRawName username q.tenantDomain))).toOption.bind fun _ =>
      if s.manages q then (r.assess s q username).toOption else none

/-- The ways in which the stages before a code is issued can go: there is no user, there are no
claims to assess, they are assessed without or with a channel to offer, or they need not be. -/
inductive Course : Except Failure (String × List Channel) → Prop
  | unfound {e : Failure} (find : r.consult (resolveUser q.claims q.tenantDomain) = .error e)
      (refuses : Refuses [.noClaims, .invalidTenant, .noUser, .multipleUsers] e)
      (unassessed : r.assessed? s q = none) : Course (.error e)
  | barred {username : String} {e : Failure}
      (find : r.consult (resolveUser q.claims q.tenantDomain) = .ok username)
      (refuses : Refuses [.accountDisabled, .accountLocked, .invalidTenant, .noChannels] e ∨
        e = .value .emptySeparator)
      (unassessed : r.assessed? s q = none) : Course (.error e)
  | unreachable {username : String} {selfRegistered : Bool} (managed : s.manages q = true)
      (find : r.consult (resolveUser q.claims q.tenantDomain) = .ok username)
      (assessed : r.assessed? s q = some (selfRegistered, [])) :
      Course (.error (refusal .noVerifiedChannels none))
  | offered {username : String} {selfRegistered : Bool} {channels : List Channel}
      (managed : s.manages q = true)
      (find : r.consult (resolveUser q.claims q.tenantDomain) = .ok username)
      (assessed : r.assessed? s q = some (selfRegistered, channels)) :
      Course (.ok (username, channels))
  | external {username : String} (unmanaged : s.manages q = false)
      (find : r.consult (resolveUser q.claims q.tenantDomain) = .ok username)
      (unassessed : r.assessed? s q = none) :
      Course (.ok (username, [⟨.external, "", false, false⟩]))

theorem course : r.Course s q (r.consult (s.approve q)) := by
  rw [(r.consult_approve s q).1]
  cases hfind : r.consult (resolveUser q.claims q.tenantDomain) with
  | error e =>
      refine .unfound hfind (r.refuses_resolveUser hfind) ?_
      rw [assessed?, hfind]
      rfl
  | ok username =>
      have hassessed : r.assessed? s q =
          (r.consult (clear (.ofRawName username q.tenantDomain))).toOption.bind fun _ =>
            if s.manages q then (r.assess s q username).toOption else none := by
        rw [assessed?, hfind]
        rfl
      simp only [Except.bind]
      cases hclear : r.consult (clear (.ofRawName username q.tenantDomain)) with
      | error e =>
          rw [hclear] at hassessed
          refine .barred hfind (.inl ?_) hassessed
          exact (r.refuses_clear hclear).mono (by decide)
      | ok cleared =>
          rw [hclear] at hassessed
          simp only [(r.consult_offer s q username).1]
          cases hmanaged : s.manages q with
          | false =>
              rw [hmanaged] at hassessed
              exact .external hmanaged hfind hassessed
          | true =>
              rw [hmanaged] at hassessed
              cases hassess : r.assess s q username with
              | error e =>
                  rw [hassess] at hassessed
                  refine .barred hfind ((assess_error r hassess).imp_left fun h => ?_) hassessed
                  exact h.mono (by decide)
              | ok assessed =>
                  rw [hassess] at hassessed
                  obtain ⟨selfRegistered, channels⟩ := assessed
                  cases channels with
                  | nil => exact .unreachable hmanaged hfind hassessed
                  | cons channel channels => exact .offered hmanaged hfind hassessed

end Registry

end AccountRecovery
