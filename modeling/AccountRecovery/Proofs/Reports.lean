import AccountRecovery.Proofs.Stages
/-!
# How failures are reported

Collaborators that fail only as they declare are *honest*.  With them the service ends in a value or
in an error of its own.  The error is on the server's side if and only if a directory, a status
provider or a store has failed, and it keeps that failure as its cause (`Reports`).

A stage guards questions of one kind.  Up to the guard a dialogue fails as the question does
(`Bare`); behind it the failure is told with the fault of the stage (`Bare.rescue`).  Dialogues that
report what has failed can be put in a row (`Reporting.bind`).
-/

namespace AccountRecovery

open Dialogue Recovery

namespace Call

def Declares (e : Failure) : Call → Prop
  | tenantId _ => ∃ r : RecoveryError, e = .recovery r ∧ r.fault = .invalidTenant
  | findUsers .. => ∃ m, e = .directory m
  | claimValues .. => ∃ m, e = .directory m
  | secondaryStoreExists .. => ∃ m, e = .directory m
  | isDisabled _ => ∃ m, e = .accountStatus m
  | isLocked _ => ∃ m, e = .accountStatus m
  | load _ => ∃ s, e = .store s
  | store _ => ∃ s, e = .store s
  | invalidate _ => ∃ s, e = .store s

def fault? : Call → Option RecoveryFault
  | findUsers .. => some .claimLookup
  | secondaryStoreExists .. => some .claimLookup
  | isDisabled _ => some .statusCheck
  | isLocked _ => some .statusCheck
  | claimValues .. => some .claimsLoad
  | invalidate _ => some .recordStore
  | store _ => some .recordStore
  | tenantId _ => none
  | load _ => none

theorem side_of_fault? {q : Call} {fault : RecoveryFault} (h : q.fault? = some fault) :
    fault.side = .server := by
  cases q <;> cases h <;> rfl

end Call

def RecoveryFault.Covers (e : Failure) : RecoveryFault → Prop
  | claimLookup => ∃ m, e = .directory m
  | claimsLoad => ∃ m, e = .directory m
  | statusCheck => ∃ m, e = .accountStatus m
  | recordStore => ∃ s, e = .store s
  | _ => False

theorem Call.covers_of_declares {q : Call} {e : Failure} {fault : RecoveryFault}
    (hdeclared : q.Declares e) (hfault : q.fault? = some fault) : fault.Covers e := by
  cases q <;> cases hfault <;> exact hdeclared

theorem RecoveryFault.Covers.collaborator {fault : RecoveryFault} {e : Failure}
    (h : fault.Covers e) : ∃ c, e = .collaborator c := by
  cases fault with
  | claimLookup | claimsLoad | statusCheck | recordStore =>
      obtain ⟨m, rfl⟩ := h
      exact ⟨_, rfl⟩
  | _ => exact h.elim

namespace Dialogue

variable {α β σ : Type} {fault : RecoveryFault}

/-- Collaborators that fail only as they declare. -/
def Honest (answer : Handler σ) : Prop :=
  ∀ q s e, (answer q s).1 = .error e → q.Declares e

def Exchange.Raises (x : Exchange) (c : CollaboratorError) : Prop :=
  x.answer = .error (.collaborator c)

theorem Honest.declares {answer : Handler σ} (honest : Honest answer) (codes : CodeSource) (s : σ)
    (n : Nat) (d : Dialogue α) {x : Exchange} (hx : x ∈ d.exchanges answer codes s n) {e : Failure}
    (he : x.answer = .error e) : x.call.Declares e := by
  induction d generalizing s n with
  | done a => cases hx
  | fail e => cases hx
  | ask q next ih =>
      rcases List.mem_cons.1 hx with rfl | hx
      · exact honest q s e he
      · exact ih _ _ _ hx
  | note entry next ih => exact ih s n hx
  | newCode next ih => exact ih _ s (n + 1) hx

/-! ## Failures that no one has told yet -/

/-- However it is answered, the dialogue asks questions with this fault only, and it fails as one of
them does, or not at all. -/
def Bare (fault : RecoveryFault) (d : Dialogue α) : Prop :=
  ∀ (σ : Type) (answer : Handler σ) (codes : CodeSource) (s : σ) (n : Nat),
    (∀ x ∈ d.exchanges answer codes s n, x.call.fault? = some fault) ∧
      ∀ e, (d.run answer codes s n).result = .error e ↔
        ∃ x ∈ d.exchanges answer codes s n, x.answer = .error e

theorem bare_done (a : α) : (done a).Bare fault := by
  intro σ answer codes s n
  simp [exchanges, run]

theorem bare_call {q : Call} (hq : q.fault? = some fault) : (call q).Bare fault := by
  intro σ answer codes s n
  rw [exchanges_call, (run_call q answer codes s n).1]
  simp [hq]

theorem Bare.bind {d : Dialogue α} {f : α → Dialogue β} (hd : d.Bare fault)
    (hf : ∀ a, (f a).Bare fault) : (d.bind f).Bare fault := by
  intro σ answer codes s n
  obtain ⟨hcalls, hfails⟩ := hd σ answer codes s n
  rw [run_bind, exchanges_bind, Outcome.andThen, Outcome.exchangesAfter]
  cases hresult : (d.run answer codes s n).result with
  | error e =>
      have hsame : ∀ e', Except.error (α := β) e = .error e' ↔
          (d.run answer codes s n).result = .error e' := by
        intro e'
        rw [hresult, Except.error.injEq, Except.error.injEq]
      simp only [List.append_nil]
      exact ⟨hcalls, fun e' => (hsame e').trans (hfails e')⟩
  | ok a =>
      obtain ⟨hcalls', hfails'⟩ :=
        hf a σ answer codes (d.run answer codes s n).state (d.run answer codes s n).drawn
      have hnone : ∀ e, ¬∃ x ∈ d.exchanges answer codes s n, x.answer = .error e := by
        intro e he
        have herror := (hfails e).2 he
        rw [hresult] at herror
        cases herror
      refine ⟨fun x hx => ?_, fun e => (hfails' e).trans ?_⟩
      · rcases List.mem_append.1 hx with hx | hx
        · exact hcalls x hx
        · exact hcalls' x hx
      · constructor
        · rintro ⟨x, hx, he⟩
          exact ⟨x, List.mem_append_right _ hx, he⟩
        · rintro ⟨x, hx, he⟩
          rcases List.mem_append.1 hx with hx | hx
          · exact (hnone e ⟨x, hx, he⟩).elim
          · exact ⟨x, hx, he⟩

/-! ## Failures that are told -/

/-- A result that accounts for the failures in a trace: it is no failure but one of the service, it
is on the server's side only if a collaborator has failed, and if one has, it tells so with the
fault of the question and the failure as its cause. -/
structure Reports (trace : List Exchange) (result : Except Failure α) : Prop where
  closed : ∀ e, result = .error e → ∃ r, e = .recovery r
  raised : ∀ r, result = .error (.recovery r) → r.fault.side = .server →
    ∃ x ∈ trace, ∃ c, x.Raises c
  told : ∀ x ∈ trace, ∀ c, x.Raises c → ∃ fault detail, x.call.fault? = some fault ∧
    result = .error (.recovery ⟨fault, detail, fault.code, some c⟩)

def Reporting (d : Dialogue α) : Prop :=
  ∀ (σ : Type) (answer : Handler σ), Honest answer → ∀ (codes : CodeSource) (s : σ) (n : Nat),
    Reports (d.exchanges answer codes s n) (d.run answer codes s n).result

theorem reports_ok {trace : List Exchange} {a : α} (h : ∀ x ∈ trace, ∀ c, ¬x.Raises c) :
    Reports trace (.ok a) where
  closed e he := by cases he
  raised r hr := by cases hr
  told x hx c hc := (h x hx c hc).elim

theorem reporting_done (a : α) : (done a).Reporting := by
  intro σ answer honest codes s n
  exact reports_ok (by simp [exchanges])

theorem reporting_refuse {fault : RecoveryFault} (hside : fault.side = .client)
    (detail : Option String) : (refuse fault detail : Dialogue α).Reporting := by
  intro σ answer honest codes s n
  refine ⟨fun e he => ?_, fun r hr hserver => ?_, fun x hx => nomatch hx⟩
  · cases he
    exact ⟨_, rfl⟩
  · cases hr
    rw [hside] at hserver
    cases hserver

theorem reporting_log (level : Log.Level) (source : Log.Source) (message : String) :
    (log level source message).Reporting := by
  intro σ answer honest codes s n
  exact reports_ok (by simp [log, exchanges])

theorem reporting_tenantId (domain : String) : (call (.tenantId domain)).Reporting := by
  intro σ answer honest codes s n
  rw [exchanges_call, (run_call _ answer codes s n).1]
  have hdeclared : ∀ e, (answer (.tenantId domain) s).1 = .error e →
      ∃ r : RecoveryError, e = .recovery r ∧ r.fault = .invalidTenant := honest _ s
  refine ⟨fun e he => ?_, fun r hr hserver => ?_, fun x hx c hc => ?_⟩
  · obtain ⟨r, rfl, -⟩ := hdeclared e he
    exact ⟨r, rfl⟩
  · obtain ⟨r', heq, hfault⟩ := hdeclared _ hr
    cases heq
    rw [hfault] at hserver
    cases hserver
  · rw [List.mem_singleton] at hx
    subst hx
    obtain ⟨r, heq, -⟩ := hdeclared _ hc
    cases heq

theorem reporting_code : code.Reporting := by
  intro σ answer honest codes s n
  exact reports_ok (by simp [code, exchanges])

theorem Reporting.bind {d : Dialogue α} {f : α → Dialogue β} (hd : d.Reporting)
    (hf : ∀ a, (f a).Reporting) : (d.bind f).Reporting := by
  intro σ answer honest codes s n
  have hfirst := hd σ answer honest codes s n
  rw [run_bind, exchanges_bind, Outcome.andThen, Outcome.exchangesAfter]
  cases hresult : (d.run answer codes s n).result with
  | error e =>
      rw [hresult] at hfirst
      simp only [List.append_nil]
      refine ⟨fun e' he' => ?_, fun r hr => ?_, fun x hx c hc => ?_⟩
      · cases he'
        exact hfirst.closed e rfl
      · cases hr
        exact hfirst.raised r rfl
      · obtain ⟨fault, detail, hfault, heq⟩ := hfirst.told x hx c hc
        cases heq
        exact ⟨fault, detail, hfault, rfl⟩
  | ok a =>
      have hsecond := hf a σ answer honest codes (d.run answer codes s n).state
        (d.run answer codes s n).drawn
      refine ⟨hsecond.closed, fun r hr hserver => ?_, fun x hx c hc => ?_⟩
      · obtain ⟨x, hx, hc⟩ := hsecond.raised r hr hserver
        exact ⟨x, List.mem_append_right _ hx, hc⟩
      · rcases List.mem_append.1 hx with hx | hx
        · -- The first dialogue has come to a value, so none of its questions has failed.
          obtain ⟨fault, detail, -, heq⟩ := hfirst.told x hx c hc
          rw [hresult] at heq
          cases heq
        · exact hsecond.told x hx c hc

/-- A guard that tells the failure of its questions makes a dialogue report. -/
theorem Bare.rescue (fault : RecoveryFault) {d : Dialogue α} {h : Failure → Dialogue α}
    (hd : d.Bare fault)
    (tells : ∀ c, fault.Covers (.collaborator c) → ∃ entry detail, h (.collaborator c) =
      .note entry (.fail (.recovery ⟨fault, detail, fault.code, some c⟩))) :
    (d.rescue h).Reporting := by
  intro σ answer honest codes s n
  obtain ⟨hcalls, hfails⟩ := hd σ answer codes s n
  rw [run_rescue, exchanges_rescue, Outcome.orElse]
  cases hresult : (d.run answer codes s n).result with
  | ok a =>
      simp only [hresult, List.append_nil]
      refine reports_ok fun x hx c hc => ?_
      have herror := (hfails _).2 ⟨x, hx, hc⟩
      rw [hresult] at herror
      cases herror
  | error e =>
      obtain ⟨x, hx, he⟩ := (hfails e).1 hresult
      have hcovers : fault.Covers e :=
        Call.covers_of_declares (honest.declares codes s n d hx he) (hcalls x hx)
      obtain ⟨c, rfl⟩ := hcovers.collaborator
      obtain ⟨entry, detail, htells⟩ := tells c hcovers
      simp only [htells, run, exchanges, List.append_nil]
      refine ⟨fun e' he' => ?_, fun r hr hserver => ⟨x, hx, c, he⟩, fun y hy c' hc' => ?_⟩
      · cases he'
        exact ⟨_, rfl⟩
      · -- The dialogue can have failed in one way only.
        have hsame := (hfails _).2 ⟨y, hy, hc'⟩
        rw [hresult] at hsame
        cases hsame
        exact ⟨fault, detail, hcalls y hy, rfl⟩

end Dialogue

/-! ## What the stages report -/

namespace Recovery

def search (tenantId : Int) (key value : String) : Dialogue (List String) :=
  (lookupValue tenantId value).bind fun sought => call (.findUsers tenantId key sought)

theorem bare_search (tenantId : Int) (key value : String) :
    (search tenantId key value).Bare .claimLookup := by
  refine Bare.bind ?_ fun sought => bare_call rfl
  unfold lookupValue
  split
  · exact Bare.bind (bare_call rfl) fun known => bare_done _
  · exact bare_done _

theorem reporting_matchingUsers (tenantId : Int) (key value : String) :
    (matchingUsers tenantId key value).Reporting := by
  refine (bare_search tenantId key value).rescue .claimLookup ?_
  rintro c ⟨m, heq⟩
  cases heq
  exact ⟨_, _, rfl⟩

theorem reporting_candidatesFor (tenantId : Int) (found : Option (List String)) (claims : Claims) :
    (candidatesFor tenantId found claims).Reporting := by
  induction claims generalizing found with
  | nil => exact reporting_done _
  | cons claim claims ih =>
      unfold candidatesFor
      split
      · refine Reporting.bind (reporting_log _ _ _) fun _ =>
          Reporting.bind (reporting_matchingUsers _ _ _) fun matched => ?_
        split
        · exact Reporting.bind (reporting_log _ _ _) fun _ => reporting_refuse rfl _
        · dsimp only
          split
          · exact Reporting.bind (reporting_log _ _ _) fun _ => reporting_refuse rfl _
          · exact Reporting.bind (reporting_log _ _ _) fun _ => ih _
      · exact ih _

theorem reporting_resolveUser (claims : Claims) (tenantDomain : String) :
    (resolveUser claims tenantDomain).Reporting := by
  unfold resolveUser
  split
  · exact reporting_refuse rfl _
  · refine Reporting.bind (reporting_tenantId _) fun id =>
      Reporting.bind (reporting_candidatesFor _ _ _) fun found => ?_
    split
    · exact reporting_done _
    · exact Reporting.bind (reporting_log _ _ _) fun _ => reporting_refuse rfl _
    · exact reporting_refuse rfl _

theorem reporting_clear (a : Account) : (clear a).Reporting := by
  refine Reporting.bind (Bare.rescue .statusCheck ?_ ?_) fun status => ?_
  · refine Bare.bind (bare_call rfl) fun disabled => ?_
    split
    · exact bare_done _
    · exact Bare.bind (bare_call rfl) fun locked => bare_done _
  · rintro c ⟨m, heq⟩
    cases heq
    exact ⟨_, _, rfl⟩
  · split
    · exact reporting_refuse rfl _
    · exact reporting_refuse rfl _
    · exact reporting_done _

theorem isSelfRegistered_isOk {s : Selector} (separator : s.roleSeparator ≠ "")
    (roles : Option String) : ∃ b, s.isSelfRegistered roles = .ok b := by
  unfold Selector.isSelfRegistered
  split
  · exact ⟨_, rfl⟩
  · split
    · exact ⟨_, rfl⟩
    · rw [if_neg (by simpa using separator)]
      exact ⟨_, rfl⟩

theorem reporting_selectChannels {s : Selector} (separator : s.roleSeparator ≠ "")
    (username tenantDomain : String) (managed : Bool) :
    (selectChannels s username tenantDomain managed).Reporting := by
  unfold selectChannels
  split
  · refine Reporting.bind ?_ fun values => ?_
    · refine Reporting.bind (reporting_tenantId _) fun id =>
        Bare.rescue .claimsLoad (bare_call rfl) ?_
      rintro c ⟨m, heq⟩
      cases heq
      exact ⟨_, _, rfl⟩
    · split
      · exact reporting_refuse rfl _
      · obtain ⟨b, hb⟩ := isSelfRegistered_isOk separator (Selector.claimText values s.rolesClaim)
        rw [hb]
        refine Reporting.bind (reporting_done b) fun selfRegistered =>
          Reporting.bind (reporting_log _ _ _) fun _ => ?_
        split
        · exact reporting_refuse rfl _
        · exact reporting_done _
  · exact reporting_done _

theorem reporting_issue (username tenantDomain : String) (channels : List Channel)
    (scenario : Scenario) : (issue username tenantDomain channels scenario).Reporting := by
  refine Reporting.bind reporting_code fun code =>
    Reporting.bind (Bare.rescue .recordStore ?_ ?_) fun _ =>
      Reporting.bind (reporting_log _ _ _) fun _ => reporting_done _
  · exact Bare.bind (bare_call rfl) fun _ => bare_call rfl
  · rintro c ⟨m, heq⟩
    cases heq
    exact ⟨_, _, rfl⟩

end Recovery

theorem Service.reporting_recover {s : Service} (separator : s.selector.roleSeparator ≠ "")
    (q : RecoveryRequest) : (s.recover q).Reporting := by
  rw [recover_eq]
  refine Reporting.bind ?_ fun approved =>
    Reporting.bind (reporting_issue _ _ _ _) fun record => reporting_done _
  exact Reporting.bind (reporting_resolveUser _ _) fun username =>
    Reporting.bind (reporting_clear _) fun _ =>
      Reporting.bind (reporting_selectChannels separator _ _ _) fun channels => reporting_done _

end AccountRecovery
