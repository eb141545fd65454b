import AccountRecovery.Collaborators
import AccountRecovery.Proofs.Conduct
import AccountRecovery.Recovery.Service
/-!
# Stages of a recovery

What each stage may ask: the search for the user asks for lookups, the clearance for the status of
its account, the offer for the claims of its user.  None of them turns to the record store, so the
three stages before a code is issued come to the same with any store, in whatever state
(`run_answer_of_confined`).
-/

namespace AccountRecovery

open Dialogue Recovery

def Call.concernsRecords : Call → Bool
  | load _ => true
  | store _ => true
  | invalidate _ => true
  | _ => false

def Call.isLookup : Call → Bool
  | tenantId _ => true
  | findUsers .. => true
  | secondaryStoreExists .. => true
  | _ => false

def Call.searchesIn (id : Int) : Call → Bool
  | findUsers asked _ _ => asked = id
  | secondaryStoreExists asked _ => asked = id
  | _ => false

def Call.asksStatusOf (a : Account) (q : Call) : Prop :=
  q = .isDisabled a ∨ q = .isLocked a

def Call.asksChannelsOf (s : Selector) (username tenantDomain : String) (q : Call) : Prop :=
  q = .tenantId tenantDomain ∨ ∃ id, q = .claimValues id username s.requiredClaims

theorem Call.isLookup_of_searchesIn {id : Int} {q : Call} (h : q.searchesIn id = true) :
    q.isLookup = true := by
  cases q <;> first | rfl | cases h

theorem Call.concernsRecords_of_isLookup {q : Call} (h : q.isLookup = true) :
    q.concernsRecords = false := by
  cases q <;> first | rfl | cases h

theorem Call.concernsRecords_of_asksStatusOf {a : Account} {q : Call} (h : q.asksStatusOf a) :
    q.concernsRecords = false := by
  rcases h with rfl | rfl <;> rfl

theorem Call.concernsRecords_of_asksChannelsOf {s : Selector} {username tenantDomain : String}
    {q : Call} (h : q.asksChannelsOf s username tenantDomain) : q.concernsRecords = false := by
  rcases h with rfl | ⟨id, rfl⟩ <;> rfl

namespace Recovery

def refused (fault : RecoveryFault) : Failure :=
  .recovery ⟨fault, none, fault.code, none⟩

def faultOf {α : Type} : Except Failure α → Option RecoveryFault
  | .error (.recovery e) => some e.fault
  | _ => none

/-! ## What the stages ask -/

theorem confined_matchingUsers (tenantId : Int) (key value : String) :
    (matchingUsers tenantId key value).Confined (·.searchesIn tenantId = true) := by
  refine Confined.rescue (Confined.bind ?_ fun v => confined_call (decide_eq_true rfl)) fun e => ?_
  · unfold lookupValue
    split
    · exact Confined.bind (confined_call (decide_eq_true rfl)) fun known => trivial
    · trivial
  · split
    · exact Confined.bind (confined_log _ _ _) fun _ => trivial
    · trivial

theorem confined_candidatesFor (tenantId : Int) (candidates : Option (List String))
    (claims : Claims) :
    (candidatesFor tenantId candidates claims).Confined (·.searchesIn tenantId = true) := by
  induction claims generalizing candidates with
  | nil => trivial
  | cons claim claims ih =>
      unfold candidatesFor
      split
      · refine Confined.bind (confined_log _ _ _) fun _ =>
          Confined.bind (confined_matchingUsers _ _ _) fun matched => ?_
        split
        · exact Confined.bind (confined_log _ _ _) fun _ => confined_refuse _ _
        · dsimp only
          split
          · exact Confined.bind (confined_log _ _ _) fun _ => confined_refuse _ _
          · exact Confined.bind (confined_log _ _ _) fun _ => ih _
      · exact ih _

theorem confined_resolveUser (claims : Claims) (tenantDomain : String) :
    (resolveUser claims tenantDomain).Confined (·.isLookup = true) := by
  unfold resolveUser
  split
  · exact confined_refuse _ _
  · refine Confined.bind (confined_call rfl) fun id =>
      Confined.bind ((confined_candidatesFor _ _ _).mono fun _ => Call.isLookup_of_searchesIn)
        fun found => ?_
    split
    · trivial
    · exact Confined.bind (confined_log _ _ _) fun _ => confined_refuse _ _
    · exact confined_refuse _ _

theorem confined_clear (a : Account) : (clear a).Confined (·.asksStatusOf a) := by
  refine Confined.bind (Confined.rescue ?_ fun e => ?_) fun status => ?_
  · refine Confined.bind (confined_call (.inl rfl)) fun disabled => ?_
    split
    · trivial
    · exact Confined.bind (confined_call (.inr rfl)) fun locked => trivial
  · split
    · exact Confined.bind (confined_log _ _ _) fun _ => trivial
    · trivial
  · split <;> trivial

theorem confined_selectChannels (s : Selector) (username tenantDomain : String) (managed : Bool) :
    (selectChannels s username tenantDomain managed).Confined
      (·.asksChannelsOf s username tenantDomain) := by
  unfold selectChannels
  split
  · refine Confined.bind ?_ fun values => ?_
    · refine Confined.bind (confined_call (.inl rfl)) fun id =>
        Confined.rescue (confined_call (.inr ⟨id, rfl⟩)) fun e => ?_
      split
      · exact Confined.bind (confined_log _ _ _) fun _ => trivial
      · trivial
    · split
      · exact confined_refuse _ _
      · refine Confined.bind (confined_ofExcept _) fun selfRegistered =>
          Confined.bind (confined_log _ _ _) fun _ => ?_
        split <;> trivial
  · trivial

end Recovery

/-! ## The order of the stages -/

structure RecoveryRequest where
  claims : Claims
  tenantDomain : String
  scenario : Scenario
  properties : List (String × String)

namespace Service

variable (s : Service) (q : RecoveryRequest)

def recover : Dialogue RecoveryInfo :=
  s.resolveRecovery q.claims q.tenantDomain q.scenario q.properties

def manages : Bool :=
  isManagedInternally q.properties s.managedInternally

def offer (username : String) : Dialogue (List Channel) :=
  selectChannels s.selector username q.tenantDomain (s.manages q)

/-- The stages before a code is issued: the user and the channels that are offered. -/
def approve : Dialogue (String × List Channel) :=
  (resolveUser q.claims q.tenantDomain).bind fun username =>
    (clear (.ofRawName username q.tenantDomain)).bind fun _ =>
      (s.offer q username).bind fun channels => done (username, channels)

/-- The stages from the issue of a code on. -/
def conclude (approved : String × List Channel) : Dialogue RecoveryInfo :=
  (issue approved.1 q.tenantDomain approved.2 q.scenario).bind fun record =>
    done ⟨approved.1, record.code, channelInfos s.masker 1 approved.2⟩

theorem recover_eq : s.recover q = (s.approve q).bind (s.conclude q) := by
  simp only [recover, resolveRecovery, approve, offer, manages, bind_eq, bind_bind]
  rfl

theorem confined_offer (username : String) :
    (s.offer q username).Confined (·.asksChannelsOf s.selector username q.tenantDomain) :=
  confined_selectChannels _ _ _ _

theorem confined_approve : (s.approve q).Confined (·.concernsRecords = false) := by
  refine Confined.bind ((confined_resolveUser _ _).mono ?_) fun username =>
    Confined.bind ((confined_clear _).mono ?_) fun _ =>
      Confined.bind ((s.confined_offer q _).mono ?_) fun channels => trivial
  · exact fun _ => Call.concernsRecords_of_isLookup
  · exact fun _ => Call.concernsRecords_of_asksStatusOf
  · exact fun _ => Call.concernsRecords_of_asksChannelsOf

end Service

/-! ## Validation -/

namespace Recovery

def verdict (expected : Step) : Except Failure (Option Record) → Except Failure Record
  | .ok none => .error (refused .noRecoveryData)
  | .ok (some record) =>
    if record.step = expected then .ok record else .error (refused .invalidCode)
  | .error (.collaborator (.store e)) =>
    match e.fault with
    | .unknownCode =>
      .error (.recovery ⟨.invalidCode, none, RecoveryFault.invalidCode.code, some (.store e)⟩)
    | .expiredCode =>
      .error (.recovery ⟨.expiredCode, none, RecoveryFault.expiredCode.code, some (.store e)⟩)
    | .general =>
      .error (.recovery
        ⟨.storeFailure, some e.message, qualifyCode e.code recoveryScenario, some (.store e)⟩)
  | .error e => .error e

theorem run_validate {σ : Type} (answer : Handler σ) (codes : CodeSource) (st : σ) (n : Nat)
    (code : String) (expected : Step) :
    ((validate code expected).run answer codes st n).result =
        verdict expected (answer (.load code) st).1 ∧
      ((validate code expected).run answer codes st n).state = (answer (.load code) st).2 ∧
      ((validate code expected).run answer codes st n).drawn = n ∧
      ((validate code expected).run answer codes st n).calls = [.load code] := by
  simp only [validate, loadRecord, call, bind_eq, rescue, Dialogue.bind, run]
  rcases (answer (.load code) st).1 with e | (_ | record)
  · cases e with
    | collaborator e =>
        cases e with
        | store e =>
            simp only [verdict, Dialogue.ofExcept, rescue]
            cases e.fault <;> exact ⟨rfl, rfl, rfl, rfl⟩
        | _ => exact ⟨rfl, rfl, rfl, rfl⟩
    | _ => exact ⟨rfl, rfl, rfl, rfl⟩
  · exact ⟨rfl, rfl, rfl, rfl⟩
  · simp only [verdict, Dialogue.ofExcept, rescue, Dialogue.bind]
    split <;> exact ⟨rfl, rfl, rfl, rfl⟩

end Recovery

/-! ## Consulting the registry -/

def RecordStore.empty : RecordStore Unit where
  load _ s := (.ok none, s)
  store _ s := (.ok (), s)
  invalidate _ s := (.ok (), s)

namespace Registry

variable {α σ : Type}

/-- What becomes of a dialogue that needs no record store. -/
def consult (r : Registry) (d : Dialogue α) : Except Failure α :=
  (d.run (r.answer .empty) (fun _ => "") () 0).result

/-- Whatever store there is, it is neither asked nor changed. -/
theorem run_answer_of_confined {d : Dialogue α} (hd : d.Confined (·.concernsRecords = false))
    (r : Registry) (records : RecordStore σ) (codes : CodeSource) (st : σ) (n : Nat) :
    (d.run (r.answer records) codes st n).result = r.consult d ∧
      (d.run (r.answer records) codes st n).state = st ∧
      (d.run (r.answer records) codes st n).drawn = n := by
  have hagree (q : Call) (s : σ) (t : Unit) (hq : q.concernsRecords = false) :
      (r.answer records q s).1 = (r.answer .empty q t).1 := by
    cases q <;> first | rfl | cases hq
  have hkeeps (q : Call) (s : σ) (hq : q.concernsRecords = false) :
      id (r.answer records q s).2 = id s := by
    cases q <;> first | rfl | cases hq
  exact ⟨(hd.run_agree hagree _ _ _ _ _ _).1, hd.view_run hkeeps _ _ _, hd.drawn_run _ _ _ _⟩

end Registry

end AccountRecovery
