import AccountRecovery.Proofs.Records
import AccountRecovery.Proofs.Stages
/-!
# Sessions over the in-memory store

An installation is a service with its registry over an in-memory store.  A run starts with an empty
store and answers requests one after the other, each at a reading of the clock; the readings are in
no order.  `resolve_cases` and `validate_cases` say all that one request can do.
-/

namespace AccountRecovery

open Dialogue Recovery

/-! ## Consulting the registry, stage by stage -/

namespace Registry

variable {α β : Type} (r : Registry)

theorem consult_bind_eq_ok_iff {d : Dialogue α} (hd : d.Confined (·.concernsRecords = false))
    (f : α → Dialogue β) (b : β) :
    r.consult (d.bind f) = .ok b ↔ ∃ a, r.consult d = .ok a ∧ r.consult (f a) = .ok b := by
  obtain ⟨-, hstate, hdrawn⟩ := run_answer_of_confined hd r .empty (fun _ => "") () 0
  unfold consult
  rw [run_bind_eq_ok_iff, hstate, hdrawn]

theorem consult_approve_eq_ok_iff (s : Service) (q : RecoveryRequest) (username : String)
    (channels : List Channel) :
    r.consult (s.approve q) = .ok (username, channels) ↔
      r.consult (resolveUser q.claims q.tenantDomain) = .ok username ∧
        r.consult (clear (.ofRawName username q.tenantDomain)) = .ok () ∧
          r.consult (s.offer q username) = .ok channels := by
  have hfind := r.consult_bind_eq_ok_iff (β := String × List Channel)
    ((confined_resolveUser q.claims q.tenantDomain).mono fun _ => Call.concernsRecords_of_isLookup)
  have hclear a := r.consult_bind_eq_ok_iff (β := String × List Channel)
    ((confined_clear a).mono fun _ => Call.concernsRecords_of_asksStatusOf)
  have hoffer u := r.consult_bind_eq_ok_iff (β := String × List Channel)
    ((s.confined_offer q u).mono fun _ => Call.concernsRecords_of_asksChannelsOf)
  constructor
  · intro h
    obtain ⟨u, hu, h⟩ := (hfind _ _).1 h
    obtain ⟨⟨⟩, hcleared, h⟩ := (hclear _ _ _).1 h
    obtain ⟨cs, hcs, h⟩ := (hoffer _ _ _).1 h
    cases h
    exact ⟨hu, hcleared, hcs⟩
  · rintro ⟨hu, hcleared, hcs⟩
    refine (hfind _ _).2 ⟨_, hu, (hclear _ _ _).2 ⟨(), hcleared, ?_⟩⟩
    exact (hoffer _ _ _).2 ⟨_, hcs, rfl⟩

end Registry

/-! ## Installations -/

structure Installation where
  service : Service
  registry : Registry
  codes : CodeSource

namespace Installation

structure State where
  store : MemoryStore
  drawn : Nat := 0

end Installation

def Dialogue.Outcome.after {α : Type} (o : Outcome MemoryStore α) : Installation.State :=
  ⟨o.state, o.drawn⟩

namespace Installation

variable (i : Installation) (now : Instant) (st : State)

def resolve (q : RecoveryRequest) : Outcome MemoryStore RecoveryInfo :=
  (i.service.recover q).run (i.registry.answer (MemoryStore.recordStore now)) i.codes st.store
    st.drawn

def validate (code : String) (step : Step) : Outcome MemoryStore Record :=
  (i.service.validateCode code step).run (i.registry.answer (MemoryStore.recordStore now)) i.codes
    st.store st.drawn

def nextRecord (q : RecoveryRequest) (username : String) (channels : List Channel) : Record :=
  ⟨.ofRawName username q.tenantDomain, i.codes st.drawn, q.scenario, .sendInformation,
    Selection.serialize channels, none⟩

def issued (r : Record) : State :=
  ⟨(st.store.invalidate r.account).store now r, st.drawn + 1⟩

/-- Over the in-memory store, an approved recovery invalidates the records of its account and stores
that of the next code, without fail. -/
theorem run_conclude (q : RecoveryRequest) (username : String) (channels : List Channel) :
    (i.service.conclude q (username, channels)).run
        (i.registry.answer (MemoryStore.recordStore now))
        i.codes st.store st.drawn =
      let record := i.nextRecord st q username channels
      ⟨.ok ⟨username, record.code, channelInfos i.service.masker 1 channels⟩,
        (issued now st record).store, st.drawn + 1, [.invalidate record.account, .store record],
        [⟨.info, .recovery, "Recovery code issued for scenario " ++ q.scenario.name ++ " with " ++
          toString channels.length ++ " channel(s)"⟩]⟩ :=
  rfl

def approval (q : RecoveryRequest) : Outcome MemoryStore (String × List Channel) :=
  (i.service.approve q).run (i.registry.answer (MemoryStore.recordStore now)) i.codes st.store
    st.drawn

theorem resolve_eq (q : RecoveryRequest) :
    i.resolve now st q =
      match i.registry.consult (i.service.approve q) with
      | .ok (username, channels) =>
        let record := i.nextRecord st q username channels
        ⟨.ok ⟨username, record.code, channelInfos i.service.masker 1 channels⟩,
          (issued now st record).store, st.drawn + 1,
          (i.approval now st q).calls ++ [.invalidate record.account, .store record],
          (i.approval now st q).entries ++
            [⟨.info, .recovery, "Recovery code issued for scenario " ++ q.scenario.name ++
              " with " ++ toString channels.length ++ " channel(s)"⟩]⟩
      | .error e =>
        ⟨.error e, st.store, st.drawn, (i.approval now st q).calls,
          (i.approval now st q).entries⟩ := by
  obtain ⟨hresult, hstate, hdrawn⟩ :=
    Registry.run_answer_of_confined (i.service.confined_approve q) i.registry
      (MemoryStore.recordStore now) i.codes st.store st.drawn
  rw [resolve, Service.recover_eq, run_bind, Outcome.andThen, hresult]
  cases i.registry.consult (i.service.approve q) with
  | error e => simp only [hstate, hdrawn, approval]
  | ok approved =>
      obtain ⟨username, channels⟩ := approved
      simp only [hstate, hdrawn, run_conclude, approval]

/-- A recovery fails before it comes to the store, or it succeeds and the record of a new code takes
the place of all those of the account. -/
theorem resolve_cases (q : RecoveryRequest) :
    (∃ e, i.registry.consult (i.service.approve q) = .error e ∧
        (i.resolve now st q).result = .error e ∧ (i.resolve now st q).after = st) ∨
      ∃ username channels, i.registry.consult (i.service.approve q) = .ok (username, channels) ∧
        (i.resolve now st q).result =
          .ok ⟨username, i.codes st.drawn, channelInfos i.service.masker 1 channels⟩ ∧
        (i.resolve now st q).after = issued now st (i.nextRecord st q username channels) := by
  rw [resolve_eq]
  cases i.registry.consult (i.service.approve q) with
  | error e => exact .inl ⟨e, rfl, rfl, rfl⟩
  | ok approved => exact .inr ⟨approved.1, approved.2, rfl, rfl, rfl⟩

theorem validate_eq (code : String) (step : Step) :
    (i.validate now st code step).result =
        verdict step ((MemoryStore.recordStore now).load code st.store).1 ∧
      (i.validate now st code step).after = ⟨(st.store.load now code).2, st.drawn⟩ := by
  obtain ⟨hresult, hstate, hdrawn, -⟩ :=
    run_validate (i.registry.answer (MemoryStore.recordStore now)) i.codes st.store st.drawn code
      step
  refine ⟨hresult, ?_⟩
  change State.mk _ _ = _
  rw [State.mk.injEq]
  refine ⟨hstate.trans ?_, hdrawn⟩
  change ((MemoryStore.recordStore now).load code st.store).2 = _
  simp only [MemoryStore.recordStore]
  split <;> simp_all

/-- A code is unknown, it is too old, or it has a record, which is handed out at the step that it
names. -/
theorem validate_cases (code : String) (step : Step) (wf : st.store.WellFormed) :
    ((∀ r, (code, r) ∉ st.store.records) ∧
        faultOf (i.validate now st code step).result = some .invalidCode) ∨
      (∃ r, (code, r) ∈ st.store.records ∧ st.store.isExpired now r = true ∧
        faultOf (i.validate now st code step).result = some .expiredCode) ∨
      ∃ r, (code, r) ∈ st.store.records ∧ st.store.isExpired now r = false ∧
        (i.validate now st code step).result =
          if r.step = step then .ok r else .error (refused .invalidCode) := by
  rw [(i.validate_eq now st code step).1]
  rcases wf.load_cases now code with ⟨hnone, hload⟩ | ⟨r, hr, hexpired, hload⟩ |
    ⟨r, hr, hfresh, hload⟩
  · refine .inl ⟨hnone, ?_⟩
    simp only [MemoryStore.recordStore, hload]
    rfl
  · refine .inr (.inl ⟨r, hr, hexpired, ?_⟩)
    simp only [MemoryStore.recordStore, hload]
    rfl
  · refine .inr (.inr ⟨r, hr, hfresh, ?_⟩)
    simp only [MemoryStore.recordStore, hload]
    rfl

theorem mem_issued {r : Record} (fresh : ∀ p ∈ st.store.records, p.1 ≠ r.code)
    (p : String × Record) :
    p ∈ (issued now st r).store.records ↔
      (p ∈ st.store.records ∧ p.2.account ≠ r.account) ∨
        p = (r.code, { r with createdAt := some now }) := by
  rw [issued, MemoryStore.mem_store, MemoryStore.mem_invalidate]
  refine or_congr_left ⟨fun h => h.1.1, fun h => ⟨⟨h, fun hsame => h.2 hsame.1⟩, fresh p h.1⟩⟩

end Installation

/-! ## Runs -/

inductive Event where
  | resolved (now : Instant) (q : RecoveryRequest) (result : Except Failure RecoveryInfo)
  | validated (now : Instant) (code : String) (step : Step) (result : Except Failure Record)

/-- The runs of an installation: what happened, the last event first, and the state it led to. -/
inductive Installation.Run (i : Installation) (ttl : Int) : List Event → State → Prop
  | start : Run i ttl [] ⟨⟨ttl, []⟩, 0⟩
  | resolve {history st} (now : Instant) (q : RecoveryRequest) (before : Run i ttl history st) :
      Run i ttl (.resolved now q (i.resolve now st q).result :: history) (i.resolve now st q).after
  | validate {history st} (now : Instant) (code : String) (step : Step)
      (before : Run i ttl history st) :
      Run i ttl (.validated now code step (i.validate now st code step).result :: history)
        (i.validate now st code step).after

end AccountRecovery
