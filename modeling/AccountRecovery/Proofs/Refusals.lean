import AccountRecovery.Proofs.Configuration
import AccountRecovery.Proofs.Endpoints
/-!
# Refused validations

What an application has served tells which codes are gone: those that were never handed out, and
those that something has ended since.  The store has no records but those of codes that stand
(`Run.backed`).  So a validation of a code that is gone is refused, and it is refused with the very
answer that a code gets at another step than its own (`Run.refused`).
-/

namespace AccountRecovery

open Dialogue Recovery

namespace Api

/-! ## Forms and bodies tell themselves apart -/

namespace Request.Asks

variable {α β : Type} {r : Request} {route route' : Application.Route}
  {ofMembers : List (String × Json) → Form.Checked α}
  {ofMembers' : List (String × Json) → Form.Checked β} {f : α}

theorem form_eq {f' : α} (h : r.Asks route ofMembers f) (h' : r.Asks route ofMembers f') :
    f = f' := by
  obtain ⟨-, -, v, hdecode, hread⟩ := h
  obtain ⟨-, -, v', hdecode', hread'⟩ := h'
  rw [hdecode, Except.ok.injEq] at hdecode'
  rw [← hdecode', hread, Form.Checked.valid.injEq] at hread'
  exact hread'

theorem route_eq {f' : β} (h : r.Asks route ofMembers f) (h' : r.Asks route' ofMembers' f') :
    route = route' :=
  Option.some.inj (h.routed.symm.trans h'.routed)

end Request.Asks

theorem InitResponse.eq_of_toJson {b b' : InitResponse} (h : b.toJson = b'.toJson) :
    b.username = b'.username ∧ b.recoveryCode = b'.recoveryCode := by
  simp only [toJson, Json.object.injEq, List.cons.injEq, Prod.mk.injEq, Json.text.injEq] at h
  exact ⟨h.1.2, h.2.1.2⟩

/-! ## What was served -/

structure Served where
  now : Instant
  request : Request
  response : Response

def Served.Issues (x : Served) (a : Account) (code : String) : Prop :=
  ∃ f body, x.request.Asks .init InitRequest.ofMembers f ∧
    x.response = ⟨200, .json (InitResponse.toJson body)⟩ ∧
      a = .ofRawName body.username f.tenantDomain ∧ code = body.recoveryCode

/-- What is read off the answer to a recovery is what it came to. -/
theorem Served.Issues.eq_of_response {x : Served} {a : Account} {code : String} {f : InitRequest}
    {info : RecoveryInfo} (h : x.Issues a code)
    (hasks : x.request.Asks .init InitRequest.ofMembers f)
    (hresponse : x.response = initResponse (.ok info)) :
    a = .ofRawName info.username f.tenantDomain ∧ code = info.code := by
  obtain ⟨f', body, hasks', hok, rfl, rfl⟩ := h
  obtain rfl := hasks.form_eq hasks'
  rw [hresponse, initResponse, Response.mk.injEq, Body.json.injEq] at hok
  obtain ⟨husername, hcode⟩ := InitResponse.eq_of_toJson hok.2
  rw [← husername, ← hcode]
  exact ⟨rfl, rfl⟩

/-- What ends a code: another one for its account, the same one for any account, and a validation
that comes too late. -/
def Served.Ends (x : Served) (k : Ticket) : Prop :=
  (∃ a code, x.Issues a code ∧ (a = k.account ∨ code = k.code)) ∨
    ∃ f, x.request.Asks .validate ValidateRequest.ofMembers f ∧ f.code = k.code ∧ ¬k.Good x.now

variable {trace : List Served} {x : Served} {k : Ticket}

def Stands (trace : List Served) (k : Ticket) : Prop :=
  ∃ later x earlier, trace = later ++ x :: earlier ∧ x.now = k.issuedAt ∧
    x.Issues k.account k.code ∧ ∀ y ∈ later, ¬y.Ends k

/-- The code was never handed out, or it was ended each time. -/
def Gone (ttl : Int) (trace : List Served) (code : String) : Prop :=
  ∀ a t, ¬Stands trace ⟨a, code, t, ttl⟩

theorem Stands.cons (h : Stands trace k) (hspared : ¬x.Ends k) : Stands (x :: trace) k := by
  obtain ⟨later, y, earlier, rfl, hnow, hissues, hlater⟩ := h
  refine ⟨x :: later, y, earlier, rfl, hnow, hissues, fun z hz => ?_⟩
  rcases List.mem_cons.1 hz with rfl | hz
  · exact hspared
  · exact hlater z hz

theorem stands_of_issues (hissues : x.Issues k.account k.code) (hnow : x.now = k.issuedAt) :
    Stands (x :: trace) k :=
  ⟨[], x, trace, rfl, hnow, hissues, by simp⟩

namespace Application

variable {app : Application} {i : Installation} {st : Installation.State} {now : Instant}
  {r : Request}

/-- What an application has served since it was started with an in-memory store, with its seed
readable and its masking patterns valid, and what it has become.  The last request comes first. -/
inductive Run (s : Surroundings) (pool : Database.Pool) : List Served → Application → Prop
  | start {app : Application} (started : (start s pool).result = .ok app)
      (memory : ∃ m, app.storage = .ok (.memory m)) (seed : ∃ d, app.readDirectory.1 = .ok d)
      (masking : ∃ m, app.masker = .ok m) : Run s pool [] app
  | serve {trace : List Served} {app : Application} (before : Run s pool trace app) (now : Instant)
      (r : Request) :
      Run s pool (⟨now, r, (app.handle now r).response⟩ :: trace) (app.handle now r).app

/-- The store is well-formed, and its records are those of codes that stand. -/
structure Backed (trace : List Served) (st : Installation.State) : Prop where
  wf : st.store.WellFormed
  stands : ∀ p ∈ st.store.records, ∃ t, p.2.createdAt = some t ∧
    Stands trace ⟨p.2.account, p.1, t, st.store.ttl⟩

theorem Backed.cons (h : Backed trace st) (hspared : ∀ k, ¬x.Ends k) : Backed (x :: trace) st where
  wf := h.wf
  stands p hp := by
    obtain ⟨t, ht, hstands⟩ := h.stands p hp
    exact ⟨t, ht, hstands.cons (hspared _)⟩

theorem not_issues_of_failure {e : Failure} (hresponse : x.response = (Response.ofFailure e).1)
    (a : Account) (code : String) : ¬x.Issues a code := by
  rintro ⟨f, body, -, hok, -, -⟩
  apply status_ofFailure_ne e
  rw [← hresponse, hok]

theorem Backed.init {f : InitRequest} {response : Response} (h : Backed trace st)
    (hasks : r.Asks .init InitRequest.ofMembers f)
    (hresponse : response = initResponse (i.resolve now st f.recovery).result) :
    Backed (⟨now, r, response⟩ :: trace) (i.resolve now st f.recovery).after := by
  have hnovalidate (f' : ValidateRequest) :
      ¬r.Asks .validate ValidateRequest.ofMembers f' := fun hasks' =>
    nomatch hasks.route_eq hasks'
  rcases i.resolve_cases now st f.recovery with ⟨e, -, hresult, hafter⟩ |
    ⟨u, channels, -, hresult, hafter⟩
  · rw [hresult] at hresponse
    rw [hafter]
    refine h.cons fun k => ?_
    rintro (⟨a, code, hissues, -⟩ | ⟨f', hasks', -⟩)
    · exact not_issues_of_failure hresponse a code hissues
    · exact hnovalidate f' hasks'
  · rw [hresult] at hresponse
    rw [hafter]
    refine ⟨(h.wf.invalidate _).store now _, fun p hp => ?_⟩
    rcases MemoryStore.mem_store.1 hp with ⟨⟨hold, -⟩, hcode⟩ | rfl
    · obtain ⟨hold, haccount⟩ := MemoryStore.mem_invalidate.1 hold
      obtain ⟨t, ht, hstands⟩ := h.stands p hold
      refine ⟨t, ht, hstands.cons ?_⟩
      rintro (⟨a, code, hissues, hsame⟩ | ⟨f', hasks', -⟩)
      · obtain ⟨rfl, rfl⟩ := hissues.eq_of_response hasks hresponse
        exact hsame.elim (fun h => haccount h.symm) fun h => hcode h.symm
      · exact hnovalidate f' hasks'
    · exact ⟨now, rfl, stands_of_issues ⟨f, _, hasks, hresponse, rfl, rfl⟩ rfl⟩

theorem Backed.validate {f : ValidateRequest} (h : Backed trace st)
    (hasks : r.Asks .validate ValidateRequest.ofMembers f) (response : Response) :
    Backed (⟨now, r, response⟩ :: trace) (i.validate now st f.code f.step).after := by
  rw [(i.validate_eq now st f.code f.step).2]
  refine ⟨h.wf.load now f.code, fun p hp => ?_⟩
  obtain ⟨hold, hfresh⟩ := h.wf.mem_load.1 hp
  obtain ⟨t, ht, hstands⟩ := h.stands p hold
  rw [MemoryStore.ttl_load]
  refine ⟨t, ht, hstands.cons ?_⟩
  rintro (⟨a, code, ⟨f', body, hasks', -⟩, -⟩ | ⟨f', hasks', hcode, hlate⟩)
  · exact nomatch hasks.route_eq hasks'
  · obtain rfl := hasks.form_eq hasks'
    have hexpired := hfresh hcode.symm
    rw [← Bool.not_eq_true, MemoryStore.isExpired_of_createdAt ht, Int.not_lt] at hexpired
    exact hlate hexpired

/-- Whatever is served, the store has no records but those of codes that stand. -/
theorem Backed.serve (h : Backed trace st) (hcarries : app.Carries i st) (now : Instant)
    (r : Request) :
    ∃ st', (app.handle now r).app.Carries i st' ∧
      Backed (⟨now, r, (app.handle now r).response⟩ :: trace) st' := by
  rcases hcarries.handle_cases now r with ⟨f, hasks, hresponse, hcarries'⟩ |
    ⟨f, hasks, -, hcarries'⟩ | ⟨hinit, hvalidate, hcarries'⟩
  · exact ⟨_, hcarries', h.init hasks hresponse⟩
  · exact ⟨_, hcarries', h.validate hasks _⟩
  · refine ⟨st, hcarries', h.cons fun k => ?_⟩
    rintro (⟨a, code, ⟨f, body, hasks, -⟩, -⟩ | ⟨f, hasks, -⟩)
    · exact hinit f hasks
    · exact hvalidate f hasks

variable {s : Surroundings} {pool : Database.Pool} {m : MemoryStore}

theorem storage_of_start (h : (start s pool).result = .ok app) :
    app.storage = storageOf s app.settings := by
  obtain ⟨settings, opened, -, -, -, rfl⟩ := eq_of_start h
  rfl

theorem records_of_start (h : (start s pool).result = .ok app)
    (hmemory : app.storage = .ok (.memory m)) : m = ⟨m.ttl, []⟩ := by
  rw [storage_of_start h, storageOf] at hmemory
  split at hmemory
  · cases hmemory
  · unfold MemoryStore.make at hmemory
    dsimp only at hmemory
    split at hmemory
    · cases hmemory
    · cases hmemory
      rfl

theorem Run.backed (run : Run s pool trace app) :
    ∃ i st, app.Carries i st ∧ Backed trace st := by
  induction run with
  | @start app started memory seed masking =>
      obtain ⟨m, hmemory⟩ := memory
      obtain ⟨d, hseed⟩ := seed
      obtain ⟨masker, hmasking⟩ := masking
      let i : Installation :=
        ⟨⟨app.settings.selector, masker, app.settings.managedInternally⟩,
          ⟨d, app.settings.tenantIds, app.surroundings.statuses⟩, app.surroundings.codes⟩
      have hcarries : app.Carries i ⟨m, app.drawn⟩ :=
        ⟨prepare_eq_ok_iff.2 ⟨masker, d, hmemory, hseed, hmasking, rfl, rfl⟩, rfl, rfl⟩
      have hempty : m = ⟨m.ttl, []⟩ := records_of_start started hmemory
      refine ⟨i, ⟨m, app.drawn⟩, hcarries, ?_, ?_⟩
      · rw [hempty]
        exact MemoryStore.wellFormed_empty m.ttl
      · rw [hempty]
        simp
  | serve before now r ih =>
      obtain ⟨i, st, hcarries, hbacked⟩ := ih
      obtain ⟨st', hcarries', hbacked'⟩ := hbacked.serve hcarries now r
      exact ⟨i, st', hcarries', hbacked'⟩

/-! ## The one answer to codes that are withheld -/

def refusal : Response :=
  ⟨400, .json (.object [("detail",
    .object [("code", .text "UAR-10008"), ("message", .text "Invalid recovery code")])])⟩

theorem validateResponse_invalidCode (masker : Masker) (cause : Option CollaboratorError) :
    validateResponse masker
        (.error (.recovery ⟨.invalidCode, none, RecoveryFault.invalidCode.code, cause⟩)) =
      refusal := by
  have hcode : RecoveryFault.invalidCode.code = "UAR-10008" := by decide
  rw [hcode]
  rfl

/-- A validation that must not succeed: nothing is stored under its code, its code is gone, or its
code is stored and in time, but for another step. -/
inductive Withheld (trace : List Served) (m : MemoryStore) (now : Instant) (f : ValidateRequest) :
    Prop
  | unknown (nothing : ∀ record, (f.code, record) ∉ m.records)
  | gone (gone : Gone m.ttl trace f.code)
  | elsewhere {record : Record} (stored : (f.code, record) ∈ m.records)
      (fresh : m.isExpired now record = false) (other : record.step ≠ f.step)

theorem Backed.refuses {f : ValidateRequest} (h : Backed trace st)
    (hwithheld : Withheld trace st.store now f) (masker : Masker) :
    validateResponse masker (i.validate now st f.code f.step).result = refusal := by
  -- A code that is gone is not in the store either.
  have hcases : (∀ record, (f.code, record) ∉ st.store.records) ∨
      ∃ record, (f.code, record) ∈ st.store.records ∧
        st.store.isExpired now record = false ∧ record.step ≠ f.step := by
    cases hwithheld with
    | unknown nothing => exact .inl nothing
    | gone gone =>
        refine .inl fun record hrecord => ?_
        obtain ⟨t, -, hstands⟩ := h.stands _ hrecord
        exact gone _ t hstands
    | elsewhere stored fresh other => exact .inr ⟨_, stored, fresh, other⟩
  rw [(i.validate_eq now st f.code f.step).1]
  rcases h.wf.load_cases now f.code with ⟨hnone, hload⟩ | ⟨record, hrecord, hexpired, -⟩ |
    ⟨record, hrecord, -, hload⟩
  · simp only [MemoryStore.recordStore, hload, verdict]
    exact validateResponse_invalidCode masker _
  · rcases hcases with hnone | ⟨record', hrecord', hfresh, -⟩
    · exact (hnone record hrecord).elim
    · rw [h.wf.record_unique hrecord hrecord', hfresh] at hexpired
      cases hexpired
  · rcases hcases with hnone | ⟨record', hrecord', -, hother⟩
    · exact (hnone record hrecord).elim
    · rw [← h.wf.record_unique hrecord hrecord'] at hother
      simp only [MemoryStore.recordStore, hload, verdict, if_neg hother]
      exact validateResponse_invalidCode masker none

theorem Carries.storage_eq (h : app.Carries i st) : app.storage = .ok (.memory st.store) := by
  obtain ⟨masker, d, hstorage, -⟩ := prepare_eq_ok_iff.1 h.prepare_eq
  exact hstorage

theorem Run.refused {f : ValidateRequest} (run : Run s pool trace app)
    (hmemory : app.storage = .ok (.memory m))
    (hasks : r.Asks .validate ValidateRequest.ofMembers f) (hwithheld : Withheld trace m now f) :
    (app.handle now r).response = refusal := by
  obtain ⟨i, st, hcarries, hbacked⟩ := run.backed
  have hm : m = st.store := by
    have hstorage := hmemory.symm.trans hcarries.storage_eq
    rwa [Except.ok.injEq, Storage.memory.injEq] at hstorage
  rw [(handle_of_validate hcarries now hasks).1]
  exact hbacked.refuses (hm ▸ hwithheld) i.service.masker

/-- Any two validations that are withheld are answered alike, in two states of one application or of
two.  The answer has the code and the message of the error, and nothing else: it does not depend on
the code and the step that were asked for, nor on any record. -/
theorem refusals_alike {s₁ s₂ : Surroundings} {pool₁ pool₂ : Database.Pool}
    {trace₁ trace₂ : List Served} {app₁ app₂ : Application} {m₁ m₂ : MemoryStore}
    {now₁ now₂ : Instant} {r₁ r₂ : Request} {f₁ f₂ : ValidateRequest}
    (run₁ : Run s₁ pool₁ trace₁ app₁) (memory₁ : app₁.storage = .ok (.memory m₁))
    (asks₁ : r₁.Asks .validate ValidateRequest.ofMembers f₁)
    (withheld₁ : Withheld trace₁ m₁ now₁ f₁)
    (run₂ : Run s₂ pool₂ trace₂ app₂) (memory₂ : app₂.storage = .ok (.memory m₂))
    (asks₂ : r₂.Asks .validate ValidateRequest.ofMembers f₂)
    (withheld₂ : Withheld trace₂ m₂ now₂ f₂) :
    (app₁.handle now₁ r₁).response = (app₂.handle now₂ r₂).response ∧
      (app₁.handle now₁ r₁).response =
        ⟨400, .json (.object [("detail",
          .object
            [("code", .text "UAR-10008"), ("message", .text "Invalid recovery code")])])⟩ := by
  have hfirst : (app₁.handle now₁ r₁).response = refusal :=
    run₁.refused memory₁ asks₁ withheld₁
  have hsecond : (app₂.handle now₂ r₂).response = refusal :=
    run₂.refused memory₂ asks₂ withheld₂
  exact ⟨hfirst.trans hsecond.symm, hfirst⟩

/-! ## An unknown code and another step -/

def seeded : Surroundings where
  environment := [("DIRECTORY_SEED_FILE", "seed.json")]
  files := [("seed.json", "\x7b\"-1234\": \x7b\"users\": \x7b\"ann\": \x7b\"name\": \"Ann\", " ++
    "\"urn:identity:claims:emailaddress\": \"ann@example.com\"\x7d\x7d\x7d\x7d")]
  codes := fun _ => "first"
  migrationsPath := ""

def validating (code : String) (step : Step) : Request :=
  ⟨"POST", "/v1/recovery/validate",
    .json (.object [("code", .text code), ("step", .text step.name)])⟩

/-- The codes in the memory of an application, with their steps and whether they are too old. -/
def heldCodes (app : Application) (now : Instant) : Option (List (String × Step × Bool)) :=
  match app.storage with
  | .ok (.memory m) => some (m.records.map fun p => (p.1, p.2.step, m.isExpired now p.2))
  | _ => none

theorem memory_of_heldCodes {held : List (String × Step × Bool)}
    (h : app.heldCodes now = some held) :
    ∃ m, app.storage = .ok (.memory m) ∧
      m.records.map (fun p => (p.1, p.2.step, m.isExpired now p.2)) = held := by
  unfold heldCodes at h
  split at h
  · next m hstorage => exact ⟨m, hstorage, Option.some.inj h⟩
  · cases h

def holdsFirst (app : Application) : Bool :=
  app.heldCodes 0 = some [] && app.readDirectory.1.isOk && app.masker.isOk &&
    (app.handle 0 addressInit).app.heldCodes 5 = some [("first", .sendInformation, false)]

/-- A code that was never handed out is refused like the first one at another step. -/
theorem refusals_alike_seeded :
    ∃ app, (start seeded {}).result = .ok app ∧
      (app.handle 5 (validating "other" .sendInformation)).response =
        ((app.handle 0 addressInit).app.handle 5
          (validating "first" .updatePassword)).response := by
  have hstart : (start seeded {}).result.toOption.any holdsFirst = true := by decide +kernel
  cases happ : (start seeded {}).result with
  | error e =>
      rw [happ] at hstart
      cases hstart
  | ok app =>
      rw [happ] at hstart
      change app.holdsFirst = true at hstart
      simp only [holdsFirst, Bool.and_eq_true, decide_eq_true_eq] at hstart
      obtain ⟨⟨⟨hempty, hseed⟩, hmasking⟩, hheld⟩ := hstart
      obtain ⟨m₁, hm₁, hnone⟩ := memory_of_heldCodes hempty
      obtain ⟨m₂, hm₂, hfirst⟩ := memory_of_heldCodes hheld
      have run₁ : Run seeded {} [] app :=
        .start happ ⟨m₁, hm₁⟩ (exists_of_isOk hseed) (exists_of_isOk hmasking)
      have asks₁ : (validating "other" .sendInformation).Asks .validate ValidateRequest.ofMembers
          ⟨"other", .sendInformation⟩ := ⟨by decide +kernel, rfl, _, rfl, rfl⟩
      have asks₂ : (validating "first" .updatePassword).Asks .validate ValidateRequest.ofMembers
          ⟨"first", .updatePassword⟩ := ⟨by decide +kernel, rfl, _, rfl, rfl⟩
      have withheld₁ : Withheld [] m₁ 5 ⟨"other", .sendInformation⟩ := by
        rw [List.map_eq_nil_iff] at hnone
        exact .unknown (by simp [hnone])
      have withheld₂ : Withheld
          [⟨0, addressInit, (app.handle 0 addressInit).response⟩] m₂ 5
          ⟨"first", .updatePassword⟩ := by
        rw [List.map_eq_singleton_iff] at hfirst
        obtain ⟨⟨code, record⟩, hrecords, heq⟩ := hfirst
        have hstored : (code, record) ∈ m₂.records := by simp [hrecords]
        rw [Prod.mk.injEq, Prod.mk.injEq] at heq
        obtain ⟨rfl, hstep, hfresh⟩ := heq
        refine .elsewhere hstored hfresh ?_
        rw [hstep]
        decide
      exact ⟨app, rfl, (refusals_alike run₁ hm₁ asks₁ withheld₁ (run₁.serve 0 addressInit) hm₂
        asks₂ withheld₂).1⟩

end Application

end Api

end AccountRecovery
