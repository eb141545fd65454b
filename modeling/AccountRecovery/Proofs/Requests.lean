import AccountRecovery.Api.Request
import AccountRecovery.Proofs.Session
/-!
# Requests over the in-memory store

An application with an in-memory store carries an installation (`Carries`).  A request with a form
in its body is answered as the installation recovers (`handle_of_init`) or validates
(`handle_of_validate`), and all other requests leave its state alone (`handle_of_neither`).  That is
all that a request can do (`Carries.handle_cases`).
-/

namespace AccountRecovery

open Dialogue Recovery

namespace Api

/-! ## Forms of requests -/

structure Request.Asks {α : Type} (r : Request) (route : Application.Route)
    (ofMembers : List (String × Json) → Form.Checked α) (form : α) : Prop where
  routed : Application.Route.ofPath? (Application.barePath r.path) = some route
  method_eq : r.method = route.method
  readable : ∃ v, Application.decode r.payload = .ok v ∧
    Application.readBody ofMembers v = .valid form

def InitRequest.recovery (f : InitRequest) : RecoveryRequest :=
  ⟨f.claims, f.tenantDomain, f.scenario, f.properties⟩

def InitResponse.ofInfo (info : RecoveryInfo) : InitResponse :=
  ⟨info.username, info.code,
    info.channels.map fun c => ⟨c.id, c.type, c.value, c.preferred⟩⟩

def ValidateResponse.ofRecord (m : Masker) (r : Record) : ValidateResponse :=
  ⟨r.account.username, r.account.tenantDomain, r.account.storeDomain, r.scenario, r.step,
    Application.maskedEntries m (Selection.parse r.selection).entries⟩

def initResponse : Except Failure RecoveryInfo → Response
  | .ok info => ⟨200, .json (InitResponse.ofInfo info).toJson⟩
  | .error e => (Response.ofFailure e).1

def validateResponse (m : Masker) : Except Failure Record → Response
  | .ok r => ⟨200, .json (ValidateResponse.ofRecord m r).toJson⟩
  | .error e => (Response.ofFailure e).1

theorem status_ofFailure_ne (e : Failure) : (Response.ofFailure e).1.status ≠ 200 := by
  have hclient (fault : RecoveryFault) : Response.clientStatus fault ≠ 200 := by
    cases fault <;> decide
  cases e with
  | recovery e =>
      unfold Response.ofFailure Response.ofError
      dsimp only
      split
      · exact hclient e.fault
      · decide
  | _ => exact (by decide : (500 : Nat) ≠ 200)

namespace Application

variable {app : Application} {i : Installation} {st : Installation.State}

/-! ## Conversations over the in-memory store -/

theorem converse_memory {α : Type} (app : Application) (now : Instant) (s : Service) (r : Registry)
    (m : MemoryStore) (d : Dialogue α) :
    app.converse now ⟨s, r, .memory m⟩ d =
      let o := d.run (r.answer (MemoryStore.recordStore now)) app.surroundings.codes m app.drawn
      (o.result, { app with storage := .ok (.memory o.state), drawn := o.drawn }, o.entries) := by
  have hsimulates (q : Call) (m : MemoryStore) :
      r.answer (recordStore app.settings.codeTtlSeconds now) q (.memory m, app.pool) =
        ((r.answer (MemoryStore.recordStore now) q m).1,
          .memory (r.answer (MemoryStore.recordStore now) q m).2, app.pool) := by
    cases q <;> rfl
  have hrun := run_mapState (f := fun m => (Storage.memory m, app.pool)) _ app.surroundings.codes m
    app.drawn hsimulates d
  unfold converse
  rw [hrun]
  rfl

/-! ## What is prepared -/

theorem prepare_eq_ok_iff {t : Tools} :
    app.prepare.1 = .ok t ↔
      ∃ masker d, app.storage = .ok t.storage ∧ app.readDirectory.1 = .ok d ∧
        app.masker = .ok masker ∧
        t.service = ⟨app.settings.selector, masker, app.settings.managedInternally⟩ ∧
        t.registry = ⟨d, app.settings.tenantIds, app.surroundings.statuses⟩ := by
  unfold prepare
  cases app.storage with
  | error e => simp
  | ok storage =>
      rcases app.readDirectory with ⟨e | d, entries⟩
      · simp
      · dsimp only
        cases app.masker with
        | error e => simp
        | ok masker =>
            constructor
            · rintro ⟨⟩
              exact ⟨masker, d, rfl, rfl, rfl, rfl, rfl⟩
            · rintro ⟨masker', d', hstorage, hd, hmasker, hservice, hregistry⟩
              cases hstorage
              cases hd
              cases hmasker
              dsimp only
              rw [← hservice, ← hregistry]

theorem prepare_of_ok {t : Tools} (h : app.prepare.1 = .ok t) :
    app.prepare.2.1 = { app with directory := some t.registry.directory } := by
  obtain ⟨masker, d, hstorage, hd, hmasker, -, hregistry⟩ := prepare_eq_ok_iff.1 h
  unfold prepare
  rw [hstorage, hregistry]
  rcases hread : app.readDirectory with ⟨r, entries⟩
  rw [hread] at hd
  cases hd
  dsimp only
  rw [hmasker]

/-- The application answers by the service and the registry of the installation, over its records
and with its codes. -/
structure Carries (app : Application) (i : Installation) (st : Installation.State) : Prop where
  prepare_eq : app.prepare.1 = .ok ⟨i.service, i.registry, .memory st.store⟩
  codes_eq : app.surroundings.codes = i.codes
  drawn_eq : app.drawn = st.drawn

theorem Carries.of_directory {app' : Application} {st' : Installation.State}
    (h : app.Carries i st) (hsettings : app'.settings = app.settings)
    (hsurroundings : app'.surroundings = app.surroundings)
    (hdirectory : app'.directory = app.directory ∨ app'.directory = some i.registry.directory)
    (hstorage : app'.storage = .ok (.memory st'.store)) (hdrawn : app'.drawn = st'.drawn) :
    app'.Carries i st' := by
  obtain ⟨hprepare, hcodes, -⟩ := h
  obtain ⟨masker, d, -, hd, hmasker, hservice, hregistry⟩ := prepare_eq_ok_iff.1 hprepare
  dsimp only at hservice hregistry
  -- Reading a directory that is kept does not change it.
  have hd' : app'.readDirectory.1 = .ok d := by
    rcases hdirectory with hdirectory | hdirectory
    · rw [← hd]
      unfold readDirectory
      rw [hdirectory, hsettings, hsurroundings]
    · unfold readDirectory
      rw [hdirectory, hregistry]
  refine ⟨prepare_eq_ok_iff.2 ⟨masker, d, hstorage, hd', ?_, ?_, ?_⟩, ?_, hdrawn⟩
  · rw [Application.masker, hsettings, hsurroundings]
    exact hmasker
  · rw [hsettings, hservice]
  · rw [hsettings, hsurroundings, hregistry]
  · rw [hsurroundings, hcodes]

theorem Carries.prepared (h : app.Carries i st) : app.prepare.2.1.Carries i st := by
  obtain ⟨masker, d, hstorage, -⟩ := prepare_eq_ok_iff.1 h.prepare_eq
  rw [prepare_of_ok h.prepare_eq]
  exact h.of_directory rfl rfl (.inr rfl) hstorage h.drawn_eq

/-- After a conversation the application carries the state that the dialogue has led to. -/
theorem Carries.converse {α : Type} (h : app.Carries i st) (now : Instant) (d : Dialogue α) :
    let o := d.run (i.registry.answer (MemoryStore.recordStore now)) i.codes st.store st.drawn
    (app.converse now ⟨i.service, i.registry, .memory st.store⟩ d).1 = o.result ∧
      (app.converse now ⟨i.service, i.registry, .memory st.store⟩ d).2.1.Carries i o.after := by
  rw [converse_memory, h.codes_eq, h.drawn_eq]
  exact ⟨rfl, h.of_directory rfl rfl (.inl rfl) rfl rfl⟩

/-! ## What requests do -/

theorem answerForm_of_readable {α : Type} {ofMembers : List (String × Json) → Form.Checked α}
    {payload : Payload} {form : α} {t : Tools} (answer : Application → Tools → α → Reply)
    (hprepare : app.prepare.1 = .ok t)
    (hform : ∃ v, decode payload = .ok v ∧ readBody ofMembers v = .valid form) :
    (app.answerForm ofMembers payload answer).response = (answer app.prepare.2.1 t form).response ∧
      (app.answerForm ofMembers payload answer).app = (answer app.prepare.2.1 t form).app := by
  obtain ⟨v, hdecode, hread⟩ := hform
  unfold answerForm
  rcases hprep : app.prepare with ⟨r, app', entries⟩
  rw [hprep] at hprepare
  cases hprepare
  rw [hdecode]
  dsimp only
  rw [hread]
  exact ⟨rfl, rfl⟩

/-- A body that is no form changes nothing, but it may have the directory read. -/
theorem app_answerForm_of_unreadable {α : Type}
    {ofMembers : List (String × Json) → Form.Checked α} {payload : Payload}
    (answer : Application → Tools → α → Reply)
    (hform : ∀ v form, decode payload = .ok v → readBody ofMembers v ≠ .valid form) :
    (app.answerForm ofMembers payload answer).app = app ∨
      (app.answerForm ofMembers payload answer).app = app.prepare.2.1 := by
  unfold answerForm
  cases hdecode : decode payload with
  | error e => exact .inl rfl
  | ok v =>
      refine .inr ?_
      rcases app.prepare with ⟨e | t, app', entries⟩
      · rfl
      · dsimp only
        cases hread : readBody ofMembers v with
        | valid form => exact (hform v form hdecode hread).elim
        | invalid issues => rfl

theorem answerInit_eq (now : Instant) (app : Application) (t : Tools) (f : InitRequest) :
    let converse := app.converse now t (t.service.recover f.recovery)
    (answerInit now app t f).response = initResponse converse.1 ∧
      (answerInit now app t f).app = converse.2.1 := by
  unfold answerInit
  rcases hconverse : app.converse now t (t.service.recover f.recovery) with
    ⟨e | info, app', entries⟩
  all_goals
    change app.converse now t (t.service.resolveRecovery f.claims f.tenantDomain f.scenario
      f.properties) = _ at hconverse
    rw [hconverse]
    exact ⟨rfl, rfl⟩

theorem answerValidate_eq (now : Instant) (app : Application) (t : Tools) (f : ValidateRequest) :
    let converse := app.converse now t (t.service.validateCode f.code f.step)
    (answerValidate now app t f).response = validateResponse t.service.masker converse.1 ∧
      (answerValidate now app t f).app = converse.2.1 := by
  unfold answerValidate
  rcases app.converse now t (t.service.validateCode f.code f.step) with ⟨e | record, app', entries⟩
  all_goals exact ⟨rfl, rfl⟩

theorem handle_init_eq (app : Application) (now : Instant) {r : Request} {f : InitRequest}
    (hasks : r.Asks .init InitRequest.ofMembers f) :
    app.handle now r = app.answerForm InitRequest.ofMembers r.payload (answerInit now) := by
  simp [handle, hasks.routed, hasks.method_eq]

theorem handle_init_of_prepared {t : Tools} (hprepare : app.prepare.1 = .ok t) (now : Instant)
    {r : Request} {f : InitRequest} (hasks : r.Asks .init InitRequest.ofMembers f) :
    let conversation := app.prepare.2.1.converse now t (t.service.recover f.recovery)
    (app.handle now r).response = initResponse conversation.1 ∧
      (app.handle now r).app = conversation.2.1 := by
  obtain ⟨hresponse, happ⟩ := answerForm_of_readable (answerInit now) hprepare hasks.readable
  rw [handle_init_eq app now hasks, hresponse, happ]
  exact answerInit_eq _ _ _ _

theorem handle_init_of_unprepared {e : Failure} (hprepare : app.prepare.1 = .error e)
    (now : Instant) {r : Request} {f : InitRequest}
    (hasks : r.Asks .init InitRequest.ofMembers f) :
    (app.handle now r).response = .crashed := by
  obtain ⟨v, hdecode, -⟩ := hasks.readable
  rw [handle_init_eq app now hasks, answerForm, hdecode]
  rcases hprep : app.prepare with ⟨result, app', entries⟩
  rw [hprep] at hprepare
  cases hprepare
  rfl

theorem handle_validate_eq (app : Application) (now : Instant) {r : Request}
    (routed : Route.ofPath? (barePath r.path) = some .validate) (posted : r.method = "POST") :
    app.handle now r =
      app.answerForm ValidateRequest.ofMembers r.payload (answerValidate now) := by
  simp [handle, routed, posted, Route.method]

theorem handle_of_init (h : app.Carries i st) (now : Instant) {r : Request} {f : InitRequest}
    (hasks : r.Asks .init InitRequest.ofMembers f) :
    (app.handle now r).response = initResponse (i.resolve now st f.recovery).result ∧
      (app.handle now r).app.Carries i (i.resolve now st f.recovery).after := by
  obtain ⟨hresponse, happ⟩ := handle_init_of_prepared h.prepare_eq now hasks
  obtain ⟨hresult, hcarries⟩ := h.prepared.converse now (i.service.recover f.recovery)
  rw [hresponse, happ, hresult]
  exact ⟨rfl, hcarries⟩

theorem handle_of_validate (h : app.Carries i st) (now : Instant) {r : Request}
    {f : ValidateRequest} (hasks : r.Asks .validate ValidateRequest.ofMembers f) :
    (app.handle now r).response =
        validateResponse i.service.masker (i.validate now st f.code f.step).result ∧
      (app.handle now r).app.Carries i (i.validate now st f.code f.step).after := by
  obtain ⟨hresponse, happ⟩ :=
    answerForm_of_readable (answerValidate now) h.prepare_eq hasks.readable
  obtain ⟨hresult, hcarries⟩ := h.prepared.converse now (i.service.validateCode f.code f.step)
  rw [handle_validate_eq app now hasks.routed hasks.method_eq, hresponse, happ,
    (answerValidate_eq _ _ _ _).1, (answerValidate_eq _ _ _ _).2, hresult]
  exact ⟨rfl, hcarries⟩

theorem handle_of_neither (h : app.Carries i st) (now : Instant) {r : Request}
    (hinit : ∀ f, ¬r.Asks .init InitRequest.ofMembers f)
    (hvalidate : ∀ f, ¬r.Asks .validate ValidateRequest.ofMembers f) :
    (app.handle now r).app.Carries i st := by
  have hread {app' : Application} (happ : app' = app ∨ app' = app.prepare.2.1) :
      app'.Carries i st := by
    rcases happ with rfl | rfl
    · exact h
    · exact h.prepared
  unfold handle
  dsimp only
  cases hrouted : Route.ofPath? (barePath r.path) with
  | none =>
      dsimp only
      split <;> exact h
  | some route =>
      dsimp only
      split
      · exact h
      · next hmethod =>
          rw [not_not] at hmethod
          cases route with
          | init =>
              exact hread (app_answerForm_of_unreadable _ fun v form hdecode hform =>
                hinit form ⟨hrouted, hmethod, v, hdecode, hform⟩)
          | validate =>
              exact hread (app_answerForm_of_unreadable _ fun v form hdecode hform =>
                hvalidate form ⟨hrouted, hmethod, v, hdecode, hform⟩)
          | health =>
              dsimp only
              unfold answerHealth
              obtain ⟨masker, d, hstorage, -⟩ := prepare_eq_ok_iff.1 h.prepare_eq
              split <;> exact h.of_directory rfl rfl (.inl rfl) hstorage h.drawn_eq

/-- All that a request can do. -/
theorem Carries.handle_cases (h : app.Carries i st) (now : Instant) (r : Request) :
    (∃ f, r.Asks .init InitRequest.ofMembers f ∧
        (app.handle now r).response = initResponse (i.resolve now st f.recovery).result ∧
          (app.handle now r).app.Carries i (i.resolve now st f.recovery).after) ∨
      (∃ f, r.Asks .validate ValidateRequest.ofMembers f ∧
        (app.handle now r).response =
            validateResponse i.service.masker (i.validate now st f.code f.step).result ∧
          (app.handle now r).app.Carries i (i.validate now st f.code f.step).after) ∨
      (∀ f, ¬r.Asks .init InitRequest.ofMembers f) ∧
        (∀ f, ¬r.Asks .validate ValidateRequest.ofMembers f) ∧
          (app.handle now r).app.Carries i st := by
  by_cases hinit : ∃ f, r.Asks .init InitRequest.ofMembers f
  · obtain ⟨f, hasks⟩ := hinit
    exact .inl ⟨f, hasks, handle_of_init h now hasks⟩
  · by_cases hvalidate : ∃ f, r.Asks .validate ValidateRequest.ofMembers f
    · obtain ⟨f, hasks⟩ := hvalidate
      exact .inr (.inl ⟨f, hasks, handle_of_validate h now hasks⟩)
    · rw [not_exists] at hinit hvalidate
      exact .inr (.inr ⟨hinit, hvalidate, handle_of_neither h now hinit hvalidate⟩)

end Application

end Api

end AccountRecovery
