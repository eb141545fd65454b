import AccountRecovery.Proofs.Requests
import AccountRecovery.Proofs.Selection
/-!
# What the two endpoints tell of a code

A code that a recovery was answered with is validated with the channels as they come back from the
store.  The record stays bound to the code through all requests in between that neither take its
place nor come for it too late (`Leads.keeps`), so the validation tells the channels that the
recovery told just if their values are read back whole.
-/

namespace AccountRecovery

open Dialogue Recovery

namespace Api

/-- What a recovery was answered with: a code for an account, which is good for some time. -/
structure Ticket where
  account : Account
  code : String
  issuedAt : Instant
  ttl : Int

def Ticket.Good (k : Ticket) (now : Instant) : Prop :=
  now - k.issuedAt ≤ k.ttl

namespace Application

variable {app : Application} {i : Installation} {k : Ticket} {now : Instant} {r : Request}
  {record : Record}

/-- A request that takes nothing from a code. -/
structure Spares (app : Application) (k : Ticket) (now : Instant) (r : Request) : Prop where
  /-- It is not answered with another code for the account, nor with the same code again. -/
  init : ∀ f body, r.Asks .init InitRequest.ofMembers f →
    (app.handle now r).response = ⟨200, .json (InitResponse.toJson body)⟩ →
      .ofRawName body.username f.tenantDomain ≠ k.account ∧ body.recoveryCode ≠ k.code
  /-- It does not come for the code too late. -/
  validate : ∀ f, r.Asks .validate ValidateRequest.ofMembers f → f.code = k.code → k.Good now

/-- The applications that an application is led to by requests that spare a code. -/
inductive Leads (k : Ticket) (app : Application) : Application → Prop
  | refl : Leads k app app
  | step {app' : Application} (before : Leads k app app') {now : Instant} {r : Request}
      (spares : app'.Spares k now r) : Leads k app (app'.handle now r).app

def Keeps (app : Application) (i : Installation) (k : Ticket) (record : Record) : Prop :=
  ∃ st, app.Carries i st ∧ st.store.ttl = k.ttl ∧ st.store.Binds k.code record

theorem Keeps.handle (h : app.Keeps i k record) (haccount : record.account = k.account)
    (hcreated : record.createdAt = some k.issuedAt) (spares : app.Spares k now r) :
    (app.handle now r).app.Keeps i k record := by
  obtain ⟨st, hcarries, httl, hbinds⟩ := h
  -- Only a recovery can take the place of the record, and only a validation can find it too old.
  rcases hcarries.handle_cases now r with ⟨f, hasks, hresponse, hcarries'⟩ |
    ⟨f, hasks, -, hcarries'⟩ | ⟨-, -, hcarries'⟩
  · refine ⟨_, hcarries', ?_⟩
    rcases i.resolve_cases now st f.recovery with ⟨e, -, -, hafter⟩ |
      ⟨u, channels, -, hresult, hafter⟩
    · rw [hafter]
      exact ⟨httl, hbinds⟩
    · rw [hresult] at hresponse
      obtain ⟨hother, hcode⟩ := spares.init f _ hasks hresponse
      rw [hafter]
      refine ⟨httl, MemoryStore.Binds.store (hbinds.invalidate ?_) ?_ hcode⟩
      · rw [haccount]
        exact hother
      · rw [haccount]
        exact hother
  · refine ⟨_, hcarries', ?_⟩
    rw [(i.validate_eq now st f.code f.step).2]
    refine ⟨by simpa using httl, hbinds.load fun hcode => ?_⟩
    have hgood := spares.validate f hasks hcode
    rw [← Bool.not_eq_true, MemoryStore.isExpired_of_createdAt hcreated, httl, Int.not_lt]
    exact hgood
  · exact ⟨st, hcarries', httl, hbinds⟩

theorem Leads.keeps {app' : Application} (leads : Leads k app app') (h : app.Keeps i k record)
    (haccount : record.account = k.account) (hcreated : record.createdAt = some k.issuedAt) :
    app'.Keeps i k record := by
  induction leads with
  | refl => exact h
  | step before spares ih => exact ih.handle haccount hcreated spares

/-! ## The two answers -/

theorem map_channelInfos (m : Masker) (first : Nat) (channels : List Channel) :
    (channelInfos m first channels).map (fun c => (c.type, c.value)) =
      channels.map fun c => (c.type, m.mask c.type c.value) := by
  induction channels generalizing first with
  | nil => rfl
  | cons c channels ih => rw [channelInfos, List.map_cons, List.map_cons, ih]

/-- The answer to a validation shows the channels of the recovery just if none of their values
breaks. -/
theorem shown_eq_iff (m : Masker) (u code : String) (channels : List Channel) (record : Record)
    (hselection : record.selection = Selection.serialize channels) :
    (ValidateResponse.ofRecord m record).channels.map (fun c => (c.type, c.value)) =
        (InitResponse.ofInfo ⟨u, code, channelInfos m 1 channels⟩).channels.map
          (fun c => (c.type, c.value)) ↔
      ∀ c ∈ channels, ¬Selection.Breaks c.value.toList := by
  have hinit : (InitResponse.ofInfo ⟨u, code, channelInfos m 1 channels⟩).channels.map
      (fun c => (c.type, c.value)) = channels.map fun c => (c.type, m.mask c.type c.value) := by
    rw [← map_channelInfos m 1 channels, InitResponse.ofInfo, List.map_map]
    rfl
  have hvalidate : (ValidateResponse.ofRecord m record).channels.map (fun c => (c.type, c.value)) =
      (Selection.parse (Selection.serialize channels)).entries.map
        fun e => (e.type, m.mask e.type e.value) := by
    rw [ValidateResponse.ofRecord, hselection, maskedEntries, List.map_map]
    rfl
  rw [hinit, hvalidate]
  exact Selection.map_entries_parse_serialize_iff (fun e => (e.type, m.mask e.type e.value))
    channels

theorem prepare_ok_of_status {f : InitRequest} (hasks : r.Asks .init InitRequest.ofMembers f)
    (hok : (app.handle now r).response.status = 200) : ∃ t, app.prepare.1 = .ok t := by
  cases hprepare : app.prepare.1 with
  | error e =>
      rw [handle_init_of_unprepared hprepare now hasks] at hok
      cases hok
  | ok t => exact ⟨t, rfl⟩

/-- A recovery that is answered with success has its channels offered, and its record kept. -/
theorem keeps_of_status {m : MemoryStore} {f : InitRequest}
    (hstorage : app.storage = .ok (.memory m)) (hasks : r.Asks .init InitRequest.ofMembers f)
    (hok : (app.handle now r).response.status = 200) :
    ∃ i u channels record, app.prepare.1 = .ok ⟨i.service, i.registry, .memory m⟩ ∧
      i.registry.consult (i.service.approve f.recovery) = .ok (u, channels) ∧
      (app.handle now r).response = ⟨200, .json (InitResponse.toJson
        (.ofInfo ⟨u, app.surroundings.codes app.drawn,
          channelInfos i.service.masker 1 channels⟩))⟩ ∧
      record.account = .ofRawName u f.tenantDomain ∧ record.createdAt = some now ∧
      record.step = .sendInformation ∧ record.selection = Selection.serialize channels ∧
      (app.handle now r).app.Keeps i
        ⟨.ofRawName u f.tenantDomain, app.surroundings.codes app.drawn, now, m.ttl⟩ record := by
  obtain ⟨⟨service, registry, storage⟩, hprepare⟩ := prepare_ok_of_status hasks hok
  have hmemory : storage = .memory m := by
    obtain ⟨-, -, hprepared, -⟩ := prepare_eq_ok_iff.1 hprepare
    rw [hstorage, Except.ok.injEq] at hprepared
    exact hprepared.symm
  subst hmemory
  let i : Installation := ⟨service, registry, app.surroundings.codes⟩
  let st : Installation.State := ⟨m, app.drawn⟩
  have hcarries : app.Carries i st := ⟨hprepare, rfl, rfl⟩
  obtain ⟨hresponse, hcarries'⟩ := handle_of_init hcarries now hasks
  rcases i.resolve_cases now st f.recovery with ⟨e, -, hresult, -⟩ |
    ⟨u, channels, happroved, hresult, hafter⟩
  · rw [hresponse, hresult] at hok
    exact (status_ofFailure_ne e hok).elim
  · rw [hresult] at hresponse
    let record := i.nextRecord st f.recovery u channels
    refine ⟨i, u, channels, { record with createdAt := some now }, hprepare,
      happroved, hresponse, rfl, rfl, rfl, rfl, _, hcarries', ?_⟩
    rw [hafter]
    exact ⟨rfl, MemoryStore.binds_store⟩

theorem Keeps.validate (h : app.Keeps i k record) (hcreated : record.createdAt = some k.issuedAt)
    (hstep : record.step = .sendInformation)
    (hasks : r.Asks .validate ValidateRequest.ofMembers ⟨k.code, .sendInformation⟩)
    (hgood : k.Good now) :
    (app.handle now r).response =
      ⟨200, .json (ValidateResponse.ofRecord i.service.masker record).toJson⟩ := by
  obtain ⟨st, hcarries, httl, hbinds⟩ := h
  have hfresh : st.store.isExpired now record = false := by
    rw [← Bool.not_eq_true, MemoryStore.isExpired_of_createdAt hcreated, httl, Int.not_lt]
    exact hgood
  have hload := MemoryStore.load_eq_of_lookup hbinds.lookup hfresh
  have hresult : (i.validate now st k.code .sendInformation).result = .ok record := by
    rw [(i.validate_eq now st k.code .sendInformation).1]
    simp only [MemoryStore.recordStore, hload, verdict, hstep, if_true]
  rw [(handle_of_validate hcarries now hasks).1, hresult]
  rfl

/-- A recovery that was answered with success bound its code to the channels that were offered.  A
validation of the code, in time and with requests in between that spare it, is answered with success
and tells the same channels, in the same order, just if no value that was offered has a comma with a
known type and a colon behind it. -/
theorem validate_tells_init_iff {app : Application} {m : MemoryStore} {f : InitRequest}
    {t₀ : Instant} {r : Request} (hstorage : app.storage = .ok (.memory m))
    (hasks : r.Asks .init InitRequest.ofMembers f)
    (hok : (app.handle t₀ r).response.status = 200) :
    ∃ t body selected, app.prepare.1 = .ok t ∧
      t.registry.consult (t.service.approve f.recovery) = .ok (body.username, selected) ∧
      (app.handle t₀ r).response = ⟨200, .json (InitResponse.toJson body)⟩ ∧
      body.recoveryCode = app.surroundings.codes app.drawn ∧
      ∀ app' now r',
        Leads ⟨.ofRawName body.username f.tenantDomain, body.recoveryCode, t₀, m.ttl⟩
            (app.handle t₀ r).app app' →
          r'.Asks .validate ValidateRequest.ofMembers ⟨body.recoveryCode, .sendInformation⟩ →
          now - t₀ ≤ m.ttl →
            ∃ body', (app'.handle now r').response = ⟨200, .json (ValidateResponse.toJson body')⟩ ∧
              (body'.channels.map (fun c => (c.type, c.value)) =
                  body.channels.map (fun c => (c.type, c.value)) ↔
                ∀ c ∈ selected, ¬Selection.Breaks c.value.toList) := by
  obtain ⟨i, u, selected, record, hprepare, happroved, hresponse, haccount, hcreated, hstep,
    hselection, hkeeps⟩ := keeps_of_status hstorage hasks hok
  refine ⟨_, _, selected, hprepare, happroved, hresponse, rfl, ?_⟩
  intro app' now r' leads hvalidate hgood
  have hkeeps' := leads.keeps hkeeps haccount hcreated
  exact ⟨_, hkeeps'.validate hcreated hstep hvalidate hgood,
    shown_eq_iff i.service.masker u _ selected record hselection⟩

/-! ## Two addresses with a comma -/

def addressApp (address : String) : Application where
  surroundings := { codes := fun _ => "first", migrationsPath := "" }
  settings := {}
  pool := {}
  storage := .ok (.memory ⟨900000000, []⟩)
  directory := some ⟨[(-1234, [("ann", [("name", some "Ann"),
    ("urn:identity:claims:emailaddress", some address)])])], []⟩

def addressInit : Request :=
  ⟨"POST", "/v1/recovery/init", .json (.object [("claims", .object [("name", .text "Ann")])])⟩

def addressValidate : Request :=
  ⟨"POST", "/v1/recovery/validate", .json (.object [("code", .text "first")])⟩

def addressForm : InitRequest :=
  ⟨[("name", "Ann")], "carbon.super", .username, []⟩

theorem asks_addressInit : addressInit.Asks .init InitRequest.ofMembers addressForm where
  routed := by decide +kernel
  method_eq := rfl
  readable := ⟨_, rfl, rfl⟩

theorem asks_addressValidate :
    addressValidate.Asks .validate ValidateRequest.ofMembers ⟨"first", .sendInformation⟩ where
  routed := by decide +kernel
  method_eq := rfl
  readable := ⟨_, rfl, rfl⟩

def offeredValues (app : Application) (f : InitRequest) : Option (List String) :=
  app.prepare.1.toOption.bind fun t =>
    (t.registry.consult (t.service.approve f.recovery)).toOption.map fun p => p.2.map (·.value)

theorem offeredValues_eq {t : Tools} {f : InitRequest} {u : String} {selected : List Channel}
    (hprepare : app.prepare.1 = .ok t)
    (happroved : t.registry.consult (t.service.approve f.recovery) = .ok (u, selected)) :
    offeredValues app f = some (selected.map (·.value)) := by
  rw [offeredValues, hprepare]
  change Option.map _ (t.registry.consult (t.service.approve f.recovery)).toOption = _
  rw [happroved]
  rfl

theorem addressValidate_spares (app : Application) {k : Ticket} {now : Instant} (h : k.Good now) :
    app.Spares k now addressValidate where
  init f body hasks _ := by
    have hrouted := asks_addressValidate.routed.symm.trans hasks.routed
    cases hrouted
  validate _ _ _ := h

/-- A quoted address with a comma is told again after a first validation. -/
theorem validate_tells_init_quoted :
    let app := addressApp "\"a,b\"@example.com"
    ∃ body body', (app.handle 0 addressInit).response = ⟨200, .json (InitResponse.toJson body)⟩ ∧
      (((app.handle 0 addressInit).app.handle 5 addressValidate).app.handle 9
          addressValidate).response = ⟨200, .json (ValidateResponse.toJson body')⟩ ∧
      body'.channels.map (fun c => (c.type, c.value)) =
        body.channels.map (fun c => (c.type, c.value)) := by
  intro app
  have hok : (app.handle 0 addressInit).response.status = 200 := by decide +kernel
  obtain ⟨t, body, selected, hprepare, happroved, hresponse, hcode, h⟩ :=
    validate_tells_init_iff (m := ⟨900000000, []⟩) rfl asks_addressInit hok
  have hvalues : offeredValues app addressForm = some ["\"a,b\"@example.com"] := by decide +kernel
  rw [offeredValues_eq hprepare happroved, Option.some.injEq] at hvalues
  have hselected : ∀ c ∈ selected, ¬Selection.Breaks c.value.toList := by
    intro c hc
    have hmem : c.value ∈ selected.map (·.value) := List.mem_map_of_mem hc
    rw [hvalues, List.mem_singleton] at hmem
    rw [hmem, Selection.breaks_iff]
    decide +kernel
  rw [hcode] at h
  have hgood :
      Ticket.Good ⟨.ofRawName body.username addressForm.tenantDomain, "first", 0, 900000000⟩ 5 :=
    (by decide : (5 : Int) - 0 ≤ 900000000)
  have leads := Leads.refl.step (addressValidate_spares (app.handle 0 addressInit).app hgood)
  obtain ⟨body', hresponse', hiff⟩ := h _ 9 addressValidate leads asks_addressValidate (by decide)
  exact ⟨body, body', hresponse, hresponse', hiff.2 hselected⟩

/-- The part of an address that looks like a channel is told as a channel of its own. -/
theorem validate_tells_more_channels :
    let app := addressApp "\"a,SMS:b\"@example.com"
    ∃ body body', (app.handle 0 addressInit).response = ⟨200, .json (InitResponse.toJson body)⟩ ∧
      ((app.handle 0 addressInit).app.handle 0 addressValidate).response =
        ⟨200, .json (ValidateResponse.toJson body')⟩ ∧
      body'.channels.map (fun c => (c.type, c.value)) ≠
        body.channels.map (fun c => (c.type, c.value)) := by
  intro app
  have hok : (app.handle 0 addressInit).response.status = 200 := by decide +kernel
  obtain ⟨i, u, selected, record, hprepare, happroved, hresponse, -, hcreated, hstep, hselection,
    hkeeps⟩ := keeps_of_status (m := ⟨900000000, []⟩) rfl asks_addressInit hok
  have hgood : (0 : Instant) - 0 ≤ 900000000 := by decide
  refine ⟨_, _, hresponse, hkeeps.validate hcreated hstep asks_addressValidate hgood, ?_⟩
  have hvalues : offeredValues app addressForm = some ["\"a,SMS:b\"@example.com"] := by
    decide +kernel
  rw [offeredValues_eq hprepare happroved, Option.some.injEq] at hvalues
  have hmem : "\"a,SMS:b\"@example.com" ∈ selected.map (·.value) := by simp [hvalues]
  obtain ⟨c, hc, hvalue⟩ := List.mem_map.1 hmem
  rw [ne_eq, shown_eq_iff _ _ _ _ _ hselection]
  intro h
  apply h c hc
  rw [hvalue]
  exact ⟨.sms, "\"a".toList, "b\"@example.com".toList, by decide +kernel⟩

end Application

end Api

end AccountRecovery
