import AccountRecovery.Proofs.Consulting
import AccountRecovery.Proofs.Refusals
import AccountRecovery.Proofs.Serving
/-!
# Answers to recoveries

A request that starts a recovery is answered with the account and its channels, or with the code and
the message of an error.  Refusals and failures of the store are told so, and the stages fail in one
other way only: roles cannot be told apart without a separator (`approve_eq_emptySeparator_iff`).

Main statement: what is answered is documented if and only if roles need not be told apart without a
separator, the masking patterns can be read and the store can be made (`init_documented_iff`).  None
of this keeps an application from starting.
-/

namespace AccountRecovery

open Dialogue Recovery

/-! ## What a recovery comes to -/

namespace Registry

variable {r : Registry} {s : Service} {q : RecoveryRequest} {username : String}

def HasRoles (r : Registry) (s : Selector) (tenantDomain username : String) : Prop :=
  ∃ id roles, r.tenants.lookup tenantDomain = some id ∧
    Selector.claimText (r.directory.claimValues id username s.requiredClaims) s.rolesClaim =
      some roles ∧
    roles ≠ ""

/-- A request finds a user whose roles would have to be told apart, but there is no separator. -/
def Inseparable (r : Registry) (s : Selector) (managed : Bool) (q : RecoveryRequest) : Prop :=
  s.roleSeparator = "" ∧ managed = true ∧ ∃ username,
    r.consult (resolveUser q.claims q.tenantDomain) = .ok username ∧
      r.consult (clear (.ofRawName username q.tenantDomain)) = .ok () ∧
      r.HasRoles s q.tenantDomain username

theorem assess_eq_emptySeparator_iff :
    r.assess s q username = .error (.value .emptySeparator) ↔
      s.selector.roleSeparator = "" ∧ r.HasRoles s.selector q.tenantDomain username := by
  unfold assess HasRoles
  cases r.tenants.lookup q.tenantDomain with
  | none => simp [refusal]
  | some id =>
      simp only [Option.some.injEq, exists_and_left, exists_eq_left']
      generalize r.directory.claimValues id username s.selector.requiredClaims = values
      cases values with
      | nil => simp [refusal, Selector.claimText]
      | cons value values =>
          simp only [List.isEmpty_cons, Bool.false_eq_true, if_false, map_eq_error_iff,
            Selector.isSelfRegistered_eq_error_iff, true_and]

theorem offer_eq_emptySeparator_iff :
    r.consult (s.offer q username) = .error (.value .emptySeparator) ↔
      s.manages q = true ∧ r.assess s q username = .error (.value .emptySeparator) := by
  rw [(r.consult_offer s q username).1]
  cases s.manages q with
  | false => simp
  | true =>
      cases r.assess s q username with
      | error e => simp [Except.bind]
      | ok assessed =>
          simp only [if_true, Except.bind]
          split <;> simp [refusal]

theorem approve_eq_emptySeparator_iff :
    r.consult (s.approve q) = .error (.value .emptySeparator) ↔
      r.Inseparable s.selector (s.manages q) q := by
  rw [(r.consult_approve s q).1]
  unfold Inseparable
  cases hfind : r.consult (resolveUser q.claims q.tenantDomain) with
  | error e =>
      obtain ⟨fault, -, detail, rfl⟩ := r.refuses_resolveUser hfind
      simp [Except.bind, refusal]
  | ok username =>
      simp only [Except.bind, Except.ok.injEq, exists_eq_left']
      cases hclear : r.consult (clear (.ofRawName username q.tenantDomain)) with
      | error e =>
          obtain ⟨fault, -, detail, rfl⟩ := r.refuses_clear hclear
          simp [refusal]
      | ok cleared =>
          simp only [map_eq_error_iff, offer_eq_emptySeparator_iff, assess_eq_emptySeparator_iff,
            true_and]
          exact and_left_comm

/-- Before a code is issued a request is refused for a reason that the caller can mend, or roles
cannot be told apart. -/
theorem approve_error {e : Failure} (h : r.consult (s.approve q) = .error e) :
    Refuses [.noClaims, .invalidTenant, .noUser, .multipleUsers, .accountDisabled, .accountLocked,
      .noChannels, .noVerifiedChannels] e ∨ e = .value .emptySeparator := by
  have hcourse := r.course s q
  rw [h] at hcourse
  cases hcourse with
  | unfound find refuses => exact .inl (refuses.mono (by decide))
  | barred find refuses => exact refuses.imp_left fun h => h.mono (by decide)
  | unreachable => exact .inl ⟨.noVerifiedChannels, by decide, none, rfl⟩

end Registry

/-! ## The store -/

/-- Where the store fails with its own errors only, a code is issued for an approved request or it
is told that the store has failed. -/
theorem Service.result_conclude {σ : Type} (service : Service) (q : RecoveryRequest)
    (approved : String × List Channel) (answer : Handler σ) (codes : CodeSource) (st : σ) (n : Nat)
    (hinvalidate : ∀ a f, (answer (.invalidate a) st).1 = .error f → ∃ e, f = .store e)
    (hstore : ∀ a record f, (answer (.store record) (answer (.invalidate a) st).2).1 = .error f →
      ∃ e, f = .store e) :
    (∃ info, ((service.conclude q approved).run answer codes st n).result = .ok info) ∨
      ∃ e, ((service.conclude q approved).run answer codes st n).result =
        .error (.recovery
          ⟨.recordStore, none, RecoveryFault.recordStore.code, some (.store e)⟩) := by
  obtain ⟨username, channels⟩ := approved
  let record : Record :=
    ⟨.ofRawName username q.tenantDomain, codes n, q.scenario, .sendInformation,
      Selection.serialize channels, none⟩
  replace hinvalidate := hinvalidate record.account
  replace hstore := hstore record.account record
  simp only [Service.conclude, issue, bind_eq, code, call, log, Dialogue.bind, rescue, run]
  rcases hinvalidated : answer (.invalidate record.account) st with ⟨f | done, st'⟩
  · obtain ⟨e, rfl⟩ := hinvalidate f (by rw [hinvalidated])
    exact .inr ⟨e, rfl⟩
  · rw [hinvalidated] at hstore
    simp only [Dialogue.ofExcept, Dialogue.bind, rescue, run]
    rcases hstored : answer (.store record) st' with ⟨f | done, st''⟩
    · obtain ⟨e, rfl⟩ := hstore f (by rw [hstored])
      exact .inr ⟨e, rfl⟩
    · exact .inl ⟨_, rfl⟩

/-! ## Documented answers -/

namespace Api

/-- The documented answers to a request that starts a recovery: the account with its channels, or
the code and the message of an error. -/
inductive Response.Documented : Response → Prop
  | started (body : InitResponse) : Documented ⟨200, .json body.toJson⟩
  | failed (status : Nat) (detail : ErrorDetail) (listed : status ∈ [400, 404, 409, 500]) :
      Documented ⟨status, .json (ErrorResponse.toJson ⟨detail⟩)⟩

theorem Response.not_documented_crashed : ¬Response.crashed.Documented := by
  rintro ⟨⟩

theorem initResponse_recovery (e : RecoveryError) :
    initResponse (.error (.recovery e)) = Response.ofError e :=
  rfl

theorem Response.documented_ofError {e : RecoveryError} (h : e.fault ≠ .expiredCode) :
    (Response.ofError e).Documented := by
  have hstatus (fault : RecoveryFault) (h : fault ≠ .expiredCode) :
      clientStatus fault ∈ [400, 404, 409, 500] := by
    cases fault with
    | expiredCode => exact (h rfl).elim
    | _ => decide
  unfold ofError
  split
  · exact .failed _ _ (hstatus e.fault h)
  · exact .failed 500 _ (by decide)

namespace Application

variable {app app₀ : Application} {now : Instant} {r : Request}

theorem documented_converse_iff (faults : app.pool.FailsAsDatabase) (now : Instant) (t : Tools)
    (q : RecoveryRequest) :
    (initResponse (app.converse now t (t.service.recover q)).1).Documented ↔
      ¬t.registry.Inseparable t.service.selector (t.service.manages q) q := by
  rw [← Registry.approve_eq_emptySeparator_iff]
  let records := recordStore app.settings.codeTtlSeconds now
  obtain ⟨hresult, hstate, hdrawn⟩ :=
    Registry.run_answer_of_confined (t.service.confined_approve q) t.registry records
      app.surroundings.codes (t.storage, app.pool) app.drawn
  unfold converse
  rw [Service.recover_eq, run_bind, Outcome.andThen, hresult, hstate, hdrawn]
  cases happrove : t.registry.consult (t.service.approve q) with
  | error e =>
      rcases Registry.approve_error happrove with ⟨fault, hfault, detail, rfl⟩ | rfl
      · have hexpired : fault ≠ .expiredCode := by
          rintro rfl
          revert hfault
          decide
        dsimp only
        rw [Registry.refusal, initResponse_recovery]
        exact iff_of_true (Response.documented_ofError hexpired) (by simp)
      · exact iff_of_false Response.not_documented_crashed (not_not_intro rfl)
  | ok approved =>
      refine iff_of_true ?_ (by simp)
      have faults' (a : Account) :
          (records.invalidate a (t.storage, app.pool)).2.2.FailsAsDatabase :=
        faults.of_faults_eq (faults_answer t.registry (.invalidate a) (t.storage, app.pool))
      have hconclude := t.service.result_conclude q approved (t.registry.answer records)
        app.surroundings.codes (t.storage, app.pool) app.drawn
        (fun a _ h => recordStore_invalidate faults a h)
        fun a record _ h => recordStore_store (faults' a) record h
      dsimp only
      rcases hconclude with ⟨info, hinfo⟩ | ⟨e, he⟩
      · rw [hinfo]
        exact .started _
      · rw [he, initResponse_recovery]
        exact Response.documented_ofError (by simp)

/-- Where the directory is readable, a recovery is answered as documented if there are a masker and
a storage and the roles of the user can be told apart. -/
theorem documented_handle_iff {d : Directory} {f : InitRequest}
    (faults : app.pool.FailsAsDatabase) (hd : app.readDirectory.1 = .ok d) (now : Instant)
    (hasks : r.Asks .init InitRequest.ofMembers f) :
    (app.handle now r).response.Documented ↔
      (∃ m, app.masker = .ok m) ∧ app.storage.isOk ∧
        ¬Registry.Inseparable ⟨d, app.settings.tenantIds, app.surroundings.statuses⟩
          app.settings.selector
          (isManagedInternally f.properties app.settings.managedInternally) f.recovery := by
  cases hprepare : app.prepare.1 with
  | error e =>
      rw [handle_init_of_unprepared hprepare now hasks]
      refine iff_of_false Response.not_documented_crashed ?_
      rintro ⟨⟨m, hmasker⟩, hstorage, -⟩
      obtain ⟨storage, hstorage⟩ := exists_of_isOk hstorage
      have hprepared : app.prepare.1 =
          .ok ⟨⟨app.settings.selector, m, app.settings.managedInternally⟩,
            ⟨d, app.settings.tenantIds, app.surroundings.statuses⟩, storage⟩ :=
        prepare_eq_ok_iff.2 ⟨m, d, hstorage, hd, hmasker, rfl, rfl⟩
      rw [hprepare] at hprepared
      cases hprepared
  | ok t =>
      obtain ⟨m, d', hstorage, hd', hmasker, hservice, hregistry⟩ := prepare_eq_ok_iff.1 hprepare
      rw [hd, Except.ok.injEq] at hd'
      subst hd'
      have faults' : app.prepare.2.1.pool.FailsAsDatabase :=
        faults.of_faults_eq (endures_prepare app).faults
      rw [(handle_init_of_prepared hprepare now hasks).1, documented_converse_iff faults' now t,
        hregistry, hservice]
      refine ⟨fun h => ⟨⟨m, hmasker⟩, ?_, h⟩, fun h => h.2.2⟩
      rw [hstorage]
      rfl

/-- However the database fails, and whatever has been asked before, a request that starts a recovery
is answered as documented just if both masking patterns can be read, records can be kept for as long
as codes are valid, and no roles have to be told apart without a separator. -/
theorem init_documented_iff {s : Surroundings} {pool : Database.Pool} {d : Directory}
    {f : InitRequest} (started : (start s pool).result = .ok app₀) (faults : pool.FailsAsDatabase)
    (seed : app₀.readDirectory.1 = .ok d) (serves : app₀.Serves app) (now : Instant)
    (hasks : r.Asks .init InitRequest.ofMembers f) :
    (app.handle now r).response.Documented ↔
      ((Pattern.parse s.characters app₀.settings.emailPattern).isOk ∧
          (Pattern.parse s.characters app₀.settings.mobilePattern).isOk) ∧
        (s.inDatabase = true ∨
          -MemoryStore.maxDays ≤ app₀.settings.codeTtlSeconds.fdiv 86400 ∧
            app₀.settings.codeTtlSeconds.fdiv 86400 ≤ MemoryStore.maxDays) ∧
        ¬Registry.Inseparable ⟨d, app₀.settings.tenantIds, s.statuses⟩ app₀.settings.selector
          (isManagedInternally f.properties app₀.settings.managedInternally) f.recovery := by
  have endures := serves.endures
  have faults' : app.pool.FailsAsDatabase :=
    faults.of_faults_eq (endures.faults.trans (faults_of_start started))
  have hd : app.readDirectory.1 = .ok d := endures.directory.trans seed
  rw [documented_handle_iff faults' hd now hasks, masker, endures.settings, endures.surroundings,
    endures.storage]
  obtain ⟨settings, opened, hsettings, -, -, rfl⟩ := eq_of_start started
  rw [Settings.exists_masker_iff hsettings, storageOf_isOk_iff]

/-! ## A database that hangs and a pattern that cannot be read -/

def seededDatabase : Surroundings :=
  { seeded with inDatabase := true }

def hangingPool : Database.Pool where
  faults name n :=
    if name = .connection ∧ n = 2 then
      some (.database ⟨.poolTimeout, "couldn't get a connection after 30.00 sec"⟩)
    else none

theorem hangingPool_failsAsDatabase : hangingPool.FailsAsDatabase :=
  .of_error _ fun _ _ => ite_eq_or_eq _ _ _

/-- An application with a database that hangs answers with the error of the server. -/
theorem init_documented_hanging :
    ∃ app, (start seededDatabase hangingPool).result = .ok app ∧
      (app.handle 0 addressInit).response.Documented := by
  have hstart : (start seededDatabase hangingPool).result.toOption.any (fun app =>
      app.readDirectory.1.isOk &&
        (Pattern.parse seededDatabase.characters app.settings.emailPattern).isOk &&
        (Pattern.parse seededDatabase.characters app.settings.mobilePattern).isOk &&
        app.settings.selector.roleSeparator == ",") = true := by decide +kernel
  obtain ⟨app, happ, hready⟩ := exists_of_any hstart
  simp only [Bool.and_eq_true, beq_iff_eq] at hready
  obtain ⟨⟨⟨hseed, hemail⟩, hmobile⟩, hseparator⟩ := hready
  obtain ⟨d, hd⟩ := exists_of_isOk hseed
  refine ⟨app, happ, (init_documented_iff happ hangingPool_failsAsDatabase hd .refl 0
    asks_addressInit).2 ⟨⟨hemail, hmobile⟩, .inl rfl, ?_⟩⟩
  rintro ⟨hempty, -⟩
  rw [hseparator] at hempty
  exact absurd hempty (by decide)

def unmaskable : Surroundings :=
  { seeded with environment := ("EMAIL_MASKING_REGEX", "(") :: seeded.environment }

/-- An application starts with a pattern that cannot be read, and then a recovery crashes. -/
theorem init_undocumented_unmaskable :
    ∃ app, (start unmaskable {}).result = .ok app ∧ app.readDirectory.1.isOk ∧
      addressInit.Asks .init InitRequest.ofMembers addressForm ∧
        ¬(app.handle 0 addressInit).response.Documented := by
  have hstart : (start unmaskable {}).result.toOption.any (fun app =>
      app.readDirectory.1.isOk && !app.prepare.1.isOk) = true := by decide +kernel
  obtain ⟨app, happ, hready⟩ := exists_of_any hstart
  simp only [Bool.and_eq_true, Bool.not_eq_true'] at hready
  obtain ⟨hseed, hunprepared⟩ := hready
  refine ⟨app, happ, hseed, asks_addressInit, ?_⟩
  cases hprepare : app.prepare.1 with
  | error e =>
      rw [handle_init_of_unprepared hprepare 0 asks_addressInit]
      exact Response.not_documented_crashed
  | ok t =>
      rw [hprepare] at hunprepared
      cases hunprepared

end Application

end Api

end AccountRecovery
