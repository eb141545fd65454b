import AccountRecovery.Proofs.Answers
import AccountRecovery.Proofs.Attribution
import AccountRecovery.Proofs.Transactions
/-!
# Loading records

A row is read as a record when its connection has been left, where failures are no longer told as
failures of the store.  The table takes any text for a scenario and for a step, so a row can name
one that does not exist.  If such a row is young enough and nothing fails, the load tells the name
and no failure of the store (`Pool.Misnames`).  In all other cases it ends in a record or in a
failure of the store (`load_comes`).

Main statement: in that case, and only then, a validation ends in something else than a record or an
error of the service, and the request that asks for it crashes (`load_failures_told_iff`).
-/

namespace AccountRecovery

open Dialogue Recovery

/-! ## Names that exist -/

theorem knownName_of_mem {α : Type} {all : List α} {nameOf : α → String} {name : String}
    (kind : NameKind) (h : name ∈ all.map nameOf) :
    ∃ a, nameOf a = name ∧ knownName kind name (all.find? fun a => nameOf a = name) = .ok a := by
  obtain ⟨b, hb, hname⟩ := List.mem_map.1 h
  have hsome : (all.find? fun a => nameOf a = name).isSome :=
    List.find?_isSome.2 ⟨b, hb, decide_eq_true hname⟩
  obtain ⟨a, ha⟩ := Option.isSome_iff_exists.1 hsome
  have hfound : nameOf a = name := by simpa using List.find?_some ha
  refine ⟨a, hfound, ?_⟩
  rw [ha]
  rfl

theorem knownName_of_notMem {α : Type} {all : List α} {nameOf : α → String} {name : String}
    (kind : NameKind) (h : name ∉ all.map nameOf) :
    knownName kind name (all.find? fun a => nameOf a = name) =
      .error (.value (.unknownName kind name)) := by
  have hnone : (all.find? fun a => nameOf a = name) = none := by
    rw [List.find?_eq_none]
    exact fun a ha hname => h (List.mem_map.2 ⟨a, ha, of_decide_eq_true hname⟩)
  rw [hnone]
  rfl

namespace Database

open Session

/-! ## Rows of the table -/

/-- A row as the table can hold it: no column is null and each is of its type, but the scenario and
the step are any texts. -/
structure StoredRow where
  account : Account
  scenario : String
  step : String
  selection : String
  createdAt : Instant
  /-- Whether the database finds it young enough. -/
  fresh : Bool

namespace StoredRow

variable {row : StoredRow}

def cells (row : StoredRow) : Row :=
  [.text row.account.username, .text row.account.tenantDomain, .text row.account.storeDomain,
    .text row.scenario, .text row.step, .text row.selection, .int row.createdAt, .flag row.fresh]

def IsNamed (row : StoredRow) : Prop :=
  row.scenario ∈ Scenario.all.map Scenario.name ∧ row.step ∈ Step.all.map Step.name

instance : Decidable row.IsNamed :=
  inferInstanceAs (Decidable (_ ∧ _))

theorem isFresh_cells (row : StoredRow) : isFresh row.cells = row.fresh := by
  cases h : row.fresh <;> simp [isFresh, cells, selectColumns, h]

theorem recordOf_cells (row : StoredRow) (code : String) :
    recordOf code row.cells =
      (Scenario.read row.scenario).bind fun scenario => (Step.read row.step).bind fun step =>
        .ok ⟨row.account, code, scenario, step, row.selection, some row.createdAt⟩ :=
  rfl

theorem recordOf_of_isNamed (h : row.IsNamed) (code : String) :
    ∃ scenario step, scenario.name = row.scenario ∧ step.name = row.step ∧
      recordOf code row.cells =
        .ok ⟨row.account, code, scenario, step, row.selection, some row.createdAt⟩ := by
  obtain ⟨scenario, hscenario, hreadScenario⟩ := knownName_of_mem .scenario h.1
  obtain ⟨step, hstep, hreadStep⟩ := knownName_of_mem .step h.2
  have hreadScenario : Scenario.read row.scenario = .ok scenario := hreadScenario
  have hreadStep : Step.read row.step = .ok step := hreadStep
  refine ⟨scenario, step, hscenario, hstep, ?_⟩
  rw [recordOf_cells, hreadScenario, hreadStep]
  rfl

theorem recordOf_of_not_isNamed (h : ¬row.IsNamed) (code : String) :
    ∃ kind name, recordOf code row.cells = .error (.value (.unknownName kind name)) := by
  by_cases hscenario : row.scenario ∈ Scenario.all.map Scenario.name
  · have hstep : row.step ∉ Step.all.map Step.name := fun hstep => h ⟨hscenario, hstep⟩
    obtain ⟨scenario, -, hreadScenario⟩ := knownName_of_mem .scenario hscenario
    have hreadScenario : Scenario.read row.scenario = .ok scenario := hreadScenario
    have hreadStep : Step.read row.step = .error (.value (.unknownName .step row.step)) :=
      knownName_of_notMem .step hstep
    refine ⟨.step, row.step, ?_⟩
    rw [recordOf_cells, hreadScenario, hreadStep]
    rfl
  · have hreadScenario :
        Scenario.read row.scenario = .error (.value (.unknownName .scenario row.scenario)) :=
      knownName_of_notMem .scenario hscenario
    refine ⟨.scenario, row.scenario, ?_⟩
    rw [recordOf_cells, hreadScenario]
    rfl

end StoredRow

namespace Pool

def Typed (p : Pool) : Prop :=
  ∀ cells, some cells ∈ p.rows → ∃ row : StoredRow, cells = row.cells

/-- A load finds a row that is young enough but does not name a scenario and a step that exist, and
nothing fails until it has left its connection. -/
def Misnames (p : Pool) (ttlSeconds : Int) (code : String) : Prop :=
  ∃ row : StoredRow, p.rows.head? = some (some row.cells) ∧ row.fresh = true ∧ ¬row.IsNamed ∧
    p.Passes [.connection, .execute .selectRecord (some [.int ttlSeconds, .text code]), .fetchOne,
      .commit, .exit none]

end Pool

/-! ## Loads -/

variable {p : Pool} {ttlSeconds : Int} {code : String}

theorem load_of_misnames (h : p.Misnames ttlSeconds code) :
    ∃ kind name, ((load ttlSeconds code).run p).1 = .error (.value (.unknownName kind name)) := by
  obtain ⟨row, hhead, hfresh, hnamed, hpasses⟩ := h
  obtain ⟨es, r, p', hrun, -, hconducted⟩ := Operation.load_conducted ttlSeconds code p
  have hisFresh : isFresh row.cells = true := by rw [row.isFresh_cells, hfresh]
  rw [hhead, Option.join_some, Operation.selected_of_fresh hisFresh,
    Operation.script_of_fresh hisFresh] at hconducted
  have hr : r = .ok row.cells := hconducted.eq_verdict_of_passes hpasses
  rw [hrun, hr]
  exact StoredRow.recordOf_of_not_isNamed hnamed code

theorem load_of_not_misnames (faults : p.FailsAsDatabase) (typed : p.Typed)
    (h : ¬p.Misnames ttlSeconds code) :
    (∃ record, ((load ttlSeconds code).run p).1 = .ok record) ∨
      ∃ e, ((load ttlSeconds code).run p).1 = .error (.store e) := by
  obtain ⟨es, r, p', hrun, -, hconducted⟩ := Operation.load_conducted ttlSeconds code p
  rw [hrun]
  by_cases htold : ∃ err, r = .error (asTold (Operation.load code).task (.database err))
  · obtain ⟨err, rfl⟩ := htold
    exact .inr ⟨_, rfl⟩
  · obtain ⟨hpasses, hes, hr⟩ := hconducted.settled faults fun err herr => htold ⟨err, herr⟩
    rw [hr]
    cases hselected : Operation.selected p.rows.head?.join with
    | error f =>
        obtain ⟨e, rfl⟩ := Operation.selected_error hselected
        exact .inr ⟨e, rfl⟩
    | ok cells =>
        obtain ⟨hjoin, hisFresh⟩ := Operation.selected_eq_ok hselected
        have hhead : p.rows.head? = some (some cells) := Option.join_eq_some_iff.1 hjoin
        obtain ⟨row, rfl⟩ := typed cells (List.mem_of_head? hhead)
        -- Nothing has failed and the row is young enough, so only its names are left to be wrong.
        have hnamed : row.IsNamed := by
          by_contra hnamed
          rw [hes, hselected, hjoin, Operation.script_of_fresh hisFresh] at hpasses
          rw [row.isFresh_cells] at hisFresh
          exact h ⟨row, hhead, hisFresh, hnamed, hpasses⟩
        obtain ⟨scenario, step, -, -, hrecord⟩ := row.recordOf_of_isNamed hnamed code
        exact .inl ⟨_, hrecord⟩

/-- What a load comes to: a record, a failure that the store tells, or, where the row is misnamed,
a name that does not exist. -/
inductive Comes (p : Pool) (ttlSeconds : Int) (code : String) : Except Failure Record → Prop
  | found (record : Record) (named : ¬p.Misnames ttlSeconds code) :
      Comes p ttlSeconds code (.ok record)
  | told (e : StoreError) (named : ¬p.Misnames ttlSeconds code) :
      Comes p ttlSeconds code (.error (.store e))
  | misnamed (kind : NameKind) (name : String) (misnames : p.Misnames ttlSeconds code) :
      Comes p ttlSeconds code (.error (.value (.unknownName kind name)))

theorem load_comes (faults : p.FailsAsDatabase) (typed : p.Typed) (ttlSeconds : Int)
    (code : String) : Comes p ttlSeconds code ((load ttlSeconds code).run p).1 := by
  by_cases hmisnames : p.Misnames ttlSeconds code
  · obtain ⟨kind, name, hload⟩ := load_of_misnames hmisnames
    rw [hload]
    exact .misnamed kind name hmisnames
  · rcases load_of_not_misnames faults typed hmisnames with ⟨record, hload⟩ | ⟨e, hload⟩
    · rw [hload]
      exact .found record hmisnames
    · rw [hload]
      exact .told e hmisnames

theorem Comes.told_iff {loaded : Except Failure Record} (h : Comes p ttlSeconds code loaded) :
    (∃ record, loaded = .ok record) ∨ (∃ e, loaded = .error (.store e)) ↔
      ¬p.Misnames ttlSeconds code := by
  cases h with
  | found record named => exact iff_of_true (.inl ⟨record, rfl⟩) named
  | told e named => exact iff_of_true (.inr ⟨e, rfl⟩) named
  | misnamed kind name misnames =>
      refine iff_of_false ?_ (not_not_intro misnames)
      rintro (⟨record, hrecord⟩ | ⟨e, he⟩)
      · cases hrecord
      · cases he

/-- A validation tells the failures of the store as its own, and passes on any other. -/
theorem Comes.verdict_told_iff {loaded : Except Failure Record}
    (h : Comes p ttlSeconds code loaded) (expected : Step) :
    (∃ record, verdict expected (loaded.map some) = .ok record) ∨
        (∃ e, verdict expected (loaded.map some) = .error (.recovery e)) ↔
      ¬p.Misnames ttlSeconds code := by
  cases h with
  | found record named =>
      refine iff_of_true ?_ named
      cases hverdict : verdict expected (.ok (some record)) with
      | ok record' => exact .inl ⟨record', hverdict⟩
      | error f =>
          rcases verdict_ok hverdict with rfl | rfl <;> exact .inr ⟨_, hverdict⟩
  | told e named => exact iff_of_true (.inr ⟨_, verdict_store expected e⟩) named
  | misnamed kind name misnames =>
      refine iff_of_false ?_ (not_not_intro misnames)
      rintro (⟨record, hrecord⟩ | ⟨e, he⟩)
      · cases hrecord
      · cases he

theorem recordStore_load (ttlSeconds : Int) (code : String) (p : Pool) :
    ((recordStore ttlSeconds).load code p).1 = ((load ttlSeconds code).run p).1.map some := by
  rcases hrun : (load ttlSeconds code).run p with ⟨loaded, p'⟩
  have hperform : ((Operation.load code).perform ttlSeconds).run p = (loaded.map some, p') :=
    Operation.run_load hrun
  exact congrArg Prod.fst hperform

theorem result_validate (r : Registry) (codes : CodeSource) (p : Pool) (n : Nat) (ttlSeconds : Int)
    (code : String) (expected : Step) :
    ((validate code expected).run (r.answer (recordStore ttlSeconds)) codes p n).result =
      verdict expected (((load ttlSeconds code).run p).1.map some) := by
  rw [← recordStore_load]
  exact (run_validate (r.answer (recordStore ttlSeconds)) codes p n code expected).1

end Database

/-! ## Requests -/

namespace Api

theorem Response.ofError_ne_crashed (e : RecoveryError) : Response.ofError e ≠ .crashed := by
  have hbody (text : String) : (ofError e).body ≠ .text text := by
    unfold ofError
    split <;> rintro ⟨⟩
  exact fun h => hbody _ (congrArg Response.body h)

theorem Response.invalidBody_eq_crashed_iff {issues : List Form.Issue} :
    Response.invalidBody issues = .crashed ↔ ∃ i ∈ issues, i.input.hasNonFinite = true := by
  rw [← List.any_eq_true]
  unfold invalidBody
  split
  · next hany => exact iff_of_true rfl hany
  · next hany => exact iff_of_false nofun hany

theorem validateResponse_eq_crashed_iff {m : Masker} {result : Except Failure Record} :
    validateResponse m result = .crashed ↔
      ¬((∃ record, result = .ok record) ∨ ∃ e, result = .error (.recovery e)) := by
  cases result with
  | ok record => exact iff_of_false nofun (not_not_intro (.inl ⟨record, rfl⟩))
  | error f =>
      cases f with
      | recovery e =>
          have htold : validateResponse m (.error (.recovery e)) ≠ .crashed :=
            Response.ofError_ne_crashed e
          exact iff_of_false htold (not_not_intro (.inr ⟨e, rfl⟩))
      | _ => exact iff_of_true rfl (by simp)

namespace Application

open Database

variable {app : Application}

theorem answerForm_crashes_iff {α : Type} {ofMembers : List (String × Json) → Form.Checked α}
    {payload : Payload} {answer : Application → Tools → α → Reply} :
    (app.answerForm ofMembers payload answer).response = .crashed ↔
      ∃ v, decode payload = .ok v ∧
        ((∃ e, app.prepare.1 = .error e) ∨
          ∃ t, app.prepare.1 = .ok t ∧
            ((∃ issues, readBody ofMembers v = .invalid issues ∧
                ∃ i ∈ issues, i.input.hasNonFinite = true) ∨
              ∃ f, readBody ofMembers v = .valid f ∧
                (answer app.prepare.2.1 t f).response = .crashed)) := by
  unfold answerForm
  cases decode payload with
  | error e =>
      refine iff_of_false ?_ (by simp)
      dsimp only
      rw [Response.invalidBody_eq_crashed_iff]
      rintro ⟨i, hi, hinput⟩
      rw [List.mem_singleton.1 hi] at hinput
      cases hinput
  | ok v =>
      rcases app.prepare with ⟨e | t, app', entries⟩
      · simp
      · cases hread : readBody ofMembers v with
        | invalid issues => simp [hread, Response.invalidBody_eq_crashed_iff]
        | valid f => simp [hread]

theorem prepare_eq_error_iff {st : Storage} (hstorage : app.storage = .ok st) :
    (∃ e, app.prepare.1 = .error e) ↔
      app.readDirectory.1.isOk = false ∨ app.masker.isOk = false := by
  unfold prepare
  rw [hstorage]
  rcases app.readDirectory with ⟨e | d, entries⟩
  · exact iff_of_true ⟨e, rfl⟩ (.inl rfl)
  · dsimp only
    cases app.masker with
    | error e => exact iff_of_true ⟨e, rfl⟩ (.inr rfl)
    | ok m => exact iff_of_false (by simp) (by simp [Except.isOk, Except.toBool])

theorem result_converse_validate {t : Tools} (hstorage : t.storage = .database) (app : Application)
    (now : Instant) (code : String) (expected : Step) :
    (app.converse now t (t.service.validateCode code expected)).1 =
      verdict expected (((load app.settings.codeTtlSeconds code).run app.pool).1.map some) := by
  have hload : ((recordStore app.settings.codeTtlSeconds now).load code (t.storage, app.pool)).1 =
      ((load app.settings.codeTtlSeconds code).run app.pool).1.map some := by
    rw [hstorage]
    exact recordStore_load app.settings.codeTtlSeconds code app.pool
  rw [← hload]
  exact (run_validate _ app.surroundings.codes (t.storage, app.pool) app.drawn code expected).1

/-- With records in the database, a request that asks for a validation crashes where the seed or a
masking pattern cannot be read, where its body is not as it should be but cannot be told, and where
the row of its code is misnamed. -/
theorem handle_validate_crashes_iff (hstorage : app.storage = .ok .database)
    (faults : app.pool.FailsAsDatabase) (typed : app.pool.Typed) (now : Instant) {r : Request}
    (routed : Route.ofPath? (barePath r.path) = some .validate) (posted : r.method = "POST") :
    (app.handle now r).response = .crashed ↔
      ∃ v, decode r.payload = .ok v ∧
        ((app.readDirectory.1.isOk = false ∨ app.masker.isOk = false) ∨
          (∃ issues, readBody ValidateRequest.ofMembers v = .invalid issues ∧
            ∃ i ∈ issues, i.input.hasNonFinite = true) ∨
          ∃ f, readBody ValidateRequest.ofMembers v = .valid f ∧
            app.pool.Misnames app.settings.codeTtlSeconds f.code) := by
  rw [handle_validate_eq app now routed posted, answerForm_crashes_iff,
    ← prepare_eq_error_iff hstorage]
  refine exists_congr fun v => and_congr_right fun _ => ?_
  cases hprepare : app.prepare.1 with
  | error e => exact iff_of_true (.inl ⟨e, rfl⟩) (.inl ⟨e, rfl⟩)
  | ok t =>
      obtain ⟨masker, d, hkept, -⟩ := prepare_eq_ok_iff.1 hprepare
      have ht : t.storage = .database := Except.ok.inj (hkept.symm.trans hstorage)
      -- Preparing leaves the settings and the pool as they are.
      have hanswer (f : ValidateRequest) :
          (answerValidate now app.prepare.2.1 t f).response = .crashed ↔
            app.pool.Misnames app.settings.codeTtlSeconds f.code := by
        have hcomes := load_comes faults typed app.settings.codeTtlSeconds f.code
        rw [(answerValidate_eq now _ t f).1, result_converse_validate ht, prepare_of_ok hprepare,
          validateResponse_eq_crashed_iff, hcomes.verdict_told_iff f.step, not_not]
      simp [hanswer]

/-- Whatever rows of the table the database answers and however it fails, a load ends in a record or
in a failure of the store, and a validation in a record or in an error of the service, if and only
if the row is not misnamed.  Where it is, the request that asks for the validation crashes.
Otherwise a request crashes only if the seed or a masking pattern cannot be read, or if a number at
fault in its body is not finite. -/
theorem load_failures_told_iff {p : Pool} (faults : p.FailsAsDatabase) (typed : p.Typed)
    (ttlSeconds : Int) :
    (∀ code, (∃ record, ((load ttlSeconds code).run p).1 = .ok record) ∨
        (∃ e, ((load ttlSeconds code).run p).1 = .error (.store e)) ↔
      ¬p.Misnames ttlSeconds code) ∧
    (∀ (registry : Registry) (codes : CodeSource) (n : Nat) (code : String) (expected : Step),
      let validated := ((validate code expected).run
        (registry.answer (Database.recordStore ttlSeconds)) codes p n).result
      (∃ record, validated = .ok record) ∨ (∃ e, validated = .error (.recovery e)) ↔
        ¬p.Misnames ttlSeconds code) ∧
    ∀ (app : Application) (now : Instant) (r : Request), app.storage = .ok .database →
      app.pool = p → app.settings.codeTtlSeconds = ttlSeconds →
      Route.ofPath? (barePath r.path) = some .validate → r.method = "POST" →
      ((app.handle now r).response = .crashed ↔
        ∃ v, decode r.payload = .ok v ∧
          ((app.readDirectory.1.isOk = false ∨ app.masker.isOk = false) ∨
            (∃ issues, readBody ValidateRequest.ofMembers v = .invalid issues ∧
              ∃ i ∈ issues, i.input.hasNonFinite = true) ∨
            ∃ f, readBody ValidateRequest.ofMembers v = .valid f ∧
              p.Misnames ttlSeconds f.code)) := by
  refine ⟨fun code => ?_, fun registry codes n code expected => ?_, ?_⟩
  · exact (load_comes faults typed ttlSeconds code).told_iff
  · have hcomes := load_comes faults typed ttlSeconds code
    dsimp only
    rw [result_validate, hcomes.verdict_told_iff expected]
  · rintro app now r hstorage rfl rfl routed posted
    exact handle_validate_crashes_iff hstorage faults typed now routed posted

/-! ## A scenario that does not exist -/

def lockedRow : StoredRow :=
  ⟨⟨"ann", "carbon.super", "PRIMARY"⟩, "ACCOUNT_LOCK", "SEND_RECOVERY_INFORMATION",
    "EMAIL:ann@example.com,", 0, true⟩

def lockedPool : Pool where
  rows := [some lockedRow.cells]

def uncommitting : Pool where
  rows := [some lockedRow.cells]
  faults name _ :=
    if name = .commit then some (.database ⟨.operational, "connection lost"⟩) else none

theorem typed_of_rows {p : Pool} (h : p.rows = [some lockedRow.cells]) : p.Typed := by
  intro cells hcells
  rw [h, List.mem_singleton, Option.some.injEq] at hcells
  exact ⟨lockedRow, hcells⟩

theorem uncommitting_failsAsDatabase : uncommitting.FailsAsDatabase :=
  .of_error _ fun _ _ => ite_eq_or_eq _ _ _

theorem not_misnames_of_uncommitting {p : Pool} (h : p.faults = uncommitting.faults)
    (ttlSeconds : Int) (code : String) : ¬p.Misnames ttlSeconds code := by
  rintro ⟨row, -, -, -, -, -, -, hcommit, -⟩
  have hfails (n : Nat) : p.faults .commit n ≠ none := by
    rw [h]
    nofun
  exact hfails _ hcommit

def awaitsLocked (app : Application) : Bool :=
  app.pool.rows = [some lockedRow.cells] && app.storage = .ok .database &&
    app.readDirectory.1.isOk && app.masker.isOk

/-- While commits fail, the row is not read: the failure is told and nothing crashes. -/
theorem load_failures_told_uncommitting :
    ((∃ record, ((load 900 "c1").run uncommitting).1 = .ok record) ∨
      ∃ e, ((load 900 "c1").run uncommitting).1 = .error (.store e)) ∧
    ∃ app, (start seededDatabase uncommitting).result = .ok app ∧
      (app.handle 0 (validating "c1" .sendInformation)).response ≠ .crashed := by
  have hstart : (start seededDatabase uncommitting).result.toOption.any awaitsLocked = true := by
    decide +kernel
  obtain ⟨app, happ, hready⟩ := exists_of_any hstart
  simp only [awaitsLocked, Bool.and_eq_true, decide_eq_true_eq] at hready
  obtain ⟨⟨⟨hrows, hstorage⟩, hseed⟩, hmasker⟩ := hready
  have hfaults : app.pool.faults = uncommitting.faults := faults_of_start happ
  constructor
  · obtain ⟨hload, -⟩ := load_failures_told_iff uncommitting_failsAsDatabase
      (typed_of_rows rfl) 900
    exact (hload "c1").2 (not_misnames_of_uncommitting rfl 900 "c1")
  · have faults : app.pool.FailsAsDatabase := uncommitting_failsAsDatabase.of_faults_eq hfaults
    obtain ⟨-, -, hhandle⟩ :=
      load_failures_told_iff faults (typed_of_rows hrows) app.settings.codeTtlSeconds
    refine ⟨app, happ, ?_⟩
    rw [ne_eq, hhandle app 0 (validating "c1" .sendInformation) hstorage rfl rfl
      (by decide +kernel) rfl]
    rintro ⟨v, hdecode, (hseed' | hmasker') | ⟨issues, hinvalid, -⟩ | ⟨f, -, hmisnames⟩⟩
    · rw [hseed] at hseed'
      cases hseed'
    · rw [hmasker] at hmasker'
      cases hmasker'
    · cases hdecode
      cases hinvalid
    · exact not_misnames_of_uncommitting hfaults _ _ hmisnames

/-- Where nothing fails, the row is read: the load tells the unknown name and no failure of the
store, and the validation of its code crashes. -/
theorem load_failure_untold_locked :
    lockedPool.FailsAsDatabase ∧ lockedPool.Typed ∧
      ((load 900 "c1").run lockedPool).1 =
        .error (.value (.unknownName .scenario "ACCOUNT_LOCK")) ∧
      ∃ app, (start seededDatabase lockedPool).result = .ok app ∧
        (validating "c1" .sendInformation).Asks .validate ValidateRequest.ofMembers
          ⟨"c1", .sendInformation⟩ ∧
        (app.handle 0 (validating "c1" .sendInformation)).response = .crashed := by
  have hstart : (start seededDatabase lockedPool).result.toOption.any awaitsLocked = true := by
    decide +kernel
  obtain ⟨app, happ, hready⟩ := exists_of_any hstart
  simp only [awaitsLocked, Bool.and_eq_true, decide_eq_true_eq] at hready
  obtain ⟨⟨⟨hrows, hstorage⟩, -⟩, -⟩ := hready
  have hfaultless (name : EventName) (n : Nat) : app.pool.faults name n = none := by
    rw [faults_of_start happ]
    rfl
  have faultless : lockedPool.FailsAsDatabase := nofun
  have faults : app.pool.FailsAsDatabase := faultless.of_faults_eq (faults_of_start happ)
  have hmisnames : app.pool.Misnames app.settings.codeTtlSeconds "c1" := by
    refine ⟨lockedRow, by rw [hrows]; rfl, rfl, by decide, ?_⟩
    exact ⟨hfaultless _ _, hfaultless _ _, hfaultless _ _, hfaultless _ _, hfaultless _ _, trivial⟩
  have hasks : (validating "c1" .sendInformation).Asks .validate ValidateRequest.ofMembers
      ⟨"c1", .sendInformation⟩ := ⟨by decide +kernel, rfl, _, rfl, rfl⟩
  refine ⟨faultless, typed_of_rows rfl, rfl, app, happ, hasks, ?_⟩
  rw [handle_validate_crashes_iff hstorage faults (typed_of_rows hrows) 0 hasks.routed rfl]
  exact ⟨_, rfl, .inr (.inr ⟨_, rfl, hmisnames⟩)⟩

end Application

end Api

end AccountRecovery
