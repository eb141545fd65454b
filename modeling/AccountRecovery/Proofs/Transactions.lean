import AccountRecovery.Proofs.Connections
/-!
# Transactions

Operations of the record store are performed one after the other on one pool, while any event may
fail with an error of the database.  Each works on a connection of its own, with a script that ends
in the only commit.  So an operation that ends as it should has committed, one that meets an error
tells it, and no connection is kept (`Transacted`).
-/

namespace AccountRecovery.Database

open Session

/-! ## Rows -/

/-- The value that a record has in a column.  The time of creation is the database's own. -/
def cellOf (r : Record) : Column → Cell
  | .code => .text r.code
  | .username => .text r.account.username
  | .tenantDomain => .text r.account.tenantDomain
  | .storeDomain => .text r.account.storeDomain
  | .scenario => .text r.scenario.name
  | .step => .text r.step.name
  | .selection => .text r.selection
  | .createdAt => .int (r.createdAt.getD 0)

def rowOf (r : Record) (fresh : Bool) : Row :=
  selectColumns.map (cellOf r) ++ [.flag fresh]

theorem isFresh_rowOf (r : Record) (fresh : Bool) : isFresh (rowOf r fresh) = fresh := by
  cases fresh <;> rfl

theorem read_name (scenario : Scenario) : Scenario.read scenario.name = .ok scenario := by
  cases scenario <;> rfl

theorem read_stepName (step : Step) : Step.read step.name = .ok step := by
  cases step <;> rfl

/-- A record is read back from its row, under the code that was asked for. -/
theorem recordOf_rowOf (code : String) (r : Record) (fresh : Bool) :
    recordOf code (rowOf r fresh) =
      .ok { r with code := code, createdAt := some (r.createdAt.getD 0) } := by
  simp only [recordOf, rowOf, selectColumns, List.map_cons, List.map_nil, cellOf, List.cons_append,
    List.nil_append, read_name, read_stepName]
  rfl

namespace Pool

def Readable (p : Pool) : Prop :=
  ∀ row, some row ∈ p.rows → ∃ r fresh, row = rowOf r fresh

variable {p p' : Pool} {es : List Event}

theorem Readable.of_follows (h : p.Readable) (hfollows : p.Follows p' es) : p'.Readable :=
  fun row hrow => h row (hfollows.rows.subset hrow)

end Pool

/-! ## Operations -/

inductive Operation where
  | load (code : String)
  | store (r : Record)
  | invalidate (a : Account)

namespace Operation

def perform (ttlSeconds : Int) : Operation → Session (Option Record)
  | load code => some <$> Database.load ttlSeconds code
  | store r => do
    Database.store r
    return none
  | invalidate a => do
    Database.invalidate a
    return none

def task : Operation → String
  | load _ => "Error loading recovery data"
  | store _ => "Error storing recovery data"
  | invalidate _ => "Error invalidating recovery data"

/-- What happens between the opening of the connection and its end, if nothing fails and this row is
found. -/
def script (ttlSeconds : Int) (row : Option Row) : Operation → List Event
  | load code =>
    .execute .selectRecord (some [.int ttlSeconds, .text code]) :: .fetchOne ::
      match row with
      | none => [.commit]
      | some row =>
        if isFresh row then [.commit] else [.execute .deleteCode (some [.text code]), .commit]
  | store r => [.execute .upsertRecord (some (upsertParams r)), .commit]
  | invalidate a => [.execute .deleteAccount (some (accountParams a)), .commit]

def selected : Option Row → Except Failure Row
  | none =>
    .error (.store ⟨.unknownCode, "Invalid recovery code", StoreFault.unknownCode.code, none⟩)
  | some row =>
    if isFresh row then .ok row
    else
      .error (.store ⟨.expiredCode, "Expired recovery code", StoreFault.expiredCode.code, none⟩)

def verdict (row : Option Row) : Operation → Except Failure (Option Record)
  | load code => (selected row).bind fun row => (recordOf code row).map some
  | store _ => .ok none
  | invalidate _ => .ok none

variable {p : Pool}

theorem plays_selectRow (ttlSeconds : Int) (code : String) (p : Pool) :
    ∃ x, selectRow ttlSeconds code = withConnection x ∧
      Plays x p ((load code).script ttlSeconds p.rows.head?.join) (selected p.rows.head?.join) := by
  refine ⟨_, rfl, plays_happen (plays_fetchOne fun p' hp' => ?_)⟩
  simp only [Pool.rows_after]
  cases p.rows.head?.join with
  | none =>
      refine plays_happen ?_
      exact plays_throw _
  | some row =>
      simp only [selected]
      split
      · refine plays_happen ?_
        exact plays_pure row
      · refine plays_happen ?_
        refine plays_happen ?_
        exact plays_throw _

theorem mapError_selected (told : String) (row : Option Row) :
    (selected row).mapError (asTold told) = selected row := by
  cases row with
  | none => rfl
  | some row =>
      simp only [selected]
      split <;> rfl

theorem selected_of_fresh {row : Row} (h : isFresh row = true) :
    selected (some row) = .ok row := by
  rw [selected, if_pos h]

theorem script_of_fresh {ttlSeconds : Int} {code : String} {row : Row} (h : isFresh row = true) :
    (load code).script ttlSeconds (some row) =
      [.execute .selectRecord (some [.int ttlSeconds, .text code]), .fetchOne, .commit] := by
  simp only [script, h, if_true]

theorem selected_error {row : Option Row} {f : Failure} (h : selected row = .error f) :
    ∃ e, f = .store e := by
  cases row with
  | none =>
      cases h
      exact ⟨_, rfl⟩
  | some row =>
      simp only [selected] at h
      split at h
      · cases h
      · cases h
        exact ⟨_, rfl⟩

theorem selected_eq_ok {row : Option Row} {cells : Row} (h : selected row = .ok cells) :
    row = some cells ∧ isFresh cells = true := by
  cases row with
  | none => cases h
  | some row =>
      simp only [selected] at h
      split at h
      · next hfresh =>
          cases h
          exact ⟨rfl, hfresh⟩
      · cases h

theorem recordOf_selected (readable : p.Readable) (code : String) {row : Row}
    (h : selected p.rows.head?.join = .ok row) :
    ∃ r, recordOf code row = .ok r := by
  have hhead : p.rows.head? = some (some row) := Option.join_eq_some_iff.1 (selected_eq_ok h).1
  obtain ⟨r, fresh, rfl⟩ := readable row (List.mem_of_head? hhead)
  exact ⟨_, recordOf_rowOf code r fresh⟩

theorem run_load {p' : Pool} {ttlSeconds : Int} {code : String} {r : Except Failure Record}
    (h : (Database.load ttlSeconds code).run p = (r, p')) :
    ((load code).perform ttlSeconds).run p = (r.map some, p') := by
  have hsome : (some <$> Database.load ttlSeconds code : Session (Option Record)).run p =
      (r.bind fun record => .ok (some record), p') := by
    rw [← bind_pure_comp]
    exact run_bind_still h _ fun record => rfl
  refine hsome.trans ?_
  cases r <;> rfl

theorem load_conducted (ttlSeconds : Int) (code : String) (p : Pool) :
    ∃ es r p', (Database.load ttlSeconds code).run p = (r.bind (recordOf code), p') ∧
      p.Follows p' es ∧
      Conducted (task (load code)) p ((load code).script ttlSeconds p.rows.head?.join)
        (selected p.rows.head?.join) es r := by
  obtain ⟨x, hselect, hplays⟩ := plays_selectRow ttlSeconds code (p.after [.connection])
  obtain ⟨es, r, p', hrun, hfollows, hconducted⟩ :=
    conducted (task (load code)) hplays (mapError_selected _ _)
  rw [← hselect] at hrun
  exact ⟨es, r, p', run_bind_still hrun (recordOf code) fun row => rfl, hfollows, hconducted⟩

theorem write_conducted (told : String) (s : Statement) (params : Option (List Cell)) :
    ∃ es r p', (asStoreError told (withConnection do execute s params; commit) >>= fun _ =>
        pure none : Session (Option Record)).run p = (r, p') ∧ p.Follows p' es ∧
      Conducted told p [.execute s params, .commit] (.ok none : Except Failure (Option Record))
        es r := by
  obtain ⟨es, r, p', hrun, hfollows, hconducted⟩ := conducted_write told s params
  exact ⟨es, _, p', run_bind_still hrun (fun _ => .ok none) fun _ => rfl, hfollows,
    hconducted.bind _ fun _ _ => ⟨none, rfl⟩⟩

/-- An operation goes in one of the ways in which work on a connection goes. -/
theorem perform_conducted (readable : p.Readable) (ttlSeconds : Int) (op : Operation) :
    ∃ es r p', (op.perform ttlSeconds).run p = (r, p') ∧ p.Follows p' es ∧
      Conducted op.task p (op.script ttlSeconds p.rows.head?.join)
        (op.verdict p.rows.head?.join) es r := by
  cases op with
  | load code =>
      obtain ⟨es, r, p', hrun, hfollows, hconducted⟩ := load_conducted ttlSeconds code p
      have hread : (r.bind (recordOf code)).map some =
          r.bind fun row => (recordOf code row).map some := by
        cases r <;> rfl
      refine ⟨es, _, p', run_load hrun, hfollows, ?_⟩
      rw [hread]
      refine hconducted.bind _ fun row hrow => ?_
      obtain ⟨record, hrecord⟩ := recordOf_selected readable code hrow
      exact ⟨some record, by rw [hrecord]; rfl⟩
  | store r => exact write_conducted _ _ _
  | invalidate a => exact write_conducted _ _ _

theorem script_eq (ttlSeconds : Int) (row : Option Row) (op : Operation) :
    ∃ statements, op.script ttlSeconds row = statements ++ [.commit] ∧
      ∀ e ∈ statements, e.name = .execute ∨ e.name = .fetchOne := by
  cases op with
  | load code =>
      cases row with
      | none => exact ⟨[_, _], rfl, by simp [Event.name]⟩
      | some row =>
          simp only [script]
          split
          · exact ⟨[_, _], rfl, by simp [Event.name]⟩
          · exact ⟨[_, _, _], rfl, by simp [Event.name]⟩
  | store r => exact ⟨[_], rfl, by simp [Event.name]⟩
  | invalidate a => exact ⟨[_], rfl, by simp [Event.name]⟩

theorem script_of_stale {ttlSeconds : Int} {code : String} {row : Row}
    (h : isFresh row = false) :
    (load code).script ttlSeconds (some row) =
      [.execute .selectRecord (some [.int ttlSeconds, .text code])] ++ .fetchOne ::
        .execute .deleteCode (some [.text code]) :: [.commit] := by
  simp [script, h]

theorem mem_script_deleteCode {ttlSeconds : Int} {row : Option Row} {op : Operation}
    {params : Option (List Cell)} :
    .execute .deleteCode params ∈ op.script ttlSeconds row ↔
      ∃ code r, params = some [.text code] ∧ op = load code ∧ row = some r ∧
        isFresh r = false := by
  cases op with
  | load code =>
      cases row with
      | none => simp [script]
      | some r => cases hfresh : isFresh r <;> simp [script, hfresh]
  | store r => simp [script]
  | invalidate a => simp [script]

theorem verdict_cases (readable : p.Readable) (op : Operation) :
    (∃ found, op.verdict p.rows.head?.join = .ok found) ∨
      ∃ e, op.verdict p.rows.head?.join = .error (.store e) := by
  cases op with
  | load code =>
      cases hselected : selected p.rows.head?.join with
      | ok row =>
          obtain ⟨record, hrecord⟩ := recordOf_selected readable code hselected
          refine .inl ⟨some record, ?_⟩
          simp only [verdict, hselected, Except.bind, hrecord]
          rfl
      | error f =>
          obtain ⟨e, rfl⟩ := selected_error hselected
          exact .inr ⟨e, by rw [verdict, hselected]; rfl⟩
  | store r => exact .inl ⟨none, rfl⟩
  | invalidate a => exact .inl ⟨none, rfl⟩

end Operation

/-! ## Operations one after the other -/

structure Performed where
  operation : Operation
  before : Pool
  result : Except Failure (Option Record)
  after : Pool

def performAll (ttlSeconds : Int) : List Operation → Pool → List Performed × Pool
  | [], p => ([], p)
  | op :: ops, p =>
    let (r, p') : Except Failure (Option Record) × Pool := (op.perform ttlSeconds).run p
    let (done, last) := performAll ttlSeconds ops p'
    (⟨op, p, r, p'⟩ :: done, last)

namespace Performed

def events (d : Performed) : List Event :=
  d.after.events.drop d.before.events.length

def Answers (d : Performed) (row : Row) : Prop :=
  ∃ earlier later, d.events = earlier ++ .fetchOne :: later ∧
    (d.before.after earlier).failure? .fetchOne = none ∧ d.before.rows.head? = some (some row)

/-- The operation has ended normally, or its code is unknown or too old. -/
def Settles (d : Performed) : Prop :=
  (∃ found, d.result = .ok found) ∨
    ∃ e : StoreError, d.result = .error (.store e) ∧ e.fault ≠ .general

/-- What holds of an operation on a connection of its own. -/
structure Transacted (d : Performed) : Prop where
  /-- The operation ends normally or with an error of the store. -/
  closed : (∃ found, d.result = .ok found) ∨ ∃ s, d.result = .error (.store s)
  /-- The operation settles only if nothing has failed and the only commit comes last. -/
  settled : d.Settles → d.before.Passes d.events ∧
    ∃ statements why, d.events = .connection :: statements ++ [.commit, .exit why] ∧
      .commit ∉ statements
  /-- A failure is told, and nothing is executed or committed after it. -/
  told : ∀ earlier e later err, d.events = earlier ++ e :: later →
    (d.before.after earlier).failure? e = some (.database err) →
      (∀ x ∈ later, x.name ≠ .execute ∧ x.name ≠ .commit) ∧
        ∃ s : StoreError, d.result = .error (.store s) ∧ s.fault = .general ∧
          ((d.before.after (earlier ++ [e])).Passes later → s.cause = some err)
  /-- A record is deleted by its code if and only if its row says that it is too old. -/
  purged : ∀ params, .execute .deleteCode params ∈ d.events ↔
    ∃ code row, params = some [.text code] ∧ d.operation = .load code ∧ d.Answers row ∧
      isFresh row = false
  /-- The connection is refused, or it is left once, and nothing happens on it afterwards. -/
  left : (d.events = [.connection] ∧ d.before.failure? .connection ≠ none) ∨
    ∃ inner why, d.events = .connection :: inner ++ [.exit why] ∧
      d.before.failure? .connection = none ∧
      ∀ x ∈ inner, x.name ≠ .connection ∧ x.name ≠ .exit

theorem events_eq {op : Operation} {p p' : Pool} {r : Except Failure (Option Record)}
    {es : List Event} (hfollows : p.Follows p' es) : (mk op p r p').events = es := by
  simp only [events, hfollows.events, List.drop_left]

theorem not_settles {d : Performed} {err : DatabaseError}
    (h : d.result = .error (asTold d.operation.task (.database err))) : ¬d.Settles := by
  rintro (⟨found, hfound⟩ | ⟨e, he, hfault⟩)
  · rw [h] at hfound
    cases hfound
  · rw [h] at he
    cases he
    exact hfault rfl

variable {d : Performed} {ttlSeconds : Int}

theorem purged_iff
    (h : Conducted d.operation.task d.before
      (d.operation.script ttlSeconds d.before.rows.head?.join)
      (d.operation.verdict d.before.rows.head?.join) d.events d.result)
    (params : Option (List Cell)) :
    .execute .deleteCode params ∈ d.events ↔
      ∃ code row, params = some [.text code] ∧ d.operation = .load code ∧ d.Answers row ∧
        isFresh row = false := by
  constructor
  · intro hdelete
    have hscript := h.mem_script hdelete (by simp [Event.name]) (by simp [Event.name])
    obtain ⟨code, row, rfl, hop, hrow, hfresh⟩ := Operation.mem_script_deleteCode.1 hscript
    refine ⟨code, row, rfl, hop, ?_, hfresh⟩
    rw [hop, hrow, Operation.script_of_stale hfresh] at h
    -- In the script the row is fetched right before.
    obtain ⟨rest, hevents, hpasses⟩ :=
      h.passed hdelete (by simp [Event.name]) (by simp [Event.name]) (by simp)
    exact ⟨_, rest, hevents, hpasses, Option.join_eq_some_iff.1 hrow⟩
  · rintro ⟨code, row, rfl, hop, ⟨done, rest, hevents, hpasses, hhead⟩, hfresh⟩
    have hrow : d.before.rows.head?.join = some row := Option.join_eq_some_iff.2 hhead
    rw [hop, hrow, Operation.script_of_stale hfresh] at h
    exact h.next hevents hpasses (by simp [Event.name]) (by simp [Event.name])
      (by simp)

theorem transacted_of_conducted
    (h : Conducted d.operation.task d.before
      (d.operation.script ttlSeconds d.before.rows.head?.join)
      (d.operation.verdict d.before.rows.head?.join) d.events d.result)
    (faults : d.before.FailsAsDatabase) (readable : d.before.Readable) : d.Transacted := by
  obtain ⟨statements, hscript, hnames⟩ :=
    d.operation.script_eq ttlSeconds d.before.rows.head?.join
  refine ⟨?_, fun hsettles => ?_, fun earlier e later err hsplit hfails => ?_, purged_iff h, ?_⟩
  · by_cases htold : ∃ err, d.result = .error (asTold d.operation.task (.database err))
    · obtain ⟨err, htold⟩ := htold
      exact .inr ⟨_, htold⟩
    · obtain ⟨-, -, hresult⟩ := h.settled faults fun err herr => htold ⟨err, herr⟩
      rw [hresult]
      exact Operation.verdict_cases readable d.operation
  · obtain ⟨hpasses, hevents, -⟩ := h.settled faults fun err herr => not_settles herr hsettles
    rw [hscript, List.cons_append, List.append_assoc] at hevents
    refine ⟨hpasses, statements, _, hevents, fun hcommit => ?_⟩
    · have hname := hnames _ hcommit
      simp [Event.name] at hname
  · obtain ⟨hlater, err', hresult, hcause⟩ := h.told faults hsplit hfails
    refine ⟨fun x hx => ?_, _, hresult, rfl, fun hpasses => ?_⟩
    · rw [hlater x hx]
      exact ⟨by decide, by decide⟩
    · rw [hcause hpasses]
  · rcases h.left with hrefused | ⟨inner, why, hevents, hconnection, hinner⟩
    · exact .inl hrefused
    · refine .inr ⟨inner, why, hevents, hconnection, fun x hx => ?_⟩
      have hx' := hinner hx
      rw [hscript, List.mem_append, List.mem_singleton] at hx'
      rcases hx' with hx' | rfl
      · rcases hnames x hx' with hname | hname <;>
        · rw [hname]
          exact ⟨by decide, by decide⟩
      · exact ⟨by decide, by decide⟩

end Performed

/-- On a pool that fails with errors of the database only, and whose rows hold records, operations
are transactions: what has happened are their events, each on a connection of its own. -/
theorem operations_transacted (ttlSeconds : Int) (ops : List Operation) {p : Pool}
    (faults : p.FailsAsDatabase) (readable : p.Readable) :
    let run := performAll ttlSeconds ops p
    run.1.map Performed.operation = ops ∧
      run.2.events = p.events ++ run.1.flatMap Performed.events ∧
      ∀ d ∈ run.1, d.before.faults = p.faults ∧ d.Transacted := by
  induction ops generalizing p with
  | nil => simp [performAll]
  | cons op ops ih =>
      obtain ⟨es, r, p', hrun, hfollows, hconducted⟩ :=
        op.perform_conducted readable ttlSeconds
      obtain ⟨hops, hlast, hdone⟩ :=
        ih (faults.of_follows hfollows) (readable.of_follows hfollows)
      have hevents : (Performed.mk op p r p').events = es := Performed.events_eq hfollows
      simp only [performAll, hrun]
      refine ⟨by rw [List.map_cons, hops], ?_, ?_⟩
      · rw [hlast, List.flatMap_cons, hevents, hfollows.events, List.append_assoc]
      · intro d hd
        rcases List.mem_cons.1 hd with rfl | hd
        · rw [← hevents] at hconducted
          exact ⟨rfl, Performed.transacted_of_conducted hconducted faults readable⟩
        · obtain ⟨hfaults, htransacted⟩ := hdone d hd
          exact ⟨hfaults.trans hfollows.faults, htransacted⟩

def annsRecord : Record :=
  ⟨⟨"ann", "t", "PRIMARY"⟩, "a", .username, .sendInformation, "EXTERNAL:,", some 0⟩

/-- A pool that loses its first connection in the end, with a row that is too old. -/
def losing : Pool where
  rows := [some (rowOf annsRecord false)]
  faults name n :=
    if name = .exit ∧ n = 1 then some (.database ⟨.operational, "connection lost"⟩) else none

/-- The code is found too old and deleted, but the failure to leave the connection is told. -/
theorem operations_transacted_losing :
    ∃ d d' e, (performAll 60 [.load "a", .store annsRecord] losing).1 = [d, d'] ∧
      d.result = .error (.store e) ∧ e.fault = .general ∧
      e.cause = some ⟨.operational, "connection lost"⟩ ∧
      .execute .deleteCode (some [.text "a"]) ∈ d.events ∧ d'.result = .ok none := by
  have faults : losing.FailsAsDatabase := by
    intro name n f hf
    simp only [losing] at hf
    split at hf
    · cases hf
      exact ⟨_, rfl⟩
    · cases hf
  have readable : losing.Readable := by
    intro row hrow
    rw [losing, List.mem_singleton, Option.some.injEq] at hrow
    exact ⟨annsRecord, false, hrow⟩
  obtain ⟨-, -, hall⟩ := operations_transacted 60 [.load "a", .store annsRecord] faults readable
  let run := (performAll 60 [.load "a", .store annsRecord] losing).1
  let d : Performed := run[0]
  obtain ⟨-, htransacted⟩ := hall d (by simp [d, run, performAll])
  have hevents : d.events = [.connection, .execute .selectRecord (some [.int 60, .text "a"]),
      .fetchOne, .execute .deleteCode (some [.text "a"]), .commit] ++ .exit (some (.store
        ⟨.expiredCode, "Expired recovery code", "18002", none⟩)) :: [] := rfl
  obtain ⟨-, e, hresult, hfault, hcause⟩ := htransacted.told _ _ _ _ hevents rfl
  exact ⟨d, run[1], e, rfl, hresult, hfault, hcause trivial, by rw [hevents]; simp, rfl⟩

end AccountRecovery.Database
