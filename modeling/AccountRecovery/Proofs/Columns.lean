import AccountRecovery.Proofs.Transactions
/-!
# Columns of stored records

The statements that write, read and delete records name columns in orders of their own, while
parameters and rows are told by their places only.  Here the texts of the statements are read: the
columns that an insertion names and the expressions for their values, the items that a query
selects, and the columns that its conditions compare with parameters.

Main statement: what is written for a record and then listed by the query is read back as that
record, and the conditions pick the rows of its code and of its account
(`stored_record_loads_back`).
-/

namespace AccountRecovery.Database

open Session

/-! ## Reading statements -/

def itemsBetween (opening closing separator : String) (text : List Char) : List String :=
  match Text.splitFrom opening.toList 0 text with
  | _ :: rest :: _ =>
    let list := (Text.splitFrom closing.toList 0 rest).head?.getD []
    (Text.splitFrom separator.toList 0 list).map String.ofList
  | _ => []

def insertedColumns (text : String) : List String :=
  itemsBetween " (" ")" ", " text.toList

def insertedValues (text : String) : List String :=
  itemsBetween "VALUES (" ") " ", " text.toList

/-- The columns that a query selects, and nothing in the place of the item that it calls fresh. -/
def selectedColumns (text : String) : List (Option String) :=
  (itemsBetween "SELECT " " FROM " ", " text.toList).map fun item =>
    if (Text.splitOn " AS " item).getLast? = some "fresh" then none else some item

/-- The columns that the conditions of a statement compare, if each is compared with a parameter. -/
def comparedColumns? (text : String) : Option (List String) :=
  (itemsBetween " WHERE " ";" " AND " text.toList).mapM fun condition =>
    match Text.splitOn " = " condition with
    | [column, "%s"] => some column
    | _ => none

/-! ## What statements do to rows -/

abbrev TableRow := List (String × Cell)

/-- The values of expressions: a placeholder takes the next parameter, and the time is known. -/
def evaluate (now : Instant) : (expressions : List String) → (params : List Cell) →
    Option (List Cell)
  | [], [] => some []
  | "NOW()" :: es, params => (evaluate now es params).map (.int now :: ·)
  | "%s" :: es, c :: params => (evaluate now es params).map (c :: ·)
  | _, _ => none

def inserted? (text : String) (params : List Cell) (now : Instant) : Option TableRow :=
  let columns := insertedColumns text
  (evaluate now (insertedValues text) params).bind fun values =>
    if values.length = columns.length then some (columns.zip values) else none

def answered? (text : String) (fresh : Bool) (stored : TableRow) : Option Row :=
  (selectedColumns text).mapM fun
    | some column => stored.lookup column
    | none => some (.flag fresh)

/-- The conditions of a statement hold of a row.  They take the last parameters. -/
def Selects (text : String) (params : List Cell) (row : TableRow) : Prop :=
  ∃ columns, comparedColumns? text = some columns ∧ columns.length ≤ params.length ∧
    ∀ x ∈ columns.zip (params.drop (params.length - columns.length)), row.lookup x.1 = some x.2

/-! ## What operations execute -/

def Event.statement? : Event → Option (Statement × List Cell)
  | execute s params => some (s, params.getD [])
  | _ => none

def executed {α : Type} (x : Session α) (p : Pool) : List (Statement × List Cell) :=
  ((x.run p).2.events.drop p.events.length).filterMap Event.statement?

variable {α : Type} {p : Pool}

theorem executed_eq {x : Session α} {p' : Pool} {es : List Event} {r : Except Failure α}
    (hrun : x.run p = (r, p')) (hfollows : p.Follows p' es) :
    executed x p = es.filterMap Event.statement? := by
  rw [executed, hrun, hfollows.events, List.drop_left]

theorem Conducted.statements_eq {task : String} {s : Statement} {params : List Cell}
    {v r : Except Failure α} {es : List Event}
    (h : Conducted task p [.execute s (some params), .commit] v es r)
    (lent : p.failure? .connection = none) :
    es.filterMap Event.statement? = [(s, params)] := by
  cases h with
  | refused f fails =>
      rw [lent] at fails
      cases fails
  | broken before e rest f split passes fails =>
      -- The event that fails is the statement itself, or the commit after it.
      rcases before with _ | ⟨x, _ | ⟨y, before⟩⟩
      · cases split
        rfl
      · cases split
        rfl
      · simp at split
  | unleft f passes fails => rfl
  | finished passes => rfl

/-- Work that executes one statement and commits executes nothing else. -/
theorem executed_write {told : String} (s : Statement) (params : List Cell)
    (lent : p.failure? .connection = none) :
    executed (asStoreError told (withConnection do execute s (some params); commit)) p =
      [(s, params)] := by
  obtain ⟨es, r, p', hrun, hfollows, hconducted⟩ := conducted_write told s (some params)
  rw [executed_eq hrun hfollows, hconducted.statements_eq lent]

theorem load_of_head {q : Pool} {row : Row} (faultless : ∀ name n, q.faults name n = none)
    (hrow : q.rows.head? = some (some row)) (hfresh : isFresh row = true) (ttlSeconds : Int)
    (code : String) :
    ((load ttlSeconds code).run q).1 = recordOf code row ∧
      executed (load ttlSeconds code) q = [(.selectRecord, [.int ttlSeconds, .text code])] := by
  obtain ⟨es, r, p', hload, hfollows, hconducted⟩ := Operation.load_conducted ttlSeconds code q
  obtain ⟨hes, hr⟩ := hconducted.of_faultless faultless
  rw [hrow, Option.join_some, Operation.selected_of_fresh hfresh] at hes hr
  rw [hr] at hload
  refine ⟨by rw [hload]; rfl, ?_⟩
  rw [executed_eq hload hfollows, hes, Operation.script_of_fresh hfresh]
  rfl

/-! ## The texts of the statements -/

-- Each text is taken apart before its characters are read, since reading those of a whole text is
-- much slower than reading those of its parts.

theorem insertedColumns_upsertRecord :
    insertedColumns Statement.upsertRecord.text = ["code", "username", "tenant_domain",
      "user_store_domain", "scenario", "step", "remaining_set_ids", "created_at"] := by
  delta insertedColumns Statement.text
  simp only [commaList, String.toList_append, String.toList_intercalate]
  decide +kernel

theorem insertedValues_upsertRecord :
    insertedValues Statement.upsertRecord.text =
      ["%s", "%s", "%s", "%s", "%s", "%s", "%s", "NOW()"] := by
  delta insertedValues Statement.text
  simp only [commaList, String.toList_append, String.toList_intercalate]
  decide +kernel

theorem selectedColumns_selectRecord :
    selectedColumns Statement.selectRecord.text = [some "username", some "tenant_domain",
      some "user_store_domain", some "scenario", some "step", some "remaining_set_ids",
      some "created_at", none] := by
  delta selectedColumns Statement.text
  simp only [commaList, String.toList_append, String.toList_intercalate]
  decide +kernel

theorem comparedColumns?_selectRecord :
    comparedColumns? Statement.selectRecord.text = some ["code"] := by
  delta comparedColumns? Statement.text
  simp only [commaList, String.toList_append, String.toList_intercalate]
  decide +kernel

theorem comparedColumns?_deleteAccount :
    comparedColumns? Statement.deleteAccount.text =
      some ["username", "tenant_domain", "user_store_domain"] := by
  delta comparedColumns? Statement.text
  simp only [String.toList_append, String.toList_intercalate]
  decide +kernel

def tableRow (r : Record) (created : Instant) : TableRow :=
  [("code", .text r.code), ("username", .text r.account.username),
    ("tenant_domain", .text r.account.tenantDomain),
    ("user_store_domain", .text r.account.storeDomain), ("scenario", .text r.scenario.name),
    ("step", .text r.step.name), ("remaining_set_ids", .text r.selection),
    ("created_at", .int created)]

theorem inserted?_upsertRecord (r : Record) (created : Instant) :
    inserted? Statement.upsertRecord.text (upsertParams r) created =
      some (tableRow r created) := by
  rw [inserted?, insertedColumns_upsertRecord, insertedValues_upsertRecord]
  rfl

/-- The query lists the columns in the order in which a row holds them. -/
theorem answered?_selectRecord (r : Record) (created : Instant) (fresh : Bool) :
    answered? Statement.selectRecord.text fresh (tableRow r created) =
      some (rowOf { r with createdAt := some created } fresh) := by
  rw [answered?, selectedColumns_selectRecord]
  rfl

theorem agrees_iff {columns : List String} {values : List Cell} {stored : TableRow}
    (hstored : columns.map (stored.lookup ·) = values.map some) (row : TableRow) :
    (∀ x ∈ columns.zip values, row.lookup x.1 = some x.2) ↔
      ∀ column ∈ columns, row.lookup column = stored.lookup column := by
  induction columns generalizing values with
  | nil => simp
  | cons column columns ih =>
      cases values with
      | nil => cases hstored
      | cons value values =>
          obtain ⟨hvalue, hvalues⟩ := List.cons.inj hstored
          have hvalue : stored.lookup column = some value := hvalue
          rw [List.zip_cons_cons, List.forall_mem_cons, List.forall_mem_cons, ih hvalues, hvalue]

theorem selects_iff {text : String} {columns : List String} {params : List Cell}
    {stored : TableRow} (hcolumns : comparedColumns? text = some columns)
    (hlength : columns.length ≤ params.length)
    (hstored : columns.map (stored.lookup ·) =
      (params.drop (params.length - columns.length)).map some) (row : TableRow) :
    Selects text params row ↔ ∀ column ∈ columns, row.lookup column = stored.lookup column := by
  rw [← agrees_iff hstored row, Selects]
  simp [hcolumns, hlength]

/-- What is written for a record can be read and deleted.  The parameters that are executed give a
row of the table; what the query lists of it is read back as the record, under its code; and the
conditions of the query and of the deletion pick the rows that agree with it in the code, and in the
three columns of the account. -/
theorem stored_record_loads_back (lent : p.failure? .connection = none) (r : Record)
    (created : Instant) (ttlSeconds : Int) :
    ∃ params stored row, executed (store r) p = [(.upsertRecord, params)] ∧
      inserted? Statement.upsertRecord.text params created = some stored ∧
      answered? Statement.selectRecord.text true stored = some row ∧
      (∀ q : Pool, (∀ name n, q.faults name n = none) → q.rows.head? = some (some row) →
        ((load ttlSeconds r.code).run q).1 = .ok { r with createdAt := some created } ∧
        ∃ sought, executed (load ttlSeconds r.code) q = [(.selectRecord, sought)] ∧
          ∀ other, Selects Statement.selectRecord.text sought other ↔
            other.lookup "code" = stored.lookup "code") ∧
      ∃ doomed, executed (invalidate r.account) p = [(.deleteAccount, doomed)] ∧
        ∀ other, Selects Statement.deleteAccount.text doomed other ↔
          other.lookup "username" = stored.lookup "username" ∧
            other.lookup "tenant_domain" = stored.lookup "tenant_domain" ∧
            other.lookup "user_store_domain" = stored.lookup "user_store_domain" := by
  refine ⟨_, _, _, executed_write _ _ lent, inserted?_upsertRecord r created,
    answered?_selectRecord r created true, fun q faultless hrow => ?_,
    _, executed_write _ _ lent, fun other => ?_⟩
  · obtain ⟨hloaded, hexecuted⟩ := load_of_head faultless hrow (isFresh_rowOf _ _) ttlSeconds r.code
    refine ⟨?_, _, hexecuted, fun other => ?_⟩
    · rw [hloaded, recordOf_rowOf]
      rfl
    · have hstored : ["code"].map ((tableRow r created).lookup ·) = [some (.text r.code)] := rfl
      rw [selects_iff comparedColumns?_selectRecord (by simp) hstored]
      simp
  · have hstored : ["username", "tenant_domain", "user_store_domain"].map
        ((tableRow r created).lookup ·) = (accountParams r.account).map some := rfl
    rw [selects_iff comparedColumns?_deleteAccount (by simp [accountParams]) hstored]
    simp

/-- The row of a record on a pool that loses the connection when it is left: the record is written
all the same, and it is read from another pool. -/
theorem stored_record_loads_back_ann :
    losing.failure? .connection = none ∧
      ∃ row, ((load 60 "a").run { rows := [some row] }).1 =
        .ok { annsRecord with createdAt := some 7 } := by
  have lent : losing.failure? .connection = none := rfl
  obtain ⟨params, stored, row, -, -, -, hload, -⟩ := stored_record_loads_back lent annsRecord 7 60
  exact ⟨lent, row, (hload { rows := [some row] } (fun _ _ => rfl) rfl).1⟩

end AccountRecovery.Database
