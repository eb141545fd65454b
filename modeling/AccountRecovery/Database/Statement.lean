import AccountRecovery.Failure
import AccountRecovery.Record
/-!
# Database statements

Recovery records live in one table.  The statements on it are given by the columns that they name,
in order, and their texts are written from those; parameters stand in the order of the columns.
-/

namespace AccountRecovery.Database

inductive Column where
  | code
  | username
  | tenantDomain
  | storeDomain
  | scenario
  | step
  | selection
  | createdAt
deriving Repr, DecidableEq

def Column.name : Column → String
  | code => "code"
  | username => "username"
  | tenantDomain => "tenant_domain"
  | storeDomain => "user_store_domain"
  | scenario => "scenario"
  | step => "step"
  | selection => "remaining_set_ids"
  | createdAt => "created_at"

inductive Cell where
  | text (s : String)
  | int (n : Int)
  | flag (b : Bool)
deriving Repr, DecidableEq

def tableName : String := "recovery_data"

def commaList (parts : List String) : String :=
  ", ".intercalate parts

/-- The columns that are written by parameters, in the order of the parameters. -/
def insertColumns : List Column :=
  [.code, .username, .tenantDomain, .storeDomain, .scenario, .step, .selection]

/-- The columns in which two records must not agree. -/
def uniqueColumns : List Column :=
  [.tenantDomain, .storeDomain, .username, .scenario]

/-- The columns that a later record for the same account and scenario overwrites. -/
def updateColumns : List Column :=
  [.code, .step, .selection]

/-- The columns that are read, in the order in which a row holds them.  The row ends with a flag
that says whether the record is young enough. -/
def selectColumns : List Column :=
  [.username, .tenantDomain, .storeDomain, .scenario, .step, .selection, .createdAt]

def accountColumns : List Column :=
  [.username, .tenantDomain, .storeDomain]

inductive Statement where
  /-- Reads the record of a code. -/
  | selectRecord
  | deleteCode
  | upsertRecord
  | deleteAccount
  /-- Asks for nothing but an answer. -/
  | probe
  /-- The statements of a schema change. -/
  | script (text : String)
deriving Repr, DecidableEq

namespace Statement

def text : Statement → String
  | selectRecord =>
    "SELECT " ++ commaList (selectColumns.map Column.name) ++ ", " ++ Column.createdAt.name ++
      " > NOW() - (%s * INTERVAL '1 second') AS fresh FROM " ++ tableName ++ " WHERE " ++
      Column.code.name ++ " = %s"
  | deleteCode => "DELETE FROM " ++ tableName ++ " WHERE " ++ Column.code.name ++ " = %s"
  | upsertRecord =>
    "INSERT INTO " ++ tableName ++ " (" ++
      commaList ((insertColumns ++ [Column.createdAt]).map Column.name) ++ ") VALUES (" ++
      commaList (insertColumns.map (fun _ => "%s") ++ ["NOW()"]) ++ ") ON CONFLICT (" ++
      commaList (uniqueColumns.map Column.name) ++ ") DO UPDATE SET " ++
      commaList
        (updateColumns.map (fun c => c.name ++ " = EXCLUDED." ++ c.name) ++
          [Column.createdAt.name ++ " = NOW()"])
  | deleteAccount =>
    "DELETE FROM " ++ tableName ++ " WHERE " ++
      " AND ".intercalate (accountColumns.map fun c => c.name ++ " = %s")
  | probe => "SELECT 1"
  | script text => text

end Statement

def upsertParams (r : Record) : List Cell :=
  [.text r.code, .text r.account.username, .text r.account.tenantDomain,
    .text r.account.storeDomain, .text r.scenario.name, .text r.step.name, .text r.selection]

def accountParams (a : Account) : List Cell :=
  [.text a.username, .text a.tenantDomain, .text a.storeDomain]

/-- The values that a query answers for one record, with the flag for its age at the end. -/
abbrev Row := List Cell

def isFresh (row : Row) : Bool :=
  row[selectColumns.length]? = some (.flag true)

end AccountRecovery.Database
