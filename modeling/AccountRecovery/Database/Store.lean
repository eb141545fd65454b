import AccountRecovery.Collaborators
import AccountRecovery.Database.Pool
import AccountRecovery.Names
/-!
# The record store in the database

Each operation works on a connection of its own and commits once.  Failures of the database are told
as failures of the store.
-/

namespace AccountRecovery.Database

open Session

/-- Tells failures of the database as failures of the store. -/
def asStoreError {α : Type} (task : String) (work : Session α) : Session α :=
  tryCatch work fun f =>
    match f with
    | .database e =>
      throw (.store
        ⟨.general, task ++ ": " ++ e.message, StoreFault.general.code, some e⟩)
    | f => throw f

/-- Reads the row of a code, and deletes the record if it is too old. -/
def selectRow (ttlSeconds : Int) (code : String) : Session Row :=
  withConnection do
    execute .selectRecord (some [.int ttlSeconds, .text code])
    match ← fetchOne with
    | none =>
      commit
      throw (.store
        ⟨.unknownCode, "Invalid recovery code", StoreFault.unknownCode.code, none⟩)
    | some row =>
      if isFresh row then
        commit
        return row
      else
        execute .deleteCode (some [.text code])
        commit
        throw (.store
          ⟨.expiredCode, "Expired recovery code", StoreFault.expiredCode.code, none⟩)

def recordOf (code : String) : Row → Except Failure Record
  | [.text username, .text tenantDomain, .text storeDomain, .text scenario, .text step,
      .text selection, .int createdAt, _] => do
    let scenario ← Scenario.read scenario
    let step ← Step.read step
    return ⟨⟨username, tenantDomain, storeDomain⟩, code, scenario, step, selection, some createdAt⟩
  | _ => .error .wrongType

def load (ttlSeconds : Int) (code : String) : Session Record := do
  let row ← asStoreError "Error loading recovery data" (selectRow ttlSeconds code)
  recordOf code row

/-- Stores a record in place of any for the same account and scenario. -/
def store (r : Record) : Session Unit :=
  asStoreError "Error storing recovery data" <|
    withConnection do
      execute .upsertRecord (some (upsertParams r))
      commit

def invalidate (a : Account) : Session Unit :=
  asStoreError "Error invalidating recovery data" <|
    withConnection do
      execute .deleteAccount (some (accountParams a))
      commit

/-- Fails unless the database answers. -/
def probe : Session Unit :=
  withConnection do
    execute .probe none

def recordStore (ttlSeconds : Int) : RecordStore Pool where
  load code p := (some <$> load ttlSeconds code : Session (Option Record)).run p
  store r p := (store r).run p
  invalidate a p := (invalidate a).run p

end AccountRecovery.Database
