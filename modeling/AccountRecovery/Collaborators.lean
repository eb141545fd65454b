import AccountRecovery.Directory.Basic
import AccountRecovery.Store.Memory
/-!
# Collaborators

Answers the questions of the service from a directory, a tenant registry and account statuses, with
any store for the records.
-/

namespace AccountRecovery

/-- The collaborators that do not change while the service runs. -/
structure Registry where
  directory : Directory := {}
  tenants : TenantRegistry := []
  statuses : AccountStatuses := {}
deriving Repr, DecidableEq

/-- A record store whose state is part of `σ`. -/
structure RecordStore (σ : Type) where
  load : String → σ → Except Failure (Option Record) × σ
  store : Record → σ → Except Failure Unit × σ
  invalidate : Account → σ → Except Failure Unit × σ

def Registry.answer {σ : Type} (r : Registry) (records : RecordStore σ) : Dialogue.Handler σ
  | .tenantId domain, s => (r.tenants.idOf domain, s)
  | .findUsers tenantId key value, s => (.ok (r.directory.findUsers tenantId key value), s)
  | .claimValues tenantId username keys, s =>
    (.ok (r.directory.claimValues tenantId username keys), s)
  | .secondaryStoreExists tenantId domain, s => (.ok (r.directory.hasStore tenantId domain), s)
  | .isDisabled a, s => (.ok (r.statuses.disabled.contains a), s)
  | .isLocked a, s => (.ok (r.statuses.locked.contains a), s)
  | .load code, s => records.load code s
  | .store record, s => records.store record s
  | .invalidate a, s => records.invalidate a s

def MemoryStore.recordStore (now : Instant) : RecordStore MemoryStore where
  load code s :=
    match s.load now code with
    | (.ok r, s) => (.ok (some r), s)
    | (.error e, s) => (.error (.store e), s)
  store r s := (.ok (), s.store now r)
  invalidate a s := (.ok (), s.invalidate a)

end AccountRecovery
