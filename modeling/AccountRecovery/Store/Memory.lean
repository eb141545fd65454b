import AccountRecovery.Failure
import AccountRecovery.Record
/-!
# The in-memory record store

Records by code.  There is at most one record for an account and a scenario.  A record that is older
than the validity window is removed when it is asked for.  What an operation does to the records is
said by which of them are there afterwards (`mem_store`, `mem_invalidate`, `mem_erase`).
-/

namespace AccountRecovery

structure MemoryStore where
  /-- The validity window in microseconds. -/
  ttl : Int
  records : List (String × Record) := []
deriving Repr, DecidableEq

namespace MemoryStore

/-- The greatest number of days in a validity window, either way. -/
def maxDays : Int := 999999999

def make (ttlSeconds : Int) : Except Failure MemoryStore :=
  let days := ttlSeconds.fdiv 86400
  if days < -maxDays ∨ maxDays < days then
    .error .tooLarge
  else
    .ok ⟨ttlSeconds * 1000000, []⟩

def isExpired (s : MemoryStore) (now : Instant) (r : Record) : Bool :=
  match r.createdAt with
  | some t => s.ttl < now - t
  | none => false

def erase (s : MemoryStore) (code : String) : MemoryStore :=
  { s with records := s.records.filter fun p => p.1 != code }

def load (s : MemoryStore) (now : Instant) (code : String) :
    Except StoreError Record × MemoryStore :=
  match s.records.lookup code with
  | none =>
    (.error ⟨.unknownCode, "Invalid recovery code", StoreFault.unknownCode.code, none⟩, s)
  | some r =>
    if s.isExpired now r then
      (.error ⟨.expiredCode, "Expired recovery code", StoreFault.expiredCode.code, none⟩,
        s.erase code)
    else
      (.ok r, s)

def put (s : MemoryStore) (r : Record) : MemoryStore :=
  { s with records := s.records.filter (fun p => p.1 != r.code) ++ [(r.code, r)] }

/-- Stores a record as created now, in place of any for the same account and scenario. -/
def store (s : MemoryStore) (now : Instant) (r : Record) : MemoryStore :=
  let others :=
    s.records.filter fun p => !(p.2.account = r.account && p.2.scenario = r.scenario)
  { s with records := others }.put { r with createdAt := some now }

def invalidate (s : MemoryStore) (a : Account) : MemoryStore :=
  { s with records := s.records.filter fun p => p.2.account ≠ a }

theorem mem_erase {s : MemoryStore} {code : String} {p : String × Record} :
    p ∈ (s.erase code).records ↔ p ∈ s.records ∧ p.1 ≠ code := by
  simp [erase]

theorem mem_put {s : MemoryStore} {r : Record} {p : String × Record} :
    p ∈ (s.put r).records ↔ (p ∈ s.records ∧ p.1 ≠ r.code) ∨ p = (r.code, r) := by
  simp [put]

theorem mem_store {s : MemoryStore} {now : Instant} {r : Record} {p : String × Record} :
    p ∈ (s.store now r).records ↔
      ((p ∈ s.records ∧ ¬(p.2.account = r.account ∧ p.2.scenario = r.scenario)) ∧ p.1 ≠ r.code) ∨
        p = (r.code, { r with createdAt := some now }) := by
  simp [store, mem_put, Decidable.imp_iff_not_or]

theorem mem_invalidate {s : MemoryStore} {a : Account} {p : String × Record} :
    p ∈ (s.invalidate a).records ↔ p ∈ s.records ∧ p.2.account ≠ a := by
  simp [invalidate]

/-- A record that is not too old is read without a trace. -/
theorem load_eq_of_lookup {s : MemoryStore} {now : Instant} {code : String} {r : Record}
    (h : s.records.lookup code = some r) (fresh : s.isExpired now r = false) :
    s.load now code = (.ok r, s) := by
  simp [load, h, fresh]

end MemoryStore

end AccountRecovery
