import AccountRecovery.Proofs.Records
import AccountRecovery.Proofs.Transactions
/-!
# Expiry in both stores

The in-memory store compares the age of a record with the validity window, the database compares the
time of its creation with the start of the window.  The former takes the end of the window in, the
latter leaves it out, so at this one instant they differ (`stores_agree_iff`).
-/

namespace AccountRecovery

namespace Database

/-- What the query for a record answers at a time: no row, or the stored columns with the truth
value of the query's own comparison. -/
def answerAt (ttlSeconds : Int) (now : Instant) (stored : Option Record) : Option Row :=
  stored.map fun r => rowOf r (decide (now - ttlSeconds * 1000000 < r.createdAt.getD 0))

def answering (row : Option Row) : Pool where
  rows := [row]

theorem load_answering (ttlSeconds : Int) (now : Instant) (code : String)
    (stored : Option Record) :
    ((recordStore ttlSeconds).load code (answering (answerAt ttlSeconds now stored))).1 =
      (Operation.load code).verdict (answerAt ttlSeconds now stored) := by
  have readable : (answering (answerAt ttlSeconds now stored)).Readable := by
    intro row hrow
    rw [answering, List.mem_singleton] at hrow
    cases stored with
    | none => cases hrow
    | some r =>
        cases hrow
        exact ⟨_, _, rfl⟩
  obtain ⟨es, r, p', hrun, -, hconducted⟩ :=
    (Operation.load code).perform_conducted readable ttlSeconds
  have hload : (recordStore ttlSeconds).load code (answering (answerAt ttlSeconds now stored)) =
      (r, p') := hrun
  rw [hload, (hconducted.of_faultless fun _ _ => rfl).2]
  rfl

end Database

open Database

def unknownCode : Failure :=
  .store ⟨.unknownCode, "Invalid recovery code", StoreFault.unknownCode.code, none⟩

def expiredCode : Failure :=
  .store ⟨.expiredCode, "Expired recovery code", StoreFault.expiredCode.code, none⟩

variable {s : MemoryStore} {r : Record} {created now : Instant} {ttlSeconds : Int}

theorem answers_by_age {α : Type} {answered expired : α} (hne : answered ≠ expired)
    (age window : Int) {m d : α} (hm : m = if window < age then expired else answered)
    (hd : d = if age < window then answered else expired) :
    (m = d ↔ age ≠ window) ∧ (age < window → m = answered ∧ d = answered) ∧
      (window < age → m = expired ∧ d = expired) ∧
        (age = window → m = answered ∧ d = expired) := by
  subst hm hd
  rcases Int.lt_trichotomy age window with h | h | h
  · have hlate : ¬window < age := by omega
    have hne : age ≠ window := by omega
    simp [h, hlate, hne]
  · subst h
    simp [hne]
  · have hfresh : ¬age < window := by omega
    have hne : age ≠ window := by omega
    simp [h, hfresh, hne]

/-- In memory, a record is answered until its age exceeds the window. -/
theorem MemoryStore.load_of_binds (hr : s.Binds r.code r) (hcreated : r.createdAt = some created) :
    ((MemoryStore.recordStore now).load r.code s).1 =
      if s.ttl < now - created then .error expiredCode else .ok (some r) := by
  have hexpired : s.isExpired now r = true ↔ s.ttl < now - created :=
    isExpired_of_createdAt hcreated
  simp only [recordStore, load, hr.lookup]
  by_cases hlate : s.ttl < now - created
  · simp only [hexpired.2 hlate, if_pos hlate]
    rfl
  · rw [if_neg hlate, if_neg (mt hexpired.1 hlate)]

/-- In the database, a record is answered while its creation is after the start of the window. -/
theorem Database.load_of_stored (hcreated : r.createdAt = some created) :
    ((Database.recordStore ttlSeconds).load r.code
        (answering (answerAt ttlSeconds now (some r)))).1 =
      if now - ttlSeconds * 1000000 < created then .ok (some r) else .error expiredCode := by
  have hrecord : recordOf r.code (rowOf r (decide (now - ttlSeconds * 1000000 < created))) =
      .ok r := by
    rw [recordOf_rowOf, hcreated, Option.getD_some, ← hcreated]
  rw [load_answering, answerAt, Option.map_some, hcreated, Option.getD_some]
  simp only [Operation.verdict, Operation.selected, isFresh_rowOf, decide_eq_true_eq]
  by_cases hfresh : now - ttlSeconds * 1000000 < created
  · simp only [if_pos hfresh, Except.bind, hrecord]
    rfl
  · simp only [if_neg hfresh]
    rfl

/-- Both stores answer a record as it was stored, or they both tell that it is too old, except at
the instant when its age is the window: then it is answered from memory, while the database tells
that it is too old.  Codes without a record are unknown to both. -/
theorem stores_agree_iff (httl : s.ttl = ttlSeconds * 1000000) (now : Instant) :
    (∀ r created, s.Binds r.code r → r.createdAt = some created →
      let memory := ((MemoryStore.recordStore now).load r.code s).1
      let database := ((Database.recordStore ttlSeconds).load r.code
        (answering (answerAt ttlSeconds now (some r)))).1
      (memory = database ↔ now - created ≠ ttlSeconds * 1000000) ∧
        (now - created < ttlSeconds * 1000000 → memory = .ok (some r) ∧ database = .ok (some r)) ∧
        (ttlSeconds * 1000000 < now - created →
          memory = .error expiredCode ∧ database = .error expiredCode) ∧
        (now - created = ttlSeconds * 1000000 →
          memory = .ok (some r) ∧ database = .error expiredCode)) ∧
      ∀ code, (∀ p ∈ s.records, p.1 ≠ code) →
        ((MemoryStore.recordStore now).load code s).1 = .error unknownCode ∧
          ((Database.recordStore ttlSeconds).load code
            (answering (answerAt ttlSeconds now none))).1 = .error unknownCode := by
  refine ⟨fun r created hr hcreated => ?_, fun code hcode => ⟨?_, ?_⟩⟩
  · -- The comparison of the query, told by the age.
    have hwindow : now - ttlSeconds * 1000000 < created ↔ now - created < ttlSeconds * 1000000 :=
      ⟨Int.sub_lt_of_sub_lt, Int.sub_lt_of_sub_lt⟩
    have hne : (.ok (some r) : Except Failure (Option Record)) ≠ .error expiredCode := by simp
    refine answers_by_age hne (now - created) _ ?_ ?_
    · rw [← httl]
      exact MemoryStore.load_of_binds hr hcreated
    · simp only [← hwindow]
      exact Database.load_of_stored hcreated
  · have hlookup : s.records.lookup code = none :=
      List.lookup_eq_none_iff.2 fun p hp => by simpa using (hcode p hp).symm
    simp only [MemoryStore.recordStore, MemoryStore.load, hlookup]
    rfl
  · rw [load_answering]
    rfl

/-- A record that is stored at the start of the clock, a microsecond before the end of its window
and at the end. -/
theorem stores_agree_iff_ann :
    let s := (⟨60 * 1000000, []⟩ : MemoryStore).store 0 annsRecord
    let memory (now : Instant) := ((MemoryStore.recordStore now).load "a" s).1
    let database (now : Instant) := ((Database.recordStore 60).load "a"
      (answering (answerAt 60 now (some annsRecord)))).1
    memory 59999999 = database 59999999 ∧ memory 60000000 = .ok (some annsRecord) ∧
      database 60000000 = .error expiredCode := by
  intro s memory database
  have hbinds : s.Binds annsRecord.code annsRecord := MemoryStore.binds_store
  obtain ⟨hsame, -⟩ := (stores_agree_iff rfl 59999999).1 annsRecord 0 hbinds rfl
  obtain ⟨-, -, -, hend⟩ := (stores_agree_iff rfl 60000000).1 annsRecord 0 hbinds rfl
  exact ⟨hsame.2 (by decide), hend rfl⟩

/-- At the end of the window one store answers the record and the other tells that it is too old. -/
theorem stores_differ_at_end :
    let s := (⟨60 * 1000000, []⟩ : MemoryStore).store 0 annsRecord
    let memory := ((MemoryStore.recordStore 60000000).load "a" s).1
    let database := ((Database.recordStore 60).load "a"
      (answering (answerAt 60 60000000 (some annsRecord)))).1
    memory = .ok (some annsRecord) ∧ database = .error expiredCode ∧ memory ≠ database := by
  intro s memory database
  have hmemory : memory = .ok (some annsRecord) := rfl
  have hdatabase : database = .error expiredCode := rfl
  refine ⟨hmemory, hdatabase, ?_⟩
  rw [hmemory, hdatabase]
  simp

end AccountRecovery
