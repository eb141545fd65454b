import AccountRecovery.Proofs.Records
/-!
# The record store as its history tells it

What a load answers is said by the history of the store alone: by the last record that was stored
under the code, and by what was done since.  Codes may be used again, also for other accounts, and
the clock may go back.

Main statements: a record is there if it is the last one of its code and nothing has ended it
(`mem_after`), and a load answers what the history tells (`load_after`).
-/

namespace AccountRecovery

namespace MemoryStore

inductive Operation where
  | store (now : Instant) (r : Record)
  | load (now : Instant) (code : String)
  | invalidate (a : Account)
deriving Repr, DecidableEq

def perform (s : MemoryStore) : Operation → MemoryStore
  | .store now r => s.store now r
  | .load now code => (s.load now code).2
  | .invalidate a => s.invalidate a

/-- The store after a history, in which the last operation comes first. -/
def after (ttl : Int) : List Operation → MemoryStore
  | [] => ⟨ttl, []⟩
  | op :: earlier => (after ttl earlier).perform op

/-! ## What a history tells of a code -/

def Operation.storedUnder? (code : String) : Operation → Option (Instant × Record)
  | .store now r => if r.code = code then some (now, r) else none
  | _ => none

/-- The last record that was stored under a code, with what was done since and when it was. -/
def lastStored? (code : String) : List Operation → Option (List Operation × Instant × Record)
  | [] => none
  | op :: earlier =>
    match op.storedUnder? code with
    | some (t, r) => some ([], t, r)
    | none => (lastStored? code earlier).map fun found => (op :: found.1, found.2)

/-- What ends a record that was stored at `t` and is the last one of its code: another record for
its account and scenario, an invalidation of its account, and a load that comes too late. -/
def Operation.Ends (ttl : Int) (t : Instant) (r : Record) : Operation → Prop
  | .store _ r' => r'.account = r.account ∧ r'.scenario = r.scenario
  | .load now code => code = r.code ∧ ttl < now - t
  | .invalidate a => a = r.account

instance (ttl : Int) (t : Instant) (r : Record) :
    DecidablePred (Operation.Ends ttl t r)
  | .store _ r' => inferInstanceAs (Decidable (r'.account = r.account ∧ r'.scenario = r.scenario))
  | .load now code => inferInstanceAs (Decidable (code = r.code ∧ ttl < now - t))
  | .invalidate a => inferInstanceAs (Decidable (a = r.account))

def unknown : StoreError :=
  ⟨.unknownCode, "Invalid recovery code", StoreFault.unknownCode.code, none⟩

def expired : StoreError :=
  ⟨.expiredCode, "Expired recovery code", StoreFault.expiredCode.code, none⟩

/-- What a history tells to whoever asks for a code. -/
def told (ttl : Int) (history : List Operation) (now : Instant) (code : String) :
    Except StoreError Record :=
  match lastStored? code history with
  | none => .error unknown
  | some (later, t, r) =>
    if ∃ op ∈ later, op.Ends ttl t r then .error unknown
    else if ttl < now - t then .error expired
    else .ok { r with createdAt := some t }

variable {ttl : Int} {history later : List Operation} {code : String} {t now : Instant}
  {r : Record} {p : String × Record}

theorem Operation.storedUnder?_eq_some_iff {op : Operation} :
    op.storedUnder? code = some (t, r) ↔ op = .store t r ∧ r.code = code := by
  cases op with
  | store now r₁ =>
      simp only [storedUnder?, Option.ite_none_right_eq_some, Option.some.injEq, Prod.mk.injEq,
        store.injEq]
      constructor
      · rintro ⟨hcode, rfl, rfl⟩
        exact ⟨⟨rfl, rfl⟩, hcode⟩
      · rintro ⟨⟨rfl, rfl⟩, hcode⟩
        exact ⟨hcode, rfl, rfl⟩
  | load now code' => simp [storedUnder?]
  | invalidate a => simp [storedUnder?]

theorem lastStored?_eq_some_iff :
    lastStored? code history = some (later, t, r) ↔
      r.code = code ∧ (∃ earlier, history = later ++ .store t r :: earlier) ∧
        ∀ t' r', .store t' r' ∈ later → r'.code ≠ code := by
  induction history generalizing later with
  | nil => simp [lastStored?]
  | cons op earlier ih =>
      rw [lastStored?]
      cases hop : op.storedUnder? code with
      | some found =>
          obtain ⟨t₁, r₁⟩ := found
          obtain ⟨rfl, rfl⟩ := Operation.storedUnder?_eq_some_iff.1 hop
          constructor
          · rintro ⟨⟩
            exact ⟨rfl, ⟨earlier, rfl⟩, by simp⟩
          · rintro ⟨hcode, ⟨earlier', hsplit⟩, hlast⟩
            cases later with
            | nil =>
                cases hsplit
                rfl
            | cons op later =>
                obtain ⟨rfl, -⟩ := List.cons.inj hsplit
                exact (hlast t₁ r₁ List.mem_cons_self rfl).elim
      | none =>
          have hother (t₁ : Instant) (r₁ : Record) (heq : op = .store t₁ r₁) : r₁.code ≠ code := by
            intro hcode
            rw [Operation.storedUnder?_eq_some_iff.2 ⟨heq, hcode⟩] at hop
            cases hop
          constructor
          · intro h
            simp only [Option.map_eq_some_iff, Prod.mk.injEq] at h
            obtain ⟨⟨later', t', r'⟩, hfound, rfl, rfl, rfl⟩ := h
            obtain ⟨hcode, ⟨earlier', rfl⟩, hlast⟩ := ih.1 hfound
            refine ⟨hcode, ⟨earlier', rfl⟩, fun t' r' hmem => ?_⟩
            rcases List.mem_cons.1 hmem with heq | hmem
            · exact hother t' r' heq.symm
            · exact hlast t' r' hmem
          · rintro ⟨hcode, ⟨earlier', hsplit⟩, hlast⟩
            cases later with
            | nil => exact (hother t r (List.cons.inj hsplit).1 hcode).elim
            | cons op' later =>
                rw [List.cons_append, List.cons.injEq] at hsplit
                obtain ⟨rfl, rfl⟩ := hsplit
                have hfound := ih.2 ⟨hcode, ⟨earlier', rfl⟩, fun t' r' hmem =>
                  hlast t' r' (List.mem_cons_of_mem _ hmem)⟩
                simp [hfound]

/-! ## What is in the store -/

@[simp] theorem ttl_after : (after ttl history).ttl = ttl := by
  induction history with
  | nil => rfl
  | cons op earlier ih =>
      cases op with
      | load now code => exact ttl_load.trans ih
      | _ => exact ih

theorem wellFormed_after (ttl : Int) (history : List Operation) :
    (after ttl history).WellFormed := by
  induction history with
  | nil => exact wellFormed_empty ttl
  | cons op earlier ih =>
      cases op with
      | store now r => exact ih.store now r
      | load now code => exact ih.load now code
      | invalidate a => exact ih.invalidate a

/-- The record is the last one that was stored under the code, and nothing since has ended it. -/
def Remains (ttl : Int) (history : List Operation) (code : String) (kept : Record) : Prop :=
  ∃ later t r, lastStored? code history = some (later, t, r) ∧
    (∀ op ∈ later, ¬op.Ends ttl t r) ∧ kept = { r with createdAt := some t }

theorem remains_cons_store {r₁ : Record} {kept : Record} (hcode : r₁.code = code) :
    Remains ttl (.store now r₁ :: history) code kept ↔
      kept = { r₁ with createdAt := some now } := by
  simp [Remains, lastStored?, Operation.storedUnder?, hcode]

/-- An operation that stores nothing under the code leaves its record, or ends it. -/
theorem remains_cons {op : Operation} {kept : Record} (hop : op.storedUnder? code = none) :
    Remains ttl (op :: history) code kept ↔
      Remains ttl history code kept ∧
        ∀ t, kept.createdAt = some t → ¬op.Ends ttl t kept := by
  have hends (t : Instant) (r : Record) :
      op.Ends ttl t { r with createdAt := some t } ↔ op.Ends ttl t r := by
    cases op <;> rfl
  constructor
  · rintro ⟨later, t, r, hfound, hspared, rfl⟩
    simp only [lastStored?, hop, Option.map_eq_some_iff, Prod.mk.injEq] at hfound
    obtain ⟨⟨later, t, r⟩, hfound, rfl, rfl, rfl⟩ := hfound
    refine ⟨⟨later, t, r, hfound, fun op hmem => hspared op (List.mem_cons_of_mem _ hmem), rfl⟩, ?_⟩
    rintro t' ⟨⟩
    rw [hends]
    exact hspared op List.mem_cons_self
  · rintro ⟨⟨later, t, r, hfound, hspared, rfl⟩, hkept⟩
    refine ⟨op :: later, t, r, by simp [lastStored?, hop, hfound], fun op' hmem => ?_, rfl⟩
    rcases List.mem_cons.1 hmem with rfl | hmem
    · rw [← hends]
      exact hkept t rfl
    · exact hspared op' hmem

theorem Remains.code_eq {kept : Record} (h : Remains ttl history code kept) : kept.code = code := by
  obtain ⟨later, t, r, hfound, -, rfl⟩ := h
  exact (lastStored?_eq_some_iff.1 hfound).1

theorem Remains.exists_createdAt {kept : Record} (h : Remains ttl history code kept) :
    ∃ t, kept.createdAt = some t := by
  obtain ⟨later, t, r, -, -, rfl⟩ := h
  exact ⟨t, rfl⟩

/-- The store has the records that remain, each under its code. -/
theorem mem_after :
    p ∈ (after ttl history).records ↔ Remains ttl history p.1 p.2 := by
  induction history with
  | nil => simp [after, Remains, lastStored?]
  | cons op earlier ih =>
      cases op with
      | store now r =>
          change p ∈ ((after ttl earlier).store now r).records ↔ _
          rw [mem_store, ih]
          by_cases hcode : r.code = p.1
          · rw [remains_cons_store hcode, ← hcode, Prod.ext_iff]
            simp [hcode]
          · have hne : p.1 ≠ r.code := Ne.symm hcode
            have hother : p ≠ (r.code, { r with createdAt := some now }) := by
              rintro rfl
              exact hne rfl
            rw [remains_cons (by simp [Operation.storedUnder?, hcode])]
            simp only [hne, hother, ne_eq, not_false_eq_true, and_true, or_false]
            refine and_congr_right fun hkept => ?_
            obtain ⟨t, ht⟩ := hkept.exists_createdAt
            simp [ht, Operation.Ends, eq_comm]
      | load now code =>
          change p ∈ ((after ttl earlier).load now code).2.records ↔ _
          rw [(wellFormed_after ttl earlier).mem_load, remains_cons rfl, ih]
          refine and_congr_right fun hkept => ?_
          obtain ⟨t, ht⟩ := hkept.exists_createdAt
          have hexpired : (after ttl earlier).isExpired now p.2 = true ↔ _ :=
            isExpired_of_createdAt ht
          rw [ttl_after] at hexpired
          simp only [ht, Option.some.injEq, forall_eq', Operation.Ends, hkept.code_eq,
            ← hexpired]
          rw [not_and, Bool.not_eq_true, eq_comm]
      | invalidate a =>
          change p ∈ ((after ttl earlier).invalidate a).records ↔ _
          rw [mem_invalidate, remains_cons rfl, ih]
          refine and_congr_right fun hkept => ?_
          obtain ⟨t, ht⟩ := hkept.exists_createdAt
          simp [ht, Operation.Ends, eq_comm]

/-! ## What a load answers -/

theorem load_of_remains {kept : Record} (h : Remains ttl history code kept)
    (ht : kept.createdAt = some t) :
    (after ttl history).load now code =
      if ttl < now - t then (.error expired, (after ttl history).erase code)
      else (.ok kept, after ttl history) := by
  have hmem : (code, kept) ∈ (after ttl history).records := mem_after.2 h
  have hlookup := (wellFormed_after ttl history).lookup_eq_some_iff.2 hmem
  have hexpired : (after ttl history).isExpired now kept = true ↔ _ := isExpired_of_createdAt ht
  rw [ttl_after] at hexpired
  simp only [load, hlookup, hexpired]
  rfl

theorem load_of_not_remains (h : ∀ kept, ¬Remains ttl history code kept) :
    (after ttl history).load now code = (.error unknown, after ttl history) := by
  rcases (wellFormed_after ttl history).load_cases now code with ⟨-, hload⟩ | ⟨r, hr, -⟩ |
    ⟨r, hr, -⟩
  · exact hload
  · exact (h r (mem_after.1 hr)).elim
  · exact (h r (mem_after.1 hr)).elim

theorem remains_of_load {kept : Record} (h : ((after ttl history).load now code).1 = .ok kept) :
    Remains ttl history code kept :=
  mem_after.1 ((wellFormed_after ttl history).load_eq_ok_iff.1 h).1

theorem told_of_remains {kept : Record} (h : Remains ttl history code kept)
    (ht : kept.createdAt = some t) :
    told ttl history now code = if ttl < now - t then .error expired else .ok kept := by
  obtain ⟨later, t', r, hfound, hspared, rfl⟩ := h
  cases ht
  have hnone : ¬∃ op ∈ later, op.Ends ttl t r := by
    rintro ⟨op, hmem, hends⟩
    exact hspared op hmem hends
  simp only [told, hfound, if_neg hnone]

theorem told_of_not_remains (h : ∀ kept, ¬Remains ttl history code kept) :
    told ttl history now code = .error unknown := by
  unfold told
  cases hfound : lastStored? code history with
  | none => rfl
  | some found =>
      obtain ⟨later, t, r⟩ := found
      have hended : ∃ op ∈ later, op.Ends ttl t r := by
        by_contra hnone
        exact h _ ⟨later, t, r, hfound, fun op hmem hends => hnone ⟨op, hmem, hends⟩, rfl⟩
      exact if_pos hended

theorem load_after (ttl : Int) (history : List Operation) (now : Instant) (code : String) :
    (after ttl history).load now code =
      (told ttl history now code,
        if told ttl history now code = .error expired then (after ttl history).erase code
        else after ttl history) := by
  by_cases h : ∃ kept, Remains ttl history code kept
  · obtain ⟨kept, hkept⟩ := h
    obtain ⟨t, ht⟩ := hkept.exists_createdAt
    rw [load_of_remains hkept ht, told_of_remains hkept ht]
    by_cases hlate : ttl < now - t
    · rw [if_pos hlate, if_pos hlate, if_pos rfl]
    · rw [if_neg hlate, if_neg hlate, if_neg nofun]
  · rw [not_exists] at h
    rw [load_of_not_remains h, told_of_not_remains h, if_neg (by decide)]

/-- A load answers what the history tells.  It removes the record that it finds too old, and changes
nothing else.  In every state the records are filed under their codes, know when they were created,
and are for different accounts or scenarios. -/
theorem load_by_history (ttl : Int) (history : List Operation) :
    let s := after ttl history
    (∀ now code, s.load now code =
        (told ttl history now code,
          if told ttl history now code = .error expired then s.erase code else s)) ∧
      (∀ p ∈ s.records, p.2.code = p.1 ∧ p.2.createdAt.isSome = true) ∧
      (s.records.map Prod.fst).Nodup ∧ (s.records.map purpose).Nodup := by
  intro s
  have hwf : s.WellFormed := wellFormed_after ttl history
  exact ⟨load_after ttl history, fun p hp => ⟨hwf.code_eq p hp, hwf.created p hp⟩,
    hwf.nodup_codes, hwf.nodup_purposes⟩

/-- A code that another account has used since is told of as that account's, for as long as the
clock stays within its time. -/
example :
    let ann : Record := ⟨⟨"ann", "t", "PRIMARY"⟩, "c", .username, .sendInformation, "", none⟩
    let bob : Record := { ann with account := ⟨"bob", "t", "PRIMARY"⟩ }
    let history : List Operation :=
      [.invalidate ann.account, .load 5 "c", .store 4 bob, .load 9 "c", .store 2 ann]
    told 3 history 7 "c" = .ok { bob with createdAt := some 4 } ∧
      told 3 history 8 "c" = .error expired ∧
      told 3 (.load 8 "c" :: history) 7 "c" = .error unknown := by
  decide +kernel

end MemoryStore

end AccountRecovery
