import AccountRecovery.Proofs.Conduct
import AccountRecovery.Proofs.Racing
/-!
# What an issuance leaves

An issuance invalidates its account and then stores its record, in two calls of which either may be
refused.  Its courses over any collaborators are told once (`Order.run_uncleared`,
`Order.run_unstored`, `Order.run_stored`).  Over the in-memory store each of them leaves the records
of all other accounts as they are (`Order.issuing_keeps_to_account`).
-/

namespace AccountRecovery

open Dialogue MemoryStore

/-! ## The courses of an issuance -/

namespace Order

def unissued (e : StoreError) : Failure :=
  .recovery ⟨.recordStore, none, RecoveryFault.recordStore.code, some (.store e)⟩

section Courses

variable {σ : Type} {o : Order} {answer : Handler σ} {codes : CodeSource} {st cleared stored : σ}
  {n : Nat} {e : StoreError}

theorem run_uncleared
    (hclear : answer (.invalidate o.account) st = (.error (.store e), cleared)) :
    let p := o.issuing.run answer codes st n
    p.result = .error (unissued e) ∧ p.state = cleared ∧ p.calls = [.invalidate o.account] := by
  unfold account at hclear
  simp [issuing, Recovery.issue, bind_eq, pure_eq, Dialogue.code, call, rescue, Dialogue.bind, run,
    hclear, Dialogue.ofExcept, Failure.store, log, unissued, account]

theorem run_unstored (hclear : answer (.invalidate o.account) st = (.ok (), cleared))
    (hstore : answer (.store (o.record (codes n))) cleared = (.error (.store e), stored)) :
    let p := o.issuing.run answer codes st n
    p.result = .error (unissued e) ∧ p.state = stored := by
  unfold record account at *
  simp [issuing, Recovery.issue, bind_eq, pure_eq, Dialogue.code, call, rescue, Dialogue.bind, run,
    hclear, hstore, Dialogue.ofExcept, Failure.store, log, unissued]

theorem run_stored (hclear : answer (.invalidate o.account) st = (.ok (), cleared))
    (hstore : answer (.store (o.record (codes n))) cleared = (.ok (), stored)) :
    let p := o.issuing.run answer codes st n
    p.result = .ok (o.record (codes n)) ∧ p.state = stored := by
  unfold record account at *
  simp [issuing, Recovery.issue, bind_eq, pure_eq, Dialogue.code, call, rescue, Dialogue.bind, run,
    hclear, hstore, Dialogue.ofExcept, log]

end Courses

end Order

/-! ## A store that may refuse -/

namespace MemoryStore

/-- The in-memory store at a time, which refuses calls to invalidate and to store with the given
errors and is not changed by them. -/
def refusing (now : Instant) (atInvalidate atStore : Option StoreError) :
    RecordStore MemoryStore where
  load := (recordStore now).load
  store r s :=
    match atStore with
    | some e => (.error (.store e), s)
    | none => (recordStore now).store r s
  invalidate a s :=
    match atInvalidate with
    | some e => (.error (.store e), s)
    | none => (recordStore now).invalidate a s

def others (s : MemoryStore) (a : Account) : List (String × Record) :=
  s.records.filter fun p => p.2.account ≠ a

variable {s : MemoryStore} {now : Instant} {r : Record} {a : Account}

theorem others_invalidate : (s.invalidate a).others a = s.others a := by
  simp [others, invalidate]

theorem store_invalidate (fresh : ∀ p ∈ s.records, p.1 ≠ r.code) :
    (s.invalidate r.account).store now r =
      { s with records := s.others r.account ++ [(r.code, { r with createdAt := some now })] } := by
  have hpurpose : (s.others r.account).filter
      (fun p => !(p.2.account = r.account && p.2.scenario = r.scenario)) = s.others r.account := by
    rw [List.filter_eq_self]
    intro p hp
    have haccount := (List.mem_filter.1 hp).2
    rw [decide_eq_true_eq] at haccount
    simp [haccount]
  have hcode : (s.others r.account).filter (fun p => p.1 != r.code) = s.others r.account := by
    rw [List.filter_eq_self]
    intro p hp
    rw [bne_iff_ne]
    exact fresh p (List.mem_filter.1 hp).1
  unfold others at hpurpose hcode
  simp only [store, put, invalidate, hpurpose, hcode, others]

theorem WellFormed.load_of_load_invalidate (h : s.WellFormed) {code : String}
    (hload : ((s.invalidate a).load now code).1 = .ok r) : (s.load now code).1 = .ok r := by
  obtain ⟨hmem, hfresh⟩ := (h.invalidate a).load_eq_ok_iff.1 hload
  exact h.load_eq_ok_iff.2 ⟨(mem_invalidate.1 hmem).1, hfresh⟩

end MemoryStore

/-- An issuance over any history of the store returns if and only if no call is refused, and then
the store has the records of the other accounts and the one that is returned.  If the invalidation
is refused nothing is stored or changed, and if the storing is refused the account has no records
left.  In no case is a record of another account touched, and no failure makes a code live. -/
theorem Order.issuing_keeps_to_account (o : Order) (registry : Registry) (ttl : Int)
    (history : List Operation) (now : Instant) (atInvalidate atStore : Option StoreError)
    (codes : CodeSource) (n : Nat) (fresh : ∀ p ∈ (after ttl history).records, p.1 ≠ codes n) :
    let s := after ttl history
    let p := o.issuing.run (registry.answer (refusing now atInvalidate atStore)) codes s n
    (∀ record, p.result = .ok record ↔
        atInvalidate = none ∧ atStore = none ∧ record = o.record (codes n)) ∧
      (∀ record, p.result = .ok record → p.state = { s with
        records := s.others o.account ++ [(record.code, { record with createdAt := some now })] }) ∧
      (∀ e, atInvalidate = some e →
        p.result = .error (unissued e) ∧ p.state = s ∧ ∀ record, .store record ∉ p.calls) ∧
      (∀ e, atInvalidate = none → atStore = some e →
        p.result = .error (unissued e) ∧ p.state = { s with records := s.others o.account }) ∧
      p.state.others o.account = s.others o.account ∧
      ∀ failure, p.result = .error failure → ∀ t code record,
        (p.state.load t code).1 = .ok record → (s.load t code).1 = .ok record := by
  intro s p
  have hwf : s.WellFormed := wellFormed_after ttl history
  cases atInvalidate with
  | some e =>
      obtain ⟨hresult, hstate, hcalls⟩ : p.result = .error (unissued e) ∧ p.state = s ∧
          p.calls = [.invalidate o.account] := run_uncleared rfl
      rw [hresult, hstate, hcalls]
      refine ⟨fun record => iff_of_false nofun nofun, nofun, ?_, nofun, rfl, fun _ _ _ _ _ => id⟩
      rintro _ ⟨⟩
      exact ⟨rfl, rfl, by simp⟩
  | none =>
      cases atStore with
      | some e =>
          obtain ⟨hresult, hstate⟩ : p.result = .error (unissued e) ∧
              p.state = s.invalidate o.account := run_unstored rfl rfl
          rw [hresult, hstate]
          refine ⟨fun record => iff_of_false nofun nofun, nofun, nofun, ?_, others_invalidate, ?_⟩
          · rintro _ - ⟨⟩
            exact ⟨rfl, rfl⟩
          · exact fun _ _ _ _ _ => hwf.load_of_load_invalidate
      | none =>
          obtain ⟨hresult, hstate⟩ : p.result = .ok (o.record (codes n)) ∧
              p.state = (s.invalidate o.account).store now (o.record (codes n)) :=
            run_stored rfl rfl
          let issued : Record := { o.record (codes n) with createdAt := some now }
          have hadded : (s.invalidate o.account).store now (o.record (codes n)) =
              { s with records := s.others o.account ++ [(codes n, issued)] } :=
            store_invalidate fresh
          rw [hresult, hstate, hadded]
          refine ⟨fun record => ?_, ?_, nofun, nofun, ?_, nofun⟩
          · simp [eq_comm]
          · rintro _ ⟨⟩
            rfl
          · simp [others, issued, Order.record]

/-- Two accounts have a record each.  A new one for the first cannot be stored, and the record of
the second is all that is left. -/
theorem Order.issuing_keeps_to_account_unstored :
    let o : Order := ⟨"ann", "t", [], .username⟩
    let ann : Record := ⟨o.account, "a", .username, .sendInformation, "", none⟩
    let bob : Record := { ann with account := .ofRawName "bob" "t", code := "b" }
    let s := after 10 [.store 4 bob, .store 2 ann]
    let codes : CodeSource := fun _ => "c"
    let full : StoreError := { fault := .general, message := "full" }
    (∀ p ∈ s.records, p.1 ≠ codes 0) ∧
      (o.issuing.run (({} : Registry).answer (refusing 5 none (some full))) codes s 0).state =
        ⟨10, [("b", { bob with createdAt := some 4 })]⟩ := by
  intro o ann bob s codes full
  have fresh : ∀ p ∈ s.records, p.1 ≠ codes 0 := by decide
  obtain ⟨-, -, -, hunstored, -⟩ :=
    o.issuing_keeps_to_account {} 10 [.store 4 bob, .store 2 ann] 5 none (some full) codes 0 fresh
  refine ⟨fresh, (hunstored full rfl rfl).2.trans ?_⟩
  decide

end AccountRecovery
