import AccountRecovery.Collaborators
import Mathlib.Data.List.Nodup
/-!
# Well-formed record stores

A store that only its own operations have filled files every record under its own code, knows when
each was created, and holds at most one for an account and a scenario.  In such a store a code is
looked up by membership, so what a load answers and leaves is said by which records are there:

* `WellFormed.load_cases`: a code is unknown, it is too old, or its record is answered;
* `WellFormed.mem_load`: only the record that is found to be too old is removed.

A record may also be followed on its own, in a store of any kind (`Binds`): it stays bound to its
code until its account or its code gets another record, or until it is found to be too old.
-/

namespace AccountRecovery

theorem nodup_map_concat {α β : Type} {f : α → β} {l : List α} {x : α} (hl : (l.map f).Nodup)
    (hx : ∀ y ∈ l, f y ≠ f x) : ((l ++ [x]).map f).Nodup := by
  rw [List.map_append, List.map_singleton, ← List.concat_eq_append, List.nodup_concat]
  refine ⟨fun hmem => ?_, hl⟩
  obtain ⟨y, hy, heq⟩ := List.mem_map.1 hmem
  exact hx y hy heq

namespace MemoryStore

/-- What a record was issued for.  No two records of a store share it. -/
def purpose (p : String × Record) : Account × Scenario :=
  (p.2.account, p.2.scenario)

structure WellFormed (s : MemoryStore) : Prop where
  nodup_codes : (s.records.map Prod.fst).Nodup
  code_eq : ∀ p ∈ s.records, p.2.code = p.1
  created : ∀ p ∈ s.records, p.2.createdAt.isSome = true
  nodup_purposes : (s.records.map purpose).Nodup

variable {s : MemoryStore} {now : Instant} {code : String} {r : Record} {a : Account}
  {p : String × Record}

@[simp] theorem ttl_load : (s.load now code).2.ttl = s.ttl := by
  unfold load
  split
  · rfl
  · split <;> rfl

theorem isExpired_of_createdAt {t : Instant} (h : r.createdAt = some t) :
    s.isExpired now r = true ↔ s.ttl < now - t := by
  simp [isExpired, h]

theorem wellFormed_empty (ttl : Int) : WellFormed ⟨ttl, []⟩ :=
  ⟨List.nodup_nil, by simp, by simp, List.nodup_nil⟩

theorem WellFormed.of_sublist {s' : MemoryStore} (h : s.WellFormed)
    (hsub : s'.records.Sublist s.records) : s'.WellFormed where
  nodup_codes := h.nodup_codes.sublist (hsub.map _)
  code_eq p hp := h.code_eq p (hsub.subset hp)
  created p hp := h.created p (hsub.subset hp)
  nodup_purposes := h.nodup_purposes.sublist (hsub.map _)

theorem WellFormed.erase (h : s.WellFormed) (code : String) : (s.erase code).WellFormed :=
  h.of_sublist List.filter_sublist

theorem WellFormed.invalidate (h : s.WellFormed) (a : Account) : (s.invalidate a).WellFormed :=
  h.of_sublist List.filter_sublist

theorem records_load_sublist : (s.load now code).2.records.Sublist s.records := by
  unfold load
  split
  · exact List.Sublist.refl _
  · split
    · exact List.filter_sublist
    · exact List.Sublist.refl _

theorem WellFormed.load (h : s.WellFormed) (now : Instant) (code : String) :
    (s.load now code).2.WellFormed :=
  h.of_sublist records_load_sublist

theorem records_store (s : MemoryStore) (now : Instant) (r : Record) :
    ∃ kept, (s.store now r).records = kept ++ [(r.code, { r with createdAt := some now })] ∧
      kept.Sublist s.records ∧
      ∀ p ∈ kept, p.1 ≠ r.code ∧ purpose p ≠ (r.account, r.scenario) := by
  refine ⟨_, rfl, List.filter_sublist.trans List.filter_sublist, fun p hp => ?_⟩
  simp only [List.mem_filter, bne_iff_ne, Bool.not_eq_true', Bool.and_eq_false_imp,
    decide_eq_true_eq, decide_eq_false_iff_not] at hp
  refine ⟨hp.2, fun hpurpose => ?_⟩
  rw [purpose, Prod.mk.injEq] at hpurpose
  exact hp.1.2 hpurpose.1 hpurpose.2

theorem WellFormed.store (h : s.WellFormed) (now : Instant) (r : Record) :
    (s.store now r).WellFormed := by
  obtain ⟨kept, hrecords, hsub, hkept⟩ := records_store s now r
  have hrest : WellFormed { s with records := kept } := h.of_sublist hsub
  refine ⟨?_, ?_, ?_, ?_⟩
  · rw [hrecords]
    exact nodup_map_concat hrest.nodup_codes fun p hp => (hkept p hp).1
  · intro p hp
    rw [hrecords, List.mem_append, List.mem_singleton] at hp
    rcases hp with hp | rfl
    · exact hrest.code_eq p hp
    · rfl
  · intro p hp
    rw [hrecords, List.mem_append, List.mem_singleton] at hp
    rcases hp with hp | rfl
    · exact hrest.created p hp
    · rfl
  · rw [hrecords]
    exact nodup_map_concat hrest.nodup_purposes fun p hp => (hkept p hp).2

/-! ## Looking codes up -/

theorem WellFormed.lookup_eq_some_iff (h : s.WellFormed) :
    s.records.lookup code = some r ↔ (code, r) ∈ s.records := by
  rw [List.lookup_eq_some_iff]
  constructor
  · rintro ⟨l₁, l₂, hrecords, -⟩
    rw [hrecords]
    exact List.mem_append_right _ List.mem_cons_self
  · intro hmem
    obtain ⟨l₁, l₂, hrecords⟩ := List.append_of_mem hmem
    have hnodup := h.nodup_codes
    rw [hrecords, List.map_append, List.map_cons, List.nodup_append] at hnodup
    refine ⟨l₁, l₂, hrecords, fun p hp => ?_⟩
    rw [bne_iff_ne]
    exact (hnodup.2.2 p.1 (List.mem_map_of_mem hp) code List.mem_cons_self).symm

theorem WellFormed.record_unique (h : s.WellFormed) {r' : Record} (hr : (code, r) ∈ s.records)
    (hr' : (code, r') ∈ s.records) : r = r' := by
  rw [← h.lookup_eq_some_iff] at hr hr'
  exact Option.some.inj (hr.symm.trans hr')

/-- What a load answers and leaves. -/
theorem WellFormed.load_cases (h : s.WellFormed) (now : Instant) (code : String) :
    ((∀ r, (code, r) ∉ s.records) ∧
        s.load now code =
          (.error ⟨.unknownCode, "Invalid recovery code", StoreFault.unknownCode.code, none⟩,
            s)) ∨
      (∃ r, (code, r) ∈ s.records ∧ s.isExpired now r = true ∧
        s.load now code =
          (.error ⟨.expiredCode, "Expired recovery code", StoreFault.expiredCode.code, none⟩,
            s.erase code)) ∨
      ∃ r, (code, r) ∈ s.records ∧ s.isExpired now r = false ∧ s.load now code = (.ok r, s) := by
  cases hlookup : s.records.lookup code with
  | none =>
      refine .inl ⟨fun r hr => ?_, by simp only [MemoryStore.load, hlookup]⟩
      rw [← h.lookup_eq_some_iff, hlookup] at hr
      cases hr
  | some r =>
      have hmem := h.lookup_eq_some_iff.1 hlookup
      cases hexpired : s.isExpired now r with
      | true =>
          refine .inr (.inl ⟨r, hmem, hexpired, ?_⟩)
          simp only [MemoryStore.load, hlookup, hexpired, if_true]
      | false => exact .inr (.inr ⟨r, hmem, hexpired, load_eq_of_lookup hlookup hexpired⟩)

theorem WellFormed.load_eq_ok_iff (h : s.WellFormed) :
    (s.load now code).1 = .ok r ↔ (code, r) ∈ s.records ∧ s.isExpired now r = false := by
  rcases h.load_cases now code with ⟨hnone, hload⟩ | ⟨r', hr', hexpired, hload⟩ |
    ⟨r', hr', hfresh, hload⟩
  · rw [hload]
    exact iff_of_false nofun fun hr => hnone r hr.1
  · rw [hload]
    refine iff_of_false nofun fun hr => ?_
    rw [h.record_unique hr' hr.1, hr.2] at hexpired
    cases hexpired
  · rw [hload, Except.ok.injEq]
    constructor
    · rintro rfl
      exact ⟨hr', hfresh⟩
    · exact fun hr => h.record_unique hr' hr.1

theorem WellFormed.mem_load (h : s.WellFormed) :
    p ∈ (s.load now code).2.records ↔
      p ∈ s.records ∧ (p.1 = code → s.isExpired now p.2 = false) := by
  rcases h.load_cases now code with ⟨hnone, hload⟩ | ⟨r, hr, hexpired, hload⟩ |
    ⟨r, hr, hfresh, hload⟩
  · rw [hload]
    refine ⟨fun hp => ⟨hp, ?_⟩, And.left⟩
    rintro rfl
    exact (hnone _ hp).elim
  · rw [hload, mem_erase]
    refine and_congr_right fun hp => ⟨fun hne heq => (hne heq).elim, ?_⟩
    rintro hkept rfl
    rw [h.record_unique hr hp, hkept rfl] at hexpired
    cases hexpired
  · rw [hload]
    refine ⟨fun hp => ⟨hp, ?_⟩, And.left⟩
    rintro rfl
    rwa [h.record_unique hp hr]

/-! ## Records that are bound to a code -/

/-- The code stands for the record, and for no other one. -/
def Binds (s : MemoryStore) (code : String) (r : Record) : Prop :=
  (code, r) ∈ s.records ∧ ∀ p ∈ s.records, p.1 = code → p.2 = r

theorem Binds.lookup (h : s.Binds code r) : s.records.lookup code = some r := by
  cases hlookup : s.records.lookup code with
  | none =>
      rw [List.lookup_eq_none_iff] at hlookup
      simpa using hlookup _ h.1
  | some r' =>
      obtain ⟨l₁, l₂, hrecords, -⟩ := List.lookup_eq_some_iff.1 hlookup
      have hmem : (code, r') ∈ s.records := by simp [hrecords]
      rw [← h.2 _ hmem rfl]

theorem binds_store : (s.store now r).Binds r.code { r with createdAt := some now } := by
  refine ⟨mem_store.2 (.inr rfl), fun p hp hcode => ?_⟩
  rcases mem_store.1 hp with ⟨-, hne⟩ | rfl
  · exact (hne hcode).elim
  · rfl

theorem Binds.store (h : s.Binds code r) {r' : Record} (haccount : r'.account ≠ r.account)
    (hcode : r'.code ≠ code) : (s.store now r').Binds code r := by
  refine ⟨mem_store.2 (.inl ⟨⟨h.1, fun hsame => haccount hsame.1.symm⟩, hcode.symm⟩), ?_⟩
  intro p hp hp'
  rcases mem_store.1 hp with ⟨⟨hp, -⟩, -⟩ | rfl
  · exact h.2 p hp hp'
  · exact (hcode hp').elim

theorem Binds.invalidate (h : s.Binds code r) (haccount : a ≠ r.account) :
    (s.invalidate a).Binds code r :=
  ⟨mem_invalidate.2 ⟨h.1, haccount.symm⟩, fun p hp => h.2 p (mem_invalidate.1 hp).1⟩

theorem Binds.load {asked : String} (h : s.Binds code r)
    (hfresh : asked = code → s.isExpired now r = false) : (s.load now asked).2.Binds code r := by
  unfold MemoryStore.load
  split
  · exact h
  · next r' hlookup =>
      split
      · next hexpired =>
          have hasked : asked ≠ code := by
            rintro rfl
            rw [h.lookup, Option.some.injEq] at hlookup
            rw [← hlookup, hfresh rfl] at hexpired
            cases hexpired
          refine ⟨mem_erase.2 ⟨h.1, hasked.symm⟩, fun p hp => h.2 p (mem_erase.1 hp).1⟩
      · exact h

end MemoryStore

end AccountRecovery
