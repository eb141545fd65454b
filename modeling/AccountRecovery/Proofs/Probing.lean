import AccountRecovery.Proofs.LifeCycle
/-!
# Probing

A validation that is put into a run may purge the record of its code, if that is too old.  From then
on the two runs differ in this record only (`Purged`), until it is removed from the other one too.
The clock does not go back, so the record stays too old: the code is found unknown in one run while
it is found too old in the other, and nothing else can be told apart (`Purged.serve`).
-/

namespace AccountRecovery

open Recovery

namespace MemoryStore

variable {s : MemoryStore} {now later : Instant} {code asked : String} {r : Record} {a : Account}

theorem invalidate_erase : (s.erase code).invalidate a = (s.invalidate a).erase code := by
  simp only [invalidate, erase, List.filter_filter, Bool.and_comm]

theorem erase_erase : (s.erase code).erase asked = (s.erase asked).erase code := by
  simp only [erase, List.filter_filter, Bool.and_comm]

theorem store_erase (hcode : r.code ≠ code) :
    (s.erase code).store now r = (s.store now r).erase code := by
  simp only [store, put, erase, List.filter_append, List.filter_filter]
  rw [List.filter_cons_of_pos (by simpa using hcode), List.filter_nil]
  congr 3
  funext p
  simp only [Bool.and_comm, Bool.and_left_comm]

theorem store_erase_self : (s.erase r.code).store now r = s.store now r := by
  simp only [store, put, erase, List.filter_filter]
  congr 3
  funext p
  cases hsame : p.1 != r.code <;> simp

theorem lookup_erase (hasked : asked ≠ code) :
    (s.erase code).records.lookup asked = s.records.lookup asked := by
  unfold erase
  induction s.records with
  | nil => rfl
  | cons p records ih =>
      by_cases hp : p.1 = code
      · have hne : (asked == p.1) = false := by simpa [hp] using hasked
        rw [List.filter_cons_of_neg (by simp [hp]), ih, List.lookup_cons, hne]
      · rw [List.filter_cons_of_pos (by simpa using hp), List.lookup_cons, List.lookup_cons, ih]

theorem load_erase (hasked : asked ≠ code) :
    (s.erase code).load now asked = ((s.load now asked).1, (s.load now asked).2.erase code) := by
  simp only [load, lookup_erase hasked]
  cases s.records.lookup asked with
  | none => rfl
  | some r =>
      have hexpired : (s.erase code).isExpired now r = s.isExpired now r := rfl
      simp only [hexpired]
      split
      · rw [erase_erase]
      · rfl

theorem isExpired_mono (h : s.isExpired now r = true) (hle : now ≤ later) :
    s.isExpired later r = true := by
  unfold isExpired at *
  cases hcreated : r.createdAt with
  | none =>
      rw [hcreated] at h
      cases h
  | some t =>
      simp only [hcreated, decide_eq_true_eq] at h ⊢
      exact lt_of_lt_of_le h (Int.sub_le_sub_right hle t)

end MemoryStore

namespace Installation

/-! ## Runs of demands -/

inductive Demand where
  | resolve (now : Instant) (q : RecoveryRequest)
  | validate (now : Instant) (code : String) (step : Step)

def Demand.now : Demand → Instant
  | resolve now _ => now
  | validate now _ _ => now

def serve (i : Installation) (st : State) : Demand → Event × State
  | .resolve now q => (.resolved now q (i.resolve now st q).result, (i.resolve now st q).after)
  | .validate now code step =>
    (.validated now code step (i.validate now st code step).result,
      (i.validate now st code step).after)

def serveAll (i : Installation) (st : State) : List Demand → List Event × State
  | [] => ([], st)
  | d :: ds =>
    let (x, st) := i.serve st d
    let (xs, st) := i.serveAll st ds
    (x :: xs, st)

variable (i : Installation)

theorem serveAll_append (st : State) (ds ds' : List Demand) :
    i.serveAll st (ds ++ ds') =
      ((i.serveAll st ds).1 ++ (i.serveAll (i.serveAll st ds).2 ds').1,
        (i.serveAll (i.serveAll st ds).2 ds').2) := by
  induction ds generalizing st with
  | nil => rfl
  | cons d ds ih => simp only [List.cons_append, serveAll, ih]

theorem length_serveAll (st : State) (ds : List Demand) :
    (i.serveAll st ds).1.length = ds.length := by
  induction ds generalizing st with
  | nil => rfl
  | cons d ds ih => simp only [serveAll, List.length_cons, ih]

variable {i}

variable {ttl : Int} {history : List Event} {st st' : State}

theorem Run.serve (run : i.Run ttl history st) (d : Demand) :
    i.Run ttl ((i.serve st d).1 :: history) (i.serve st d).2 := by
  cases d with
  | resolve now q => exact run.resolve now q
  | validate now code step => exact run.validate now code step

theorem Run.serveAll (run : i.Run ttl history st) (ds : List Demand) :
    i.Run ttl ((i.serveAll st ds).1.reverse ++ history) (i.serveAll st ds).2 := by
  induction ds generalizing history st with
  | nil => exact run
  | cons d ds ih =>
      simpa only [Installation.serveAll, List.reverse_cons, List.append_assoc,
        List.singleton_append] using ih (run.serve d)

theorem Run.wellFormed (run : i.Run ttl history st) : st.store.WellFormed := by
  induction run with
  | start => exact MemoryStore.wellFormed_empty ttl
  | @resolve history st now q before ih =>
      rcases i.resolve_cases now st q with ⟨e, -, -, hafter⟩ | ⟨u, channels, -, -, hafter⟩
      · rwa [hafter]
      · rw [hafter]
        exact (ih.invalidate _).store _ _
  | @validate history st now code step before ih =>
      rw [(i.validate_eq now st code step).2]
      exact ih.load now code

/-! ## A purged record -/

/-- The same event, but for a code that is found to be unknown instead of too old. -/
inductive Alike (code : String) : Event → Event → Prop
  | same (x : Event) : Alike code x x
  | purged (now : Instant) (step : Step) (result result' : Except Failure Record)
      (expired : faultOf result = some .expiredCode)
      (unknown : faultOf result' = some .invalidCode) :
      Alike code (.validated now code step result) (.validated now code step result')

/-- The second state lacks the records of the code, which are too old from `now` on. -/
structure Purged (now : Instant) (code : String) (st st' : State) : Prop where
  eq : st' = ⟨st.store.erase code, st.drawn⟩
  expired : ∀ p ∈ st.store.records, p.1 = code → st.store.isExpired now p.2 = true

variable {now : Instant} {code : String}

theorem Purged.of_sublist (h : Purged now code st st') {store : MemoryStore} {drawn : Nat}
    (httl : store.ttl = st.store.ttl)
    (hsub : ∀ p ∈ store.records, p.1 = code → p ∈ st.store.records) :
    Purged now code ⟨store, drawn⟩ ⟨store.erase code, drawn⟩ := by
  refine ⟨rfl, fun p hp hcode => ?_⟩
  have hexpired := h.expired p (hsub p hp hcode) hcode
  rwa [MemoryStore.isExpired, httl]

/-- A probe leaves everything as it is, or it purges a record. -/
theorem purged_of_probe (wf : st.store.WellFormed) (now : Instant) (code : String) (step : Step) :
    (i.validate now st code step).after = st ∨
      Purged now code st (i.validate now st code step).after := by
  rw [(i.validate_eq now st code step).2]
  rcases wf.load_cases now code with ⟨-, hload⟩ | ⟨r, hr, hexpired, hload⟩ | ⟨r, -, -, hload⟩
  · exact .inl (by rw [hload])
  · refine .inr ⟨by rw [hload], ?_⟩
    rintro ⟨c, r'⟩ hr' rfl
    rwa [wf.record_unique hr' hr]
  · exact .inl (by rw [hload])

theorem Purged.issued (h : Purged now code st st') (later : Instant) (r : Record) :
    issued later st r = issued later st' r ∨
      Purged now code (issued later st r) (issued later st' r) := by
  have heq := h.eq
  subst heq
  by_cases hcode : r.code = code
  · left
    subst hcode
    simp only [Installation.issued, MemoryStore.invalidate_erase, MemoryStore.store_erase_self]
  · right
    simp only [Installation.issued, MemoryStore.invalidate_erase, MemoryStore.store_erase hcode]
    refine h.of_sublist rfl fun p hp hp' => ?_
    rcases MemoryStore.mem_store.1 hp with ⟨⟨hp, -⟩, -⟩ | rfl
    · exact (MemoryStore.mem_invalidate.1 hp).1
    · exact (hcode hp').elim

/-- Recoveries depend on the store only in what they leave. -/
theorem resolve_alike (hdrawn : st'.drawn = st.drawn) (later : Instant) (q : RecoveryRequest) :
    (i.resolve later st' q).result = (i.resolve later st q).result ∧
      ((i.resolve later st q).after = st ∧ (i.resolve later st' q).after = st' ∨
        ∃ r, (i.resolve later st q).after = issued later st r ∧
          (i.resolve later st' q).after = issued later st' r) := by
  -- The stages before the store do not look at the state, so both fail there or neither does.
  rcases i.resolve_cases later st q with ⟨e, happroved, hresult, hafter⟩ |
    ⟨u, channels, happroved, hresult, hafter⟩
  · rcases i.resolve_cases later st' q with ⟨e', happroved', hresult', hafter'⟩ |
      ⟨u', channels', happroved', -, -⟩
    · rw [happroved] at happroved'
      cases happroved'
      exact ⟨hresult'.trans hresult.symm, .inl ⟨hafter, hafter'⟩⟩
    · rw [happroved] at happroved'
      cases happroved'
  · rcases i.resolve_cases later st' q with ⟨e', happroved', -, -⟩ |
      ⟨u', channels', happroved', hresult', hafter'⟩
    · rw [happroved] at happroved'
      cases happroved'
    · rw [happroved] at happroved'
      cases happroved'
      have hrecord : i.nextRecord st' q u channels = i.nextRecord st q u channels := by
        simp only [nextRecord, hdrawn]
      rw [hdrawn] at hresult'
      rw [hrecord] at hafter'
      exact ⟨hresult'.trans hresult.symm, .inr ⟨_, hafter, hafter'⟩⟩

theorem Purged.validate (h : Purged now code st st') (wf : st.store.WellFormed) {later : Instant}
    (hnow : now ≤ later) (asked : String) (step : Step) :
    Alike code (.validated later asked step (i.validate later st asked step).result)
        (.validated later asked step (i.validate later st' asked step).result) ∧
      ((i.validate later st asked step).after = (i.validate later st' asked step).after ∨
        Purged now code (i.validate later st asked step).after
          (i.validate later st' asked step).after) := by
  obtain ⟨hresult, hafter⟩ := i.validate_eq later st asked step
  obtain ⟨hresult', hafter'⟩ := i.validate_eq later st' asked step
  obtain ⟨rfl, hexpired⟩ := h
  by_cases hasked : asked = code
  · subst hasked
    have hgone : (st.store.erase asked).load later asked =
        (.error ⟨.unknownCode, "Invalid recovery code", StoreFault.unknownCode.code, none⟩,
          st.store.erase asked) := by
      rcases (wf.erase asked).load_cases later asked with ⟨-, hload⟩ | ⟨r, hr, -⟩ | ⟨r, hr, -⟩
      · exact hload
      · exact ((MemoryStore.mem_erase.1 hr).2 rfl).elim
      · exact ((MemoryStore.mem_erase.1 hr).2 rfl).elim
    rcases wf.load_cases later asked with ⟨-, hload⟩ | ⟨r, -, -, hload⟩ | ⟨r, hr, hfresh, -⟩
    · simp only [MemoryStore.recordStore, hload, hgone] at hresult hafter hresult' hafter'
      rw [hresult, hresult', hafter, hafter']
      exact ⟨.same _, .inr ⟨rfl, hexpired⟩⟩
    · simp only [MemoryStore.recordStore, hload, hgone] at hresult hafter hresult' hafter'
      rw [hresult, hresult', hafter, hafter']
      exact ⟨.purged _ _ _ _ rfl rfl, .inl rfl⟩
    · -- It was too old at the time of the probe, and time has only gone on.
      have hlate := MemoryStore.isExpired_mono (hexpired _ hr rfl) hnow
      rw [hfresh] at hlate
      cases hlate
  · have hsame : (i.validate later ⟨st.store.erase code, st.drawn⟩ asked step).result =
        (i.validate later st asked step).result := by
      rw [hresult, hresult']
      simp only [MemoryStore.recordStore, MemoryStore.load_erase hasked]
      rcases st.store.load later asked with ⟨e | r, s⟩ <;> rfl
    rw [hsame, hafter, hafter', MemoryStore.load_erase hasked]
    exact ⟨.same _, .inr (Purged.of_sublist ⟨rfl, hexpired⟩ MemoryStore.ttl_load
      fun p hp _ => MemoryStore.records_load_sublist.subset hp)⟩

theorem Purged.serve (h : Purged now code st st') (wf : st.store.WellFormed) {d : Demand}
    (hnow : now ≤ d.now) :
    Alike code (i.serve st d).1 (i.serve st' d).1 ∧
      ((i.serve st d).2 = (i.serve st' d).2 ∨
        Purged now code (i.serve st d).2 (i.serve st' d).2) := by
  cases d with
  | resolve later q =>
      have hdrawn : st'.drawn = st.drawn := by rw [h.eq]
      obtain ⟨hresult, hafter⟩ := resolve_alike (i := i) hdrawn later q
      simp only [Installation.serve, hresult]
      refine ⟨.same _, ?_⟩
      rcases hafter with ⟨hafter, hafter'⟩ | ⟨r, hafter, hafter'⟩
      · rw [hafter, hafter']
        exact .inr h
      · rw [hafter, hafter']
        exact h.issued later r
  | validate later asked step => exact h.validate wf hnow asked step

/-- From states that are alike, all later demands are answered alike. -/
theorem Run.serveAll_alike (run : i.Run ttl history st) {ds : List Demand}
    (hnow : ∀ d ∈ ds, now ≤ d.now) (h : st = st' ∨ Purged now code st st') :
    List.Forall₂ (Alike code) (i.serveAll st ds).1 (i.serveAll st' ds).1 := by
  induction ds generalizing history st st' with
  | nil => exact .nil
  | cons d ds ih =>
      obtain ⟨hd, hds⟩ := List.forall_mem_cons.1 hnow
      have hserve : Alike code (i.serve st d).1 (i.serve st' d).1 ∧
          ((i.serve st d).2 = (i.serve st' d).2 ∨
            Purged now code (i.serve st d).2 (i.serve st' d).2) := by
        rcases h with rfl | h
        · exact ⟨.same _, .inl rfl⟩
        · exact h.serve run.wellFormed hd
      exact .cons hserve.1 (ih (run.serve d) hds hserve.2)

/-- A validation that is put into a run, before demands at no earlier time, leaves all answers as
they are, but for those to later validations of its code: where they found it too old, they may now
find it unknown. -/
theorem probing_changes_nothing (i : Installation) (ttl : Int) (earlier later : List Demand)
    (now : Instant) (code : String) (step : Step) (hnow : ∀ d ∈ later, now ≤ d.now) :
    ∃ before probe after after',
      (i.serveAll ⟨⟨ttl, []⟩, 0⟩ (earlier ++ later)).1 = before ++ after ∧
        (i.serveAll ⟨⟨ttl, []⟩, 0⟩ (earlier ++ .validate now code step :: later)).1 =
          before ++ probe :: after' ∧
        before.length = earlier.length ∧ List.Forall₂ (Alike code) after after' := by
  have run := (Run.start : i.Run ttl [] _).serveAll earlier
  simp only [serveAll_append, serveAll]
  exact ⟨_, _, _, _, rfl, rfl, i.length_serveAll _ _,
    run.serveAll_alike hnow ((purged_of_probe run.wellFormed now code step).imp_left Eq.symm)⟩

/-- The code is found too old, unless it has been found so before. -/
theorem probing_changes_nothing_oneUser :
    let recover : Demand := .resolve 10 (oneUserRequest .username)
    let ask (now : Instant) : Demand := .validate now "first" .sendInformation
    ∃ issue probe result result',
      (oneUser.serveAll ⟨⟨3, []⟩, 0⟩ [recover, ask 15]).1 =
          [issue, .validated 15 "first" .sendInformation result] ∧
        (oneUser.serveAll ⟨⟨3, []⟩, 0⟩ [recover, ask 14, ask 15]).1 =
          [issue, probe, .validated 15 "first" .sendInformation result'] ∧
        Alike "first" (.validated 15 "first" .sendInformation result)
          (.validated 15 "first" .sendInformation result') ∧
        faultOf result = some .expiredCode ∧ faultOf result' = some .invalidCode := by
  intro recover ask
  obtain ⟨before, probe, after, after', hplain, hprobed, hlength, halike⟩ :=
    probing_changes_nothing oneUser 3 [recover] [ask 15] 14 "first" .sendInformation (by decide)
  obtain ⟨issue, rfl⟩ := List.length_eq_one_iff.1 hlength
  rw [List.singleton_append] at hplain hprobed
  cases hplain
  cases hprobed
  obtain ⟨h, -⟩ := List.forall₂_cons.1 halike
  exact ⟨_, _, _, _, rfl, rfl, h, rfl, rfl⟩

end Installation

end AccountRecovery
