import AccountRecovery.Proofs.Interleaving
import AccountRecovery.Recovery.Issue
import Mathlib.Data.Nat.Basic
import Mathlib.Data.Set.Operations
import Mathlib.Order.Interval.Set.Defs
/-!
# Racing issuances

Codes are issued side by side over one store, for any accounts and scenarios.  Each issuance draws
its code, then invalidates its account, then stores its record, and others may go on in between.

A dialogue that issues a code is followed through its stages (`Order.Stage`).  From these come the
two facts about the moves that matter: records of different issuances have different codes, and who
invalidates an account stores a record for it later on (`Race`).
-/

namespace AccountRecovery

open Dialogue MemoryStore

structure Order where
  username : String
  tenantDomain : String
  channels : List Channel
  scenario : Scenario

namespace Order

def account (o : Order) : Account :=
  .ofRawName o.username o.tenantDomain

def record (o : Order) (code : String) : Record :=
  ⟨o.account, code, o.scenario, .sendInformation, Selection.serialize o.channels, none⟩

/-- What an issuance does to the store, the last first. -/
def script (o : Order) (t : Instant) (code : String) : List Operation :=
  [.store t (o.record code), .invalidate o.account]

def issuing (o : Order) : Dialogue Record :=
  Recovery.issue o.username o.tenantDomain o.channels o.scenario

/-- Issuances that start together over a store, when some codes are drawn already. -/
def crowd {ι : Type} (orders : ι → Order) (store : MemoryStore) (drawn : Nat) : Crowd ι Record :=
  ⟨fun i => (orders i).issuing, store, drawn⟩

section Script

variable {o : Order} {t t' : Instant} {r : Record} {a : Account} {code : String}
  {newer older : List Operation}

theorem store_mem_script : .store t r ∈ o.script t' code ↔ t = t' ∧ r = o.record code := by
  simp [script]

theorem eq_nil_of_append_store (h : newer ++ .store t r :: older <:+ o.script t' code) :
    newer = [] := by
  cases newer with
  | nil => rfl
  | cons op newer =>
      have hmem : Operation.store t r ∈ [Operation.invalidate o.account] := by
        rcases List.suffix_cons_iff.1 h with heq | hsuffix
        · rw [← (List.cons.inj heq).2]
          simp
        · exact hsuffix.subset (by simp)
      simp at hmem

theorem of_append_invalidate (h : newer ++ .invalidate a :: older = o.script t code) :
    .store t (o.record code) ∈ newer ∧ a = o.account := by
  cases newer with
  | nil => cases h
  | cons op newer =>
      rw [script, List.cons_append, List.cons.injEq] at h
      obtain ⟨rfl, h⟩ := h
      cases newer with
      | nil =>
          cases h
          exact ⟨List.mem_cons_self, rfl⟩
      | cons op newer => simp at h

end Script

/-! ## The stages of an issuance -/

variable (o : Order) (code : String)

/-- The record is stored, and there is no more than a note to make. -/
def Closes (d : Dialogue Record) : Prop :=
  d = done (o.record code) ∨ ∃ entry, d = note entry (done (o.record code))

def Stores (d : Dialogue Record) : Prop :=
  ∃ next, d = ask (.store (o.record code)) next ∧ o.Closes code (next (.ok ()))

def Clears (d : Dialogue Record) : Prop :=
  ∃ next, d = ask (.invalidate o.account) next ∧ o.Stores code (next (.ok ()))

theorem issuing_eq : ∃ next, o.issuing = newCode next ∧ ∀ code, o.Clears code (next code) :=
  ⟨_, rfl, fun _ => ⟨_, rfl, _, rfl, .inr ⟨_, rfl⟩⟩⟩

/-- How far an issuance has come: what is left of it, what it has done to the store (the last
first), and the place of its code in the order of drawing. -/
inductive Stage (codes : CodeSource) : Dialogue Record → List Operation → Option Nat → Prop
  | waiting : Stage codes o.issuing [] none
  | clearing {n : Nat} {d : Dialogue Record} (h : o.Clears (codes n) d) : Stage codes d [] (some n)
  | storing {n : Nat} {d : Dialogue Record} (h : o.Stores (codes n) d) :
      Stage codes d [.invalidate o.account] (some n)
  | closing {n : Nat} {d : Dialogue Record} (t : Instant) (h : o.Closes (codes n) d) :
      Stage codes d (o.script t (codes n)) (some n)

variable {o} {codes : CodeSource} {d : Dialogue Record} {past : List Operation}
  {number : Option Nat}

/-- A step leads to the next stage, and draws a code only if there is none. -/
theorem Stage.advance (h : o.Stage codes d past number) (registry : Registry) (now : Instant)
    (s : MemoryStore) (n : Nat) :
    let p := d.advance (registry.answer (recordStore now)) codes s n
    ∃ number', o.Stage codes p.rest ((d.operation? now).toList ++ past) number' ∧
      (number' = number ∧ p.drawn = n ∨ number' = some n ∧ p.drawn = n + 1) := by
  cases h with
  | waiting =>
      obtain ⟨next, hissuing, hclears⟩ := o.issuing_eq
      rw [hissuing]
      exact ⟨some n, .clearing (hclears (codes n)), .inr ⟨rfl, rfl⟩⟩
  | clearing h =>
      obtain ⟨next, rfl, hstores⟩ := h
      exact ⟨_, .storing hstores, .inl ⟨rfl, rfl⟩⟩
  | storing h =>
      obtain ⟨next, rfl, hcloses⟩ := h
      exact ⟨_, .closing now hcloses, .inl ⟨rfl, rfl⟩⟩
  | closing t h =>
      rcases h with rfl | ⟨entry, rfl⟩
      · exact ⟨_, .closing t (.inl rfl), .inl ⟨rfl, rfl⟩⟩
      · exact ⟨_, .closing t (.inl rfl), .inl ⟨rfl, rfl⟩⟩

theorem Stage.past_suffix (h : o.Stage codes d past number) :
    ∃ t code, past <:+ o.script t code := by
  cases h with
  | waiting => exact ⟨0, "", List.nil_suffix⟩
  | clearing h => exact ⟨0, "", List.nil_suffix⟩
  | storing h => exact ⟨0, "", List.suffix_cons _ _⟩
  | closing t h => exact ⟨t, _, List.suffix_refl _⟩

theorem Stage.number_of_store (h : o.Stage codes d past number) {t : Instant} {r : Record}
    (hmem : .store t r ∈ past) : ∃ n, number = some n ∧ r = o.record (codes n) := by
  cases h with
  | waiting => cases hmem
  | clearing h => cases hmem
  | storing h => simp at hmem
  | closing t h => exact ⟨_, rfl, (store_mem_script.1 hmem).2⟩

theorem Stage.past_of_done {r : Record} (h : o.Stage codes (done r) past number) :
    ∃ t code, r = o.record code ∧ past = o.script t code := by
  generalize hd : done r = d at h
  cases h with
  | waiting => cases hd
  | clearing h =>
      obtain ⟨next, rfl, -⟩ := h
      cases hd
  | storing h =>
      obtain ⟨next, rfl, -⟩ := h
      cases hd
  | closing t h =>
      rcases h with rfl | ⟨entry, rfl⟩
      · cases hd
        exact ⟨t, _, rfl, rfl⟩
      · cases hd

end Order

/-! ## The moves of a race -/

variable {ι : Type} [DecidableEq ι]

def Move.opsOf (i : ι) (moves : List (Move ι)) : List Operation :=
  (moves.filter (·.thread = i)).map Move.op

namespace Move

variable {i : ι} {op : Operation} {moves later earlier : List (Move ι)}

theorem opsOf_append : opsOf i (later ++ earlier) = opsOf i later ++ opsOf i earlier := by
  simp [opsOf]

theorem opsOf_cons_self : opsOf i (⟨i, op⟩ :: earlier) = op :: opsOf i earlier := by
  simp [opsOf]

theorem mem_opsOf : op ∈ opsOf i moves ↔ ⟨i, op⟩ ∈ moves := by
  simp only [opsOf, List.mem_map, List.mem_filter, decide_eq_true_eq]
  constructor
  · rintro ⟨m, ⟨hm, rfl⟩, rfl⟩
    exact hm
  · intro hm
    exact ⟨_, ⟨hm, rfl⟩, rfl⟩

theorem opsOf_step (j : ι) (op? : Option Operation) :
    opsOf i (op?.toList.map (⟨j, ·⟩)) = if j = i then op?.toList else [] := by
  cases op? with
  | none => simp [opsOf]
  | some op =>
      by_cases h : j = i
      · simp [opsOf, h]
      · simp [opsOf, h]

end Move

/-! ## The state of a race -/

/-- The places of the codes that are drawn, none of them twice. -/
structure Numbered (first drawn : Nat) (number : ι → Option Nat) : Prop where
  first_le : first ≤ drawn
  mem : ∀ i n, number i = some n → n ∈ Set.Ico first drawn
  distinct : ∀ i j n, number i = some n → number j = some n → i = j

theorem Numbered.draw {first drawn : Nat} {number : ι → Option Nat}
    (h : Numbered first drawn number) (k : ι) :
    Numbered first (drawn + 1) (Function.update number k (some drawn)) := by
  have hold (i : ι) (n : Nat) (hi : number i = some n) : n ≠ drawn := Nat.ne_of_lt (h.mem i n hi).2
  refine ⟨Nat.le_succ_of_le h.first_le, fun i n hi => ?_, fun i j n hi hj => ?_⟩
  · rw [Function.update_apply] at hi
    split at hi
    · cases hi
      exact ⟨h.first_le, Nat.lt_succ_self _⟩
    · obtain ⟨hle, hlt⟩ := h.mem i n hi
      exact ⟨hle, Nat.lt_succ_of_lt hlt⟩
  · rw [Function.update_apply] at hi hj
    split at hi <;> split at hj
    · next hik hjk => rw [hik, hjk]
    · cases hi
      exact (hold j _ hj rfl).elim
    · cases hj
      exact (hold i _ hi rfl).elim
    · exact h.distinct i j n hi hj

/-- Each issuance is at a stage, and each has a code of its own. -/
structure Racing (orders : ι → Order) (codes : CodeSource) (first : Nat) (c : Crowd ι Record)
    (moves : List (Move ι)) (number : ι → Option Nat) : Prop where
  stage : ∀ i, (orders i).Stage codes (c.threads i) (Move.opsOf i moves) (number i)
  numbered : Numbered first c.drawn number

variable {orders : ι → Order} {codes : CodeSource} {first : Nat} {moves : List (Move ι)}

theorem Racing.advance {c : Crowd ι Record} {number : ι → Option Nat}
    (h : Racing orders codes first c moves number) (registry : Registry) (t : Turn ι) :
    ∃ number', Racing orders codes first (c.advance registry codes t)
      (((c.threads t.thread).operation? t.now).toList.map (⟨t.thread, ·⟩) ++ moves) number' := by
  obtain ⟨k, hstage, hnumber⟩ := (h.stage t.thread).advance registry t.now c.store c.drawn
  refine ⟨Function.update number t.thread k, fun i => ?_, ?_⟩
  · rw [Move.opsOf_append, Move.opsOf_step]
    by_cases hi : i = t.thread
    · subst hi
      simpa [Crowd.advance] using hstage
    · simpa [Crowd.advance, Function.update_of_ne hi, Ne.symm hi] using h.stage i
  · rcases hnumber with ⟨rfl, hdrawn⟩ | ⟨rfl, hdrawn⟩
    · simpa only [Function.update_eq_self, Crowd.advance, hdrawn] using h.numbered
    · simpa only [Crowd.advance, hdrawn] using h.numbered.draw t.thread

/-- Whatever the order of the turns, the race is in such a state. -/
theorem racing_after (orders : ι → Order) (codes : CodeSource) (first : Nat) (store : MemoryStore)
    (registry : Registry) (turns : List (Turn ι)) :
    ∃ number, Racing orders codes first
      ((Order.crowd orders store first).after registry codes turns)
      ((Order.crowd orders store first).moves registry codes turns) number := by
  induction turns with
  | nil => exact ⟨fun _ => none, fun i => .waiting, Nat.le_refl first, by simp, by simp⟩
  | cons t earlier ih =>
      obtain ⟨number, hracing⟩ := ih
      exact hracing.advance registry t

/-! ## What a race does to the store -/

/-- The moves of a race: each issuance keeps to its script, and no two records have one code. -/
structure Race (orders : ι → Order) (moves : List (Move ι)) : Prop where
  script : ∀ i, ∃ t code, Move.opsOf i moves <:+ (orders i).script t code
  codes : ∀ {i j t t' r r'}, ⟨i, .store t r⟩ ∈ moves → ⟨j, .store t' r'⟩ ∈ moves →
    r.code = r'.code → i = j

theorem Racing.race {c : Crowd ι Record} {number : ι → Option Nat}
    (h : Racing orders codes first c moves number)
    (hcodes : Set.InjOn codes (Set.Ico first c.drawn)) : Race orders moves where
  script i := (h.stage i).past_suffix
  codes := by
    intro i j t t' r r' hi hj heq
    obtain ⟨n, hn, rfl⟩ := (h.stage i).number_of_store (Move.mem_opsOf.2 hi)
    obtain ⟨m, hm, rfl⟩ := (h.stage j).number_of_store (Move.mem_opsOf.2 hj)
    obtain rfl : n = m := hcodes (h.numbered.mem i n hn) (h.numbered.mem j m hm) heq
    exact h.numbered.distinct i j n hn hm

namespace Race

variable {i : ι} {t : Instant} {r : Record} {later earlier : List (Move ι)}

theorem op_cases (h : Race orders moves) {op : Operation} (hmem : ⟨i, op⟩ ∈ moves) :
    (∃ t code, op = .store t ((orders i).record code)) ∨ op = .invalidate (orders i).account := by
  obtain ⟨t, code, hsuffix⟩ := h.script i
  have hop := hsuffix.subset (Move.mem_opsOf.2 hmem)
  simp only [Order.script, List.mem_cons, List.not_mem_nil, or_false] at hop
  exact hop.imp_left fun heq => ⟨t, code, heq⟩

theorem record_eq (h : Race orders moves) (hmem : ⟨i, .store t r⟩ ∈ moves) :
    ∃ code, r = (orders i).record code := by
  rcases h.op_cases hmem with ⟨t', code, heq⟩ | heq
  · cases heq
    exact ⟨code, rfl⟩
  · cases heq

theorem not_mem_later (h : Race orders (later ++ ⟨i, .store t r⟩ :: earlier)) (op : Operation) :
    ⟨i, op⟩ ∉ later := by
  obtain ⟨t', code, hsuffix⟩ := h.script i
  rw [Move.opsOf_append, Move.opsOf_cons_self] at hsuffix
  rw [← Move.mem_opsOf, Order.eq_nil_of_append_store hsuffix]
  exact List.not_mem_nil

theorem lastStored?_eq (h : Race orders (later ++ ⟨i, .store t r⟩ :: earlier))
    (base : List Operation) :
    lastStored? r.code ((later ++ ⟨i, .store t r⟩ :: earlier).map Move.op ++ base) =
      some (later.map Move.op, t, r) := by
  rw [lastStored?_eq_some_iff]
  refine ⟨rfl, ⟨earlier.map Move.op ++ base, by simp⟩, fun t' r' hmem hcode => ?_⟩
  obtain ⟨⟨j, op⟩, hj, rfl⟩ := List.mem_map.1 hmem
  obtain rfl : j = i :=
    h.codes (List.mem_append_left _ hj) (List.mem_append_right _ List.mem_cons_self) hcode
  exact h.not_mem_later _ hj

end Race

/-! ## Which codes are live -/

/-- What takes the code of a record away from it: an invalidation of its account, and another record
for its account and scenario. -/
def MemoryStore.Operation.Supersedes (r : Record) : Operation → Prop
  | .store _ r' => r'.account = r.account ∧ r'.scenario = r.scenario
  | .load .. => False
  | .invalidate a => a = r.account

def MemoryStore.Operation.StoresFor (a : Account) : Operation → Prop
  | .store _ r => r.account = a
  | _ => False

instance (a : Account) : DecidablePred (Operation.StoresFor a)
  | .store _ r => inferInstanceAs (Decidable (r.account = a))
  | .load .. => inferInstanceAs (Decidable False)
  | .invalidate _ => inferInstanceAs (Decidable False)

omit [DecidableEq ι] in
/-- If any record is stored for an account, one of them is the last. -/
theorem exists_last_store {a : Account} (h : ∃ m ∈ moves, m.op.StoresFor a) :
    ∃ later i t r earlier, moves = later ++ ⟨i, .store t r⟩ :: earlier ∧ r.account = a ∧
      ∀ m ∈ later, ¬m.op.StoresFor a := by
  have hsome : (moves.find? fun m => m.op.StoresFor a).isSome := by simpa using h
  obtain ⟨⟨i, op⟩, hfind⟩ := Option.isSome_iff_exists.1 hsome
  obtain ⟨hop, later, earlier, rfl, hlater⟩ := List.find?_eq_some_iff_append.1 hfind
  rw [decide_eq_true_eq] at hop
  cases op with
  | store t r =>
      refine ⟨later, i, t, r, earlier, rfl, hop, fun m hm hstores => ?_⟩
      simpa [hstores] using hlater m hm
  | load now code => exact hop.elim
  | invalidate a => exact hop.elim

namespace Race

variable {ttl : Int} {base : List Operation} {i : ι} {now t : Instant} {r : Record}
  {later earlier : List (Move ι)}

theorem ends_iff (h : Race orders moves) {m : Move ι} (hm : m ∈ moves) :
    m.op.Ends ttl t r ↔ m.op.Supersedes r := by
  obtain ⟨j, op⟩ := m
  rcases h.op_cases hm with ⟨t', code, rfl⟩ | rfl
  · exact Iff.rfl
  · exact Iff.rfl

theorem remains (h : Race orders (later ++ ⟨i, .store t r⟩ :: earlier))
    (hspared : ∀ m ∈ later, ¬m.op.Supersedes r) :
    Remains ttl ((later ++ ⟨i, .store t r⟩ :: earlier).map Move.op ++ base) r.code
      { r with createdAt := some t } := by
  refine ⟨later.map Move.op, t, r, h.lastStored?_eq base, fun op hop hends => ?_, rfl⟩
  obtain ⟨m, hm, rfl⟩ := List.mem_map.1 hop
  exact hspared m hm ((h.ends_iff (List.mem_append_left _ hm)).1 hends)

theorem not_remains (h : Race orders (later ++ ⟨i, .store t r⟩ :: earlier)) {m : Move ι}
    (hm : m ∈ later) (hsupersedes : m.op.Supersedes r) (kept : Record) :
    ¬Remains ttl ((later ++ ⟨i, .store t r⟩ :: earlier).map Move.op ++ base) r.code kept := by
  rintro ⟨ops, t', r', hfound, hspared, -⟩
  rw [h.lastStored?_eq base] at hfound
  cases hfound
  exact hspared m.op (List.mem_map_of_mem hm)
    ((h.ends_iff (List.mem_append_left _ hm)).2 hsupersedes)

theorem live_iff (h : Race orders (later ++ ⟨i, .store t r⟩ :: earlier)) (hfresh : now - t ≤ ttl) :
    (∃ kept, told ttl ((later ++ ⟨i, .store t r⟩ :: earlier).map Move.op ++ base) now r.code =
        .ok kept) ↔
      ∀ m ∈ later, ¬m.op.Supersedes r := by
  constructor
  · rintro ⟨kept, hkept⟩ m hm hsupersedes
    rw [told_of_not_remains (h.not_remains hm hsupersedes)] at hkept
    cases hkept
  · intro hspared
    exact ⟨_, (told_of_remains (h.remains hspared) rfl).trans (if_neg (Int.not_lt.2 hfresh))⟩

end Race

def Over (orders : ι → Order) (moves : List (Move ι)) : Prop :=
  ∀ i, ∃ t code, Move.opsOf i moves = (orders i).script t code

theorem Racing.over {c : Crowd ι Record} {number : ι → Option Nat}
    (h : Racing orders codes first c moves number) (hdone : ∀ i, ∃ r, c.threads i = done r) :
    Over orders moves := by
  intro i
  obtain ⟨r, hr⟩ := hdone i
  have hstage := h.stage i
  rw [hr] at hstage
  obtain ⟨t, code, -, hscript⟩ := hstage.past_of_done
  exact ⟨t, code, hscript⟩

theorem Racing.thread_of_store {c : Crowd ι Record} {number : ι → Option Nat}
    (h : Racing orders codes first c moves number) {i : ι} (hdone : ∃ r, c.threads i = done r)
    {t : Instant} {r : Record} (hmem : ⟨i, .store t r⟩ ∈ moves) : c.threads i = done r := by
  obtain ⟨r', hr'⟩ := hdone
  have hstage := h.stage i
  rw [hr'] at hstage
  obtain ⟨t', code, rfl, hscript⟩ := hstage.past_of_done
  rw [← Move.mem_opsOf, hscript, Order.store_mem_script] at hmem
  rw [hr', hmem.2]

namespace Over

variable {ttl : Int} {base : List Operation} {i : ι} {t : Instant} {r kept : Record} {a : Account}
  {code : String} {later earlier : List (Move ι)}

theorem stores (h : Over orders moves) (i : ι) :
    ∃ m ∈ moves, m.op.StoresFor (orders i).account := by
  obtain ⟨t, code, hscript⟩ := h i
  have hmem : .store t ((orders i).record code) ∈ Move.opsOf i moves := by
    rw [hscript, Order.store_mem_script]
    exact ⟨rfl, rfl⟩
  exact ⟨_, Move.mem_opsOf.1 hmem, rfl⟩

theorem invalidates (h : Over orders moves) (i : ι) :
    ⟨i, .invalidate (orders i).account⟩ ∈ moves := by
  obtain ⟨t, code, hscript⟩ := h i
  rw [← Move.mem_opsOf, hscript]
  simp [Order.script]

/-- Whoever has invalidated an account has stored a record for it since. -/
theorem stores_after_invalidate (h : Over orders (later ++ ⟨i, .invalidate a⟩ :: earlier)) :
    ∃ m ∈ later, m.op.StoresFor a := by
  obtain ⟨t, code, hscript⟩ := h i
  rw [Move.opsOf_append, Move.opsOf_cons_self] at hscript
  obtain ⟨hstore, haccount⟩ := Order.of_append_invalidate hscript
  exact ⟨_, Move.mem_opsOf.1 hstore, haccount.symm⟩

theorem not_supersedes (h : Over orders (later ++ ⟨i, .store t r⟩ :: earlier))
    (hlast : ∀ m ∈ later, ¬m.op.StoresFor r.account) : ∀ m ∈ later, ¬m.op.Supersedes r := by
  rintro ⟨j, op⟩ hm hsupersedes
  cases op with
  | store t' r' => exact hlast _ hm hsupersedes.1
  | load now code => exact hsupersedes
  | invalidate b =>
      obtain rfl : b = r.account := hsupersedes
      obtain ⟨newer, older, rfl⟩ := List.append_of_mem hm
      rw [List.append_assoc] at h
      obtain ⟨m, hm', hstores⟩ := h.stores_after_invalidate
      exact hlast m (List.mem_append_left _ hm') hstores

theorem mem_of_remains (h : Over orders moves)
    (hkept : Remains ttl (moves.map Move.op ++ base) code kept)
    (haccount : kept.account = (orders i).account) :
    ∃ m ∈ moves, ∃ t r, m.op = .store t r ∧ kept = { r with createdAt := some t } := by
  obtain ⟨ops, t, r, hfound, hspared, rfl⟩ := hkept
  obtain ⟨-, ⟨earlier, hsplit⟩, -⟩ := lastStored?_eq_some_iff.1 hfound
  have hinvalidate : Operation.invalidate r.account ∈ moves.map Move.op :=
    List.mem_map.2 ⟨_, h.invalidates i, congrArg Operation.invalidate haccount.symm⟩
  -- A record from before the race would have been ended in it.
  have hnotall (rest : List Operation) : ops ≠ moves.map Move.op ++ rest := by
    rintro rfl
    exact hspared _ (List.mem_append_left _ hinvalidate) rfl
  rcases List.append_eq_append_iff.1 hsplit with ⟨rest, hops, -⟩ | ⟨rest, hmoves, hrest⟩
  · exact (hnotall rest hops).elim
  · cases rest with
    | nil => exact (hnotall [] (by simpa using hmoves.symm)).elim
    | cons op rest =>
        rw [List.cons_append, List.cons.injEq] at hrest
        have hmem : Operation.store t r ∈ moves.map Move.op := by simp [hmoves, hrest.1]
        obtain ⟨m, hm, hop⟩ := List.mem_map.1 hmem
        exact ⟨m, hm, t, r, hop, rfl⟩

theorem scenario_of_remains (h : Over orders moves) (hrace : Race orders moves)
    (hkept : Remains ttl (moves.map Move.op ++ base) code kept)
    (haccount : kept.account = (orders i).account)
    (hscenario : ∀ k, (orders k).account = (orders i).account →
      (orders k).scenario = (orders i).scenario) :
    kept.scenario = (orders i).scenario := by
  obtain ⟨⟨k, op⟩, hk, t, r, rfl, rfl⟩ := h.mem_of_remains hkept haccount
  obtain ⟨code, rfl⟩ := hrace.record_eq hk
  exact hscenario k haccount

theorem code_eq_of_remains (h : Over orders moves) (hrace : Race orders moves) {code' : String}
    {kept' : Record} (hkept : Remains ttl (moves.map Move.op ++ base) code kept)
    (hkept' : Remains ttl (moves.map Move.op ++ base) code' kept')
    (haccount : kept.account = (orders i).account) (haccount' : kept'.account = (orders i).account)
    (hscenario : ∀ k, (orders k).account = (orders i).account →
      (orders k).scenario = (orders i).scenario) :
    code = code' := by
  have hpurpose : purpose (code, kept) = purpose (code', kept') := by
    rw [purpose, purpose, haccount, haccount', h.scenario_of_remains hrace hkept haccount hscenario,
      h.scenario_of_remains hrace hkept' haccount' hscenario]
  have hwf := wellFormed_after ttl (moves.map Move.op ++ base)
  have heq := List.inj_on_of_nodup_map hwf.nodup_purposes (mem_after.2 hkept) (mem_after.2 hkept')
    hpurpose
  exact congrArg Prod.fst heq

end Over

/-- Issuances race over a store, each by the steps of its own dialogue, in any order and from any
state that the store can be in.  Each invalidates its account and then stores its record.  No state
has two records for one account and scenario.  The code of a record is live until a later move
invalidates its account or stores another record for its account and scenario.  Once all issuances
are done, the last record that was stored for an account is live, and no other record of that
account is if its issuances are for one scenario. -/
theorem issuances_race (orders : ι → Order) (registry : Registry) (codes : CodeSource) (ttl : Int)
    (base : List Operation) (first : Nat) (turns : List (Turn ι))
    (hcodes : Set.InjOn codes (Set.Ico first
      ((Order.crowd orders (MemoryStore.after ttl base) first).after registry codes turns).drawn)) :
    let start := Order.crowd orders (MemoryStore.after ttl base) first
    let c := start.after registry codes turns
    let moves := start.moves registry codes turns
    (∀ i, ∃ t code, Move.opsOf i moves <:+ (orders i).script t code) ∧
      (c.store.records.map purpose).Nodup ∧
      (∀ later i t r earlier, moves = later ++ ⟨i, .store t r⟩ :: earlier →
        ∀ now, now - t ≤ ttl →
          ((∃ kept, (c.store.load now r.code).1 = .ok kept) ↔ ∀ m ∈ later, ¬m.op.Supersedes r)) ∧
      ((∀ i, ∃ r, c.threads i = done r) → ∀ i, ∃ later j t r earlier,
        moves = later ++ ⟨j, .store t r⟩ :: earlier ∧
          r.account = (orders i).account ∧
          (∀ m ∈ later, ¬m.op.StoresFor r.account) ∧
          c.threads j = done r ∧
          (∀ now, now - t ≤ ttl →
            (c.store.load now r.code).1 = .ok { r with createdAt := some t }) ∧
          ((∀ k, (orders k).account = r.account → (orders k).scenario = (orders i).scenario) →
            ∀ now code kept, (c.store.load now code).1 = .ok kept → kept.account = r.account →
              code = r.code)) := by
  intro start c moves
  obtain ⟨number, hracing⟩ := racing_after orders codes first (after ttl base) registry turns
  have hrace : Race orders moves := hracing.race hcodes
  have hstore : c.store = after ttl (moves.map Move.op ++ base) :=
    start.store_after registry codes rfl turns
  have hwf : c.store.WellFormed := hstore ▸ wellFormed_after ttl _
  have hload (now : Instant) (code : String) : (c.store.load now code).1 =
      told ttl (moves.map Move.op ++ base) now code := by
    rw [hstore, load_after]
  refine ⟨hrace.script, hwf.nodup_purposes, fun later i t r earlier hmoves now hfresh => ?_,
    fun hdone i => ?_⟩
  · rw [hload, hmoves]
    exact (hmoves ▸ hrace).live_iff hfresh
  · have hover : Over orders moves := hracing.over hdone
    obtain ⟨later, j, t, r, earlier, hmoves, haccount, hlast⟩ :=
      exists_last_store (hover.stores i)
    rw [← haccount] at hlast
    have hmem : ⟨j, .store t r⟩ ∈ moves := by simp [hmoves]
    have hspared := (hmoves ▸ hover).not_supersedes hlast
    have hremains : Remains ttl (moves.map Move.op ++ base) r.code { r with createdAt := some t } :=
      hmoves ▸ (hmoves ▸ hrace).remains hspared
    refine ⟨later, j, t, r, earlier, hmoves, haccount, hlast,
      hracing.thread_of_store (hdone j) hmem, fun now hfresh => ?_, ?_⟩
    · rw [hload, told_of_remains hremains rfl, if_neg (Int.not_lt.2 hfresh)]
    · intro hscenario now code kept hkept hkeptAccount
      rw [haccount] at hscenario hkeptAccount
      have hkeptRemains : Remains ttl (moves.map Move.op ++ base) code kept :=
        remains_of_load (hstore ▸ hkept)
      exact hover.code_eq_of_remains hrace hkeptRemains hremains hkeptAccount haccount hscenario

/-- Two issuances for one account take their steps in turn.  Both are done in the end, and the
account has a live code. -/
theorem issuances_race_ann :
    let orders : Bool → Order := fun i =>
      ⟨"ann", "t", [], if i then .username else .passwordByNotification⟩
    let codes : CodeSource := fun n => String.ofList (List.replicate n 'x')
    let turns : List (Turn Bool) :=
      [⟨true, 7⟩, ⟨false, 6⟩, ⟨true, 5⟩, ⟨false, 4⟩, ⟨true, 3⟩, ⟨false, 2⟩, ⟨true, 1⟩, ⟨false, 0⟩]
    let start := Order.crowd orders ⟨10, []⟩ 0
    let c := start.after {} codes turns
    Set.InjOn codes (Set.Ico 0 c.drawn) ∧ (∀ i, ∃ r, c.threads i = done r) ∧
      ∃ (t : Instant) (r : Record), r.account = (orders true).account ∧
        ∀ now, now - t ≤ 10 →
          (c.store.load now r.code).1 = .ok { r with createdAt := some t } := by
  intro orders codes turns start c
  have hcodes : Set.InjOn codes (Set.Ico 0 c.drawn) := by
    intro m _ n _ heq
    simpa [codes] using congrArg String.length heq
  have hdone : ∀ i, ∃ r, c.threads i = done r := by
    intro i
    cases i with
    | false => exact ⟨_, rfl⟩
    | true => exact ⟨_, rfl⟩
  obtain ⟨-, -, -, hover⟩ := issuances_race orders ({} : Registry) codes 10 [] 0 turns hcodes
  obtain ⟨later, j, t, r, earlier, -, haccount, -, -, hlive, -⟩ := hover hdone true
  exact ⟨hcodes, hdone, t, r, haccount, hlive⟩

end AccountRecovery
