import AccountRecovery.Proofs.History
import Mathlib.Logic.Function.Basic
/-!
# Dialogues side by side

Several dialogues go on over one in-memory store.  At each turn one of them takes a step: it has a
question answered, draws a code or makes a note.  The store answers one question at a time, so a
question is never half answered when another dialogue goes on.  Any order of turns is allowed.

Main statements: a dialogue that is alone comes by its steps to what it comes to when it is run
(`run_advance`), and the store that the turns lead to is the one that the operations in the order of
the turns lead to (`Crowd.store_after`).
-/

namespace AccountRecovery

namespace Dialogue

variable {α σ : Type}

structure Progress (σ α : Type) where
  rest : Dialogue α
  state : σ
  drawn : Nat

def advance (answer : Handler σ) (codes : CodeSource) :
    Dialogue α → (state : σ) → (drawn : Nat) → Progress σ α
  | done a, s, n => ⟨done a, s, n⟩
  | fail e, s, n => ⟨fail e, s, n⟩
  | ask q next, s, n => ⟨next (answer q s).1, (answer q s).2, n⟩
  | note _ next, s, n => ⟨next, s, n⟩
  | newCode next, s, n => ⟨next (codes n), s, n + 1⟩

/-- A step leads nowhere but where the dialogue was going. -/
theorem run_advance (answer : Handler σ) (codes : CodeSource) (d : Dialogue α) (s : σ) (n : Nat) :
    let p := d.advance answer codes s n
    (p.rest.run answer codes p.state p.drawn).result = (d.run answer codes s n).result ∧
      (p.rest.run answer codes p.state p.drawn).state = (d.run answer codes s n).state ∧
      (p.rest.run answer codes p.state p.drawn).drawn = (d.run answer codes s n).drawn := by
  cases d with
  | done a => exact ⟨rfl, rfl, rfl⟩
  | fail e => exact ⟨rfl, rfl, rfl⟩
  | ask q next => exact ⟨rfl, rfl, rfl⟩
  | note entry next => exact ⟨rfl, rfl, rfl⟩
  | newCode next => exact ⟨rfl, rfl, rfl⟩

end Dialogue

def Call.operation? (now : Instant) : Call → Option MemoryStore.Operation
  | load code => some (.load now code)
  | store record => some (.store now record)
  | invalidate a => some (.invalidate a)
  | _ => none

def Dialogue.operation? {α : Type} (now : Instant) : Dialogue α → Option MemoryStore.Operation
  | ask q _ => q.operation? now
  | _ => none

variable {ι α : Type}

structure Turn (ι : Type) where
  thread : ι
  now : Instant

structure Move (ι : Type) where
  thread : ι
  op : MemoryStore.Operation
deriving DecidableEq

/-- Dialogues over one store, with one supply of codes. -/
structure Crowd (ι α : Type) where
  threads : ι → Dialogue α
  store : MemoryStore
  drawn : Nat

namespace Crowd

variable [DecidableEq ι] (registry : Registry) (codes : Dialogue.CodeSource)

def advance (c : Crowd ι α) (t : Turn ι) : Crowd ι α :=
  let p := (c.threads t.thread).advance (registry.answer (MemoryStore.recordStore t.now)) codes
    c.store c.drawn
  ⟨Function.update c.threads t.thread p.rest, p.state, p.drawn⟩

/-- Where the turns lead to, of which the last comes first. -/
def after (c : Crowd ι α) : List (Turn ι) → Crowd ι α
  | [] => c
  | t :: earlier => (c.after earlier).advance registry codes t

def moves (c : Crowd ι α) : List (Turn ι) → List (Move ι)
  | [] => []
  | t :: earlier =>
    (((c.after registry codes earlier).threads t.thread).operation? t.now).toList.map
        (⟨t.thread, ·⟩) ++ c.moves earlier

theorem store_advance (c : Crowd ι α) (t : Turn ι) :
    (c.advance registry codes t).store =
      (((c.threads t.thread).operation? t.now).map c.store.perform).getD c.store := by
  unfold advance
  dsimp only
  cases c.threads t.thread with
  | ask q next =>
      cases q with
      | load code =>
          change ((MemoryStore.recordStore t.now).load code c.store).2 = (c.store.load t.now code).2
          simp only [MemoryStore.recordStore]
          split <;> simp_all
      | _ => rfl
  | _ => rfl

theorem store_after {c : Crowd ι α} {ttl : Int} {base : List MemoryStore.Operation}
    (h : c.store = MemoryStore.after ttl base) (turns : List (Turn ι)) :
    (c.after registry codes turns).store =
      MemoryStore.after ttl ((c.moves registry codes turns).map Move.op ++ base) := by
  induction turns with
  | nil => exact h
  | cons t earlier ih =>
      rw [after, store_advance, ih, moves]
      cases ((c.after registry codes earlier).threads t.thread).operation? t.now with
      | none => rfl
      | some op => rfl

end Crowd

end AccountRecovery
