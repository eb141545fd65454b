import AccountRecovery.Failure
import AccountRecovery.Log
import AccountRecovery.Record
/-!
# Dialogues with the collaborators

The service asks its collaborators: the tenant registry, the user directory, the status provider and
the record store.  A dialogue is what the service does, as a tree: every question has one branch for
each reply and each failure.  Running a dialogue answers the questions one by one and lists them.

Main statements: dialogues are a lawful monad, a dialogue that goes on after another is run after it
(`run_bind`), and one that is rescued keeps what it has done before it failed (`run_rescue`).
-/

namespace AccountRecovery

/-- Claim values of a user, in order.  A claim may be there without a text. -/
abbrev ClaimValues := List (String × Option String)

/-- A question to a collaborator. -/
inductive Call where
  | tenantId (tenantDomain : String)
  | findUsers (tenantId : Int) (key value : String)
  | claimValues (tenantId : Int) (username : String) (keys : List String)
  | secondaryStoreExists (tenantId : Int) (domain : String)
  | isDisabled (account : Account)
  | isLocked (account : Account)
  | load (code : String)
  | store (record : Record)
  | invalidate (account : Account)
deriving Repr, DecidableEq

abbrev Call.Reply : Call → Type
  | tenantId _ => Int
  | findUsers .. => List String
  | claimValues .. => ClaimValues
  | secondaryStoreExists .. => Bool
  | isDisabled _ => Bool
  | isLocked _ => Bool
  | load _ => Option Record
  | store _ => Unit
  | invalidate _ => Unit

abbrev Call.Answer (q : Call) : Type :=
  Except Failure q.Reply

/-- Work with the collaborators that ends in a value or a failure. -/
inductive Dialogue (α : Type) : Type where
  | done (a : α)
  | fail (e : Failure)
  | ask (q : Call) (next : q.Answer → Dialogue α)
  | note (entry : Log.Entry) (next : Dialogue α)
  /-- Takes a new recovery code. -/
  | newCode (next : String → Dialogue α)

namespace Dialogue

variable {α β : Type}

def bind : Dialogue α → (α → Dialogue β) → Dialogue β
  | done a, f => f a
  | fail e, _ => fail e
  | ask q next, f => ask q fun r => (next r).bind f
  | note entry next, f => note entry (next.bind f)
  | newCode next, f => newCode fun c => (next c).bind f

def rescue : Dialogue α → (Failure → Dialogue α) → Dialogue α
  | done a, _ => done a
  | fail e, h => h e
  | ask q next, h => ask q fun r => (next r).rescue h
  | note entry next, h => note entry (next.rescue h)
  | newCode next, h => newCode fun c => (next c).rescue h

instance : Monad Dialogue where
  pure := done
  bind := bind

def ofExcept : Except Failure α → Dialogue α
  | .ok a => done a
  | .error e => fail e

/-- Asks a question and fails as its answer does. -/
def call (q : Call) : Dialogue q.Reply :=
  ask q ofExcept

def log (level : Log.Level) (source : Log.Source) (message : String) : Dialogue Unit :=
  note ⟨level, source, message⟩ (done ())

def code : Dialogue String :=
  newCode done

/-- Fails with an error of the service that no collaborator caused. -/
def refuse (fault : RecoveryFault) (detail : Option String) : Dialogue α :=
  fail (.recovery ⟨fault, detail, fault.code, none⟩)

/-- Answers questions from a state. -/
abbrev Handler (σ : Type) :=
  (q : Call) → σ → q.Answer × σ

/-- A supply of recovery codes: the one that is drawn after `n` others. -/
abbrev CodeSource :=
  Nat → String

structure Outcome (σ α : Type) where
  result : Except Failure α
  state : σ
  /-- The number of codes drawn so far. -/
  drawn : Nat
  calls : List Call
  entries : List Log.Entry

def run {σ : Type} (answer : Handler σ) (codes : CodeSource) :
    Dialogue α → (state : σ) → (drawn : Nat) → Outcome σ α
  | done a, s, n => ⟨.ok a, s, n, [], []⟩
  | fail e, s, n => ⟨.error e, s, n, [], []⟩
  | ask q next, s, n =>
    let r := answer q s
    let o := (next r.1).run answer codes r.2 n
    { o with calls := q :: o.calls }
  | note entry next, s, n =>
    let o := next.run answer codes s n
    { o with entries := entry :: o.entries }
  | newCode next, s, n => (next (codes n)).run answer codes s (n + 1)

/-! ## Laws -/

theorem bind_done_right (d : Dialogue α) : d.bind done = d := by
  induction d with
  | done a => rfl
  | fail e => rfl
  | ask q next ih => simp [bind, ih]
  | note entry next ih => simp [bind, ih]
  | newCode next ih => simp [bind, ih]

theorem bind_bind {γ : Type} (d : Dialogue α) (f : α → Dialogue β) (g : β → Dialogue γ) :
    (d.bind f).bind g = d.bind fun a => (f a).bind g := by
  induction d with
  | done a => rfl
  | fail e => rfl
  | ask q next ih => simp [bind, ih]
  | note entry next ih => simp [bind, ih]
  | newCode next ih => simp [bind, ih]

instance : LawfulMonad Dialogue :=
  LawfulMonad.mk' _ bind_done_right (fun _ _ => rfl) bind_bind

/-- Goes on after an outcome, unless that is a failure. -/
def Outcome.andThen {σ : Type} (o : Outcome σ α) (next : α → σ → Nat → Outcome σ β) :
    Outcome σ β :=
  match o.result with
  | .ok a =>
    let p := next a o.state o.drawn
    { p with calls := o.calls ++ p.calls, entries := o.entries ++ p.entries }
  | .error e => { o with result := .error e }

def Outcome.orElse {σ : Type} (o : Outcome σ α) (next : Failure → σ → Nat → Outcome σ α) :
    Outcome σ α :=
  match o.result with
  | .ok _ => o
  | .error e =>
    let p := next e o.state o.drawn
    { p with calls := o.calls ++ p.calls, entries := o.entries ++ p.entries }

/-- Two dialogues in a row are run one after the other. -/
theorem run_bind {σ : Type} (answer : Handler σ) (codes : CodeSource) (d : Dialogue α)
    (f : α → Dialogue β) (s : σ) (n : Nat) :
    (d.bind f).run answer codes s n =
      (d.run answer codes s n).andThen fun a => (f a).run answer codes := by
  induction d generalizing s n with
  | done a => rfl
  | fail e => rfl
  | ask q next ih =>
    simp only [bind, run, ih, Outcome.andThen]
    split <;> rfl
  | note entry next ih =>
    simp only [bind, run, ih, Outcome.andThen]
    split <;> rfl
  | newCode next ih => simp only [bind, run, ih]

/-- What a dialogue has done before it fails is kept when it is rescued. -/
theorem run_rescue {σ : Type} (answer : Handler σ) (codes : CodeSource) (d : Dialogue α)
    (h : Failure → Dialogue α) (s : σ) (n : Nat) :
    (d.rescue h).run answer codes s n =
      (d.run answer codes s n).orElse fun e => (h e).run answer codes := by
  induction d generalizing s n with
  | done a => rfl
  | fail e => rfl
  | ask q next ih =>
    simp only [rescue, run, ih, Outcome.orElse]
    split <;> rfl
  | note entry next ih =>
    simp only [rescue, run, ih, Outcome.orElse]
    split <;> rfl
  | newCode next ih => simp only [rescue, run, ih]

end Dialogue

end AccountRecovery
