import AccountRecovery.Database.Statement
/-!
# Connection pools

A pool lends connections, on which statements are executed.  What happens to it is kept as a list of
events.  A pool is given by what the database will answer: the rows that queries yield one after the
other, and the events that fail.
-/

namespace AccountRecovery.Database

inductive EventName where
  | pool
  | connection
  | execute
  | fetchOne
  | commit
  | exit
  | close
deriving Repr, DecidableEq

inductive Event where
  | pool (address : String) (minSize maxSize : Int)
  | connection
  | execute (statement : Statement) (params : Option (List Cell))
  | fetchOne
  | commit
  /-- A connection is left, normally or by a failure. -/
  | exit (why : Option Failure)
  | close
deriving Repr, DecidableEq

def Event.name : Event → EventName
  | pool .. => .pool
  | connection => .connection
  | execute .. => .execute
  | fetchOne => .fetchOne
  | commit => .commit
  | exit _ => .exit
  | close => .close

structure Pool where
  /-- What queries will yield. -/
  rows : List (Option Row) := []
  /-- How the event of a name with a number, counted from one, fails. -/
  faults : EventName → Nat → Option Failure := fun _ _ => none
  events : List Event := []

def Pool.count (p : Pool) (name : EventName) : Nat :=
  p.events.countP fun e => e.name = name

abbrev Session := ExceptT Failure (StateM Pool)

namespace Session

variable {α : Type}

def happen (e : Event) : Session Unit := do
  modify fun p => { p with events := p.events ++ [e] }
  let p ← get
  match p.faults e.name (p.count e.name) with
  | some f => throw f
  | none => return

def execute (s : Statement) (params : Option (List Cell)) : Session Unit :=
  happen (.execute s params)

def commit : Session Unit :=
  happen .commit

def fetchOne : Session (Option Row) := do
  happen .fetchOne
  let p ← get
  match p.rows with
  | [] => return none
  | row :: rows =>
    set { p with rows }
    return row

/-- Works on a connection, which is left in any case. -/
def withConnection (body : Session α) : Session α := do
  happen .connection
  let result : Except Failure α ← (body.run : StateM Pool (Except Failure α))
  match result with
  | .ok a =>
    happen (.exit none)
    return a
  | .error e =>
    happen (.exit (some e))
    throw e

end Session

end AccountRecovery.Database
