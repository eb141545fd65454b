import AccountRecovery.Dialogue
/-!
# Planned answers

Collaborators that answer some questions as planned, for rehearsing a recovery against failures.  A
question takes the first plan that applies to it; all others go to the collaborators behind.
-/

namespace AccountRecovery

structure PlannedAnswer where
  applies : Call → Bool
  answer : (q : Call) → q.Answer
  /-- How often the plan may still be used; without a number, always. -/
  uses : Option Nat := none

namespace PlannedAnswer

/-- The answer of the first plan that applies, and the plans after its use. -/
def take? (q : Call) : List PlannedAnswer → Option (q.Answer × List PlannedAnswer)
  | [] => none
  | p :: ps =>
    if p.applies q && p.uses != some 0 then
      some (p.answer q, { p with uses := p.uses.map (· - 1) } :: ps)
    else
      (take? q ps).map fun r => (r.1, p :: r.2)

def orElse {σ : Type} (answer : Dialogue.Handler σ) :
    Dialogue.Handler (List PlannedAnswer × σ)
  | q, (plans, s) =>
    match take? q plans with
    | some (r, plans) => (r, plans, s)
    | none =>
      let r := answer q s
      (r.1, plans, r.2)

end PlannedAnswer

end AccountRecovery
