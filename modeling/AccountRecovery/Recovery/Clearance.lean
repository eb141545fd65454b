import AccountRecovery.Dialogue
/-!
# Clearing an account

An account that is disabled or locked is not recovered.  Only an account that is not disabled is
asked for its lock.
-/

namespace AccountRecovery.Recovery

open Dialogue

/-- Whether the account is disabled, and whether it is locked. -/
def statusOf (a : Account) : Dialogue (Bool × Bool) :=
  rescue
    (do
      if ← call (.isDisabled a) then
        return (true, false)
      else
        return (false, ← call (.isLocked a)))
    fun e =>
      match e with
      | .collaborator (.accountStatus m) => do
        log .debug .accounts ("Status check failed for user in " ++ a.tenantDomain)
        fail (.recovery
          ⟨.statusCheck, some a.username, RecoveryFault.statusCheck.code, some (.accountStatus m)⟩)
      | e => fail e

def clear (a : Account) : Dialogue Unit := do
  match ← statusOf a with
  | (true, _) => refuse .accountDisabled (some a.username)
  | (false, true) => refuse .accountLocked (some a.username)
  | (false, false) => return

end AccountRecovery.Recovery
