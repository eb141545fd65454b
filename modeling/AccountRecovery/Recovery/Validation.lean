import AccountRecovery.Dialogue
/-!
# Validating recovery codes

A code is valid at the step that its record names.  At any other step it is refused like a code that
does not exist.
-/

namespace AccountRecovery.Recovery

open Dialogue

/-- The record of a code, with failures of the store told as failures of the recovery. -/
def loadRecord (code : String) : Dialogue (Option Record) :=
  rescue (call (.load code)) fun e =>
    match e with
    | .collaborator (.store e) =>
      match e.fault with
      | .unknownCode =>
        fail (.recovery ⟨.invalidCode, none, RecoveryFault.invalidCode.code, some (.store e)⟩)
      | .expiredCode =>
        fail (.recovery ⟨.expiredCode, none, RecoveryFault.expiredCode.code, some (.store e)⟩)
      | .general => do
        log .error .recovery ("Error loading recovery data: " ++ e.message)
        fail (.recovery
          ⟨.storeFailure, some e.message, qualifyCode e.code recoveryScenario, some (.store e)⟩)
    | e => fail e

def validate (code : String) (expected : Step) : Dialogue Record := do
  match ← loadRecord code with
  | none => refuse .noRecoveryData none
  | some record =>
    if record.step = expected then
      return record
    else
      log .debug .recovery
        ("Recovery step mismatch: expected " ++ expected.name ++ ", stored " ++ record.step.name)
      refuse .invalidCode none

end AccountRecovery.Recovery
