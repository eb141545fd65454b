import AccountRecovery.Channel.Selection
import AccountRecovery.Dialogue
/-!
# Issuing recovery codes

A new code supersedes all earlier codes of the account: those are invalidated before the record of
the new code is stored.
-/

namespace AccountRecovery.Recovery

open Dialogue

def issue (username tenantDomain : String) (channels : List Channel) (scenario : Scenario) :
    Dialogue Record := do
  let code ← Dialogue.code
  let record : Record :=
    ⟨.ofRawName username tenantDomain, code, scenario, .sendInformation,
      Selection.serialize channels, none⟩
  rescue
    (do
      call (.invalidate record.account)
      call (.store record))
    fun e =>
      match e with
      | .collaborator (.store e) => do
        log .error .recovery
          ("Error storing recovery data for scenario " ++ scenario.name ++ ": " ++ e.message)
        fail (.recovery ⟨.recordStore, none, RecoveryFault.recordStore.code, some (.store e)⟩)
      | e => fail e
  log .info .recovery
    ("Recovery code issued for scenario " ++ scenario.name ++ " with " ++
      toString channels.length ++ " channel(s)")
  return record

end AccountRecovery.Recovery
