import AccountRecovery.Channel.Masking
import AccountRecovery.Recovery.Clearance
import AccountRecovery.Recovery.Issue
import AccountRecovery.Recovery.Lookup
import AccountRecovery.Recovery.Offer
import AccountRecovery.Recovery.Validation
/-!
# The recovery service

A recovery goes through five stages: the user is found, the account is cleared, channels are
offered, a code is issued, and the answer is masked.
-/

namespace AccountRecovery

structure Service where
  selector : Selector := {}
  masker : Masker
  /-- Whether notifications are sent by this service unless a request says otherwise. -/
  managedInternally : Bool := true
deriving Repr, DecidableEq

structure RecoveryInfo where
  username : String
  code : String
  channels : List ChannelInfo
deriving Repr, DecidableEq

namespace Service

open Recovery

def resolveRecovery (s : Service) (claims : Claims) (tenantDomain : String) (scenario : Scenario)
    (properties : List (String × String)) : Dialogue RecoveryInfo := do
  let username ← resolveUser claims tenantDomain
  clear (.ofRawName username tenantDomain)
  let managed := isManagedInternally properties s.managedInternally
  let channels ← selectChannels s.selector username tenantDomain managed
  let record ← issue username tenantDomain channels scenario
  return ⟨username, record.code, channelInfos s.masker 1 channels⟩

def validateCode (_ : Service) (code : String) (expected : Step) : Dialogue Record :=
  validate code expected

end Service

end AccountRecovery
