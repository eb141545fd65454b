import AccountRecovery.Channel.Eligibility
/-!
# Offering channels

The channels that a user may be recovered through.  If notifications are sent by a system outside of
this service there is a single placeholder and the directory is not asked.
-/

namespace AccountRecovery.Recovery

open Dialogue

/-- The request property that says who sends notifications. -/
def managedProperty : String := "manageNotificationsInternally"

/-- Whether notifications are sent by this service: as the request says, or else by default. -/
def isManagedInternally (properties : List (String × String)) (default : Bool) : Bool :=
  match properties.lookup managedProperty with
  | some v => isAffirmative (some v)
  | none => default

def channelClaims (s : Selector) (username tenantDomain : String) : Dialogue ClaimValues := do
  let tenantId ← call (.tenantId tenantDomain)
  rescue (call (.claimValues tenantId username s.requiredClaims)) fun e =>
    match e with
    | .collaborator (.directory m) => do
      log .debug .channels ("Error getting channel claims of user in tenant: " ++ tenantDomain)
      fail (.recovery
        ⟨.claimsLoad, some tenantDomain, RecoveryFault.claimsLoad.code, some (.directory m)⟩)
    | e => fail e

def selectChannels (s : Selector) (username tenantDomain : String) (managed : Bool) :
    Dialogue (List Channel) := do
  if managed then
    let values ← channelClaims s username tenantDomain
    if values.isEmpty then
      refuse .noChannels none
    else
      let selfRegistered ← ofExcept (s.isSelfRegistered (Selector.claimText values s.rolesClaim))
      let channels := s.eligible values selfRegistered
      log .debug .channels
        (toString channels.length ++ " eligible channel(s), self registered: " ++
          (if selfRegistered then "True" else "False"))
      if channels.isEmpty then
        refuse .noVerifiedChannels none
      else
        return channels
  else
    return [⟨.external, "", false, false⟩]

end AccountRecovery.Recovery
