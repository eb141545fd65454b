import AccountRecovery.Dialogue
/-!
# Finding the user

The user is the only one who matches every claim.  Each usable claim is looked up on its own and the
results are intersected.  The search stops at the first claim that matches nobody or leaves nobody.
-/

namespace AccountRecovery.Recovery

open Dialogue

abbrev Claims := List (String × String)

/-- The value as the directory is asked for it.  A value with a separator is a literal one, marked
by a further separator in front, unless it starts with the name of a secondary store. -/
def lookupValue (tenantId : Int) (value : String) : Dialogue String := do
  if value.toList.contains Account.separator then
    let known ← call (.secondaryStoreExists tenantId (Account.storeOf value))
    return if known then value else String.ofList (Account.separator :: value.toList)
  else
    return value

def matchingUsers (tenantId : Int) (key value : String) : Dialogue (List String) :=
  rescue (do call (.findUsers tenantId key (← lookupValue tenantId value))) fun e =>
    match e with
    | .collaborator (.directory m) => do
      log .debug .claims
        ("Unable to retrieve the claim: " ++ key ++ " for tenant: " ++ toString tenantId)
      fail (.recovery
        ⟨.claimLookup, some key, RecoveryFault.claimLookup.code, some (.directory m)⟩)
    | e => fail e

def isUsable (claim : String × String) : Bool :=
  !claim.1.isEmpty && !claim.2.isEmpty

/-- The candidates that are left after the users who match a further claim are known.  There are no
candidates in front of the first claim. -/
def narrow (candidates : Option (List String)) (matched : List String) : List String :=
  match candidates with
  | none => matched.eraseDups
  | some us => us.filter matched.contains

/-- The users who match all usable claims, or nothing if no claim is usable. -/
def candidatesFor (tenantId : Int) :
    Option (List String) → Claims → Dialogue (Option (List String))
  | candidates, [] => return candidates
  | candidates, claim :: claims =>
    if isUsable claim then do
      let (key, value) := claim
      log .debug .claims ("Searching users by claim: " ++ key)
      let matched ← matchingUsers tenantId key value
      if matched.isEmpty then
        log .debug .claims ("No users matched for claim: " ++ key)
        refuse .noUser none
      else
        let left := narrow candidates matched
        if left.isEmpty then
          log .debug .claims
            ("No common users for claim: " ++ key ++ " with the previously filtered users")
          refuse .noUser none
        else
          log .debug .claims
            (toString left.length ++ " candidate(s) remaining after claim: " ++ key)
          candidatesFor tenantId (some left) claims
    else
      candidatesFor tenantId candidates claims

def resolveUser (claims : Claims) (tenantDomain : String) : Dialogue String := do
  if claims.isEmpty then
    refuse .noClaims none
  else
    let tenantId ← call (.tenantId tenantDomain)
    match ← candidatesFor tenantId none claims with
    | some [user] => return user
    | some (u :: us) =>
      log .debug .claims
        ("Multiple users matched for the given claims: " ++ toString (u :: us).length)
      refuse .multipleUsers none
    | _ => refuse .noUser none

end AccountRecovery.Recovery
