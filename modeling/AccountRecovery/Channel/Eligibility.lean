import AccountRecovery.Channel.Basic
import AccountRecovery.Dialogue
import AccountRecovery.Text.Blank
import AccountRecovery.Text.Split
/-!
# Eligible channels

Claims of a user tell over which channels the user can be reached.  A channel needs a value.  For a
user who signed up without an administrator the channel must be verified too.
-/

namespace AccountRecovery

/-- A supported channel and the claims that hold its value and whether that is verified. -/
structure ChannelDefinition where
  type : ChannelType
  valueClaim : String
  verifiedClaim : String
deriving Repr, DecidableEq

/-- Whether a text says yes: it is "true" in any case, with blanks around it or not. -/
def isAffirmative (value : Option String) : Bool :=
  match value with
  | some v => Text.lower (Text.strip v) == "true"
  | none => false

structure Selector where
  channels : List ChannelDefinition :=
    [⟨.email, "urn:identity:claims:emailaddress", "urn:identity:claims:identity:emailVerified"⟩,
     ⟨.sms, "urn:identity:claims:mobile", "urn:identity:claims:identity:phoneVerified"⟩]
  preferredChannelClaim : String := "urn:identity:claims:identity:preferredChannel"
  rolesClaim : String := "urn:identity:claims:roles"
  selfSignupRole : String := "Internal/selfsignup"
  roleSeparator : String := ","
deriving Repr, DecidableEq

namespace Selector

/-- The claims that the rules look at, in the order in which they are asked for. -/
def requiredClaims (s : Selector) : List String :=
  (s.channels.flatMap fun d => [d.valueClaim, d.verifiedClaim]) ++
    [s.preferredChannelClaim, s.rolesClaim]

/-- Whether the roles say that the user signed up without an administrator. -/
def isSelfRegistered (s : Selector) (roles : Option String) : Except Failure Bool :=
  match roles with
  | none => .ok false
  | some rs =>
    if rs.isEmpty then
      .ok false
    else if s.roleSeparator.isEmpty then
      .error (.value .emptySeparator)
    else
      .ok ((Text.splitOn s.roleSeparator rs).any fun r => Text.strip r == s.selfSignupRole)

def claimText (values : ClaimValues) (key : String) : Option String :=
  (values.lookup key).join

/-- The channel of a definition, if the claims make it eligible. -/
def channelOf? (s : Selector) (values : ClaimValues) (selfRegistered : Bool)
    (d : ChannelDefinition) : Option Channel :=
  let value := (claimText values d.valueClaim).getD ""
  let verified := isAffirmative (claimText values d.verifiedClaim)
  let preference := (claimText values s.preferredChannelClaim).getD ""
  if value.isEmpty || (selfRegistered && !verified) then
    none
  else
    some ⟨d.type, value, verified, !preference.isEmpty && d.type.name == preference⟩

def eligible (s : Selector) (values : ClaimValues) (selfRegistered : Bool) : List Channel :=
  s.channels.filterMap (s.channelOf? values selfRegistered)

end Selector

end AccountRecovery
