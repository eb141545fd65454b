import AccountRecovery.Pattern.Reader
import AccountRecovery.Text.Quoted
/-!
# Failures

What can go wrong, layer by layer: the database and its pool, the collaborators of the service
(directory, status provider, record store), and the service itself.  An error of the service has a
code for callers and keeps the collaborator's failure that caused it.
-/

namespace AccountRecovery

inductive DatabaseFault where
  | operational
  | uniqueViolation
  | poolTimeout
deriving Repr, DecidableEq

structure DatabaseError where
  fault : DatabaseFault
  message : String
deriving Repr, DecidableEq

inductive StoreFault where
  | general
  /-- The code was never issued, or it is no longer bound to a record. -/
  | unknownCode
  | expiredCode
deriving Repr, DecidableEq

/-- The code that a store error carries unless it is given another one. -/
def StoreFault.code : StoreFault → String
  | general => "18000"
  | unknownCode => "18001"
  | expiredCode => "18002"

structure StoreError where
  fault : StoreFault
  message : String
  code : String := fault.code
  cause : Option DatabaseError := none
deriving Repr, DecidableEq

inductive CollaboratorError where
  | directory (message : String)
  | accountStatus (message : String)
  | store (e : StoreError)
deriving Repr, DecidableEq

namespace CollaboratorError

def message : CollaboratorError → String
  | directory m => m
  | accountStatus m => m
  | store e => e.message

end CollaboratorError

/-- Who can mend a failed recovery. -/
inductive Side where
  | client
  | server
  | unknown
deriving Repr, DecidableEq

inductive RecoveryFault where
  | general
  | generalClient
  | generalServer
  | noClaims
  | noUser
  | multipleUsers
  | accountDisabled
  | accountLocked
  | noChannels
  | noVerifiedChannels
  | invalidCode
  | expiredCode
  | noRecoveryData
  | invalidTenant
  | claimLookup
  | claimsLoad
  | statusCheck
  | recordStore
  | storeFailure
deriving Repr, DecidableEq

def recoveryScenario : String := "UAR"

/-- The code with the scenario in front, which is not repeated. -/
def qualifyCode (code scenario : String) : String :=
  let front := scenario ++ "-"
  if front.toList.isPrefixOf code.toList then code else front ++ code

namespace RecoveryFault

def number : RecoveryFault → String
  | general => "65000"
  | generalClient => "65000"
  | generalServer => "65000"
  | noClaims => "10001"
  | noUser => "10002"
  | multipleUsers => "10003"
  | accountDisabled => "10004"
  | accountLocked => "10005"
  | noChannels => "10006"
  | noVerifiedChannels => "10007"
  | invalidCode => "10008"
  | expiredCode => "10009"
  | noRecoveryData => "10010"
  | invalidTenant => "10011"
  | claimLookup => "15001"
  | claimsLoad => "15002"
  | statusCheck => "15003"
  | recordStore => "15004"
  | storeFailure => "65000"

def code (f : RecoveryFault) : String :=
  qualifyCode f.number recoveryScenario

def message : RecoveryFault → String
  | general => "Unexpected error during account recovery"
  | generalClient => "Unexpected error during account recovery"
  | generalServer => "Unexpected error during account recovery"
  | noClaims => "No fields found for user recovery"
  | noUser => "No user found for the given claims"
  | multipleUsers => "Multiple users matched for the given claims"
  | accountDisabled => "Account is disabled"
  | accountLocked => "Account is locked"
  | noChannels => "No notification channels configured for the user"
  | noVerifiedChannels => "No verified notification channels available for the user"
  | invalidCode => "Invalid recovery code"
  | expiredCode => "Expired recovery code"
  | noRecoveryData => "No account recovery data found for the recovery code"
  | invalidTenant => "Invalid tenant domain"
  | claimLookup => "Error retrieving users for claim"
  | claimsLoad => "Error loading user claims"
  | statusCheck => "Error checking account status"
  | recordStore => "Error storing recovery data"
  | storeFailure => "Error loading recovery data"

def side : RecoveryFault → Side
  | general => .unknown
  | generalServer => .server
  | claimLookup => .server
  | claimsLoad => .server
  | statusCheck => .server
  | recordStore => .server
  | storeFailure => .server
  | _ => .client

end RecoveryFault

structure RecoveryError where
  fault : RecoveryFault
  detail : Option String := none
  code : String := fault.code
  cause : Option CollaboratorError := none
deriving Repr, DecidableEq

namespace RecoveryError

def message (e : RecoveryError) : String :=
  e.fault.message

def text (e : RecoveryError) : String :=
  match e.detail with
  | none => e.code ++ " - " ++ e.message
  | some d =>
    if d.isEmpty then e.code ++ " - " ++ e.message
    else e.code ++ " - " ++ e.message ++ ": " ++ d

end RecoveryError

inductive NameKind where
  | channelType
  | scenario
  | step
deriving Repr, DecidableEq

def NameKind.title : NameKind → String
  | channelType => "ChannelType"
  | scenario => "RecoveryScenario"
  | step => "RecoveryStep"

/-- A value that is of the right type and yet of no use. -/
inductive ValueFault where
  | emptySeparator
  | maskingCharacter
  | unknownName (kind : NameKind) (name : String)
  | notAnInteger (text : String)
  /-- An entry of a list of pairs that has not two parts. -/
  | notAPair (index length : Nat)
  | conflictingAlphabets
deriving Repr, DecidableEq

def ValueFault.message : ValueFault → String
  | emptySeparator => "empty separator"
  | maskingCharacter => "masking_character must be a single character"
  | unknownName kind name => Text.quoted name ++ " is not a valid " ++ kind.title
  | notAnInteger text => "invalid literal for int() with base 10: " ++ Text.quoted text
  | notAPair index length =>
    "dictionary update sequence element #" ++ toString index ++ " has length " ++ toString length ++
      "; 2 is required"
  | conflictingAlphabets => "ASCII and UNICODE flags are incompatible"

inductive Failure where
  | recovery (e : RecoveryError)
  | collaborator (e : CollaboratorError)
  | database (e : DatabaseError)
  | general (message : String)
  /-- A schema change, named by its file, that could not be made. -/
  | migration (file : String) (cause : Failure)
  | value (f : ValueFault)
  | malformedPattern
  /-- A number beyond what the program can handle. -/
  | tooLarge
  /-- A value of the wrong type. -/
  | wrongType
  /-- A value that lacks what is asked of it. -/
  | noSuchPart
  | malformedJson
  | noSuchFile
deriving Repr, DecidableEq

namespace Failure

def directory (message : String) : Failure :=
  .collaborator (.directory message)

def accountStatus (message : String) : Failure :=
  .collaborator (.accountStatus message)

def store (e : StoreError) : Failure :=
  .collaborator (.store e)

def text : Failure → String
  | recovery e => e.text
  | collaborator e => e.message
  | database e => e.message
  | general m => m
  | migration file _ => "Database migration failed: " ++ file
  | value f => f.message
  | _ => ""

def ofRejection : Pattern.Rejection → Failure
  | .malformed => .malformedPattern
  | .countTooLarge => .tooLarge
  | .conflictingAlphabets => .value .conflictingAlphabets

end Failure

end AccountRecovery
