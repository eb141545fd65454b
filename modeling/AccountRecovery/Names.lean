import AccountRecovery.Channel.Basic
import AccountRecovery.Failure
import AccountRecovery.Record
/-!
# Reading names

Channel types, scenarios and steps by their names; any other name is a failure that tells it.
-/

namespace AccountRecovery

def knownName {α : Type} (kind : NameKind) (name : String) : Option α → Except Failure α
  | some a => .ok a
  | none => .error (.value (.unknownName kind name))

def ChannelType.read (name : String) : Except Failure ChannelType :=
  knownName .channelType name (ofName? name)

def Scenario.read (name : String) : Except Failure Scenario :=
  knownName .scenario name (ofName? name)

def Step.read (name : String) : Except Failure Step :=
  knownName .step name (ofName? name)

end AccountRecovery
