/-!
# Notification channels

The kinds of channels over which a user can be told how to recover an account, and the channels
that are offered for one account.
-/

namespace AccountRecovery

inductive ChannelType where
  | email
  | sms
  /-- Notifications are sent by a system outside of this service. -/
  | external
deriving Repr, DecidableEq

namespace ChannelType

def name : ChannelType → String
  | email => "EMAIL"
  | sms => "SMS"
  | external => "EXTERNAL"

def all : List ChannelType := [email, sms, external]

def ofName? (s : String) : Option ChannelType :=
  all.find? (·.name = s)

end ChannelType

structure Channel where
  type : ChannelType
  value : String := ""
  verified : Bool := false
  preferred : Bool := false
deriving Repr, DecidableEq

end AccountRecovery
