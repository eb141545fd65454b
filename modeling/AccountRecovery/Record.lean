import AccountRecovery.Account
/-!
# Recovery records

A recovery code stands for a record: the account, why its recovery was asked for, at which step the
code is valid, and the selection of channels in its stored form.
-/

namespace AccountRecovery

/-- Why a recovery was asked for. -/
inductive Scenario where
  | username
  | passwordByNotification
  | passwordByQuestion
deriving Repr, DecidableEq

namespace Scenario

def name : Scenario → String
  | username => "USERNAME_RECOVERY"
  | passwordByNotification => "NOTIFICATION_BASED_PW_RECOVERY"
  | passwordByQuestion => "QUESTION_BASED_PWD_RECOVERY"

def all : List Scenario := [username, passwordByNotification, passwordByQuestion]

def ofName? (s : String) : Option Scenario :=
  all.find? (·.name = s)

end Scenario

inductive Step where
  | sendInformation
  | resendConfirmation
  | updatePassword
  | answerQuestion
deriving Repr, DecidableEq

namespace Step

def name : Step → String
  | sendInformation => "SEND_RECOVERY_INFORMATION"
  | resendConfirmation => "RESEND_CONFIRMATION_CODE"
  | updatePassword => "UPDATE_PASSWORD"
  | answerQuestion => "VALIDATE_CHALLENGE_QUESTION"

def all : List Step := [sendInformation, resendConfirmation, updatePassword, answerQuestion]

def ofName? (s : String) : Option Step :=
  all.find? (·.name = s)

end Step

/-- A point in time in microseconds. -/
abbrev Instant := Int

structure Record where
  account : Account
  code : String
  scenario : Scenario
  step : Step
  /-- The stored form of the selected channels. -/
  selection : String := ""
  /-- Set by the store. -/
  createdAt : Option Instant := none
deriving Repr, DecidableEq

end AccountRecovery
