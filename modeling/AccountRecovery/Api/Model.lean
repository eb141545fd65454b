import AccountRecovery.Channel.Basic
import AccountRecovery.Form.Field
import AccountRecovery.Record
/-!
# Requests and responses

The bodies of requests and responses: what is read from JSON and what is written to it.
-/

namespace AccountRecovery.Api

open Form Form.Checked

def channelType : Json → Checked ChannelType :=
  oneOf (ChannelType.all.map ChannelType.name) ChannelType.ofName?

def scenario : Json → Checked Scenario :=
  oneOf (Scenario.all.map Scenario.name) Scenario.ofName?

def step : Json → Checked Step :=
  oneOf (Step.all.map Step.name) Step.ofName?

def textMapJson (m : List (String × String)) : Json :=
  .object (m.map fun p => (p.1, .text p.2))

structure InitRequest where
  claims : List (String × String)
  tenantDomain : String := "carbon.super"
  scenario : Scenario := .username
  properties : List (String × String) := []
deriving Repr, DecidableEq

namespace InitRequest

def ofMembers (ms : List (String × Json)) : Checked InitRequest :=
  InitRequest.mk <$> required "claims" (mapOf Form.text) ms
    <*> optional "tenant_domain" "carbon.super" (boundedText 1 none) ms
    <*> optional "scenario" .username Api.scenario ms
    <*> optional "properties" [] (mapOf Form.text) ms

def read (v : Json) : Checked InitRequest :=
  (members "RecoveryInitRequest" v).andThen ofMembers

def toJson (r : InitRequest) : Json :=
  .object
    [("claims", textMapJson r.claims), ("tenant_domain", .text r.tenantDomain),
      ("scenario", .text r.scenario.name), ("properties", textMapJson r.properties)]

end InitRequest

structure ChannelResponse where
  id : Int
  type : ChannelType
  value : String
  preferred : Bool
deriving Repr, DecidableEq

namespace ChannelResponse

def ofMembers (ms : List (String × Json)) : Checked ChannelResponse :=
  ChannelResponse.mk <$> required "id" Form.integer ms
    <*> required "type" channelType ms
    <*> required "value" Form.text ms
    <*> required "preferred" Form.truth ms

def read (v : Json) : Checked ChannelResponse :=
  (members "NotificationChannelResponse" v).andThen ofMembers

def toJson (r : ChannelResponse) : Json :=
  .object
    [("id", .int r.id), ("type", .text r.type.name), ("value", .text r.value),
      ("preferred", .bool r.preferred)]

end ChannelResponse

structure InitResponse where
  username : String
  recoveryCode : String
  channels : List ChannelResponse
deriving Repr, DecidableEq

namespace InitResponse

def ofMembers (ms : List (String × Json)) : Checked InitResponse :=
  InitResponse.mk <$> required "username" Form.text ms
    <*> required "recovery_code" Form.text ms
    <*> required "channels" (listOf ChannelResponse.read) ms

def read (v : Json) : Checked InitResponse :=
  (members "RecoveryInitResponse" v).andThen ofMembers

def toJson (r : InitResponse) : Json :=
  .object
    [("username", .text r.username), ("recovery_code", .text r.recoveryCode),
      ("channels", .array (r.channels.map ChannelResponse.toJson))]

end InitResponse

structure ValidateRequest where
  code : String
  step : Step := .sendInformation
deriving Repr, DecidableEq

namespace ValidateRequest

def ofMembers (ms : List (String × Json)) : Checked ValidateRequest :=
  ValidateRequest.mk <$> required "code" (boundedText 1 (some 64)) ms
    <*> optional "step" .sendInformation Api.step ms

def read (v : Json) : Checked ValidateRequest :=
  (members "RecoveryValidateRequest" v).andThen ofMembers

def toJson (r : ValidateRequest) : Json :=
  .object [("code", .text r.code), ("step", .text r.step.name)]

end ValidateRequest

structure ChannelEntry where
  type : ChannelType
  value : String
deriving Repr, DecidableEq

namespace ChannelEntry

def ofMembers (ms : List (String × Json)) : Checked ChannelEntry :=
  ChannelEntry.mk <$> required "type" channelType ms
    <*> required "value" Form.text ms

def read (v : Json) : Checked ChannelEntry :=
  (members "RecoveryChannelEntry" v).andThen ofMembers

def toJson (r : ChannelEntry) : Json :=
  .object [("type", .text r.type.name), ("value", .text r.value)]

end ChannelEntry

structure ValidateResponse where
  username : String
  tenantDomain : String
  storeDomain : String
  scenario : Scenario
  step : Step
  channels : List ChannelEntry
deriving Repr, DecidableEq

namespace ValidateResponse

def ofMembers (ms : List (String × Json)) : Checked ValidateResponse :=
  ValidateResponse.mk <$> required "username" Form.text ms
    <*> required "tenant_domain" Form.text ms
    <*> required "user_store_domain" Form.text ms
    <*> required "scenario" Api.scenario ms
    <*> required "step" Api.step ms
    <*> required "channels" (listOf ChannelEntry.read) ms

def read (v : Json) : Checked ValidateResponse :=
  (members "RecoveryValidateResponse" v).andThen ofMembers

def toJson (r : ValidateResponse) : Json :=
  .object
    [("username", .text r.username), ("tenant_domain", .text r.tenantDomain),
      ("user_store_domain", .text r.storeDomain), ("scenario", .text r.scenario.name),
      ("step", .text r.step.name), ("channels", .array (r.channels.map ChannelEntry.toJson))]

end ValidateResponse

/-- What a caller is told of a failed recovery. -/
structure ErrorDetail where
  code : String
  message : String
deriving Repr, DecidableEq

namespace ErrorDetail

def ofMembers (ms : List (String × Json)) : Checked ErrorDetail :=
  ErrorDetail.mk <$> required "code" Form.text ms
    <*> required "message" Form.text ms

def read (v : Json) : Checked ErrorDetail :=
  (members "ErrorDetail" v).andThen ofMembers

def toJson (r : ErrorDetail) : Json :=
  .object [("code", .text r.code), ("message", .text r.message)]

end ErrorDetail

structure ErrorResponse where
  detail : ErrorDetail
deriving Repr, DecidableEq

namespace ErrorResponse

def read (v : Json) : Checked ErrorResponse :=
  (members "ErrorResponse" v).andThen fun ms =>
    ErrorResponse.mk <$> required "detail" ErrorDetail.read ms

def toJson (r : ErrorResponse) : Json :=
  .object [("detail", r.detail.toJson)]

end ErrorResponse

end AccountRecovery.Api
