import AccountRecovery.Api.Model
import AccountRecovery.Failure
import AccountRecovery.Log
/-!
# Responses

What callers are answered.  Errors that a caller can mend are told with their code and message; all
others are logged and told alike.
-/

namespace AccountRecovery.Api

inductive Body where
  | json (v : Json)
  | text (s : String)
deriving Repr

structure Response where
  status : Nat
  body : Body
deriving Repr

namespace Response

def detail (status : Nat) (text : String) : Response :=
  ⟨status, .json (.object [("detail", .text text)])⟩

def notFound : Response :=
  detail 404 "Not Found"

def methodNotAllowed : Response :=
  detail 405 "Method Not Allowed"

/-- The response if something fails that is not part of the service. -/
def crashed : Response :=
  ⟨500, .text "Internal Server Error"⟩

def keyJson : Form.Key → Json
  | .name s => .text s
  | .index n => .int n

def issueJson (i : Form.Issue) : Json :=
  .object
    [("type", .text i.complaint.code), ("loc", .array (i.place.map keyJson)),
      ("msg", .text i.complaint.message)]

/-- The response to a body that is not as it should be.  Values at fault are sent back, which fails
for numbers that are not finite. -/
def invalidBody (issues : List Form.Issue) : Response :=
  if issues.any fun i => i.input.hasNonFinite then
    crashed
  else
    ⟨422, .json (.object [("detail", .array (issues.map issueJson))])⟩

def clientStatus : RecoveryFault → Nat
  | .noUser => 404
  | .noRecoveryData => 404
  | .multipleUsers => 409
  | .expiredCode => 410
  | _ => 400

def ofError (e : RecoveryError) : Response :=
  if e.fault.side = .client then
    ⟨clientStatus e.fault, .json (ErrorResponse.toJson ⟨⟨e.code, e.message⟩⟩)⟩
  else
    ⟨500, .json
      (ErrorResponse.toJson ⟨⟨RecoveryFault.general.code, "Internal server error"⟩⟩)⟩

def logOf (e : RecoveryError) : Log.Entry :=
  if e.fault.side = .client then
    ⟨.warning, .routes, "Recovery request rejected: " ++ e.code⟩
  else
    ⟨.error, .routes, "Recovery request failed: " ++ e.text⟩

def ofFailure : Failure → Response × List Log.Entry
  | .recovery e => (ofError e, [logOf e])
  | _ => (crashed, [])

end Response

end AccountRecovery.Api
