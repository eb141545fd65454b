import AccountRecovery.Api.Application
/-!
# Answering requests

A request is routed by its path and its method.  Its body is decoded, then the tools of the service
are prepared, and only then the body is read as a form.
-/

namespace AccountRecovery.Api

inductive Payload where
  | json (v : Json)
  | raw (text : String)

structure Request where
  method : String
  path : String
  payload : Payload

/-- What comes of a request: the response, the application after it, and what is logged. -/
structure Reply where
  response : Response
  app : Application
  entries : List Log.Entry

namespace Application

open Form

/-- The value that a body holds, if it holds one. -/
def decode : Payload → Except Json.Error (Option Json)
  | .json .null => .ok none
  | .json v => .ok (some v)
  | .raw text =>
    if text.isEmpty then
      .ok none
    else
      match Json.parseMessage text with
      | .ok .null => .ok none
      | .ok v => .ok (some v)
      | .error e => .error e

def readBody {α : Type} (ofMembers : List (String × Json) → Checked α) (v : Option Json) :
    Checked α :=
  Checked.under (.name "body")
    (match v with
    | none => Checked.fault .missing .null
    | some (.object ms) => ofMembers ms
    | some v => Checked.fault .notRequest v)

/-- Answers a request with a form in its body. -/
def answerForm {α : Type} (app : Application) (ofMembers : List (String × Json) → Checked α)
    (payload : Payload) (answer : Application → Tools → α → Reply) : Reply :=
  match decode payload with
  | .error e =>
    ⟨.invalidBody [⟨.notJson, [.name "body", .index e.position], .null⟩], app, []⟩
  | .ok v =>
    match app.prepare with
    | (.error _, app, entries) => ⟨.crashed, app, entries⟩
    | (.ok tools, app, entries) =>
      match readBody ofMembers v with
      | .invalid issues => ⟨.invalidBody issues, app, entries⟩
      | .valid a =>
        let r := answer app tools a
        { r with entries := entries ++ r.entries }

def answerInit (now : Instant) (app : Application) (t : Tools) (r : InitRequest) : Reply :=
  match app.converse now t
      (t.service.resolveRecovery r.claims r.tenantDomain r.scenario r.properties) with
  | (.error e, app, entries) =>
    let (response, more) := Response.ofFailure e
    ⟨response, app, entries ++ more⟩
  | (.ok info, app, entries) =>
    let channels :=
      info.channels.map fun c => ChannelResponse.mk c.id c.type c.value c.preferred
    ⟨⟨200, .json (InitResponse.toJson ⟨info.username, info.code, channels⟩)⟩, app, entries⟩

def maskedEntries (m : Masker) (entries : List SelectionEntry) : List ChannelEntry :=
  entries.map fun e => ⟨e.type, m.mask e.type e.value⟩

def answerValidate (now : Instant) (app : Application) (t : Tools) (r : ValidateRequest) : Reply :=
  match app.converse now t (t.service.validateCode r.code r.step) with
  | (.error e, app, entries) =>
    let (response, more) := Response.ofFailure e
    ⟨response, app, entries ++ more⟩
  | (.ok record, app, entries) =>
    let selection := Selection.parse record.selection
    let body : ValidateResponse :=
      ⟨record.account.username, record.account.tenantDomain, record.account.storeDomain,
        record.scenario, record.step, maskedEntries t.service.masker selection.entries⟩
    ⟨⟨200, .json body.toJson⟩, app, entries ++ selection.warnings⟩

def answerHealth (app : Application) : Reply :=
  match (Database.probe).run app.pool with
  | (.ok _, pool) =>
    ⟨⟨200, .json (.object [("status", .text "healthy")])⟩, { app with pool }, []⟩
  | (.error _, pool) => ⟨.crashed, { app with pool }, []⟩

inductive Route where
  | init
  | validate
  | health
deriving Repr, DecidableEq

def Route.ofPath? (path : String) : Option Route :=
  [("/v1/recovery/init", .init), ("/v1/recovery/validate", .validate),
    ("/health", .health)].lookup path

def Route.method : Route → String
  | init => "POST"
  | validate => "POST"
  | health => "GET"

/-- The path without what follows a question mark or a number sign. -/
def barePath (path : String) : String :=
  String.ofList (path.toList.takeWhile fun c => c != '?' && c != '#')

/-- The path with a slash at its end, or without those that are there. -/
def slashVariant (path : String) : String :=
  let cs := path.toList
  if cs.getLast? = some '/' then String.ofList (cs.reverse.dropWhile (· == '/')).reverse
  else path ++ "/"

def handle (app : Application) (now : Instant) (r : Request) : Reply :=
  let path := barePath r.path
  match Route.ofPath? path with
  | none =>
    if path ≠ "/" ∧ (Route.ofPath? (slashVariant path)).isSome then ⟨⟨307, .text ""⟩, app, []⟩
    else ⟨.notFound, app, []⟩
  | some route =>
    if r.method ≠ route.method then
      ⟨.methodNotAllowed, app, []⟩
    else
      match route with
      | .init => app.answerForm InitRequest.ofMembers r.payload (answerInit now)
      | .validate => app.answerForm ValidateRequest.ofMembers r.payload (answerValidate now)
      | .health => app.answerHealth

/-! ## The life of an application -/

def serve (app : Application) (requests : List (Instant × Request)) : Application :=
  requests.foldl (fun app r => (app.handle r.1 r.2).app) app

/-- What has become of a pool at the end of the life of an application that starts over it, answers
requests and is stopped.  One that does not start is not stopped either. -/
def live (s : Surroundings) (pool : Database.Pool) (requests : List (Instant × Request)) :
    Database.Pool :=
  let started := start s pool
  match started.result with
  | .error _ => started.pool
  | .ok app => (app.serve requests).stop.2

end Application

end AccountRecovery.Api
