import ConformanceSuite.Discovery.FieldRules
import ConformanceSuite.Discovery.Validation
import ConformanceSuite.Redirect.Audit
import ConformanceSuite.Redirect.Validator

/-!
# The interface of the server

Clients post redirects and discovery documents. Every route answers in JSON, and every redirect that
reaches its route leaves one event in the audit. A body above the limit does not reach a route.
-/

namespace ConformanceSuite.Api

open Redirect

/-- An answer to a request. -/
structure Reply where
  status : UInt16
  contentType : Option String
  allow : Option String
  body : String
  deriving DecidableEq

namespace Reply

/-- The content type of every answer of a route. -/
def jsonContentType : String := "application/json; charset=UTF-8"

/-- An answer in JSON. -/
def json (status : UInt16) (value : Json) : Reply :=
  ⟨status, some jsonContentType, none, value.render⟩

/-- An answer that names an error. -/
def error (status : UInt16) (message : String) : Reply :=
  json status (.object [("error", .string message)])

/-- The answer where there is no route. -/
def notFound : Reply := ⟨404, none, none, ""⟩

/-- The answer to a method that the route does not take. -/
def methodNotAllowed : Reply := ⟨405, none, some "POST", ""⟩

/-- The answer to a body above the limit. -/
def tooLarge : Reply :=
  ⟨413, some "text/plain; charset=utf-8", none,
    "Failed to buffer the request body: length limit exceeded"⟩

end Reply

/-- What the routes act upon: the stores of redirects, and the audit so far. -/
structure State where
  stores : Stores
  audit : List AuditEvent
  deriving DecidableEq

/-- Add an event to the audit. -/
def State.record (s : State) (e : AuditEvent) : State := { s with audit := s.audit ++ [e] }

/-! ### Redirects -/

/-- The kind of an error, as the audit names it. -/
def errorKind : Redirect.Error → String
  | .decode _ => "id_token_decode"
  | .unsupportedAlgorithm _ => "unsupported_algorithm"
  | .missingState => "missing_state"
  | .context _ => "context_store"
  | .tokens _ => "token_store"

/-- The status of an error: that of a store is not the client's. -/
def errorStatus : Redirect.Error → UInt16
  | .context _ | .tokens _ => 500
  | _ => 400

/-- The outcome of a judged redirect, as the audit names it. -/
def auditOutcome : Except Redirect.Error Outcome → AuditOutcome
  | .ok .accepted => .accepted
  | .ok .codeHashInvalid => .codeHashInvalid
  | .error _ => .rejected

/-- The event of a code redirect that was judged. -/
def judgedEvent (channel : Channel) (state : String) (result : Except Redirect.Error Outcome) :
    AuditEvent :=
  let event := (AuditEvent.of channel (auditOutcome result)).addState state
  match result with
  | .ok _ => event
  | .error e => event.addErrorKind (errorKind e)

/-- The answer to a code redirect that was judged. -/
def judgedReply : Except Redirect.Error Outcome → Reply
  | .ok .accepted => .json 200 .null
  | .ok .codeHashInvalid => .error 400 "c_hash invalid"
  | .error e => .error (errorStatus e) e.message

/-- The event of a redirect that cannot be read. -/
def malformedEvent (channel : Channel) : AuditEvent :=
  (AuditEvent.of channel .rejected).addErrorKind "malformed_payload"

/-- Take a redirect that bears a code. -/
def takeCode (channel : Channel) (body : List UInt8) (s : State) : Reply × State :=
  match Json.decodeText CodePayload.decoder body with
  | .error e => (.error 400 e.message, s.record (malformedEvent channel))
  | .ok payload =>
    let (result, stores) := receive payload s.stores
    (judgedReply result, { s with stores }.record (judgedEvent channel payload.state result))

/-- Read a redirect that bears an error: the document as it is, and what it says. -/
def readError (body : List UInt8) : Except Json.Error (Json × ErrorPayload) := do
  let document ← Json.parse body
  let payload ← Json.decode ErrorPayload.decoder document
  return (document, payload)

/-- Take a redirect that bears an error, and echo its document. -/
def takeError (body : List UInt8) (s : State) : Reply × State :=
  match readError body with
  | .error e => (.error 400 e.message, s.record (malformedEvent .error))
  | .ok (document, payload) =>
    let event := AuditEvent.of .error .acknowledged
    (.json 200 document, s.record ((event.addState (payload.state.getD "")).addOauthError
      (payload.error.getD "")))

/-! ### Discovery documents -/

/-- Read and validate a document, or answer what is wrong with it. -/
def readDocument (checker : Conditionality) (body : List UInt8) :
    Except Reply DiscoveryDocument :=
  match DiscoveryDocument.ofText body with
  | .error e => .error (.error 400 (DiscoveryDocument.parseMessage e))
  | .ok d =>
    match Discovery.validate checker d with
    | [] => .ok d
    | failures =>
      let shown := failures.map fun f => f.report.toJson
      .error (.json 400 (.object [("error", .array shown)]))

/-- Validate a document. -/
def validateDocument (checker : Conditionality) (body : List UInt8) : Reply :=
  match readDocument checker body with
  | .ok _ => .json 200 (.object [])
  | .error reply => reply

/-- List the configuration fields that a document needs. -/
def listFields (checker : Conditionality) (body : List UInt8) : Reply :=
  match readDocument checker body with
  | .ok d => .json 200 (.array ((Discovery.fieldsFor d).map ConfigField.toJson))
  | .error reply => reply

/-! ### Routes -/

/-- A route. -/
inductive Route where
  | code (channel : Channel)
  | error
  | validate
  | fields
  deriving DecidableEq

/-- The routes by their paths. -/
def routes : List (String × Route) := [
  ("/api/redirect/fragment/ok", .code .fragment),
  ("/api/redirect/query/ok", .code .query),
  ("/api/redirect/error", .error),
  ("/api/discovery-model/validate", .validate),
  ("/api/discovery-model/fields", .fields)]

/-- Take a body that was posted to a route. -/
def Route.take (checker : Conditionality) (body : List UInt8) (s : State) :
    Route → Reply × State
  | .code channel => takeCode channel body s
  | .error => takeError body s
  | .validate => (validateDocument checker body, s)
  | .fields => (listFields checker body, s)

/-- The path of a target, without its query and its fragment. -/
def pathOf (target : String) : String :=
  String.ofList (target.toList.takeWhile fun c => c != '?' && c != '#')

/-- Answer a request. -/
def answer (checker : Conditionality) (maxBodyBytes : Nat) (method target : String)
    (body : List UInt8) (s : State) : Reply × State :=
  match routes.lookup (pathOf target) with
  | none => (.notFound, s)
  | some route =>
    if method ≠ "POST" then (.methodNotAllowed, s)
    else if maxBodyBytes < body.length then (.tooLarge, s)
    else route.take checker body s

end ConformanceSuite.Api
