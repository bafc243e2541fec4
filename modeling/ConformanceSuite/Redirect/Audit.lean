import ConformanceSuite.LogRecord

/-!
# The audit of redirects

Every redirect that is received leaves one event: its channel, its outcome and the state of the
client, never a code or a token. An event carries no time; the time is supplied when it is written
down.
-/

namespace ConformanceSuite.Redirect

/-- The channel on which a redirect arrived. -/
inductive Channel where
  | fragment
  | query
  | error
  deriving DecidableEq

/-- What is recorded of a redirect. -/
inductive AuditOutcome where
  | accepted
  | codeHashInvalid
  | acknowledged
  | rejected
  deriving DecidableEq

/-- The name of a channel. -/
def Channel.name : Channel → String
  | .fragment => "fragment"
  | .query => "query"
  | .error => "error"

/-- The name of an outcome. -/
def AuditOutcome.name : AuditOutcome → String
  | .accepted => "accepted"
  | .codeHashInvalid => "c_hash_invalid"
  | .acknowledged => "acknowledged"
  | .rejected => "rejected"

/-- An event of the audit. -/
structure AuditEvent where
  channel : Channel
  outcome : AuditOutcome
  state : Option String
  oauthError : Option String
  errorKind : Option String
  deriving DecidableEq

/-- A text, unless it is empty. -/
def nonEmpty? (s : String) : Option String := if s.isEmpty then none else some s

namespace AuditEvent

/-- The event of an outcome on a channel, with nothing else known. -/
def of (channel : Channel) (outcome : AuditOutcome) : AuditEvent :=
  ⟨channel, outcome, none, none, none⟩

/-- Add the state of the client; an empty one is none. -/
def addState (e : AuditEvent) (state : String) : AuditEvent := { e with state := nonEmpty? state }

/-- Add the error that the redirect bears; an empty one is none. -/
def addOauthError (e : AuditEvent) (error : String) : AuditEvent :=
  { e with oauthError := nonEmpty? error }

/-- Add the kind of error for which a redirect was rejected. -/
def addErrorKind (e : AuditEvent) (kind : String) : AuditEvent := { e with errorKind := some kind }

/-- The name of every event. -/
def eventName : String := "redirect_received"

/-- The fields of an event that happened at a time, given in milliseconds. -/
def fields (e : AuditEvent) (time : Nat) : LogRecord :=
  [("event", .text eventName), ("timestamp_ms", .natural time), ("channel", .text e.channel.name),
    ("outcome", .text e.outcome.name), ("state", .ofText? e.state),
    ("oauth_error", .ofText? e.oauthError), ("error_kind", .ofText? e.errorKind)]

/-- The value of an event that happened at a time. -/
def toJson (e : AuditEvent) (time : Nat) : Json := (e.fields time).toJson

end AuditEvent

end ConformanceSuite.Redirect
