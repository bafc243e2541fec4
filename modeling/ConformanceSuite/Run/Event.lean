import ConformanceSuite.LogRecord
import ConformanceSuite.Report
import ConformanceSuite.TestCase.Request
import ConformanceSuite.TestCase.Verdict

/-!
# Run events

What a run reports while it goes on: names, identifiers, counts and error texts, never a body, a
token or a certificate. An event carries no time; the time is supplied when it is written down.
-/

namespace ConformanceSuite

open Json

/-- Why a request got no response. -/
inductive ExchangeError where
  | certificate (text : String)
  | request (text : String)
  | transport (text : String)
  | tooLarge
  deriving DecidableEq

/-- A failure in words. -/
def ExchangeError.message : ExchangeError → String
  | .certificate text => s!"certificate error: {text}"
  | .request text => s!"invalid request: {text}"
  | .transport text => s!"transport error: {text}"
  | .tooLarge => "response exceeds size limit"

/-- Why there is no validator for a specification. -/
structure ValidatorUnavailable where
  text : String
  deriving DecidableEq

/-- A failure in words. -/
def ValidatorUnavailable.message (e : ValidatorUnavailable) : String :=
  s!"validator unavailable: {e.text}"

namespace Run

/-- Why a test case failed after its request was prepared. -/
inductive Fault where
  | execute (error : ExchangeError)
  | resolve (error : ValidatorUnavailable)
  | validate (error : JudgementError)
  | verdict (reasons : List Reason)

/-- A fault in words. -/
def Fault.message : Fault → String
  | .execute e => e.message
  | .resolve e => e.message
  | .validate e => e.message
  | .verdict reasons => "; ".intercalate (reasons.map Reason.message)

/-- What came of a test case: the response if there was one, and the fault if it failed. -/
structure Finding where
  response : Option HttpResponse
  fault : Option Fault

/-- Whether the test case passed. -/
def Finding.pass (f : Finding) : Bool := f.fault.isNone

/-- Something that happened in a run. -/
structure Event where
  event : String
  specification : Option String
  testCase : Option String
  testId : Option String
  method : Option String
  endpoint : Option String
  expectedStatus : Option UInt16
  status : Option UInt16
  responseMillis : Option Nat
  responseSize : Option Nat
  error : Option String
  deriving DecidableEq

namespace Event

/-- The event with a name, and nothing else known of it. -/
def named (event : String) : Event :=
  ⟨event, none, none, none, none, none, none, none, none, none, none⟩

/-- The executor refused the certificates of the run. -/
def certificatesRejected (e : ExchangeError) : Event :=
  { named "certificates_rejected" with error := some e.message }

/-- The run entered a specification. -/
def specificationStart (name : String) : Event :=
  { named "specification_start" with specification := some name }

/-- A test case passed or failed. -/
def caseFinished (specification : String) (t : TestCase) (f : Finding) : Event where
  event := if f.pass then "test_case_pass" else "test_case_fail"
  specification := some specification
  testCase := some t.name
  testId := some t.id
  method := some t.input.method
  endpoint := some t.input.endpoint
  expectedStatus := some t.expect.status
  status := f.response.map HttpResponse.status
  responseMillis := f.response.map HttpResponse.elapsedMillis
  responseSize := f.response.map (·.body.length)
  error := f.fault.map Fault.message

/-- The run was aborted, at a test case if one had been reached. -/
def aborted (t : Option TestCase) (error : String) : Event :=
  { named "run_aborted" with
    testCase := t.map TestCase.name
    testId := t.map TestCase.id
    method := t.map (·.input.method)
    endpoint := t.map (·.input.endpoint)
    error := some error }

/-- The fields of an event that happened at a time, given in milliseconds. -/
def fields (e : Event) (time : Nat) : LogRecord :=
  [("event", .text e.event), ("timestamp_ms", .natural time),
    ("specification", .ofText? e.specification), ("test_case", .ofText? e.testCase),
    ("test_id", .ofText? e.testId), ("method", .ofText? e.method),
    ("endpoint", .ofText? e.endpoint),
    ("expected_status", .ofNatural? (e.expectedStatus.map UInt16.toNat)),
    ("status_code", .ofNatural? (e.status.map UInt16.toNat)),
    ("response_time_ms", .ofNatural? e.responseMillis),
    ("response_size", .ofNatural? e.responseSize), ("error", .ofText? e.error)]

/-- The value of an event that happened at a time. -/
def toJson (e : Event) (time : Nat) : Json := (e.fields time).toJson

end Event

end Run

end ConformanceSuite
