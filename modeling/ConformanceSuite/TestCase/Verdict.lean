import ConformanceSuite.HttpResponse
import ConformanceSuite.JsonPath.Select
import ConformanceSuite.TestCase.Basic
import ConformanceSuite.Context

/-!
# Verdicts

A response is judged by its status, by a schema validator if the case asks for one, and by the
checks of the case. Only if nothing is wrong are values captured, all of them or none.
-/

namespace ConformanceSuite

/-- A failure that a schema validator reports. -/
structure SchemaFailure where
  message : String
  deriving DecidableEq

/-- The value of a schema failure. -/
def SchemaFailure.toJson (f : SchemaFailure) : Json := .object [("message", .string f.message)]

/-- Read a schema failure. -/
def SchemaFailure.decoder : Json.Decoder SchemaFailure :=
  Json.Decoder.record "SchemaFailure" ["message"] fun f => mk <$> f.required 0 .string

/-- The failure of a schema validator to judge at all. -/
structure ValidatorError where
  text : String
  deriving DecidableEq

/-- A failure in words. -/
def ValidatorError.message (e : ValidatorError) : String :=
  s!"schema validation error: {e.text}"

/-- A judge of responses by a schema. -/
abbrev ResponseJudge := HttpResponse → Except ValidatorError (List SchemaFailure)

/-- Why a response could not be judged. -/
inductive JudgementError where
  | schemaUnavailable
  | schema (error : ValidatorError)
  | body (error : Json.Error)
  | jsonPath (path : String)
  | context (error : ContextError)

/-- A failure in words. -/
def JudgementError.message : JudgementError → String
  | .schemaUnavailable => "schema validator unavailable"
  | .schema e => s!"schema validation error: {e.message}"
  | .body e => s!"response body is not json: {e.message}"
  | .jsonPath path => s!"invalid jsonpath: {path}"
  | .context e => e.message

/-- Why a response is not what was expected. -/
inductive Reason where
  | status (actual expected : UInt16)
  | schema (message : String)
  | json (description : Option String) (path : String)
  | header (description : Option String) (name : String)
  | capture (name path : String)
  deriving DecidableEq

/-- A reason behind its description. -/
def Reason.described (description : Option String) (reason : String) : String :=
  match description with
  | some d => s!"{d}: {reason}"
  | none => reason

/-- A reason in words. -/
def Reason.message : Reason → String
  | .status actual expected => s!"status code {actual} does not match expected {expected}"
  | .schema message => message
  | .json description path => described description s!"json match failed at {path}"
  | .header description name => described description s!"header match failed for {name}"
  | .capture name path => s!"context_put {name}: no value at {path}"

/-- What is found about a response: it passes if there is no reason why it should not. -/
structure Verdict where
  reasons : List Reason
  deriving DecidableEq

/-- Whether the response is what was expected. -/
def Verdict.pass (v : Verdict) : Bool := v.reasons.isEmpty

/-- The values that a path selects in a body. -/
def selectIn (body : Except Json.Error Json) (path : String) : Except JudgementError (List Json) :=
  match body with
  | .error e => .error (.body e)
  | .ok document =>
    match JsonPath.find? path document with
    | some values => .ok values
    | none => .error (.jsonPath path)

namespace Match

/-- Whether the values selected by a JSON path are as expected. -/
def holdsFor (m : Match) (values : List Json) : Bool :=
  match m.value with
  | some expected => values.any (·.text == expected)
  | none => !values.isEmpty

/-- Whether a header is as expected. -/
def holdsForHeader (m : Match) (actual : Option String) : Bool :=
  match actual, m.value with
  | some actual, some expected => actual == expected
  | some _, none => true
  | none, _ => false

/-- Why a response fails a check, if it does. A JSON path goes before a header, and a check with
neither holds. -/
def failures (m : Match) (response : HttpResponse) (body : Except Json.Error Json) :
    Except JudgementError (List Reason) :=
  match m.json, m.header with
  | some path, _ =>
    (selectIn body path).map fun values =>
      if m.holdsFor values then [] else [.json m.description path]
  | none, some name =>
    .ok (if m.holdsForHeader (response.header name) then [] else [.header m.description name])
  | none, none => .ok []

end Match

namespace TestCase

/-- The reason why a status is not the expected one. -/
def statusReasons (t : TestCase) (response : HttpResponse) : List Reason :=
  if response.status = t.expect.status then []
  else [.status response.status t.expect.status]

/-- The reasons of the schema validator, if the case asks for one. -/
def schemaReasons (t : TestCase) (response : HttpResponse) (validator : Option ResponseJudge) :
    Except JudgementError (List Reason) :=
  if t.expect.schemaValidation then
    match validator with
    | none => .error .schemaUnavailable
    | some judge =>
      match judge response with
      | .error e => .error (.schema e)
      | .ok failures => .ok (failures.map fun f => .schema f.message)
  else .ok []

/-- The reasons of checks, in order. -/
def checkReasons (response : HttpResponse) (body : Except Json.Error Json) :
    List Match → Except JudgementError (List Reason)
  | [] => .ok []
  | m :: rest => do
    let first ← m.failures response body
    let others ← checkReasons response body rest
    .ok (first ++ others)

/-- All reasons found before anything is captured. -/
def reasonsFor (t : TestCase) (response : HttpResponse) (validator : Option ResponseJudge)
    (body : Except Json.Error Json) : Except JudgementError (List Reason) := do
  let schema ← t.schemaReasons response validator
  let checks ← checkReasons response body t.expect.checks
  .ok (t.statusReasons response ++ schema ++ checks)

/-- The values to capture, and a reason for each capture that finds none. -/
def capturesIn (body : Except Json.Error Json) :
    List Capture → Except JudgementError (List (String × Json) × List Reason)
  | [] => .ok ([], [])
  | c :: rest => do
    let values ← selectIn body c.json
    let (entries, reasons) ← capturesIn body rest
    .ok (match values with
      | [] => (entries, .capture c.name c.json :: reasons)
      | value :: _ => ((c.name, value) :: entries, reasons))

/-- The verdict on a response, and the context afterwards: captures are put into it if and only if
the verdict is a pass. -/
def validate (t : TestCase) (response : HttpResponse) (context : Context)
    (validator : Option ResponseJudge) : Except JudgementError Verdict × Context :=
  let body := Json.parse response.body
  match t.reasonsFor response validator body with
  | .error e => (.error e, context)
  | .ok [] =>
    match capturesIn body t.captures with
    | .error e => (.error e, context)
    | .ok (entries, []) =>
      match context.putAll entries with
      | .error e => (.error (.context e), context)
      | .ok context => (.ok ⟨[]⟩, context)
    | .ok (_, reasons) => (.ok ⟨reasons⟩, context)
  | .ok reasons => (.ok ⟨reasons⟩, context)

end TestCase

end ConformanceSuite
