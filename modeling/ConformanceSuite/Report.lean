import ConformanceSuite.Discovery.Document
import ConformanceSuite.Uuid

/-!
# Reports

A report has a result for each specification that was entered, with a result for each test case
that was reached. A specification passes if all of its recorded cases pass.
-/

namespace ConformanceSuite

open Json

/-- The result of a test case. -/
structure TestResult where
  id : String
  name : String
  endpoint : String
  pass : Bool
  deriving DecidableEq

/-- The results of the test cases of a specification. -/
structure SpecificationResult where
  name : String
  version : String
  url : String
  schemaVersion : String
  pass : Bool
  tests : List TestResult
  deriving DecidableEq

/-- A report, with its identifier and the time at which it was made. -/
structure Report where
  id : Uuid
  generatedAt : String
  specifications : List SpecificationResult
  deriving DecidableEq

namespace TestResult

/-- The value of a test result. -/
def toJson (t : TestResult) : Json :=
  .object [("id", .string t.id), ("name", .string t.name), ("endpoint", .string t.endpoint),
    ("pass", .bool t.pass)]

/-- Read a test result. -/
def decoder : Decoder TestResult :=
  Decoder.record "TestResult" ["id", "name", "endpoint", "pass"] fun f =>
    mk <$> f.required 0 .string <*> f.required 1 .string <*> f.required 2 .string
      <*> f.required 3 .bool

end TestResult

namespace SpecificationResult

/-- The result of a specification none of whose cases has been reached. -/
def ofSpecification (s : ApiSpecification) : SpecificationResult :=
  ⟨s.name, s.version, s.url, s.schemaVersion, true, []⟩

/-- Add the result of a test case. -/
def record (r : SpecificationResult) (t : TestResult) : SpecificationResult :=
  { r with pass := r.pass && t.pass, tests := r.tests ++ [t] }

/-- The value of a specification result. -/
def toJson (r : SpecificationResult) : Json :=
  .object [("name", .string r.name), ("version", .string r.version), ("url", .string r.url),
    ("schema_version", .string r.schemaVersion), ("pass", .bool r.pass),
    ("tests", Json.ofList TestResult.toJson r.tests)]

/-- Read a specification result. -/
def decoder : Decoder SpecificationResult :=
  Decoder.record "SpecificationResult" ["name", "version", "url", "schema_version", "pass", "tests"]
    fun f =>
    mk <$> f.required 0 .string <*> f.required 1 .string <*> f.required 2 .string
      <*> f.required 3 .string <*> f.required 4 .bool <*> f.required 5 (.list TestResult.decoder)

end SpecificationResult

namespace Report

/-- Whether all specifications pass. -/
def pass (r : Report) : Bool := r.specifications.all SpecificationResult.pass

/-- The value of a report. -/
def toJson (r : Report) : Json :=
  .object [("id", .string r.id.toText), ("generated_at", .string r.generatedAt),
    ("specifications", Json.ofList SpecificationResult.toJson r.specifications)]

/-- Read a report. -/
def decoder : Decoder Report :=
  Decoder.record "Report" ["id", "generated_at", "specifications"] fun f =>
    mk <$> f.required 0 Uuid.decoder <*> f.required 1 .string
      <*> f.required 2 (.list SpecificationResult.decoder)

end Report

end ConformanceSuite
