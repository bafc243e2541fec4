import ConformanceSuite.Discovery.Document
import ConformanceSuite.Text.Blank

/-!
# Test cases

A test case is a request template with what is expected of the response, and what is captured from
the response for later cases.
-/

namespace ConformanceSuite

open Json

/-- The request template of a test case. Texts may mention context variables. -/
structure Input where
  method : String
  endpoint : String
  headers : KeyMap String
  body : Option String
  deriving DecidableEq

/-- A check of a response: by a JSON path, or else by a header. -/
structure Match where
  description : Option String
  json : Option String
  header : Option String
  value : Option String
  deriving DecidableEq

/-- What is expected of a response. -/
structure Expect where
  status : UInt16
  schemaValidation : Bool
  checks : List Match
  deriving DecidableEq

/-- A context key and the JSON path of the value it is bound to. -/
structure Capture where
  name : String
  json : String
  deriving DecidableEq

/-- A test case. -/
structure TestCase where
  id : String
  name : String
  input : Input
  expect : Expect
  captures : List Capture
  deriving DecidableEq

/-- The test cases of one specification, with the base address of its resources. -/
structure SpecificationTestCases where
  specification : ApiSpecification
  baseUri : String
  testCases : List TestCase
  deriving DecidableEq

/-- A certificate and its private key. -/
structure Certificate where
  publicPem : String
  privatePem : String
  deriving DecidableEq

/-- All that a run needs. -/
structure RunDefinition where
  discovery : DiscoveryDocument
  specTests : List SpecificationTestCases
  signingCert : Certificate
  transportCert : Certificate
  deriving DecidableEq

namespace Input

/-- The value of a request template. -/
def toJson (i : Input) : Json :=
  .object ([("method", .string i.method), ("endpoint", .string i.endpoint),
    ("headers", Json.ofMap .string i.headers)] ++ optionalMember "body" (i.body.map .string))

/-- Read a request template. -/
def decoder : Decoder Input :=
  Decoder.record "Input" ["method", "endpoint", "headers", "body"] fun f =>
    mk <$> f.required 0 .string <*> f.required 1 .string
      <*> f.withDefault 2 .empty (.map .string) <*> f.optionalOrAbsent 3 .string

end Input

namespace Match

/-- The value of a check. -/
def toJson (m : Match) : Json :=
  .object (optionalMember "description" (m.description.map .string) ++
    optionalMember "json" (m.json.map .string) ++
    optionalMember "header" (m.header.map .string) ++
    optionalMember "value" (m.value.map .string))

/-- Read a check. -/
def decoder : Decoder Match :=
  Decoder.record "Match" ["description", "json", "header", "value"] fun f =>
    mk <$> f.optionalOrAbsent 0 .string <*> f.optionalOrAbsent 1 .string
      <*> f.optionalOrAbsent 2 .string <*> f.optionalOrAbsent 3 .string

end Match

namespace Expect

/-- The value of an expectation. -/
def toJson (e : Expect) : Json :=
  .object [("status_code", .ofNat e.status.toNat), ("schema_validation", .bool e.schemaValidation),
    ("matches", Json.ofList Match.toJson e.checks)]

/-- Read an expectation. -/
def decoder : Decoder Expect :=
  Decoder.record "Expect" ["status_code", "schema_validation", "matches"] fun f =>
    mk <$> f.required 0 .uint16 <*> f.withDefault 1 false .bool
      <*> f.withDefault 2 [] (.list Match.decoder)

end Expect

namespace Capture

/-- The value of a capture. -/
def toJson (c : Capture) : Json := .object [("name", .string c.name), ("json", .string c.json)]

/-- Read a capture. -/
def decoder : Decoder Capture :=
  Decoder.record "ContextPut" ["name", "json"] fun f =>
    mk <$> f.required 0 .string <*> f.required 1 .string

end Capture

namespace TestCase

/-- The value of a test case. -/
def toJson (t : TestCase) : Json :=
  .object [("id", .string t.id), ("name", .string t.name), ("input", t.input.toJson),
    ("expect", t.expect.toJson), ("context_put", Json.ofList Capture.toJson t.captures)]

/-- Read a test case. -/
def decoder : Decoder TestCase :=
  Decoder.record "TestCase" ["id", "name", "input", "expect", "context_put"] fun f =>
    mk <$> f.required 0 .string <*> f.required 1 .string <*> f.required 2 Input.decoder
      <*> f.required 3 Expect.decoder <*> f.withDefault 4 [] (.list Capture.decoder)

/-- The method in capitals and the endpoint template, as reports show them. -/
def label (t : TestCase) : String :=
  Text.upperAscii t.input.method ++ " " ++ t.input.endpoint

end TestCase

namespace SpecificationTestCases

/-- The value of the test cases of a specification. -/
def toJson (s : SpecificationTestCases) : Json :=
  .object [("specification", s.specification.toJson), ("base_uri", .string s.baseUri),
    ("test_cases", Json.ofList TestCase.toJson s.testCases)]

/-- Read the test cases of a specification. -/
def decoder : Decoder SpecificationTestCases :=
  Decoder.record "SpecificationTestCases" ["specification", "base_uri", "test_cases"] fun f =>
    mk <$> f.required 0 ApiSpecification.decoder <*> f.withDefault 1 "" .string
      <*> f.required 2 (.list TestCase.decoder)

end SpecificationTestCases

namespace Certificate

/-- The value of a certificate in a definition. -/
def toJson (c : Certificate) : Json :=
  .object [("public_pem", .string c.publicPem), ("private_pem", .string c.privatePem)]

/-- Read a certificate. -/
def decoder : Decoder Certificate :=
  Decoder.record "Certificate" ["public_pem", "private_pem"] fun f =>
    mk <$> f.required 0 .string <*> f.required 1 .string

/-- The value under which a certificate is put into the context. -/
def contextValue (c : Certificate) : Json :=
  .object [("public", .string c.publicPem), ("private", .string c.privatePem)]

/-- A certificate as it may be logged: the private key is not shown. -/
def shown (c : Certificate) : String :=
  s!"Certificate \x7b public_pem: {Text.quoted c.publicPem}, private_pem: \"<redacted>\" \x7d"

end Certificate

namespace RunDefinition

/-- The value of a run definition. -/
def toJson (d : RunDefinition) : Json :=
  .object [("discovery", d.discovery.toJson),
    ("spec_tests", Json.ofList SpecificationTestCases.toJson d.specTests),
    ("signing_cert", d.signingCert.toJson), ("transport_cert", d.transportCert.toJson)]

/-- Read a run definition. -/
def decoder : Decoder RunDefinition :=
  Decoder.record "RunDefinition" ["discovery", "spec_tests", "signing_cert", "transport_cert"]
    fun f =>
    mk <$> f.required 0 DiscoveryDocument.decoder
      <*> f.required 1 (.list SpecificationTestCases.decoder)
      <*> f.required 2 Certificate.decoder <*> f.required 3 Certificate.decoder

end RunDefinition

end ConformanceSuite
