import ConformanceSuite.Json.Decoder
import ConformanceSuite.Json.Encoder

/-!
# Discovery documents

A discovery document says which endpoints of which API specifications an implementer offers. An
absent list is not an empty one: both are kept apart, in memory and in text.
-/

namespace ConformanceSuite

open Json

/-- The API specification that a document names. -/
structure ApiSpecification where
  name : String
  url : String
  version : String
  schemaVersion : String
  deriving DecidableEq, Inhabited

/-- A property of an endpoint that is only offered under a condition. -/
structure ConditionalProperty where
  schema : String
  property : String
  path : String
  deriving DecidableEq, Inhabited

/-- An offered endpoint. -/
structure Endpoint where
  method : String
  path : String
  conditionalProperties : Option (List ConditionalProperty)
  deriving DecidableEq, Inhabited

/-- The endpoints offered of one specification. -/
structure DiscoveryItem where
  apiSpecification : ApiSpecification
  openidConfigurationUri : String
  resourceBaseUri : String
  endpoints? : Option (List Endpoint)
  deriving DecidableEq, Inhabited

/-- A custom test: texts that stand for variables of test cases. -/
structure CustomTest where
  name : String
  description : String
  replacements : KeyMap String
  deriving DecidableEq, Inhabited

/-- A discovery document. -/
structure DiscoveryDocument where
  name : String
  description : String
  discoveryVersion : String
  tokenAcquisition : Option String
  items? : Option (List DiscoveryItem)
  customTests? : Option (List CustomTest)
  deriving DecidableEq, Inhabited

/-! ### Texts of documents -/

namespace ApiSpecification

/-- The specification that names nothing. -/
def empty : ApiSpecification := ⟨"", "", "", ""⟩

/-- The value of a named specification. -/
def toJson (s : ApiSpecification) : Json :=
  .object [("name", .string s.name), ("url", .string s.url), ("version", .string s.version),
    ("schemaVersion", .string s.schemaVersion)]

/-- Read a named specification; absent texts are empty. -/
def decoder : Decoder ApiSpecification :=
  Decoder.record "ApiSpecification" ["name", "url", "version", "schemaVersion"] fun f =>
    mk <$> f.withDefault 0 "" .string <*> f.withDefault 1 "" .string
      <*> f.withDefault 2 "" .string <*> f.withDefault 3 "" .string

end ApiSpecification

namespace ConditionalProperty

/-- The value of a conditional property. -/
def toJson (p : ConditionalProperty) : Json :=
  .object [("schema", .string p.schema), ("property", .string p.property),
    ("path", .string p.path)]

/-- Read a conditional property; absent texts are empty. -/
def decoder : Decoder ConditionalProperty :=
  Decoder.record "ConditionalProperty" ["schema", "property", "path"] fun f =>
    mk <$> f.withDefault 0 "" .string <*> f.withDefault 1 "" .string <*> f.withDefault 2 "" .string

end ConditionalProperty

namespace Endpoint

/-- The endpoint with a method and a path. -/
def ofMethodPath (method path : String) : Endpoint := ⟨method, path, none⟩

/-- The method and the path, by which requirements are looked up. -/
def key (e : Endpoint) : String := e.method ++ " " ++ e.path

/-- The value of an endpoint. -/
def toJson (e : Endpoint) : Json :=
  .object ([("method", .string e.method), ("path", .string e.path)] ++
    optionalMember "conditionalProperties"
      (e.conditionalProperties.map (Json.ofList ConditionalProperty.toJson)))

/-- Read an endpoint; absent texts are empty. -/
def decoder : Decoder Endpoint :=
  Decoder.record "Endpoint" ["method", "path", "conditionalProperties"] fun f =>
    mk <$> f.withDefault 0 "" .string <*> f.withDefault 1 "" .string
      <*> f.optionalOrAbsent 2 (.list ConditionalProperty.decoder)

end Endpoint

namespace DiscoveryItem

/-- The endpoints; none if the list is absent. -/
def endpoints (i : DiscoveryItem) : List Endpoint := i.endpoints?.getD []

/-- The value of an item. -/
def toJson (i : DiscoveryItem) : Json :=
  .object ([("apiSpecification", i.apiSpecification.toJson),
    ("openidConfigurationUri", .string i.openidConfigurationUri),
    ("resourceBaseUri", .string i.resourceBaseUri)] ++
    optionalMember "endpoints" (i.endpoints?.map (Json.ofList Endpoint.toJson)))

/-- Read an item. -/
def decoder : Decoder DiscoveryItem :=
  Decoder.record "DiscoveryItem"
    ["apiSpecification", "openidConfigurationUri", "resourceBaseUri", "endpoints"] fun f =>
    mk <$> f.withDefault 0 .empty ApiSpecification.decoder <*> f.withDefault 1 "" .string
      <*> f.withDefault 2 "" .string <*> f.optionalOrAbsent 3 (.list Endpoint.decoder)

end DiscoveryItem

namespace CustomTest

/-- The value of a custom test. -/
def toJson (t : CustomTest) : Json :=
  .object [("name", .string t.name), ("description", .string t.description),
    ("replacements", Json.ofMap .string t.replacements)]

/-- Read a custom test. -/
def decoder : Decoder CustomTest :=
  Decoder.record "CustomTest" ["name", "description", "replacements"] fun f =>
    mk <$> f.withDefault 0 "" .string <*> f.withDefault 1 "" .string
      <*> f.withDefault 2 .empty (.map .string)

end CustomTest

namespace DiscoveryDocument

/-- The document that says nothing. -/
def empty : DiscoveryDocument := ⟨"", "", "", none, none, none⟩

/-- The items; none if the list is absent. -/
def items (d : DiscoveryDocument) : List DiscoveryItem := d.items?.getD []

/-- The custom tests; none if the list is absent. -/
def customTests (d : DiscoveryDocument) : List CustomTest := d.customTests?.getD []

/-- The endpoints of all items, in order. -/
def endpoints (d : DiscoveryDocument) : List Endpoint := d.items.flatMap DiscoveryItem.endpoints

/-- The value of the body of a document. -/
def bodyToJson (d : DiscoveryDocument) : Json :=
  .object ([("name", .string d.name), ("description", .string d.description),
    ("discoveryVersion", .string d.discoveryVersion)] ++
    optionalMember "tokenAcquisition" (d.tokenAcquisition.map .string) ++
    optionalMember "discoveryItems" (d.items?.map (Json.ofList DiscoveryItem.toJson)) ++
    optionalMember "customTests" (d.customTests?.map (Json.ofList CustomTest.toJson)))

/-- The value of a document. -/
def toJson (d : DiscoveryDocument) : Json := .object [("discoveryModel", d.bodyToJson)]

/-- Read the body of a document. -/
def bodyDecoder : Decoder DiscoveryDocument :=
  Decoder.record "DiscoveryModel" ["name", "description", "discoveryVersion", "tokenAcquisition",
    "discoveryItems", "customTests"] fun f =>
    mk <$> f.withDefault 0 "" .string <*> f.withDefault 1 "" .string
      <*> f.withDefault 2 "" .string <*> f.optionalOrAbsent 3 .string
      <*> f.optionalOrAbsent 4 (.list DiscoveryItem.decoder)
      <*> f.optionalOrAbsent 5 (.list CustomTest.decoder)

/-- Read a document; an absent body says nothing. -/
def decoder : Decoder DiscoveryDocument :=
  Decoder.record "Model" ["discoveryModel"] fun f => f.withDefault 0 .empty bodyDecoder

/-- What is said of a text that is no discovery document. -/
def parseMessage (e : Json.Error) : String := s!"discovery parse error: {e.message}"

/-- Read a document from a text. -/
def ofText (text : List UInt8) : Except Json.Error DiscoveryDocument :=
  decodeText decoder text

end DiscoveryDocument

end ConformanceSuite
