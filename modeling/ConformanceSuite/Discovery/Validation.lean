import ConformanceSuite.Discovery.Document
import ConformanceSuite.Discovery.Specification

/-!
# Validation of discovery documents

A document is judged in two phases. The first looks at the document alone; only if it finds nothing
are the endpoints shown to a conditionality checker, which knows what each specification demands.
Each violated rule is one failure: a place in the document and a reason.
-/

namespace ConformanceSuite

/-- Knowledge of which endpoints a specification has and which of them are mandatory. -/
structure Conditionality where
  isPresent : (method path specification : String) → Except String Bool
  missingMandatory : List Endpoint → (specification : String) → Except String (List Endpoint)

namespace Discovery

/-- The discovery versions that are understood. -/
def supportedVersions : List String := ["v0.1.0"]

/-- The current discovery version. -/
def currentVersion : String := "v0.1.0"

/-- Whether a discovery version is understood. -/
def isSupported (version : String) : Bool := supportedVersions.contains version

/-- A field of a document. -/
inductive DocumentField where
  | name | description | discoveryVersion | discoveryItems
  deriving DecidableEq

/-- A field of a named specification. -/
inductive SpecificationField where
  | name | url | version | schemaVersion
  deriving DecidableEq

/-- A field of an endpoint. -/
inductive EndpointField where
  | method | path
  deriving DecidableEq

/-- A place in a document. -/
inductive Place where
  | document (field : DocumentField)
  | specification (item : Nat) (field : SpecificationField)
  | endpoints (item : Nat)
  | endpoint (item index : Nat)
  | endpointField (item index : Nat) (field : EndpointField)
  deriving DecidableEq

/-- The rule that a place violates. -/
inductive Reason where
  | required (field : String)
  | tooShort (field : String)
  | unsupportedVersion (version : String)
  | unsupportedSchema (schemaVersion : String)
  | mismatch (field expected schemaVersion : String)
  | checker (text : String)
  | unknownEndpoint (method path : String)
  | missingEndpoint (method path : String)
  deriving DecidableEq

/-- A violated rule and the place that violates it. -/
structure Failure where
  place : Place
  reason : Reason
  deriving DecidableEq

/-! ### Wording -/

/-- The written name of a document field. -/
def DocumentField.label : DocumentField → String
  | .name => "Name"
  | .description => "Description"
  | .discoveryVersion => "DiscoveryVersion"
  | .discoveryItems => "DiscoveryItems"

/-- The written name of a specification field. -/
def SpecificationField.label : SpecificationField → String
  | .name => "Name"
  | .url => "URL"
  | .version => "Version"
  | .schemaVersion => "SchemaVersion"

/-- The written name of an endpoint field. -/
def EndpointField.label : EndpointField → String
  | .method => "Method"
  | .path => "Path"

/-- The dotted path of an item. -/
def itemText (item : Nat) : String := s!"DiscoveryModel.DiscoveryItems[{item}]"

/-- The dotted path of a place. -/
def Place.key : Place → String
  | .document field => s!"DiscoveryModel.{field.label}"
  | .specification item field => s!"{itemText item}.APISpecification.{field.label}"
  | .endpoints item => s!"{itemText item}.Endpoints"
  | .endpoint item index => s!"{itemText item}.Endpoints[{index}]"
  | .endpointField item index field => s!"{itemText item}.Endpoints[{index}].{field.label}"

/-- A violated rule in words. -/
def Reason.message : Reason → String
  | .required field => s!"Field validation for '{field}' failed on the 'required' tag"
  | .tooShort field => s!"Field validation for '{field}' failed on the 'gt' tag"
  | .unsupportedVersion version =>
    s!"DiscoveryVersion '{version}' not in list of supported versions"
  | .unsupportedSchema schemaVersion =>
    s!"'SchemaVersion' not supported by suite '{schemaVersion}'"
  | .mismatch field expected schemaVersion =>
    s!"'{field}' should be '{expected}' when schemaVersion is '{schemaVersion}'"
  | .checker text => text
  | .unknownEndpoint method path => s!"Invalid endpoint Method='{method}', Path='{path}'"
  | .missingEndpoint method path =>
    s!"Missing mandatory endpoint Method='{method}', Path='{path}'"

/-! ### The document alone -/

/-- The failure of an empty text. -/
def requireNonEmpty (place : Place) (label value : String) : List Failure :=
  if value.isEmpty then [⟨place, .required label⟩] else []

/-- The failure of an absent or empty list; a list with items has the failures of its items. -/
def requireItems {α : Type} (place : Place) (label : String) (items : Option (List α))
    (failures : List α → List Failure) : List Failure :=
  match items with
  | none => [⟨place, .required label⟩]
  | some [] => [⟨place, .tooShort label⟩]
  | some items => failures items

/-- The failures of a list of parts, each judged with its place in the list. -/
def eachWithIndex {α : Type} (failures : Nat → α → List Failure) (items : List α) : List Failure :=
  (items.zipIdx.map fun p => failures p.2 p.1).flatten

/-- The failure of a discovery version that is empty or not understood. -/
def versionFailures (version : String) : List Failure :=
  if version.isEmpty then
    [⟨.document .discoveryVersion, .required DocumentField.discoveryVersion.label⟩]
  else if isSupported version then []
  else [⟨.document .discoveryVersion, .unsupportedVersion version⟩]

/-- The failure of a text that is neither empty nor the registered one. -/
def mismatchFailures (item : Nat) (field : SpecificationField)
    (actual expected schemaVersion : String) : List Failure :=
  if !actual.isEmpty && actual != expected then
    [⟨.specification item field, .mismatch field.label expected schemaVersion⟩]
  else []

/-- The failures of a named specification that does not agree with the registered one. -/
def registeredFailures (item : Nat) (spec : ApiSpecification) : List Failure :=
  if spec.schemaVersion.isEmpty then []
  else match Specification.ofSchemaVersion? spec.schemaVersion with
    | none => [⟨.specification item .schemaVersion, .unsupportedSchema spec.schemaVersion⟩]
    | some registered =>
      mismatchFailures item .name spec.name registered.name spec.schemaVersion ++
        mismatchFailures item .version spec.version registered.version spec.schemaVersion ++
        mismatchFailures item .url spec.url registered.url spec.schemaVersion

/-- The failures of a named specification. -/
def specificationFailures (item : Nat) (spec : ApiSpecification) : List Failure :=
  requireNonEmpty (.specification item .name) SpecificationField.name.label spec.name ++
    requireNonEmpty (.specification item .url) SpecificationField.url.label spec.url ++
    requireNonEmpty (.specification item .version) SpecificationField.version.label spec.version ++
    requireNonEmpty (.specification item .schemaVersion) SpecificationField.schemaVersion.label
      spec.schemaVersion ++
    registeredFailures item spec

/-- The failures of an endpoint. -/
def endpointFailures (item index : Nat) (endpoint : Endpoint) : List Failure :=
  requireNonEmpty (.endpointField item index .method) EndpointField.method.label endpoint.method ++
    requireNonEmpty (.endpointField item index .path) EndpointField.path.label endpoint.path

/-- The failures of an item. -/
def itemFailures (item : Nat) (i : DiscoveryItem) : List Failure :=
  specificationFailures item i.apiSpecification ++
    requireItems (.endpoints item) "Endpoints" i.endpoints?
      (eachWithIndex (endpointFailures item))

/-- The failures that the document shows by itself, in document order. -/
def structuralFailures (d : DiscoveryDocument) : List Failure :=
  requireNonEmpty (.document .name) DocumentField.name.label d.name ++
    requireNonEmpty (.document .description) DocumentField.description.label d.description ++
    versionFailures d.discoveryVersion ++
    requireItems (.document .discoveryItems) DocumentField.discoveryItems.label d.items?
      (eachWithIndex itemFailures)

/-! ### The document before a checker -/

/-- The failure of an endpoint that the specification does not have. -/
def presenceFailures (checker : Conditionality) (specification : String) (item index : Nat)
    (endpoint : Endpoint) : List Failure :=
  match checker.isPresent endpoint.method endpoint.path specification with
  | .error text => [⟨.endpoint item index, .checker text⟩]
  | .ok false => [⟨.endpoint item index, .unknownEndpoint endpoint.method endpoint.path⟩]
  | .ok true => []

/-- The failures of mandatory endpoints that are not offered. -/
def mandatoryFailures (checker : Conditionality) (specification : String) (item : Nat)
    (endpoints : List Endpoint) : List Failure :=
  match checker.missingMandatory endpoints specification with
  | .error text => [⟨.endpoints item, .checker text⟩]
  | .ok missing => missing.map fun e => ⟨.endpoints item, .missingEndpoint e.method e.path⟩

/-- The failures of an item before a checker. -/
def itemConditionality (checker : Conditionality) (item : Nat) (i : DiscoveryItem) :
    List Failure :=
  eachWithIndex (presenceFailures checker i.apiSpecification.name item) i.endpoints ++
    mandatoryFailures checker i.apiSpecification.name item i.endpoints

/-- The failures that a checker finds, in document order. -/
def conditionalityFailures (checker : Conditionality) (d : DiscoveryDocument) :
    List Failure :=
  eachWithIndex (itemConditionality checker) d.items

/-- The failures of a document: those it shows by itself or, if there are none, those that a
checker finds. -/
def validate (checker : Conditionality) (d : DiscoveryDocument) : List Failure :=
  match structuralFailures d with
  | [] => conditionalityFailures checker d
  | failures => failures

/-- A failure as it is reported. -/
structure ValidationFailure where
  key : String
  error : String
  deriving DecidableEq

/-- The report of a failure. -/
def Failure.report (f : Failure) : ValidationFailure := ⟨f.place.key, f.reason.message⟩

/-- The value of a reported failure. -/
def ValidationFailure.toJson (f : ValidationFailure) : Json :=
  .object [("key", .string f.key), ("error", .string f.error)]

/-- Read a reported failure. -/
def ValidationFailure.decoder : Json.Decoder ValidationFailure :=
  Json.Decoder.record "ValidationFailure" ["key", "error"] fun f =>
    mk <$> f.required 0 .string <*> f.required 1 .string

end Discovery

end ConformanceSuite
