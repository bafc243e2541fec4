import ConformanceSuite.Swagger.Operation
import ConformanceSuite.TestCase.Verdict

/-!
# Validation of responses

A response is checked against the operation that its request was for, in three ways that do not
look at each other: its content type, its status, and its body.
-/

namespace ConformanceSuite

namespace Swagger

/-- The media type of a content type: what stands in front of its parameters, in small letters. -/
def mediaType (value : String) : String :=
  Text.lowerAscii (Text.trim (String.ofList (value.toList.takeWhile (· != ';'))))

/-- Things between commas. -/
def listed (things : List String) : String := ", ".intercalate things

namespace Operation

/-- The response for exactly a status. -/
def documented (o : Operation) (status : UInt16) : Option ResponseSchema :=
  o.responses.get? (toString status.toNat)

/-- The response for a status, or else the default one. -/
def governing (o : Operation) (status : UInt16) : Option ResponseSchema :=
  match o.documented status with
  | some r => some r
  | none => o.responses.get? "default"

/-- The codes of responses other than the default one, in ascending order. -/
def statuses (o : Operation) : List String := o.responses.keys.filter (· != "default")

/-- What is wrong with the content type of a response. -/
def contentTypeFailures (o : Operation) (r : HttpResponse) : List SchemaFailure :=
  if o.produces.isEmpty then []
  else match r.contentType with
    | none =>
      if r.bodyIsBlank then []
      else [⟨s!"missing Content-Type header for {o.key}, expected one of [{listed o.produces}]"⟩]
    | some actual =>
      if o.produces.any fun p => mediaType p == mediaType actual then []
      else [⟨s!"Content-Type '{actual}' not in produces [{listed o.produces}] for {o.key}"⟩]

/-- What is wrong with the status of a response. -/
def statusFailures (o : Operation) (r : HttpResponse) : List SchemaFailure :=
  if (o.documented r.status).isSome then []
  else
    let known := listed o.statuses
    [⟨s!"status code {r.status} not documented for {o.key}, expected one of [{known}]"⟩]

/-- A failure of a body. -/
def bodyFailure (f : JsonSchema.Failure) : SchemaFailure :=
  ⟨s!"body {JsonSchema.placeText f.place}: {f.reason.message}"⟩

/-- What is wrong with the body of a response. -/
def bodyFailures (o : Operation) (r : HttpResponse) : List SchemaFailure :=
  match o.governing r.status with
  | some (.json schema) =>
    if r.bodyIsBlank then
      [⟨s!"empty response body, schema expected for status code {r.status}"⟩]
    else match Json.parse r.body with
      | .error e => [⟨s!"response body is not valid json: {e.message}"⟩]
      | .ok body => (schema.failures body).map bodyFailure
  | _ => []

/-- What is wrong with a response. -/
def failures (o : Operation) (r : HttpResponse) : List SchemaFailure :=
  o.contentTypeFailures r ++ o.statusFailures r ++ o.bodyFailures r

end Operation

/-- The version of the format that is understood. -/
def supportedVersion : String := "2.0"

/-- The versions of described interfaces that are supported. -/
def supportedInterfaceVersions : List String := ["v3.0.0", "v3.1.0"]

end Swagger

/-- Why there is no contract for a specification. -/
inductive ContractError where
  | io (text : String)
  | parse (file message : String)
  | notFound (name version : String)
  | unsupportedSwaggerVersion
  | unsupportedSpecVersion
  | operation (key : String) (fault : Swagger.OperationFault)

/-- A failure in words. -/
def ContractError.message : ContractError → String
  | .io text => s!"schema: {text}"
  | .parse file message => s!"schema: opening spec file, filename={Text.quoted file}: {message}"
  | .notFound name version =>
    s!"schema: could not find spec file for spec {name} version {version}"
  | .unsupportedSwaggerVersion => "unsupported swagger version"
  | .unsupportedSpecVersion => "unsupported spec version"
  | .operation key fault => s!"schema: invalid operation {key}: {fault.message}"

/-- What a document promises about the responses to its operations. -/
structure SwaggerContract where
  index : Swagger.OperationIndex

namespace SwaggerContract

/-- The contract of a document. -/
def ofDocument (d : SwaggerDocument) : Except ContractError SwaggerContract :=
  if d.swagger ≠ Swagger.supportedVersion then .error .unsupportedSwaggerVersion
  else if d.version ∉ Swagger.supportedInterfaceVersions then .error .unsupportedSpecVersion
  else match Swagger.OperationIndex.ofDocument d with
    | .ok index => .ok ⟨index⟩
    | .error (key, fault) => .error (.operation key fault)

/-- What is wrong with a response. -/
def failures (v : SwaggerContract) (r : HttpResponse) : List SchemaFailure :=
  match v.index.find r.method r.path with
  | none => [⟨s!"no operation found for {r.method} {r.path}"⟩]
  | some o => o.failures r

/-- Validate a response. -/
def validate (v : SwaggerContract) : ResponseJudge := fun r => .ok (v.failures r)

end SwaggerContract

end ConformanceSuite
