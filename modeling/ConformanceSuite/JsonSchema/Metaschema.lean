import ConformanceSuite.JsonSchema.Compile

/-!
# The schema of schemas

Before a document is read as a schema it is judged by the schema of schemas; the first failure, in
the order of its properties, says what is wrong.
-/

namespace ConformanceSuite.JsonSchema

namespace Metaschema

/-- A value that demands a kind. -/
def ofKind (kind : Kind) (more : List (String × Json) := []) : Json :=
  .object (("type", .string kind.label) :: more)

/-- A value that refers to a schema. -/
def ofReference (target : String) : Json := .object [("$ref", .string target)]

/-- A schema. -/
def schema : Json := ofReference "#"

/-- A list of schemas that is not empty. -/
def schemaArray : Json := ofReference "#/definitions/schemaArray"

/-- A natural number. -/
def natural : Json := ofReference "#/definitions/positiveInteger"

/-- A natural number that is zero if it is left out. -/
def naturalOrZero : Json := ofReference "#/definitions/positiveIntegerDefault0"

/-- A list of distinct texts that is not empty. -/
def stringArray : Json := ofReference "#/definitions/stringArray"

/-- A choice between schemas. -/
def either (schemas : List Json) : Json := .object [("anyOf", .array schemas)]

/-- An object of schemas. -/
def schemaMap : Json := ofKind .object [("additionalProperties", schema)]

/-- The schemas that others refer to. -/
def definitions : Json := .object [
  ("positiveInteger", ofKind .integer [("minimum", .ofNat 0)]),
  ("positiveIntegerDefault0", .object [("allOf", .array [natural])]),
  ("schemaArray", ofKind .array [("items", schema), ("minItems", .ofNat 1)]),
  ("simpleTypes", .object [("enum", .array (Kind.all.map fun k => .string k.label))]),
  ("stringArray", ofKind .array [("items", ofKind .string), ("minItems", .ofNat 1),
    ("uniqueItems", .bool true)])]

/-- The properties of schemas. -/
def properties : List (String × Json) := [
  ("$schema", ofKind .string [("format", .string "uri")]),
  ("additionalItems", either [ofKind .boolean, schema]),
  ("additionalProperties", either [ofKind .boolean, schema]),
  ("allOf", schemaArray),
  ("anyOf", schemaArray),
  ("definitions", schemaMap),
  ("dependencies", ofKind .object [("additionalProperties", either [schema, stringArray])]),
  ("description", ofKind .string),
  ("enum", ofKind .array),
  ("exclusiveMaximum", ofKind .boolean),
  ("exclusiveMinimum", ofKind .boolean),
  ("format", ofKind .string),
  ("id", ofKind .string [("format", .string "uri")]),
  ("items", either [schema, schemaArray]),
  ("maxItems", natural),
  ("maxLength", natural),
  ("maxProperties", natural),
  ("maximum", ofKind .number),
  ("minItems", naturalOrZero),
  ("minLength", naturalOrZero),
  ("minProperties", naturalOrZero),
  ("minimum", ofKind .number),
  ("multipleOf", ofKind .number [("minimum", .ofNat 0), ("exclusiveMinimum", .bool true)]),
  ("not", schema),
  ("oneOf", schemaArray),
  ("pattern", ofKind .string [("format", .string "regex")]),
  ("patternProperties", schemaMap),
  ("properties", schemaMap),
  ("required", stringArray),
  ("title", ofKind .string),
  ("type", either [ofReference "#/definitions/simpleTypes",
    ofKind .array [("items", ofReference "#/definitions/simpleTypes"), ("minItems", .ofNat 1),
      ("uniqueItems", .bool true)]]),
  ("uniqueItems", ofKind .boolean)]

/-- The schema of schemas as a document. -/
def document : Json := ofKind .object [
  ("definitions", definitions),
  ("dependencies", .object [("exclusiveMaximum", .ofStrings ["maximum"]),
    ("exclusiveMinimum", .ofStrings ["minimum"])]),
  ("properties", .object properties)]

/-- The schema of schemas. -/
def set : SchemaSet := ((SchemaSet.ofDocument document).toOption).getD ⟨default, []⟩

end Metaschema

/-- Read a document as a schema, if it is one. -/
def SchemaSet.compile (document : Json) : Except Fault SchemaSet :=
  match Metaschema.set.failures document with
  | [] => SchemaSet.ofDocument document
  | failure :: _ => .error (.metaschema failure.reason)

end ConformanceSuite.JsonSchema
