import ConformanceSuite.Json.Decoder
import ConformanceSuite.Json.Encoder

/-!
# Configuration fields

A field that a client has to configure before a run, with the rule that its value obeys.
-/

namespace ConformanceSuite

open Json

/-- A condition by name, over the fields that it looks at. -/
structure CustomCondition where
  op : String
  params : List String
  deriving DecidableEq

/-- The rule of a field: whether it is required, a pattern, the values allowed, a condition. -/
structure Rule where
  required : Bool
  pattern : Option String
  oneOf : List Json
  condition : Option CustomCondition
  deriving DecidableEq

/-- A named field and its rule. -/
structure ConfigField where
  name : String
  rule : Rule
  deriving DecidableEq

namespace CustomCondition

/-- The value of a condition; an empty list of fields is left out. -/
def toJson (c : CustomCondition) : Json :=
  .object ([("op", .string c.op)] ++
    optionalMember "params" (if c.params.isEmpty then none else some (.ofStrings c.params)))

/-- Read a condition. -/
def decoder : Decoder CustomCondition :=
  Decoder.record "CustomCondition" ["op", "params"] fun f =>
    mk <$> f.required 0 .string <*> f.withDefault 1 [] (.list .string)

end CustomCondition

namespace Rule

/-- The rule that allows everything. -/
def empty : Rule := ⟨false, none, [], none⟩

/-- The value of a rule; what says nothing is left out. -/
def toJson (r : Rule) : Json :=
  .object (optionalMember "required" (if r.required then some (.bool true) else none) ++
    optionalMember "match" (r.pattern.map .string) ++
    optionalMember "in" (if r.oneOf.isEmpty then none else some (.array r.oneOf)) ++
    optionalMember "condition" (r.condition.map CustomCondition.toJson))

/-- Read a rule. -/
def decoder : Decoder Rule :=
  Decoder.record "Rule" ["required", "match", "in", "condition"] fun f =>
    mk <$> f.withDefault 0 false .bool <*> f.optionalOrAbsent 1 .string
      <*> f.withDefault 2 [] (.list .json) <*> f.optionalOrAbsent 3 CustomCondition.decoder

end Rule

namespace ConfigField

/-- A field that must be given. -/
def required (name : String) : ConfigField := ⟨name, ⟨true, none, [], none⟩⟩

/-- A field that must be given if other fields are. -/
def dependent (name : String) (params : List String) : ConfigField :=
  ⟨name, ⟨false, none, [], some ⟨"if", params⟩⟩⟩

/-- The value of a field. -/
def toJson (f : ConfigField) : Json :=
  .object [("field_name", .string f.name), ("validation", f.rule.toJson)]

/-- Read a field; an absent rule allows everything. -/
def decoder : Decoder ConfigField :=
  Decoder.record "ConfigField" ["field_name", "validation"] fun f =>
    mk <$> f.required 0 .string <*> f.withDefault 1 .empty Rule.decoder

end ConfigField

end ConformanceSuite
