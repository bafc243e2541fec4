import ConformanceSuite.Json.Printer
import ConformanceSuite.JsonSchema.Format

/-!
# Schemas of JSON values

A schema allows everything, nothing, what another schema allows, or what obeys all of its keywords.
Keywords stand in the order in which their failures are reported.
-/

namespace ConformanceSuite.JsonSchema

/-- A kind of values. Integers are numbers too; a number with a fraction part is no integer, even
if that part is zero. -/
inductive Kind where
  | array | boolean | integer | null | number | object | string
  deriving DecidableEq

namespace Kind

/-- The kinds, in alphabetical order. -/
def all : List Kind := [.array, .boolean, .integer, .null, .number, .object, .string]

/-- The name of a kind. -/
def label : Kind → String
  | .array => "array"
  | .boolean => "boolean"
  | .integer => "integer"
  | .null => "null"
  | .number => "number"
  | .object => "object"
  | .string => "string"

/-- The kind with a name. -/
def ofString? (name : String) : Option Kind := all.find? (·.label = name)

/-- Whether a value is of a kind. -/
def accepts : Kind → Json → Bool
  | .array, .array _ => true
  | .boolean, .bool _ => true
  | .integer, .number (.integer _ _) => true
  | .null, .null => true
  | .number, .number _ => true
  | .object, .object _ => true
  | .string, .string _ => true
  | _, _ => false

end Kind

/-- Which side of a range a bound closes. -/
inductive Side where
  | least | most
  deriving DecidableEq

/-- What is counted. -/
inductive Measure where
  | characters | items | properties
  deriving DecidableEq

mutual

/-- A schema. -/
inductive Schema where
  | constant (allowed : Bool)
  | reference (target : String)
  | all (keywords : List Keyword)

/-- A keyword of a schema. -/
inductive Keyword where
  | kinds (allowed : List Kind)
  | values (allowed : List Json)
  | bound (side : Side) (exclusive : Bool) (limit : Json.Number)
  | multipleOf (divisor : Json.Number)
  | size (measure : Measure) (side : Side) (limit : Nat)
  | required (names : List String)
  | pattern (shown : String) (pattern : Pattern.Node)
  | format (name : String) (format : Format)
  | uniqueItems
  | properties (known : List (String × Schema))
  | patternProperties (patterns : List (Pattern.Node × Schema))
  | onlyProperties (known : List (String × Schema)) (patterns : List (Pattern.Node × Schema))
      (others : Option Schema)
  | noProperties
  | items (each : Schema)
  | leadingItems (schemas : List Schema)
  | furtherItems (leading : Nat) (others : Option Schema)
  | dependencies (triggers : List (String × Schema))
  | allOf (schemas : List Schema)
  | anyOf (schemas : List Schema)
  | oneOf (schemas : List Schema)
  | not (source : Json) (schema : Schema)

end

instance : Inhabited Schema := ⟨.constant true⟩

/-- Why a value is not allowed by a schema. -/
inductive Reason where
  | kinds (value : Json) (allowed : List Kind)
  | values (value : Json) (allowed : List Json)
  | bound (value : Json) (side : Side) (exclusive : Bool) (limit : Json.Number)
  | multipleOf (value : Json) (divisor : Json.Number)
  | size (value : Json) (measure : Measure) (side : Side) (limit : Nat)
  | required (name : String)
  | pattern (value : Json) (shown : String)
  | format (value : Json) (name : String)
  | uniqueItems (value : Json)
  | additionalProperties (names : List String)
  | additionalItems (items : List Json)
  | nothingAllowed (value : Json)
  | anyOf (value : Json)
  | oneOfNone (value : Json)
  | oneOfMany (value : Json)
  | not (value schema : Json)

/-- A reason and the place of the value that it is about, as the keys and positions that lead
there. -/
structure Failure where
  place : List String
  reason : Reason

/-! ### Wording -/

/-- A list of at most three alternatives, or the first two and the number of the others. -/
def alternatives : List String → String
  | [] => ""
  | [a] => a
  | [a, b] => s!"{a} or {b}"
  | [a, b, c] => s!"{a}, {b} or {c}"
  | a :: b :: rest => s!"{a}, {b} or {rest.length} other candidates"

/-- A thing that is counted, in the singular for one and in the plural for other numbers. -/
def Measure.noun : Measure → Nat → String
  | .characters, n => if n = 1 then "character" else "characters"
  | .items, n => if n = 1 then "item" else "items"
  | .properties, n => if n = 1 then "property" else "properties"

/-- How a size out of range is described. -/
def Measure.comparison : Measure → Side → String
  | .characters, .least => "is shorter than"
  | .characters, .most => "is longer than"
  | _, .least => "has less than"
  | _, .most => "has more than"

/-- How a number out of range is described. -/
def Side.comparison : Side → (exclusive : Bool) → String
  | .least, false => "less than the minimum of"
  | .least, true => "less than or equal to the minimum of"
  | .most, false => "greater than the maximum of"
  | .most, true => "greater than or equal to the maximum of"

/-- Unexpected things, in words. -/
def unexpected (what : String) (things : List String) : String :=
  let list := ", ".intercalate things
  let verb := if things.length = 1 then "was" else "were"
  s!"{what} are not allowed ({list} {verb} unexpected)"

/-- A text between double quotes. -/
def doubleQuoted (s : String) : String := s!"\"{s}\""

/-- A reason in words. -/
def Reason.message : Reason → String
  | .kinds value [kind] => s!"{value.render} is not of type {doubleQuoted kind.label}"
  | .kinds value allowed =>
    let list := ", ".intercalate (allowed.map fun k => doubleQuoted k.label)
    s!"{value.render} is not of types {list}"
  | .values value allowed =>
    s!"{value.render} is not one of {alternatives (allowed.map Json.render)}"
  | .bound value side exclusive limit =>
    s!"{value.render} is {side.comparison exclusive} {(Json.number limit).render}"
  | .multipleOf value divisor =>
    s!"{value.render} is not a multiple of {(Json.number divisor).render}"
  | .size value measure side limit =>
    s!"{value.render} {measure.comparison side} {limit} {measure.noun limit}"
  | .required name => s!"{(Json.string name).render} is a required property"
  | .pattern value shown => s!"{value.render} does not match {doubleQuoted shown}"
  | .format value name => s!"{value.render} is not a {doubleQuoted name}"
  | .uniqueItems value => s!"{value.render} has non-unique elements"
  | .additionalProperties names =>
    unexpected "Additional properties" (names.map fun n => s!"'{n}'")
  | .additionalItems items => unexpected "Additional items" (items.map Json.render)
  | .nothingAllowed value => s!"False schema does not allow {value.render}"
  | .anyOf value =>
    s!"{value.render} is not valid under any of the schemas listed in the 'anyOf' keyword"
  | .oneOfNone value =>
    s!"{value.render} is not valid under any of the schemas listed in the 'oneOf' keyword"
  | .oneOfMany value =>
    s!"{value.render} is valid under more than one of the schemas listed in the 'oneOf' keyword"
  | .not value schema => s!"{schema.render} is not allowed for {value.render}"

/-- A step of a place: tildes and slashes are escaped. -/
def escapeStep (step : String) : String :=
  "/" ++ String.ofList (step.toList.flatMap fun c =>
    if c = '~' then ['~', '0'] else if c = '/' then ['~', '1'] else [c])

/-- The text of a place; the whole value is a lone slash. -/
def placeText (place : List String) : String :=
  if place.isEmpty then "/" else String.join (place.map escapeStep)

end ConformanceSuite.JsonSchema
