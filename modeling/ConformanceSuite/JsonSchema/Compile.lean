import ConformanceSuite.Json.Decoder
import ConformanceSuite.JsonSchema.Judgement
import ConformanceSuite.Text.Percent

/-!
# Reading schemas

A schema is read from a JSON value, keyword by keyword, together with every schema that its
references name. A reference leads into the document in which it stands; a schema that has a
reference has no other keyword.
-/

namespace ConformanceSuite.JsonSchema

/-- Why a value could not be read as a schema. -/
inductive Fault where
  | kinds (value : Json) (allowed : List Kind)
  | regex (text : String)
  | nowhere (pointer : String)
  | noAnchor (name : String)
  | invalidAnchor (name : String)
  | metaschema (reason : Reason)

/-- A fault in words. -/
def Fault.message : Fault → String
  | .kinds value allowed => (Reason.kinds value allowed).message
  | .regex text => (Reason.format (.string text) "regex").message
  | .nowhere pointer => s!"Pointer '{pointer}' does not exist"
  | .noAnchor name => s!"Anchor '{name}' does not exist"
  | .invalidAnchor name => s!"Anchor '{name}' is invalid"
  | .metaschema reason => reason.message

/-! ### References -/

/-- Resolve the escapes of a step of a pointer. -/
def unescapeStep : List Char → List Char
  | '~' :: '1' :: rest => '/' :: unescapeStep rest
  | '~' :: '0' :: rest => '~' :: unescapeStep rest
  | c :: rest => c :: unescapeStep rest
  | [] => []

/-- The child of a value to which a step leads. -/
def child? (value : Json) (step : List Char) : Option Json :=
  match value with
  | .object members => Json.findMember? (String.ofList (unescapeStep step)) members
  | .array items => (Text.natural? step).bind fun i => items[i]?
  | _ => none

/-- The value to which steps lead. -/
def descend? : Json → List (List Char) → Option Json
  | value, [] => some value
  | value, step :: rest => (child? value step).bind (descend? · rest)

/-- The fragment of a reference. -/
def fragmentOf (target : String) : List Char := ((Text.cut '#' target.toList).2).getD []

/-- The value that a reference names in a document. -/
def resolve (document : Json) (target : String) : Except Fault Json :=
  match fragmentOf target with
  | [] => .ok document
  | '/' :: pointer =>
    let shown := String.ofList ('/' :: pointer)
    let decoded := Text.percentDecode (Json.bytesOf (String.ofList pointer))
    match String.fromUTF8? ⟨decoded.toArray⟩ with
    | none => .error (.nowhere shown)
    | some decoded =>
      match descend? document (Text.splitAll '/' decoded.toList) with
      | some value => .ok value
      | none => .error (.nowhere shown)
  | name =>
    if name.contains '/' then .error (.invalidAnchor (String.ofList name))
    else .error (.noAnchor (String.ofList name))

/-! ### Keywords -/

/-- The place of a keyword in the order of reporting. -/
def Keyword.rank : Keyword → Nat
  | .kinds _ => 0
  | .values _ => 1
  | .bound .least _ _ => 2
  | .bound .most _ _ => 3
  | .multipleOf _ => 4
  | .size .characters .least _ => 5
  | .size .characters .most _ => 6
  | .size .items .least _ => 7
  | .size .items .most _ => 8
  | .size .properties .least _ => 9
  | .size .properties .most _ => 10
  | .required _ => 11
  | .pattern _ _ => 12
  | .format _ _ => 13
  | .uniqueItems => 14
  | .properties _ => 15
  | .patternProperties _ => 16
  | .onlyProperties _ _ _ | .noProperties => 17
  | .items _ | .leadingItems _ => 18
  | .furtherItems _ _ => 19
  | .dependencies _ => 20
  | .allOf _ => 21
  | .anyOf _ => 22
  | .oneOf _ => 23
  | .not _ _ => 24

/-- Put a keyword in front of the first one that is not reported before it. -/
def Keyword.place (k : Keyword) : List Keyword → List Keyword
  | [] => [k]
  | other :: rest => if k.rank ≤ other.rank then k :: other :: rest else other :: k.place rest

/-- Keywords in the order of reporting. -/
def inOrder (keywords : List Keyword) : List Keyword := keywords.foldr Keyword.place []

/-- A limit that is a natural number. -/
def limit? : Json → Option Nat
  | .number (.integer n _) => if 0 ≤ n then some n.toNat else none
  | _ => none

/-- The kinds that a value names: one, or a list of them, in alphabetical order. -/
def kindsOf (value : Json) : List Kind :=
  let names := match value with
    | .string name => [name]
    | value => (value.array?.getD []).filterMap Json.string?
  Kind.all.filter fun k => names.contains k.label

/-- The keyword of a member whose meaning rests on no other schema. -/
def simpleKeyword? (parent : List (String × Json)) (key : String) (value : Json) : Option Keyword :=
  let isExclusive (name : String) : Bool := Json.findMember? name parent == some (.bool true)
  match key, value with
  | "type", value => some (.kinds (kindsOf value))
  | "enum", .array allowed => some (.values allowed)
  | "minimum", .number n => some (.bound .least (isExclusive "exclusiveMinimum") n)
  | "maximum", .number n => some (.bound .most (isExclusive "exclusiveMaximum") n)
  | "multipleOf", .number n => some (.multipleOf n)
  | "minLength", value => (limit? value).map (.size .characters .least)
  | "maxLength", value => (limit? value).map (.size .characters .most)
  | "minItems", value => (limit? value).map (.size .items .least)
  | "maxItems", value => (limit? value).map (.size .items .most)
  | "minProperties", value => (limit? value).map (.size .properties .least)
  | "maxProperties", value => (limit? value).map (.size .properties .most)
  | "required", .array names => some (.required (names.filterMap Json.string?))
  | "pattern", .string s => (Pattern.ofString? s).map (.pattern (Pattern.shown s))
  | "format", .string name => (Format.named.lookup name).map (.format name)
  | "uniqueItems", .bool true => some .uniqueItems
  | _, _ => none

/-! ### Schemas -/

/-- The schemas read so far, by the references that name them. -/
abbrev Named := List (String × Schema)

/-- A way to read something while schemas are collected. -/
abbrev Reading (α : Type) := Named → Except Fault (α × Named)

/-- The parts of a schema that are schemas themselves, read but not yet put together. -/
structure Parts where
  properties : Option (List (String × Schema)) := none
  patterns : Option (List (Pattern.Node × Schema)) := none
  others : Option (Option Schema) := none
  keywords : List Keyword := []

/-- Add a keyword. -/
def Parts.add (p : Parts) (k : Keyword) : Parts := { p with keywords := p.keywords ++ [k] }

/-- The keywords about properties. -/
def Parts.propertyKeywords (p : Parts) : List Keyword :=
  match p.others with
  | none =>
    (p.properties.map .properties).toList ++ (p.patterns.map .patternProperties).toList
  | some others =>
    match p.properties, p.patterns, others with
    | none, none, none => [.noProperties]
    | known, patterns, others => [.onlyProperties (known.getD []) (patterns.getD []) others]

/-- The schema of parts. -/
def Parts.schema (p : Parts) : Schema := .all (inOrder (p.keywords ++ p.propertyKeywords))

/-- The patterns of keys. -/
def patternsOf : List (String × Schema) → Except Fault (List (Pattern.Node × Schema))
  | [] => .ok []
  | (key, s) :: rest =>
    match Pattern.ofString? key with
    | none => .error (.regex key)
    | some pattern => (patternsOf rest).map ((pattern, s) :: ·)

/-- The schema of an object: a reference, or else what its members say. -/
def schemaOfObject (enter : String → Reading Unit) (members : List (String × Json))
    (read : Reading Parts) : Reading Schema := fun named =>
  match Json.findMember? "$ref" members with
  | some (.string target) => do
    let (_, named) ← enter target named
    .ok (.reference target, named)
  | some value => .error (.kinds value [.string])
  | none => do
    let (parts, named) ← read named
    .ok (parts.schema, named)

/-- How a member of a schema that is an object adds to its parts: by the schema that it is, or by
the schemas under its keys. -/
inductive ObjectUse where
  | schema (put : Schema → Parts)
  | named (put : List (String × Schema) → Except Fault Parts)
  | triggers (put : List (String × Schema) → Parts)
  | nothing

/-- How a member with a key adds to parts if its value is an object. -/
def ObjectUse.ofKey (parent : List (String × Json)) (key : String) (members : List (String × Json))
    (parts : Parts) : ObjectUse :=
  match key with
  | "properties" => .named fun known => .ok { parts with properties := some known }
  | "patternProperties" => .named fun schemas =>
    (patternsOf schemas).map fun patterns => { parts with patterns := some patterns }
  | "additionalProperties" => .schema fun s => { parts with others := some (some s) }
  | "items" => .schema fun s => parts.add (.items s)
  | "additionalItems" =>
    match Json.findMember? "items" parent with
    | some (.array leading) => .schema fun s => parts.add (.furtherItems leading.length (some s))
    | _ => .nothing
  | "dependencies" => .triggers fun triggers => parts.add (.dependencies triggers)
  | "not" => .schema fun s => parts.add (.not (.object members) s)
  | _ => .nothing

/-- The keyword of a list of schemas. -/
def listKeyword? : String → Option (List Schema → Keyword)
  | "items" => some .leadingItems
  | "allOf" => some .allOf
  | "anyOf" => some .anyOf
  | "oneOf" => some .oneOf
  | _ => none

/-- Add a member to parts whose meaning rests on no other schema. -/
def Parts.addSimple (p : Parts) (parent : List (String × Json)) (key : String) (value : Json) :
    Parts :=
  match key, value with
  | "additionalProperties", .bool false => { p with others := some none }
  | "additionalItems", .bool false =>
    match Json.findMember? "items" parent with
    | some (.array leading) => p.add (.furtherItems leading.length none)
    | _ => p
  | _, .bool false => p
  | key, value => (simpleKeyword? parent key value).elim p p.add

mutual

/-- Read a schema; `enter` reads what a reference names. -/
def readSchema (enter : String → Reading Unit) : Json → Reading Schema
  | .bool b => fun named => .ok (.constant b, named)
  | .object members => schemaOfObject enter members (readMembers enter members members {})
  | value => fun _ => .error (.kinds value [.boolean, .object])

/-- Read the members of a schema in order, adding to its parts. -/
def readMembers (enter : String → Reading Unit) (parent : List (String × Json)) :
    List (String × Json) → Parts → Reading Parts
  | [], parts, named => .ok (parts, named)
  | (key, value) :: rest, parts, named => do
    let (parts, named) ← readMember enter parent key value parts named
    readMembers enter parent rest parts named

/-- Read a member of a schema, adding to its parts. -/
def readMember (enter : String → Reading Unit) (parent : List (String × Json)) (key : String) :
    Json → Parts → Reading Parts
  | .object members, parts, named =>
    match ObjectUse.ofKey parent key members parts with
    | .schema put => do
      let (s, named) ← schemaOfObject enter members (readMembers enter members members {}) named
      .ok (put s, named)
    | .named put => do
      let (schemas, named) ← readNamed enter members named
      .ok (← put schemas, named)
    | .triggers put => do
      let (triggers, named) ← readDependencies enter members named
      .ok (put triggers, named)
    | .nothing => .ok (parts, named)
  | .array items, parts, named =>
    match listKeyword? key with
    | some keyword => do
      let (schemas, named) ← readItems enter items named
      .ok (parts.add (keyword schemas), named)
    | none => .ok (parts.addSimple parent key (.array items), named)
  | value, parts, named => .ok (parts.addSimple parent key value, named)

/-- Read schemas in order. -/
def readItems (enter : String → Reading Unit) : List Json → Reading (List Schema)
  | [], named => .ok ([], named)
  | x :: rest, named => do
    let (s, named) ← readSchema enter x named
    let (others, named) ← readItems enter rest named
    .ok (s :: others, named)

/-- Read schemas under names in order. -/
def readNamed (enter : String → Reading Unit) :
    List (String × Json) → Reading (List (String × Schema))
  | [], named => .ok ([], named)
  | (key, x) :: rest, named => do
    let (s, named) ← readSchema enter x named
    let (others, named) ← readNamed enter rest named
    .ok ((key, s) :: others, named)

/-- Read dependencies in order; a list of names demands these members. -/
def readDependencies (enter : String → Reading Unit) :
    List (String × Json) → Reading (List (String × Schema))
  | [], named => .ok ([], named)
  | (key, .array names) :: rest, named => do
    let (others, named) ← readDependencies enter rest named
    .ok ((key, .all [.required (names.filterMap Json.string?)]) :: others, named)
  | (key, x) :: rest, named => do
    let (s, named) ← readSchema enter x named
    let (others, named) ← readDependencies enter rest named
    .ok ((key, s) :: others, named)

end

/-- Read the schema that a reference names, unless it has been read or is being read; `fuel` bounds
how many references are entered inside each other. -/
def enterReference (document : Json) : (fuel : Nat) → (active : List String) → String → Reading Unit
  | 0, _, _, named => .ok ((), named)
  | fuel + 1, active, target, named =>
    if active.contains target || (named.lookup target).isSome then .ok ((), named)
    else do
      let value ← resolve document target
      let (s, named) ← readSchema (enterReference document fuel (target :: active)) value named
      .ok ((), (target, s) :: named)

mutual

/-- The number of members with a key anywhere in a value. -/
def countKey (key : String) : Json → Nat
  | .array items => countKeyItems key items
  | .object members => countKeyMembers key members
  | _ => 0

/-- The number of members with a key anywhere in a list of values. -/
def countKeyItems (key : String) : List Json → Nat
  | [] => 0
  | x :: rest => countKey key x + countKeyItems key rest

/-- The number of members with a key anywhere in a list of members. -/
def countKeyMembers (key : String) : List (String × Json) → Nat
  | [] => 0
  | (k, x) :: rest => (if k = key then 1 else 0) + countKey key x + countKeyMembers key rest

end

/-- Read the schema that is a whole document. There are no more references to enter than members
that are references. -/
def SchemaSet.ofDocument (document : Json) : Except Fault SchemaSet := do
  let enter := enterReference document (countKey "$ref" document + 1) []
  let (main, named) ← readSchema enter document []
  .ok ⟨main, named⟩

end ConformanceSuite.JsonSchema
