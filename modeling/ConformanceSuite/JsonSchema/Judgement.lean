import ConformanceSuite.JsonSchema.Basic

/-!
# Judging values by schemas

A schema means a judge: a function from a value to its failures, in the order of the keywords. A
reference means what the schema that it names means; one that comes back to itself on the same
value adds nothing.
-/

namespace ConformanceSuite

namespace Json

/-- The exact value of a number as it is written: a double stands for its shortest decimal. -/
def Number.decimal : Number → Rat
  | .integer n _ => n
  | .float d =>
    if d.isZero then 0
    else
      let s := d.shortest
      let digits : Int := s.digits.foldl (fun n c => n * 10 + (c.toNat - 0x30)) 0
      let scale : Int := s.exponent - (s.digits.length - 1)
      let magnitude : Rat :=
        if scale < 0 then mkRat digits (Nat.pow 10 scale.natAbs)
        else (digits * Int.pow 10 scale.natAbs : Int)
      if d.isNegative then -magnitude else magnitude

mutual

/-- Equality of values by their meaning: numbers are equal if they denote the same number. Members
are compared in order. -/
def equal : Json → Json → Bool
  | .number a, .number b => a.toRat == b.toRat
  | .array a, .array b => equalItems a b
  | .object a, .object b => equalMembers a b
  | .null, .null => true
  | .bool a, .bool b => a == b
  | .string a, .string b => a == b
  | _, _ => false

/-- Equality of lists of values by their meaning. -/
def equalItems : List Json → List Json → Bool
  | [], [] => true
  | x :: xs, y :: ys => equal x y && equalItems xs ys
  | _, _ => false

/-- Equality of lists of members by their meaning. -/
def equalMembers : List (String × Json) → List (String × Json) → Bool
  | [], [] => true
  | (k, x) :: xs, (l, y) :: ys => k == l && equal x y && equalMembers xs ys
  | _, _ => false

end

mutual

/-- The number of levels of a value. -/
def depth : Json → Nat
  | .array items => depthItems items + 1
  | .object members => depthMembers members + 1
  | _ => 1

/-- The number of levels of the deepest item. -/
def depthItems : List Json → Nat
  | [] => 0
  | x :: xs => max (depth x) (depthItems xs)

/-- The number of levels of the deepest member. -/
def depthMembers : List (String × Json) → Nat
  | [] => 0
  | (_, x) :: xs => max (depth x) (depthMembers xs)

end

end Json

namespace JsonSchema

/-- Where a value stands in the value that is judged, and the references under which it is being
judged. -/
structure Spot where
  place : List String
  entered : List String

/-- The spot of the whole value. -/
def Spot.whole : Spot := ⟨[], []⟩

/-- The spot of a child. -/
def Spot.child (s : Spot) (step : String) : Spot := ⟨s.place ++ [step], []⟩

/-- A failure of the value at a spot. -/
def Spot.fail (s : Spot) (reason : Reason) : List Failure := [⟨s.place, reason⟩]

/-- What a schema means: the failures of a value at a spot. -/
abbrev Judge := Spot → Json → List Failure

namespace Judge

/-- Whether a value is allowed. -/
def allows (judge : Judge) (s : Spot) (value : Json) : Bool := (judge s value).isEmpty

/-- The judge that allows everything. -/
def everything : Judge := fun _ _ => []

/-- Fail with a reason unless a value is acceptable. -/
def test (acceptable : Json → Bool) (reason : Json → Reason) : Judge := fun s value =>
  if acceptable value then [] else s.fail (reason value)

/-- The failures of all judges. -/
def allOf (judges : List Judge) : Judge := fun s value => judges.flatMap fun judge => judge s value

/-- One failure unless some judge allows the value. -/
def anyOf (judges : List Judge) : Judge := fun s value =>
  if judges.any (·.allows s value) then [] else s.fail (.anyOf value)

/-- One failure unless exactly one judge allows the value. -/
def oneOf (judges : List Judge) : Judge := fun s value =>
  match judges.filter (·.allows s value) with
  | [] => s.fail (.oneOfNone value)
  | [_] => []
  | _ => s.fail (.oneOfMany value)

/-- One failure if the judge allows the value. -/
def not (source : Json) (judge : Judge) : Judge := fun s value =>
  if judge.allows s value then s.fail (.not value source) else []

/-- The failures of a member. -/
def member (judge : Judge) (s : Spot) (m : String × Json) : List Failure :=
  judge (s.child m.1) m.2

/-- Judge the members that are known, in the order of the knowledge. -/
def properties (known : List (String × Judge)) : Judge := fun s value =>
  known.flatMap fun (key, judge) =>
    match value.get? key with
    | some v => judge.member s (key, v)
    | none => []

/-- The failures of a member by every pattern that is found in its key. -/
def byPatterns (patterns : List (Pattern.Node × Judge)) (s : Spot) (m : String × Json) :
    List Failure :=
  patterns.flatMap fun (pattern, judge) => if pattern.foundIn m.1 then judge.member s m else []

/-- Judge the members whose keys have a pattern, pattern by pattern. -/
def patternProperties (patterns : List (Pattern.Node × Judge)) : Judge := fun s value =>
  patterns.flatMap fun p => (value.object?.getD []).flatMap (byPatterns [p] s)

/-- Whether a key is known by name or by a pattern. -/
def isKnown (known : List (String × Judge)) (patterns : List (Pattern.Node × Judge))
    (key : String) : Bool :=
  (known.lookup key).isSome || patterns.any fun p => p.1.foundIn key

/-- The failures of a member: by its name, by patterns, or else as one of the others. -/
def knownOrOther (known : List (String × Judge)) (patterns : List (Pattern.Node × Judge))
    (others : Option Judge) (s : Spot) (m : String × Json) : List Failure :=
  (match known.lookup m.1 with
    | some judge => judge.member s m
    | none => []) ++ byPatterns patterns s m ++
  (match others with
    | some judge => if isKnown known patterns m.1 then [] else judge.member s m
    | none => [])

/-- Others that are not allowed at all are reported together. -/
def strangers (others : Option Judge) (s : Spot) (keys : List String) : List Failure :=
  if others.isSome || keys.isEmpty then [] else s.fail (.additionalProperties keys)

/-- Judge every member, in the order of the value, and then the others together if they are not
allowed at all. -/
def onlyProperties (known : List (String × Judge)) (patterns : List (Pattern.Node × Judge))
    (others : Option Judge) : Judge := fun s value =>
  let members := value.object?.getD []
  members.flatMap (knownOrOther known patterns others s) ++
    strangers others s ((members.map (·.1)).filter fun key => !isKnown known patterns key)

/-- Allow no member at all; the value of the first one is reported. -/
def noProperties : Judge := fun s value =>
  match value with
  | .object ((_, v) :: _) => s.fail (.nothingAllowed v)
  | _ => []

/-- Judge items by judges, in order, counting places from a number. -/
def itemsFrom (judge : Judge) (s : Spot) : Nat → List Json → List Failure
  | _, [] => []
  | i, x :: xs => judge (s.child (toString i)) x ++ itemsFrom judge s (i + 1) xs

/-- Judge every item. -/
def items (judge : Judge) : Judge := fun s value => judge.itemsFrom s 0 (value.array?.getD [])

/-- Judge the first items, each by a judge of its own. -/
def leadingItems (judges : List Judge) : Judge := fun s value =>
  ((judges.zip (value.array?.getD [])).zipIdx).flatMap fun ((judge, x), i) =>
    judge (s.child (toString i)) x

/-- Judge the items behind the first ones. -/
def furtherItems (leading : Nat) (others : Option Judge) : Judge := fun s value =>
  let further := (value.array?.getD []).drop leading
  match others, further with
  | some judge, further => judge.itemsFrom s leading further
  | none, [] => []
  | none, further => s.fail (.additionalItems further)

/-- Judge an object by every judge whose key it has. -/
def dependencies (triggers : List (String × Judge)) : Judge := fun s value =>
  triggers.flatMap fun (key, judge) => if (value.get? key).isSome then judge s value else []

/-- One failure for each member that is missing. -/
def required (names : List String) : Judge := fun s value =>
  match value with
  | .object members =>
    names.flatMap fun name =>
      if (Json.findMember? name members).isSome then [] else s.fail (.required name)
  | _ => []

end Judge

/-- Whether a number is on the right side of a limit. -/
def Side.holds (side : Side) (exclusive : Bool) (limit value : Rat) : Bool :=
  match side, exclusive with
  | .least, false => limit ≤ value
  | .least, true => limit < value
  | .most, false => value ≤ limit
  | .most, true => value < limit

/-- The size of a value, if it has such a size. -/
def Measure.of? : Measure → Json → Option Nat
  | .characters, .string s => some s.length
  | .items, .array list => some list.length
  | .properties, .object members => some members.length
  | _, _ => none

/-- Whether a size is on the right side of a limit. -/
def Side.holdsSize (side : Side) (limit size : Nat) : Bool :=
  match side with
  | .least => limit ≤ size
  | .most => size ≤ limit

/-- Whether no two values of a list are equal. -/
def allDistinct : List Json → Bool
  | [] => true
  | x :: xs => !xs.any (Json.equal x) && allDistinct xs

mutual

/-- What a schema means, given what references mean. -/
def Schema.judge (follow : String → Judge) : Schema → Judge
  | .constant true => .everything
  | .constant false => .test (fun _ => false) .nothingAllowed
  | .reference target => follow target
  | .all keywords => .allOf (keywordJudges follow keywords)

/-- What keywords mean. -/
def keywordJudges (follow : String → Judge) : List Keyword → List Judge
  | [] => []
  | k :: rest => k.judge follow :: keywordJudges follow rest

/-- What a keyword means. -/
def Keyword.judge (follow : String → Judge) : Keyword → Judge
  | .kinds allowed => .test (fun v => allowed.any (·.accepts v)) (.kinds · allowed)
  | .values allowed => .test (fun v => allowed.any (Json.equal v)) (.values · allowed)
  | .bound side exclusive limit =>
    .test (fun v => match v with
      | .number n => side.holds exclusive limit.toRat n.toRat
      | _ => true) (.bound · side exclusive limit)
  | .multipleOf divisor =>
    .test (fun v => match v with
      | .number n => (n.decimal / divisor.decimal).den == 1
      | _ => true) (.multipleOf · divisor)
  | .size measure side limit =>
    .test (fun v => (measure.of? v).all (side.holdsSize limit)) (.size · measure side limit)
  | .required names => .required names
  | .pattern shown pattern =>
    .test (fun v => v.string?.all pattern.foundIn) (.pattern · shown)
  | .format name format => .test (fun v => v.string?.all format.accepts) (.format · name)
  | .uniqueItems => .test (fun v => v.array?.all allDistinct) .uniqueItems
  | .properties known => .properties (namedJudges follow known)
  | .patternProperties patterns => .patternProperties (patternJudges follow patterns)
  | .onlyProperties known patterns others =>
    .onlyProperties (namedJudges follow known) (patternJudges follow patterns)
      (optionalJudge follow others)
  | .noProperties => .noProperties
  | .items each => .items (each.judge follow)
  | .leadingItems schemas => .leadingItems (judges follow schemas)
  | .furtherItems leading others => .furtherItems leading (optionalJudge follow others)
  | .dependencies triggers => .dependencies (namedJudges follow triggers)
  | .allOf schemas => .allOf (judges follow schemas)
  | .anyOf schemas => .anyOf (judges follow schemas)
  | .oneOf schemas => .oneOf (judges follow schemas)
  | .not source schema => .not source (schema.judge follow)

/-- What schemas mean. -/
def judges (follow : String → Judge) : List Schema → List Judge
  | [] => []
  | s :: rest => s.judge follow :: judges follow rest

/-- What schemas under names mean. -/
def namedJudges (follow : String → Judge) : List (String × Schema) → List (String × Judge)
  | [] => []
  | (name, s) :: rest => (name, s.judge follow) :: namedJudges follow rest

/-- What schemas under patterns mean. -/
def patternJudges (follow : String → Judge) :
    List (Pattern.Node × Schema) → List (Pattern.Node × Judge)
  | [] => []
  | (pattern, s) :: rest => (pattern, s.judge follow) :: patternJudges follow rest

/-- What a schema means, if there is one. -/
def optionalJudge (follow : String → Judge) : Option Schema → Option Judge
  | none => none
  | some s => some (s.judge follow)

end

/-- A schema with the schemas that its references name. -/
structure SchemaSet where
  main : Schema
  named : List (String × Schema)

namespace SchemaSet

/-- What a reference means; `fuel` bounds how many references are followed in a row. -/
def follow (set : SchemaSet) : (fuel : Nat) → String → Judge
  | 0, _ => .everything
  | fuel + 1, target => fun s value =>
    if s.entered.contains target then []
    else match set.named.lookup target with
      | some schema =>
        schema.judge (set.follow fuel) { s with entered := target :: s.entered } value
      | none => []

/-- The failures of a value. As many references can be followed in a row as there are pairs of a
level of the value and a named schema. -/
def failures (set : SchemaSet) (value : Json) : List Failure :=
  set.main.judge (set.follow ((value.depth + 1) * (set.named.length + 1))) .whole value

end SchemaSet

end JsonSchema

end ConformanceSuite
