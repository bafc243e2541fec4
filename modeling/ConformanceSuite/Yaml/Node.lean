import ConformanceSuite.Json.Basic
import ConformanceSuite.Text.Decimal
import ConformanceSuite.Text.Hex

/-!
# Nodes of YAML documents

The tree of a document, and the value that it stands for. A scalar without quotes and tag is typed
by its text; keys are texts as they are written.
-/

namespace ConformanceSuite.Yaml

/-- A node. An alias holds the node that it stands for. -/
inductive Node where
  | scalar (tag : Option String) (plain : Bool) (text : String)
  | sequence (tag : Option String) (items : List Node)
  | mapping (tag : Option String) (members : List (Node × Node))
  | alias (target : Node)

/-- The node where nothing is written. -/
def Node.empty : Node := .scalar none true ""

/-! ### Plain scalars -/

/-- Whether a text spells the absence of a value. -/
def isNull (s : String) : Bool := ["null", "Null", "NULL", "~"].contains s

/-- The truth value that a text spells. -/
def bool? (s : String) : Option Bool :=
  if ["true", "True", "TRUE"].contains s then some true
  else if ["false", "False", "FALSE"].contains s then some false
  else none

/-- Whether a text consists of several digits of which the first is zero: it is no number. -/
def isZeroPadded (cs : List Char) : Bool :=
  match (Text.takeSign cs).2 with
  | '0' :: d :: rest => (d :: rest).all Text.isDigit
  | _ => false

/-- The value of digits of a base of at most ten. -/
def valueInBase? (base : Nat) (digits : List Char) : Option Nat :=
  if digits.isEmpty || !digits.all fun c => Text.isDigit c && c.toNat - 0x30 < base then none
  else some (digits.foldl (fun n c => n * base + (c.toNat - 0x30)) 0)

/-- The value of a number that may name its base. -/
def natural? : List Char → Option Nat
  | '0' :: 'x' :: digits => Text.hexValue? digits
  | '0' :: 'o' :: digits => valueInBase? 8 digits
  | '0' :: 'b' :: digits => valueInBase? 2 digits
  | digits => Text.natural? digits

/-- The integers that are looked for. -/
def IsInteger (n : Int) : Prop := -Int.pow 2 127 ≤ n ∧ n < Int.pow 2 128

instance (n : Int) : Decidable (IsInteger n) := inferInstanceAs (Decidable (_ ∧ _))

/-- The integer that a text spells. -/
def integer? (s : String) : Option Int :=
  let cs := s.toList
  if isZeroPadded cs then none
  else
    let (negative, digits) := Text.takeSign cs
    (natural? digits).bind fun n =>
      let n : Int := if negative then -n else n
      if IsInteger n then some n else none

/-- The spellings of infinity and of what is not a number, in all their cases. -/
def isUnbounded (s : String) : Bool :=
  [".inf", ".Inf", ".INF", "+.inf", "+.Inf", "+.INF", "-.inf", "-.Inf", "-.INF", ".nan", ".NaN",
    ".NAN"].contains s

/-- The value of a text that spells a number which is no integer; one that is not finite has no
value but `null`. -/
def float? (s : String) : Option Json :=
  if isUnbounded s then some .null
  else (Text.double? s.toList).bind fun d =>
    if d.isFinite then some (.number (.float d)) else none

/-- The value of an integer; one of more than 64 bits has none. -/
def integerValue? (n : Int) : Option Json :=
  if Json.InRange n then some (.ofInt n) else none

/-- The value of a scalar without quotes and tag. -/
def plainValue? (s : String) : Option Json :=
  if s.isEmpty || isNull s then some .null
  else match bool? s, integer? s with
    | some b, _ => some (.bool b)
    | none, some n => integerValue? n
    | none, none =>
      if isZeroPadded s.toList then some (.string s) else some ((float? s).getD (.string s))

/-! ### Tags -/

/-- What the names of the common tags start with. -/
def commonTags : String := "tag:yaml.org,2002:"

/-- Whether a tag is local to its document: its node has no value. -/
def isLocalTag (tag : String) : Bool := tag.startsWith "!"

/-- The value of a scalar with a tag. -/
def taggedValue? (tag s : String) : Option Json :=
  if isLocalTag tag then none
  else if tag = commonTags ++ "bool" then (bool? s).map .bool
  else if tag = commonTags ++ "int" then (integer? s).bind integerValue?
  else if tag = commonTags ++ "float" then float? s
  else if tag = commonTags ++ "null" then if isNull s then some .null else none
  else some (.string s)

/-- The value of a scalar. -/
def scalarValue? (tag : Option String) (plain : Bool) (s : String) : Option Json :=
  match tag with
  | some tag => taggedValue? tag s
  | none => if plain then plainValue? s else some (.string s)

namespace Node

/-! ### Values -/

mutual

/-- The number of places in a tree; brackets count twice, and what an alias stands for not. -/
def places : Node → Nat
  | .scalar _ _ _ => 1
  | .sequence _ items => 2 + placesOfItems items
  | .mapping _ members => 2 + placesOfMembers members
  | .alias _ => 1

/-- The number of places in a list of trees. -/
def placesOfItems : List Node → Nat
  | [] => 0
  | x :: rest => places x + placesOfItems rest

/-- The number of places in a list of members. -/
def placesOfMembers : List (Node × Node) → Nat
  | [] => 0
  | (k, v) :: rest => places k + places v + placesOfMembers rest

end

/-- The greatest depth of a document. -/
def maxDepth : Nat := 128

/-- The number of aliases that may be followed for each place of a document. -/
def aliasesPerPlace : Nat := 100

/-- A reading that counts the aliases that may still be followed. -/
abbrev Counted := StateT Nat Option

/-- Follow an alias. -/
def follow : Counted Unit := do
  match ← get with
  | 0 => failure
  | n + 1 => set n

/-- The text of a key. -/
def keyText : Node → Counted String
  | .scalar _ _ text => pure text
  | .alias target => do
    follow
    keyText target
  | _ => failure

mutual

/-- The value of a node of limited depth. -/
def value (depth : Nat) : Node → Counted Json
  | .scalar tag plain text => StateT.lift (scalarValue? tag plain text)
  | .sequence tag items =>
    if tag.any isLocalTag || depth = 0 then failure
    else return .array (← values (depth - 1) items)
  | .mapping tag members =>
    if tag.any isLocalTag || depth = 0 then failure
    else return .object (Json.membersOf (← memberValues (depth - 1) members))
  | .alias target => do
    follow
    value depth target

/-- The values of some nodes. -/
def values (depth : Nat) : List Node → Counted (List Json)
  | [] => pure []
  | x :: rest => return (← value depth x) :: (← values depth rest)

/-- The keys and values of some members. -/
def memberValues (depth : Nat) : List (Node × Node) → Counted (List (String × Json))
  | [] => pure []
  | (k, v) :: rest => do
    let k ← keyText k
    let v ← value depth v
    return (k, v) :: (← memberValues depth rest)

end

/-- The value of a document. -/
def toJson? (root : Node) : Option Json :=
  (value maxDepth root (aliasesPerPlace * root.places)).map Prod.fst

end Node

end ConformanceSuite.Yaml
