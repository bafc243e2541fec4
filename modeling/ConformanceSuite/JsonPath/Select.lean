import ConformanceSuite.JsonPath.Basic
import ConformanceSuite.Json.Basic

/-!
# Selection by JSON paths

A path selects a list of values; each step maps the values selected so far. A filter keeps those
objects, among the selected values and the items of selected arrays, that meet its condition.
-/

namespace ConformanceSuite.JsonPath

/-- The place of a position in a list of a length: a negative position counts from the end and
stops at the beginning. -/
def place (position : Int) (length : Nat) : Nat :=
  if position < 0 then (position + length).toNat else min position.toNat length

mutual

/-- The values inside a value, each in front of the values inside it, mapped and joined. -/
def walk (f : Json → List Json) : Json → List Json
  | .array items => f (.array items) ++ walkItems f items
  | .object members => f (.object members) ++ walkMembers f members
  | .null => f .null
  | .bool b => f (.bool b)
  | .number n => f (.number n)
  | .string s => f (.string s)

/-- The walks of items, joined. -/
def walkItems (f : Json → List Json) : List Json → List Json
  | [] => []
  | x :: xs => walk f x ++ walkItems f xs

/-- The walks of members, joined. -/
def walkMembers (f : Json → List Json) : List (String × Json) → List Json
  | [] => []
  | (_, x) :: xs => walk f x ++ walkMembers f xs

end

/-- The items of an array or the values of an object. -/
def childrenOf : Json → List Json
  | .array items => items
  | .object members => members.map (·.2)
  | _ => []

/-- The members of an object with the given keys; other values have none. -/
def childrenNamed (keys : List String) : Json → List Json
  | .object members => keys.filterMap (Json.findMember? · members)
  | _ => []

/-- The item of an array at a position; of an object, those of the arrays among its members. -/
def itemAt (position : Int) : Json → List Json
  | .array items => items[place position items.length]?.toList
  | .object members => members.flatMap fun m =>
    match m.2 with
    | .array items => items[place position items.length]?.toList
    | _ => []
  | _ => []

/-- The items of an array at positions. -/
def itemsAt (positions : List Int) : Json → List Json
  | .array items => positions.filterMap fun p => items[place p items.length]?
  | _ => []

/-- The items of a list at every `stride`-th place, from the first on. -/
def everyNth {α : Type} (stride : Nat) (items : List α) : List α :=
  (items.zipIdx.filter fun p => p.2 % max stride 1 = 0).map (·.1)

/-- The items of an array between two positions. -/
def sliceOf (start stop : Option Int) (stride : Option Nat) : Json → List Json
  | .array items =>
    let low := (start.map (place · items.length)).getD 0
    let high := (stop.map (place · items.length)).getD items.length
    everyNth (stride.getD 1) ((items.take high).drop low)
  | _ => []

/-- All descendants of values. -/
def descendantsOf (values : List Json) : List Json := values.flatMap (walk childrenOf)

/-! ### Filters -/

/-- Values found by a relative path: the last objects on the way, the key to look at in them, and
the values that the path started from if it took more than one step. -/
structure Nodes where
  parents : Option (List Json)
  key : Option String
  values : List Json

/-- What a condition or one of its sides stands for. -/
inductive Term where
  | string (text : String)
  | number (value : Double)
  | bool (value : Bool)
  | nodes (nodes : Nodes)

/-- Whether a value is an object with a key. -/
def hasKey (key : String) : Json → Bool
  | .object members => (Json.findMember? key members).isSome
  | _ => false

/-- The objects with a key among values and the items of arrays among them. -/
def objectsWithKey (key : String) (values : List Json) : List Json :=
  values.flatMap fun v =>
    match v with
    | .array items => items.filter (hasKey key)
    | v => if hasKey key v then [v] else []

/-- The values that a key leads to; a value without the key leads to itself. -/
def follow (key : Option String) (values : List Json) : List Json :=
  match key with
  | none => values
  | some k => values.map fun v => (v.get? k).getD v

/-- Take a key step on a relative path. -/
def Nodes.step (key : String) (selected : List Json) : Option Nodes → Nodes
  | none => ⟨none, some key, objectsWithKey key selected⟩
  | some n =>
    let reached := follow n.key n.values
    let kept := (n.values.zip reached).filterMap fun p => if hasKey key p.2 then some p.1 else none
    ⟨some (n.parents.getD kept), some key, objectsWithKey key reached⟩

/-- Take a step to all objects with a key on a relative path. -/
def Nodes.stepDeep (key : String) (selected : List Json) : Option Nodes → Nodes
  | none => ⟨none, none, selected.flatMap (walk fun v => if hasKey key v then [v] else [])⟩
  | some n =>
    let reached := follow n.key n.values
    ⟨some (n.parents.getD n.values), none,
      reached.flatMap (walk fun v => if hasKey key v then [v] else [])⟩

/-- What a comparison says of values that it cannot compare. -/
def Comparison.onMismatch : Comparison → Bool
  | .notEqual => true
  | _ => false

/-- Compare numbers. -/
def Comparison.numbers (op : Comparison) (a b : Float) : Bool :=
  match op with
  | .equal => a == b
  | .notEqual => a != b
  | .less => a < b
  | .lessOrEqual => a ≤ b
  | .greater => a > b
  | .greaterOrEqual => a ≥ b

/-- Compare texts, by code points. -/
def Comparison.texts (op : Comparison) (a b : String) : Bool :=
  match op with
  | .equal => a == b
  | .notEqual => a != b
  | .less => a < b
  | .lessOrEqual => a ≤ b
  | .greater => b < a
  | .greaterOrEqual => b ≤ a

/-- Compare truth values; false is less than true. -/
def Comparison.bools (op : Comparison) (a b : Bool) : Bool :=
  match op with
  | .equal => a == b
  | .notEqual => a != b
  | .less => !a && b
  | .lessOrEqual => !a || b
  | .greater => a && !b
  | .greaterOrEqual => a || !b

/-- The comparison with its sides exchanged. -/
def Comparison.swap : Comparison → Comparison
  | .equal => .equal
  | .notEqual => .notEqual
  | .less => .greater
  | .lessOrEqual => .greaterOrEqual
  | .greater => .less
  | .greaterOrEqual => .lessOrEqual

/-- Compare values pairwise: the left ones that agree with some right one. Only equality has a
meaning here. -/
def Comparison.values (op : Comparison) (a b : List Json) : List Json :=
  match op with
  | .equal => a.filter fun x => b.any (x = ·)
  | .notEqual => a.filter fun x => b.any (x ≠ ·)
  | _ => []

/-- Compare a value with a literal. -/
def Comparison.withLiteral (op : Comparison) (literal : Term) (value : Json) : Bool :=
  match literal, value with
  | .string s, .string t => op.texts t s
  | .number d, .number n => op.numbers n.toFloat d.toFloat
  | .bool b, .bool c => op.bools c b
  | _, _ => op.onMismatch

/-- The values found that agree with a literal; an object is looked at through the key. -/
def Nodes.agreeing (op : Comparison) (n : Nodes) (literal : Term) : List Json :=
  n.values.filter fun v =>
    match v with
    | .object members => (n.key.bind (Json.findMember? · members)).elim op.onMismatch
        (op.withLiteral literal)
    | .array _ => op.onMismatch
    | v => op.withLiteral literal v

/-- The objects that have one of some values as a member. -/
def withMember (values : List Json) (parents : List Json) : List Json :=
  parents.filter fun p =>
    match p with
    | .object members => members.any fun m => values.any (m.2 = ·)
    | _ => false

/-- The term of the values that a comparison keeps; none kept is a mere truth value. -/
def Nodes.kept (op : Comparison) (parents : Option (List Json)) (values : List Json) : Term :=
  if values.isEmpty then .bool op.onMismatch else .nodes ⟨parents, none, values⟩

/-- Compare the values found with a literal. -/
def Nodes.compareLiteral (op : Comparison) (n : Nodes) (literal : Term) : Term :=
  let values := n.agreeing op literal
  Nodes.kept op (n.parents.map (withMember values)) values

/-- Compare two terms. -/
def Term.compare (op : Comparison) : Term → Term → Term
  | .string a, .string b => .bool (op.texts a b)
  | .number a, .number b => .bool (op.numbers a.toFloat b.toFloat)
  | .bool a, .bool b => .bool (op.bools a b)
  | .nodes a, .nodes b =>
    Nodes.kept op a.parents (op.values (a.parents.getD a.values) (b.parents.getD b.values))
  | .nodes a, literal => a.compareLiteral op literal
  | literal, .nodes b => b.compareLiteral op.swap literal
  | _, _ => .bool op.onMismatch

/-- Both terms: the values in both. -/
def Term.both : Term → Term → Term
  | .bool a, .bool b => .bool (a && b)
  | .nodes a, .nodes b =>
    Nodes.kept .equal a.parents
      (Comparison.values .equal (a.parents.getD a.values) (b.parents.getD b.values))
  | _, _ => .bool false

/-- Either term: the values in one or the other. -/
def Term.either : Term → Term → Term
  | .bool a, .bool b => .bool (a || b)
  | .nodes a, .nodes b =>
    let left := a.parents.getD a.values
    let right := b.parents.getD b.values
    Nodes.kept .equal none (left ++ right.filter fun y => !left.any (y = ·))
  | .nodes a, _ => .nodes a
  | _, .nodes b => .nodes b
  | a, _ => a

/-- The literal of a single plain value, else the values themselves. -/
def Term.ofValues : List Json → Term
  | [.number n] => .number (.ofFloat n.toFloat)
  | [.string s] => .string s
  | [.bool b] => .bool b
  | values => .nodes ⟨none, none, values⟩

/-- What a filter keeps of the selected values. -/
def Term.result (selected : List Json) : Term → List Json
  | .bool false => []
  | .nodes n => if n.values.isEmpty then [] else n.parents.getD n.values
  | _ => selected

mutual

/-- Take one step. -/
def select (root : Json) (step : Step) (selected : List Json) : List Json :=
  match step with
  | .child keys => selected.flatMap (childrenNamed keys)
  | .children => selected.flatMap childrenOf
  | .descendantsNamed key => selected.flatMap (walk (childrenNamed [key]))
  | .descendants => descendantsOf selected
  | .index false position => selected.flatMap (itemAt position)
  | .index true position => selected.flatMap (walk fun v =>
      match v with
      | .array items => items[position.toNat]?.toList
      | _ => [])
  | .indices positions => selected.flatMap (itemsAt positions)
  | .slice start stop stride => selected.flatMap (sliceOf start stop stride)
  | .filter deep condition =>
    let selected := if deep then descendantsOf selected else selected
    (test root condition selected).result selected

/-- Take steps in order. -/
def selectAll (root : Json) (path : List Step) (selected : List Json) : List Json :=
  match path with
  | [] => selected
  | step :: rest => selectAll root rest (select root step selected)

/-- Follow a relative path in a filter: keys lead on from the values found so far, any other step
moves the selection itself. -/
def relative (root : Json) (path : List Step) (selected : List Json) (found : Option Nodes) :
    Term :=
  match path with
  | [] => .nodes (found.getD ⟨none, none, selected⟩)
  | .child [key] :: rest => relative root rest selected (some (Nodes.step key selected found))
  | .descendantsNamed key :: rest =>
    relative root rest selected (some (Nodes.stepDeep key selected found))
  | step :: rest => relative root rest (select root step selected) found

/-- The term of a side of a comparison. -/
def evaluate (root : Json) (operand : Operand) (selected : List Json) : Term :=
  match operand with
  | .relative path => relative root path selected none
  | .absolute path => Term.ofValues (selectAll root path [root])
  | .string s => .string s
  | .number d => .number d
  | .bool b => .bool b

/-- The term of a condition. -/
def test (root : Json) (condition : Condition) (selected : List Json) : Term :=
  match condition with
  | .holds path => relative root path selected none
  | .compare op left right =>
    Term.compare op (evaluate root left selected) (evaluate root right selected)
  | .and left right => Term.both (test root left selected) (test root right selected)
  | .or left right => Term.either (test root left selected) (test root right selected)

end

/-- The values that a path selects in a document; `none` if the text is no path. -/
def find? (path : String) (document : Json) : Option (List Json) :=
  (ofString? path).map fun steps => selectAll document steps [document]

end ConformanceSuite.JsonPath
