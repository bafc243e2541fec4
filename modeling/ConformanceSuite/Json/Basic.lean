import ConformanceSuite.Double

/-!
# JSON values

Numbers are exact integers of at most 64 bits or doubles; objects keep their members in the order
in which their keys first appeared.
-/

namespace ConformanceSuite

namespace Json

/-- The integers that are held exactly. -/
def InRange (n : Int) : Prop := -Int.pow 2 63 ≤ n ∧ n < Int.pow 2 64

instance (n : Int) : Decidable (InRange n) := inferInstanceAs (Decidable (_ ∧ _))

/-- A number: an exact integer, or a double. -/
inductive Number where
  | integer (value : Int) (inRange : InRange value)
  | float (value : Double)
  deriving DecidableEq

/-- The number of an integer; one out of range is held as the nearest double. -/
def Number.ofInt (n : Int) : Number :=
  if h : InRange n then .integer n h
  else .float (if n < 0 then (Double.ofNat n.natAbs).neg else Double.ofNat n.natAbs)

/-- The exact value of a number. -/
def Number.toRat : Number → Rat
  | .integer n _ => n
  | .float d => d.toRat

/-- The nearest machine float. -/
def Number.toFloat : Number → Float
  | .integer n _ => Float.ofInt n
  | .float d => d.toFloat

end Json

/-- A JSON value. -/
inductive Json where
  | null
  | bool (value : Bool)
  | number (value : Json.Number)
  | string (value : String)
  | array (items : List Json)
  | object (members : List (String × Json))
  deriving Inhabited

namespace Json

mutual

/-- Equality of values, decided. -/
def same : Json → Json → Bool
  | .null, .null => true
  | .bool a, .bool b => a == b
  | .number a, .number b => decide (a = b)
  | .string a, .string b => a == b
  | .array a, .array b => sameItems a b
  | .object a, .object b => sameMembers a b
  | _, _ => false

/-- Equality of lists of values, decided. -/
def sameItems : List Json → List Json → Bool
  | [], [] => true
  | x :: xs, y :: ys => same x y && sameItems xs ys
  | _, _ => false

/-- Equality of lists of members, decided. -/
def sameMembers : List (String × Json) → List (String × Json) → Bool
  | [], [] => true
  | (k, x) :: xs, (l, y) :: ys => k == l && same x y && sameMembers xs ys
  | _, _ => false

end

mutual

theorem same_iff : ∀ a b : Json, same a b = true ↔ a = b
  | .null, b => by cases b <;> simp [same]
  | .bool a, b => by cases b <;> simp [same]
  | .number a, b => by cases b <;> simp [same]
  | .string a, b => by cases b <;> simp [same]
  | .array a, .array b => by simp [same, sameItems_iff a b]
  | .array _, .null | .array _, .bool _ | .array _, .number _ | .array _, .string _
  | .array _, .object _ => by simp [same]
  | .object a, .object b => by simp [same, sameMembers_iff a b]
  | .object _, .null | .object _, .bool _ | .object _, .number _ | .object _, .string _
  | .object _, .array _ => by simp [same]

theorem sameItems_iff : ∀ a b : List Json, sameItems a b = true ↔ a = b
  | [], b => by cases b <;> simp [sameItems]
  | x :: xs, [] => by simp [sameItems]
  | x :: xs, y :: ys => by simp [sameItems, same_iff x y, sameItems_iff xs ys]

theorem sameMembers_iff : ∀ a b : List (String × Json), sameMembers a b = true ↔ a = b
  | [], b => by cases b <;> simp [sameMembers]
  | x :: xs, [] => by simp [sameMembers]
  | (k, x) :: xs, (l, y) :: ys => by
    simp [sameMembers, same_iff x y, sameMembers_iff xs ys, and_assoc]

end

instance : DecidableEq Json := fun a b => decidable_of_iff _ (same_iff a b)

/-- The value of an integer. -/
def ofInt (n : Int) : Json := .number (.ofInt n)

/-- The value of a natural number. -/
def ofNat (n : Nat) : Json := ofInt n

/-- The value of an optional text: `null` if it is absent. -/
def ofString? : Option String → Json
  | none => .null
  | some s => .string s

/-- The value of a list of texts. -/
def ofStrings (l : List String) : Json := .array (l.map .string)

/-- The value of the first member with a key. -/
def findMember? (key : String) : List (String × Json) → Option Json
  | [] => none
  | (k, v) :: rest => if k = key then some v else findMember? key rest

/-- Give a member a value: in place if the key is there, else at the end. -/
def setMember (key : String) (value : Json) : List (String × Json) → List (String × Json)
  | [] => [(key, value)]
  | (k, v) :: rest => if k = key then (k, value) :: rest else (k, v) :: setMember key value rest

/-- The members of a list of pairs in which keys may repeat: each key at its first place with its
last value. -/
def membersOf (pairs : List (String × Json)) : List (String × Json) :=
  pairs.foldl (fun acc p => setMember p.1 p.2 acc) []

/-- The value of a member of an object. -/
def get? : Json → String → Option Json
  | .object members, key => findMember? key members
  | _, _ => none

/-- The text of a string value. -/
def string? : Json → Option String
  | .string s => some s
  | _ => none

/-- The items of an array value. -/
def array? : Json → Option (List Json)
  | .array items => some items
  | _ => none

/-- The members of an object value. -/
def object? : Json → Option (List (String × Json))
  | .object members => some members
  | _ => none

/-- The text of a member that is a string. -/
def stringAt? (j : Json) (key : String) : Option String :=
  (j.get? key).bind string?

@[simp] theorem get?_object (members : List (String × Json)) (key : String) :
    (Json.object members).get? key = findMember? key members := rfl

@[simp] theorem string?_string (s : String) : (Json.string s).string? = some s := rfl

theorem findMember?_setMember (key other : String) (value : Json) (l : List (String × Json)) :
    findMember? other (setMember key value l) =
      if key = other then some value else findMember? other l := by
  induction l with
  | nil => simp [setMember, findMember?]
  | cons x rest ih =>
    obtain ⟨k, v⟩ := x
    simp only [setMember]
    by_cases hk : k = key
    · subst hk
      by_cases h : k = other <;> simp [findMember?, h]
    · by_cases h : k = other
      · subst h
        have : ¬ key = k := fun e => hk e.symm
        simp [hk, findMember?, this]
      · simp [hk, findMember?, h, ih]

end Json

end ConformanceSuite
