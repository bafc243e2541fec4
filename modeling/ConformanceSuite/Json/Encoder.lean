import ConformanceSuite.KeyMap
import ConformanceSuite.Json.Basic

/-!
# Values of records and collections

The counterparts of the record decoders: a record is the concatenation of its members, and an
optional member that is absent contributes none.
-/

namespace ConformanceSuite.Json

/-- The member of an optional field. -/
def optionalMember (key : String) : Option Json → List (String × Json)
  | some value => [(key, value)]
  | none => []

/-- The value of a list. -/
def ofList {α : Type} (f : α → Json) (l : List α) : Json := .array (l.map f)

/-- The value of a finite map, in ascending order of keys. -/
def ofMap {α : Type} (f : α → Json) (m : KeyMap α) : Json :=
  .object (m.entries.map fun e => (e.1, f e.2))

@[simp] theorem optionalMember_none (key : String) : optionalMember key none = [] := rfl

@[simp] theorem optionalMember_some (key : String) (value : Json) :
    optionalMember key (some value) = [(key, value)] := rfl

end ConformanceSuite.Json
