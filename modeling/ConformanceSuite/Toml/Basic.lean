/-!
# TOML values

The values of a TOML text that settings can have, and the rules by which the statements of a text
build up tables: nothing is defined twice, and a table is only added to in the way in which it was
begun.
-/

namespace ConformanceSuite.Toml

/-- How a table came to be: in braces, by a header of its own, by the header of a table in it, or by
a key with points. -/
inductive Origin where
  | inline
  | header
  | innerHeader
  | dottedKey
  deriving DecidableEq

/-- A value. An array is open if it was begun by a header in double brackets. -/
inductive Value where
  | string (text : String)
  | integer (n : Int)
  | boolean (value : Bool)
  | array (isOpen : Bool) (items : List Value)
  | table (origin : Origin) (members : List (String × Value))
  deriving Inhabited

/-- The members of a table, in the order in which they were defined. -/
abbrev Members := List (String × Value)

/-- Give a key of a table a value. -/
def setMember (key : String) (value : Value) : Members → Members
  | [] => [(key, value)]
  | (k, v) :: rest => if k = key then (k, value) :: rest else (k, v) :: setMember key value rest

/-- A change of what stands at a key, if anything does; a change that is refused gives nothing. -/
abbrev Change := Option Value → Option Value

/-- Add a value that must be the first one. -/
def define (value : Value) : Change
  | none => some value
  | some _ => none

/-- Begin a table by its header. -/
def beginTable : Change
  | none => some (.table .header [])
  | some (.table .innerHeader members) => some (.table .header members)
  | some _ => none

/-- Begin the next table of an array by its header. -/
def beginItem : Change
  | none => some (.array true [.table .header []])
  | some (.array true items) => some (.array true (items ++ [.table .header []]))
  | some _ => none

/-- Change what stands at the end of a path. A path of a header passes through the last item of an
open array; one of a key with points only adds to tables that have no header. -/
def changeAt (dotted : Bool) (change : Change) : List String → Members → Option Members
  | [], _ => none
  | [key], members => (change (members.lookup key)).map (setMember key · members)
  | key :: rest, members =>
    let within (inner : Members) := changeAt dotted change rest inner
    let changed : Option Value :=
      match members.lookup key with
      | none =>
        (within []).map (.table (if dotted then .dottedKey else .innerHeader))
      | some (.table origin inner) =>
        if origin = .inline ∨ (dotted ∧ origin = .header) then none
        else (within inner).map (.table origin)
      | some (.array isOpen items) =>
        match isOpen && !dotted, items.getLast? with
        | true, some (.table origin inner) =>
          (within inner).map fun inner => .array true (items.dropLast ++ [.table origin inner])
        | _, _ => none
      | some _ => none
    changed.map (setMember key · members)

/-- Change the table to which a path of headers leads. -/
def within (change : Members → Option Members) : List String → Members → Option Members
  | [], members => change members
  | key :: rest, members =>
    let changed : Option Value :=
      match members.lookup key with
      | some (.table origin inner) => (within change rest inner).map (.table origin)
      | some (.array isOpen items) =>
        match items.getLast? with
        | some (.table origin inner) =>
          (within change rest inner).map fun inner =>
            .array isOpen (items.dropLast ++ [.table origin inner])
        | _ => none
      | _ => none
    changed.map (setMember key · members)

/-- A statement of a text. -/
inductive Statement where
  | assign (path : List String) (value : Value)
  | table (path : List String)
  | item (path : List String)

/-- Carry out statements, in the table of the last header. -/
def build : List Statement → (header : List String) → Members → Option Members
  | [], _, root => some root
  | .assign path value :: rest, header, root =>
    (within (changeAt true (define value) path) header root).bind (build rest header)
  | .table path :: rest, _, root => (changeAt false beginTable path root).bind (build rest path)
  | .item path :: rest, _, root => (changeAt false beginItem path root).bind (build rest path)

/-- The members that assignments in braces define. -/
def inlineMembers (assignments : List (List String × Value)) : Option Members :=
  assignments.foldlM (fun members a => changeAt true (define a.2) a.1 members) []

end ConformanceSuite.Toml
