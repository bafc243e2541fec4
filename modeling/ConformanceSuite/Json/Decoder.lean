import ConformanceSuite.Json.Source
import ConformanceSuite.KeyMap

/-!
# Typed reading

A decoder turns a located value into a value of a type, or into the first problem in the order of
the text. Records may be given as objects, by name, or as arrays, by position.
-/

namespace ConformanceSuite.Json

/-- The problem behind the last part of a container, for one who reads it. -/
def Closing.check : Closing → Except Problem Unit
  | .fault f => .error f.read
  | _ => .ok ()

/-- The offset behind a container. -/
def Closing.stop : Closing → Nat
  | .bracket stop => stop
  | .fault f => f.read.offset
  | .unreached | .inMemory => 0

/-- The problem of a value that is not of the expected kind. -/
def Source.mismatch (expected : String) : Source → Problem
  | .fault _ f => f.read
  | .null _ stop => ⟨.invalidType .null expected, stop⟩
  | .bool _ stop b => ⟨.invalidType (.bool b) expected, stop⟩
  | .number _ stop (.ok n) => ⟨.invalidType (.ofNumber n) expected, stop⟩
  | .number _ _ (.error p) => p
  | .string _ stop (.ok s) => ⟨.invalidType (.string s) expected, stop⟩
  | .string _ _ (.error p) => p
  | .array start _ _ _ => ⟨.invalidType .sequence expected, start⟩
  | .object start _ _ _ => ⟨.invalidType .map expected, start⟩

/-- A way to read a type from a located value. -/
abbrev Decoder (α : Type) := Source → Except Problem α

namespace Decoder

variable {α β : Type}

/-- The problem of entering a container that is nested too deeply. -/
def enter : Option Problem → Except Problem Unit
  | none => .ok ()
  | some p => .error p

mutual

/-- Pass over a value that nobody asked for. -/
def skip : Decoder Unit
  | .fault _ f => .error f.skip
  | .array _ _ items closing => do skipItems items; skipClosing closing
  | .object _ _ members closing => do skipMembers members; skipClosing closing
  | _ => .ok ()

/-- Pass over items. -/
def skipItems : List Source → Except Problem Unit
  | [] => .ok ()
  | x :: xs => do skip x; skipItems xs

/-- Pass over members. -/
def skipMembers : List (Key × Source) → Except Problem Unit
  | [] => .ok ()
  | (_, x) :: xs => do skip x; skipMembers xs

/-- Pass over the end of a container. -/
def skipClosing : Closing → Except Problem Unit
  | .fault f => .error f.skip
  | _ => .ok ()

end

mutual

/-- Read any value. -/
def json : Decoder Json
  | .fault _ f => .error f.read
  | .null _ _ => .ok .null
  | .bool _ _ b => .ok (.bool b)
  | .number _ _ reading => reading.map .number
  | .string _ _ reading => reading.map .string
  | .array _ tooDeep items closing => do
    enter tooDeep
    let items ← jsonItems items
    closing.check
    .ok (.array items)
  | .object _ tooDeep members closing => do
    enter tooDeep
    let members ← jsonMembers members
    closing.check
    .ok (.object (membersOf members))

/-- Read items of any kind. -/
def jsonItems : List Source → Except Problem (List Json)
  | [] => .ok []
  | x :: xs => do
    let j ← json x
    let rest ← jsonItems xs
    .ok (j :: rest)

/-- Read members of any kind. -/
def jsonMembers : List (Key × Source) → Except Problem (List (String × Json))
  | [] => .ok []
  | (k, x) :: xs => do
    let key ← k.reading
    let j ← json x
    let rest ← jsonMembers xs
    .ok ((key, j) :: rest)

end

/-- Read a text. -/
def string : Decoder String
  | .string _ _ reading => reading
  | s => .error (s.mismatch "a string")

/-- Read a truth value. -/
def bool : Decoder Bool
  | .bool _ _ b => .ok b
  | s => .error (s.mismatch "a boolean")

/-- Read an integer of sixteen bits. -/
def uint16 : Decoder UInt16
  | .number start stop reading => do
    match ← reading with
    | .integer n _ =>
      if 0 ≤ n ∧ n < Int.pow 2 16 then .ok n.toNat.toUInt16
      else .error ⟨.invalidValue (.integer n) "u16", stop⟩
    | .float d => .error ((Source.number start stop (.ok (.float d))).mismatch "u16")
  | s => .error (s.mismatch "u16")

/-- Read a value that may be `null`. -/
def optional (d : Decoder α) : Decoder (Option α)
  | .null _ _ => .ok none
  | s => (d s).map some

/-- Read items in order. -/
def items (d : Decoder α) : List Source → Except Problem (List α)
  | [] => .ok []
  | x :: xs => do
    let a ← d x
    let rest ← items d xs
    .ok (a :: rest)

/-- Read a list. -/
def list (d : Decoder α) : Decoder (List α)
  | .array _ tooDeep sources closing => do
    enter tooDeep
    let result ← items d sources
    closing.check
    .ok result
  | s => .error (s.mismatch "a sequence")

/-- Read members in order. -/
def members (d : Decoder α) : List (Key × Source) → Except Problem (List (String × α))
  | [] => .ok []
  | (k, x) :: xs => do
    let key ← k.reading
    let a ← d x
    let rest ← members d xs
    .ok ((key, a) :: rest)

/-- Read an object as a finite map; the last of equal keys wins. -/
def map (d : Decoder α) : Decoder (KeyMap α)
  | .object _ tooDeep sources closing => do
    enter tooDeep
    let result ← members d sources
    closing.check
    .ok (.ofList result)
  | s => .error (s.mismatch "a map")

end Decoder

/-! ### Records -/

/-- A problem and its place in the order of reading. -/
structure Failure where
  time : Nat
  problem : Problem

/-- A value read from several fields, or the earliest failure. -/
structure Fielded (α : Type) where
  result : Except Failure α

namespace Fielded

variable {α β : Type}

/-- Of two failures the earlier one; the first one if they are at the same place. -/
def earlier (a b : Failure) : Failure :=
  if b.time < a.time then b else a

instance : Functor Fielded where
  map f x := ⟨x.result.map f⟩

/-- Apply a read function to a read argument. -/
def ap (f : Fielded (α → β)) (x : Fielded α) : Fielded β :=
  match f.result, x.result with
  | .ok f, .ok x => ⟨.ok (f x)⟩
  | .ok _, .error e => ⟨.error e⟩
  | .error e, .ok _ => ⟨.error e⟩
  | .error e, .error e' => ⟨.error (earlier e e')⟩

instance : Seq Fielded where
  seq f x := f.ap (x ())

end Fielded

/-- The parts of a record: for each field its value if it is there, and what its absence means. -/
structure Fields where
  byName : Bool
  find : (index : Nat) → Option (Nat × Source)
  absent : (index : Nat) → Failure

namespace Fields

variable {α : Type}

/-- Read a field's value at its place in the order of reading. -/
def readAt (d : Decoder α) (time : Nat) (s : Source) : Fielded α :=
  match d s with
  | .ok a => ⟨.ok a⟩
  | .error p => ⟨.error ⟨time, p⟩⟩

/-- A field that must be there. -/
def required (f : Fields) (index : Nat) (d : Decoder α) : Fielded α :=
  match f.find index with
  | some (time, s) => readAt d time s
  | none => ⟨.error (f.absent index)⟩

/-- A field with a default. -/
def withDefault (f : Fields) (index : Nat) (default : α) (d : Decoder α) : Fielded α :=
  match f.find index with
  | some (time, s) => readAt d time s
  | none => ⟨.ok default⟩

/-- An optional field that may be left out of an object, but not of an array. -/
def optional (f : Fields) (index : Nat) (d : Decoder α) : Fielded (Option α) :=
  match f.find index with
  | some (time, s) => readAt (Decoder.optional d) time s
  | none => if f.byName then ⟨.ok none⟩ else ⟨.error (f.absent index)⟩

/-- An optional field that may be left out. -/
def optionalOrAbsent (f : Fields) (index : Nat) (d : Decoder α) : Fielded (Option α) :=
  f.withDefault index none (Decoder.optional d)

end Fields

namespace Decoder

variable {α : Type}

/-- The first failure among the members of a record: a key that is no text, a field given twice, or
an unknown member that cannot be passed over. -/
def memberFailure? (names : List String) : (time : Nat) → (seen : List String) →
    List (Key × Source) → Option Failure
  | _, _, [] => none
  | time, seen, (k, s) :: rest =>
    match k.reading with
    | .error p => some ⟨time, p⟩
    | .ok name =>
      if names.contains name then
        if seen.contains name then some ⟨time, ⟨.duplicateField name, k.settled⟩⟩
        else memberFailure? names (time + 1) (name :: seen) rest
      else match skip s with
        | .error p => some ⟨time, p⟩
        | .ok _ => memberFailure? names (time + 1) seen rest

/-- The first member with a name, and its place. -/
def findField? (name : String) : (time : Nat) → List (Key × Source) → Option (Nat × Source)
  | _, [] => none
  | time, (k, s) :: rest =>
    match k.reading with
    | .ok n => if n = name then some (time, s) else findField? name (time + 1) rest
    | .error _ => findField? name (time + 1) rest

/-- The failure at the end of an object. -/
def closingFailure? (time : Nat) : Closing → Option Failure
  | .fault f => some ⟨time, f.read⟩
  | _ => none

/-- The problem of a record with more items than fields, or of an array that does not end behind
its last field. -/
def surplus? (count : Nat) (items : List Source) (closing : Closing) : Option Problem :=
  match items.drop count, closing with
  | _ :: _, .inMemory => some ⟨.invalidLength items.length "fewer elements in array", 0⟩
  | s :: _, _ => some ⟨.trailingCharacters, s.start + 1⟩
  | [], .fault ⟨⟨.expectedListCommaOrEnd, offset⟩, _⟩ => some ⟨.trailingCharacters, offset⟩
  | [], .fault ⟨⟨.eofInValue, offset⟩, _⟩ => some ⟨.trailingCharacters, offset⟩
  | [], .fault f => some f.read
  | [], _ => none

/-- What a record is called, with the number of its fields. -/
def withElements (expected : String) (count : Nat) : String :=
  if count = 1 then s!"{expected} with 1 element" else s!"{expected} with {count} elements"

/-- Keep the failure of the container as a whole if it is the earliest. -/
def settle (failure : Option Failure) (x : Fielded α) : Except Problem α :=
  match failure, x.result with
  | none, .ok a => .ok a
  | none, .error e => .error e.problem
  | some e, .ok _ => .error e.problem
  | some e, .error e' => .error (Fielded.earlier e e').problem

/-- Read a record with the given fields, from an object by name or from an array by position. -/
def record (name : String) (names : List String) (read : Fields → Fielded α) : Decoder α
  | .object _ tooDeep members closing => do
    enter tooDeep
    let count := members.length
    let failure := memberFailure? names 0 [] members <|> closingFailure? count closing
    settle failure <| read
      { byName := true
        find := fun i => (names[i]?).bind (findField? · 0 members)
        absent := fun i => ⟨count + 1, .missingField (names.getD i ""), closing.stop⟩ }
  | .array _ tooDeep items closing => do
    enter tooDeep
    let count := names.length
    let failure : Option Failure :=
      if items.length < count then closingFailure? items.length closing
      else (surplus? count items closing).map (⟨count, ·⟩)
    settle failure <| read
      { byName := false
        find := fun i => (items[i]?).map (i, ·)
        absent := fun i =>
          ⟨i, .invalidLength i (withElements s!"struct {name}" count), closing.stop⟩ }
  | s => .error (s.mismatch s!"struct {name}")

end Decoder

/-! ### Whole texts -/

/-- Read a whole text; blanks may follow the value. -/
def decodeText {α : Type} (d : Decoder α) (text : List UInt8) : Except Error α :=
  let located (p : Problem) : Error := ⟨p.cause, some (.ofOffset text p.offset)⟩
  let (source, after) := Source.ofText text
  match d source with
  | .error p => .error (located p)
  | .ok a =>
    match after with
    | none => .ok a
    | some r =>
      let r := r.skipBlanks
      if r.rest.isEmpty then .ok a else .error (located ⟨.trailingCharacters, r.ahead⟩)

/-- Read a value that was never text; its errors have no place. -/
def decode {α : Type} (d : Decoder α) (j : Json) : Except Error α :=
  match d (.ofJson j) with
  | .ok a => .ok a
  | .error p => .error ⟨p.cause, none⟩

/-- The value of a whole text. -/
def parse (text : List UInt8) : Except Error Json := decodeText Decoder.json text

/-- The bytes of a text. -/
def bytesOf (s : String) : List UInt8 := s.toUTF8.data.toList

end ConformanceSuite.Json
