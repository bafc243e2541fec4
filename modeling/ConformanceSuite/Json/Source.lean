import ConformanceSuite.Json.Scanner

/-!
# Located values

`Source` is a JSON text as a tree that knows where its parts stand and where it stops being JSON.
What is wrong with a part depends on whether the part is *read* for its value or *skipped* as a
member nobody asked for, so a fault holds both problems. A tree can also be made from a value that
is already there; then places mean nothing.
-/

namespace ConformanceSuite.Json

/-- A place where a text stops being JSON: the problem for one who reads on and for one who
skips. -/
structure Fault where
  read : Problem
  skip : Problem

/-- A fault that is the same for readers and skippers. -/
def Fault.both (cause : Cause) (offset : Nat) : Fault := ⟨⟨cause, offset⟩, ⟨cause, offset⟩⟩

/-- What follows the last item of an array or the last member of an object: its bracket (with the
offset behind it), a fault, nothing because the last part is faulty, or nothing because the value
was never text. -/
inductive Closing where
  | bracket (stop : Nat)
  | fault (fault : Fault)
  | unreached
  | inMemory

/-- The key of a member, and the offset behind it, behind the blanks that follow, and behind a
bracket if one stands there. -/
structure Key where
  reading : Except Problem String
  settled : Nat

/-- A located value. Containers carry the problem of being nested too deeply to be read. -/
inductive Source where
  | fault (start : Nat) (fault : Fault)
  | null (start stop : Nat)
  | bool (start stop : Nat) (value : Bool)
  | number (start stop : Nat) (reading : Except Problem Number)
  | string (start stop : Nat) (reading : Except Problem String)
  | array (start : Nat) (tooDeep : Option Problem) (items : List Source) (closing : Closing)
  | object (start : Nat) (tooDeep : Option Problem) (members : List (Key × Source))
      (closing : Closing)

/-- The nesting depth that is no longer read. -/
def depthLimit : Nat := 128

namespace Source

/-- The offset of the first byte. -/
def start : Source → Nat
  | fault s _ | null s _ | bool s _ _ | number s _ _ | string s _ _ | array s _ _ _
  | object s _ _ _ => s

/-- The problem of entering a container that has `depth` containers around it. -/
def depthProblem (depth start : Nat) : Option Problem :=
  if depth + 1 ≥ depthLimit then some ⟨.recursionLimit, start + 1⟩ else none

/-- Read a leaf strictly, or find only its end. -/
def leaf {α : Type} (start : Nat) (reading : Except Problem (α × Reader))
    (skipping : Except Problem Reader) (make : Nat → Except Problem α → Source) :
    Source × Option Reader :=
  match reading with
  | .ok (value, after) => (make after.offset (.ok value), some after)
  | .error p =>
    match skipping with
    | .ok after => (make after.offset (.error p), some after)
    | .error q => (.fault start ⟨p, q⟩, none)

/-- Read a fixed word, whose first letter is there. -/
def word (r : Reader) (letters : List UInt8) (make : Nat → Source) : Source × Option Reader :=
  match readWord letters (r.rest.drop 1) (r.offset + 1) with
  | .ok after => (make after.offset, some after)
  | .error p => (.fault r.offset ⟨p, p⟩, none)

/-- A key behind its opening quote, and where the text goes on. -/
def key (r : Reader) : Except Fault (Key × Reader) :=
  let settled (after : Reader) : Nat :=
    match after.skipBlanks.rest with
    | 0x7d :: _ => after.skipBlanks.offset + 1
    | _ => after.skipBlanks.offset
  match readString r with
  | .ok (s, after) => .ok (⟨.ok s, settled after⟩, after)
  | .error p =>
    match skipString r with
    | .ok after => .ok (⟨.error p, settled after⟩, after)
    | .error q => .error ⟨p, q⟩

/-- Move behind the colon of a member. -/
def colon (r : Reader) : Except Fault Reader :=
  let r := r.skipBlanks
  match r.rest with
  | 0x3a :: _ => .ok (r.drop 1)
  | [] => .error (.both .eofInObject r.offset)
  | _ => .error (.both .expectedColon r.ahead)

/-- Where the next item of an array begins, if there is one. -/
inductive NextItem where
  | item (r : Reader)
  | close (after : Reader)
  | fault (f : Fault)

/-- Look for the next item of an array. -/
def nextItem (first : Bool) (r : Reader) : NextItem :=
  let r := r.skipBlanks
  match r.rest with
  | [] => .fault (.both .eofInList r.offset)
  | 0x5d :: _ => .close (r.drop 1)
  | 0x2c :: _ =>
    if first then .item r
    else
      let r := (r.drop 1).skipBlanks
      match r.rest with
      | [] => .fault (.both .eofInValue r.offset)
      | 0x5d :: _ => .fault ⟨⟨.trailingComma, r.ahead⟩, ⟨.expectedValue, r.ahead⟩⟩
      | _ => .item r
  | _ => if first then .item r else .fault (.both .expectedListCommaOrEnd r.ahead)

/-- Look for the opening quote of the next key of an object; an item stands for a key. -/
def nextKey (first : Bool) (r : Reader) : NextItem :=
  let r := r.skipBlanks
  match r.rest with
  | [] => .fault (.both .eofInObject r.offset)
  | 0x7d :: _ => .close (r.drop 1)
  | 0x22 :: _ =>
    if first then .item (r.drop 1) else .fault (.both .expectedObjectCommaOrEnd r.ahead)
  | 0x2c :: _ =>
    if first then .fault (.both .keyMustBeString r.ahead)
    else
      let r := (r.drop 1).skipBlanks
      match r.rest with
      | [] => .fault ⟨⟨.eofInValue, r.offset⟩, ⟨.eofInObject, r.offset⟩⟩
      | 0x22 :: _ => .item (r.drop 1)
      | 0x7d :: _ => .fault ⟨⟨.trailingComma, r.ahead⟩, ⟨.keyMustBeString, r.ahead⟩⟩
      | _ => .fault (.both .keyMustBeString r.ahead)
  | _ =>
    .fault (.both (if first then .keyMustBeString else .expectedObjectCommaOrEnd) r.ahead)

mutual

/-- Read a value with `depth` containers around it. The second result is where the text goes on;
there is none behind a fault. Two steps in a row move at least one byte on, so fuel of twice the
text's length is never used up. -/
def readValue : (fuel : Nat) → (depth : Nat) → Reader → Source × Option Reader
  | 0, _, r => (.fault r.offset (.both .eofInValue r.offset), none)
  | fuel + 1, depth, r =>
    let r := r.skipBlanks
    match r.rest with
    | [] => (.fault r.offset (.both .eofInValue r.offset), none)
    | 0x6e :: _ => word r [0x75, 0x6c, 0x6c] (.null r.offset)
    | 0x74 :: _ => word r [0x72, 0x75, 0x65] (.bool r.offset · true)
    | 0x66 :: _ => word r [0x61, 0x6c, 0x73, 0x65] (.bool r.offset · false)
    | 0x22 :: _ =>
      leaf r.offset (readString (r.drop 1)) (skipString (r.drop 1)) (.string r.offset)
    | 0x5b :: _ =>
      let (items, closing, after) := readItems fuel (depth + 1) true (r.drop 1) []
      (.array r.offset (depthProblem depth r.offset) items closing, after)
    | 0x7b :: _ =>
      let (members, closing, after) := readMembers fuel (depth + 1) true (r.drop 1) []
      (.object r.offset (depthProblem depth r.offset) members closing, after)
    | b :: _ =>
      if b = 0x2d ∨ isDigit b then leaf r.offset (readNumber r) (skipNumber r) (.number r.offset)
      else (.fault r.offset (.both .expectedValue r.ahead), none)

/-- Read the items of an array up to its bracket; `acc` holds those read, in reverse. -/
def readItems : (fuel : Nat) → (depth : Nat) → (first : Bool) → Reader → (acc : List Source) →
    List Source × Closing × Option Reader
  | 0, _, _, r, acc => (acc.reverse, .fault (.both .eofInList r.offset), none)
  | fuel + 1, depth, first, r, acc =>
    match nextItem first r with
    | .fault f => (acc.reverse, .fault f, none)
    | .close after => (acc.reverse, .bracket after.offset, some after)
    | .item r =>
      match readValue fuel depth r with
      | (item, some after) => readItems fuel depth false after (item :: acc)
      | (item, none) => ((item :: acc).reverse, .unreached, none)

/-- Read the members of an object up to its bracket; `acc` holds those read, in reverse. -/
def readMembers : (fuel : Nat) → (depth : Nat) → (first : Bool) → Reader →
    (acc : List (Key × Source)) → List (Key × Source) × Closing × Option Reader
  | 0, _, _, r, acc => (acc.reverse, .fault (.both .eofInObject r.offset), none)
  | fuel + 1, depth, first, r, acc =>
    match nextKey first r with
    | .fault f => (acc.reverse, .fault f, none)
    | .close after => (acc.reverse, .bracket after.offset, some after)
    | .item r =>
      match key r with
      | .error f => (acc.reverse, .fault f, none)
      | .ok (k, r) =>
        match colon r with
        | .error f => (((k, .fault r.offset f) :: acc).reverse, .unreached, none)
        | .ok r =>
          match readValue fuel depth r with
          | (value, some after) => readMembers fuel depth false after ((k, value) :: acc)
          | (value, none) => (((k, value) :: acc).reverse, .unreached, none)

end

/-- The tree of a text, and where the text goes on behind it. -/
def ofText (text : List UInt8) : Source × Option Reader :=
  readValue (2 * text.length + 2) 0 ⟨0, text⟩

mutual

/-- The tree of a value that was never text. -/
def ofJson : Json → Source
  | .null => .null 0 0
  | .bool b => .bool 0 0 b
  | .number n => .number 0 0 (.ok n)
  | .string s => .string 0 0 (.ok s)
  | .array items => .array 0 none (ofItems items) .inMemory
  | .object members => .object 0 none (ofMembers members) .inMemory

/-- The trees of the items of an array. -/
def ofItems : List Json → List Source
  | [] => []
  | x :: xs => ofJson x :: ofItems xs

/-- The trees of the members of an object. -/
def ofMembers : List (String × Json) → List (Key × Source)
  | [] => []
  | (k, v) :: rest => (⟨.ok k, 0⟩, ofJson v) :: ofMembers rest

end


end Source

end ConformanceSuite.Json
