import ConformanceSuite.Json.Decoder

/-!
# Universally unique identifiers

An identifier is thirty-two hexadecimal digits. It is written in five groups; it is read with or
without the groups, in braces, or behind `urn:uuid:`.
-/

namespace ConformanceSuite

/-- An identifier by its hexadecimal digits. -/
structure Uuid where
  digits : List (Fin 16)
  size : digits.length = 32
  deriving DecidableEq

/-- Why a text is no identifier. -/
inductive UuidError where
  | character (found : Char) (position : Nat)
  | simpleLength (length : Nat)
  | groupCount (count : Nat)
  | groupLength (group length : Nat)

namespace UuidError

/-- The lengths of the five groups. -/
def groupLengths : List Nat := [8, 4, 4, 4, 12]

/-- A failure in words. -/
def message : UuidError → String
  | .character found position =>
    "invalid character: expected an optional prefix of `urn:uuid:` followed by [0-9a-fA-F-], " ++
      s!"found `{found}` at {position}"
  | .simpleLength length =>
    s!"invalid length: expected length 32 for simple format, found {length}"
  | .groupCount count => s!"invalid group count: expected 5, found {count}"
  | .groupLength group length =>
    s!"invalid group length in group {group}: expected {groupLengths.getD group 0}, found {length}"

end UuidError

namespace Uuid

/-- The character of a digit. -/
def digitChar (d : Fin 16) : Char := Nat.digitChar d.val

/-- The digit of a character, small or capital. -/
def digit? (c : Char) : Option (Fin 16) :=
  if '0' ≤ c ∧ c ≤ '9' then some (Fin.ofNat 16 (c.toNat - '0'.toNat))
  else if 'a' ≤ c ∧ c ≤ 'f' then some (Fin.ofNat 16 (c.toNat - 'a'.toNat + 10))
  else if 'A' ≤ c ∧ c ≤ 'F' then some (Fin.ofNat 16 (c.toNat - 'A'.toNat + 10))
  else none

/-- The identifier of thirty-two characters. -/
def ofDigits? (cs : List Char) : Option Uuid :=
  match cs.mapM digit? with
  | none => none
  | some digits => if h : digits.length = 32 then some ⟨digits, h⟩ else none

/-- The characters of the five groups, with the hyphens taken out. -/
def ungroup? (cs : List Char) : Option (List Char) :=
  if cs.length = 36 ∧ [8, 13, 18, 23].all (fun i => cs[i]? == some '-') then
    some (cs.take 8 ++ (cs.drop 9).take 4 ++ (cs.drop 14).take 4 ++ (cs.drop 19).take 4 ++
      cs.drop 24)
  else none

/-- The identifier of a text in braces, behind its name space, in groups or plain. -/
def ofChars? (cs : List Char) : Option Uuid :=
  if cs.length = 32 then ofDigits? cs
  else if cs.length = 36 then (ungroup? cs).bind ofDigits?
  else if cs.length = 38 ∧ cs.head? = some '{' ∧ cs.getLast? = some '}' then
    (ungroup? ((cs.drop 1).dropLast)).bind ofDigits?
  else if cs.length = 45 ∧ "urn:uuid:".toList.isPrefixOf cs then
    (ungroup? (cs.drop 9)).bind ofDigits?
  else none

/-- The first character that is neither a digit nor a hyphen, and its offset in bytes. -/
def strayChar? : List Char → (offset : Nat) → Option (Char × Nat)
  | [], _ => none
  | c :: rest, offset =>
    if c = '-' ∨ (digit? c).isSome then strayChar? rest (offset + c.utf8Size)
    else some (c, offset)

/-- The offsets of the hyphens. -/
def hyphens (cs : List Char) : List Nat :=
  (cs.zipIdx.filter (·.1 = '-')).map (·.2)

/-- The first group whose end is not where it should be, and its length. -/
def badGroup? (bounds : List Nat) : Option (Nat × Nat) :=
  ([(0, 0, 8), (1, 9, 13), (2, 14, 18), (3, 19, 23)].find? fun g =>
    bounds.getD g.1 0 ≠ g.2.2).map fun g => (g.1, bounds.getD g.1 0 - g.2.1)

/-- Why a text that is no identifier is none. -/
def diagnose (cs : List Char) : UuidError :=
  let (body, offset, plain) :=
    if cs.head? = some '{' ∧ cs.getLast? = some '}' ∧ cs.length ≥ 2 then
      ((cs.drop 1).dropLast, 1, false)
    else if "urn:uuid:".toList.isPrefixOf cs then (cs.drop 9, 9, false)
    else (cs, 0, true)
  match strayChar? body 0 with
  | some (c, i) => .character c (i + offset + 1)
  | none =>
    let bounds := hyphens body
    if bounds.isEmpty && plain then .simpleLength cs.length
    else if bounds.length ≠ 4 then .groupCount (bounds.length + 1)
    else match badGroup? bounds with
      | some (group, length) => .groupLength group length
      | none => .groupLength 4 (cs.length - 24)

/-- The identifier of a text. -/
def ofString (s : String) : Except UuidError Uuid :=
  match ofChars? s.toList with
  | some u => .ok u
  | none => .error (diagnose s.toList)

/-- The five groups of an identifier. -/
def chars (u : Uuid) : List Char :=
  let ds := u.digits.map digitChar
  ds.take 8 ++ '-' :: (ds.drop 8).take 4 ++ '-' :: (ds.drop 12).take 4 ++
    '-' :: (ds.drop 16).take 4 ++ '-' :: ds.drop 20

/-- The text of an identifier. -/
def toText (u : Uuid) : String := String.ofList u.chars

/-- The digit that tells how an identifier was made. -/
def version (u : Uuid) : Nat := (u.digits.getD 12 0).val

/-- Read an identifier. -/
def decoder : Json.Decoder Uuid
  | .string _ stop reading => do
    match ofString (← reading) with
    | .ok u => .ok u
    | .error e => .error ⟨.unusable s!"UUID parsing failed: {e.message}", stop⟩
  | s => .error (s.mismatch "a UUID string")

end Uuid

end ConformanceSuite
