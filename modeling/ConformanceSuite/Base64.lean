/-!
# Base64, with the standard and the URL-safe alphabet

Three bytes are four symbols; one or two bytes at the end are two or three symbols, with or without
padding. Decoding accepts canonical texts only: no stray bits, and padding either always or never.
-/

namespace ConformanceSuite.Base64

/-- The two alphabets; they differ in the symbols of 62 and 63 alone. -/
inductive Alphabet where
  | standard | urlSafe
  deriving DecidableEq

/-- The symbol of 62. -/
def Alphabet.symbol62 : Alphabet → UInt8
  | .standard => 0x2b
  | .urlSafe => 0x2d

/-- The symbol of 63. -/
def Alphabet.symbol63 : Alphabet → UInt8
  | .standard => 0x2f
  | .urlSafe => 0x5f

/-- The symbol of a number below 64. -/
def symbol (alphabet : Alphabet) (n : Nat) : UInt8 :=
  if n < 26 then (0x41 + n).toUInt8
  else if n < 52 then (0x61 + (n - 26)).toUInt8
  else if n < 62 then (0x30 + (n - 52)).toUInt8
  else if n = 62 then alphabet.symbol62
  else alphabet.symbol63

/-- The number of a symbol. -/
def value? (alphabet : Alphabet) (b : UInt8) : Option Nat :=
  if 0x41 ≤ b ∧ b ≤ 0x5a then some (b.toNat - 0x41)
  else if 0x61 ≤ b ∧ b ≤ 0x7a then some (b.toNat - 0x61 + 26)
  else if 0x30 ≤ b ∧ b ≤ 0x39 then some (b.toNat - 0x30 + 52)
  else if b = alphabet.symbol62 then some 62
  else if b = alphabet.symbol63 then some 63
  else none

/-- The padding symbol. -/
def padSymbol : UInt8 := 0x3d

/-- Padding, if it is asked for. -/
def padding (padded : Bool) (count : Nat) : List UInt8 :=
  if padded then List.replicate count padSymbol else []

/-- The symbols of bytes. -/
def encode (alphabet : Alphabet) (padded : Bool) : List UInt8 → List UInt8
  | [] => []
  | [a] =>
    symbol alphabet (a.toNat / 4) :: symbol alphabet (a.toNat % 4 * 16) :: padding padded 2
  | [a, b] =>
    symbol alphabet (a.toNat / 4) :: symbol alphabet (a.toNat % 4 * 16 + b.toNat / 16) ::
      symbol alphabet (b.toNat % 16 * 4) :: padding padded 1
  | a :: b :: c :: rest =>
    symbol alphabet (a.toNat / 4) :: symbol alphabet (a.toNat % 4 * 16 + b.toNat / 16) ::
      symbol alphabet (b.toNat % 16 * 4 + c.toNat / 64) :: symbol alphabet (c.toNat % 64) ::
      encode alphabet padded rest

/-- Why a text is not base64. -/
inductive Error where
  | invalidSymbol (found : UInt8) (offset : Nat)
  | invalidLength (length : Nat)
  | lastSymbol (found : UInt8) (offset : Nat)
  | padding
  deriving DecidableEq

/-- A failure in words. -/
def Error.message : Error → String
  | .invalidSymbol found offset => s!"Invalid symbol {found}, offset {offset}."
  | .invalidLength length => s!"Invalid input length: {length}"
  | .lastSymbol found offset => s!"Invalid last symbol {found}, offset {offset}."
  | .padding => "Invalid padding"

/-- The numbers of symbols, the first that is none being an error. -/
def values (alphabet : Alphabet) : List UInt8 → (offset : Nat) → Except Error (List Nat)
  | [], _ => .ok []
  | b :: rest, offset =>
    match value? alphabet b with
    | none => .error (.invalidSymbol b offset)
    | some n => (values alphabet rest (offset + 1)).map (n :: ·)

/-- The bytes of full groups of four numbers. -/
def joinGroups : List Nat → List UInt8
  | a :: b :: c :: d :: rest =>
    (a * 4 + b / 16).toUInt8 :: (b % 16 * 16 + c / 4).toUInt8 :: (c % 4 * 64 + d).toUInt8 ::
      joinGroups rest
  | _ => []

/-- The symbols in front of the padding of the last group, and the number of padding symbols.
Padding may only follow two symbols or more, and nothing may follow it. -/
def splitPadding (alphabet : Alphabet) :
    List UInt8 → (index : Nat) → (offset : Nat) → Except Error (List UInt8 × Nat)
  | [], _, _ => .ok ([], 0)
  | b :: rest, index, offset =>
    if b = padSymbol then
      if index < 2 then .error (.invalidSymbol b (offset + index))
      else if rest.all (· = padSymbol) then .ok ([], rest.length + 1)
      else .error (.invalidSymbol b (offset + index))
    else if (value? alphabet b).isNone then .error (.invalidSymbol b (offset + index))
    else (splitPadding alphabet rest (index + 1) offset).map fun p => (b :: p.1, p.2)

/-- The bytes of the last group; bits that belong to no byte have to be zero. -/
def lastGroup (alphabet : Alphabet) (symbols : List UInt8) (offset : Nat) :
    Except Error (List UInt8) :=
  match symbols.map fun b => (value? alphabet b).getD 0 with
  | [a, b] =>
    if b % 16 = 0 then .ok [(a * 4 + b / 16).toUInt8]
    else .error (.lastSymbol (symbols.getD 1 0) (offset + 1))
  | [a, b, c] =>
    if c % 4 = 0 then .ok [(a * 4 + b / 16).toUInt8, (b % 16 * 16 + c / 4).toUInt8]
    else .error (.lastSymbol (symbols.getD 2 0) (offset + 2))
  | numbers => .ok (joinGroups numbers)

/-- The number of symbols in front of the last group, which may be full. -/
def leadingLength (length : Nat) : Nat :=
  if length % 4 = 0 then length - 4 else length - length % 4

/-- The bytes of a text that is padded, or of one that is not. -/
def decode (alphabet : Alphabet) (padded : Bool) (text : List UInt8) :
    Except Error (List UInt8) :=
  let length := text.length
  let final := text.getLastD 0
  if length % 4 = 1 ∧ final ≠ padSymbol ∧ (value? alphabet final).isNone then
    .error (.invalidSymbol final (length - 1))
  else
    let leading := leadingLength length
    match values alphabet (text.take leading) 0 with
    | .error e => .error e
    | .ok numbers =>
      match splitPadding alphabet (text.drop leading) 0 leading with
      | .error e => .error e
      | .ok (symbols, pads) =>
        if length ≠ 0 ∧ symbols.length < 2 then .error (.invalidLength (leading + symbols.length))
        else if padded ∧ (pads + symbols.length) % 4 ≠ 0 then .error .padding
        else if !padded ∧ pads ≠ 0 then .error .padding
        else (lastGroup alphabet symbols leading).map (joinGroups numbers ++ ·)

end ConformanceSuite.Base64
