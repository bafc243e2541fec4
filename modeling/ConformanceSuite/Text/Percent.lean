import ConformanceSuite.Text.Hex

/-!
# Percent escapes

A byte may be written as a percent sign and two hexadecimal digits.
-/

namespace ConformanceSuite.Text

/-- Resolve percent escapes; what is not one stays. -/
def percentDecode : List UInt8 → List UInt8
  | 0x25 :: a :: b :: rest =>
    match hexDigit? (Char.ofNat a.toNat), hexDigit? (Char.ofNat b.toNat) with
    | some x, some y => (x * 16 + y).toUInt8 :: percentDecode rest
    | _, _ => 0x25 :: percentDecode (a :: b :: rest)
  | b :: rest => b :: percentDecode rest
  | [] => []

/-- A hexadecimal digit, as a capital. -/
def capitalHexDigit (n : Nat) : Char := Char.ofNat (if n < 10 then 0x30 + n else 0x41 + n - 10)

/-- The escape of a byte. -/
def percentEscape (b : UInt8) : List Char :=
  ['%', capitalHexDigit (b.toNat / 16), capitalHexDigit (b.toNat % 16)]

/-- Whether a character is always escaped: a control, or one beyond ASCII. -/
def isAlwaysEscaped (c : Char) : Bool := c < ' ' || '~' < c

/-- A text with certain characters, and those that always are, escaped. -/
def percentEncode (escaped : List Char) (cs : List Char) : List Char :=
  cs.flatMap fun c =>
    if isAlwaysEscaped c || escaped.contains c then (String.utf8EncodeChar c).flatMap percentEscape
    else [c]

end ConformanceSuite.Text
