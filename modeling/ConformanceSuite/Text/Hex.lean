/-!
# Hexadecimal digits
-/

namespace ConformanceSuite.Text

/-- The value of a hexadecimal digit, in small letters or capitals. -/
def hexDigit? (c : Char) : Option Nat :=
  if '0' ≤ c ∧ c ≤ '9' then some (c.toNat - 0x30)
  else if 'a' ≤ c ∧ c ≤ 'f' then some (c.toNat - 0x61 + 10)
  else if 'A' ≤ c ∧ c ≤ 'F' then some (c.toNat - 0x41 + 10)
  else none

/-- The value of hexadecimal digits; at least one is needed. -/
def hexValue? (digits : List Char) : Option Nat :=
  if digits.isEmpty then none
  else digits.foldl (fun n c => n.bind fun n => (hexDigit? c).map (n * 16 + ·)) (some 0)

end ConformanceSuite.Text
