import ConformanceSuite.Double

/-!
# Numbers written in decimal

Integers and doubles as free text outside JSON spells them. A double is the nearest one to the
decimal, ties to even.
-/

namespace ConformanceSuite.Text

/-- Whether a character is one of the ten ASCII digits. -/
def isDigit (c : Char) : Bool := '0' ≤ c && c ≤ '9'

/-- The value of a list of digits. -/
def digitsValue (digits : List Char) : Nat :=
  digits.foldl (fun n c => n * 10 + (c.toNat - '0'.toNat)) 0

/-- The natural number of a non-empty list of digits. -/
def natural? (cs : List Char) : Option Nat :=
  if cs.isEmpty || !cs.all isDigit then none else some (digitsValue cs)

/-- An optional sign, and whether it is a minus. -/
def takeSign : List Char → Bool × List Char
  | '-' :: rest => (true, rest)
  | '+' :: rest => (false, rest)
  | cs => (false, cs)

/-- The integer of an optional sign and digits. -/
def integer? (cs : List Char) : Option Int :=
  let (negative, digits) := takeSign cs
  (natural? digits).map fun n => if negative then -(n : Int) else n

/-- The nearest double to `digits * 10 ^ exponent`; exponents far out of range are cut. -/
def nearestDouble (digits : Nat) (exponent : Int) : Double :=
  if digits = 0 then ⟨0⟩
  else
    let size : Int := (Nat.toDigits 10 digits).length
    if exponent + size < -400 then ⟨0⟩
    else if exponent > 400 then ⟨0x7ff0000000000000⟩
    else if exponent < 0 then .ofFloat (Float.ofScientific digits true (-exponent).toNat)
    else .ofFloat (Float.ofScientific digits false exponent.toNat)

/-- The exponent of a decimal behind its mark. -/
def exponent? : List Char → Option Int
  | [] => some 0
  | mark :: rest => if mark = 'e' || mark = 'E' then integer? rest else none

/-- The double of a decimal: a sign, digits with perhaps a point, and perhaps an exponent. -/
def double? (cs : List Char) : Option Double :=
  let (negative, cs) := takeSign cs
  let whole := cs.takeWhile isDigit
  let cs := cs.dropWhile isDigit
  let (fraction, cs) := match cs with
    | '.' :: rest => (rest.takeWhile isDigit, rest.dropWhile isDigit)
    | _ => ([], cs)
  if whole.isEmpty && fraction.isEmpty then none
  else (exponent? cs).map fun e =>
    let d := nearestDouble (digitsValue (whole ++ fraction)) (e - fraction.length)
    if negative then d.neg else d

end ConformanceSuite.Text
