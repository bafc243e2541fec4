/-!
# Binary64 numbers

A double is its 64 bits. A finite one is a sign, a significand `m` and an exponent `q` with the
value `m * 2 ^ q`, and all that has to be exact (comparison, the shortest decimal) is decided from
these in integers.
-/

namespace ConformanceSuite

/-- A binary64 number, by its bits. -/
structure Double where
  bits : UInt64
  deriving DecidableEq, Repr, Inhabited

namespace Double

/-- The number of a machine float. -/
def ofFloat (f : Float) : Double := ⟨f.toBits⟩

/-- The machine float of a number. -/
def toFloat (d : Double) : Float := Float.ofBits d.bits

/-- Whether the sign bit is set. -/
def isNegative (d : Double) : Bool := d.bits >>> 63 == 1

/-- The eleven exponent bits. -/
def exponentField (d : Double) : Nat := ((d.bits >>> 52) &&& 0x7ff).toNat

/-- The fifty-two fraction bits. -/
def fractionField (d : Double) : Nat := (d.bits &&& 0xfffffffffffff).toNat

/-- Whether the number is neither infinite nor not-a-number. -/
def isFinite (d : Double) : Bool := d.exponentField != 0x7ff

/-- The significand `m` of the value `m * 2 ^ q`. -/
def significand (d : Double) : Nat :=
  if d.exponentField = 0 then d.fractionField else d.fractionField + Nat.pow 2 52

/-- The exponent `q` of the value `m * 2 ^ q`. -/
def exponent (d : Double) : Int :=
  (if d.exponentField = 0 then 1 else (d.exponentField : Int)) - 1075

/-- The exact value of a finite number. -/
def toRat (d : Double) : Rat :=
  let magnitude : Rat :=
    if d.exponent ≥ 0 then (d.significand * Nat.pow 2 d.exponent.toNat : Nat)
    else mkRat d.significand (Nat.pow 2 (-d.exponent).toNat)
  if d.isNegative then -magnitude else magnitude

/-- Positive or negative zero. -/
def isZero (d : Double) : Bool := d.bits &&& 0x7fffffffffffffff == 0

/-- The sign-changed number. -/
def neg (d : Double) : Double := ⟨d.bits ^^^ 0x8000000000000000⟩

/-- The nearest number to a natural number. -/
def ofNat (n : Nat) : Double := ofFloat (Float.ofNat n)

/-- The power of ten with an exponent of at most 308, correctly rounded. -/
def powerOfTen (e : Nat) : Float := Float.ofScientific 1 false e

/-- The number `significand * 10 ^ exponent`, scaled in binary64 by at most two powers of ten;
`none` beyond the largest finite number. -/
def ofDecimal? (significand : UInt64) (exponent : Int) : Option Double :=
  let f := significand.toFloat
  if exponent > 308 then
    if significand = 0 then some (ofFloat f) else none
  else if exponent ≥ 0 then
    let scaled := ofFloat (f * powerOfTen exponent.toNat)
    if scaled.isFinite then some scaled else none
  else if exponent ≥ -308 then
    some (ofFloat (f / powerOfTen (-exponent).toNat))
  else if exponent ≥ -616 then
    some (ofFloat (f / powerOfTen 308 / powerOfTen (-exponent - 308).toNat))
  else some ⟨0⟩

/-! ### The fewest digits that read back -/

/-- A positive decimal `d.ddd * 10 ^ exponent` by its digits. -/
structure Scientific where
  digits : List Char
  exponent : Int
  deriving DecidableEq, Repr

/-- A positive rational number as a quotient, with the ends of the interval that rounds to it. -/
structure Neighbourhood where
  low : Nat
  value : Nat
  high : Nat
  denominator : Nat
  closed : Bool

/-- The interval of reals that round to a finite positive number, over one denominator; the ends
belong to it when the significand is even. -/
def neighbourhood (d : Double) : Neighbourhood :=
  let m := d.significand
  let q := d.exponent - 2
  let scale := Nat.pow 2 q.toNat
  let lowGap := if d.fractionField = 0 && d.exponentField > 1 then 1 else 2
  ⟨(4 * m - lowGap) * scale, 4 * m * scale, (4 * m + 2) * scale, Nat.pow 2 (-q).toNat,
    m % 2 == 0⟩

/-- The decimal exponent of a positive quotient of at least `10 ^ -400`. -/
def Neighbourhood.decimalExponent (n : Neighbourhood) : Int :=
  ((Nat.toDigits 10 (n.value * Nat.pow 10 400 / n.denominator)).length : Int) - 401

/-- The nearest multiple of `10 ^ k` inside the neighbourhood, in units of `10 ^ k`; a tie goes to
the even one. -/
def Neighbourhood.onGrid? (n : Neighbourhood) (k : Int) : Option Nat :=
  let up := Nat.pow 10 (-k).toNat
  let unit := n.denominator * Nat.pow 10 k.toNat
  let below := n.value * up / unit
  let remainder := n.value * up % unit
  let inside (candidate : Nat) : Bool :=
    let at10 := candidate * unit
    if n.closed then n.low * up ≤ at10 && at10 ≤ n.high * up
    else n.low * up < at10 && at10 < n.high * up
  let nearestIsBelow := 2 * remainder < unit || (2 * remainder = unit && below % 2 = 0)
  let (first, second) := if nearestIsBelow then (below, below + 1) else (below + 1, below)
  if inside first then some first
  else if inside second then some second
  else none

/-- Look for the first grid that meets the neighbourhood, from coarse to fine. -/
def Neighbourhood.search (n : Neighbourhood) (top : Int) : (steps : Nat) → (tried : Nat) → Nat × Int
  | 0, tried => (n.value / n.denominator, top - tried)
  | steps + 1, tried =>
    match n.onGrid? (top - tried) with
    | some found => (found, top - tried)
    | none => search n top steps (tried + 1)

/-- Drop the zeros at the end of a list of digits. -/
def dropTrailingZeros (digits : List Char) : List Char :=
  (digits.reverse.dropWhile (· = '0')).reverse

/-- The fewest significant digits that read back as a finite positive number, and of those the
nearest to it. -/
def shortest (d : Double) : Scientific :=
  let n := d.neighbourhood
  let (found, k) := n.search n.decimalExponent 18 0
  let digits := Nat.toDigits 10 found
  ⟨dropTrailingZeros digits, k + digits.length - 1⟩

/-- How a decimal is laid out: the least and the greatest exponent written without an exponent
mark. -/
structure Layout where
  leastPositional : Int
  greatestPositional : Int

/-- Write a decimal in positional notation, with at least one digit on either side of the point. -/
def Scientific.positional (s : Scientific) : List Char :=
  if s.exponent < 0 then
    '0' :: '.' :: List.replicate (-s.exponent - 1).toNat '0' ++ s.digits
  else
    let whole := s.exponent.toNat + 1
    let leading := s.digits.take whole
    let trailing := s.digits.drop whole
    leading ++ List.replicate (whole - leading.length) '0' ++
      '.' :: (if trailing.isEmpty then ['0'] else trailing)

/-- Write a decimal with an exponent mark and an explicit sign. -/
def Scientific.exponential (s : Scientific) : List Char :=
  let mantissa := match s.digits with
    | [] => ['0']
    | [d] => [d]
    | d :: rest => d :: '.' :: rest
  let sign := if s.exponent < 0 then '-' else '+'
  mantissa ++ 'e' :: sign :: Nat.toDigits 10 s.exponent.natAbs

/-- Write a decimal as the layout asks. -/
def Scientific.chars (layout : Layout) (s : Scientific) : List Char :=
  if layout.leastPositional ≤ s.exponent ∧ s.exponent ≤ layout.greatestPositional then s.positional
  else s.exponential

/-- The text of a finite number under a layout. -/
def chars (layout : Layout) (d : Double) : List Char :=
  let magnitude := if d.isZero then ['0', '.', '0'] else d.shortest.chars layout
  if d.isNegative then '-' :: magnitude else magnitude

end Double

end ConformanceSuite
