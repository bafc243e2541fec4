/-!
# Punycode

Labels beyond ASCII written in ASCII: the ASCII characters first, then the others as differences
between their code points in ascending order, in digits of base 36 whose weights adapt to the
differences before them.
-/

namespace ConformanceSuite.Punycode

/-- A digit of base 36. -/
def digitChar (n : Nat) : Char := Char.ofNat (if n < 26 then 0x61 + n else 0x30 + n - 26)

/-- The value of a digit of base 36. -/
def digit? (c : Char) : Option Nat :=
  if 'a' ≤ c ∧ c ≤ 'z' then some (c.toNat - 0x61)
  else if 'A' ≤ c ∧ c ≤ 'Z' then some (c.toNat - 0x41)
  else if '0' ≤ c ∧ c ≤ '9' then some (c.toNat - 0x30 + 26)
  else none

/-- The bias at the start. -/
def initialBias : Nat := 72

/-- The code point from which differences are counted. -/
def firstCodePoint : Nat := 0x80

/-- The least digit at a place that is not the last one. -/
def threshold (place bias : Nat) : Nat := min 26 (max 1 (place - bias))

/-- Shrink a difference to the range in which the bias is taken from it. -/
def shrink : (steps : Nat) → (delta place : Nat) → Nat × Nat
  | 0, delta, place => (delta, place)
  | steps + 1, delta, place =>
    if 455 < delta then shrink steps (delta / 35) (place + 36) else (delta, place)

/-- The bias behind a difference. -/
def adapt (delta count : Nat) (first : Bool) : Nat :=
  let delta := if first then delta / 700 else delta / 2
  let (delta, place) := shrink (delta + 1) (delta + delta / count) 0
  place + 36 * delta / (delta + 38)

/-- The digits of a difference. -/
def encodeDelta (bias : Nat) : (steps : Nat) → (place q : Nat) → List Char
  | 0, _, _ => []
  | steps + 1, place, q =>
    let t := threshold place bias
    if q < t then [digitChar q]
    else
      digitChar (t + (q - t) % (36 - t)) ::
        encodeDelta bias steps (place + 36) ((q - t) / (36 - t))

/-- The state of encoding: the next code point, the difference so far, the bias, the number of
characters written, and the digits, last first. -/
structure Encoding where
  next : Nat
  delta : Nat
  bias : Nat
  count : Nat
  digits : List Char

/-- Pass a character of the label; one that is due is written. -/
def Encoding.pass (basic : Nat) (s : Encoding) (c : Char) : Encoding :=
  if c.toNat < s.next then { s with delta := s.delta + 1 }
  else if c.toNat = s.next then
    { s with
      digits := s.digits ++ encodeDelta s.bias (s.delta + 1) 36 s.delta
      bias := adapt s.delta (s.count + 1) (s.count = basic)
      delta := 0
      count := s.count + 1 }
  else s

/-- Write all characters with a code point. -/
def Encoding.write (label : List Char) (basic : Nat) (s : Encoding) (codePoint : Nat) : Encoding :=
  let s := { s with delta := s.delta + (codePoint - s.next) * (s.count + 1), next := codePoint }
  let s := label.foldl (Encoding.pass basic) s
  { s with delta := s.delta + 1, next := s.next + 1 }

/-- A label in ASCII. -/
def encode (label : List Char) : List Char :=
  let basic := label.filter fun c => c.toNat < firstCodePoint
  let codePoints := ((label.map Char.toNat).filter (firstCodePoint ≤ ·)).eraseDups.mergeSort
  let s := codePoints.foldl (Encoding.write label basic.length)
    ⟨firstCodePoint, 0, initialBias, basic.length, []⟩
  basic ++ (if basic.isEmpty then [] else ['-']) ++ s.digits

/-- Read a difference, with its weight. -/
def decodeDelta (bias : Nat) : (place weight value : Nat) → List Char → Option (Nat × List Char)
  | _, _, _, [] => none
  | place, weight, value, c :: rest => do
    let d ← digit? c
    let t := threshold place bias
    let value := value + d * weight
    if d < t then some (value, rest)
    else decodeDelta bias (place + 36) (weight * (36 - t)) value rest

/-- Read the characters beyond ASCII, and insert each at its place. -/
def insertAll : (steps : Nat) → (next index bias : Nat) → List Char → List Char →
    Option (List Char)
  | 0, _, _, _, _, _ => none
  | steps + 1, next, index, bias, label, digits =>
    if digits.isEmpty then some label
    else do
      let (delta, digits) ← decodeDelta bias 36 1 0 digits
      let size := label.length + 1
      let place := index + delta
      let next := next + place / size
      let index := place % size
      if h : next.isValidChar then
        insertAll steps next (index + 1) (adapt delta size (label.all fun c => c.toNat < 0x80))
          (label.insertIdx index (Char.ofNatAux next h)) digits
      else none

/-- The label that is written in ASCII. -/
def decode? (text : List Char) : Option (List Char) :=
  let reversed := text.reverse
  let digits := (reversed.takeWhile (· != '-')).reverse
  let basic := ((reversed.dropWhile (· != '-')).drop 1).reverse
  insertAll (text.length + 1) firstCodePoint 0 initialBias basic digits

end ConformanceSuite.Punycode
