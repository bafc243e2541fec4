import ConformanceSuite.Json.Problem

/-!
# Strings and numbers of a JSON text

Each leaf of a text can be *read*, which gives its value, or *skipped*, which only finds its end:
a skipped string may hold lone surrogates or bytes that are no text, and a skipped number may be
out of range.
-/

namespace ConformanceSuite.Json

/-- The rest of a text and the offset at which it begins. -/
structure Reader where
  offset : Nat
  rest : List UInt8

namespace Reader

/-- Move past the first `n` bytes. -/
def drop (r : Reader) (n : Nat) : Reader := ⟨r.offset + n, r.rest.drop n⟩

/-- The offset behind the next byte, or the end of the text. -/
def ahead (r : Reader) : Nat :=
  if r.rest.isEmpty then r.offset else r.offset + 1

/-- Move past a run of bytes of a kind; the run comes first. -/
def span (r : Reader) (p : UInt8 → Bool) : List UInt8 × Reader :=
  let run := r.rest.takeWhile p
  (run, r.drop run.length)

end Reader

/-- Space, tab, line feed and carriage return. -/
def isBlank (b : UInt8) : Bool := b == 0x20 || b == 0x0a || b == 0x09 || b == 0x0d

/-- The ten ASCII digits. -/
def isDigit (b : UInt8) : Bool := 0x30 ≤ b && b ≤ 0x39

/-- The value of a hexadecimal digit. -/
def hexDigit? (b : UInt8) : Option Nat :=
  if 0x30 ≤ b && b ≤ 0x39 then some (b.toNat - 0x30)
  else if 0x61 ≤ b && b ≤ 0x66 then some (b.toNat - 0x57)
  else if 0x41 ≤ b && b ≤ 0x46 then some (b.toNat - 0x37)
  else none

/-- Skip blanks in front of a list of bytes. -/
def skipBlanks : List UInt8 → Nat → Reader
  | b :: rest, offset => if isBlank b then skipBlanks rest (offset + 1) else ⟨offset, b :: rest⟩
  | [], offset => ⟨offset, []⟩

/-- Skip blanks. -/
def Reader.skipBlanks (r : Reader) : Reader := Json.skipBlanks r.rest r.offset

/-- Read the rest of a fixed word. -/
def readWord : (word : List UInt8) → List UInt8 → Nat → Except Problem Reader
  | [], rest, offset => .ok ⟨offset, rest⟩
  | _ :: _, [], offset => .error ⟨.eofInValue, offset⟩
  | w :: word, b :: rest, offset =>
    if b = w then readWord word rest (offset + 1) else .error ⟨.expectedIdent, offset + 1⟩

/-! ### Strings -/

/-- Where a reader of a string stands: between characters, behind a backslash, inside the four
digits of an escape (perhaps the second of a surrogate pair), or in front of that second escape. -/
inductive StringState where
  | plain
  | escape
  | hex (high : Option Nat) (left : Nat) (value : Nat) (valid : Bool)
  | lowBackslash (high : Nat)
  | lowLetter (high : Nat)

/-- The first half of a surrogate pair. -/
def isHighSurrogate (n : Nat) : Bool := 0xd800 ≤ n && n ≤ 0xdbff

/-- The second half of a surrogate pair. -/
def isLowSurrogate (n : Nat) : Bool := 0xdc00 ≤ n && n ≤ 0xdfff

/-- The bytes of a code point. -/
def codePointBytes (n : Nat) : List UInt8 := String.utf8EncodeChar (Char.ofNat n)

/-- The byte that a one-letter escape stands for. -/
def simpleEscape? (b : UInt8) : Option UInt8 :=
  if b = 0x22 then some 0x22
  else if b = 0x5c then some 0x5c
  else if b = 0x2f then some 0x2f
  else if b = 0x62 then some 0x08
  else if b = 0x66 then some 0x0c
  else if b = 0x6e then some 0x0a
  else if b = 0x72 then some 0x0d
  else if b = 0x74 then some 0x09
  else none

/-- Read the bytes of a string up to its closing quote; `acc` holds those read, in reverse. -/
def readStringBytes : StringState → List UInt8 → (offset : Nat) → (acc : List UInt8) →
    Except Problem (List UInt8 × Reader)
  | _, [], offset, _ => .error ⟨.eofInString, offset⟩
  | .plain, b :: rest, offset, acc =>
    if b = 0x22 then .ok (acc.reverse, ⟨offset + 1, rest⟩)
    else if b = 0x5c then readStringBytes .escape rest (offset + 1) acc
    else if b < 0x20 then .error ⟨.controlCharacter, offset + 1⟩
    else readStringBytes .plain rest (offset + 1) (b :: acc)
  | .escape, b :: rest, offset, acc =>
    if b = 0x75 then readStringBytes (.hex none 4 0 true) rest (offset + 1) acc
    else match simpleEscape? b with
      | some c => readStringBytes .plain rest (offset + 1) (c :: acc)
      | none => .error ⟨.invalidEscape, offset + 1⟩
  | .hex high left value valid, b :: rest, offset, acc =>
    let value := value * 16 + (hexDigit? b).getD 0
    let valid := valid && (hexDigit? b).isSome
    if left > 1 then readStringBytes (.hex high (left - 1) value valid) rest (offset + 1) acc
    else if !valid then .error ⟨.invalidEscape, offset + 1⟩
    else match high with
      | none =>
        if isLowSurrogate value then .error ⟨.loneSurrogate, offset + 1⟩
        else if isHighSurrogate value then
          readStringBytes (.lowBackslash value) rest (offset + 1) acc
        else
          readStringBytes .plain rest (offset + 1) ((codePointBytes value).reverse ++ acc)
      | some h =>
        if isLowSurrogate value then
          let code := (h - 0xd800) * 0x400 + (value - 0xdc00) + 0x10000
          readStringBytes .plain rest (offset + 1) ((codePointBytes code).reverse ++ acc)
        else .error ⟨.loneSurrogate, offset + 1⟩
  | .lowBackslash high, b :: rest, offset, acc =>
    if b = 0x5c then readStringBytes (.lowLetter high) rest (offset + 1) acc
    else .error ⟨.unexpectedEndOfHexEscape, offset + 1⟩
  | .lowLetter high, b :: rest, offset, acc =>
    if b = 0x75 then readStringBytes (.hex (some high) 4 0 true) rest (offset + 1) acc
    else .error ⟨.unexpectedEndOfHexEscape, offset + 1⟩

/-- The text of a list of bytes, if it is UTF-8. -/
def textOfBytes? (bytes : List UInt8) : Option String :=
  String.fromUTF8? ⟨bytes.toArray⟩

/-- The number of bytes, from an index on, in front of the first that begins no character. -/
def wellFormedUpTo (bytes : ByteArray) (i : Nat) : Nat :=
  if i < bytes.size then
    match bytes.utf8DecodeChar? i with
    | some c => wellFormedUpTo bytes (i + c.utf8Size)
    | none => i
  else i
  termination_by bytes.size - i
  decreasing_by
    have := c.utf8Size_pos
    omega

/-- Read a string behind its opening quote. Bytes that are no character are reported, at the first
of them, once the string has ended. -/
def readString (r : Reader) : Except Problem (String × Reader) :=
  match readStringBytes .plain r.rest r.offset [] with
  | .error p => .error p
  | .ok (bytes, after) =>
    match textOfBytes? bytes with
    | some s => .ok (s, after)
    | none =>
      let raw : ByteArray := ⟨(r.rest.take (after.offset - r.offset)).toArray⟩
      .error ⟨.invalidCodePoint, r.offset + wellFormedUpTo raw 0 + 1⟩

/-- Find the end of a string behind its opening quote. -/
def skipStringBytes : StringState → List UInt8 → (offset : Nat) → Except Problem Reader
  | _, [], offset => .error ⟨.eofInString, offset⟩
  | .escape, b :: rest, offset =>
    if b = 0x75 then skipStringBytes (.hex none 4 0 true) rest (offset + 1)
    else if (simpleEscape? b).isSome then skipStringBytes .plain rest (offset + 1)
    else .error ⟨.invalidEscape, offset + 1⟩
  | .hex high left value valid, b :: rest, offset =>
    let valid := valid && (hexDigit? b).isSome
    if left > 1 then skipStringBytes (.hex high (left - 1) value valid) rest (offset + 1)
    else if valid then skipStringBytes .plain rest (offset + 1)
    else .error ⟨.invalidEscape, offset + 1⟩
  | _, b :: rest, offset =>
    if b = 0x22 then .ok ⟨offset + 1, rest⟩
    else if b = 0x5c then skipStringBytes .escape rest (offset + 1)
    else if b < 0x20 then .error ⟨.controlCharacter, offset⟩
    else skipStringBytes .plain rest (offset + 1)

/-- Find the end of a string behind its opening quote. -/
def skipString (r : Reader) : Except Problem Reader :=
  skipStringBytes .plain r.rest r.offset

/-! ### Numbers -/

/-- The largest integer of sixty-four bits. -/
def maxSignificand : Nat := Nat.pow 2 64 - 1

/-- Append digits to a significand as long as it stays in sixty-four bits; the digits that did not
fit are left. -/
def appendDigits : (significand : Nat) → List UInt8 → Nat × List UInt8
  | significand, [] => (significand, [])
  | significand, b :: rest =>
    let next := significand * 10 + (b.toNat - 0x30)
    if next ≤ maxSignificand then appendDigits next rest else (significand, b :: rest)

/-- The double of a sign, a significand and a decimal exponent. -/
def floatOf (negative : Bool) (significand : Nat) (exponent : Int) (after : Reader) :
    Except Problem (Number × Reader) :=
  match Double.ofDecimal? significand.toUInt64 exponent with
  | some d => .ok (.float (if negative then d.neg else d), after)
  | none => .error ⟨.numberOutOfRange, after.offset⟩

/-- The largest exponent that is counted. -/
def maxExponent : Nat := Nat.pow 2 31 - 1

/-- Append digits to an exponent; the number of digits up to one too many, if there is one. -/
def appendExponent : (exponent : Nat) → List UInt8 → (read : Nat) → Except Nat Nat
  | exponent, [], _ => .ok exponent
  | exponent, b :: rest, read =>
    let next := exponent * 10 + (b.toNat - 0x30)
    if next ≤ maxExponent then appendExponent next rest (read + 1) else .error (read + 1)

/-- Read the exponent of a number behind its mark. -/
def readExponent (negative : Bool) (significand : Nat) (scale : Int) (r : Reader) :
    Except Problem (Number × Reader) :=
  let (down, r) := match r.rest with
    | 0x2b :: _ => (false, r.drop 1)
    | 0x2d :: _ => (true, r.drop 1)
    | _ => (false, r)
  match r.rest with
  | [] => .error ⟨.eofInValue, r.offset⟩
  | b :: _ =>
    if !isDigit b then .error ⟨.invalidNumber, r.offset + 1⟩
    else
      let (digits, after) := r.span isDigit
      match appendExponent 0 digits 0 with
      | .ok e => floatOf negative significand (if down then scale - e else scale + e) after
      | .error read =>
        if significand ≠ 0 ∧ !down then .error ⟨.numberOutOfRange, r.offset + read⟩
        else floatOf negative 0 0 after

/-- Read an exponent if there is one. -/
def readOptionalExponent (negative : Bool) (significand : Nat) (scale : Int) (r : Reader) :
    Except Problem (Number × Reader) :=
  match r.rest with
  | 0x65 :: _ | 0x45 :: _ => readExponent negative significand scale (r.drop 1)
  | _ => floatOf negative significand scale r

/-- Read the decimals of a number behind the point; decimals that do not fit are dropped. -/
def readDecimals (negative : Bool) (significand : Nat) (scale : Int) (r : Reader) :
    Except Problem (Number × Reader) :=
  let (digits, after) := r.span isDigit
  if digits.isEmpty then
    .error ⟨if r.rest.isEmpty then .eofInValue else .invalidNumber, r.ahead⟩
  else
    let (significand, left) := appendDigits significand digits
    readOptionalExponent negative significand (scale - (digits.length - left.length : Nat)) after

/-- Read what follows the integer part of a number, of which `dropped` digits did not fit. -/
def readNumberTail (negative : Bool) (significand dropped : Nat) (r : Reader) :
    Except Problem (Number × Reader) :=
  match r.rest with
  | 0x2e :: _ => readDecimals negative significand dropped (r.drop 1)
  | 0x65 :: _ | 0x45 :: _ => readExponent negative significand dropped (r.drop 1)
  | _ =>
    if dropped ≠ 0 ∨ (negative ∧ significand = 0) then floatOf negative significand dropped r
    else .ok (.ofInt (if negative then -significand else significand), r)

/-- Read a number. -/
def readNumber (r : Reader) : Except Problem (Number × Reader) :=
  let (negative, r) := match r.rest with
    | 0x2d :: _ => (true, r.drop 1)
    | _ => (false, r)
  match r.rest with
  | [] => .error ⟨.eofInValue, r.offset⟩
  | 0x30 :: rest =>
    match rest with
    | d :: _ =>
      if isDigit d then .error ⟨.invalidNumber, r.offset + 2⟩
      else readNumberTail negative 0 0 (r.drop 1)
    | [] => readNumberTail negative 0 0 (r.drop 1)
  | b :: _ =>
    if !isDigit b then .error ⟨.invalidNumber, r.offset + 1⟩
    else
      let (digits, after) := r.span isDigit
      let (significand, left) := appendDigits 0 digits
      readNumberTail negative significand left.length after

/-- Find the end of an exponent behind its mark. -/
def skipExponent (r : Reader) : Except Problem Reader :=
  let r := match r.rest with
    | 0x2b :: _ | 0x2d :: _ => r.drop 1
    | _ => r
  let (digits, after) := r.span isDigit
  if digits.isEmpty then .error ⟨.invalidNumber, r.ahead⟩ else .ok after

/-- Find the end of an exponent, if there is one. -/
def skipOptionalExponent (r : Reader) : Except Problem Reader :=
  match r.rest with
  | 0x65 :: _ | 0x45 :: _ => skipExponent (r.drop 1)
  | _ => .ok r

/-- Find the end of a number. -/
def skipNumber (r : Reader) : Except Problem Reader :=
  let r := match r.rest with
    | 0x2d :: _ => r.drop 1
    | _ => r
  let (digits, after) := r.span isDigit
  match digits with
  | [] => .error ⟨.invalidNumber, r.ahead⟩
  | 0x30 :: _ :: _ => .error ⟨.invalidNumber, r.offset + 2⟩
  | _ =>
    match after.rest with
    | 0x2e :: _ =>
      let point := after.drop 1
      let (decimals, after) := point.span isDigit
      if decimals.isEmpty then .error ⟨.invalidNumber, point.ahead⟩
      else skipOptionalExponent after
    | _ => skipOptionalExponent after

end ConformanceSuite.Json
