import ConformanceSuite.Json.Decoder
import ConformanceSuite.Text.Blank
import ConformanceSuite.Text.Decimal

/-!
# Heads of HTTP messages

What names and values of headers may consist of, and the head of a response: its status and its
headers up to the empty line.
-/

namespace ConformanceSuite.Http

/-- The marks that may stand in a token beside letters and digits. -/
def tokenMarks : List Char :=
  ['!', '#', '$', '%', '&', '\'', '*', '+', '-', '.', '^', '_', '\x60', '|', '~']

/-- Whether a character may stand in a token: a method or the name of a header. -/
def isTokenChar (c : Char) : Bool := c.isAlphanum || tokenMarks.contains c

/-- Whether a text is a token. -/
def isToken (s : String) : Bool := !s.isEmpty && s.toList.all isTokenChar

/-- The greatest length of the name of a header. -/
def maxNameLength : Nat := 65535

/-- Whether a text can be the name of a header. -/
def isHeaderName (s : String) : Bool := isToken s && s.length ≤ maxNameLength

/-- Whether a text can be the value of a header: it has no control characters but tabs. -/
def isHeaderValue (s : String) : Bool := s.toList.all fun c => c == '\t' || (' ' ≤ c && c != '\x7f')

/-- The head of a response. -/
structure Head where
  minor : Nat
  status : Nat
  headers : List (String × List UInt8)

namespace Head

/-- Whether a byte may stand in a token. -/
def isTokenByte (b : UInt8) : Bool := b < 0x80 && isTokenChar (Char.ofNat b.toNat)

/-- Whether a byte may stand in a value or in the reason of a status. -/
def isValueByte (b : UInt8) : Bool := b == 0x09 || (0x20 ≤ b && b != 0x7f)

/-- Skip a line break. -/
def lineBreak? : List UInt8 → Option (List UInt8)
  | 0x0d :: 0x0a :: rest => some rest
  | 0x0a :: rest => some rest
  | _ => none

/-- Skip empty lines. -/
def skipEmptyLines : List UInt8 → List UInt8
  | 0x0d :: 0x0a :: rest => skipEmptyLines rest
  | 0x0a :: rest => skipEmptyLines rest
  | bytes => bytes

/-- The text of bytes that are ASCII. -/
def asciiText (bytes : List UInt8) : String := String.ofList (bytes.map fun b => Char.ofNat b.toNat)

/-- A value without the blanks around it. -/
def trimBlanks (bytes : List UInt8) : List UInt8 :=
  let isBlank (b : UInt8) : Bool := b == 0x20 || b == 0x09
  ((bytes.dropWhile isBlank).reverse.dropWhile isBlank).reverse

/-- Read a header up to the end of its line. -/
def readHeader (bytes : List UInt8) : Option ((String × List UInt8) × List UInt8) :=
  let name := bytes.takeWhile isTokenByte
  match bytes.drop name.length with
  | 0x3a :: rest =>
    if name.isEmpty then none
    else
      let value := rest.takeWhile isValueByte
      (lineBreak? (rest.drop value.length)).map fun rest =>
        ((Text.lowerAscii (asciiText name), trimBlanks value), rest)
  | _ => none

/-- Read headers up to the empty line. -/
def readHeaders : Nat → List UInt8 → Option (List (String × List UInt8) × List UInt8)
  | 0, _ => none
  | fuel + 1, bytes =>
    match lineBreak? bytes with
    | some rest => some ([], rest)
    | none => do
      let (header, bytes) ← readHeader bytes
      let (headers, bytes) ← readHeaders fuel bytes
      some (header :: headers, bytes)

/-- The greatest number of headers. -/
def maxHeaders : Nat := 100

/-- The version of a response behind its fixed start. -/
def minor? : UInt8 → Option Nat
  | 0x30 => some 0
  | 0x31 => some 1
  | _ => none

/-- Read a status: three digits. -/
def readStatus : List UInt8 → Option (Nat × List UInt8)
  | a :: b :: c :: rest =>
    match Text.natural? ([a, b, c].map fun d => Char.ofNat d.toNat) with
    | some n => if 100 ≤ n then some (n, rest) else none
    | none => none
  | _ => none

/-- Read the reason of a status, which may be missing, up to the end of the line. -/
def readReason : List UInt8 → Option (List UInt8)
  | 0x20 :: rest => lineBreak? (rest.dropWhile isValueByte)
  | rest => lineBreak? rest

/-- Read the head of a response. -/
def read (bytes : List UInt8) : Option (Head × List UInt8) := do
  let bytes := skipEmptyLines bytes
  if !(Json.bytesOf "HTTP/1.").isPrefixOf bytes then none
  else
    match bytes.drop 7 with
    | version :: 0x20 :: rest =>
      let minor ← minor? version
      let (status, rest) ← readStatus rest
      let rest ← readReason rest
      let (headers, rest) ← readHeaders (rest.length + 1) rest
      if maxHeaders < headers.length then none else some (⟨minor, status, headers⟩, rest)
    | _ => none

/-- The values of the headers with a name, in order. -/
def valuesOf (h : Head) (name : String) : List (List UInt8) :=
  (h.headers.filter (·.1 = name)).map Prod.snd

end Head

end ConformanceSuite.Http
