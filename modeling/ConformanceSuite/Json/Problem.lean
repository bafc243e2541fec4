import ConformanceSuite.Json.Printer
import ConformanceSuite.Text.Quoted

/-!
# What can be wrong with a JSON text

A problem is a cause and the offset in the text at which it was met. `Cause.message` holds all the
wording; `Error.message` adds the place as a line and a column of bytes.
-/

namespace ConformanceSuite.Json

/-- A value that stands where another kind was expected. -/
inductive Found where
  | null
  | bool (value : Bool)
  | integer (value : Int)
  | float (value : Double)
  | string (value : String)
  | sequence
  | map

/-- Why a text is not JSON, or is not the JSON that was asked for. -/
inductive Cause where
  | eofInValue
  | eofInList
  | eofInObject
  | eofInString
  | expectedValue
  | expectedIdent
  | expectedColon
  | expectedListCommaOrEnd
  | expectedObjectCommaOrEnd
  | keyMustBeString
  | trailingComma
  | trailingCharacters
  | invalidNumber
  | numberOutOfRange
  | invalidEscape
  | loneSurrogate
  | unexpectedEndOfHexEscape
  | invalidCodePoint
  | controlCharacter
  | recursionLimit
  | missingField (name : String)
  | duplicateField (name : String)
  | invalidType (found : Found) (expected : String)
  | invalidValue (found : Found) (expected : String)
  | invalidLength (length : Nat) (expected : String)
  | unusable (reason : String)

/-- The number of a found value. -/
def Found.ofNumber : Number → Found
  | .integer n _ => .integer n
  | .float d => .float d

/-- A found value in words. -/
def Found.describe : Found → String
  | .null => "null"
  | .bool b => s!"boolean `{b}`"
  | .integer n => s!"integer `{String.ofList (integerChars n)}`"
  | .float d => s!"floating point `{String.ofList (d.chars floatLayout)}`"
  | .string s => s!"string {Text.quoted s}"
  | .sequence => "sequence"
  | .map => "map"

/-- A cause in words. -/
def Cause.message : Cause → String
  | .eofInValue => "EOF while parsing a value"
  | .eofInList => "EOF while parsing a list"
  | .eofInObject => "EOF while parsing an object"
  | .eofInString => "EOF while parsing a string"
  | .expectedValue => "expected value"
  | .expectedIdent => "expected ident"
  | .expectedColon => "expected `:`"
  | .expectedListCommaOrEnd => "expected `,` or `]`"
  | .expectedObjectCommaOrEnd => "expected `,` or `\x7d`"
  | .keyMustBeString => "key must be a string"
  | .trailingComma => "trailing comma"
  | .trailingCharacters => "trailing characters"
  | .invalidNumber => "invalid number"
  | .numberOutOfRange => "number out of range"
  | .invalidEscape => "invalid escape"
  | .loneSurrogate => "lone leading surrogate in hex escape"
  | .unexpectedEndOfHexEscape => "unexpected end of hex escape"
  | .invalidCodePoint => "invalid unicode code point"
  | .controlCharacter => "control character (\\u0000-\\u001F) found while parsing a string"
  | .recursionLimit => "recursion limit exceeded"
  | .missingField name => s!"missing field `{name}`"
  | .duplicateField name => s!"duplicate field `{name}`"
  | .invalidType found expected => s!"invalid type: {found.describe}, expected {expected}"
  | .invalidValue found expected => s!"invalid value: {found.describe}, expected {expected}"
  | .invalidLength length expected => s!"invalid length {length}, expected {expected}"
  | .unusable reason => reason

/-- A cause and the offset at which it was met, counted in bytes. -/
structure Problem where
  cause : Cause
  offset : Nat

/-- A place in a text: lines count from one, columns are the bytes since the last line feed. -/
structure Position where
  line : Nat
  column : Nat

/-- The place of an offset in a text. -/
def Position.ofOffset (text : List UInt8) (offset : Nat) : Position :=
  let before := text.take offset
  ⟨1 + before.count 0x0a, (before.reverse.takeWhile (· != 0x0a)).length⟩

/-- A cause, with its place if it was met in a text. -/
structure Error where
  cause : Cause
  position : Option Position

/-- An error in words. -/
def Error.message (e : Error) : String :=
  match e.position with
  | none => e.cause.message
  | some p => s!"{e.cause.message} at line {p.line} column {p.column}"

end ConformanceSuite.Json
