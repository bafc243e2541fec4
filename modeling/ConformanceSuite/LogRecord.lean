import ConformanceSuite.Json.Printer

/-!
# Log records

A log record is a flat list of named fields. It is written as a compact JSON object, its natural
numbers with all their digits: times are counted in 128 bits, which is more than a JSON value holds
exactly.
-/

namespace ConformanceSuite

/-- A field of a log record. -/
inductive LogField where
  | unknown
  | text (value : String)
  | natural (value : Nat)
  deriving DecidableEq

/-- The fields of a log record by their names, in the order in which they are written. -/
abbrev LogRecord := List (String × LogField)

namespace LogField

/-- The field of an optional text. -/
def ofText? : Option String → LogField
  | none => .unknown
  | some s => .text s

/-- The field of an optional natural number. -/
def ofNatural? : Option Nat → LogField
  | none => .unknown
  | some n => .natural n

/-- The JSON value of a field. What is not known is `null`. -/
def toJson : LogField → Json
  | .unknown => .null
  | .text s => .string s
  | .natural n => .ofNat n

/-- Write a field in front of a rest. -/
def write : LogField → List Char → List Char
  | .unknown, rest => 'n' :: 'u' :: 'l' :: 'l' :: rest
  | .text s, rest => Json.writeString s rest
  | .natural n, rest => Nat.toDigits 10 n ++ rest

end LogField

namespace LogRecord

/-- The JSON value of a record. -/
def toJson (r : LogRecord) : Json := .object (r.map fun (name, field) => (name, field.toJson))

/-- Write the fields after the first, each behind a comma. -/
def writeRest : LogRecord → List Char → List Char
  | [], rest => rest
  | (name, field) :: more, rest =>
    ',' :: Json.writeString name (':' :: field.write (writeRest more rest))

/-- Write a record. -/
def write : LogRecord → List Char
  | [] => ['{', '}']
  | (name, field) :: more =>
    '{' :: Json.writeString name (':' :: field.write (writeRest more ['}']))

/-- The text of a record. -/
def text (r : LogRecord) : String := String.ofList r.write

end LogRecord

end ConformanceSuite
