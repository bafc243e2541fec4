import ConformanceSuite.KeyMap
import ConformanceSuite.Text.Blank

/-!
# HTTP responses

A response belongs to a method and a path. Header names are kept in small letters and looked up
without regard to case; methods are kept in capitals.
-/

namespace ConformanceSuite

/-- An HTTP response, with the request it answers and the time it took. -/
structure HttpResponse where
  method : String
  path : String
  status : UInt16
  headers : KeyMap String
  body : List UInt8
  elapsedMicros : Nat
  deriving DecidableEq

namespace HttpResponse

/-- A response without headers and body. -/
def ofStatus (method path : String) (status : UInt16) : HttpResponse :=
  ⟨Text.upperAscii method, path, status, .empty, [], 0⟩

/-- Add a header, replacing one of the same name. -/
def addHeader (r : HttpResponse) (name value : String) : HttpResponse :=
  { r with headers := r.headers.insert (Text.lowerAscii name) value }

/-- The value of a header. -/
def header (r : HttpResponse) (name : String) : Option String :=
  r.headers.get? (Text.lowerAscii name)

/-- The value of the content type header. -/
def contentType (r : HttpResponse) : Option String := r.header "content-type"

/-- Space, tab, line feed, form feed and carriage return. -/
def isBlankByte (b : UInt8) : Bool :=
  b == 0x20 || b == 0x09 || b == 0x0a || b == 0x0c || b == 0x0d

/-- Whether the body is empty or blank. -/
def bodyIsBlank (r : HttpResponse) : Bool := r.body.all isBlankByte

/-- The time taken, in whole milliseconds. -/
def elapsedMillis (r : HttpResponse) : Nat := r.elapsedMicros / 1000

end HttpResponse

end ConformanceSuite
