import ConformanceSuite.Http.Head
import ConformanceSuite.Run.Event
import ConformanceSuite.Text.Hex
import ConformanceSuite.Text.Split

/-!
# Bodies of HTTP responses

The bytes of a body, as far as they are delivered: a number of them that is declared, a sequence of
chunks, or all that come. A body is read up to a limit, and no more than one byte beyond it.
-/

namespace ConformanceSuite.Http

/-- A body: its declared length, the bytes delivered, and whether the delivery breaks off behind
them. -/
structure Body where
  declared : Option UInt64
  delivered : List UInt8
  isBroken : Bool

namespace Body

/-- The body that is empty by declaration. -/
def empty : Body := ⟨some 0, [], false⟩

/-- The body of a declared length. -/
def ofLength (length : UInt64) (bytes : List UInt8) : Body :=
  ⟨some length, bytes.take length.toNat, bytes.length < length.toNat⟩

/-! ### Chunks -/

/-- The size of a chunk and what follows its line. -/
def readSize (bytes : List UInt8) : Option (Nat × List UInt8) := do
  let isDigit (b : UInt8) : Bool := (Text.hexDigit? (Char.ofNat b.toNat)).isSome
  let isBlank (b : UInt8) : Bool := b == 0x20 || b == 0x09
  let digits := bytes.takeWhile isDigit
  let size ← Text.hexValue? (digits.map fun b => Char.ofNat b.toNat)
  if Nat.pow 2 64 ≤ size then none
  else
    match (bytes.drop digits.length).dropWhile isBlank with
    | 0x0d :: 0x0a :: rest => some (size, rest)
    | 0x3b :: rest =>
      match rest.dropWhile fun b => b != 0x0d && b != 0x0a with
      | 0x0d :: 0x0a :: rest => some (size, rest)
      | _ => none
    | _ => none

/-- Read chunks: the bytes delivered, and whether the delivery breaks off. -/
def readChunks : Nat → List UInt8 → List UInt8 × Bool
  | 0, _ => ([], true)
  | fuel + 1, bytes =>
    match readSize bytes with
    | none => ([], true)
    | some (0, rest) => ([], (Head.readHeaders (rest.length + 1) rest).isNone)
    | some (size, rest) =>
      let chunk := rest.take size
      match rest.drop size with
      | 0x0d :: 0x0a :: rest =>
        let (bytes, broken) := readChunks fuel rest
        (chunk ++ bytes, broken)
      | _ => (chunk, true)

/-- The body in chunks. -/
def ofChunks (bytes : List UInt8) : Body :=
  let (delivered, isBroken) := readChunks (bytes.length + 1) bytes
  ⟨none, delivered, isBroken⟩

/-! ### Framing -/

/-- Whether bytes are visible ASCII, spaces and tabs. -/
def isVisible (bytes : List UInt8) : Bool := bytes.all fun b => b == 0x09 || (0x20 ≤ b && b < 0x7f)

/-- A length: digits that stand for a number of 64 bits. -/
def length? (text : List Char) : Option UInt64 :=
  (Text.natural? (Text.trimChars text)).bind fun n =>
    if n < Nat.pow 2 64 then some n.toUInt64 else none

/-- The lengths that the headers declare. -/
def declaredLengths? (h : Head) : Option (List UInt64) :=
  ((h.valuesOf "content-length").mapM fun value =>
    if isVisible value then
      (Text.splitAll ',' (Head.asciiText value).toList).mapM length?
    else none).map List.flatten

/-- Whether the last coding of the headers is in chunks. -/
def isChunked (h : Head) : Bool :=
  match (h.valuesOf "transfer-encoding").getLast? with
  | none => false
  | some value =>
    isVisible value && ((Text.splitAll ',' (Head.asciiText value).toList).getLast?.any fun coding =>
      Text.lowerAscii (String.ofList (Text.trimChars coding)) == "chunked")

/-- The greatest length that can be declared. -/
def maxDeclared : UInt64 := 0xfffffffffffffffd

/-- The body behind a head, in the answer to a method; nothing if its framing makes no sense. -/
def ofHead? (method : String) (h : Head) (bytes : List UInt8) : Option Body :=
  if h.status = 101 ∨ h.status = 204 ∨ h.status = 304 ∨ method = "HEAD" then some empty
  else if method = "CONNECT" ∧ h.status < 300 then some empty
  else if !(h.valuesOf "transfer-encoding").isEmpty then
    if h.minor = 0 then none
    else if isChunked h then some (ofChunks bytes)
    else some ⟨none, bytes, false⟩
  else
    match declaredLengths? h with
    | none => none
    | some [] => some ⟨none, bytes, false⟩
    | some (length :: others) =>
      if others.all (· == length) && length ≤ maxDeclared then some (ofLength length bytes)
      else none

/-! ### The limit -/

/-- The largest number of bytes that are held in one piece. -/
def capacity : Nat := Nat.pow 2 63 - 1

/-- One more than a number, or the largest number itself. -/
def oneMore (n : UInt64) : UInt64 := if n + 1 = 0 then n else n + 1

/-- Take bytes off a body, at most so many: those that are taken, and those that are left behind
them. Nothing is gained from a delivery that breaks off before the limit is reached, nor from bytes
that cannot be held. -/
def read (limit : UInt64) (b : Body) : Except String (List UInt8) × List UInt8 :=
  let bytes := b.delivered.take limit.toNat
  let result : Except String (List UInt8) :=
    if b.isBroken ∧ b.delivered.length < limit.toNat then .error "request or response body error"
    else if capacity < bytes.length then .error "out of memory"
    else .ok bytes
  (result, b.delivered.drop limit.toNat)

/-- The failure of a body that is shorter than declared. -/
def truncated : ExchangeError := .transport "http response truncated"

/-- What is said of the bytes that were read, of which one more than the limit may be there. -/
def judge (maxBytes : UInt64) (declared : Option UInt64) (bytes : List UInt8) :
    Except ExchangeError (List UInt8) :=
  if maxBytes < .ofNat bytes.length then .error .tooLarge
  else if declared.any (.ofNat bytes.length < ·) then .error truncated
  else .ok bytes

/-- Read a body up to a limit, and give what is left of it. -/
def readLimited (maxBytes : UInt64) (b : Body) : Except ExchangeError (List UInt8) × List UInt8 :=
  if b.declared.any (maxBytes < ·) then (.error .tooLarge, b.delivered)
  else
    match b.read (oneMore maxBytes) with
    | (.error text, left) => (.error (.transport s!"failed to read response: {text}"), left)
    | (.ok bytes, left) => (judge maxBytes b.declared bytes, left)

end Body

end ConformanceSuite.Http
