import ConformanceSuite.Base64
import ConformanceSuite.Json.Decoder
import ConformanceSuite.Sha2

/-!
# Identity tokens

An identity token is a compact token: segments separated by points, of which the first two are a
header and a payload. The payload binds an authorization code by its `c_hash`, the left half of the
code's digest under the algorithm that the header names.
-/

namespace ConformanceSuite.Redirect

/-- A segment of a token. -/
inductive Segment where
  | header | payload
  deriving DecidableEq

/-- The name of a segment. -/
def Segment.label : Segment → String
  | .header => "header"
  | .payload => "payload"

/-- Why a text is no identity token. -/
inductive TokenFault where
  | notCompact
  | base64 (segment : Segment) (error : Base64.Error)
  | json (segment : Segment) (error : Json.Error)
  | notObject (segment : Segment)
  | noAlgorithm

/-- A failure in words. -/
def TokenFault.message : TokenFault → String
  | .notCompact => "id_token is not a compact jwt"
  | .base64 segment e => s!"{segment.label}: {e.message}"
  | .json segment e => s!"{segment.label}: {e.message}"
  | .notObject segment => s!"{segment.label}: not a json object"
  | .noAlgorithm => "id_token header has no alg"

/-- What a token says about a code: the algorithm, and the claimed hash if there is one. -/
structure IdToken where
  algorithm : String
  codeHash : Option String
  deriving DecidableEq

/-- The bytes of a segment, which may be padded or not. If it is neither, what is wrong with it as
a padded text is reported. -/
def segmentBytes (segment : List UInt8) : Except Base64.Error (List UInt8) :=
  match Base64.decode .urlSafe false segment with
  | .ok bytes => .ok bytes
  | .error _ => Base64.decode .urlSafe true segment

/-- The object in a segment. -/
def segmentObject (which : Segment) (segment : List UInt8) : Except TokenFault Json :=
  match segmentBytes segment with
  | .error e => .error (.base64 which e)
  | .ok bytes =>
    match Json.parse bytes with
    | .error e => .error (.json which e)
    | .ok (.object members) => .ok (.object members)
    | .ok _ => .error (.notObject which)

/-- The bytes up to the first point, and what follows it if there is one. -/
def splitPoint : List UInt8 → List UInt8 × Option (List UInt8)
  | [] => ([], none)
  | b :: rest =>
    if b = 0x2e then ([], some rest)
    else
      let (first, after) := splitPoint rest
      (b :: first, after)

/-- The header and the payload of a token; what follows a second point is not looked at. -/
def segments? (token : List UInt8) : Option (List UInt8 × List UInt8) :=
  match splitPoint token with
  | (header, some rest) =>
    let payload := (splitPoint rest).1
    if header.isEmpty || payload.isEmpty then none else some (header, payload)
  | (_, none) => none

/-- Read an identity token. -/
def IdToken.ofString (token : String) : Except TokenFault IdToken :=
  match segments? (Json.bytesOf token) with
  | none => .error .notCompact
  | some (header, payload) => do
    let header ← segmentObject .header header
    let payload ← segmentObject .payload payload
    match header.stringAt? "alg" with
    | none => .error .noAlgorithm
    | some algorithm => .ok ⟨algorithm, payload.stringAt? "c_hash"⟩

/-- A digest by its size in bits. -/
inductive Digest where
  | sha256 | sha384 | sha512
  deriving DecidableEq

/-- The digest of bytes. -/
def Digest.of : Digest → List UInt8 → List UInt8
  | .sha256 => Sha2.sha256
  | .sha384 => Sha2.sha384
  | .sha512 => Sha2.sha512

/-- The supported signature algorithms, with their digests. -/
def algorithms : List (String × Digest) := [
  ("HS256", .sha256), ("RS256", .sha256), ("ES256", .sha256), ("PS256", .sha256),
  ("HS384", .sha384), ("RS384", .sha384), ("ES384", .sha384), ("PS384", .sha384),
  ("HS512", .sha512), ("RS512", .sha512), ("ES512", .sha512), ("PS512", .sha512)]

/-- The text of ASCII bytes. -/
def asciiText (bytes : List UInt8) : String :=
  String.ofList (bytes.map fun b => Char.ofNat b.toNat)

/-- The left half of a list. -/
def leftHalf {α : Type} (l : List α) : List α := l.take (l.length / 2)

/-- The hash that binds a code under an algorithm; `none` if the algorithm is not supported. -/
def codeHash? (algorithm code : String) : Option String :=
  (algorithms.lookup algorithm).map fun digest =>
    asciiText (Base64.encode .urlSafe false (leftHalf (digest.of (Json.bytesOf code))))

end ConformanceSuite.Redirect
