import ConformanceSuite.IpAddress
import ConformanceSuite.Json.Decoder
import ConformanceSuite.Text.Blank
import ConformanceSuite.Text.Percent
import ConformanceSuite.Url.Punycode

/-!
# Hosts of addresses

A host is a domain or an internet address. A domain is written in ASCII and in small letters; one
that ends in a number has to be an address of version 4, in any of its spellings.
-/

namespace ConformanceSuite

/-- Why an address cannot be read. -/
inductive UrlError where
  | relative
  | emptyHost
  | domain
  | domainCharacter
  | ipv4
  | ipv6
  | port
  deriving DecidableEq

/-- A failure in words. -/
def UrlError.message : UrlError → String
  | .relative => "relative URL without a base"
  | .emptyHost => "empty host"
  | .domain => "invalid international domain name"
  | .domainCharacter => "invalid domain character"
  | .ipv4 => "invalid IPv4 address"
  | .ipv6 => "invalid IPv6 address"
  | .port => "invalid port number"

/-- A host. -/
inductive UrlHost where
  | domain (text : String)
  | ipv4 (address : Ipv4)
  | ipv6 (address : Ipv6)
  deriving DecidableEq

namespace UrlHost

/-- The text of a host. -/
def text : UrlHost → String
  | .domain text => text
  | .ipv4 address => String.ofList address.chars
  | .ipv6 address => String.ofList ('[' :: address.groupedChars ++ [']'])

/-! ### Addresses of version 4 -/

/-- A part of an address of version 4: decimal, octal behind a zero, or hexadecimal. -/
def ipv4Part? : List Char → Option Nat
  | [] => none
  | '0' :: 'x' :: digits | '0' :: 'X' :: digits =>
    if digits.isEmpty then some 0 else Text.hexValue? digits
  | '0' :: d :: digits =>
    if (d :: digits).all fun c => '0' ≤ c && c ≤ '7' then
      some ((d :: digits).foldl (fun n c => n * 8 + (c.toNat - 0x30)) 0)
    else none
  | digits => Text.natural? digits

/-- The parts of a domain between points, but for an empty last one. -/
def partsOf (domain : List Char) : List (List Char) :=
  let parts := Text.splitAll '.' domain
  if 1 < parts.length ∧ parts.getLast? = some [] then parts.dropLast else parts

/-- Whether the last part of a domain is a number. -/
def endsInNumber (domain : List Char) : Bool :=
  (partsOf domain).getLast?.any fun last =>
    (!last.isEmpty && last.all Text.isDigit) || (ipv4Part? last).isSome

/-- The octets of a number of a certain size, the greatest first. -/
def octetsOf : (size : Nat) → Nat → List (Fin 256)
  | 0, _ => []
  | size + 1, n => octetsOf size (n / 256) ++ [.ofNat 256 n]

theorem length_octetsOf (size n : Nat) : (octetsOf size n).length = size := by
  induction size generalizing n with
  | zero => rfl
  | succ size ih => simp [octetsOf, ih]

/-- Read an address of version 4; its last part fills the octets that are left. -/
def ipv4? (domain : List Char) : Option Ipv4 := do
  let parts ← (partsOf domain).mapM ipv4Part?
  let front := parts.dropLast
  let last ← parts.getLast?
  if 3 < front.length ∨ front.any (255 < ·) ∨ Nat.pow 256 (4 - front.length) ≤ last then
    none
  else
    let value :=
      front.foldl (fun n octet => n * 256 + octet) 0 * Nat.pow 256 (4 - front.length) + last
    some ⟨octetsOf 4 value, length_octetsOf 4 value⟩

/-! ### Domains -/

/-- The characters that no host may have. -/
def forbiddenChars : List Char :=
  ['\x00', '\t', '\n', '\r', ' ', '#', '/', ':', '<', '>', '?', '@', '[', '\\', ']', '^', '|']

/-- Whether a character may not stand in a domain. -/
def isForbidden (c : Char) : Bool := c < ' ' || c == '%' || c == '\x7f' || forbiddenChars.contains c

/-- Whether a character beyond ASCII counts as none. -/
def isIgnored (c : Char) : Bool :=
  let n := c.toNat
  n == 0xad || n == 0x34f || n == 0x200b || n == 0x2060 || n == 0x2064 || n == 0xfeff ||
    (0xfe00 ≤ n && n ≤ 0xfe0f)

/-- Whether a character beyond ASCII may not stand in a domain: controls, spaces, marks of
direction, characters for private use and those that are none. -/
def isDisallowed (c : Char) : Bool :=
  let n := c.toNat
  (0x80 ≤ n && n ≤ 0xa0) || n == 0x1680 || (0x2000 ≤ n && n ≤ 0x200a) ||
    (0x200e ≤ n && n ≤ 0x200f) || (0x2028 ≤ n && n ≤ 0x202f) || (0x205f ≤ n && n ≤ 0x206f) ||
    n == 0x3000 || (0xe000 ≤ n && n ≤ 0xf8ff) || (0xfdd0 ≤ n && n ≤ 0xfdef) ||
    (0xfff9 ≤ n && n ≤ 0xffff) || 0xe0000 ≤ n

/-- Whether a character stands for a point. -/
def isPoint (c : Char) : Bool := c == '.' || c == '\u3002' || c == '\uff0e' || c == '\uff61'

/-- The small or narrow form of a character. -/
def mapped (c : Char) : Char :=
  let n := c.toNat
  if isPoint c then '.'
  else if 0xff01 ≤ n ∧ n ≤ 0xff5e then Text.toLowerAscii (Char.ofNat (n - 0xff00 + 0x20))
  else if (0xc0 ≤ n ∧ n ≤ 0xde ∧ n ≠ 0xd7) ∨ (0x391 ≤ n ∧ n ≤ 0x3a9) ∨ (0x410 ≤ n ∧ n ≤ 0x42f) then
    Char.ofNat (n + 0x20)
  else if 0x400 ≤ n ∧ n ≤ 0x40f then Char.ofNat (n + 0x50)
  else if (0x100 ≤ n ∧ n ≤ 0x12f ∨ 0x14a ≤ n ∧ n ≤ 0x177) ∧ n % 2 = 0 then Char.ofNat (n + 1)
  else Text.toLowerAscii c

/-- The mark in front of a label that is written in ASCII for one beyond it. -/
def asciiMark : List Char := "xn--".toList

/-- A label in ASCII. A label that claims to be one already has to stand for one beyond ASCII. -/
def asciiLabel? (label : List Char) : Option (List Char) :=
  if label.any fun c => '\x7f' < c then
    if asciiMark.isPrefixOf label then none else some (asciiMark ++ Punycode.encode label)
  else if asciiMark.isPrefixOf label then
    match Punycode.decode? (label.drop 4) with
    | some decoded =>
      if (decoded.any fun c => '\x7f' < c) && !(decoded.any fun c =>
          isDisallowed c || isIgnored c || isForbidden c || mapped c != c) then some label
      else none
    | none => none
  else some label

/-- A domain in ASCII and in small letters. -/
def asciiDomain? (domain : List Char) : Option (List Char) := do
  let chars := (domain.filter (!isIgnored ·)).map mapped
  if chars.any fun c => isForbidden c || isDisallowed c then none
  else
    let labels ← (Text.splitAll '.' chars).mapM asciiLabel?
    some (List.intercalate ['.'] labels)

/-- Read an address of version 6 in its brackets. -/
def bracketed (host : List Char) : Except UrlError UrlHost :=
  match host.reverse with
  | ']' :: inner =>
    match Ipv6.ofChars? (inner.reverse.drop 1) with
    | some address => .ok (.ipv6 address)
    | none => .error .ipv6
  | _ => .error .ipv6

/-- Read a host. -/
def ofChars (host : List Char) : Except UrlError UrlHost :=
  if host.head? = some '[' then bracketed host
  else
    let bytes := Text.percentDecode (Json.bytesOf (String.ofList host))
    match (String.fromUTF8? ⟨bytes.toArray⟩).bind fun s => asciiDomain? s.toList with
    | none => .error .domain
    | some [] => .error .emptyHost
    | some name =>
      if endsInNumber name then
        match ipv4? name with
        | some address => .ok (.ipv4 address)
        | none => .error .ipv4
      else .ok (.domain (String.ofList name))

/-- Read a host whose domain means something only to its scheme. -/
def opaqueOfChars (host : List Char) : Except UrlError UrlHost :=
  if host.head? = some '[' then bracketed host
  else if host.any forbiddenChars.contains then .error .domainCharacter
  else .ok (.domain (String.ofList (Text.percentEncode [] host)))

end UrlHost

end ConformanceSuite
