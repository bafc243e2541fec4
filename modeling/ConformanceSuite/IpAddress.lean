import ConformanceSuite.Text.Decimal
import ConformanceSuite.Text.Hex
import ConformanceSuite.Text.Split

/-!
# Internet addresses

Addresses of both versions and addresses of sockets, read from their texts and written in canonical
form: no leading zeros, and the longest run of zero groups left out.
-/

namespace ConformanceSuite

/-- An address of version 4, by its four octets. -/
structure Ipv4 where
  octets : List (Fin 256)
  size : octets.length = 4
  deriving DecidableEq

/-- An address of version 6, by its eight groups. -/
structure Ipv6 where
  groups : List (Fin 65536)
  size : groups.length = 8
  deriving DecidableEq

namespace Ipv4

/-- An octet: at most three digits without a leading zero. -/
def octet? (cs : List Char) : Option (Fin 256) :=
  if cs.length ≤ 3 ∧ (cs.head? ≠ some '0' ∨ cs.length = 1) then
    (Text.natural? cs).bind fun n => if h : n < 256 then some ⟨n, h⟩ else none
  else none

/-- Read an address: four octets between points. -/
def ofChars? (cs : List Char) : Option Ipv4 :=
  ((Text.splitAll '.' cs).mapM octet?).bind fun octets =>
    if h : octets.length = 4 then some ⟨octets, h⟩ else none

/-- The text of an address. -/
def chars (a : Ipv4) : List Char :=
  List.intercalate ['.'] (a.octets.map fun o => Nat.toDigits 10 o.val)

/-- The two groups of an address inside one of version 6. -/
def groups (a : Ipv4) : List (Fin 65536) :=
  match a.octets with
  | [w, x, y, z] => [.ofNat 65536 (w.val * 256 + x.val), .ofNat 65536 (y.val * 256 + z.val)]
  | _ => []

end Ipv4

namespace Ipv6

/-- A group: one to four hexadecimal digits. -/
def group? (cs : List Char) : Option (Fin 65536) :=
  if 1 ≤ cs.length ∧ cs.length ≤ 4 then
    (Text.hexValue? cs).map (.ofNat 65536 ·)
  else none

/-- The groups between colons; the last two may be an address of version 4. -/
def groupsOf? : List (List Char) → Option (List (Fin 65536))
  | [] => some []
  | [last] =>
    match group? last with
    | some g => some [g]
    | none => (Ipv4.ofChars? last).map Ipv4.groups
  | cs :: rest => do
    let g ← group? cs
    let others ← groupsOf? rest
    some (g :: others)

/-- The groups of a text, which may be empty. -/
def side? (cs : List Char) : Option (List (Fin 65536)) :=
  if cs.isEmpty then some [] else groupsOf? (Text.splitAll ':' cs)

/-- What stands in front of the first double colon and behind it. -/
def splitGap : List Char → Option (List Char × List Char)
  | ':' :: ':' :: rest => some ([], rest)
  | c :: rest => (splitGap rest).map fun p => (c :: p.1, p.2)
  | [] => none

/-- Read an address: eight groups, or fewer around one double colon. -/
def ofChars? (cs : List Char) : Option Ipv6 :=
  match splitGap cs with
  | none =>
    (side? cs).bind fun groups => if h : groups.length = 8 then some ⟨groups, h⟩ else none
  | some (left, right) => do
    let left' ← side? left
    let right' ← side? right
    if left.contains '.' then none
    else if h : left'.length + right'.length ≤ 7 then
      some ⟨left' ++ List.replicate (8 - left'.length - right'.length) 0 ++ right', by
        simp only [List.length_append, List.length_replicate]
        omega⟩
    else none

/-- The length of the run of zero groups at the start of a list. -/
def zeroRun (groups : List (Fin 65536)) : Nat := (groups.takeWhile (· == 0)).length

/-- The longest run of zero groups, by its start and its length; the first of equally long ones. -/
def longestGap (groups : List (Fin 65536)) : Nat × Nat :=
  (List.range groups.length).foldl (fun best i =>
    let run := zeroRun (groups.drop i)
    if best.2 < run then (i, run) else best) (0, 0)

/-- Groups between colons. -/
def groupChars (groups : List (Fin 65536)) : List Char :=
  List.intercalate [':'] (groups.map fun g => Nat.toDigits 16 g.val)

/-- The text of an address in groups alone. -/
def groupedChars (a : Ipv6) : List Char :=
  let (start, length) := longestGap a.groups
  if length < 2 then groupChars a.groups
  else groupChars (a.groups.take start) ++ [':', ':'] ++ groupChars (a.groups.drop (start + length))

/-- The canonical text of an address. A mapped address of version 4 is written with points. -/
def chars (a : Ipv6) : List Char :=
  match a.groups with
  | [0, 0, 0, 0, 0, 65535, x, y] =>
    let octets := [x.val / 256, x.val % 256, y.val / 256, y.val % 256]
    "::ffff:".toList ++ List.intercalate ['.'] (octets.map fun n => Nat.toDigits 10 n)
  | _ => a.groupedChars

end Ipv6

/-- The address of a socket. An address of version 6 may have a scope. -/
inductive SocketAddress where
  | v4 (host : Ipv4) (port : UInt16)
  | v6 (host : Ipv6) (scope : UInt32) (port : UInt16)
  deriving DecidableEq

namespace SocketAddress

/-- A decimal number below a bound. -/
def numberBelow? (bound : Nat) (cs : List Char) : Option Nat :=
  (Text.natural? cs).bind fun n => if n < bound then some n else none

/-- A port: a decimal number of sixteen bits. -/
def port? (cs : List Char) : Option UInt16 := (numberBelow? (Nat.pow 2 16) cs).map Nat.toUInt16

/-- Read the address of a socket: a host of version 4, or one of version 6 in brackets, and behind a
colon the port. -/
def ofChars? : List Char → Option SocketAddress
  | '[' :: rest =>
    match rest.dropWhile (· != ']') with
    | ']' :: ':' :: port => do
      let inner := rest.takeWhile (· != ']')
      let host ← Ipv6.ofChars? (inner.takeWhile (· != '%'))
      let scope ← match inner.dropWhile (· != '%') with
        | [] => some 0
        | _ :: digits => numberBelow? (Nat.pow 2 32) digits
      some (.v6 host scope.toUInt32 (← port? port))
    | _ => none
  | cs =>
    match cs.dropWhile (· != ':') with
    | _ :: port => do some (.v4 (← Ipv4.ofChars? (cs.takeWhile (· != ':'))) (← port? port))
    | [] => none

/-- The text of the address of a socket. -/
def chars : SocketAddress → List Char
  | .v4 host port => host.chars ++ ':' :: Nat.toDigits 10 port.toNat
  | .v6 host scope port =>
    '[' :: host.chars ++ (if scope = 0 then [] else '%' :: Nat.toDigits 10 scope.toNat) ++
      ']' :: ':' :: Nat.toDigits 10 port.toNat

/-- The text of the address of a socket. -/
def text (a : SocketAddress) : String := String.ofList a.chars

end SocketAddress

end ConformanceSuite
