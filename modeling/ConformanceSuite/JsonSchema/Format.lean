import ConformanceSuite.IpAddress
import ConformanceSuite.Pattern.Reader

/-!
# Formats of strings

The formats that are checked: calendar dates and times of day, mail addresses and host names,
internet addresses, identifiers of resources, and patterns.
-/

namespace ConformanceSuite.JsonSchema

/-- A format that is checked. -/
inductive Format where
  | date | time | dateTime | email | internationalEmail | hostname | ipv4 | ipv6 | uri | regex
  deriving DecidableEq

namespace Format

/-- The formats by their names. -/
def named : List (String × Format) := [
  ("date", .date), ("time", .time), ("date-time", .dateTime), ("email", .email),
  ("idn-email", .internationalEmail), ("hostname", .hostname), ("ipv4", .ipv4), ("ipv6", .ipv6),
  ("uri", .uri), ("regex", .regex)]

/-! ### Dates and times -/

/-- The number of exactly so many digits. -/
def fixed? (width : Nat) (cs : List Char) : Option Nat :=
  if cs.length = width then Text.natural? cs else none

/-- Whether a year has a leap day. -/
def isLeapYear (year : Nat) : Bool :=
  year % 4 == 0 && (year % 100 != 0 || year % 400 == 0)

/-- The number of days of a month. -/
def daysIn (year month : Nat) : Nat :=
  if month = 2 then if isLeapYear year then 29 else 28
  else if [4, 6, 9, 11].contains month then 30
  else 31

/-- A calendar date: year, month and day with hyphens between them. -/
def isDate (cs : List Char) : Bool :=
  match Text.splitAll '-' cs with
  | [y, m, d] =>
    match fixed? 4 y, fixed? 2 m, fixed? 2 d with
    | some year, some month, some day =>
      1 ≤ month && month ≤ 12 && 1 ≤ day && day ≤ daysIn year month
    | _, _, _ => false
  | _ => false

/-- Hours and minutes with a colon between them, as a number of minutes. -/
def minutes? (cs : List Char) : Option Nat :=
  match Text.splitAll ':' cs with
  | [h, m] =>
    match fixed? 2 h, fixed? 2 m with
    | some hour, some minute =>
      if hour ≤ 23 ∧ minute ≤ 59 then some (hour * 60 + minute) else none
    | _, _ => none
  | _ => none

/-- The distance of a time zone from universal time, in minutes: `Z`, or a signed one. -/
def offset? : List Char → Option Int
  | ['Z'] | ['z'] => some 0
  | '+' :: rest => (minutes? rest).map fun n => (n : Int)
  | '-' :: rest => (minutes? rest).map fun n => -(n : Int)
  | _ => none

/-- What follows a fraction of a second, if there is one. -/
def dropFraction? : List Char → Option (List Char)
  | '.' :: rest => if (rest.takeWhile Text.isDigit).isEmpty then none
    else some (rest.dropWhile Text.isDigit)
  | cs => some cs

/-- A time of day with its zone. A leap second is the last one of a day in universal time. -/
def isTime (cs : List Char) : Bool :=
  match minutes? (cs.take 5), cs.drop 5 with
  | some minute, ':' :: rest =>
    match fixed? 2 (rest.take 2), (dropFraction? (rest.drop 2)).bind offset? with
    | some second, some offset =>
      second ≤ 59 || (second == 60 && ((minute : Int) - offset) % 1440 == 1439)
    | _, _ => false
  | _, _ => false

/-- A date and a time with a `T` between them. -/
def isDateTime (cs : List Char) : Bool :=
  let isMark (c : Char) : Bool := c == 'T' || c == 't'
  match cs.dropWhile fun c => !isMark c with
  | _ :: rest => isDate (cs.takeWhile fun c => !isMark c) && isTime rest
  | [] => false

/-! ### Hosts and mail addresses -/

/-- A label of a host name: letters, digits and hyphens, with no hyphen at either end. -/
def isLabel (cs : List Char) : Bool :=
  !cs.isEmpty && cs.length ≤ 63 && cs.all (fun c => c.isAlphanum || c == '-') &&
    cs.head? != some '-' && cs.getLast? != some '-'

/-- A host name: labels between points. -/
def isHostname (cs : List Char) : Bool :=
  cs.length ≤ 253 && (Text.splitAll '.' cs).all isLabel

/-- The characters of an atom of a mail address. -/
def isAtomChar (c : Char) : Bool :=
  c.isAlphanum || "!#$%&'*+-/=?^_\x60\x7b|\x7d~".toList.contains c || c.toNat ≥ 0x80

/-- A quoted local part: between quotes, with quotes and backslashes escaped. -/
def isQuotedLocal : List Char → Bool
  | '"' :: rest => body rest
  | _ => false
where
  /-- What stands behind the opening quote. -/
  body : List Char → Bool
    | ['"'] => true
    | '\\' :: c :: rest => ' ' ≤ c && body rest
    | c :: rest => c != '"' && c != '\\' && ' ' ≤ c && c != '\x7f' && body rest
    | [] => false

/-- The part of a mail address in front of its last `@`. -/
def isLocalPart (cs : List Char) : Bool :=
  !cs.isEmpty && (String.ofList cs).utf8ByteSize ≤ 64 &&
    (isQuotedLocal cs ||
      (Text.splitAll '.' cs).all fun atom => !atom.isEmpty && atom.all isAtomChar)

/-- An internet address between brackets. -/
def isAddressLiteral (cs : List Char) : Bool :=
  match cs with
  | '[' :: rest =>
    rest.getLast? == some ']' &&
      (match rest.dropLast with
        | 'I' :: 'P' :: 'v' :: '6' :: ':' :: inner => (Ipv6.ofChars? inner).isSome
        | inner => (Ipv4.ofChars? inner).isSome)
  | _ => false

/-- A label of a host name that may hold characters beyond ASCII. -/
def isInternationalLabel (cs : List Char) : Bool :=
  !cs.isEmpty && cs.length ≤ 63 &&
    cs.all (fun c => c.isAlphanum || c == '-' || c.toNat ≥ 0x80) &&
    cs.head? != some '-' && cs.getLast? != some '-'

/-- A mail address: a local part and a host, split at the last `@`. -/
def isEmail (international : Bool) (cs : List Char) : Bool :=
  let host := (cs.reverse.takeWhile (· != '@')).reverse
  let «local» := cs.take (cs.length - host.length - 1)
  cs.contains '@' && isLocalPart «local» &&
    (isAddressLiteral host ||
      (if international then (Text.splitAll '.' host).all isInternationalLabel
      else isHostname host))

/-! ### Identifiers of resources -/

/-- The characters of identifiers that stand for themselves everywhere. -/
def isPlainChar (c : Char) : Bool :=
  c.isAlphanum || "-._~!$&'()*+,;=".toList.contains c

/-- Whether a text holds only allowed characters and percent escapes. -/
def isEscaped (allowed : Char → Bool) : List Char → Bool
  | '%' :: a :: b :: rest =>
    (Text.hexDigit? a).isSome && (Text.hexDigit? b).isSome && isEscaped allowed rest
  | c :: rest => c != '%' && allowed c && isEscaped allowed rest
  | [] => true

/-- A scheme: a letter and letters, digits, plus signs, hyphens and points. -/
def isScheme : List Char → Bool
  | c :: rest => c.isAlpha && rest.all fun c => c.isAlphanum || c == '+' || c == '-' || c == '.'
  | [] => false

/-- An address between brackets: one of version 6, or one of a future version. -/
def isBracketed (cs : List Char) : Bool :=
  match cs with
  | 'v' :: rest | 'V' :: rest =>
    match Text.cut '.' rest with
    | (version, some name) =>
      !version.isEmpty && version.all (fun c => (Text.hexDigit? c).isSome) && !name.isEmpty &&
        name.all fun c => isPlainChar c || c == ':'
    | _ => false
  | cs => (Ipv6.ofChars? cs).isSome

/-- What may stand behind a host: nothing, or a port. -/
def isPort : List Char → Bool
  | [] => true
  | ':' :: digits => digits.all Text.isDigit
  | _ => false

/-- An authority: user information, a host and a port. -/
def isAuthority (cs : List Char) : Bool :=
  let (user, host) := match Text.cut '@' cs with
    | (user, some host) => (user, host)
    | (host, none) => ([], host)
  isEscaped (fun c => isPlainChar c || c == ':') user &&
    match host with
    | '[' :: rest =>
      isBracketed (rest.takeWhile (· != ']')) &&
        (match rest.dropWhile (· != ']') with
          | _ :: port => isPort port
          | [] => false)
    | host =>
      isEscaped isPlainChar (host.takeWhile (· != ':')) && isPort (host.dropWhile (· != ':'))

/-- A path of an identifier. -/
def isPath (cs : List Char) : Bool :=
  isEscaped (fun c => isPlainChar c || c == ':' || c == '@' || c == '/') cs

/-- A query or a fragment of an identifier. -/
def isQuery (cs : List Char) : Bool :=
  isEscaped (fun c => isPlainChar c || [':', '@', '/', '?'].contains c) cs

/-- An identifier of a resource with its scheme. -/
def isUri (cs : List Char) : Bool :=
  match Text.cut ':' cs with
  | (scheme, some rest) =>
    let (rest, fragment) := Text.cut '#' rest
    let (rest, query) := Text.cut '?' rest
    isScheme scheme && isQuery (fragment.getD []) && isQuery (query.getD []) &&
      match rest with
      | '/' :: '/' :: rest =>
        isAuthority (rest.takeWhile (· != '/')) && isPath (rest.dropWhile (· != '/'))
      | path => isPath path
  | _ => false

/-- Whether a string has a format. -/
def accepts (f : Format) (s : String) : Bool :=
  let cs := s.toList
  match f with
  | .date => isDate cs
  | .time => isTime cs
  | .dateTime => isDateTime cs
  | .email => isEmail false cs
  | .internationalEmail => isEmail true cs
  | .hostname => isHostname cs
  | .ipv4 => (Ipv4.ofChars? cs).isSome
  | .ipv6 => (Ipv6.ofChars? cs).isSome
  | .uri => isUri cs
  | .regex => (Pattern.ofString? s).isSome

end Format

end ConformanceSuite.JsonSchema
