import ConformanceSuite.Url.Host

/-!
# Addresses in parts

An address is read into its parts in normal form: scheme and host in small letters, a port only if
it is not the one of the scheme, a path without steps to itself or upwards, and everything that may
not stand in a part written with percent escapes.
-/

namespace ConformanceSuite

/-- An address in parts. The text of a user and of a password is escaped. -/
structure ParsedUrl where
  scheme : String
  username : String
  password : Option String
  host : Option UrlHost
  port : Option UInt16
  path : String
  query : Option String
  fragment : Option String
  deriving DecidableEq

namespace ParsedUrl

/-! ### Schemes -/

/-- The schemes of the web and of files with their ports; a file has none. -/
def specialSchemes : List (String × Option UInt16) :=
  [("http", some 80), ("https", some 443), ("ws", some 80), ("wss", some 443), ("ftp", some 21),
    ("file", none)]

/-- Whether a scheme is one of the web or of files. -/
def isSpecial (scheme : String) : Bool := (specialSchemes.lookup scheme).isSome

/-- The port that a scheme has if no other is given. -/
def defaultPort? (scheme : String) : Option UInt16 := (specialSchemes.lookup scheme).join

/-- The scheme of an address, in small letters, and what follows its colon. -/
def splitScheme? (cs : List Char) : Option (String × List Char) :=
  let name := cs.takeWhile fun c => c.isAlphanum || c == '+' || c == '-' || c == '.'
  match name, cs.drop name.length with
  | c :: _, ':' :: rest =>
    if c.isAlpha then some (Text.lowerAscii (String.ofList name), rest) else none
  | _, _ => none

/-! ### Escapes -/

/-- What is escaped in a fragment. -/
def fragmentEscapes : List Char := [' ', '"', '<', '>', '\x60']

/-- What is escaped in a query. -/
def queryEscapes (special : Bool) : List Char :=
  [' ', '"', '#', '<', '>'] ++ if special then ['\''] else []

/-- What is escaped in a path. -/
def pathEscapes : List Char := fragmentEscapes ++ ['#', '?', '{', '}']

/-- What is escaped in a user and in a password. -/
def userEscapes : List Char :=
  pathEscapes ++ ['/', ':', ';', '=', '@', '[', '\\', ']', '^', '|']

/-- A part with the given characters escaped. -/
def escaped (escapes cs : List Char) : String := String.ofList (Text.percentEncode escapes cs)

/-! ### Authorities -/

/-- Whether a character ends an authority. -/
def endsAuthority (special : Bool) (c : Char) : Bool :=
  c == '/' || c == '?' || c == '#' || (special && c == '\\')

/-- What stands in front of the last of certain characters and behind it. -/
def splitLast? (mark : Char) (cs : List Char) : Option (List Char × List Char) :=
  match cs.reverse.dropWhile (· != mark) with
  | [] => none
  | _ :: front => some (front.reverse, (cs.reverse.takeWhile (· != mark)).reverse)

/-- The host of an authority, in front of a colon that is not in brackets, and what follows it. -/
def splitHost : (bracketed : Bool) → List Char → List Char × List Char
  | _, [] => ([], [])
  | bracketed, c :: rest =>
    if c = ':' ∧ !bracketed then ([], c :: rest)
    else
      let inside := if c = '[' then true else if c = ']' then false else bracketed
      let (host, rest) := splitHost inside rest
      (c :: host, rest)

/-- The port behind a colon. -/
def port? (digits : List Char) : Except UrlError (Option UInt16) :=
  if digits.isEmpty then .ok none
  else match Text.natural? digits with
    | some n => if n < Nat.pow 2 16 then .ok (some n.toUInt16) else .error .port
    | none => .error .port

/-- The user and the password in front of a host. -/
def credentials (user : List Char) : String × Option String :=
  let name := escaped userEscapes (user.takeWhile (· != ':'))
  match user.dropWhile (· != ':') with
  | [] | [_] => (name, none)
  | _ :: password => (name, some (escaped userEscapes password))

/-- Read an authority into an address that has only a scheme so far. The flag tells whether anything
follows the authority. -/
def readAuthority (url : ParsedUrl) (followed : Bool) (cs : List Char) :
    Except UrlError ParsedUrl := do
  let special := isSpecial url.scheme
  let (user, place) := (splitLast? '@' cs).getD ([], cs)
  if cs.length = place.length + 1 ∧ place.isEmpty ∧ followed then .error .emptyHost
  else
    let (host, rest) := splitHost false place
    if host.isEmpty ∧ special then .error .emptyHost
    else
      let host ← if special then UrlHost.ofChars host else UrlHost.opaqueOfChars host
      let (username, password) := credentials user
      let hasUser := username ≠ "" ∨ password.isSome
      if host = .domain "" ∧ (hasUser ∨ !rest.isEmpty) then .error .emptyHost
      else
        let port ← port? (rest.drop 1)
        let port := if port = defaultPort? url.scheme then none else port
        .ok { url with username, password, host := some host, port }

/-! ### Paths -/

/-- Whether a step leads to itself. -/
def isHere (step : List Char) : Bool := [".", "%2e"].contains (Text.lowerAscii (String.ofList step))

/-- Whether a step leads upwards. -/
def isUp (step : List Char) : Bool :=
  ["..", "%2e.", ".%2e", "%2e%2e"].contains (Text.lowerAscii (String.ofList step))

/-- The steps of a path with those to itself and upwards carried out, last first. -/
def walkSteps : List (List Char) → List (List Char) → List (List Char)
  | [], walked => walked
  | [last], walked =>
    if isUp last then [] :: walked.drop 1
    else if isHere last then [] :: walked
    else last :: walked
  | step :: rest, walked =>
    if isUp step then walkSteps rest (walked.drop 1)
    else if isHere step then walkSteps rest walked
    else walkSteps rest (step :: walked)

/-- Split a path at its slashes. -/
def splitSteps (special : Bool) : List Char → List (List Char)
  | [] => [[]]
  | c :: rest =>
    if c = '/' ∨ (special ∧ c = '\\') then [] :: splitSteps special rest
    else match splitSteps special rest with
      | [] => [[c]]
      | step :: steps => (c :: step) :: steps

/-- A path in normal form. -/
def normalPath (special : Bool) (cs : List Char) : String :=
  let cs := match cs with
    | '/' :: rest => rest
    | '\\' :: rest => if special then rest else cs
    | _ => cs
  let steps := (splitSteps special cs).map (Text.percentEncode pathEscapes)
  String.ofList ((walkSteps steps []).reverse.flatMap ('/' :: ·))

/-- Read path, query and fragment. -/
def readTail (url : ParsedUrl) (cs : List Char) : ParsedUrl :=
  let special := isSpecial url.scheme
  let path := cs.takeWhile fun c => c != '?' && c != '#'
  let (query, rest) : Option (List Char) × List Char :=
    match cs.drop path.length with
    | '?' :: rest => (some (rest.takeWhile (· != '#')), rest.dropWhile (· != '#'))
    | rest => (none, rest)
  { url with
    path := if path.isEmpty ∧ !special then "" else normalPath special path
    query := query.map (escaped (queryEscapes special))
    fragment := if rest.isEmpty then none else some (escaped fragmentEscapes (rest.drop 1)) }

/-- Whether a host of a file is the letter of a drive. -/
def isDriveLetter : List Char → Bool
  | [c, mark] => c.isAlpha && (mark == ':' || mark == '|')
  | _ => false

/-- Read the host of a file, which may be missing. -/
def readFileHost (url : ParsedUrl) : List Char → Except UrlError ParsedUrl
  | a :: b :: rest =>
    let host := rest.takeWhile (!endsAuthority true ·)
    if (a = '/' ∨ a = '\\') ∧ (b = '/' ∨ b = '\\') ∧ !host.isEmpty ∧ !isDriveLetter host then
      (UrlHost.ofChars host).map fun host => { url with host := some host }
    else .ok url
  | _ => .ok url

/-- Read an address behind its scheme. -/
def readBehindScheme (scheme : String) (cs : List Char) : Except UrlError ParsedUrl := do
  let url : ParsedUrl := ⟨scheme, "", none, none, none, "", none, none⟩
  let special := isSpecial scheme
  if scheme = "file" then readFileHost url cs
  else
    let start :=
      if special then some (cs.dropWhile fun c => c == '/' || c == '\\')
      else match cs with
        | '/' :: '/' :: rest => some rest
        | _ => none
    match start with
    | none => .ok { url with path := String.ofList cs }
    | some cs =>
      let authority := cs.takeWhile (!endsAuthority special ·)
      let rest := cs.drop authority.length
      let url ← readAuthority url (!rest.isEmpty) authority
      .ok (readTail url rest)

/-- Read an address. Controls and spaces around it, and tabs and line breaks in it, do not count. -/
def ofString (text : String) : Except UrlError ParsedUrl :=
  let trimmed := (((text.toList.dropWhile (· ≤ ' ')).reverse).dropWhile (· ≤ ' ')).reverse
  match splitScheme? (trimmed.filter fun c => c != '\t' && c != '\n' && c != '\r') with
  | none => .error .relative
  | some (scheme, rest) => readBehindScheme scheme rest

/-! ### Texts -/

/-- The port of an address as it is written behind the host. -/
def portText (url : ParsedUrl) : String :=
  match url.port with
  | none => ""
  | some port => s!":{port}"

/-- The host of an address with its port. -/
def authority (url : ParsedUrl) : String :=
  match url.host with
  | none => ""
  | some host => host.text ++ url.portText

/-- The path of an address with its query. -/
def target (url : ParsedUrl) : String :=
  match url.query with
  | none => url.path
  | some query => s!"{url.path}?{query}"

/-- The user and the password of an address as they are written in front of the host. -/
def userText (url : ParsedUrl) : String :=
  match url.password with
  | some password => s!"{url.username}:{password}@"
  | none => if url.username = "" then "" else s!"{url.username}@"

/-- The text of an address. -/
def text (url : ParsedUrl) : String :=
  let start :=
    if url.host.isSome then s!"{url.scheme}://{url.userText}{url.authority}"
    else s!"{url.scheme}:"
  match url.fragment with
  | none => start ++ url.target
  | some fragment => s!"{start}{url.target}#{fragment}"

end ParsedUrl

end ConformanceSuite
