import ConformanceSuite.Base64
import ConformanceSuite.Http.Body
import ConformanceSuite.Settings.Basic
import ConformanceSuite.Url.Parsed

/-!
# Executing requests over HTTP

A prepared request becomes the head and the body that go over a connection, and the bytes that come
back become a response. What stands at the other end is given as a function.
-/

namespace ConformanceSuite.Http

/-- A request as it goes over a connection. -/
structure SentRequest where
  line : String
  headers : List (String × String)
  body : String
  deriving DecidableEq

/-- An executor with its settings. -/
structure Executor where
  settings : HttpSettings

namespace Executor

/-- The executor of settings. The name of the client has to be the value of a header. -/
def ofSettings (settings : HttpSettings) : Except ExchangeError Executor :=
  if isHeaderValue settings.userAgent then .ok ⟨settings⟩
  else .error (.transport "http client build failed: builder error")

/-- Take the certificate of the client. One that is blank is none; no other can be used. -/
def acceptCertificates (_signing transport : Certificate) : Except ExchangeError Unit :=
  if Text.isBlank transport.publicPem && Text.isBlank transport.privatePem then .ok ()
  else .error (.certificate "builder error")

/-! ### Requests -/

/-- The address of a request, if its scheme may be used. -/
def addressOf (e : Executor) (request : HttpRequest) : Except ExchangeError ParsedUrl :=
  match ParsedUrl.ofString request.url with
  | .error error => .error (.request s!"url: {error.message}")
  | .ok url =>
    if url.scheme = "https" ∨ (url.scheme = "http" ∧ e.settings.allowHttp) then .ok url
    else .error (.request s!"unsupported url scheme: {url.scheme}")

/-- The text of a part of an address, unescaped; nothing if it is not in UTF-8. -/
def unescaped? (part : String) : Option String :=
  String.fromUTF8? ⟨(Text.percentDecode (Json.bytesOf part)).toArray⟩

/-- The user and the password that an address names. -/
def credentials? (url : ParsedUrl) : Option (String × Option String) :=
  match unescaped? url.username with
  | none => none
  | some name =>
    let password := url.password.bind unescaped?
    if name = "" ∧ password.isNone then none else some (name, password)

/-- The header that bears a user and a password. -/
def authorization (credentials : String × Option String) : String × String :=
  let text := credentials.1 ++ ":" ++ credentials.2.getD ""
  let encoded := Head.asciiText (Base64.encode .standard true (Json.bytesOf text))
  ("authorization", s!"Basic {encoded}")

/-- Add a header, unless there is one of its name. -/
def addMissing (name value : String) (headers : List (String × String)) : List (String × String) :=
  if headers.any (·.1 = name) then headers else headers ++ [(name, value)]

/-- The headers of a request: its own in small letters, those of its address and its body, and those
that are never missing. -/
def headersOf (e : Executor) (url : ParsedUrl) (request : HttpRequest) :
    List (String × String) :=
  let own := request.headers.entries.map fun h => (Text.lowerAscii h.1, h.2)
  let headers := ((credentials? url).map authorization).toList ++ own
  let headers := match request.body with
    | none => headers
    | some body =>
      headers.filter (·.1 ≠ "content-length") ++ [("content-length", toString body.utf8ByteSize)]
  addMissing "host" url.authority
    (addMissing "user-agent" e.settings.userAgent (addMissing "accept" "*/*" headers))

/-- What a request asks for: the path, but to be connected the authority. -/
def targetOf (url : ParsedUrl) (method : String) : String :=
  if method = "CONNECT" then url.authority else url.target

/-- The request that goes over a connection, with its address freed from the user. -/
def sent (e : Executor) (request : HttpRequest) :
    Except ExchangeError (ParsedUrl × SentRequest) :=
  match e.addressOf request with
  | .error error => .error error
  | .ok url =>
    if !isToken request.method then .error (.request s!"method: {request.method}")
    else if !request.headers.entries.all fun h => isHeaderName h.1 && isHeaderValue h.2 then
      .error (.transport "builder error")
    else
      let bare :=
        if (credentials? url).isSome then { url with username := "", password := none } else url
      .ok (bare, ⟨s!"{request.method} {targetOf url request.method} HTTP/1.1",
        e.headersOf url request, request.body.getD ""⟩)

/-! ### Responses -/

/-- The head of the answer and what follows it. Heads that only inform are skipped. -/
def finalHead : Nat → List UInt8 → Option (Head × List UInt8)
  | 0, _ => none
  | fuel + 1, bytes => do
    let (head, rest) ← Head.read bytes
    if head.status < 200 ∧ head.status ≠ 101 then finalHead fuel rest else some (head, rest)

/-- Add a header to those kept: values of one name are joined, and those that are not visible ASCII
are dropped. -/
def keepHeader (kept : KeyMap String) (header : String × List UInt8) : KeyMap String :=
  if Body.isVisible header.2 then
    let value := Head.asciiText header.2
    match kept.get? header.1 with
    | none => kept.insert header.1 value
    | some before => kept.insert header.1 s!"{before}, {value}"
  else kept

/-- The answer in some bytes, with its body still to be read. -/
def answer? (method : String) (bytes : List UInt8) : Option (Head × Body) := do
  let (head, rest) ← finalHead (bytes.length + 1) bytes
  let body ← Body.ofHead? method head rest
  some (head, body)

/-- The failure of a request that was not answered. -/
def notAnswered (url : ParsedUrl) : ExchangeError :=
  .transport s!"error sending request for url ({url.text})"

/-- Send a request: `peer` gives the bytes that come back from an address, if there is a connection
to it. The request that was sent, if there was one, is part of the result. -/
def execute (e : Executor) (peer : ParsedUrl → Option (List UInt8)) (request : HttpRequest) :
    Except ExchangeError HttpResponse × Option SentRequest :=
  match e.sent request with
  | .error error => (.error error, none)
  | .ok (url, sent) =>
    match peer url with
    | none => (.error (notAnswered url), none)
    | some bytes =>
      match answer? request.method bytes with
      | none => (.error (notAnswered url), some sent)
      | some (head, body) =>
        let response := HttpResponse.ofStatus request.method request.path head.status.toUInt16
        (match (body.readLimited e.settings.maxResponseBytes).1 with
          | .error error => .error error
          | .ok body => .ok { response with
              headers := head.headers.foldl keepHeader .empty
              body }, some sent)

end Executor

end ConformanceSuite.Http
