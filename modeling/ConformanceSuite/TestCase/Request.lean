import ConformanceSuite.TestCase.Basic
import ConformanceSuite.TestCase.Template

/-!
# Prepared requests

Preparing a test case fills in its templates and joins the endpoint to the base address. The path
of the request is kept apart from its address, as it selects the operation to check against.
-/

namespace ConformanceSuite

/-- A request with nothing left to fill in. -/
structure HttpRequest where
  method : String
  url : String
  path : String
  headers : KeyMap String
  body : Option String
  deriving DecidableEq

/-- Why a test case could not be prepared. -/
inductive RequestError where
  | unresolvedVariable (name : String)
  | context (error : ContextError)
  | missingEndpoint (id : String)
  deriving DecidableEq

/-- A failure in words. -/
def RequestError.message : RequestError → String
  | .unresolvedVariable name => s!"unresolved variable ${name}"
  | .context e => e.message
  | .missingEndpoint id => s!"test case {id} has no endpoint"

/-- The failure of a template as a failure of preparation. -/
def RequestError.ofTemplate : Template.Error → RequestError
  | .unresolved name => .unresolvedVariable name
  | .context e => .context e

namespace Url

/-- What follows the first occurrence of a pattern, if there is one. -/
def after? (pattern : List Char) : List Char → Option (List Char)
  | [] => if pattern.isEmpty then some [] else none
  | c :: rest =>
    if pattern.isPrefixOf (c :: rest) then some ((c :: rest).drop pattern.length)
    else after? pattern rest

/-- The path of an address: from the first slash behind the scheme up to a query or a fragment. -/
def pathChars (url : List Char) : List Char :=
  let rest := (after? [':', '/', '/'] url).getD url
  match rest.dropWhile (· != '/') with
  | [] => ['/']
  | path => path.takeWhile fun c => c != '?' && c != '#'

/-- The path of an address. -/
def path (url : String) : String := String.ofList (pathChars url.toList)

/-- Whether an endpoint is an address of its own. -/
def isAbsolute (endpoint : String) : Bool :=
  "http://".toList.isPrefixOf endpoint.toList || "https://".toList.isPrefixOf endpoint.toList

/-- Drop slashes at the end. -/
def trimEndSlashes (cs : List Char) : List Char := (cs.reverse.dropWhile (· == '/')).reverse

/-- The address of an endpoint under a base, with one slash between them. -/
def join (base endpoint : String) : String :=
  if isAbsolute endpoint || base.isEmpty then endpoint
  else
    let front := trimEndSlashes base.toList
    match endpoint.toList with
    | '/' :: rest => String.ofList (front ++ '/' :: rest)
    | rest => String.ofList (front ++ '/' :: rest)

end Url

namespace TestCase

/-- Fill in a template of a test case. -/
def fillIn (context : Context) (template : String) : Except RequestError String :=
  (Template.instantiate template context).mapError .ofTemplate

/-- Fill in the values of headers in order. -/
def fillHeaders (context : Context) :
    List (String × String) → Except RequestError (List (String × String))
  | [] => .ok []
  | (name, value) :: rest => do
    let value ← fillIn context value
    let rest ← fillHeaders context rest
    .ok ((name, value) :: rest)

/-- Fill in an optional body. -/
def fillBody (context : Context) : Option String → Except RequestError (Option String)
  | none => .ok none
  | some body => (fillIn context body).map some

/-- The request of a test case under a base address. -/
def prepare (t : TestCase) (context : Context) (base : String) :
    Except RequestError HttpRequest := do
  if Text.isBlank t.input.endpoint then .error (.missingEndpoint t.id)
  else
    let endpoint ← fillIn context t.input.endpoint
    let url := Url.join base endpoint
    let headers ← fillHeaders context t.input.headers.entries
    let body ← fillBody context t.input.body
    .ok ⟨Text.upperAscii t.input.method, url, Url.path url, .ofList headers, body⟩

end TestCase

end ConformanceSuite
