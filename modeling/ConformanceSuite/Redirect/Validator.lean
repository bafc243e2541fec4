import ConformanceSuite.Context
import ConformanceSuite.Json.Encoder
import ConformanceSuite.Redirect.IdToken
import ConformanceSuite.ConsentTokens

/-!
# Redirects that bear a code

A redirect is accepted if its identity token binds its code. An accepted redirect leaves the code
and the token in the context, under its state, and completes the token set of that name.
-/

namespace ConformanceSuite.Redirect

open Json

/-- A redirect that bears a code. -/
structure CodePayload where
  code : String
  scope : String
  idToken : String
  state : String
  deriving DecidableEq

/-- A redirect that bears an error. -/
structure ErrorPayload where
  error : Option String
  errorDescription : Option String
  state : Option String
  deriving DecidableEq

namespace CodePayload

/-- The value of a code payload. -/
def toJson (p : CodePayload) : Json :=
  .object [("code", .string p.code), ("scope", .string p.scope), ("id_token", .string p.idToken),
    ("state", .string p.state)]

/-- Read a code payload; absent texts are empty. -/
def decoder : Decoder CodePayload :=
  Decoder.record "RedirectCode" ["code", "scope", "id_token", "state"] fun f =>
    mk <$> f.withDefault 0 "" .string <*> f.withDefault 1 "" .string
      <*> f.withDefault 2 "" .string <*> f.withDefault 3 "" .string

end CodePayload

namespace ErrorPayload

/-- The value of an error payload. -/
def toJson (p : ErrorPayload) : Json :=
  .object (optionalMember "error" (p.error.map .string) ++
    optionalMember "error_description" (p.errorDescription.map .string) ++
    optionalMember "state" (p.state.map .string))

/-- Read an error payload. -/
def decoder : Decoder ErrorPayload :=
  Decoder.record "RedirectErrorPayload" ["error", "error_description", "state"] fun f =>
    mk <$> f.optionalOrAbsent 0 .string <*> f.optionalOrAbsent 1 .string
      <*> f.optionalOrAbsent 2 .string

end ErrorPayload

/-- The stores that redirects are checked into. -/
structure Stores where
  context : Context
  tokens : ConsentTokens
  deriving DecidableEq

/-- What is found about a code redirect. -/
inductive Outcome where
  | accepted
  | codeHashInvalid
  deriving DecidableEq

/-- Why a code redirect could not be judged or stored. -/
inductive Error where
  | decode (fault : TokenFault)
  | unsupportedAlgorithm (algorithm : String)
  | missingState
  | context (error : ContextError)
  | tokens (error : TokenError)

/-- A failure in words. -/
def Error.message : Error → String
  | .decode fault => s!"id_token decode error: {fault.message}"
  | .unsupportedAlgorithm algorithm => s!"{algorithm} algorithm not supported"
  | .missingState => "state missing from redirect"
  | .context e => e.message
  | .tokens e => e.message

/-- The key of the identity token of a state. -/
def idTokenKey (state : String) : String := state ++ "_id_token"

/-- One write to a store. -/
inductive Write where
  | put (key value : String)
  | supply (set token : String)
  deriving DecidableEq

/-- Perform a write; collecting for a set that is not registered does nothing. -/
def Write.perform (stores : Stores) : Write → Except Error Stores
  | .put key value =>
    match stores.context.put key (.string value) with
    | .ok context => .ok { stores with context }
    | .error e => .error (.context e)
  | .supply set token =>
    match stores.tokens.supply set token with
    | .ok tokens => .ok { stores with tokens }
    | .error (.unknownSet _) => .ok stores
    | .error e => .error (.tokens e)

/-- The writes of an accepted redirect, in order. -/
def CodePayload.writes (p : CodePayload) : List Write :=
  [.put p.state p.code, .put (idTokenKey p.state) p.idToken, .supply p.state p.code]

/-- Perform writes up to the first that fails; those before it stay. -/
def performAll : List Write → Stores → Except Error Unit × Stores
  | [], stores => (.ok (), stores)
  | write :: rest, stores =>
    match write.perform stores with
    | .error e => (.error e, stores)
    | .ok stores => performAll rest stores

/-- Judge a code redirect without looking at the stores. -/
def CodePayload.judge (p : CodePayload) : Except Error Outcome :=
  if p.state.isEmpty then .error .missingState
  else match IdToken.ofString p.idToken with
    | .error fault => .error (.decode fault)
    | .ok token =>
      match codeHash? token.algorithm p.code with
      | none => .error (.unsupportedAlgorithm token.algorithm)
      | some hash => .ok (if token.codeHash = some hash then .accepted else .codeHashInvalid)

/-- Judge a code redirect, and store an accepted one. -/
def receive (p : CodePayload) (stores : Stores) : Except Error Outcome × Stores :=
  match p.judge with
  | .ok .accepted =>
    match performAll p.writes stores with
    | (.ok _, stores) => (.ok .accepted, stores)
    | (.error e, stores) => (.error e, stores)
  | result => (result, stores)

end ConformanceSuite.Redirect
