import ConformanceSuite.Run.Event
import ConformanceSuite.ConsentTokens

/-!
# Runs

A run goes through specifications and their test cases strictly in order, because later cases read
what earlier ones captured. A case whose request cannot be prepared aborts the run; anything else
that goes wrong fails that case alone. A run gives a report, or an abort with the report so far.
-/

namespace ConformanceSuite.Run

/-- What a run reaches for outside itself: an executor with a state of type `σ`, which may also
write to the context, and a resolver of validators with a state of type `ρ`. -/
structure Collaborators (σ ρ : Type) where
  acceptCertificates : (signing transport : Certificate) → σ → Except ExchangeError Unit × σ
  execute : HttpRequest → Context → σ → Except ExchangeError HttpResponse × Context × σ
  resolve : ApiSpecification → ρ → Except ValidatorUnavailable ResponseJudge × ρ

/-- What a run acts upon: the context, the states of its collaborators, and the events so far. -/
structure World (σ ρ : Type) where
  context : Context
  executor : σ
  resolver : ρ
  events : List Event

/-- Add an event. -/
def World.record {σ ρ : Type} (w : World σ ρ) (e : Event) : World σ ρ :=
  { w with events := w.events ++ [e] }

/-- Why a run was aborted. -/
inductive AbortCause where
  | prepare (error : RequestError)
  | context (error : ContextError)
  | tokensPending (sets : List String)
  | tokens (error : TokenError)

/-- A cause in words. -/
def AbortCause.message : AbortCause → String
  | .prepare e => e.message
  | .context e => e.message
  | .tokensPending sets => "consent tokens not collected for: " ++ ", ".intercalate sets
  | .tokens e => e.message

/-- An aborted run: its cause and the results so far. -/
structure Abort where
  cause : AbortCause
  results : List SpecificationResult

/-- An aborted run in words. -/
def Abort.message (a : Abort) : String := s!"run aborted: {a.cause.message}"

/-- The context key of the signing certificate. -/
def signingCertKey : String := "SigningCert"

/-- The context key of the transport certificate. -/
def transportCertKey : String := "TransportCert"

/-- The result of a test case. -/
def resultOf (t : TestCase) (pass : Bool) : TestResult := ⟨t.id, t.name, t.label, pass⟩

/-- The answer of a resolver, once it has been asked. -/
abbrev Resolution := Option (Except ValidatorUnavailable ResponseJudge)

section

variable {σ ρ : Type}

/-- The validator of a specification; the resolver is asked only if it has not been asked before. -/
def resolveOnce (c : Collaborators σ ρ) (spec : ApiSpecification) (resolution : Resolution)
    (w : World σ ρ) : Except ValidatorUnavailable ResponseJudge × World σ ρ :=
  match resolution with
  | some answer => (answer, w)
  | none =>
    let (answer, resolver) := c.resolve spec w.resolver
    (answer, { w with resolver })

/-- Judge a response; captures change the context. -/
def judge (t : TestCase) (response : HttpResponse) (validator : Option ResponseJudge)
    (w : World σ ρ) : Finding × World σ ρ :=
  let (verdict, context) := t.validate response w.context validator
  let fault : Option Fault :=
    match verdict with
    | .error e => some (.validate e)
    | .ok v => if v.pass then none else some (.verdict v.reasons)
  (⟨some response, fault⟩, { w with context })

/-- Send a prepared request and judge what comes back. -/
def attempt (c : Collaborators σ ρ) (spec : ApiSpecification) (t : TestCase)
    (request : HttpRequest) (resolution : Resolution) (w : World σ ρ) :
    Finding × Resolution × World σ ρ :=
  let (sent, context, executor) := c.execute request w.context w.executor
  let w := { w with context, executor }
  match sent with
  | .error e => (⟨none, some (.execute e)⟩, resolution, w)
  | .ok response =>
    if t.expect.schemaValidation then
      let (answer, w) := resolveOnce c spec resolution w
      match answer with
      | .error e => (⟨some response, some (.resolve e)⟩, some answer, w)
      | .ok validator =>
        let (finding, w) := judge t response (some validator) w
        (finding, some answer, w)
    else
      let (finding, w) := judge t response none w
      (finding, resolution, w)

/-- Run test cases in order, adding their results to a specification's result. -/
def runCases (c : Collaborators σ ρ) (entry : SpecificationTestCases) :
    List TestCase → Resolution → SpecificationResult → World σ ρ →
    SpecificationResult × Option RequestError × World σ ρ
  | [], _, result, w => (result, none, w)
  | t :: rest, resolution, result, w =>
    match t.prepare w.context entry.baseUri with
    | .error e => (result.record (resultOf t false), some e, w.record (.aborted (some t) e.message))
    | .ok request =>
      let (finding, resolution, w) := attempt c entry.specification t request resolution w
      runCases c entry rest resolution (result.record (resultOf t finding.pass))
        (w.record (.caseFinished entry.specification.name t finding))

/-- Run the test cases of a specification. -/
def runEntry (c : Collaborators σ ρ) (entry : SpecificationTestCases) (w : World σ ρ) :
    SpecificationResult × Option RequestError × World σ ρ :=
  runCases c entry entry.testCases none (.ofSpecification entry.specification)
    (w.record (.specificationStart entry.specification.name))

/-- Run specifications in order, up to an abort. -/
def runSpecifications (c : Collaborators σ ρ) :
    List SpecificationTestCases → World σ ρ →
    List SpecificationResult × Option RequestError × World σ ρ
  | [], w => ([], none, w)
  | entry :: rest, w =>
    match runEntry c entry w with
    | (result, some e, w) => ([result], some e, w)
    | (result, none, w) =>
      let (results, aborted, w) := runSpecifications c rest w
      (result :: results, aborted, w)

/-- The cause of an abort before anything else has happened: tokens that are still pending. -/
def requireTokens : Option ConsentTokens → Except AbortCause Unit
  | none => .ok ()
  | some tokens =>
    match tokens.pending with
    | .error e => .error (.tokens e)
    | .ok [] => .ok ()
    | .ok sets => .error (.tokensPending sets)

/-- The entries that a run puts into the context before its first case. -/
def seeds (definition : RunDefinition) : List (String × Json) :=
  [(signingCertKey, definition.signingCert.contextValue),
    (transportCertKey, definition.transportCert.contextValue)] ++
    definition.discovery.customTests.flatMap fun t =>
      t.replacements.entries.map fun e => (e.1, .string e.2)

/-- Show the certificates of a run to the executor. A refusal is reported and otherwise ignored. -/
def offerCertificates (c : Collaborators σ ρ) (definition : RunDefinition) (w : World σ ρ) :
    World σ ρ :=
  match c.acceptCertificates definition.signingCert definition.transportCert w.executor with
  | (.ok _, executor) => { w with executor }
  | (.error e, executor) => { w with executor }.record (.certificatesRejected e)

/-- Abort a run before it has entered a specification. -/
def abortEarly (cause : AbortCause) (w : World σ ρ) :
    Except Abort (List SpecificationResult) × World σ ρ :=
  (.error ⟨cause, []⟩, w.record (.aborted none cause.message))

/-- Carry out a run: its results in order, or its abort. -/
def run (c : Collaborators σ ρ) (tokens : Option ConsentTokens) (definition : RunDefinition)
    (w : World σ ρ) : Except Abort (List SpecificationResult) × World σ ρ :=
  match requireTokens tokens with
  | .error cause => abortEarly cause w
  | .ok _ =>
    let w := offerCertificates c definition w
    match w.context.putAll (seeds definition) with
    | .error e => abortEarly (.context e) w
    | .ok context =>
      match runSpecifications c definition.specTests { w with context } with
      | (results, none, w) => (.ok results, w)
      | (results, some e, w) => (.error ⟨.prepare e, results⟩, w)

end

end ConformanceSuite.Run
