import ConformanceSuite.Proofs.Run.DataFlow

/-!
# Validators are asked for once

A run keeps the answer of its resolver for the rest of a specification, also a refusal. If the
resolver gives the same answer whenever it is asked about the specification, this is no different
from asking it anew for every case whose schema is checked; and it is asked once if such a case has
got a response, and otherwise not at all. What is found about another case depends on no resolver,
but the context in which it is reached may: `asked_once`.
-/

namespace ConformanceSuite.Run

variable {σ ρ : Type}

/-! ### Asking anew -/

/-- The answer of a resolver for a case, if its schema is checked. -/
def resolveAnew (c : Collaborators σ ρ) (spec : ApiSpecification) (t : TestCase) (w : World σ ρ) :
    Resolution × World σ ρ :=
  if t.expect.schemaValidation then
    (some (c.resolve spec w.resolver).1, { w with resolver := (c.resolve spec w.resolver).2 })
  else (none, w)

/-- What is found about a case from the answer of the executor and that of the resolver, if the case
wants one. -/
def findingOf (t : TestCase) (sent : Except ExchangeError HttpResponse) (answer : Resolution)
    (w : World σ ρ) : Finding × World σ ρ :=
  match sent, answer with
  | .error e, _ => (⟨none, some (.execute e)⟩, w)
  | .ok response, some (.error e) => (⟨some response, some (.resolve e)⟩, w)
  | .ok response, some (.ok validator) => judge t response (some validator) w
  | .ok response, none => judge t response none w

/-- Ask for a validator if the case wants one, send its request, and judge what comes back. -/
def attemptAnew (c : Collaborators σ ρ) (spec : ApiSpecification) (t : TestCase)
    (request : HttpRequest) (w : World σ ρ) : Finding × World σ ρ :=
  let (answer, w) := resolveAnew c spec t w
  let (sent, context, executor) := c.execute request w.context w.executor
  findingOf t sent answer { w with context, executor }

/-- Run test cases in order and ask for a validator anew for each case that wants one. -/
def runCasesAnew (c : Collaborators σ ρ) (entry : SpecificationTestCases) :
    List TestCase → SpecificationResult → World σ ρ →
    SpecificationResult × Option RequestError × World σ ρ
  | [], result, w => (result, none, w)
  | t :: rest, result, w =>
    match t.prepare w.context entry.baseUri with
    | .error e => (result.record (resultOf t false), some e, w.record (.aborted (some t) e.message))
    | .ok request =>
      let (finding, w) := attemptAnew c entry.specification t request w
      runCasesAnew c entry rest (result.record (resultOf t finding.pass))
        (w.record (.caseFinished entry.specification.name t finding))

/-- Run the test cases of a specification and ask for validators anew. -/
def runEntryAnew (c : Collaborators σ ρ) (entry : SpecificationTestCases) (w : World σ ρ) :
    SpecificationResult × Option RequestError × World σ ρ :=
  runCasesAnew c entry entry.testCases (.ofSpecification entry.specification)
    (w.record (.specificationStart entry.specification.name))

/-! ### What is compared -/

/-- What there is in a world besides the resolver. -/
def World.visible (w : World σ ρ) : Context × σ × List Event := (w.context, w.executor, w.events)

/-- The state of a resolver after it has been asked a number of times. -/
def askedTimes (ask : ρ → Except ValidatorUnavailable ResponseJudge × ρ) : Nat → ρ → ρ
  | 0, r => r
  | n + 1, r => askedTimes ask n (ask r).2

/-- A resolver gives an answer however often it has been asked before. -/
def Steady (ask : ρ → Except ValidatorUnavailable ResponseJudge × ρ)
    (answer : Except ValidatorUnavailable ResponseJudge) (r : ρ) : Prop :=
  ∀ n, (ask (askedTimes ask n r)).1 = answer

/-- The calls to its executor that a run makes for a specification, in order. -/
def entryCalls (c : Collaborators σ ρ) (entry : SpecificationTestCases) (w : World σ ρ) :
    List (Call σ) :=
  (runEntry c.logged entry (w.withLog [])).2.2.executor.2

/-- The same collaborators, with a resolver that adds every question to a list behind its state. -/
def Collaborators.questioned (c : Collaborators σ ρ) :
    Collaborators σ (ρ × List ApiSpecification) where
  acceptCertificates := c.acceptCertificates
  execute := c.execute
  resolve spec r := ((c.resolve spec r.1).1, (c.resolve spec r.1).2, r.2 ++ [spec])

/-- The same world, with a list of questions behind the resolver's state. -/
def World.withQuestions (w : World σ ρ) (questions : List ApiSpecification) :
    World σ (ρ × List ApiSpecification) :=
  ⟨w.context, w.executor, (w.resolver, questions), w.events⟩

/-- The questions to its resolver that a run asks for a specification, in order. -/
def entryQuestions (c : Collaborators σ ρ) (entry : SpecificationTestCases) (w : World σ ρ) :
    List ApiSpecification :=
  (runEntry c.questioned entry (w.withQuestions [])).2.2.resolver.2

/-- A visit for which a validator is asked: the schema is checked, and there is a response. -/
def Visit.wantsValidator (v : Visit σ) : Bool :=
  v.testCase.expect.schemaValidation && v.finding.response.isSome

/-- A visit to a case whose schema is not checked. -/
def Visit.unchecked (v : Visit σ) : Bool := !v.testCase.expect.schemaValidation

/-- The same collaborators, with another resolver. -/
def Collaborators.resolvingBy {ρ' : Type} (c : Collaborators σ ρ)
    (resolve : ApiSpecification → ρ' → Except ValidatorUnavailable ResponseJudge × ρ') :
    Collaborators σ ρ' :=
  ⟨c.acceptCertificates, c.execute, resolve⟩

/-- The same world, with another resolver's state. -/
def World.withResolver {ρ' : Type} (w : World σ ρ) (r : ρ') : World σ ρ' :=
  ⟨w.context, w.executor, r, w.events⟩

/-- The events of cases that were carried out, and of the one that stopped the run. -/
def caseEvents (entry : SpecificationTestCases) (vs : List (Visit σ)) (s : Stop) : List Event :=
  vs.map (fun v => .caseFinished entry.specification.name v.testCase v.finding) ++
    s.toList.map fun s => .aborted (some s.1) s.2.message

/-- The cases of a specification that a run carries out, with the one that stops it if one does,
cover what it asks of its executor and of its resolver and what it reports. -/
structure Covers (c : Collaborators σ ρ) (entry : SpecificationTestCases) (w : World σ ρ)
    (vs : List (Visit σ)) (s : Stop) : Prop where
  calls : entryCalls c entry w = vs.map Visit.call
  sound : ∀ v ∈ vs, v.Sound c
  reached : ∃ skipped, entry.testCases.map (entry.baseUri, ·) =
    vs.map Visit.case ++ s.toList.map (fun s => (entry.baseUri, s.1)) ++ skipped ∧
    (s = none → skipped = [])
  tests : (runEntry c entry w).1.tests = caseResults vs s
  stop : (runEntry c entry w).2.1 = s.map Prod.snd
  events : (runEntry c entry w).2.2.events =
    w.events ++ .specificationStart entry.specification.name :: caseEvents entry vs s
  questions : entryQuestions c entry w =
    if vs.any Visit.wantsValidator then [entry.specification] else []

/-! ### One case -/

/-- The world after a request was handed to the executor. -/
def World.sent (c : Collaborators σ ρ) (request : HttpRequest) (w : World σ ρ) : World σ ρ :=
  { w with
    context := (c.execute request w.context w.executor).2.1
    executor := (c.execute request w.context w.executor).2.2 }

section Attempt

variable {c : Collaborators σ ρ} {spec : ApiSpecification} {t : TestCase} {request : HttpRequest}
  {r : Resolution} {w w' : World σ ρ}

theorem visible_eq_iff : w.visible = w'.visible ↔
    w.context = w'.context ∧ w.executor = w'.executor ∧ w.events = w'.events := by
  simp [World.visible]

theorem sent_visible (h : w.visible = w'.visible) :
    (w.sent c request).visible = (w'.sent c request).visible := by
  obtain ⟨hcontext, hexecutor, hevents⟩ := visible_eq_iff.1 h
  simp [World.sent, World.visible, hcontext, hexecutor, hevents]

/-- What is found depends on the context alone. -/
theorem findingOf_context {ρ' : Type} {w' : World σ ρ'}
    (sent : Except ExchangeError HttpResponse) (answer : Resolution)
    (h : w.context = w'.context) :
    (findingOf t sent answer w).1 = (findingOf t sent answer w').1 := by
  unfold findingOf
  split <;> simp [judge, h]

theorem findingOf_visible (sent : Except ExchangeError HttpResponse) (answer : Resolution)
    (h : w.visible = w'.visible) :
    (findingOf t sent answer w).2.visible = (findingOf t sent answer w').2.visible := by
  obtain ⟨hcontext, hexecutor, hevents⟩ := visible_eq_iff.1 h
  unfold findingOf
  split <;> simp [judge, World.visible, hcontext, hexecutor, hevents]

theorem findingOf_resolver (sent : Except ExchangeError HttpResponse) (answer : Resolution) :
    (findingOf t sent answer w).2.resolver = w.resolver := by
  unfold findingOf
  split <;> rfl

/-- No validator is asked for if the schema is not checked, or there is nothing to check. -/
theorem attempt_of_unwanted (h : t.expect.schemaValidation = false ∨
    ∃ e, (c.execute request w.context w.executor).1 = .error e) :
    attempt c spec t request r w =
      ((findingOf t (c.execute request w.context w.executor).1 none (w.sent c request)).1, r,
        (findingOf t (c.execute request w.context w.executor).1 none (w.sent c request)).2) := by
  cases hx : c.execute request w.context w.executor with
  | mk sent left =>
    cases sent with
    | error e => simp [attempt, hx, findingOf, World.sent]
    | ok response =>
      have hs : t.expect.schemaValidation = false := by
        refine h.resolve_right ?_
        rintro ⟨e, he⟩
        simp [hx] at he
      simp [attempt, hx, hs, findingOf, World.sent]

/-- A validator that is asked for judges the response, or its refusal is the fault. -/
theorem attempt_of_wanted {response : HttpResponse} (hs : t.expect.schemaValidation = true)
    (hsent : (c.execute request w.context w.executor).1 = .ok response) :
    attempt c spec t request r w =
      ((findingOf t (.ok response) (some (resolveOnce c spec r (w.sent c request)).1)
        (resolveOnce c spec r (w.sent c request)).2).1,
        some (resolveOnce c spec r (w.sent c request)).1,
        (findingOf t (.ok response) (some (resolveOnce c spec r (w.sent c request)).1)
          (resolveOnce c spec r (w.sent c request)).2).2) := by
  cases hx : c.execute request w.context w.executor with
  | mk sent left =>
    have hok : sent = .ok response := by simpa [hx] using hsent
    subst hok
    simp only [attempt, hx, hs, if_true, World.sent]
    cases (resolveOnce c spec r { w with context := left.1, executor := left.2 }).1 <;>
      simp [findingOf]

theorem attemptAnew_eq : attemptAnew c spec t request w =
    findingOf t (c.execute request w.context w.executor).1 (resolveAnew c spec t w).1
      ((resolveAnew c spec t w).2.sent c request) := by
  by_cases hs : t.expect.schemaValidation = true <;> simp [attemptAnew, resolveAnew, hs, World.sent]

end Attempt

/-! ### Asking once is asking anew -/

section Steady

variable {ask : ρ → Except ValidatorUnavailable ResponseJudge × ρ}
  {answer : Except ValidatorUnavailable ResponseJudge} {r : ρ}

theorem Steady.first (h : Steady ask answer r) : (ask r).1 = answer := h 0

theorem Steady.next (h : Steady ask answer r) : Steady ask answer (ask r).2 := fun n => h (n + 1)

end Steady

section Anew

variable {c : Collaborators σ ρ} {spec : ApiSpecification}
  {answer : Except ValidatorUnavailable ResponseJudge} {r : Resolution} {w w' : World σ ρ}

/-- Two worlds, of a run that keeps the answer of a resolver and of one that asks anew: they differ
in the resolver alone, and both will find the same answer. -/
structure InStep (c : Collaborators σ ρ) (spec : ApiSpecification)
    (answer : Except ValidatorUnavailable ResponseJudge) (r : Resolution) (w w' : World σ ρ) :
    Prop where
  visible : w.visible = w'.visible
  kept : r = some answer ∨ r = none ∧ Steady (c.resolve spec) answer w.resolver
  anew : Steady (c.resolve spec) answer w'.resolver

/-- Whether kept or asked for now, the answer is the same. -/
theorem InStep.resolveOnce (h : InStep c spec answer r w w') :
    (resolveOnce c spec r w).1 = answer ∧ (Run.resolveOnce c spec r w).2.visible = w.visible := by
  obtain rfl | ⟨rfl, hsteady⟩ := h.kept
  · exact ⟨rfl, rfl⟩
  · exact ⟨hsteady.first, rfl⟩

theorem InStep.sent (h : InStep c spec answer r w w') (request : HttpRequest) :
    InStep c spec answer r (w.sent c request) (w'.sent c request) :=
  ⟨sent_visible h.visible, h.kept, h.anew⟩

theorem InStep.record (h : InStep c spec answer r w w') (e : Event) :
    InStep c spec answer r (w.record e) (w'.record e) := by
  obtain ⟨hcontext, hexecutor, hevents⟩ := visible_eq_iff.1 h.visible
  exact ⟨visible_eq_iff.2 ⟨hcontext, hexecutor, congrArg (· ++ [e]) hevents⟩, h.kept, h.anew⟩

/-- What is found about the answer of an executor leaves worlds in step. -/
theorem InStep.findingOf {r' : Resolution} (h : InStep c spec answer r w w')
    (hkept : r' = some answer ∨ r' = r) (t : TestCase)
    (sent : Except ExchangeError HttpResponse) (wanted : Resolution) :
    (findingOf t sent wanted w).1 = (Run.findingOf t sent wanted w').1 ∧
      InStep c spec answer r' (Run.findingOf t sent wanted w).2
        (Run.findingOf t sent wanted w').2 := by
  refine ⟨findingOf_context sent wanted (visible_eq_iff.1 h.visible).1,
    findingOf_visible sent wanted h.visible, ?_, ?_⟩
  · rw [findingOf_resolver]
    rcases hkept with rfl | rfl
    · exact .inl rfl
    · exact h.kept
  · rw [findingOf_resolver]
    exact h.anew

/-- A case comes to the same, and the worlds stay in step. -/
theorem InStep.attempt (h : InStep c spec answer r w w') (t : TestCase) (request : HttpRequest) :
    (attempt c spec t request r w).1 = (attemptAnew c spec t request w').1 ∧
      InStep c spec answer (Run.attempt c spec t request r w).2.1
        (Run.attempt c spec t request r w).2.2 (attemptAnew c spec t request w').2 := by
  obtain ⟨hcontext, hexecutor, -⟩ := visible_eq_iff.1 h.visible
  rw [attemptAnew_eq, ← hcontext, ← hexecutor]
  by_cases hs : t.expect.schemaValidation = true
  · have hanew : resolveAnew c spec t w' =
        (some answer, { w' with resolver := (c.resolve spec w'.resolver).2 }) := by
      rw [resolveAnew, if_pos hs, h.anew.first]
    have hnext : InStep c spec answer r w { w' with resolver := (c.resolve spec w'.resolver).2 } :=
      ⟨h.visible, h.kept, h.anew.next⟩
    have hstep := hnext.sent request
    rw [hanew]
    cases hsent : (c.execute request w.context w.executor).1 with
    | error e =>
      rw [attempt_of_unwanted (.inr ⟨e, hsent⟩), hsent]
      exact hstep.findingOf (.inr rfl) t (.error e) none
    | ok response =>
      obtain ⟨hanswer, hvisible⟩ := hstep.resolveOnce
      rw [attempt_of_wanted hs hsent, hanswer]
      exact InStep.findingOf ⟨hvisible.trans hstep.visible, .inl rfl, hstep.anew⟩ (.inl rfl) t
        (.ok response) (some answer)
  · have hanew : resolveAnew c spec t w' = (none, w') := by rw [resolveAnew, if_neg hs]
    rw [hanew, attempt_of_unwanted (.inl (by simpa using hs))]
    exact (h.sent request).findingOf (.inr rfl) t _ none

/-- All cases come to the same. -/
theorem InStep.runCases {entry : SpecificationTestCases}
    (h : InStep c entry.specification answer r w w') (ts : List TestCase)
    (result : SpecificationResult) :
    (runCases c entry ts r result w).1 = (runCasesAnew c entry ts result w').1 ∧
      (Run.runCases c entry ts r result w).2.1 = (runCasesAnew c entry ts result w').2.1 ∧
      (Run.runCases c entry ts r result w).2.2.visible =
        (runCasesAnew c entry ts result w').2.2.visible := by
  induction ts generalizing r result w w' with
  | nil => exact ⟨rfl, rfl, h.visible⟩
  | cons t rest ih =>
    rw [Run.runCases, runCasesAnew, ← (visible_eq_iff.1 h.visible).1]
    cases t.prepare w.context entry.baseUri with
    | error e => exact ⟨rfl, rfl, (h.record _).visible⟩
    | ok request =>
      dsimp only
      obtain ⟨hfinding, hstep⟩ := h.attempt t request
      generalize Run.attempt c entry.specification t request r w = kept,
        attemptAnew c entry.specification t request w' = anew at hfinding hstep ⊢
      obtain ⟨finding, r', left⟩ := kept
      obtain ⟨finding', left'⟩ := anew
      obtain rfl : finding = finding' := hfinding
      exact ih (hstep.record _) _

/-- Asking a steady resolver once for a specification is the same as asking it anew. -/
theorem runEntry_eq_anew {entry : SpecificationTestCases}
    (h : Steady (c.resolve entry.specification) answer w.resolver) :
    (runEntry c entry w).1 = (runEntryAnew c entry w).1 ∧
      (runEntry c entry w).2.1 = (runEntryAnew c entry w).2.1 ∧
      (runEntry c entry w).2.2.visible = (runEntryAnew c entry w).2.2.visible :=
  InStep.runCases (InStep.record ⟨rfl, .inr ⟨rfl, h⟩, h⟩ _) entry.testCases _

end Anew

/-! ### Questions -/

section Questions

variable {c : Collaborators σ ρ} {entry : SpecificationTestCases} {w w' : World σ ρ}
  {vs : List (Visit σ)} {s : Stop}

/-- A question is asked if a validator is wanted and has not been asked for. -/
def questionsOf (spec : ApiSpecification) (r : Resolution) (wanted : Bool) :
    List ApiSpecification :=
  if r.isNone && wanted then [spec] else []

@[simp] theorem withQuestions_record (w : World σ ρ) (q : List ApiSpecification) (e : Event) :
    (w.withQuestions q).record e = (w.record e).withQuestions q := rfl

@[simp] theorem withQuestions_context (w : World σ ρ) (q : List ApiSpecification) :
    (w.withQuestions q).context = w.context := rfl

/-- What is asked for one case and what is asked after it are together what is asked for all. -/
theorem questionsOf_append (spec : ApiSpecification) {r r' : Resolution} {wanted : Bool}
    (h : r'.isNone = (r.isNone && !wanted)) (later : Bool) :
    questionsOf spec r wanted ++ questionsOf spec r' later =
      questionsOf spec r (wanted || later) := by
  rw [questionsOf, questionsOf, h]
  cases wanted <;> simp [questionsOf]

theorem findingOf_withQuestions (t : TestCase) (sent : Except ExchangeError HttpResponse)
    (answer : Resolution) (w : World σ ρ) (q : List ApiSpecification) :
    findingOf t sent answer (w.withQuestions q) =
      ((findingOf t sent answer w).1, (findingOf t sent answer w).2.withQuestions q) := by
  unfold findingOf
  split <;> rfl

theorem resolveOnce_questioned (spec : ApiSpecification) (r : Resolution) (w : World σ ρ)
    (q : List ApiSpecification) :
    resolveOnce c.questioned spec r (w.withQuestions q) =
      ((resolveOnce c spec r w).1,
        (resolveOnce c spec r w).2.withQuestions (q ++ questionsOf spec r true)) := by
  cases r with
  | none => rfl
  | some answer => simp [resolveOnce, questionsOf]

/-- An attempt that wants no validator asks for none. -/
theorem attempt_questioned_of_unwanted {spec : ApiSpecification} {t : TestCase}
    {request : HttpRequest} (r : Resolution) (q : List ApiSpecification)
    (h : t.expect.schemaValidation = false ∨
      ∃ e, (c.execute request w.context w.executor).1 = .error e) :
    attempt c.questioned spec t request r (w.withQuestions q) =
        ((attempt c spec t request r w).1, r,
          (attempt c spec t request r w).2.2.withQuestions q) ∧
      (attempt c spec t request r w).2.1 = r := by
  have hasked : attempt c.questioned spec t request r (w.withQuestions q) =
      ((findingOf t (c.execute request w.context w.executor).1 none
          ((w.sent c request).withQuestions q)).1, r,
        (findingOf t (c.execute request w.context w.executor).1 none
          ((w.sent c request).withQuestions q)).2) := attempt_of_unwanted h
  rw [hasked, attempt_of_unwanted h, findingOf_withQuestions]
  exact ⟨rfl, rfl⟩

/-- An attempt that wants a validator asks for it unless one is kept, and keeps the answer. -/
theorem attempt_questioned_of_wanted {spec : ApiSpecification} {t : TestCase}
    {request : HttpRequest} {response : HttpResponse} (r : Resolution) (q : List ApiSpecification)
    (hs : t.expect.schemaValidation = true)
    (hsent : (c.execute request w.context w.executor).1 = .ok response) :
    attempt c.questioned spec t request r (w.withQuestions q) =
        ((attempt c spec t request r w).1, (attempt c spec t request r w).2.1,
          (attempt c spec t request r w).2.2.withQuestions (q ++ questionsOf spec r true)) ∧
      (attempt c spec t request r w).2.1.isSome = true := by
  have hasked := @attempt_of_wanted _ _ c.questioned spec t request r (w.withQuestions q) _ hs hsent
  have hworld : (w.withQuestions q).sent c.questioned request =
      (w.sent c request).withQuestions q := rfl
  rw [hworld, resolveOnce_questioned, findingOf_withQuestions] at hasked
  rw [hasked, attempt_of_wanted hs hsent]
  exact ⟨rfl, rfl⟩

/-- An attempt asks if a validator is wanted that is not kept, and keeps the answer. -/
theorem attempt_questioned {spec : ApiSpecification} {t : TestCase} {request : HttpRequest}
    {r r' : Resolution} {finding : Finding}
    (h : attempt c spec t request r w = (finding, r', w')) (q : List ApiSpecification) :
    attempt c.questioned spec t request r (w.withQuestions q) =
        (finding, r', w'.withQuestions (q ++ questionsOf spec r
          (t.expect.schemaValidation && finding.response.isSome))) ∧
      r'.isNone = (r.isNone && !(t.expect.schemaValidation && finding.response.isSome)) := by
  have hresponse := (Attempted.of_eq h).response
  cases hs : t.expect.schemaValidation with
  | false =>
    obtain ⟨hasked, hkept⟩ := attempt_questioned_of_unwanted (c := c) r q (.inl hs)
    rw [h] at hasked hkept
    obtain rfl : r' = r := hkept
    simp [hasked, questionsOf]
  | true =>
    cases hsent : (c.execute request w.context w.executor).1 with
    | error e =>
      obtain ⟨hasked, hkept⟩ := attempt_questioned_of_unwanted r q (.inr ⟨e, hsent⟩)
      rw [h] at hasked hkept
      obtain rfl : r' = r := hkept
      simp [hasked, hresponse, hsent, questionsOf, Except.toOption]
    | ok response =>
      obtain ⟨hasked, hkept⟩ := attempt_questioned_of_wanted r q hs hsent
      rw [h] at hasked hkept
      simp [hasked, hresponse, hsent, Except.toOption, Option.isNone_eq_false_iff.2 hkept]

/-- Carrying out cases asks at most once. -/
theorem runCases_questioned {ts : List TestCase} {r : Resolution}
    (h : Carries c entry ts r w vs s w') (result : SpecificationResult)
    (q : List ApiSpecification) :
    runCases c.questioned entry ts r result (w.withQuestions q) =
      ((caseResults vs s).foldl .record result, s.map Prod.snd, w'.withQuestions
        (q ++ questionsOf entry.specification r (vs.any Visit.wantsValidator))) := by
  induction h generalizing result q with
  | done r w => simp [runCases, caseResults, questionsOf]
  | stop prepared => simp [runCases, prepared, caseResults, questionsOf]
  | visit prepared attempted carried ih =>
    obtain ⟨hasked, hkept⟩ := attempt_questioned attempted q
    simp only [runCases, withQuestions_context, prepared, hasked, withQuestions_record, ih,
      List.append_assoc, questionsOf_append _ hkept]
    simp [caseResults, Visit.result, Visit.wantsValidator]

end Questions

/-! ### Cases whose schema is not checked -/

section Unchecked

variable {ρ' : Type} {c : Collaborators σ ρ} {c' : Collaborators σ ρ'}
  {entry : SpecificationTestCases} {ts : List TestCase} {r : Resolution} {r' : Resolution}
  {w left : World σ ρ} {w' left' : World σ ρ'} {vs vs' : List (Visit σ)} {s s' : Stop}

/-- What is found about a case whose schema is not checked follows from the context and the
executor's state in which its request is handed over. -/
theorem finding_of_unchecked {spec : ApiSpecification} {t : TestCase} {request : HttpRequest}
    {finding finding' : Finding} {after : Resolution × World σ ρ} {after' : Resolution × World σ ρ'}
    (h : attempt c spec t request r w = (finding, after))
    (h' : attempt c' spec t request r' w' = (finding', after'))
    (hexecute : c.execute = c'.execute) (hcontext : w.context = w'.context)
    (hexecutor : w.executor = w'.executor) (hs : t.expect.schemaValidation = false) :
    finding = finding' := by
  rw [attempt_of_unwanted (.inl hs), Prod.mk.injEq] at h h'
  obtain ⟨rfl, -⟩ := h
  obtain ⟨rfl, -⟩ := h'
  rw [hexecute, hcontext, hexecutor]
  exact findingOf_context _ none (by simp [World.sent, hexecute, hcontext, hexecutor])

/-- What is found about a visit came of an attempt over its context and its executor's state. -/
theorem Carries.attempts (h : Carries c entry ts r w vs s left) :
    ∀ v ∈ vs, ∃ (r : Resolution) (w : World σ ρ) (after : Resolution × World σ ρ),
      w.context = v.context ∧ w.executor = v.executor ∧
      attempt c entry.specification v.testCase v.request r w = (v.finding, after) := by
  induction h with
  | done => simp
  | stop => simp
  | visit prepared attempted carried ih =>
    intro v hv
    rcases List.mem_cons.1 hv with rfl | hv
    · exact ⟨_, _, _, rfl, rfl, attempted⟩
    · exact ih v hv

/-- Visits to one case whose schema is not checked are the same if their contexts and the states of
the executor are, whatever the resolvers answer. -/
theorem Carries.eq_of_unchecked (h : Carries c entry ts r w vs s left)
    (h' : Carries c' entry ts r' w' vs' s' left') (hexecute : c.execute = c'.execute)
    {v v' : Visit σ} (hv : v ∈ vs) (hv' : v' ∈ vs') (hcase : v.case = v'.case)
    (hunchecked : v.unchecked = true) (hcontext : v.context = v'.context)
    (hexecutor : v.executor = v'.executor) : v = v' := by
  have hprepared := (h.sound v hv).prepared
  obtain ⟨r, w, after, hw, hs, hattempt⟩ := h.attempts v hv
  obtain ⟨r', w', after', hw', hs', hattempt'⟩ := h'.attempts v' hv'
  have hprepared' := (h'.sound v' hv').prepared
  obtain ⟨base, t, request, context, state, finding⟩ := v
  obtain ⟨base', t', request', context', state', finding'⟩ := v'
  obtain ⟨rfl, rfl⟩ : base = base' ∧ t = t' := by simpa [Visit.case] using hcase
  obtain rfl : context = context' := hcontext
  obtain rfl : state = state' := hexecutor
  obtain rfl : request = request' := by simpa using hprepared.symm.trans hprepared'
  have hunchecked : t.expect.schemaValidation = false := by simpa [Visit.unchecked] using hunchecked
  obtain rfl : finding = finding' := finding_of_unchecked hattempt hattempt' hexecute
    (hw.trans hw'.symm) (hs.trans hs'.symm) hunchecked
  rfl

theorem captured_of_no_captures {t : TestCase} (f : Finding) (h : t.captures = []) :
    f.captured t = [] := by
  have hcaptured (response : HttpResponse) : t.captured response = [] := by
    unfold TestCase.captured
    split <;> simp [h]
  cases hr : f.response <;> simp [Finding.captured, hr, hcaptured]

/-- If nothing is captured where schemas are checked, what is left and found does not depend on
what the resolver answers. -/
theorem Carries.agree (h : Carries c entry ts r w vs s left)
    (h' : Carries c' entry ts r' w' vs' s' left') (hexecute : c.execute = c'.execute)
    (hcontext : w.context = w'.context) (hexecutor : w.executor = w'.executor)
    (hts : ∀ t ∈ ts, t.expect.schemaValidation = true → t.captures = []) :
    s = s' ∧ left.context = left'.context ∧ left.executor = left'.executor ∧
      vs.map Visit.call = vs'.map Visit.call ∧
      vs.filter Visit.unchecked = vs'.filter Visit.unchecked := by
  induction h generalizing r' w' vs' with
  | done r w =>
    cases h'
    exact ⟨rfl, hcontext, hexecutor, rfl, rfl⟩
  | stop prepared =>
    cases h' with
    | stop prepared' =>
      rw [hcontext, prepared'] at prepared
      cases prepared
      exact ⟨rfl, hcontext, hexecutor, rfl, rfl⟩
    | visit prepared' => simp [hcontext, prepared'] at prepared
  | @visit t rest r r₁ w w₁ w₂ request finding vs s prepared attempted carried ih =>
    cases h' with
    | stop prepared' => simp [hcontext, prepared'] at prepared
    | @visit _ _ _ r₁' _ w₁' _ _ finding' _ _ prepared' attempted' carried' =>
      rw [hcontext, prepared'] at prepared
      cases prepared
      have ha := Attempted.of_eq attempted
      have ha' := Attempted.of_eq attempted'
      have hfinding := finding_of_unchecked attempted attempted' hexecute hcontext hexecutor
      -- a case leaves the captures of what was found, which is the same, or nothing
      have hcaptured : finding.captured t = finding'.captured t := by
        cases hs : t.expect.schemaValidation with
        | false => rw [hfinding hs]
        | true =>
          have hnone := hts t List.mem_cons_self hs
          rw [captured_of_no_captures finding hnone, captured_of_no_captures finding' hnone]
      have hleft : w₁.context = w₁'.context := by
        rw [ha.context, ha'.context, hcaptured, hexecute, hcontext, hexecutor]
      have hstate : w₁.executor = w₁'.executor := by
        rw [ha.executor, ha'.executor, hexecute, hcontext, hexecutor]
      obtain ⟨hstop, hcontext', hexecutor', hcalls, hunchecked⟩ := ih carried' hleft hstate
        fun t ht => hts t (List.mem_cons_of_mem _ ht)
      refine ⟨hstop, hcontext', hexecutor', ?_, ?_⟩
      · simp [Visit.call, hcontext, hexecutor, hcalls]
      · cases hs : t.expect.schemaValidation with
        | false => simp [Visit.unchecked, hs, hcontext, hexecutor, hfinding hs, ← hunchecked]
        | true => simpa [Visit.unchecked, hs] using hunchecked

end Unchecked

/-! ### A specification -/

section Entry

variable {ρ' : Type} {c : Collaborators σ ρ} {entry : SpecificationTestCases} {w : World σ ρ}
  {vs : List (Visit σ)} {s : Stop}

theorem Carries.reached {ts : List TestCase} {r : Resolution} {left : World σ ρ}
    (h : Carries c entry ts r w vs s left) :
    ∃ skipped, ts.map (entry.baseUri, ·) =
      vs.map Visit.case ++ s.toList.map (fun s => (entry.baseUri, s.1)) ++ skipped ∧
      (s = none → skipped = []) := by
  cases s with
  | none => exact ⟨[], by simp [h.all_visited rfl], fun _ => rfl⟩
  | some s =>
    obtain ⟨⟨ran, skipped, hts, hvisits⟩, -⟩ := h.stopped rfl
    exact ⟨skipped.map (entry.baseUri, ·), by simp [hts, hvisits], nofun⟩

theorem Carries.events {ts : List TestCase} {r : Resolution} {left : World σ ρ}
    (h : Carries c entry ts r w vs s left) : left.events = w.events ++ caseEvents entry vs s := by
  induction h with
  | done => simp [caseEvents]
  | stop => simp [caseEvents, World.record]
  | visit prepared attempted carried ih =>
    simp [ih, caseEvents, World.record, (Attempted.of_eq attempted).events]

theorem Carries.covers {left : World σ ρ}
    (h : Carries c entry entry.testCases none
      (w.record (.specificationStart entry.specification.name)) vs s left) :
    (runEntry c entry w).2.2 = left ∧ Covers c entry w vs s := by
  have hrun := runCases_eq h (.ofSpecification entry.specification)
  have hlogged := runCases_logged h (.ofSpecification entry.specification) []
  have hasked := runCases_questioned h (.ofSpecification entry.specification) []
  refine ⟨by rw [runEntry, hrun], ?_, h.sound, h.reached, ?_, ?_, ?_, ?_⟩
  · rw [entryCalls, runEntry, withLog_record, hlogged]
    rfl
  · rw [runEntry, hrun]
    simp [foldl_record, SpecificationResult.ofSpecification]
  · rw [runEntry, hrun]
  · rw [runEntry, hrun]
    simp [h.events, World.record]
  · rw [entryQuestions, runEntry, withQuestions_record, hasked]
    simp [World.withQuestions, questionsOf]

end Entry

/-- If a resolver gives the same answer for a specification whenever it is asked, a run of the
specification is the same as one that asks it anew for every case whose schema is checked. However
the resolver answers, it is asked once if such a case has got a response, and otherwise not at all.
Another resolver makes no difference to what is found about any other case, provided that it is
reached over the same context and executor's state, which holds of all of them if the cases whose
schema is checked capture nothing. -/
theorem asked_once {ρ' : Type} (c : Collaborators σ ρ) (entry : SpecificationTestCases)
    (w : World σ ρ)
    (resolve : ApiSpecification → ρ' → Except ValidatorUnavailable ResponseJudge × ρ') (r : ρ') :
    (∀ answer, Steady (c.resolve entry.specification) answer w.resolver →
      (runEntry c entry w).1 = (runEntryAnew c entry w).1 ∧
      (runEntry c entry w).2.1 = (runEntryAnew c entry w).2.1 ∧
      (runEntry c entry w).2.2.visible = (runEntryAnew c entry w).2.2.visible ∧
      entryCalls c entry w = (runEntryAnew c.logged entry (w.withLog [])).2.2.executor.2) ∧
    ∃ vs s vs' s', Covers c entry w vs s ∧
      Covers (c.resolvingBy resolve) entry (w.withResolver r) vs' s' ∧
      (∀ v ∈ vs, ∀ v' ∈ vs', v.case = v'.case → v.unchecked = true →
        v.context = v'.context → v.executor = v'.executor → v = v') ∧
      ((∀ t ∈ entry.testCases, t.expect.schemaValidation = true → t.captures = []) →
        s = s' ∧
        (runEntry c entry w).2.2.context =
          (runEntry (c.resolvingBy resolve) entry (w.withResolver r)).2.2.context ∧
        (runEntry c entry w).2.2.executor =
          (runEntry (c.resolvingBy resolve) entry (w.withResolver r)).2.2.executor ∧
        vs.map Visit.call = vs'.map Visit.call ∧
        vs.filter Visit.unchecked = vs'.filter Visit.unchecked) := by
  refine ⟨fun answer hsteady => ?_, ?_⟩
  · obtain ⟨hresult, hstop, hvisible⟩ := runEntry_eq_anew hsteady
    -- the list of calls is part of what the executor that keeps it leaves
    have hlogged := @runEntry_eq_anew _ _ c.logged answer (w.withLog []) entry hsteady
    exact ⟨hresult, hstop, hvisible, congrArg Prod.snd (visible_eq_iff.1 hlogged.2.2).2.1⟩
  · obtain ⟨vs, s, left, hcarries⟩ := exists_carries c entry entry.testCases none
      (w.record (.specificationStart entry.specification.name))
    obtain ⟨vs', s', left', hcarries'⟩ := exists_carries (c.resolvingBy resolve) entry
      entry.testCases none
      ((w.withResolver r).record (.specificationStart entry.specification.name))
    obtain ⟨rfl, hcovers⟩ := hcarries.covers
    obtain ⟨rfl, hcovers'⟩ := hcarries'.covers
    exact ⟨vs, s, vs', s', hcovers, hcovers',
      fun v hv v' hv' => hcarries.eq_of_unchecked hcarries' rfl hv hv',
      hcarries.agree hcarries' rfl rfl rfl⟩

/-- A specification that creates a consent, checked against its schema, and then reads something. -/
def consentEntry (captures : List Capture) (endpoint : String) : SpecificationTestCases :=
  ⟨⟨"Consents", "", "v1", ""⟩, "https://bank", [
    ⟨"1", "create", ⟨"post", "/consents", .empty, none⟩, ⟨201, true, []⟩, captures⟩,
    ⟨"2", "read", ⟨"get", endpoint, .empty, none⟩, ⟨201, false, []⟩, []⟩]⟩

/-- A resolver that has no validator for anything. -/
def refuse (_ : ApiSpecification) (s : Unit) : Except ValidatorUnavailable ResponseJudge × Unit :=
  (.error ⟨"no schema"⟩, s)

/-- If nothing is captured, a refusal fails the creation alone. -/
theorem asked_once_consent :
    (Steady (consentExecutor.resolve (consentEntry [] "/$host").specification)
      (.ok fun _ => .ok []) ()) ∧
    (runEntry consentExecutor (consentEntry [] "/$host") ⟨.empty, (), (), []⟩).1 =
      (runEntryAnew consentExecutor (consentEntry [] "/$host") ⟨.empty, (), (), []⟩).1 ∧
    (∃ vs vs' : List (Visit Unit),
      entryCalls consentExecutor (consentEntry [] "/$host") ⟨.empty, (), (), []⟩ =
        vs.map Visit.call ∧
      entryCalls (consentExecutor.resolvingBy refuse) (consentEntry [] "/$host")
        ⟨.empty, (), (), []⟩ = vs'.map Visit.call ∧
      vs.filter Visit.unchecked = vs'.filter Visit.unchecked) ∧
    entryQuestions (consentExecutor.resolvingBy refuse) (consentEntry [] "/$host")
      ⟨.empty, (), (), []⟩ = [(consentEntry [] "/$host").specification] ∧
    (runEntry (consentExecutor.resolvingBy refuse) (consentEntry [] "/$host")
      ⟨.empty, (), (), []⟩).1.tests.map TestResult.pass = [false, true] := by
  obtain ⟨hsteady, vs, s, vs', s', hcovers, hcovers', -, hagree⟩ :=
    asked_once consentExecutor (consentEntry [] "/$host") ⟨.empty, (), (), []⟩ refuse ()
  have hnone : ∀ t ∈ (consentEntry [] "/$host").testCases,
      t.expect.schemaValidation = true → t.captures = [] := by simp [consentEntry]
  exact ⟨fun _ => rfl, (hsteady _ fun _ => rfl).1,
    ⟨vs, vs', hcovers.calls, hcovers'.calls, (hagree hnone).2.2.2.2⟩, by decide +kernel,
    by decide +kernel⟩

/-- The results of the cases whose schema is not checked. -/
def uncheckedResults (entry : SpecificationTestCases) (result : SpecificationResult) :
    List TestResult :=
  ((entry.testCases.zip result.tests).filter fun p => !p.1.expect.schemaValidation).map Prod.snd

/-- A refusal also fails a case whose schema is not checked, if that case mentions what the case
that was refused would have captured. -/
theorem refusal_spreads :
    ¬ ∀ (entry : SpecificationTestCases)
        (resolve resolve' : ApiSpecification → Unit →
          Except ValidatorUnavailable ResponseJudge × Unit),
      uncheckedResults entry
          (runEntry (consentExecutor.resolvingBy resolve) entry ⟨.empty, (), (), []⟩).1 =
        uncheckedResults entry
          (runEntry (consentExecutor.resolvingBy resolve') entry ⟨.empty, (), (), []⟩).1 := by
  intro h
  have hread := h (consentEntry [⟨"consent", "$.id"⟩] "/consents/$consent")
    consentExecutor.resolve refuse
  revert hread
  decide +kernel

end ConformanceSuite.Run
