import ConformanceSuite.Run.Controller
import ConformanceSuite.Proofs.Capture

/-!
# Traces of runs

The steps of a run as a relation. `Carries` goes through the test cases of one specification, with a
`Visit` for each case whose request was handed to the executor; `Tours` goes through
specifications, with a `Leg` for each one entered. Every run has such a trace, and what the run
answers can be read off it: `runCases_eq`, `runSpecifications_eq`.
-/

namespace ConformanceSuite.Run

variable {σ ρ : Type}

/-- A test case whose request was handed to the executor: the base address it was prepared under,
the context and the executor's state at that moment, and what was found. -/
structure Visit (σ : Type) where
  baseUri : String
  testCase : TestCase
  request : HttpRequest
  context : Context
  executor : σ
  finding : Finding

/-- The case of a visit, with its base address. -/
def Visit.case (v : Visit σ) : String × TestCase := (v.baseUri, v.testCase)

/-- The test cases of specifications in order, each with the base address of its specification. -/
def casesOf (entries : List SpecificationTestCases) : List (String × TestCase) :=
  entries.flatMap fun entry => entry.testCases.map (entry.baseUri, ·)

@[simp] theorem casesOf_nil : casesOf [] = [] := rfl

@[simp] theorem casesOf_cons (entry : SpecificationTestCases)
    (entries : List SpecificationTestCases) :
    casesOf (entry :: entries) = entry.testCases.map (entry.baseUri, ·) ++ casesOf entries := rfl

@[simp] theorem casesOf_append (l m : List SpecificationTestCases) :
    casesOf (l ++ m) = casesOf l ++ casesOf m := List.flatMap_append

/-- A test case whose request could not be prepared. -/
abbrev Stop := Option (TestCase × RequestError)

/-- The entries that a case puts into the context because it passed. -/
def Finding.captured (f : Finding) (t : TestCase) : List (String × Json) :=
  if f.pass then (f.response.map t.captured).getD [] else []

/-- What became of a prepared request: the executor was handed it once, over the world's context,
and afterwards nothing but the captures of a passed case was added to what the executor left. -/
structure Attempted (c : Collaborators σ ρ) (t : TestCase) (request : HttpRequest) (w : World σ ρ)
    (finding : Finding) (w' : World σ ρ) : Prop where
  executor : w'.executor = (c.execute request w.context w.executor).2.2
  events : w'.events = w.events
  response : finding.response = (c.execute request w.context w.executor).1.toOption
  context : w'.context =
    { (c.execute request w.context w.executor).2.1 with
      entries := (c.execute request w.context w.executor).2.1.entries.insertAll
        (finding.captured t) }
  passed : finding.pass = true →
    (c.execute request w.context w.executor).2.1.poisoned = false ∧
      ∃ response, (c.execute request w.context w.executor).1 = .ok response ∧
        t.CapturesAll response

/-- Carrying out test cases of an entry from one world to another. -/
inductive Carries (c : Collaborators σ ρ) (entry : SpecificationTestCases) :
    List TestCase → Resolution → World σ ρ → List (Visit σ) → Stop → World σ ρ → Prop
  | done (r : Resolution) (w : World σ ρ) : Carries c entry [] r w [] none w
  | stop {t : TestCase} {rest : List TestCase} {r : Resolution} {w : World σ ρ} {e : RequestError}
      (prepared : t.prepare w.context entry.baseUri = .error e) :
      Carries c entry (t :: rest) r w [] (some (t, e)) (w.record (.aborted (some t) e.message))
  | visit {t : TestCase} {rest : List TestCase} {r r' : Resolution} {w w' w'' : World σ ρ}
      {request : HttpRequest} {finding : Finding} {vs : List (Visit σ)} {s : Stop}
      (prepared : t.prepare w.context entry.baseUri = .ok request)
      (attempted : attempt c entry.specification t request r w = (finding, r', w'))
      (carried : Carries c entry rest r'
        (w'.record (.caseFinished entry.specification.name t finding)) vs s w'') :
      Carries c entry (t :: rest) r w
        (⟨entry.baseUri, t, request, w.context, w.executor, finding⟩ :: vs) s w''

/-- A specification that was entered: its cases that were carried out, and the one that stopped the
run, if one did. -/
structure Leg (σ : Type) where
  entry : SpecificationTestCases
  visits : List (Visit σ)
  stop : Stop

/-- The cases that were carried out, over all specifications. -/
def visitsOf (legs : List (Leg σ)) : List (Visit σ) := legs.flatMap Leg.visits

@[simp] theorem visitsOf_nil : visitsOf ([] : List (Leg σ)) = [] := rfl

@[simp] theorem visitsOf_cons (l : Leg σ) (legs : List (Leg σ)) :
    visitsOf (l :: legs) = l.visits ++ visitsOf legs := rfl

/-- Going through specifications from one world to another. -/
inductive Tours (c : Collaborators σ ρ) :
    List SpecificationTestCases → World σ ρ → List (Leg σ) → Stop → World σ ρ → Prop
  | done (w : World σ ρ) : Tours c [] w [] none w
  | stop {entry : SpecificationTestCases} {rest : List SpecificationTestCases} {w w' : World σ ρ}
      {vs : List (Visit σ)} {s : TestCase × RequestError}
      (carried : Carries c entry entry.testCases none
        (w.record (.specificationStart entry.specification.name)) vs (some s) w') :
      Tours c (entry :: rest) w [⟨entry, vs, some s⟩] (some s) w'
  | next {entry : SpecificationTestCases} {rest : List SpecificationTestCases}
      {w w' w'' : World σ ρ} {vs : List (Visit σ)} {legs : List (Leg σ)} {s : Stop}
      (carried : Carries c entry entry.testCases none
        (w.record (.specificationStart entry.specification.name)) vs none w')
      (toured : Tours c rest w' legs s w'') :
      Tours c (entry :: rest) w (⟨entry, vs, none⟩ :: legs) s w''

/-- The result of a case that was carried out. -/
def Visit.result (v : Visit σ) : TestResult := resultOf v.testCase v.finding.pass

/-- The results of cases that were carried out, and of the one that stopped the run. -/
def caseResults (vs : List (Visit σ)) (s : Stop) : List TestResult :=
  vs.map Visit.result ++ s.toList.map fun s => resultOf s.1 false

/-- The result of a specification that was entered. -/
def Leg.result (l : Leg σ) : SpecificationResult :=
  (caseResults l.visits l.stop).foldl .record (.ofSpecification l.entry.specification)

@[simp] theorem record_context (w : World σ ρ) (e : Event) : (w.record e).context = w.context :=
  rfl

/-! ### One case -/

theorem resolveOnce_world (c : Collaborators σ ρ) (spec : ApiSpecification) (r : Resolution)
    (w : World σ ρ) :
    (resolveOnce c spec r w).2.context = w.context ∧
      (resolveOnce c spec r w).2.executor = w.executor ∧
      (resolveOnce c spec r w).2.events = w.events := by
  cases r <;> simp [resolveOnce]

/-- Judging a response adds the captures of a passed case to the context and nothing else. -/
theorem judge_cases (t : TestCase) (response : HttpResponse) (validator : Option ResponseJudge)
    (w : World σ ρ) :
    ((judge t response validator w).1.pass = true ∧ w.context.poisoned = false ∧
      t.CapturesAll response ∧
      (judge t response validator w).2 =
        { w with context :=
          { w.context with entries := w.context.entries.insertAll (t.captured response) } }) ∨
    ((judge t response validator w).1.pass = false ∧ (judge t response validator w).2 = w) := by
  rcases t.validate_cases response w.context validator with ⟨hp, hall, hv⟩ | ⟨hc, hv⟩
  · left
    simp [judge, hv, hp, hall, Finding.pass, Verdict.pass]
  · right
    cases h : t.validate response w.context validator with
    | mk verdict context =>
      rw [h] at hc hv
      subst hc
      cases verdict with
      | error e => simp [judge, h, Finding.pass]
      | ok v => simp [judge, h, Finding.pass, hv v rfl]

section Attempt

variable {c : Collaborators σ ρ} {t : TestCase} {request : HttpRequest} {w w₁ : World σ ρ}

/-- A fault leaves the world as the executor left it. -/
theorem Attempted.of_fault (sent : Except ExchangeError HttpResponse) (fault : Fault)
    (hx : c.execute request w.context w.executor = (sent, w₁.context, w₁.executor))
    (he : w₁.events = w.events) : Attempted c t request w ⟨sent.toOption, some fault⟩ w₁ where
  executor := by rw [hx]
  events := he
  response := by rw [hx]
  context := by simp [hx, Finding.captured, Finding.pass, KeyMap.insertAll]
  passed := by simp [Finding.pass]

/-- Judging a response is all that happens after the executor has answered. -/
theorem Attempted.of_judge {response : HttpResponse} (validator : Option ResponseJudge)
    (hx : c.execute request w.context w.executor = (.ok response, w₁.context, w₁.executor))
    (he : w₁.events = w.events) :
    Attempted c t request w
      (judge t response validator w₁).1 (judge t response validator w₁).2 := by
  have hr : (judge t response validator w₁).1.response = some response := rfl
  rcases judge_cases t response validator w₁ with ⟨hpass, hp, hall, hw⟩ | ⟨hpass, hw⟩
  · constructor
    · rw [hw, hx]
    · rw [hw, he]
    · rw [hr, hx]; rfl
    · simp [hw, hx, Finding.captured, hpass, hr]
    · intro _
      rw [hx]
      exact ⟨hp, response, rfl, hall⟩
  · constructor
    · rw [hw, hx]
    · rw [hw, he]
    · rw [hr, hx]; rfl
    · simp [hw, hx, Finding.captured, hpass, KeyMap.insertAll]
    · simp [hpass]

/-- Every way through an attempt hands the request over once and captures only on a pass. -/
theorem Attempted.of_eq {spec : ApiSpecification} {r r' : Resolution} {finding : Finding}
    {w' : World σ ρ} (h : attempt c spec t request r w = (finding, r', w')) :
    Attempted c t request w finding w' := by
  cases hx : c.execute request w.context w.executor with
  | mk sent left =>
    obtain ⟨context, executor⟩ := left
    cases sent with
    | error e =>
      simp only [attempt, hx, Prod.mk.injEq] at h
      obtain ⟨rfl, -, rfl⟩ := h
      exact .of_fault (.error e) (.execute e) hx rfl
    | ok response =>
      by_cases hs : t.expect.schemaValidation = true
      -- the resolver is asked over the world that the executor left, and does not touch it
      · obtain ⟨hc, hex, hev⟩ := resolveOnce_world c spec r { w with context, executor }
        simp only [attempt, hx, hs, if_true] at h
        cases hr : resolveOnce c spec r { w with context, executor } with
        | mk answer w₁ =>
          rw [hr] at h hc hex hev
          have hx' : c.execute request w.context w.executor =
              (.ok response, w₁.context, w₁.executor) := by rw [hx, hc, hex]
          cases answer with
          | error e =>
            simp only [Prod.mk.injEq] at h
            obtain ⟨rfl, -, rfl⟩ := h
            exact .of_fault (.ok response) (.resolve e) hx' hev
          | ok validator =>
            simp only [Prod.mk.injEq] at h
            obtain ⟨rfl, -, rfl⟩ := h
            exact .of_judge (some validator) hx' hev
      · simp only [attempt, hx, hs, Bool.false_eq_true, if_false, Prod.mk.injEq] at h
        obtain ⟨rfl, -, rfl⟩ := h
        exact .of_judge none hx rfl

end Attempt

/-! ### All cases -/

/-- Every list of cases can be carried out from every world. -/
theorem exists_carries (c : Collaborators σ ρ) (entry : SpecificationTestCases)
    (ts : List TestCase) (r : Resolution) (w : World σ ρ) :
    ∃ vs s w', Carries c entry ts r w vs s w' := by
  induction ts generalizing r w with
  | nil => exact ⟨[], none, w, .done r w⟩
  | cons t rest ih =>
    cases hp : t.prepare w.context entry.baseUri with
    | error e => exact ⟨[], some (t, e), _, .stop hp⟩
    | ok request =>
      cases ha : attempt c entry.specification t request r w with
      | mk finding left =>
        obtain ⟨r', w'⟩ := left
        obtain ⟨vs, s, w'', hrest⟩ :=
          ih r' (w'.record (.caseFinished entry.specification.name t finding))
        exact ⟨_, s, w'', .visit hp ha hrest⟩

/-- Running cases records one result for each case carried out, and one for a case that stops. -/
theorem runCases_eq {c : Collaborators σ ρ} {entry : SpecificationTestCases} {ts : List TestCase}
    {r : Resolution} {w w' : World σ ρ} {vs : List (Visit σ)} {s : Stop}
    (h : Carries c entry ts r w vs s w') (result : SpecificationResult) :
    runCases c entry ts r result w =
      ((caseResults vs s).foldl .record result, s.map Prod.snd, w') := by
  induction h generalizing result with
  | done r w => rfl
  | stop prepared => simp [runCases, prepared, caseResults]
  | visit prepared attempted carried ih =>
    simp only [runCases, prepared, attempted, ih]
    rfl

theorem exists_tours (c : Collaborators σ ρ) (entries : List SpecificationTestCases)
    (w : World σ ρ) : ∃ legs s w', Tours c entries w legs s w' := by
  induction entries generalizing w with
  | nil => exact ⟨[], none, w, .done w⟩
  | cons entry rest ih =>
    obtain ⟨vs, s, w', hcarried⟩ := exists_carries c entry entry.testCases none
      (w.record (.specificationStart entry.specification.name))
    cases s with
    | some s => exact ⟨_, some s, w', .stop hcarried⟩
    | none =>
      obtain ⟨legs, s, w'', htoured⟩ := ih w'
      exact ⟨_, s, w'', .next hcarried htoured⟩

/-- Running specifications gives one result for each leg. -/
theorem runSpecifications_eq {c : Collaborators σ ρ} {entries : List SpecificationTestCases}
    {w w' : World σ ρ} {legs : List (Leg σ)} {s : Stop} (h : Tours c entries w legs s w') :
    runSpecifications c entries w = (legs.map Leg.result, s.map Prod.snd, w') := by
  induction h with
  | done w => rfl
  | stop carried => simp [runSpecifications, runEntry, runCases_eq carried, Leg.result]
  | next carried toured ih =>
    simp [runSpecifications, runEntry, runCases_eq carried, ih, Leg.result]

/-! ### What a trace says of its cases -/

/-- A visit to which its collaborators stand: its request was prepared over its context, its
response is what the executor answered, and it only passed if every capture found a value in it. -/
structure Visit.Sound (c : Collaborators σ ρ) (v : Visit σ) : Prop where
  prepared : v.testCase.prepare v.context v.baseUri = .ok v.request
  response : v.finding.response = (c.execute v.request v.context v.executor).1.toOption
  passed : v.finding.pass = true → ∃ response,
    (c.execute v.request v.context v.executor).1 = .ok response ∧ v.testCase.CapturesAll response

section Cases

variable {c : Collaborators σ ρ} {entry : SpecificationTestCases} {ts : List TestCase}
  {r : Resolution} {w w' : World σ ρ} {vs : List (Visit σ)} {s : Stop}

theorem Carries.sound (h : Carries c entry ts r w vs s w') : ∀ v ∈ vs, v.Sound c := by
  induction h with
  | done => simp
  | stop => simp
  | visit prepared attempted carried ih =>
    intro v hv
    rcases List.mem_cons.1 hv with rfl | hv
    · have ha := Attempted.of_eq attempted
      exact ⟨prepared, ha.response, fun hp => (ha.passed hp).2⟩
    · exact ih v hv

/-- Unless a case stops the run, all of them are carried out in order. -/
theorem Carries.all_visited (h : Carries c entry ts r w vs s w') (hs : s = none) :
    vs.map Visit.case = ts.map (entry.baseUri, ·) := by
  induction h with
  | done => rfl
  | stop => cases hs
  | visit prepared attempted carried ih => simp [Visit.case, ← ih hs]

/-- A case that stops the run comes right after those carried out, and it cannot be prepared over
the context that is left. -/
theorem Carries.stopped (h : Carries c entry ts r w vs s w') {t : TestCase} {e : RequestError}
    (hs : s = some (t, e)) :
    (∃ ran skipped, ts = ran ++ t :: skipped ∧ vs.map Visit.case = ran.map (entry.baseUri, ·)) ∧
      t.prepare w'.context entry.baseUri = .error e := by
  induction h with
  | done => cases hs
  | stop prepared =>
    cases hs
    exact ⟨⟨[], _, rfl, rfl⟩, prepared⟩
  | @visit t' _ _ _ _ _ _ _ _ _ _ prepared attempted carried ih =>
    -- the case at hand joins those in front of the one that stops
    obtain ⟨⟨ran, skipped, hts, hran⟩, hprep⟩ := ih hs
    exact ⟨⟨t' :: ran, skipped, by simp [hts], by simp [Visit.case, ← hran]⟩, hprep⟩

end Cases

section Specifications

variable {c : Collaborators σ ρ} {entries : List SpecificationTestCases} {w w' : World σ ρ}
  {legs : List (Leg σ)} {s : Stop}

theorem Tours.sound (h : Tours c entries w legs s w') : ∀ v ∈ visitsOf legs, v.Sound c := by
  induction h with
  | done => simp
  | stop carried => simpa using carried.sound
  | next carried toured ih =>
    intro v hv
    rcases List.mem_append.1 hv with hv | hv
    · exact carried.sound v hv
    · exact ih v hv

/-- Unless a case stops the run, the cases of all specifications are carried out in order. -/
theorem Tours.all_visited (h : Tours c entries w legs s w') (hs : s = none) :
    (visitsOf legs).map Visit.case = casesOf entries := by
  induction h with
  | done => rfl
  | stop => cases hs
  | next carried toured ih => simp [carried.all_visited rfl, ih hs]

end Specifications

end ConformanceSuite.Run
