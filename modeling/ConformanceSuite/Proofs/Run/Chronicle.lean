import ConformanceSuite.Proofs.Run.Mirror

/-!
# The events of a run tell its report

For each specification that a run enters it reports a start and then the outcome of each test case,
in order and with the verdict of its result; a case that cannot be prepared, or a run that is turned
away, ends the story with an abort. `events_tell_report` says so of every run, whatever its executor
answers, and says of which answers an outcome speaks.
-/

namespace ConformanceSuite.Run

variable {σ ρ : Type}

/-- What an executor answers to each request of some calls, in order. -/
def answersTo (c : Collaborators σ ρ) (calls : List (Call σ)) : List (Option HttpResponse) :=
  calls.filterMap fun
    | .certificates _ _ => none
    | .execute request context state => some (c.execute request context state).1.toOption

/-- An event of the outcome of a test case: it bears the texts of the case, passes without an error
or fails with one, and shows of a response its status, its time and its size. -/
structure Event.TellsOutcome (e : Event) (specification : String) (t : TestCase) (pass : Bool)
    (response : Option HttpResponse) : Prop where
  specification : e.specification = some specification
  testId : e.testId = some t.id
  testCase : e.testCase = some t.name
  method : e.method = some t.input.method
  endpoint : e.endpoint = some t.input.endpoint
  expectedStatus : e.expectedStatus = some t.expect.status
  passed : pass = true → e.event = "test_case_pass" ∧ e.error = none
  failed : pass = false → e.event = "test_case_fail" ∧ ∃ text, e.error = some text
  status : e.status = response.map HttpResponse.status
  responseMillis : e.responseMillis = response.map HttpResponse.elapsedMillis
  responseSize : e.responseSize = response.map (·.body.length)

/-- The event of a run that is aborted at a test case, with the error in words. -/
def abortedAt (t : TestCase) (text : String) : Event :=
  { Event.named "run_aborted" with
    testId := some t.id
    testCase := some t.name
    method := some t.input.method
    endpoint := some t.input.endpoint
    error := some text }

/-- The event of a run that enters a specification. -/
def enteredAt (specification : String) : Event :=
  { Event.named "specification_start" with specification := some specification }

/-- The test cases of a specification, their results, the answers to their requests and their
events, in step. Of a case that aborts the run, with an error in words, there is a failed result and
no answer. -/
inductive CasesTold (specification : String) :
    List TestCase → List TestResult → List (Option HttpResponse) → Option String → List Event → Prop
  | done : CasesTold specification [] [] [] none []
  | aborted {t : TestCase} {later : List TestCase} {text : String} :
      CasesTold specification (t :: later) [resultOf t false] [] (some text) [abortedAt t text]
  | outcome {t : TestCase} {later : List TestCase} {pass : Bool} {results : List TestResult}
      {answer : Option HttpResponse} {answers : List (Option HttpResponse)} {abort : Option String}
      {e : Event} {events : List Event}
      (tells : e.TellsOutcome specification t pass answer)
      (rest : CasesTold specification later results answers abort events) :
      CasesTold specification (t :: later) (resultOf t pass :: results) (answer :: answers) abort
        (e :: events)

/-- The specifications of a definition, their results, the answers to their requests and their
events, in step: a start for each that is entered, and then the events of its cases. An abort leaves
no later specification to be entered. -/
inductive Told :
    List SpecificationTestCases → List SpecificationResult → List (Option HttpResponse) →
    Option String → List Event → Prop
  | done : Told [] [] [] none []
  | aborted {entry : SpecificationTestCases} {later : List SpecificationTestCases}
      {result : SpecificationResult} {answers : List (Option HttpResponse)} {text : String}
      {events : List Event} (name : result.name = entry.specification.name)
      (cases : CasesTold entry.specification.name entry.testCases result.tests answers (some text)
        events) :
      Told (entry :: later) [result] answers (some text)
        (enteredAt entry.specification.name :: events)
  | entered {entry : SpecificationTestCases} {later : List SpecificationTestCases}
      {result : SpecificationResult} {results : List SpecificationResult}
      {answers laterAnswers : List (Option HttpResponse)} {abort : Option String}
      {events laterEvents : List Event} (name : result.name = entry.specification.name)
      (cases : CasesTold entry.specification.name entry.testCases result.tests answers none events)
      (rest : Told later results laterAnswers abort laterEvents) :
      Told (entry :: later) (result :: results) (answers ++ laterAnswers) abort
        (enteredAt entry.specification.name :: events ++ laterEvents)

/-- The event of certificates that the executor refuses, in a run that is not turned away. -/
def rejection (c : Collaborators σ ρ) (tokens : Option ConsentTokens) (d : RunDefinition)
    (w : World σ ρ) : List Event :=
  match requireTokens tokens with
  | .error _ => []
  | .ok _ =>
    match (c.acceptCertificates d.signingCert d.transportCert w.executor).1 with
    | .ok _ => []
    | .error e => [{ Event.named "certificates_rejected" with error := some e.message }]

/-- Some events end with an abort, with its cause in words, and have no other. -/
def EndsInAbort (events : List Event) (text : String) : Prop :=
  ∃ front last, events = front ++ [last] ∧ last.event = "run_aborted" ∧ last.error = some text ∧
    ∀ e ∈ front, e.event ≠ "run_aborted"

/-- What the definition, the answers to the requests of a run and its answer say of its events. -/
def ToldBy (d : RunDefinition) (answers : List (Option HttpResponse)) (events : List Event) :
    Except Abort (List SpecificationResult) → Prop
  | .ok results =>
    Told d.specTests results answers none events ∧ ∀ e ∈ events, e.event ≠ "run_aborted"
  | .error ⟨.prepare e, results⟩ =>
    Told d.specTests results answers (some e.message) events ∧ EndsInAbort events e.message
  | .error ⟨cause, results⟩ =>
    results = [] ∧ answers = [] ∧
      events = [{ Event.named "run_aborted" with error := some cause.message }]

/-! ### One specification -/

/-- Events that are no aborts may come in front. -/
theorem EndsInAbort.behind {front events : List Event} {text : String} (h : EndsInAbort events text)
    (hfront : ∀ e ∈ front, e.event ≠ "run_aborted") : EndsInAbort (front ++ events) text := by
  obtain ⟨before, last, rfl, hlast, herror, hbefore⟩ := h
  exact ⟨front ++ before, last, (List.append_assoc ..).symm, hlast, herror,
    List.forall_mem_append.2 ⟨hfront, hbefore⟩⟩

theorem tellsOutcome_caseFinished (specification : String) (t : TestCase) (f : Finding) :
    (Event.caseFinished specification t f).TellsOutcome specification t f.pass f.response where
  specification := rfl
  testId := rfl
  testCase := rfl
  method := rfl
  endpoint := rfl
  expectedStatus := rfl
  passed hpass := by
    have hfault : f.fault = none := Option.isNone_iff_eq_none.1 hpass
    simp [Event.caseFinished, hpass, hfault]
  failed hpass := by
    cases hfault : f.fault with
    | none => simp [Finding.pass, hfault] at hpass
    | some fault => simp [Event.caseFinished, hpass, hfault]
  status := rfl
  responseMillis := rfl
  responseSize := rfl

/-- The calls of visits that stand to their collaborators are answered as their findings say. -/
theorem answersTo_visits {c : Collaborators σ ρ} {vs : List (Visit σ)}
    (h : ∀ v ∈ vs, v.Sound c) :
    answersTo c (vs.map Visit.call) = vs.map fun v => v.finding.response := by
  induction vs with
  | nil => rfl
  | cons v rest ih =>
    rw [List.forall_mem_cons] at h
    have hrest := ih h.2
    rw [answersTo] at hrest ⊢
    simp [Visit.call, hrest, h.1.response]

section Cases

variable {c : Collaborators σ ρ} {entry : SpecificationTestCases} {w w' : World σ ρ} {s : Stop}

/-- Carrying out cases adds the events that tell of them. -/
theorem Carries.told {ts : List TestCase} {r : Resolution} {vs : List (Visit σ)}
    (h : Carries c entry ts r w vs s w') :
    ∃ events, w'.events = w.events ++ events ∧
      CasesTold entry.specification.name ts (caseResults vs s)
        (vs.map fun v => v.finding.response) (s.map fun s => s.2.message) events := by
  induction h with
  | done => exact ⟨[], by simp, .done⟩
  | @stop t _ _ w e _ => exact ⟨[abortedAt t e.message], rfl, .aborted⟩
  | @visit t _ _ _ w _ _ _ finding _ _ _ attempted _ ih =>
    obtain ⟨events, hevents, htold⟩ := ih
    refine ⟨.caseFinished entry.specification.name t finding :: events, ?_,
      .outcome (tellsOutcome_caseFinished _ t finding) htold⟩
    -- the attempt itself has reported nothing
    rw [hevents, World.record, (Attempted.of_eq attempted).events]
    simp

/-- An abort is the last event of the cases, and there is none without it. -/
theorem CasesTold.abort {specification : String} {ts : List TestCase} {results : List TestResult}
    {answers : List (Option HttpResponse)} {abort : Option String} {events : List Event}
    (h : CasesTold specification ts results answers abort events) :
    (abort = none → ∀ e ∈ events, e.event ≠ "run_aborted") ∧
      ∀ text, abort = some text → EndsInAbort events text := by
  induction h with
  | done => simp
  | @aborted t _ text => exact ⟨nofun, fun _ h => ⟨[], _, rfl, rfl, h, by simp⟩⟩
  | @outcome _ _ pass _ _ _ _ e _ tells _ ih =>
    have hne : e.event ≠ "run_aborted" := by
      cases pass with
      | true => simp [(tells.passed rfl).1]
      | false => simp [(tells.failed rfl).1]
    have hfront : ∀ e' ∈ [e], e'.event ≠ "run_aborted" := by simpa using hne
    exact ⟨fun h => List.forall_mem_cons.2 ⟨hne, ih.1 h⟩, fun text h => (ih.2 text h).behind hfront⟩

end Cases

/-! ### All specifications -/

section Specifications

variable {c : Collaborators σ ρ} {w w' : World σ ρ} {s : Stop}

theorem Leg.result_name (l : Leg σ) : l.result.name = l.entry.specification.name := by
  simp [Leg.result, foldl_record, SpecificationResult.ofSpecification]

/-- Going through specifications adds the events that tell of them. -/
theorem Tours.told {entries : List SpecificationTestCases} {legs : List (Leg σ)}
    (h : Tours c entries w legs s w') :
    ∃ events, w'.events = w.events ++ events ∧
      Told entries (legs.map Leg.result) ((visitsOf legs).map fun v => v.finding.response)
        (s.map fun s => s.2.message) events := by
  induction h with
  | done => exact ⟨[], by simp, .done⟩
  | @stop entry _ w _ vs s carried =>
    obtain ⟨events, hevents, htold⟩ := carried.told
    have htests : (Leg.result ⟨entry, vs, some s⟩).tests = caseResults vs (some s) := by simp
    have hname := Leg.result_name ⟨entry, vs, some s⟩
    refine ⟨enteredAt entry.specification.name :: events, ?_, ?_⟩
    · rw [hevents]
      simp [World.record, Event.specificationStart, enteredAt]
    · simpa using Told.aborted hname (htests ▸ htold)
  | @next entry _ w _ _ vs legs _ carried _ ih =>
    obtain ⟨events, hevents, htold⟩ := carried.told
    obtain ⟨laterEvents, hlater, hrest⟩ := ih
    have htests : (Leg.result ⟨entry, vs, none⟩).tests = caseResults vs none := by simp
    have hname := Leg.result_name ⟨entry, vs, none⟩
    refine ⟨enteredAt entry.specification.name :: events ++ laterEvents, ?_, ?_⟩
    · rw [hlater, hevents]
      simp [World.record, Event.specificationStart, enteredAt]
    · simpa using Told.entered hname (htests ▸ htold) hrest

/-- An abort is the last event of the specifications, and there is none without it. -/
theorem Told.abort {entries : List SpecificationTestCases} {results : List SpecificationResult}
    {answers : List (Option HttpResponse)} {abort : Option String} {events : List Event}
    (h : Told entries results answers abort events) :
    (abort = none → ∀ e ∈ events, e.event ≠ "run_aborted") ∧
      ∀ text, abort = some text → EndsInAbort events text := by
  have hstart : ∀ specification, (enteredAt specification).event ≠ "run_aborted" := by
    simp [enteredAt, Event.named]
  induction h with
  | done => simp
  | @aborted entry _ _ _ _ _ _ cases =>
    have hfront : ∀ e ∈ [enteredAt entry.specification.name], e.event ≠ "run_aborted" := by
      simpa using hstart _
    exact ⟨nofun, fun text h => (cases.abort.2 text h).behind hfront⟩
  | @entered entry _ _ _ _ _ _ events _ _ cases _ ih =>
    have hcases : ∀ e ∈ enteredAt entry.specification.name :: events, e.event ≠ "run_aborted" :=
      List.forall_mem_cons.2 ⟨hstart _, cases.abort.1 rfl⟩
    refine ⟨fun h => List.forall_mem_append.2 ⟨hcases, ih.1 h⟩, fun text h => ?_⟩
    exact (ih.2 text h).behind hcases

end Specifications

theorem offerCertificates_events (c : Collaborators σ ρ) {tokens : Option ConsentTokens}
    (d : RunDefinition) (w : World σ ρ) (granted : requireTokens tokens = .ok ()) :
    (offerCertificates c d w).events = w.events ++ rejection c tokens d w := by
  rw [rejection, granted, offerCertificates]
  cases h : c.acceptCertificates d.signingCert d.transportCert w.executor with
  | mk answer executor => cases answer <;> simp [World.record, Event.certificatesRejected]

/-- Whatever the tokens, the definition, the collaborators and the world: after the event of refused
certificates, if they were, the events of a run tell of its results in order, and each outcome shows
the response that the executor answered, if it answered with one. -/
theorem events_tell_report (c : Collaborators σ ρ) (tokens : Option ConsentTokens)
    (d : RunDefinition) (w : World σ ρ) :
    ∃ events, (run c tokens d w).2.events = w.events ++ rejection c tokens d w ++ events ∧
      ToldBy d (answersTo c (calls c tokens d w)) events (run c tokens d w).1 := by
  have h := ran c tokens d w
  generalize (run c tokens d w).1 = answer, (run c tokens d w).2 = left,
    calls c tokens d w = asked at h ⊢
  cases h with
  | @turnedAway cause refused =>
    refine ⟨[{ Event.named "run_aborted" with error := some cause.message }], ?_, ?_⟩
    · rw [rejection, refused, List.append_nil]
      rfl
    · obtain ⟨sets, rfl⟩ | ⟨e, rfl⟩ := requireTokens_error refused
      · exact ⟨rfl, rfl, rfl⟩
      · exact ⟨rfl, rfl, rfl⟩
  | unseeded granted poisoned =>
    refine ⟨[{ Event.named "run_aborted" with error := some ContextError.poisoned.message }],
      ?_, ?_⟩
    · rw [World.record, offerCertificates_events c d w granted]
      rfl
    · exact ⟨rfl, rfl, rfl⟩
  | @toured legs s w' granted sound toured =>
    obtain ⟨events, hevents, htold⟩ := toured.told
    have hanswers := answersTo_visits toured.sound
    refine ⟨events, ?_, ?_⟩
    · rw [hevents]
      exact congrArg (· ++ events) (offerCertificates_events c d w granted)
    · have hcalls : answersTo c (.certificates d.signingCert d.transportCert ::
          (visitsOf legs).map Visit.call) = (visitsOf legs).map fun v => v.finding.response := by
        rw [← hanswers]
        rfl
      rw [hcalls]
      cases s with
      | none => exact ⟨htold, htold.abort.1 rfl⟩
      | some s => exact ⟨htold, htold.abort.2 _ rfl⟩

end ConformanceSuite.Run
