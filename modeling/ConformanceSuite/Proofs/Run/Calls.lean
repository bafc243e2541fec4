import ConformanceSuite.Proofs.Run.Trace

/-!
# The calls of a run to its executor

An executor that keeps a list of the calls made to it tells what a run asks of any executor:
`calls`. Keeping the list changes nothing else. `ran` sorts all runs by how far they get, each with
its trace, its answer and its calls.
-/

namespace ConformanceSuite.Run

variable {σ ρ : Type}

/-- A call to an executor. A request comes with the context and the executor's state when it was
handed over. -/
inductive Call (σ : Type) where
  | certificates (signing transport : Certificate)
  | execute (request : HttpRequest) (context : Context) (state : σ)

/-- The same collaborators, with an executor that adds every call to a list behind its state. -/
def Collaborators.logged (c : Collaborators σ ρ) : Collaborators (σ × List (Call σ)) ρ where
  acceptCertificates signing transport s :=
    let (answer, state) := c.acceptCertificates signing transport s.1
    (answer, state, s.2 ++ [.certificates signing transport])
  execute request context s :=
    let (answer, context', state) := c.execute request context s.1
    (answer, context', state, s.2 ++ [.execute request context s.1])
  resolve := c.resolve

/-- The same world, with a list of calls behind the executor's state. -/
def World.withLog (w : World σ ρ) (log : List (Call σ)) : World (σ × List (Call σ)) ρ :=
  ⟨w.context, (w.executor, log), w.resolver, w.events⟩

/-- The calls that a run makes to its executor, in order. -/
def calls (c : Collaborators σ ρ) (tokens : Option ConsentTokens) (d : RunDefinition)
    (w : World σ ρ) : List (Call σ) :=
  (run c.logged tokens d (w.withLog [])).2.executor.2

/-- The call that handed over the request of a visit. -/
def Visit.call (v : Visit σ) : Call σ := .execute v.request v.context v.executor

@[simp] theorem withLog_record (w : World σ ρ) (log : List (Call σ)) (e : Event) :
    (w.withLog log).record e = (w.record e).withLog log := rfl

@[simp] theorem withLog_context (w : World σ ρ) (log : List (Call σ)) :
    (w.withLog log).context = w.context := rfl

theorem resolveOnce_logged (c : Collaborators σ ρ) (spec : ApiSpecification) (r : Resolution)
    (w : World σ ρ) (log : List (Call σ)) :
    resolveOnce c.logged spec r (w.withLog log) =
      ((resolveOnce c spec r w).1, (resolveOnce c spec r w).2.withLog log) := by
  cases r <;> rfl

/-- An attempt is one call. -/
theorem attempt_logged (c : Collaborators σ ρ) (spec : ApiSpecification) (t : TestCase)
    (request : HttpRequest) (r : Resolution) (w : World σ ρ) (log : List (Call σ)) :
    attempt c.logged spec t request r (w.withLog log) =
      ((attempt c spec t request r w).1, (attempt c spec t request r w).2.1,
        (attempt c spec t request r w).2.2.withLog
          (log ++ [.execute request w.context w.executor])) := by
  cases hx : c.execute request w.context w.executor with
  | mk sent left =>
    obtain ⟨context, executor⟩ := left
    have hl : c.logged.execute request w.context (w.executor, log) =
        (sent, context, executor, log ++ [.execute request w.context w.executor]) := by
      simp [Collaborators.logged, hx]
    -- the answer is the same on both sides, so both attempts go on the same way
    cases sent with
    | error e => simp [attempt, World.withLog, hl, hx]
    | ok response =>
      by_cases hs : t.expect.schemaValidation = true
      · have hr := resolveOnce_logged c spec r { w with context, executor }
          (log ++ [.execute request w.context w.executor])
        simp only [World.withLog] at hr
        simp only [attempt, World.withLog, hl, hx, hs, if_true, hr]
        cases (resolveOnce c spec r { w with context, executor }).1 <;> rfl
      · simp only [attempt, World.withLog, hl, hx, hs, Bool.false_eq_true, if_false]
        rfl

/-- Carrying out cases is one call for each visit. -/
theorem runCases_logged {c : Collaborators σ ρ} {entry : SpecificationTestCases}
    {ts : List TestCase} {r : Resolution} {w w' : World σ ρ} {vs : List (Visit σ)} {s : Stop}
    (h : Carries c entry ts r w vs s w') (result : SpecificationResult) (log : List (Call σ)) :
    runCases c.logged entry ts r result (w.withLog log) =
      ((caseResults vs s).foldl .record result, s.map Prod.snd,
        w'.withLog (log ++ vs.map Visit.call)) := by
  induction h generalizing result log with
  | done r w => simp [runCases, caseResults]
  | stop prepared => simp [runCases, prepared, caseResults]
  | visit prepared attempted carried ih =>
    simp only [runCases, withLog_context, prepared, attempt_logged, attempted, withLog_record, ih]
    simp [Visit.call, caseResults, Visit.result]

/-- Going through specifications is one call for each visit. -/
theorem runSpecifications_logged {c : Collaborators σ ρ} {entries : List SpecificationTestCases}
    {w w' : World σ ρ} {legs : List (Leg σ)} {s : Stop} (h : Tours c entries w legs s w')
    (log : List (Call σ)) :
    runSpecifications c.logged entries (w.withLog log) =
      (legs.map Leg.result, s.map Prod.snd,
        w'.withLog (log ++ (visitsOf legs).map Visit.call)) := by
  induction h generalizing log with
  | done w => simp [runSpecifications]
  | stop carried =>
    simp [runSpecifications, runEntry, runCases_logged carried, Leg.result]
  | next carried toured ih =>
    simp [runSpecifications, runEntry, runCases_logged carried, ih, Leg.result]

/-! ### Whole runs -/

/-- The world in which a run enters its first specification. -/
def seeded (c : Collaborators σ ρ) (d : RunDefinition) (w : World σ ρ) : World σ ρ :=
  { offerCertificates c d w with
    context := { w.context with entries := w.context.entries.insertAll (seeds d) } }

/-- The answer of a run that went through specifications. -/
def answerOf (legs : List (Leg σ)) : Stop → Except Abort (List SpecificationResult)
  | none => .ok (legs.map Leg.result)
  | some s => .error ⟨.prepare s.2, legs.map Leg.result⟩

/-- The ways in which a run can go: it is turned away for want of tokens, it cannot put its seeds
into a poisoned context, or it goes through its specifications. -/
inductive Ran (c : Collaborators σ ρ) (tokens : Option ConsentTokens) (d : RunDefinition)
    (w : World σ ρ) :
    Except Abort (List SpecificationResult) → World σ ρ → List (Call σ) → Prop
  | turnedAway {cause : AbortCause} (refused : requireTokens tokens = .error cause) :
      Ran c tokens d w (.error ⟨cause, []⟩) (w.record (.aborted none cause.message)) []
  | unseeded (granted : requireTokens tokens = .ok ()) (poisoned : w.context.poisoned = true) :
      Ran c tokens d w (.error ⟨.context .poisoned, []⟩)
        ((offerCertificates c d w).record (.aborted none ContextError.poisoned.message))
        [.certificates d.signingCert d.transportCert]
  | toured {legs : List (Leg σ)} {s : Stop} {w' : World σ ρ}
      (granted : requireTokens tokens = .ok ()) (sound : w.context.poisoned = false)
      (toured : Tours c d.specTests (seeded c d w) legs s w') :
      Ran c tokens d w (answerOf legs s) w' (.certificates d.signingCert d.transportCert ::
        (visitsOf legs).map Visit.call)

theorem offerCertificates_context (c : Collaborators σ ρ) (d : RunDefinition) (w : World σ ρ) :
    (offerCertificates c d w).context = w.context := by
  unfold offerCertificates
  split <;> rfl

theorem offerCertificates_logged (c : Collaborators σ ρ) (d : RunDefinition) (w : World σ ρ)
    (log : List (Call σ)) :
    offerCertificates c.logged d (w.withLog log) =
      (offerCertificates c d w).withLog
        (log ++ [.certificates d.signingCert d.transportCert]) := by
  cases h : c.acceptCertificates d.signingCert d.transportCert w.executor with
  | mk answer state =>
    cases answer <;> simp [offerCertificates, Collaborators.logged, World.withLog, h, World.record]

/-- Every run goes in one of the three ways. -/
theorem ran (c : Collaborators σ ρ) (tokens : Option ConsentTokens) (d : RunDefinition)
    (w : World σ ρ) :
    Ran c tokens d w (run c tokens d w).1 (run c tokens d w).2 (calls c tokens d w) := by
  cases ht : requireTokens tokens with
  | error cause =>
    -- of any executor, so of the one that keeps the list too
    have h : ∀ {τ : Type} (c : Collaborators τ ρ) (w : World τ ρ),
        run c tokens d w = abortEarly cause w := fun c w => by simp [run, ht]
    rw [h, calls, h]
    exact .turnedAway ht
  | ok _ =>
    cases hp : w.context.poisoned with
    | true =>
      have hput : w.context.putAll (seeds d) = .error .poisoned := by simp [Context.putAll, hp]
      have h : run c tokens d w =
          abortEarly (.context .poisoned) (offerCertificates c d w) := by
        simp [run, ht, offerCertificates_context, hput]
      have hl : run c.logged tokens d (w.withLog []) =
          abortEarly (.context .poisoned) (offerCertificates c.logged d (w.withLog [])) := by
        simp [run, ht, offerCertificates_context, hput]
      rw [h, calls, hl, offerCertificates_logged]
      exact .unseeded ht hp
    | false =>
      have hput : w.context.putAll (seeds d) =
          .ok { w.context with entries := w.context.entries.insertAll (seeds d) } := by
        simp [Context.putAll, hp]
      obtain ⟨legs, s, w', htour⟩ := exists_tours c d.specTests (seeded c d w)
      have h : run c tokens d w = (answerOf legs s, w') := by
        have hrun := runSpecifications_eq htour
        simp only [seeded] at hrun
        simp only [run, ht, offerCertificates_context, hput, hrun]
        cases s <;> rfl
      have hl : (run c.logged tokens d (w.withLog [])).2 =
          w'.withLog (.certificates d.signingCert d.transportCert ::
            (visitsOf legs).map Visit.call) := by
        have hrun := runSpecifications_logged htour [.certificates d.signingCert d.transportCert]
        simp only [seeded, World.withLog] at hrun
        simp only [run, ht, offerCertificates_context, withLog_context, hput,
          offerCertificates_logged]
        simp only [World.withLog, List.nil_append, hrun]
        cases s <;> rfl
      rw [h, calls, hl]
      exact .toured ht hp htour

/-! ### Runs by their tokens -/

section Tokens

variable {tokens : Option ConsentTokens}

/-- A run that has its tokens shows the certificates before anything else. -/
theorem calls_of_granted (h : requireTokens tokens = .ok ()) (c : Collaborators σ ρ)
    (d : RunDefinition) (w : World σ ρ) :
    ∃ later, calls c tokens d w = .certificates d.signingCert d.transportCert :: later := by
  have hran := ran c tokens d w
  generalize (run c tokens d w).1 = answer, (run c tokens d w).2 = left,
    calls c tokens d w = asked at hran ⊢
  cases hran with
  | turnedAway refused => simp [h] at refused
  | unseeded => exact ⟨_, rfl⟩
  | toured => exact ⟨_, rfl⟩

/-- A run that is refused its tokens asks nothing of its executor and records that it is aborted. -/
theorem run_of_refused {cause : AbortCause} (h : requireTokens tokens = .error cause)
    (c : Collaborators σ ρ) (d : RunDefinition) (w : World σ ρ) :
    run c tokens d w = abortEarly cause w ∧ calls c tokens d w = [] := by
  have hrun : ∀ {τ : Type} (c : Collaborators τ ρ) (w : World τ ρ),
      run c tokens d w = abortEarly cause w := fun c w => by simp [run, h]
  refine ⟨hrun c w, ?_⟩
  rw [calls, hrun]
  rfl

end Tokens

end ConformanceSuite.Run
