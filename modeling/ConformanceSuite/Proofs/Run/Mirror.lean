import Mathlib.Data.List.Forall2
import ConformanceSuite.Proofs.Run.Calls

/-!
# Results mirror the definition

A run answers with one result for each specification of its definition, and in it one for each test
case, in order; a case that cannot be prepared cuts both short behind its own result.
`run_mirrors_definition` says so of every run, together with what the executor was asked.
-/

namespace ConformanceSuite.Run

variable {σ ρ : Type}

/-- A result that bears the texts of its entry, has a test result for each test case in order, and
passes exactly if all of these do. -/
structure Mirrors (result : SpecificationResult) (entry : SpecificationTestCases) : Prop where
  name : result.name = entry.specification.name
  version : result.version = entry.specification.version
  url : result.url = entry.specification.url
  schemaVersion : result.schemaVersion = entry.specification.schemaVersion
  tests : List.Forall₂ (fun r t => r.id = t.id ∧ r.name = t.name ∧ r.endpoint = t.label)
    result.tests entry.testCases
  pass : result.pass = result.tests.all TestResult.pass

/-- A call that hands over the request of a case, prepared over the context that goes with it. -/
def Requests (case : String × TestCase) (call : Call σ) : Prop :=
  ∃ request context state, call = .execute request context state ∧
    case.2.prepare context case.1 = .ok request

/-- The certificates are shown once, and then a request is handed over for each of the cases. -/
def CalledFor (d : RunDefinition) (entries : List SpecificationTestCases)
    (calls : List (Call σ)) : Prop :=
  ∃ requests, calls = .certificates d.signingCert d.transportCert :: requests ∧
    List.Forall₂ Requests (casesOf entries) requests

/-- The last result of all is that of a test case that failed. -/
def EndsInFailure (results : List SpecificationResult) : Prop :=
  ∃ front last tests test, results = front ++ [last] ∧ last.tests = tests ++ [test] ∧
    test.pass = false

/-- What a definition, the calls of a run and the context it leaves say of the run's answer. -/
def Mirrored (d : RunDefinition) (calls : List (Call σ)) (context : Context) :
    Except Abort (List SpecificationResult) → Prop
  | .ok results => List.Forall₂ Mirrors results d.specTests ∧ CalledFor d d.specTests calls
  | .error ⟨.prepare e, results⟩ =>
    ∃ done entry later ran t skipped,
      d.specTests = done ++ entry :: later ∧ entry.testCases = ran ++ t :: skipped ∧
      t.prepare context entry.baseUri = .error e ∧
      List.Forall₂ Mirrors results (done ++ [{ entry with testCases := ran ++ [t] }]) ∧
      EndsInFailure results ∧ (∀ id time, Report.pass ⟨id, time, results⟩ = false) ∧
      CalledFor d (done ++ [{ entry with testCases := ran }]) calls
  | .error ⟨.context _, results⟩ =>
    results = [] ∧ calls = [.certificates d.signingCert d.transportCert]
  | .error ⟨.tokensPending _, results⟩ | .error ⟨.tokens _, results⟩ => results = [] ∧ calls = []

/-! ### One specification -/

/-- Recording test results adds them in order and keeps the flag up to date. -/
theorem foldl_record (rs : List TestResult) (result : SpecificationResult) :
    rs.foldl .record result =
      { result with
        pass := result.pass && rs.all TestResult.pass
        tests := result.tests ++ rs } := by
  induction rs generalizing result with
  | nil => simp
  | cons r rest ih => simp [ih, SpecificationResult.record, Bool.and_assoc]

@[simp] theorem Leg.result_tests (l : Leg σ) : l.result.tests = caseResults l.visits l.stop := by
  simp [Leg.result, foldl_record, SpecificationResult.ofSpecification]

/-- The result of a leg mirrors the cases that were tried. -/
theorem Leg.mirrors {l : Leg σ} {tried : List TestCase}
    (h : l.visits.map Visit.testCase ++ l.stop.toList.map Prod.fst = tried) :
    Mirrors l.result { l.entry with testCases := tried } where
  name := by simp [Leg.result, foldl_record, SpecificationResult.ofSpecification]
  version := by simp [Leg.result, foldl_record, SpecificationResult.ofSpecification]
  url := by simp [Leg.result, foldl_record, SpecificationResult.ofSpecification]
  schemaVersion := by simp [Leg.result, foldl_record, SpecificationResult.ofSpecification]
  tests := by
    rw [Leg.result_tests, ← h]
    refine List.rel_append ?_ ?_
    · rw [List.forall₂_map_left_iff, List.forall₂_map_right_iff]
      exact List.forall₂_same.2 fun v _ => ⟨rfl, rfl, rfl⟩
    · rw [List.forall₂_map_left_iff, List.forall₂_map_right_iff]
      exact List.forall₂_same.2 fun s _ => ⟨rfl, rfl, rfl⟩
  pass := by simp [Leg.result, foldl_record, SpecificationResult.ofSpecification]

theorem map_testCase_eq {vs : List (Visit σ)} {base : String} {ts : List TestCase}
    (h : vs.map Visit.case = ts.map (base, ·)) : vs.map Visit.testCase = ts := by
  simpa [Visit.case, Function.comp_def] using congrArg (List.map Prod.snd) h

/-- The calls of visits hand over the requests of their cases. -/
theorem requests_of_sound {c : Collaborators σ ρ} {vs : List (Visit σ)}
    (h : ∀ v ∈ vs, v.Sound c) : List.Forall₂ Requests (vs.map Visit.case) (vs.map Visit.call) := by
  rw [List.forall₂_map_left_iff, List.forall₂_map_right_iff]
  exact List.forall₂_same.2 fun v hv => ⟨v.request, v.context, v.executor, rfl, (h v hv).prepared⟩

/-! ### All specifications -/

section Tours

variable {c : Collaborators σ ρ} {entries : List SpecificationTestCases} {w w' : World σ ρ}
  {legs : List (Leg σ)} {s : Stop}

theorem Tours.mirrors (h : Tours c entries w legs s w') (hs : s = none) :
    List.Forall₂ Mirrors (legs.map Leg.result) entries := by
  induction h with
  | done => exact .nil
  | stop => cases hs
  | @next entry rest w w' w'' vs legs s carried toured ih =>
    refine .cons (Leg.mirrors (l := ⟨entry, vs, none⟩) ?_) (ih hs)
    simpa using map_testCase_eq (carried.all_visited rfl)

/-- A case that stops a run splits its specification and the definition, and everything in front of
it has been carried out. -/
theorem Tours.stopped (h : Tours c entries w legs s w') {t : TestCase} {e : RequestError}
    (hs : s = some (t, e)) :
    ∃ done entry later ran skipped,
      entries = done ++ entry :: later ∧ entry.testCases = ran ++ t :: skipped ∧
      t.prepare w'.context entry.baseUri = .error e ∧
      List.Forall₂ Mirrors (legs.map Leg.result)
        (done ++ [{ entry with testCases := ran ++ [t] }]) ∧
      EndsInFailure (legs.map Leg.result) ∧
      (visitsOf legs).map Visit.case = casesOf (done ++ [{ entry with testCases := ran }]) := by
  induction h with
  | done => cases hs
  | @stop entry rest w w' vs s carried =>
    obtain ⟨⟨ran, skipped, hts, hran⟩, hprep⟩ := carried.stopped hs
    refine ⟨[], entry, rest, ran, skipped, rfl, hts, hprep, ?_, ?_, by simp [hran]⟩
    · refine .cons (Leg.mirrors (l := ⟨entry, vs, some s⟩) ?_) .nil
      simp [map_testCase_eq hran, Option.some.inj hs]
    · exact ⟨[], Leg.result ⟨entry, vs, some s⟩, vs.map Visit.result, resultOf s.1 false,
        rfl, by simp [caseResults], rfl⟩
  | @next entry rest w w' w'' vs legs s carried toured ih =>
    -- the entry at hand was carried out whole and goes in front of all that the induction found
    obtain ⟨done, stopped, later, ran, skipped, hentries, hts, hprep, hmirrors,
      ⟨front, last, tests, test, hresults, htests, hfailed⟩, hvisits⟩ := ih hs
    have hall := carried.all_visited rfl
    refine ⟨entry :: done, stopped, later, ran, skipped, by rw [hentries]; rfl, hts, hprep,
      ?_, ?_, by simp [hall, hvisits]⟩
    · refine .cons (Leg.mirrors (l := ⟨entry, vs, none⟩) ?_) hmirrors
      simpa using map_testCase_eq hall
    · refine ⟨Leg.result ⟨entry, vs, none⟩ :: front, last, tests, test, ?_, htests, hfailed⟩
      rw [List.map_cons, hresults]
      rfl

end Tours

theorem pass_eq_all {results : List SpecificationResult} {entries : List SpecificationTestCases}
    (h : List.Forall₂ Mirrors results entries) :
    ∀ r ∈ results, r.pass = r.tests.all TestResult.pass := by
  induction h with
  | nil => simp
  | cons hm _ ih =>
    intro r hr
    rcases List.mem_cons.1 hr with rfl | hr
    · exact hm.pass
    · exact ih r hr

/-- A report that ends in a failed test case does not pass. -/
theorem EndsInFailure.not_pass {results : List SpecificationResult}
    {entries : List SpecificationTestCases} (h : EndsInFailure results)
    (hm : List.Forall₂ Mirrors results entries) (id : Uuid) (time : String) :
    Report.pass ⟨id, time, results⟩ = false := by
  obtain ⟨front, last, tests, test, rfl, htests, hfailed⟩ := h
  have hlast : last.pass = false := by
    rw [pass_eq_all hm last (by simp), htests]
    simp [hfailed]
  simp [Report.pass, hlast]

theorem requireTokens_error {tokens : Option ConsentTokens} {cause : AbortCause}
    (h : requireTokens tokens = .error cause) :
    (∃ sets, cause = .tokensPending sets) ∨ ∃ e, cause = .tokens e := by
  unfold requireTokens at h
  split at h
  · cases h
  · split at h <;> cases h
    · exact .inr ⟨_, rfl⟩
    · exact .inl ⟨_, rfl⟩

/-- Whatever the tokens, the definition, the collaborators and the world: the answer of a run
mirrors its definition as far as the run got, and the executor was asked accordingly. -/
theorem run_mirrors_definition (c : Collaborators σ ρ) (tokens : Option ConsentTokens)
    (d : RunDefinition) (w : World σ ρ) :
    Mirrored d (calls c tokens d w) (run c tokens d w).2.context (run c tokens d w).1 := by
  have h := ran c tokens d w
  generalize (run c tokens d w).1 = answer, (run c tokens d w).2 = left,
    calls c tokens d w = asked at h ⊢
  cases h with
  | turnedAway refused =>
    obtain ⟨sets, rfl⟩ | ⟨e, rfl⟩ := requireTokens_error refused
    · exact ⟨rfl, rfl⟩
    · exact ⟨rfl, rfl⟩
  | unseeded => exact ⟨rfl, rfl⟩
  | @toured legs s w' granted sound toured =>
    have hrequests := requests_of_sound toured.sound
    cases s with
    | none =>
      rw [toured.all_visited rfl] at hrequests
      exact ⟨toured.mirrors rfl, _, rfl, hrequests⟩
    | some s =>
      obtain ⟨done, entry, later, ran, skipped, hentries, hts, hprep, hmirrors, hfailed,
        hvisits⟩ := toured.stopped rfl
      rw [hvisits] at hrequests
      exact ⟨done, entry, later, ran, s.1, skipped, hentries, hts, hprep, hmirrors, hfailed,
        hfailed.not_pass hmirrors, _, rfl, hrequests⟩

end ConformanceSuite.Run
