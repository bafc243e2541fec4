import ConformanceSuite.Proofs.KeyMap
import ConformanceSuite.Proofs.Run.Mirror

/-!
# The flow of data through a run

The context that a case is prepared over is the one that was given, overridden by the certificates,
by the replacements of the custom tests, and then case after case by what the executor wrote and by
the captures of the cases that passed: `run_data_flow`.
-/

namespace ConformanceSuite.Run

variable {σ ρ : Type}

/-- The entries that a run starts from: those it is given, overridden by the two certificates and
then by the replacements of the custom tests in order. -/
def startingEntries (d : RunDefinition) (given : KeyMap Json) : KeyMap Json :=
  d.discovery.customTests.foldl
    (fun m t => m.insertAll (t.replacements.entries.map fun e => (e.1, .string e.2)))
    ((given.insert "SigningCert" d.signingCert.contextValue).insert "TransportCert"
      d.transportCert.contextValue)

/-- The context that a case leaves: what the executor left, overridden by the captures if the case
passed. -/
def Visit.left (c : Collaborators σ ρ) (v : Visit σ) : Context :=
  let context := (c.execute v.request v.context v.executor).2.1
  { context with entries := context.entries.insertAll (v.finding.captured v.testCase) }

/-- Each case finds the context that the case in front of it left. -/
def Chained (c : Collaborators σ ρ) : Context → List (Visit σ) → Context → Prop
  | context, [], final => final = context
  | context, v :: vs, final => v.context = context ∧ Chained c (v.left c) vs final

/-- All that an executor does to the entries of a context is to bind keys, as `writes` tells. -/
def Collaborators.WritesBy (c : Collaborators σ ρ)
    (writes : HttpRequest → Context → σ → List (String × Json)) : Prop :=
  ∀ request context state, (c.execute request context state).2.1.entries =
    context.entries.insertAll (writes request context state)

/-- What a case adds to the entries: the writes of the executor, and the captures if it passed. -/
def Visit.contribution (writes : HttpRequest → Context → σ → List (String × Json))
    (v : Visit σ) : List (String × Json) :=
  writes v.request v.context v.executor ++ v.finding.captured v.testCase

/-- Each case finds the entries from the start overridden by the contributions of the cases in front
of it, and in the end those of all cases have been added. -/
structure Flows (writes : HttpRequest → Context → σ → List (String × Json))
    (start : KeyMap Json) (vs : List (Visit σ)) (final : KeyMap Json) : Prop where
  found : ∀ before v after, vs = before ++ v :: after →
    v.context.entries = start.insertAll (before.flatMap (Visit.contribution writes))
  final : final = start.insertAll (vs.flatMap (Visit.contribution writes))

/-- The test results of a run in order. -/
def testsOf : Except Abort (List SpecificationResult) → List TestResult
  | .ok results => results.flatMap SpecificationResult.tests
  | .error a => a.results.flatMap SpecificationResult.tests

/-- The visits of a run are its cases, with the results that it reports for them: all cases, or
those in front of one that could not be prepared over the context that was left. -/
def Accounts (d : RunDefinition) (vs : List (Visit σ)) (context : Context)
    (answer : Except Abort (List SpecificationResult)) : Prop :=
  ((∃ results, answer = .ok results) ∧ casesOf d.specTests = vs.map Visit.case ∧
    testsOf answer = vs.map Visit.result) ∨
  ∃ e results base t later, answer = .error ⟨.prepare e, results⟩ ∧
    casesOf d.specTests = vs.map Visit.case ++ (base, t) :: later ∧
    t.prepare context base = .error e ∧
    testsOf answer = vs.map Visit.result ++ [resultOf t false]

/-! ### The chain of contexts -/

section Chain

variable {c : Collaborators σ ρ} {w w' : World σ ρ} {s : Stop}

theorem Chained.append {context middle final : Context} {vs us : List (Visit σ)}
    (h : Chained c context vs middle) (h' : Chained c middle us final) :
    Chained c context (vs ++ us) final := by
  induction vs generalizing context with
  | nil =>
    have hmiddle : middle = context := h
    exact hmiddle ▸ h'
  | cons v vs ih => exact ⟨h.1, ih h.2⟩

theorem Carries.chained {entry : SpecificationTestCases} {ts : List TestCase} {r : Resolution}
    {vs : List (Visit σ)} (h : Carries c entry ts r w vs s w') :
    Chained c w.context vs w'.context := by
  induction h with
  | done => rfl
  | stop => rfl
  | visit prepared attempted carried ih =>
    -- what a visit leaves is the context that the rest starts from
    refine ⟨rfl, ?_⟩
    rw [record_context, (Attempted.of_eq attempted).context] at ih
    exact ih

theorem Tours.chained {entries : List SpecificationTestCases} {legs : List (Leg σ)}
    (h : Tours c entries w legs s w') : Chained c w.context (visitsOf legs) w'.context := by
  induction h with
  | done => rfl
  | stop carried => simpa using carried.chained
  | next carried toured ih =>
    have hcarried := carried.chained
    rw [record_context] at hcarried
    exact hcarried.append ih

end Chain

/-! ### The flow of entries -/

section Flow

variable {writes : HttpRequest → Context → σ → List (String × Json)} {m m' : KeyMap Json}
  {v : Visit σ} {vs : List (Visit σ)}

theorem Flows.cons (hv : v.context.entries = m)
    (h : Flows writes (m.insertAll (v.contribution writes)) vs m') :
    Flows writes m (v :: vs) m' where
  found before u after hsplit := by
    cases before with
    | nil =>
      obtain ⟨rfl, -⟩ : v = u ∧ vs = after := by simpa using hsplit
      simpa using hv
    | cons first before =>
      obtain ⟨rfl, hvs⟩ : v = first ∧ vs = before ++ u :: after := by simpa using hsplit
      rw [h.found before u after hvs, List.flatMap_cons, KeyMap.insertAll_append]
  final := by rw [h.final, List.flatMap_cons, KeyMap.insertAll_append]

/-- Along a chain the contributions of the cases add up, if the executor only binds keys. -/
theorem Chained.flows {c : Collaborators σ ρ} (hwrites : c.WritesBy writes)
    {context final : Context} (h : Chained c context vs final) :
    Flows writes context.entries vs final.entries := by
  induction vs generalizing context with
  | nil =>
    have hfinal : final = context := h
    subst hfinal
    exact ⟨by simp, by simp⟩
  | cons v vs ih =>
    obtain ⟨rfl, hrest⟩ := h
    have hleft : (v.left c).entries = v.context.entries.insertAll (v.contribution writes) := by
      rw [Visit.left, hwrites, Visit.contribution, KeyMap.insertAll_append]
    exact .cons rfl (hleft ▸ ih hrest)

end Flow

theorem insertAll_seeds (d : RunDefinition) (given : KeyMap Json) :
    given.insertAll (seeds d) = startingEntries d given := by
  rw [seeds, KeyMap.insertAll_append, KeyMap.insertAll_flatMap]
  rfl

/-! ### The account -/

section Account

variable {c : Collaborators σ ρ} {w w' : World σ ρ} {legs : List (Leg σ)} {s : Stop}

/-- The test results of legs are those of their visits, and of the case that stopped the run. -/
theorem Tours.tests {entries : List SpecificationTestCases} (h : Tours c entries w legs s w') :
    (legs.map Leg.result).flatMap SpecificationResult.tests = caseResults (visitsOf legs) s := by
  induction h with
  | done => rfl
  | stop => simp
  | next carried toured ih =>
    rw [List.map_cons, List.flatMap_cons, ih]
    simp [caseResults]

theorem Tours.accounts {d : RunDefinition} (h : Tours c d.specTests w legs s w') :
    Accounts d (visitsOf legs) w'.context (answerOf legs s) := by
  cases s with
  | none =>
    refine .inl ⟨⟨_, rfl⟩, (h.all_visited rfl).symm, ?_⟩
    simpa [testsOf, answerOf, caseResults] using h.tests
  | some s =>
    obtain ⟨done, entry, later, ran, skipped, hentries, hts, hprep, -, -, hvisits⟩ :=
      h.stopped rfl
    refine .inr ⟨s.2, _, entry.baseUri, s.1, skipped.map (entry.baseUri, ·) ++ casesOf later,
      rfl, ?_, hprep, ?_⟩
    · simp [hentries, hts, hvisits]
    · simpa [testsOf, answerOf, caseResults] using h.tests

end Account

/-- Over a sound context a run that is not turned away hands over the requests of its cases, each
prepared over the context that the case in front of it left, the first over the starting entries.
If the executor only binds keys, each context is the first one with all that was added since. -/
theorem run_data_flow (c : Collaborators σ ρ) (tokens : Option ConsentTokens) (d : RunDefinition)
    (w : World σ ρ) (hsound : w.context.poisoned = false) :
    match requireTokens tokens with
    | .error _ => calls c tokens d w = [] ∧ (run c tokens d w).2.context = w.context
    | .ok _ => ∃ vs : List (Visit σ),
      calls c tokens d w = .certificates d.signingCert d.transportCert :: vs.map Visit.call ∧
      (∀ v ∈ vs, v.Sound c) ∧
      Accounts d vs (run c tokens d w).2.context (run c tokens d w).1 ∧
      Chained c { w.context with entries := startingEntries d w.context.entries } vs
        (run c tokens d w).2.context ∧
      ∀ writes, c.WritesBy writes → Flows writes (startingEntries d w.context.entries) vs
        (run c tokens d w).2.context.entries := by
  have h := ran c tokens d w
  generalize (run c tokens d w).1 = answer, (run c tokens d w).2 = left,
    calls c tokens d w = asked at h ⊢
  cases h with
  | turnedAway refused =>
    rw [refused]
    exact ⟨rfl, rfl⟩
  | unseeded granted poisoned => simp [hsound] at poisoned
  | @toured legs s _ granted sound toured =>
    rw [granted]
    have hchained := toured.chained
    simp only [seeded, insertAll_seeds] at hchained
    exact ⟨visitsOf legs, rfl, toured.sound, toured.accounts, hchained,
      fun writes hwrites => hchained.flows hwrites⟩

/-- An executor that answers every request with a consent, and binds a key of its own. -/
def consentExecutor : Collaborators Unit Unit where
  acceptCertificates _ _ s := (.ok (), s)
  execute request context s :=
    (.ok ⟨request.method, request.path, 201, .empty, Json.bytesOf "\x7b\"id\":\"7\"\x7d", 0⟩,
      { context with entries := context.entries.insert "host" (.string "bank") }, s)
  resolve _ s := (.ok fun _ => .ok [], s)

/-- A run that creates a consent, reads it, and then mentions what the failed reading would have
captured. -/
def consentRun : RunDefinition where
  discovery := ⟨"", "", "", none, none,
    some [⟨"", "", .ofList [("SigningCert", "k"), ("scope", "accounts")]⟩]⟩
  specTests := [⟨⟨"Consents", "", "v1", ""⟩, "https://bank", [
    ⟨"1", "create", ⟨"post", "/consents", .empty, some "$scope"⟩, ⟨201, false, []⟩,
      [⟨"consent", "$.id"⟩]⟩,
    ⟨"2", "read", ⟨"get", "/consents/$consent", .empty, some "$host $SigningCert"⟩,
      ⟨200, false, []⟩, [⟨"lost", "$.id"⟩]⟩,
    ⟨"3", "lose", ⟨"get", "/$lost", .empty, none⟩, ⟨200, false, []⟩, []⟩]⟩]
  signingCert := ⟨"public", "private"⟩
  transportCert := ⟨"public", "private"⟩

/-- The captured consent reaches the second request; what a failed case would have captured is
missing when the third case is prepared. -/
theorem run_data_flow_consent :
    (Context.empty.poisoned = false) ∧
    (∃ vs : List (Visit Unit),
      calls consentExecutor none consentRun ⟨.empty, (), (), []⟩ =
        .certificates consentRun.signingCert consentRun.transportCert :: vs.map Visit.call ∧
      Flows (fun _ _ _ => [("host", .string "bank")]) (startingEntries consentRun .empty) vs
        (run consentExecutor none consentRun ⟨.empty, (), (), []⟩).2.context.entries) ∧
    (calls consentExecutor none consentRun ⟨.empty, (), (), []⟩).filterMap (fun
      | .execute request _ _ => some (request.url, request.body)
      | .certificates _ _ => none) =
      [("https://bank/consents", some "accounts"), ("https://bank/consents/7", some "bank k")] := by
  refine ⟨rfl, ?_, by decide +kernel⟩
  obtain ⟨vs, hcalls, -, -, -, hflows⟩ :=
    run_data_flow consentExecutor none consentRun ⟨.empty, (), (), []⟩ rfl
  exact ⟨vs, hcalls, hflows _ fun _ _ _ => rfl⟩

end ConformanceSuite.Run
