import ConformanceSuite.Proofs.Run.Trace
import ConformanceSuite.Proofs.TestCase.Alike

/-!
# What a run tells of its secrets

Take two runs of definitions that differ only in certificates and in the values of replacements,
over contexts that differ only in values, so that whatever an endpoint mentions has the same value
in both; with an executor that answers by the method, the address and the number of a request. Then
the two runs tell the same events and answer the same, an abort with its error included:
`run_keeps_secrets`. Step by step the two worlds look alike, and a step that starts from such worlds
tells the same and leaves such worlds: `Abreast`.
-/

namespace ConformanceSuite

/-- The names that the endpoints of a definition mention. -/
def RunDefinition.endpointNames (d : RunDefinition) : List String :=
  d.specTests.flatMap fun entry =>
    entry.testCases.flatMap fun t => Template.mentioned t.input.endpoint

/-- The entries of all replacements of a definition, in order. -/
def RunDefinition.replacements (d : RunDefinition) : List (String × String) :=
  d.discovery.customTests.flatMap (·.replacements.entries)

/-- A definition without its certificates and without the values of its replacements. -/
def RunDefinition.redacted (d : RunDefinition) : RunDefinition :=
  { d with
    discovery := { d.discovery with
      customTests? := d.discovery.customTests?.map (List.map fun t =>
        { t with replacements := t.replacements.mapValues fun _ _ => "" }) }
    signingCert := ⟨"", ""⟩
    transportCert := ⟨"", ""⟩ }

/-- Two definitions that differ only in secrets: in certificates and in values of replacements that
no endpoint mentions, and no endpoint mentions a certificate. -/
structure RunDefinition.DifferInSecrets (d₁ d₂ : RunDefinition) : Prop where
  redacted : d₁.redacted = d₂.redacted
  replacements : ∀ key ∈ d₁.endpointNames,
    (KeyMap.ofList d₁.replacements).get? key = (KeyMap.ofList d₂.replacements).get? key
  signing : Run.signingCertKey ∉ d₁.endpointNames
  transport : Run.transportCertKey ∉ d₁.endpointNames

namespace Run

variable {σ ρ : Type}

/-- The state of an executor after it was handed requests, each over a context. -/
def Collaborators.after (c : Collaborators σ ρ) (executor : σ) :
    List (HttpRequest × Context) → σ :=
  List.foldl (fun s call => (c.execute call.1 call.2 s).2.2) executor

/-- From a state on, an executor leaves contexts as they are and answers by a function of the number
of requests before, the method and the address. -/
structure AnswersBy (c : Collaborators σ ρ) (executor : σ)
    (answer : Nat → String → String → Except ExchangeError HttpResponse) : Prop where
  answers : ∀ earlier request context,
    (c.execute request context (c.after executor earlier)).1 =
      answer earlier.length request.method request.url
  leaves : ∀ earlier request context,
    (c.execute request context (c.after executor earlier)).2.1 = context

/-- From two states, an executor answers the same to the certificates of two definitions, and after
that it answers by the same function. -/
def AnswersAlike (c : Collaborators σ ρ) (d₁ d₂ : RunDefinition) (s₁ s₂ : σ) : Prop :=
  (c.acceptCertificates d₁.signingCert d₁.transportCert s₁).1 =
      (c.acceptCertificates d₂.signingCert d₂.transportCert s₂).1 ∧
    ∃ answer, AnswersBy c (c.acceptCertificates d₁.signingCert d₁.transportCert s₁).2 answer ∧
      AnswersBy c (c.acceptCertificates d₂.signingCert d₂.transportCert s₂).2 answer

/-- Two worlds that look alike: their contexts do, their executors answer by the same function from
here on, and their resolvers are in the same state. -/
structure World.Alike (c : Collaborators σ ρ) (shown : List String) (w₁ w₂ : World σ ρ) :
    Prop where
  context : w₁.context.Alike shown w₂.context
  executor : ∃ answer, AnswersBy c w₁.executor answer ∧ AnswersBy c w₂.executor answer
  resolver : w₁.resolver = w₂.resolver

/-- Two worlds went on to worlds that look alike, and the same was told on both ways. -/
structure Abreast (c : Collaborators σ ρ) (shown : List String) (w₁ w₂ w₁' w₂' : World σ ρ) :
    Prop where
  alike : w₁'.Alike c shown w₂'
  told : ∃ events, w₁'.events = w₁.events ++ events ∧ w₂'.events = w₂.events ++ events

section Steps

variable {c : Collaborators σ ρ} {shown : List String} {w₁ w₂ w₁' w₂' w₁'' w₂'' : World σ ρ}

theorem Abreast.trans (h : Abreast c shown w₁ w₂ w₁' w₂')
    (h' : Abreast c shown w₁' w₂' w₁'' w₂'') : Abreast c shown w₁ w₂ w₁'' w₂'' := by
  obtain ⟨events, h₁, h₂⟩ := h.told
  obtain ⟨later, h₁', h₂'⟩ := h'.told
  refine ⟨h'.alike, events ++ later, ?_, ?_⟩
  · rw [h₁', h₁, List.append_assoc]
  · rw [h₂', h₂, List.append_assoc]

theorem World.Alike.record (h : w₁.Alike c shown w₂) (e : Event) :
    Abreast c shown w₁ w₂ (w₁.record e) (w₂.record e) :=
  ⟨⟨h.context, h.executor, h.resolver⟩, [e], rfl, rfl⟩

/-- After one more request an executor still answers by a function, with the numbers shifted. -/
theorem AnswersBy.next {executor : σ}
    {answer : Nat → String → String → Except ExchangeError HttpResponse}
    (h : AnswersBy c executor answer) (request : HttpRequest) (context : Context) :
    AnswersBy c (c.execute request context executor).2.2 fun n => answer (n + 1) where
  answers earlier := h.answers ((request, context) :: earlier)
  leaves earlier := h.leaves ((request, context) :: earlier)

theorem AnswersBy.first {executor : σ}
    {answer : Nat → String → String → Except ExchangeError HttpResponse}
    (h : AnswersBy c executor answer) (request : HttpRequest) (context : Context) :
    c.execute request context executor =
      (answer 0 request.method request.url, context, (c.execute request context executor).2.2) :=
  Prod.ext (h.answers [] request context) (Prod.ext (h.leaves [] request context) rfl)

/-- The verdict on a response is the same over contexts that look alike, and so do the contexts that
are left. -/
theorem validate_alike {c₁ c₂ : Context} (h : c₁.Alike shown c₂) (t : TestCase)
    (response : HttpResponse) (validator : Option ResponseJudge) :
    (t.validate response c₁ validator).1 = (t.validate response c₂ validator).1 ∧
      (t.validate response c₁ validator).2.Alike shown (t.validate response c₂ validator).2 := by
  simp only [TestCase.validate]
  split
  · exact ⟨rfl, h⟩
  · split
    · exact ⟨rfl, h⟩
    · rename_i entries _
      have hput := h.putAll (.refl entries)
      generalize c₁.putAll entries = x, c₂.putAll entries = y at hput
      cases hput with
      | error e => exact ⟨rfl, h⟩
      | ok related => exact ⟨rfl, related⟩
    · exact ⟨rfl, h⟩
  · exact ⟨rfl, h⟩

theorem judge_alike (h : w₁.Alike c shown w₂) (t : TestCase) (response : HttpResponse)
    (validator : Option ResponseJudge) :
    (judge t response validator w₁).1 = (judge t response validator w₂).1 ∧
      (judge t response validator w₁).2.Alike c shown (judge t response validator w₂).2 := by
  obtain ⟨hverdict, hcontext⟩ := validate_alike h.context t response validator
  refine ⟨?_, hcontext, h.executor, h.resolver⟩
  simp only [judge, hverdict]

theorem resolveOnce_alike (h : w₁.Alike c shown w₂) (spec : ApiSpecification) (r : Resolution) :
    (resolveOnce c spec r w₁).1 = (resolveOnce c spec r w₂).1 ∧
      (resolveOnce c spec r w₁).2.Alike c shown (resolveOnce c spec r w₂).2 := by
  cases r with
  | some answer => exact ⟨rfl, h⟩
  | none =>
    have hresolver := h.resolver
    exact ⟨by simp only [resolveOnce, hresolver], h.context, h.executor,
      by simp only [resolveOnce, hresolver]⟩

/-- Requests with the same method and address come to the same finding. -/
theorem attempt_alike (h : w₁.Alike c shown w₂) (spec : ApiSpecification) (t : TestCase)
    {request₁ request₂ : HttpRequest}
    (hline : request₁.method = request₂.method ∧ request₁.url = request₂.url) (r : Resolution) :
    (attempt c spec t request₁ r w₁).1 = (attempt c spec t request₂ r w₂).1 ∧
      (attempt c spec t request₁ r w₁).2.1 = (attempt c spec t request₂ r w₂).2.1 ∧
      (attempt c spec t request₁ r w₁).2.2.Alike c shown (attempt c spec t request₂ r w₂).2.2 := by
  obtain ⟨answer, hby₁, hby₂⟩ := h.executor
  have hexecute₁ := hby₁.first request₁ w₁.context
  have hexecute₂ := hby₂.first request₂ w₂.context
  have hsent : World.Alike c shown
      { w₁ with executor := (c.execute request₁ w₁.context w₁.executor).2.2 }
      { w₂ with executor := (c.execute request₂ w₂.context w₂.executor).2.2 } :=
    ⟨h.context, ⟨_, hby₁.next request₁ w₁.context, hby₂.next request₂ w₂.context⟩, h.resolver⟩
  rw [← hline.1, ← hline.2] at hexecute₂
  rw [attempt, attempt, hexecute₁, hexecute₂]
  cases answer 0 request₁.method request₁.url with
  | error e => exact ⟨rfl, rfl, hsent⟩
  | ok response =>
    by_cases hschema : t.expect.schemaValidation = true
    · obtain ⟨hanswer, hresolved⟩ := resolveOnce_alike hsent spec r
      simp only [hschema, if_true]
      rw [← hanswer]
      cases (resolveOnce c spec r _).1 with
      | error e => exact ⟨rfl, rfl, hresolved⟩
      | ok validator =>
        obtain ⟨hfinding, hjudged⟩ := judge_alike hresolved t response (some validator)
        exact ⟨hfinding, rfl, hjudged⟩
    · obtain ⟨hfinding, hjudged⟩ := judge_alike hsent t response none
      simp only [hschema, Bool.false_eq_true, if_false]
      exact ⟨hfinding, trivial, hjudged⟩

/-- An attempt tells nothing by itself. -/
theorem attempt_events (c : Collaborators σ ρ) (spec : ApiSpecification) (t : TestCase)
    (request : HttpRequest) (r : Resolution) (w : World σ ρ) :
    (attempt c spec t request r w).2.2.events = w.events :=
  (Attempted.of_eq rfl).events

end Steps

section Runs

variable {c : Collaborators σ ρ} {shown : List String} {w₁ w₂ : World σ ρ}

/-- Running cases whose endpoints mention only what is shown gives the same results and the same
error, and tells the same. -/
theorem runCases_alike (entry : SpecificationTestCases) {ts : List TestCase}
    (hshown : ∀ t ∈ ts, ∀ name ∈ Template.mentioned t.input.endpoint, name ∈ shown)
    (h : w₁.Alike c shown w₂) (r : Resolution) (result : SpecificationResult) :
    (runCases c entry ts r result w₁).1 = (runCases c entry ts r result w₂).1 ∧
      (runCases c entry ts r result w₁).2.1 = (runCases c entry ts r result w₂).2.1 ∧
      Abreast c shown w₁ w₂ (runCases c entry ts r result w₁).2.2
        (runCases c entry ts r result w₂).2.2 := by
  induction ts generalizing r result w₁ w₂ with
  | nil => exact ⟨rfl, rfl, h, [], by simp [runCases]⟩
  | cons t rest ih =>
    obtain ⟨hfirst, hrest⟩ := List.forall_mem_cons.1 hshown
    have hprepare := TestCase.prepare_alike h.context t hfirst entry.baseUri
    rw [runCases, runCases]
    generalize t.prepare w₁.context entry.baseUri = x, t.prepare w₂.context entry.baseUri = y
      at hprepare
    cases hprepare with
    | error e => exact ⟨rfl, rfl, h.record _⟩
    | @ok request₁ request₂ hline =>
      obtain ⟨hfinding, hresolution, halike⟩ := attempt_alike h entry.specification t hline r
      have hevents₁ := attempt_events c entry.specification t request₁ r w₁
      have hevents₂ := attempt_events c entry.specification t request₂ r w₂
      have hsent : Abreast c shown w₁ w₂ (attempt c entry.specification t request₁ r w₁).2.2
          (attempt c entry.specification t request₂ r w₂).2.2 :=
        ⟨halike, [], by simp [hevents₁], by simp [hevents₂]⟩
      have hrecorded := hsent.trans (halike.record
        (.caseFinished entry.specification.name t
          (attempt c entry.specification t request₁ r w₁).1))
      simp only [← hfinding, ← hresolution]
      obtain ⟨hresult, herror, hrun⟩ := ih hrest hrecorded.alike _ _
      exact ⟨hresult, herror, hrecorded.trans hrun⟩

theorem runSpecifications_alike {entries : List SpecificationTestCases}
    (hshown : ∀ entry ∈ entries, ∀ t ∈ entry.testCases,
      ∀ name ∈ Template.mentioned t.input.endpoint, name ∈ shown)
    (h : w₁.Alike c shown w₂) :
    (runSpecifications c entries w₁).1 = (runSpecifications c entries w₂).1 ∧
      (runSpecifications c entries w₁).2.1 = (runSpecifications c entries w₂).2.1 ∧
      Abreast c shown w₁ w₂ (runSpecifications c entries w₁).2.2
        (runSpecifications c entries w₂).2.2 := by
  induction entries generalizing w₁ w₂ with
  | nil => exact ⟨rfl, rfl, h, [], by simp [runSpecifications]⟩
  | cons entry rest ih =>
    obtain ⟨hfirst, hrest⟩ := List.forall_mem_cons.1 hshown
    have hstarted := h.record (.specificationStart entry.specification.name)
    obtain ⟨hresult, herror, hcases⟩ := runCases_alike entry hfirst hstarted.alike none
      (.ofSpecification entry.specification)
    have hentry : Abreast c shown w₁ w₂ (runEntry c entry w₁).2.2 (runEntry c entry w₂).2.2 :=
      hstarted.trans hcases
    change (runEntry c entry w₁).1 = (runEntry c entry w₂).1 at hresult
    change (runEntry c entry w₁).2.1 = (runEntry c entry w₂).2.1 at herror
    rw [runSpecifications, runSpecifications]
    generalize runEntry c entry w₁ = left₁, runEntry c entry w₂ = left₂
      at hresult herror hentry
    obtain ⟨result, stop, w₁'⟩ := left₁
    obtain ⟨_, _, w₂'⟩ := left₂
    obtain ⟨rfl, rfl⟩ : result = _ ∧ stop = _ := ⟨hresult, herror⟩
    cases stop with
    | some e => exact ⟨rfl, rfl, hentry⟩
    | none =>
      obtain ⟨hresults, herrors, hspecifications⟩ := ih hrest hentry.alike
      exact ⟨congrArg (result :: ·) hresults, herrors, hentry.trans hspecifications⟩

end Runs

/-! ### Definitions that differ in secrets -/

section Definitions

variable {c : Collaborators σ ρ} {d₁ d₂ : RunDefinition}

theorem specTests_of_redacted (h : d₁.redacted = d₂.redacted) : d₁.specTests = d₂.specTests := by
  show d₁.redacted.specTests = d₂.redacted.specTests
  rw [h]

theorem keys_replacements (d : RunDefinition) :
    d.replacements.map Prod.fst = d.redacted.replacements.map Prod.fst := by
  have hmap : ∀ ts : List CustomTest,
      (ts.flatMap (·.replacements.entries)).map Prod.fst =
        ((ts.map fun t => { t with replacements := t.replacements.mapValues fun _ _ => "" }).flatMap
          (·.replacements.entries)).map Prod.fst := by
    intro ts
    simp only [List.map_flatMap, List.flatMap_map, KeyMap.mapValues, List.map_map]
    rfl
  simp only [RunDefinition.replacements, RunDefinition.redacted, DiscoveryDocument.customTests]
  cases d.discovery.customTests? with
  | none => rfl
  | some ts => exact hmap ts

theorem seeds_eq (d : RunDefinition) :
    seeds d = [(signingCertKey, d.signingCert.contextValue),
      (transportCertKey, d.transportCert.contextValue)] ++
        d.replacements.map fun e => (e.1, Json.string e.2) := by
  rw [seeds, RunDefinition.replacements, List.map_flatMap]

/-- A name that is no certificate's is seeded with its replacement. -/
theorem get?_seeds (d : RunDefinition) {key : String} (hsigning : signingCertKey ≠ key)
    (htransport : transportCertKey ≠ key) :
    (KeyMap.ofList (seeds d)).get? key =
      ((KeyMap.ofList d.replacements).get? key).map Json.string := by
  have hcertificates : (KeyMap.ofList [(signingCertKey, d.signingCert.contextValue),
      (transportCertKey, d.transportCert.contextValue)]).get? key = none := by
    simp [KeyMap.ofList, KeyMap.get?_insert, hsigning, htransport]
  rw [seeds_eq, KeyMap.ofList, KeyMap.insertAll_append, KeyMap.get?_insertAll_or,
    KeyMap.get?_ofList_map, ← KeyMap.ofList, hcertificates, Option.or_none]

/-- Definitions that differ in secrets seed the same keys, with the same values under those that
endpoints mention. -/
theorem seeds_alike (h : d₁.DifferInSecrets d₂) :
    KeyMap.EntriesAlike d₁.endpointNames (seeds d₁) (seeds d₂) where
  keys := by
    have hkeys : d₁.replacements.map Prod.fst = d₂.replacements.map Prod.fst := by
      rw [keys_replacements d₁, keys_replacements d₂, h.redacted]
    have hstrings : ∀ l : List (String × String),
        (l.map fun e => (e.1, Json.string e.2)).map Prod.fst = l.map Prod.fst := by simp
    rw [seeds_eq, seeds_eq, List.map_append, List.map_append, hstrings, hstrings, hkeys]
    rfl
  values key hkey := by
    have hsigning : signingCertKey ≠ key := fun heq => h.signing (heq ▸ hkey)
    have htransport : transportCertKey ≠ key := fun heq => h.transport (heq ▸ hkey)
    rw [get?_seeds d₁ hsigning htransport, get?_seeds d₂ hsigning htransport,
      h.replacements key hkey]

/-- Certificates are shown to the executor with the same answer, and the same is told of it. -/
theorem offerCertificates_alike {shown : List String} {w₁ w₂ : World σ ρ}
    (hcontext : w₁.context.Alike shown w₂.context) (hresolver : w₁.resolver = w₂.resolver)
    (hanswers : AnswersAlike c d₁ d₂ w₁.executor w₂.executor) :
    Abreast c shown w₁ w₂ (offerCertificates c d₁ w₁) (offerCertificates c d₂ w₂) := by
  obtain ⟨hsame, hexecutes⟩ := hanswers
  rw [offerCertificates, offerCertificates]
  generalize c.acceptCertificates d₁.signingCert d₁.transportCert w₁.executor = x,
    c.acceptCertificates d₂.signingCert d₂.transportCert w₂.executor = y at hsame hexecutes
  obtain ⟨answer, s₁⟩ := x
  obtain ⟨_, s₂⟩ := y
  obtain rfl : answer = _ := hsame
  cases answer with
  | ok _ => exact ⟨⟨hcontext, hexecutes, hresolver⟩, [], by simp⟩
  | error e => exact ⟨⟨hcontext, hexecutes, hresolver⟩, [.certificatesRejected e], rfl, rfl⟩

/-- Two runs of definitions that differ only in secrets, over contexts that look alike to endpoints,
with collaborators that answer them alike, tell the same events and give the same answer. -/
theorem run_keeps_secrets (c : Collaborators σ ρ) (tokens : Option ConsentTokens)
    {d₁ d₂ : RunDefinition} {w₁ w₂ : World σ ρ} (definitions : d₁.DifferInSecrets d₂)
    (contexts : w₁.context.Alike d₁.endpointNames w₂.context)
    (resolvers : w₁.resolver = w₂.resolver)
    (executors : AnswersAlike c d₁ d₂ w₁.executor w₂.executor) :
    (∃ told, (run c tokens d₁ w₁).2.events = w₁.events ++ told ∧
      (run c tokens d₂ w₂).2.events = w₂.events ++ told) ∧
      (run c tokens d₁ w₁).1 = (run c tokens d₂ w₂).1 := by
  rw [run, run]
  cases requireTokens tokens with
  | error cause => exact ⟨⟨_, rfl, rfl⟩, rfl⟩
  | ok _ =>
    have hoffered := offerCertificates_alike contexts resolvers executors
    have hseeded := hoffered.alike.context.putAll (seeds_alike definitions)
    simp only
    generalize (offerCertificates c d₁ w₁).context.putAll (seeds d₁) = x,
      (offerCertificates c d₂ w₂).context.putAll (seeds d₂) = y at hseeded
    cases hseeded with
    | error e =>
      exact ⟨(hoffered.trans (hoffered.alike.record _)).told, rfl⟩
    | @ok c₁ c₂ related =>
      have hshown : ∀ entry ∈ d₁.specTests, ∀ t ∈ entry.testCases,
          ∀ name ∈ Template.mentioned t.input.endpoint, name ∈ d₁.endpointNames :=
        fun entry hentry t ht name hname =>
          List.mem_flatMap.2 ⟨entry, hentry, List.mem_flatMap.2 ⟨t, ht, hname⟩⟩
      have hworlds : World.Alike c d₁.endpointNames
          { offerCertificates c d₁ w₁ with context := c₁ }
          { offerCertificates c d₂ w₂ with context := c₂ } :=
        ⟨related, hoffered.alike.executor, hoffered.alike.resolver⟩
      obtain ⟨hresults, herror, hrun⟩ := runSpecifications_alike hshown hworlds
      have hran := hoffered.trans ⟨hworlds, [], by simp, by simp⟩ |>.trans hrun
      simp only
      rw [← specTests_of_redacted definitions.redacted]
      generalize runSpecifications c d₁.specTests { offerCertificates c d₁ w₁ with context := c₁ } =
        left₁, runSpecifications c d₁.specTests { offerCertificates c d₂ w₂ with context := c₂ } =
        left₂ at hresults herror hran
      obtain ⟨results, stop, w₁'⟩ := left₁
      obtain ⟨_, _, w₂'⟩ := left₂
      obtain ⟨rfl, rfl⟩ : results = _ ∧ stop = _ := ⟨hresults, herror⟩
      cases stop <;> exact ⟨hran.told, rfl⟩

end Definitions

/-! ### A run with two owners -/

/-- An executor that answers requests with the responses it was given, one after another. -/
def scripted : Collaborators (List HttpResponse) Unit where
  acceptCertificates _ _ responses := (.ok (), responses)
  execute _ context
    | [] => (.error (.transport "no more responses"), context, [])
    | response :: rest => (.ok response, context, rest)
  resolve _ s := (.ok fun _ => .ok [], s)

theorem scripted_after (responses : List HttpResponse) (earlier : List (HttpRequest × Context)) :
    scripted.after responses earlier = responses.drop earlier.length := by
  induction earlier generalizing responses with
  | nil => rfl
  | cons call rest ih =>
    rw [Collaborators.after, List.foldl_cons]
    cases responses with
    | nil => exact (ih []).trans (by simp)
    | cons response responses => exact ih responses

theorem scripted_answersBy (responses : List HttpResponse) :
    AnswersBy scripted responses fun n _ _ =>
      match responses[n]? with
      | some response => .ok response
      | none => .error (.transport "no more responses") where
  answers earlier _ _ := by
    rw [scripted_after, ← List.head?_drop]
    cases responses.drop earlier.length <;> rfl
  leaves earlier _ _ := by
    rw [scripted_after]
    cases responses.drop earlier.length <;> rfl

/-- A run that creates a consent with a secret of its own, reads it, and then mentions a variable
that is not there. -/
def ownedRun (secret : String) : RunDefinition where
  discovery := ⟨"", "", "", none, none,
    some [⟨"", "", .ofList [("bank", "b1"), ("secret", secret)]⟩]⟩
  specTests := [⟨⟨"Consents", "", "v1", ""⟩, "https://bank", [
    ⟨"1", "create", ⟨"post", "/$bank/consents", .ofList [("authorization", "$token")],
      some "$secret"⟩, ⟨201, false, []⟩, [⟨"consent", "$.id"⟩]⟩,
    ⟨"2", "read", ⟨"get", "/$bank/consents/$consent", .empty, none⟩, ⟨200, false, []⟩, []⟩,
    ⟨"3", "lose", ⟨"get", "/$bank", .empty, some "$lost"⟩, ⟨200, false, []⟩, []⟩]⟩]
  signingCert := ⟨"public", secret⟩
  transportCert := ⟨secret, "private"⟩

/-- The world of an owner, who has a token. -/
def ownedWorld (token : String) : World (List HttpResponse) Unit where
  context := .ofList [("token", .string token)]
  executor := [⟨"POST", "/b1/consents", 201, .empty, Json.bytesOf "\x7b\"id\":\"7\"\x7d", 0⟩]
  resolver := ()
  events := []

theorem ownedRun_differInSecrets : (ownedRun "s1").DifferInSecrets (ownedRun "s2") := by
  constructor <;> decide +kernel

theorem ownedWorld_alike :
    (ownedWorld "t1").context.Alike (ownedRun "s1").endpointNames (ownedWorld "t2").context where
  poisoned := rfl
  bound key := by
    show (KeyMap.empty.insertAll [("token", Json.string "t1")]).contains key =
      (KeyMap.empty.insertAll [("token", Json.string "t2")]).contains key
    rw [KeyMap.contains_insertAll, KeyMap.contains_insertAll]
    rfl
  values := by decide +kernel

/-- Two owners with other secrets, other tokens and other certificates are told the same. -/
theorem run_keeps_secrets_owned :
    (ownedRun "s1").DifferInSecrets (ownedRun "s2") ∧
      (ownedWorld "t1").context.Alike (ownedRun "s1").endpointNames (ownedWorld "t2").context ∧
      AnswersAlike scripted (ownedRun "s1") (ownedRun "s2") (ownedWorld "t1").executor
        (ownedWorld "t2").executor ∧
      (ownedRun "s1" ≠ ownedRun "s2" ∧ (ownedWorld "t1").context ≠ (ownedWorld "t2").context) ∧
      (∃ told, (run scripted none (ownedRun "s1") (ownedWorld "t1")).2.events = told ∧
        (run scripted none (ownedRun "s2") (ownedWorld "t2")).2.events = told) ∧
      (run scripted none (ownedRun "s1") (ownedWorld "t1")).1 =
        (run scripted none (ownedRun "s2") (ownedWorld "t2")).1 := by
  have hexecutors : AnswersAlike scripted (ownedRun "s1") (ownedRun "s2")
      (ownedWorld "t1").executor (ownedWorld "t2").executor :=
    ⟨rfl, _, scripted_answersBy _, scripted_answersBy _⟩
  have hdiffer : ownedRun "s1" ≠ ownedRun "s2" ∧
      (ownedWorld "t1").context ≠ (ownedWorld "t2").context := by decide +kernel
  exact ⟨ownedRun_differInSecrets, ownedWorld_alike, hexecutors, hdiffer,
    run_keeps_secrets scripted none ownedRun_differInSecrets ownedWorld_alike rfl hexecutors⟩

end Run

end ConformanceSuite
