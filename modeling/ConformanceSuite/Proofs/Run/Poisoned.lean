import ConformanceSuite.Proofs.Run.DataFlow
import ConformanceSuite.Proofs.TestCase.Preparation

/-!
# Runs over a poisoned context

No operation changes a poisoned context, and no case passes over it. A case that mentions no
variable is sent and fails; the first one that mentions a variable, or has a blank endpoint, cannot
be prepared and aborts the run: `poisoned_never_passes`.
-/

namespace ConformanceSuite

/-! ### Operations on a context -/

namespace Context

/-- What the operations on a context can make of it: they bind all keys of a list or none, and a
writer may fail half-way. -/
inductive Becomes (context : Context) : Context → Prop
  | same : Becomes context context
  | bound {middle left : Context} {entries : List (String × Json)}
      (before : Becomes context middle) (put : middle.putAll entries = .ok left) :
      Becomes context left
  | failed {left : Context} (before : Becomes context left) : Becomes context left.poison

theorem Becomes.eq_of_poisoned {context left : Context} (h : context.Becomes left)
    (hpoisoned : context.poisoned = true) : left = context := by
  induction h with
  | same => rfl
  | bound before put ih => simp [ih, putAll, hpoisoned] at put
  | failed before ih =>
    rw [ih]
    obtain ⟨entries, poisoned⟩ := context
    cases hpoisoned
    rfl

end Context

/-! ### Preparation over a poisoned context -/

section Unless

variable {α β : Type} {names names' : List String} {x : α}

/-- A value, unless there are names to look for, which a poisoned context refuses. -/
def unlessNamed (names : List String) (x : α) : Except RequestError α :=
  if names = [] then .ok x else .error (.context .poisoned)

theorem unlessNamed_bind (f : α → β) :
    (unlessNamed names x >>= fun a => unlessNamed names' (f a)) =
      unlessNamed (names ++ names') (f x) := by
  unfold unlessNamed
  by_cases h : names = []
  · simp only [h, if_true, List.nil_append]
    rfl
  · rw [if_neg h, if_neg (mt List.append_eq_nil_iff.1 (mt And.left h))]
    rfl

theorem unlessNamed_bind_ok (f : α → β) :
    (unlessNamed names x >>= fun a => .ok (f a)) = unlessNamed names (f x) := by
  unfold unlessNamed
  split <;> rfl

theorem unlessNamed_map (f : α → β) :
    (unlessNamed names x).map f = unlessNamed names (f x) := by
  unfold unlessNamed
  split <;> rfl

end Unless

namespace TestCase

open Template

/-- A test case that can be prepared without looking at the context: its endpoint is not blank, and
it mentions no variable. -/
structure IsPlain (t : TestCase) : Prop where
  endpoint : Text.isBlank t.input.endpoint = false
  mentions : ∀ name, ¬ t.Mentions name

/-- Why a test case cannot be prepared over a poisoned context. -/
inductive StopsPoisoned (t : TestCase) : RequestError → Prop
  | blank (endpoint : Text.isBlank t.input.endpoint = true) :
      StopsPoisoned t (.missingEndpoint t.id)
  | mention {name : String} (endpoint : Text.isBlank t.input.endpoint = false)
      (mentions : t.Mentions name) : StopsPoisoned t (.context .poisoned)

/-- The request of a test case whose templates stand for themselves. -/
def verbatim (t : TestCase) (base : String) : HttpRequest where
  method := Text.upperAscii t.input.method
  url := Url.join base t.input.endpoint
  path := Url.path (Url.join base t.input.endpoint)
  headers := t.input.headers
  body := t.input.body

variable {context : Context} {t : TestCase} {base : String}

theorem fillIn_of_poisoned (hpoisoned : context.poisoned = true) (template : String) :
    fillIn context template = unlessNamed (reading template).names template := by
  have hdecides := (of_iff_eq_reading.2 rfl : (reading template).Of template).decides context
  unfold fillIn unlessNamed
  split
  · rename_i hnames
    rw [hdecides.plain hnames]
    rfl
  · rename_i hnames
    rw [hdecides.poisoned hpoisoned hnames]
    rfl

theorem fillHeaders_of_poisoned (hpoisoned : context.poisoned = true)
    (headers : List (String × String)) :
    fillHeaders context headers =
      unlessNamed (headers.flatMap fun header => (reading header.2).names) headers := by
  induction headers with
  | nil => rfl
  | cons header rest ih =>
    rw [fillHeaders, fillIn_of_poisoned hpoisoned, ih]
    simp only [unlessNamed_bind_ok, unlessNamed_bind, List.flatMap_cons]

theorem fillBody_of_poisoned (hpoisoned : context.poisoned = true) (body : Option String) :
    fillBody context body =
      unlessNamed (body.toList.flatMap fun template => (reading template).names) body := by
  cases body with
  | none => rfl
  | some template =>
    rw [fillBody, fillIn_of_poisoned hpoisoned, unlessNamed_map, Option.toList_some,
      List.flatMap_singleton]

/-- Over a poisoned context preparation fails at the first name, if there is one. -/
theorem prepare_of_poisoned (hpoisoned : context.poisoned = true) (t : TestCase) (base : String) :
    t.prepare context base =
      if Text.isBlank t.input.endpoint then .error (.missingEndpoint t.id)
      else unlessNamed t.mentioned (t.verbatim base) := by
  rw [prepare]
  split
  · rfl
  · simp only [fillIn_of_poisoned hpoisoned, fillHeaders_of_poisoned hpoisoned,
      fillBody_of_poisoned hpoisoned, unlessNamed_bind_ok, unlessNamed_bind, KeyMap.ofList_entries]
    rw [mentioned, templates, List.flatMap_cons, List.flatMap_append, List.flatMap_map]
    rfl

theorem isPlain_of_prepare {request : HttpRequest} (hpoisoned : context.poisoned = true)
    (h : t.prepare context base = .ok request) : t.IsPlain := by
  rw [prepare_of_poisoned hpoisoned] at h
  split at h
  · cases h
  · rename_i hblank
    unfold unlessNamed at h
    split at h
    · rename_i hnames
      refine ⟨by simpa using hblank, fun name hmentions => ?_⟩
      have hname := mem_mentioned_iff.2 hmentions
      rw [hnames] at hname
      cases hname
    · cases h

theorem stopsPoisoned_of_prepare {e : RequestError} (hpoisoned : context.poisoned = true)
    (h : t.prepare context base = .error e) : t.StopsPoisoned e := by
  rw [prepare_of_poisoned hpoisoned] at h
  split at h
  · rename_i hblank
    cases h
    exact .blank hblank
  · rename_i hblank
    unfold unlessNamed at h
    split at h
    · cases h
    · rename_i hnames
      cases h
      obtain ⟨name, hname⟩ := List.exists_mem_of_ne_nil _ hnames
      exact .mention (by simpa using hblank) (mem_mentioned_iff.1 hname)

end TestCase

namespace Run

variable {σ ρ : Type}

/-- All that an executor does to a context it does by operations on it. -/
def Collaborators.Operates (c : Collaborators σ ρ) : Prop :=
  ∀ (request : HttpRequest) (context : Context) (state : σ),
    context.Becomes (c.execute request context state).2.1

/-- The cases that follow over a poisoned context, those of them that are reached, and the failure
that aborts the run, if one does: plain cases are passed over, and the first other one aborts. -/
inductive Follows : List (String × TestCase) → List TestCase → Option RequestError → Prop
  | done : Follows [] [] none
  | aborted {base : String} {t : TestCase} {later : List (String × TestCase)} {e : RequestError}
      (stops : t.StopsPoisoned e) : Follows ((base, t) :: later) [t] (some e)
  | next {base : String} {t : TestCase} {later : List (String × TestCase)} {reached : List TestCase}
      {abort : Option RequestError} (plain : t.IsPlain) (rest : Follows later reached abort) :
      Follows ((base, t) :: later) (t :: reached) abort

/-- A run is aborted by a failure of preparation, or goes through. -/
def AbortedBy : Option RequestError → Except Abort (List SpecificationResult) → Prop
  | none, answer => ∃ results, answer = .ok results
  | some e, answer => ∃ results, answer = .error ⟨.prepare e, results⟩

/-! ### Visits over a poisoned context -/

/-- A visit passes only if the executor leaves a context that is not poisoned. -/
def Visit.PassesUnpoisoned (c : Collaborators σ ρ) (v : Visit σ) : Prop :=
  v.finding.pass = true → (c.execute v.request v.context v.executor).2.1.poisoned = false

section Visits

variable {c : Collaborators σ ρ} {w w' : World σ ρ} {s : Stop} {context final : Context}
  {v : Visit σ} {vs : List (Visit σ)}

theorem Carries.passesUnpoisoned {entry : SpecificationTestCases} {ts : List TestCase}
    {r : Resolution} (h : Carries c entry ts r w vs s w') : ∀ v ∈ vs, v.PassesUnpoisoned c := by
  induction h with
  | done => simp
  | stop => simp
  | visit prepared attempted carried ih =>
    exact List.forall_mem_cons.2 ⟨fun hpass => ((Attempted.of_eq attempted).passed hpass).1, ih⟩

theorem Tours.passesUnpoisoned {entries : List SpecificationTestCases} {legs : List (Leg σ)}
    (h : Tours c entries w legs s w') : ∀ v ∈ visitsOf legs, v.PassesUnpoisoned c := by
  induction h with
  | done => simp
  | stop carried => simpa using carried.passesUnpoisoned
  | next carried toured ih => exact List.forall_mem_append.2 ⟨carried.passesUnpoisoned, ih⟩

/-- A visit that the executor leaves a poisoned context to fails and captures nothing. -/
theorem Visit.PassesUnpoisoned.left_eq (h : v.PassesUnpoisoned c)
    (hpoisoned : (c.execute v.request v.context v.executor).2.1.poisoned = true) :
    v.finding.pass = false ∧ v.left c = (c.execute v.request v.context v.executor).2.1 := by
  have hfails : v.finding.pass = false := by
    rw [← Bool.not_eq_true]
    intro hpass
    rw [h hpass] at hpoisoned
    cases hpoisoned
  simp [Visit.left, Finding.captured, hfails]

theorem Chained.behind {before after : List (Visit σ)}
    (h : Chained c context (before ++ v :: after) final) : Chained c (v.left c) after final := by
  induction before generalizing context with
  | nil => exact h.2
  | cons first before ih => exact ih h.2

/-- Every visit over a poisoned context fails, and leaves it as it is. -/
theorem Chained.of_poisoned (hc : c.Operates) (h : Chained c context vs final)
    (hpasses : ∀ v ∈ vs, v.PassesUnpoisoned c) (hpoisoned : context.poisoned = true) :
    final = context ∧ ∀ v ∈ vs, v.context = context ∧ v.finding.pass = false := by
  induction vs with
  | nil => exact ⟨h, List.forall_mem_nil _⟩
  | cons v rest ih =>
    obtain ⟨rfl, hrest⟩ := h
    obtain ⟨hv, hpasses⟩ := List.forall_mem_cons.1 hpasses
    have hsame := (hc v.request v.context v.executor).eq_of_poisoned hpoisoned
    obtain ⟨hfails, hleft⟩ := hv.left_eq (hsame.symm ▸ hpoisoned)
    rw [hleft, hsame] at hrest
    obtain ⟨hfinal, hall⟩ := ih hrest hpasses
    exact ⟨hfinal, List.forall_mem_cons.2 ⟨⟨rfl, hfails⟩, hall⟩⟩

end Visits

/-! ### Runs -/

theorem Follows.append {front rest : List (String × TestCase)} {reached : List TestCase}
    {abort : Option RequestError} (hfront : ∀ case ∈ front, case.2.IsPlain)
    (h : Follows rest reached abort) :
    Follows (front ++ rest) (front.map Prod.snd ++ reached) abort := by
  induction front with
  | nil => exact h
  | cons case front ih =>
    obtain ⟨hplain, hfront⟩ := List.forall_mem_cons.1 hfront
    exact .next hplain (ih hfront)

/-- What a run makes of the cases from the one on that left a context poisoned: it is reported as
failed, and so are those behind it that are reached; each of them but one that aborts the run was
sent over the poisoned context, which is also the last one. -/
structure FailsFrom (left : Context) (t : TestCase) (later : List (String × TestCase))
    (earlier : List TestResult) (back : List (Call σ)) (reached : List TestCase)
    (abort : Option RequestError) (answer : Except Abort (List SpecificationResult))
    (final : Context) : Prop where
  follows : Follows later reached abort
  aborted : AbortedBy abort answer
  reported : testsOf answer = earlier ++ (t :: reached).map (resultOf · false)
  sent : back.length + abort.toList.length = reached.length
  contexts : ∀ call ∈ back, ∃ request state, call = .execute request left state
  final : final = left

section Runs

variable {c : Collaborators σ ρ} {d : RunDefinition} {before after : List (Visit σ)} {v : Visit σ}
  {start final : Context} {answer : Except Abort (List SpecificationResult)}

theorem Accounts.failsFrom (hc : c.Operates)
    (accounts : Accounts d (before ++ v :: after) final answer)
    (chained : Chained c start (before ++ v :: after) final)
    (sound : ∀ u ∈ before ++ v :: after, u.Sound c)
    (passes : ∀ u ∈ before ++ v :: after, u.PassesUnpoisoned c)
    (hpoisoned : (c.execute v.request v.context v.executor).2.1.poisoned = true) :
    ∃ later reached abort, casesOf d.specTests = before.map Visit.case ++ v.case :: later ∧
      FailsFrom (c.execute v.request v.context v.executor).2.1 v.testCase later
        (before.map Visit.result) (after.map Visit.call) reached abort answer final := by
  obtain ⟨-, hpasses⟩ := List.forall_mem_append.1 passes
  obtain ⟨hv, hpasses⟩ := List.forall_mem_cons.1 hpasses
  obtain ⟨hfails, hleft⟩ := hv.left_eq hpoisoned
  have hchained := chained.behind
  rw [hleft] at hchained
  obtain ⟨hfinal, hafter⟩ := hchained.of_poisoned hc hpasses hpoisoned
  have hplain : ∀ case ∈ after.map Visit.case, case.2.IsPlain := by
    refine List.forall_mem_map.2 fun u hu => ?_
    have hprepared := (sound u (List.mem_append_right _ (List.mem_cons_of_mem _ hu))).prepared
    rw [(hafter u hu).1] at hprepared
    exact TestCase.isPlain_of_prepare hpoisoned hprepared
  have hresults : (v :: after).map Visit.result =
      (v.testCase :: after.map Visit.testCase).map (resultOf · false) := by
    rw [← List.map_cons, List.map_map]
    refine List.map_congr_left fun u hu => congrArg (resultOf u.testCase) ?_
    rcases List.mem_cons.1 hu with rfl | hu
    · exact hfails
    · exact (hafter u hu).2
  have hcontexts : ∀ call ∈ after.map Visit.call, ∃ request state,
      call = .execute request (c.execute v.request v.context v.executor).2.1 state :=
    List.forall_mem_map.2 fun u hu =>
      ⟨u.request, u.executor, by rw [Visit.call, (hafter u hu).1]⟩
  rcases accounts with ⟨hanswer, hcases, htests⟩ |
    ⟨e, results, base, t, later, hanswer, hcases, hprepared, htests⟩
  · refine ⟨after.map Visit.case, after.map Visit.testCase, none, by simp [hcases], ?_⟩
    constructor
    · simpa [Visit.case, Function.comp_def] using Follows.append hplain .done
    · exact hanswer
    · rw [htests, List.map_append, hresults]
    · simp
    · exact hcontexts
    · exact hfinal
  · rw [hfinal] at hprepared
    refine ⟨after.map Visit.case ++ (base, t) :: later, after.map Visit.testCase ++ [t], some e,
      by simp [hcases], ?_⟩
    constructor
    · simpa [Visit.case, Function.comp_def] using Follows.append hplain
        (.aborted (TestCase.stopsPoisoned_of_prepare hpoisoned hprepared))
    · exact ⟨results, hanswer⟩
    · rw [htests, List.map_append, hresults]
      simp
    · simp
    · exact hcontexts
    · exact hfinal

end Runs

/-- A run over a poisoned context asks its executor for nothing, and is aborted unless it was turned
away before. If the executor leaves the context poisoned when it is handed the request of a case,
then this case and all later ones that are reported have failed. The run goes on past cases that
mention no variable, up to the first with a blank endpoint, or that mentions one; and the context
stays what the executor left. -/
theorem poisoned_never_passes (c : Collaborators σ ρ) (hc : c.Operates)
    (tokens : Option ConsentTokens) (d : RunDefinition) (w : World σ ρ) :
    (w.context.poisoned = true →
      (run c tokens d w).2.context = w.context ∧
      (∀ call ∈ calls c tokens d w, call = .certificates d.signingCert d.transportCert) ∧
      (requireTokens tokens = .ok () →
        (run c tokens d w).1 = .error ⟨.context .poisoned, []⟩)) ∧
    ∀ front request context state back,
      calls c tokens d w = front ++ .execute request context state :: back →
      (c.execute request context state).2.1.poisoned = true →
      ∃ ran base t later reached abort earlier,
        casesOf d.specTests = ran ++ (base, t) :: later ∧ front.length = ran.length + 1 ∧
        t.prepare context base = .ok request ∧ earlier.length = ran.length ∧
        FailsFrom (c.execute request context state).2.1 t later earlier back reached abort
          (run c tokens d w).1 (run c tokens d w).2.context := by
  have h := ran c tokens d w
  generalize (run c tokens d w).1 = answer, (run c tokens d w).2 = left,
    calls c tokens d w = asked at h ⊢
  cases h with
  | turnedAway refused =>
    exact ⟨fun _ => ⟨rfl, List.forall_mem_nil _, fun granted => by simp [granted] at refused⟩,
      fun front _ _ _ _ hsplit => by simp at hsplit⟩
  | unseeded granted poisoned =>
    refine ⟨fun _ => ⟨offerCertificates_context c d w, by simp, fun _ => rfl⟩,
      fun front _ _ _ _ hsplit => ?_⟩
    cases front <;> simp at hsplit
  | @toured legs s w' granted sound toured =>
    refine ⟨fun poisoned => by simp [sound] at poisoned,
      fun front request context state back hsplit hpoisoned => ?_⟩
    -- the certificates are shown first, so the request is that of a visit
    obtain ⟨shown, front, rfl⟩ : ∃ shown rest, front = shown :: rest := by
      cases front with
      | nil => simp at hsplit
      | cons shown rest => exact ⟨shown, rest, rfl⟩
    obtain ⟨-, hvisits⟩ := List.cons.inj hsplit
    obtain ⟨before, behind, hlegs, rfl, hbehind⟩ := List.map_eq_append_iff.1 hvisits
    obtain ⟨v, after, rfl, hv, rfl⟩ := List.map_eq_cons_iff.1 hbehind
    cases hv
    have accounts := toured.accounts
    have chained := toured.chained
    have hsound := toured.sound
    have passes := toured.passesUnpoisoned
    rw [hlegs] at accounts chained hsound passes
    obtain ⟨later, reached, abort, hcases, hfails⟩ :=
      accounts.failsFrom hc chained hsound passes hpoisoned
    exact ⟨before.map Visit.case, v.baseUri, v.testCase, later, reached, abort,
      before.map Visit.result, hcases, by simp,
      (hsound v (List.mem_append_right _ List.mem_cons_self)).prepared, by simp, hfails⟩

/-- A call after which an executor leaves a poisoned context. -/
def Call.poisons (c : Collaborators σ ρ) : Call σ → Bool
  | .certificates _ _ => false
  | .execute request context state => (c.execute request context state).2.1.poisoned

/-- An executor that accepts everything, with a writer that fails half-way at one path. -/
def crashingExecutor : Collaborators Unit Unit where
  acceptCertificates _ _ s := (.ok (), s)
  execute request context s :=
    (.ok ⟨request.method, request.path, 200, .empty, [], 0⟩,
      if request.path = "/crash" then context.poison else context, s)
  resolve _ s := (.ok fun _ => .ok [], s)

theorem crashingExecutor_operates : crashingExecutor.Operates := by
  intro request context state
  by_cases h : request.path = "/crash"
  · simpa [crashingExecutor, h] using Context.Becomes.failed .same
  · simpa [crashingExecutor, h] using Context.Becomes.same

/-- A run whose second case crashes; the one behind it mentions nothing, and the next one does. -/
def crashingRun : RunDefinition where
  discovery := .empty
  specTests := [
    ⟨⟨"Accounts", "", "v1", ""⟩, "https://bank", [
      ⟨"1", "list", ⟨"get", "/accounts", .empty, none⟩, ⟨200, false, []⟩, []⟩,
      ⟨"2", "crash", ⟨"get", "/crash", .empty, none⟩, ⟨200, false, []⟩, []⟩]⟩,
    ⟨⟨"Payments", "", "v1", ""⟩, "https://bank", [
      ⟨"3", "list", ⟨"get", "/payments", .empty, none⟩, ⟨200, false, []⟩, []⟩,
      ⟨"4", "pay", ⟨"post", "/payments", .empty, some "$SigningCert"⟩, ⟨200, false, []⟩, []⟩,
      ⟨"5", "list", ⟨"get", "/payments", .empty, none⟩, ⟨200, false, []⟩, []⟩]⟩]
  signingCert := ⟨"public", "private"⟩
  transportCert := ⟨"public", "private"⟩

/-- The crashed case and the two behind it are reported as failed, and the last one is not reached;
over a context that is poisoned from the start no case is. -/
theorem poisoned_never_passes_crash :
    crashingExecutor.Operates ∧
    (∃ left t later earlier back reached abort,
      @FailsFrom Unit left t later earlier back reached abort
        (run crashingExecutor none crashingRun ⟨.empty, (), (), []⟩).1
        (run crashingExecutor none crashingRun ⟨.empty, (), (), []⟩).2.context) ∧
    (testsOf (run crashingExecutor none crashingRun ⟨.empty, (), (), []⟩).1).map
      (fun r => (r.id, r.pass)) = [("1", true), ("2", false), ("3", false), ("4", false)] ∧
    (run crashingExecutor none crashingRun ⟨Context.empty.poison, (), (), []⟩).1 =
      .error ⟨.context .poisoned, []⟩ := by
  have hcrash : (calls crashingExecutor none crashingRun ⟨.empty, (), (), []⟩).any
      (Call.poisons crashingExecutor) = true := by decide +kernel
  obtain ⟨call, hmem, hpoisoned⟩ := List.any_eq_true.1 hcrash
  obtain ⟨front, back, hsplit⟩ := List.append_of_mem hmem
  refine ⟨crashingExecutor_operates, ?_, by decide +kernel, ?_⟩
  · cases call with
    | certificates => cases hpoisoned
    | execute request context state =>
      obtain ⟨_, _, t, later, reached, abort, earlier, -, -, -, -, hfails⟩ :=
        (poisoned_never_passes crashingExecutor crashingExecutor_operates none crashingRun
          ⟨.empty, (), (), []⟩).2 front request context state back hsplit hpoisoned
      exact ⟨_, t, later, earlier, back, reached, abort, hfails⟩
  · exact ((poisoned_never_passes crashingExecutor crashingExecutor_operates none crashingRun
      ⟨Context.empty.poison, (), (), []⟩).1 rfl).2.2 rfl

end Run

end ConformanceSuite
