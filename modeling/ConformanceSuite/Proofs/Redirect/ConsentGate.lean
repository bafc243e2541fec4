import ConformanceSuite.Proofs.Redirect.History
import ConformanceSuite.Proofs.Run.DataFlow

/-!
# The consent gate

Redirects fill the slots of token sets, and a run goes on only if none of them is empty. From fresh
slots and any history of redirects, `consent_gate` says what the slots hold and whether a run that
shares them is let through; a run that is not let through does nothing but say so.
-/

namespace ConformanceSuite.Redirect

open Run

/-- What the slots of token sets hold after a history of redirects with the payloads `ps`. -/
structure Collected (names : List String) (ps : List CodePayload) (history : List Received)
    (tokens : ConsentTokens) : Prop where
  held : ∀ name ∈ names, (∃ code, tokens.token name = .ok (some code)) ↔
    ∃ r ∈ history, r.AcceptedFor name
  last : ∀ name ∈ names, ∀ code,
    tokens.token name = .ok (some code) ↔ LastGrant history name code
  bound : ∀ name ∈ names, ∀ code, tokens.token name = .ok (some code) →
    ∃ p ∈ ps, p.state = name ∧ p.code = code ∧
      ∃ token d, IdToken.ofString p.idToken = .ok token ∧ Supported token.algorithm d ∧
        BindsCode p.idToken code d

/-- A run that is turned away for want of the tokens of some sets: nothing is asked of its
executor, and the one thing that changes is that the abort has been recorded. -/
structure TurnedAway {σ ρ : Type} (sets : List String) (asked : List (Call σ)) (w : World σ ρ)
    (answer : Except Abort (List SpecificationResult)) (left : World σ ρ) : Prop where
  answer : answer = .error ⟨.tokensPending sets, []⟩
  asked : asked = []
  context : left.context = w.context
  executor : left.executor = w.executor
  resolver : left.resolver = w.resolver
  events : ∃ event, left.events = w.events ++ [event] ∧ event.event = "run_aborted" ∧
    event.error = some (AbortCause.tokensPending sets).message

/-- What a history of redirects means for a run that shares the token sets. -/
structure Gates {σ ρ : Type} (names : List String) (history : List Received)
    (tokens : ConsentTokens) (c : Collaborators σ ρ) (d : RunDefinition) (w : World σ ρ) :
    Prop where
  granted : requireTokens (some tokens) = .ok () ↔
    ∀ name ∈ names, ∃ r ∈ history, r.AcceptedFor name
  opens : (∃ later, calls c (some tokens) d w =
      .certificates d.signingCert d.transportCert :: later) ↔
    ∀ name ∈ names, ∃ r ∈ history, r.AcceptedFor name
  closed : (¬ ∀ name ∈ names, ∃ r ∈ history, r.AcceptedFor name) →
    ∃ sets, Text.InByteOrder sets ∧
      (∀ name, name ∈ sets ↔ name ∈ names ∧ ∀ r ∈ history, ¬ r.AcceptedFor name) ∧
      TurnedAway sets (calls c (some tokens) d w) w (run c (some tokens) d w).1
        (run c (some tokens) d w).2

section

variable {names : List String} {history : List Received} {s : Stores}

theorem Reflects.token_iff (h : Reflects names history s) {name code : String}
    (hname : name ∈ names) :
    s.tokens.token name = .ok (some code) ↔ LastGrant history name code := by
  rw [ConsentTokens.token_eq_ok_iff h.tokens, h.granted name hname]

theorem Reflects.exists_token_iff (h : Reflects names history s) {name : String}
    (hname : name ∈ names) : (∃ code, s.tokens.token name = .ok (some code)) ↔
      ∃ r ∈ history, r.AcceptedFor name := by
  rw [← exists_lastGrant_iff]
  exact exists_congr fun code => h.token_iff hname

/-- A slot is empty if its set is one of the names and no redirect was accepted for it. -/
theorem Reflects.empty_iff (h : Reflects names history s) {name : String} :
    s.tokens.sets.get? name = some none ↔
      name ∈ names ∧ ∀ r ∈ history, ¬ r.AcceptedFor name := by
  have hregistered := h.registered name
  have hheld : name ∈ names → ((∃ code, s.tokens.sets.get? name = some (some code)) ↔
      ∃ r ∈ history, r.AcceptedFor name) := fun hname => by
    rw [← h.exists_token_iff hname]
    exact exists_congr fun code => (ConsentTokens.token_eq_ok_iff h.tokens).symm
  unfold KeyMap.contains at hregistered
  cases hslot : s.tokens.sets.get? name with
  | none =>
    have hnot : name ∉ names := by simpa [hslot] using hregistered
    simp [hnot]
  | some slot =>
    have hname : name ∈ names := by simpa [hslot] using hregistered
    have hiff := hheld hname
    cases slot with
    | none => simpa [hslot, hname] using hiff
    | some code => simpa [hslot, hname] using hiff

/-- Which runs are turned away, and for which sets. -/
theorem Reflects.requireTokens (h : Reflects names history s) :
    ∃ sets, Text.InByteOrder sets ∧
      (∀ name, name ∈ sets ↔ name ∈ names ∧ ∀ r ∈ history, ¬ r.AcceptedFor name) ∧
      Run.requireTokens (some s.tokens) =
        if sets = [] then .ok () else .error (.tokensPending sets) := by
  obtain ⟨sets, hpending, horder, hmem⟩ := ConsentTokens.exists_pending h.tokens
  refine ⟨sets, horder, fun name => (hmem name).trans h.empty_iff, ?_⟩
  cases sets <;> simp [Run.requireTokens, hpending]

theorem Reflects.gates {σ ρ : Type} (h : Reflects names history s) (c : Collaborators σ ρ)
    (d : RunDefinition) (w : World σ ρ) : Gates names history s.tokens c d w := by
  obtain ⟨sets, horder, hmem, hrequire⟩ := h.requireTokens
  have hopen : sets = [] ↔ ∀ name ∈ names, ∃ r ∈ history, r.AcceptedFor name := by
    rw [List.eq_nil_iff_forall_not_mem]
    simp only [hmem, not_and, not_forall, Classical.not_not, exists_prop]
  by_cases hsets : sets = []
  · have hgranted : Run.requireTokens (some s.tokens) = .ok () := by simp [hrequire, hsets]
    have hasked := calls_of_granted hgranted c d w
    exact ⟨by simp [hgranted, ← hopen, hsets], by simp [hasked, ← hopen, hsets],
      fun hclosed => absurd (hopen.1 hsets) hclosed⟩
  · have hrefused : Run.requireTokens (some s.tokens) = .error (.tokensPending sets) := by
      simp [hrequire, hsets]
    obtain ⟨hrun, hasked⟩ := run_of_refused hrefused c d w
    refine ⟨by simp [hrefused, ← hopen, hsets], by simp [hasked, ← hopen, hsets],
      fun _ => ⟨sets, horder, hmem, ?_⟩⟩
    rw [hrun, hasked]
    exact ⟨rfl, rfl, rfl, rfl, rfl, _, rfl, rfl, rfl⟩

end

/-- From fresh slots and a sound context, after any redirects: a set has a token if a redirect was
accepted for it, and then the code of the last one, which an identity token bound. A run is let
through if all sets have one, and is otherwise turned away for the rest in the order of bytes. -/
theorem consent_gate (names : List String) (context : Context) (ps : List CodePayload)
    (hsound : context.poisoned = false) :
    Collected names ps (receiveAll ps ⟨context, .ofNames names⟩).1
        (receiveAll ps ⟨context, .ofNames names⟩).2.tokens ∧
      ∀ {σ ρ : Type} (c : Collaborators σ ρ) (d : RunDefinition) (w : World σ ρ),
        Gates names (receiveAll ps ⟨context, .ofNames names⟩).1
          (receiveAll ps ⟨context, .ofNames names⟩).2.tokens c d w := by
  have h := (Reflects.fresh hsound names).receiveAll ps
  rw [List.nil_append] at h
  refine ⟨⟨fun name hname => h.exists_token_iff hname, fun name hname code => h.token_iff hname,
    fun name hname code htoken => ?_⟩, fun c d w => h.gates c d w⟩
  obtain ⟨before, r, after, hsplit, hr, rfl, -⟩ := (h.token_iff hname).1 htoken
  obtain ⟨hmem, token, digest, hbound⟩ :=
    exists_mem_of_accepted (r := r) (by rw [hsplit]; simp) hr.accepted
  exact ⟨r.payload, hmem, hr.state, rfl, token, digest, hbound⟩

/-- With one of two consents accepted, its code is held, and the run is turned away for the
other. -/
theorem consent_gate_half_open :
    Context.empty.poisoned = false ∧
    (receiveAll [boundPayload] ⟨.empty, .ofNames ["t", "s"]⟩).2.tokens.token "s" =
      .ok (some "c") ∧
    ∃ sets, (∀ name, name ∈ sets ↔ name = "t") ∧
      TurnedAway sets
        (calls consentExecutor
          (some (receiveAll [boundPayload] ⟨.empty, .ofNames ["t", "s"]⟩).2.tokens) consentRun
          ⟨.empty, (), (), []⟩)
        ⟨.empty, (), (), []⟩
        (run consentExecutor
          (some (receiveAll [boundPayload] ⟨.empty, .ofNames ["t", "s"]⟩).2.tokens) consentRun
          ⟨.empty, (), (), []⟩).1
        (run consentExecutor
          (some (receiveAll [boundPayload] ⟨.empty, .ofNames ["t", "s"]⟩).2.tokens) consentRun
          ⟨.empty, (), (), []⟩).2 := by
  have hanswer : (receive boundPayload ⟨.empty, .ofNames ["t", "s"]⟩).1 = .ok .accepted := by
    rw [receive_of_judge _ judge_boundPayload]
    rfl
  have hhistory : (receiveAll [boundPayload] ⟨.empty, .ofNames ["t", "s"]⟩).1 =
      [⟨boundPayload, .ok .accepted⟩] := by
    simp [hanswer]
  have hfor : ∀ name, Received.AcceptedFor ⟨boundPayload, .ok .accepted⟩ name ↔ name = "s" :=
    fun name => ⟨fun h => h.state.symm, fun h => ⟨rfl, h.symm⟩⟩
  obtain ⟨hcollected, hgates⟩ := consent_gate ["t", "s"] .empty [boundPayload] rfl
  obtain ⟨sets, -, hmem, hturned⟩ :=
    (hgates consentExecutor consentRun ⟨.empty, (), (), []⟩).closed (by rw [hhistory]; simp [hfor])
  refine ⟨rfl, (hcollected.last "s" (by simp) "c").2 ?_, sets, fun name => ?_, hturned⟩
  · rw [hhistory]
    exact ⟨[], _, [], rfl, (hfor "s").2 rfl, rfl, by simp⟩
  · rw [hmem, hhistory]
    by_cases hname : name = "s" <;> simp [hfor, hname]

end ConformanceSuite.Redirect
