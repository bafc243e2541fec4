import ConformanceSuite.Proofs.KeyMap
import ConformanceSuite.Proofs.Redirect.CodeHash
import ConformanceSuite.Redirect.Validator

/-!
# Receiving a redirect

What a redirect comes to is decided by the binding of its code alone, and only an accepted one is
stored: `receive_binds`. A redirect that is not accepted leaves the token sets as they were, and the
context as well unless the sets are poisoned: `receive_rejected`.
-/

namespace ConformanceSuite.Redirect

/-- The context with the code and the identity token of a redirect under its state. -/
def CodePayload.boundIn (p : CodePayload) (context : Context) : Context :=
  { context with
    entries := (context.entries.insert p.state (.string p.code)).insert
      (p.state ++ "_id_token") (.string p.idToken) }

/-- The identity token of a redirect binds its code. -/
def CodePayload.Bound (p : CodePayload) : Prop :=
  ∃ token d, IdToken.ofString p.idToken = .ok token ∧ Supported token.algorithm d ∧
    BindsCode p.idToken p.code d

/-- The token sets with the code of a redirect in the slot of its state, if there is one. -/
def CodePayload.suppliedTo (p : CodePayload) (tokens : ConsentTokens) : ConsentTokens :=
  if tokens.sets.contains p.state then
    { tokens with sets := tokens.sets.insert p.state (some p.code) }
  else tokens

/-- The answers to a redirect, each with the exact condition for it: the first condition that fails
in the order of state, token, algorithm and binding decides. -/
structure DecidedByBinding (p : CodePayload) (answer : Except Error Outcome) : Prop where
  accepted : answer = .ok .accepted ↔ p.state ≠ "" ∧
    ∃ token d, IdToken.ofString p.idToken = .ok token ∧ Supported token.algorithm d ∧
      BindsCode p.idToken p.code d
  unbound : answer = .ok .codeHashInvalid ↔ p.state ≠ "" ∧
    ∃ token d, IdToken.ofString p.idToken = .ok token ∧ Supported token.algorithm d ∧
      ¬ BindsCode p.idToken p.code d
  missingState : answer = .error .missingState ↔ p.state = ""
  undecoded : ∀ fault, answer = .error (.decode fault) ↔
    p.state ≠ "" ∧ IdToken.ofString p.idToken = .error fault
  unsupported : ∀ algorithm, answer = .error (.unsupportedAlgorithm algorithm) ↔ p.state ≠ "" ∧
    ∃ token, IdToken.ofString p.idToken = .ok token ∧ token.algorithm = algorithm ∧
      ∀ d, ¬ Supported algorithm d

/-- What an accepted redirect leaves in the stores. -/
structure Stored (p : CodePayload) (before after : Stores) : Prop where
  context : after.context = { before.context with
    entries := (before.context.entries.insert p.state (.string p.code)).insert
      (p.state ++ "_id_token") (.string p.idToken) }
  entries : ∀ key, after.context.entries.get? key =
    if key = p.state ++ "_id_token" then some (.string p.idToken)
    else if key = p.state then some (.string p.code)
    else before.context.entries.get? key
  slot : after.tokens.sets.get? p.state = some (some p.code) ↔
    before.tokens.sets.contains p.state = true
  unregistered : before.tokens.sets.contains p.state = false → after.tokens = before.tokens
  otherSets : ∀ name, name ≠ p.state →
    after.tokens.sets.get? name = before.tokens.sets.get? name

/-! ### Judging and storing -/

theorem idTokenKey_ne (state : String) : idTokenKey state ≠ state := by
  intro h
  have hlength := congrArg String.length h
  simp [idTokenKey] at hlength

/-- Judging a redirect is deciding its binding. -/
theorem judge_decided (p : CodePayload) : DecidedByBinding p p.judge := by
  by_cases hstate : p.state = ""
  · have h : p.judge = .error .missingState := by simp [CodePayload.judge, hstate]
    rw [h]
    constructor <;> simp [hstate]
  -- each way out of the judgement fixes the answer, and with it all five conditions
  · have hempty : p.state.isEmpty = false := by simpa using hstate
    cases htoken : IdToken.ofString p.idToken with
    | error fault =>
      have h : p.judge = .error (.decode fault) := by simp [CodePayload.judge, hempty, htoken]
      rw [h]
      constructor <;> simp [hstate, htoken]
    | ok token =>
      cases hhash : codeHash? token.algorithm p.code with
      | none =>
        have hnone := codeHash?_eq_none_iff.1 hhash
        have h : p.judge = .error (.unsupportedAlgorithm token.algorithm) := by
          simp [CodePayload.judge, hempty, htoken, hhash]
        rw [h]
        constructor <;> simp [hstate, htoken, hnone]
      | some hash =>
        obtain ⟨d, hd, rfl⟩ := codeHash?_eq_some_iff.1 hhash
        have hclaim : token.codeHash = some (boundHash d p.code) ↔ BindsCode p.idToken p.code d :=
          IdToken.codeHash_eq_some_iff htoken
        -- so that the digest of the conditions is the one that was looked up
        have honly : ∀ d', Supported token.algorithm d' ↔ d' = d := fun d' =>
          ⟨fun h => h.digest_unique hd, fun h => h ▸ hd⟩
        by_cases hbound : BindsCode p.idToken p.code d
        · have h : p.judge = .ok .accepted := by
            simp [CodePayload.judge, hempty, htoken, hhash, hclaim.2 hbound]
          rw [h]
          constructor <;> simp [hstate, htoken, honly, hbound]
        · have h : p.judge = .ok .codeHashInvalid := by
            simp [CodePayload.judge, hempty, htoken, hhash, mt hclaim.1 hbound]
          rw [h]
          constructor <;> simp [hstate, htoken, honly, hbound]

theorem judge_eq_accepted_iff {p : CodePayload} :
    p.judge = .ok .accepted ↔ p.state ≠ "" ∧ p.Bound :=
  (judge_decided p).accepted

theorem judge_ne_tokens (p : CodePayload) (e : TokenError) : p.judge ≠ .error (.tokens e) := by
  unfold CodePayload.judge
  split
  · simp
  · split
    · simp
    · split <;> simp

/-- A redirect that is not judged acceptable is not stored. -/
theorem receive_of_judge_ne {p : CodePayload} (s : Stores) (h : p.judge ≠ .ok .accepted) :
    receive p s = (p.judge, s) := by
  unfold receive
  split
  · exact absurd ‹_› h
  · rfl

/-- An acceptable redirect is put into the context first and then supplied to the token sets; a
poisoned store stops it where it stands. -/
theorem receive_of_judge {p : CodePayload} (s : Stores) (h : p.judge = .ok .accepted) :
    receive p s =
      if s.context.poisoned then (.error (.context .poisoned), s)
      else if s.tokens.poisoned then
        (.error (.tokens .poisoned), { s with context := p.boundIn s.context })
      else (.ok .accepted, ⟨p.boundIn s.context, p.suppliedTo s.tokens⟩) := by
  obtain ⟨⟨entries, poisoned⟩, ⟨sets, tokensPoisoned⟩⟩ := s
  cases poisoned
  · cases tokensPoisoned
    -- the third write is silent about a set that is not registered
    · cases hset : sets.contains p.state <;>
        simp [receive, h, CodePayload.writes, performAll, Write.perform, Context.put,
          Context.putAll, ConsentTokens.supply, hset, CodePayload.boundIn,
          CodePayload.suppliedTo, idTokenKey]
    · simp [receive, h, CodePayload.writes, performAll, Write.perform, Context.put,
        Context.putAll, ConsentTokens.supply, CodePayload.boundIn, idTokenKey]
  · simp [receive, h, CodePayload.writes, performAll, Write.perform, Context.put, Context.putAll]

/-! ### Acceptance -/

theorem CodePayload.stored (p : CodePayload) (s : Stores) :
    Stored p s ⟨p.boundIn s.context, p.suppliedTo s.tokens⟩ where
  context := rfl
  entries key := by
    simp only [boundIn, KeyMap.get?_insert]
    simp only [eq_comm]
  slot := by
    cases h : s.tokens.sets.contains p.state with
    | true => simp [suppliedTo, h, KeyMap.get?_insert]
    | false =>
      have hnone : s.tokens.sets.get? p.state = none := by simpa [KeyMap.contains] using h
      simp [suppliedTo, h, hnone]
  unregistered h := by simp [suppliedTo, h]
  otherSets name h := by
    unfold suppliedTo
    split
    · simp [KeyMap.get?_insert, Ne.symm h]
    · rfl

/-- An accepted redirect has been stored, in a context that is not poisoned. -/
theorem receive_of_accepted {p : CodePayload} {s : Stores} (h : (receive p s).1 = .ok .accepted) :
    s.context.poisoned = false ∧
      (receive p s).2 = ⟨p.boundIn s.context, p.suppliedTo s.tokens⟩ := by
  by_cases hjudge : p.judge = .ok .accepted
  · rw [receive_of_judge s hjudge] at h ⊢
    cases hcontext : s.context.poisoned with
    | true => simp [hcontext] at h
    | false =>
      cases htokens : s.tokens.poisoned with
      | true => simp [hcontext, htokens] at h
      | false => simp
  · rw [receive_of_judge_ne s hjudge] at h
    exact absurd h hjudge

/-- Over sound stores the binding of the code decides the answer; an accepted redirect is stored,
and any other leaves both stores as they were. -/
theorem receive_binds (p : CodePayload) (s : Stores) (hcontext : s.context.poisoned = false)
    (htokens : s.tokens.poisoned = false) :
    DecidedByBinding p (receive p s).1 ∧
      ((receive p s).1 = .ok .accepted → Stored p s (receive p s).2) ∧
      ((receive p s).1 ≠ .ok .accepted → (receive p s).2 = s) := by
  by_cases hjudge : p.judge = .ok .accepted
  · have h : receive p s = (.ok .accepted, ⟨p.boundIn s.context, p.suppliedTo s.tokens⟩) := by
      simp [receive_of_judge s hjudge, hcontext, htokens]
    rw [h]
    exact ⟨hjudge ▸ judge_decided p, fun _ => p.stored s, fun hne => absurd rfl hne⟩
  · rw [receive_of_judge_ne s hjudge]
    exact ⟨judge_decided p, fun h => absurd h hjudge, fun _ => rfl⟩

/-- A redirect with a bound code: the token's payload claims the hash of the code `c`. -/
def boundPayload : CodePayload where
  code := "c"
  scope := ""
  idToken := "eyJhbGciOiJFUzI1NiJ9.eyJjX2hhc2giOiJMbjBzQTZsUWV1Smw3UFcxTldpRnBRIn0."
  state := "s"

theorem judge_boundPayload : boundPayload.judge = .ok .accepted := by
  have htoken : IdToken.ofString boundPayload.idToken =
      .ok ⟨"ES256", some "Ln0sA6lQeuJl7PW1NWiFpQ"⟩ := by
    have h : (IdToken.ofString boundPayload.idToken).toOption =
        some ⟨"ES256", some "Ln0sA6lQeuJl7PW1NWiFpQ"⟩ := by decide +kernel
    cases hx : IdToken.ofString boundPayload.idToken with
    | error fault => simp [hx, Except.toOption] at h
    | ok token => simpa [hx, Except.toOption] using h
  have hbound : claim? boundPayload.idToken "c_hash" =
      some (.string (boundHash .sha256 boundPayload.code)) := by decide +kernel
  exact (judge_decided boundPayload).accepted.2
    ⟨by decide, _, .sha256, htoken, ⟨"ES", by decide, rfl⟩, hbound⟩

/-- Stores whose token sets are poisoned. -/
def poisonedStores : Stores := ⟨.empty, (ConsentTokens.ofNames ["s"]).poison⟩

/-- A bound code is accepted into the slot of its state. -/
theorem receive_binds_registered :
    (⟨.empty, .ofNames ["s", "t"]⟩ : Stores).context.poisoned = false ∧
    (⟨.empty, .ofNames ["s", "t"]⟩ : Stores).tokens.poisoned = false ∧
    (receive boundPayload ⟨.empty, .ofNames ["s", "t"]⟩).1 = .ok .accepted ∧
    Stored boundPayload ⟨.empty, .ofNames ["s", "t"]⟩
      (receive boundPayload ⟨.empty, .ofNames ["s", "t"]⟩).2 := by
  obtain ⟨-, hstored, -⟩ := receive_binds boundPayload ⟨.empty, .ofNames ["s", "t"]⟩ rfl rfl
  have haccepted : (receive boundPayload ⟨.empty, .ofNames ["s", "t"]⟩).1 = .ok .accepted := by
    rw [receive_of_judge _ judge_boundPayload]
    rfl
  exact ⟨rfl, rfl, haccepted, hstored haccepted⟩

/-! ### Rejection -/

/-- A redirect that is not accepted leaves the token sets alone. It leaves the context alone too,
unless all that was wrong are poisoned token sets: the pair has then been stored already. -/
theorem receive_rejected (p : CodePayload) (s : Stores) (h : (receive p s).1 ≠ .ok .accepted) :
    (receive p s).2.tokens = s.tokens ∧
    ((∀ e, (receive p s).1 ≠ .error (.tokens e)) → (receive p s).2.context = s.context) ∧
    (∀ e, (receive p s).1 = .error (.tokens e) ↔ e = .poisoned ∧ p.judge = .ok .accepted ∧
      s.context.poisoned = false ∧ s.tokens.poisoned = true) ∧
    (∀ e, (receive p s).1 = .error (.tokens e) →
      (receive p s).2.context = p.boundIn s.context) := by
  by_cases hjudge : p.judge = .ok .accepted
  · rw [receive_of_judge s hjudge] at h ⊢
    cases hcontext : s.context.poisoned with
    | true => simp
    | false =>
      cases htokens : s.tokens.poisoned with
      | true => simp [hjudge, eq_comm]
      | false => simp [hcontext, htokens] at h
  · rw [receive_of_judge_ne s hjudge]
    simp [hjudge, judge_ne_tokens]

/-- A bound code is not accepted into poisoned token sets, and stays in the context. -/
theorem receive_rejected_poisoned :
    (receive boundPayload poisonedStores).1 ≠ .ok .accepted ∧
    (receive boundPayload poisonedStores).2.tokens = poisonedStores.tokens ∧
    (receive boundPayload poisonedStores).2.context =
      boundPayload.boundIn poisonedStores.context := by
  have hanswer : (receive boundPayload poisonedStores).1 = .error (.tokens .poisoned) := by
    rw [receive_of_judge _ judge_boundPayload]
    rfl
  have hrejected : (receive boundPayload poisonedStores).1 ≠ .ok .accepted := by
    rw [hanswer]
    simp
  obtain ⟨htokens, -, -, hcontext⟩ := receive_rejected boundPayload poisonedStores hrejected
  exact ⟨hrejected, htokens, hcontext _ hanswer⟩

/-- It is not so that a redirect leaves no trace unless it is accepted. -/
theorem receive_not_traceless :
    ¬ ∀ (p : CodePayload) (s : Stores), (receive p s).1 ≠ .ok .accepted →
      (receive p s).2.context.entries = s.context.entries ∧
        (receive p s).2.tokens.sets = s.tokens.sets := by
  intro h
  have hanswer : receive boundPayload poisonedStores = (.error (.tokens .poisoned),
      { poisonedStores with context := boundPayload.boundIn poisonedStores.context }) := by
    rw [receive_of_judge _ judge_boundPayload]
    rfl
  obtain ⟨hentries, -⟩ := h boundPayload poisonedStores (by simp [hanswer])
  rw [hanswer] at hentries
  revert hentries
  decide

end ConformanceSuite.Redirect
