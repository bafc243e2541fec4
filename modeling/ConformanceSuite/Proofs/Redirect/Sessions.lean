import ConformanceSuite.Proofs.Redirect.History
import ConformanceSuite.Run.Controller

/-!
# Sessions in one context

Redirects of different states are bound in the context of a run side by side, with the identity
token of a state under a key that is itself a possible state, and with the certificates of the run
under two more. What each key holds after a sequence of accepted redirects is what was bound there
last: `sessions_side_by_side`. Two sessions are in each other's way only where one has the state
under which the other keeps its identity token, and a certificate is lost only to a session of its
name.
-/

namespace ConformanceSuite.Redirect

/-- What an accepted redirect binds in the context, in order. -/
def CodePayload.bindings (p : CodePayload) : List (String × Json) :=
  [(p.state, .string p.code), (idTokenKey p.state, .string p.idToken)]

/-- The certificates of a run are bound in the context. -/
structure HoldsCertificates (d : RunDefinition) (m : KeyMap Json) : Prop where
  signing : m.get? "SigningCert" = some d.signingCert.contextValue
  transport : m.get? "TransportCert" = some d.transportCert.contextValue

/-- What is left of the session of a redirect when others have followed: its code, unless a later
session keeps its identity token there, and its identity token, unless a later session keeps its
code there. -/
structure SessionLeft (p : CodePayload) (later : List CodePayload) (after : KeyMap Json) :
    Prop where
  code : (∀ q ∈ later, q.state ++ "_id_token" ≠ p.state) →
    after.get? p.state = some (.string p.code)
  idToken : (∀ q ∈ later, q.state ≠ p.state ++ "_id_token") →
    after.get? (p.state ++ "_id_token") = some (.string p.idToken)
  codeLost : ∀ q ∈ later, q.state ++ "_id_token" = p.state →
    after.get? p.state = some (.string q.idToken)
  idTokenLost : ∀ q ∈ later, q.state = p.state ++ "_id_token" →
    after.get? (p.state ++ "_id_token") = some (.string q.code)

/-- What is left of the certificates of a run: each, unless there was a session of its name. -/
structure CertificatesLeft (d : RunDefinition) (ps : List CodePayload) (after : KeyMap Json) :
    Prop where
  signing : (∀ p ∈ ps, p.state ≠ "SigningCert") →
    after.get? "SigningCert" = some d.signingCert.contextValue
  transport : (∀ p ∈ ps, p.state ≠ "TransportCert") →
    after.get? "TransportCert" = some d.transportCert.contextValue
  lost : ∀ p ∈ ps, p.state = "SigningCert" ∨ p.state = "TransportCert" →
    after.get? p.state = some (.string p.code)

/-! ### Bindings -/

section Bindings

variable {ps front later : List CodePayload} {p q : CodePayload} {m : KeyMap Json} {key : String}

theorem idTokenKey_inj {state state' : String} (h : idTokenKey state = idTokenKey state') :
    state = state' :=
  (String.append_left_inj _).1 h

/-- A key of an identity token is not the key of a certificate. -/
theorem idTokenKey_ne_certificate (state : String) :
    idTokenKey state ≠ "SigningCert" ∧ idTokenKey state ≠ "TransportCert" := by
  constructor <;>
  · intro h
    have hlast := congrArg (·.toList.getLast?) h
    simp [idTokenKey] at hlast

theorem key_of_mem_bindings {e : String × Json} (h : e ∈ p.bindings) :
    e.1 = p.state ∨ e.1 = idTokenKey p.state := by
  simp only [CodePayload.bindings, List.mem_cons, List.not_mem_nil, or_false] at h
  rcases h with rfl | rfl
  · exact .inl rfl
  · exact .inr rfl

/-- Sessions bind their own keys only. -/
theorem get?_bindings_of_ne (h : ∀ q ∈ ps, q.state ≠ key ∧ idTokenKey q.state ≠ key) :
    (m.insertAll (ps.flatMap CodePayload.bindings)).get? key = m.get? key := by
  refine KeyMap.get?_insertAll_of_ne fun e he => ?_
  obtain ⟨q, hq, he⟩ := List.mem_flatMap.1 he
  rcases key_of_mem_bindings he with hkey | hkey
  · exact hkey ▸ (h q hq).1
  · exact hkey ▸ (h q hq).2

/-- A key holds what a session has bound there, if no later one has. -/
theorem get?_bindings_last {value : Json} (h : p.bindings.reverse.lookup key = some value)
    (hlater : ∀ q ∈ later, q.state ≠ key ∧ idTokenKey q.state ≠ key) :
    (m.insertAll ((front ++ p :: later).flatMap CodePayload.bindings)).get? key = some value := by
  rw [List.flatMap_append, List.flatMap_cons, KeyMap.insertAll_append, KeyMap.insertAll_append,
    get?_bindings_of_ne hlater, KeyMap.get?_insertAll, h, Option.some_or]

theorem lookup_bindings_state (p : CodePayload) :
    p.bindings.reverse.lookup p.state = some (.string p.code) := by
  have hne : (p.state == idTokenKey p.state) = false := by simpa using (idTokenKey_ne p.state).symm
  simp [CodePayload.bindings, List.lookup_cons, hne]

theorem lookup_bindings_idTokenKey (p : CodePayload) :
    p.bindings.reverse.lookup (idTokenKey p.state) = some (.string p.idToken) := by
  simp [CodePayload.bindings]

end Bindings

/-- A run puts its certificates into the context, and they stay there unless a custom test replaces
one. -/
theorem holdsCertificates_seeds {d : RunDefinition} {given : KeyMap Json}
    (h : ∀ t ∈ d.discovery.customTests, ∀ e ∈ t.replacements.entries,
      e.1 ≠ "SigningCert" ∧ e.1 ≠ "TransportCert") :
    HoldsCertificates d (given.insertAll (Run.seeds d)) := by
  have hkept : ∀ (m : KeyMap Json) (key : String),
      (∀ t ∈ d.discovery.customTests, ∀ e ∈ t.replacements.entries, e.1 ≠ key) →
      (m.insertAll (d.discovery.customTests.flatMap fun t =>
        t.replacements.entries.map fun e => (e.1, Json.string e.2))).get? key = m.get? key := by
    intro m key hkey
    refine KeyMap.get?_insertAll_of_ne fun e he => ?_
    obtain ⟨t, ht, he⟩ := List.mem_flatMap.1 he
    obtain ⟨r, hr, rfl⟩ := List.mem_map.1 he
    exact hkey t ht r hr
  rw [Run.seeds, KeyMap.insertAll_append]
  constructor
  · rw [hkept _ _ fun t ht e he => (h t ht e he).1]
    simp [Run.signingCertKey, Run.transportCertKey, KeyMap.get?_insert]
  · rw [hkept _ _ fun t ht e he => (h t ht e he).2]
    simp [Run.signingCertKey, Run.transportCertKey, KeyMap.get?_insert]

/-! ### Sequences of accepted redirects -/

section Accepted

variable {ps front later : List CodePayload} {p q : CodePayload} {s : Stores}

/-- Accepted redirects bind their entries in order. -/
theorem entries_receiveAll (h : ∀ r ∈ (receiveAll ps s).1, r.answer = .ok .accepted) :
    (receiveAll ps s).2.context.entries =
      s.context.entries.insertAll (ps.flatMap CodePayload.bindings) := by
  induction ps generalizing s with
  | nil => rfl
  | cons p rest ih =>
    rw [receiveAll_cons, List.forall_mem_cons] at h
    rw [receiveAll_cons, ih h.2, (receive_of_accepted h.1).2, List.flatMap_cons,
      KeyMap.insertAll_append]
    rfl

/-- Over sound stores redirects with bound codes are all accepted. -/
theorem receiveAll_accepted (hps : ∀ p ∈ ps, p.state ≠ "" ∧ p.Bound)
    (hcontext : s.context.poisoned = false) (htokens : s.tokens.poisoned = false) :
    ∀ r ∈ (receiveAll ps s).1, r.answer = .ok .accepted := by
  induction ps generalizing s with
  | nil => simp
  | cons p rest ih =>
    rw [List.forall_mem_cons] at hps
    have hstored : receive p s = (.ok .accepted, ⟨p.boundIn s.context, p.suppliedTo s.tokens⟩) := by
      simp [receive_of_judge s (judge_eq_accepted_iff.2 hps.1), hcontext, htokens]
    rw [receiveAll_cons, List.forall_mem_cons, hstored]
    exact ⟨rfl, ih hps.2 hcontext ((poisoned_suppliedTo p s.tokens).trans htokens)⟩

/-- A session under way is followed by sessions of other states only. -/
theorem states_ne_of_pairwise
    (h : (front ++ p :: later).Pairwise fun p q => p.state ≠ q.state) :
    ∀ q ∈ later, q.state ≠ p.state := fun q hq =>
  ((List.pairwise_cons.1 (List.pairwise_append.1 h).2.1).1 q hq).symm

theorem sessionLeft {m : KeyMap Json}
    (h : (front ++ p :: later).Pairwise fun p q => p.state ≠ q.state) :
    SessionLeft p later
      (m.insertAll ((front ++ p :: later).flatMap CodePayload.bindings)) := by
  have hothers := states_ne_of_pairwise h
  -- a later session is in its turn followed by sessions of other states
  have hsplit : ∀ q ∈ later, ∃ front' later', front ++ p :: later = front' ++ q :: later' ∧
      ∀ q' ∈ later', q' ∈ later ∧ q'.state ≠ q.state := by
    intro q hq
    obtain ⟨between, later', rfl⟩ := List.append_of_mem hq
    have hlist : front ++ p :: (between ++ q :: later') =
        (front ++ p :: between) ++ q :: later' := by simp
    exact ⟨_, later', hlist, fun q' hq' =>
      ⟨by simp [hq'], states_ne_of_pairwise (hlist ▸ h) q' hq'⟩⟩
  constructor
  · intro hkeep
    exact get?_bindings_last (lookup_bindings_state p) fun q hq => ⟨hothers q hq, hkeep q hq⟩
  · intro hkeep
    exact get?_bindings_last (lookup_bindings_idTokenKey p) fun q hq =>
      ⟨hkeep q hq, mt idTokenKey_inj (hothers q hq)⟩
  · intro q hq hkey
    obtain ⟨front', later', hlist, hlater'⟩ := hsplit q hq
    rw [hlist, ← hkey]
    exact get?_bindings_last (lookup_bindings_idTokenKey q) fun q' hq' =>
      ⟨fun heq => hothers q' (hlater' q' hq').1 (heq.trans hkey),
        mt idTokenKey_inj (hlater' q' hq').2⟩
  · intro q hq hkey
    obtain ⟨front', later', hlist, hlater'⟩ := hsplit q hq
    rw [hlist, ← hkey]
    refine get?_bindings_last (lookup_bindings_state q) fun q' hq' => ⟨(hlater' q' hq').2, ?_⟩
    exact fun heq => hothers q' (hlater' q' hq').1 (idTokenKey_inj (heq.trans hkey))

theorem certificatesLeft {d : RunDefinition} {m : KeyMap Json} (hseeded : HoldsCertificates d m)
    (h : ps.Pairwise fun p q => p.state ≠ q.state) :
    CertificatesLeft d ps (m.insertAll (ps.flatMap CodePayload.bindings)) := by
  refine ⟨fun hkeep => ?_, fun hkeep => ?_, fun p hp hname => ?_⟩
  · rw [get?_bindings_of_ne fun q hq => ⟨hkeep q hq, (idTokenKey_ne_certificate q.state).1⟩,
      hseeded.signing]
  · rw [get?_bindings_of_ne fun q hq => ⟨hkeep q hq, (idTokenKey_ne_certificate q.state).2⟩,
      hseeded.transport]
  · obtain ⟨front, later, rfl⟩ := List.append_of_mem hp
    refine get?_bindings_last (lookup_bindings_state p) fun q hq =>
      ⟨states_ne_of_pairwise h q hq, ?_⟩
    rcases hname with hname | hname
    · exact hname ▸ (idTokenKey_ne_certificate q.state).1
    · exact hname ▸ (idTokenKey_ne_certificate q.state).2

end Accepted

/-- Accepted redirects of distinct states leave each other's codes and identity tokens and the
certificates of the run as they are, but for what they bind under the very same keys. -/
theorem sessions_side_by_side (d : RunDefinition) (ps : List CodePayload) (s : Stores)
    (hseeded : HoldsCertificates d s.context.entries)
    (hdistinct : ps.Pairwise fun p q => p.state ≠ q.state)
    (haccepted : ∀ r ∈ (receiveAll ps s).1, r.answer = .ok .accepted) :
    let after := (receiveAll ps s).2.context.entries
    (∀ front p later, ps = front ++ p :: later → SessionLeft p later after) ∧
    CertificatesLeft d ps after ∧
    ∀ key, (∀ p ∈ ps, p.state ≠ key ∧ p.state ++ "_id_token" ≠ key) →
      after.get? key = s.context.entries.get? key := by
  intro after
  have hafter : after = s.context.entries.insertAll (ps.flatMap CodePayload.bindings) :=
    entries_receiveAll haccepted
  rw [hafter]
  refine ⟨fun front p later hlist => ?_, certificatesLeft hseeded hdistinct,
    fun key hkey => get?_bindings_of_ne hkey⟩
  subst hlist
  exact sessionLeft hdistinct

/-- A run without a test case. -/
def idleRun : RunDefinition where
  discovery := ⟨"", "", "", none, none, none⟩
  specTests := []
  signingCert := ⟨"public", "private"⟩
  transportCert := ⟨"public", "private"⟩

/-- The context that the idle run has seeded, with no token set. -/
def idleStores : Stores := ⟨⟨KeyMap.empty.insertAll (Run.seeds idleRun), false⟩, .ofNames []⟩

theorem idleStores_seeded : HoldsCertificates idleRun idleStores.context.entries :=
  holdsCertificates_seeds (by simp [idleRun, DiscoveryDocument.customTests])

/-- Sessions of the idle run with the code of `boundPayload`. -/
def idleSessions (states : List String) : List CodePayload :=
  states.map fun state => { boundPayload with state }

theorem idleSessions_accepted {states : List String} (h : ∀ state ∈ states, state ≠ "") :
    ∀ r ∈ (receiveAll (idleSessions states) idleStores).1, r.answer = .ok .accepted := by
  refine receiveAll_accepted (fun p hp => ?_) rfl rfl
  obtain ⟨state, hstate, rfl⟩ := List.mem_map.1 hp
  exact ⟨h state hstate, (judge_eq_accepted_iff.1 judge_boundPayload).2⟩

/-- A session of the state under which another keeps its identity token takes the place of that. -/
theorem sessions_side_by_side_nested :
    let after := (receiveAll (idleSessions ["s", "s_id_token"]) idleStores).2.context.entries
    HoldsCertificates idleRun idleStores.context.entries ∧
    (∀ r ∈ (receiveAll (idleSessions ["s", "s_id_token"]) idleStores).1,
      r.answer = .ok .accepted) ∧
    after.get? "s" = some (.string "c") ∧
    after.get? "s_id_token" = some (.string "c") ∧
    HoldsCertificates idleRun after := by
  intro after
  have haccepted : ∀ r ∈ (receiveAll (idleSessions ["s", "s_id_token"]) idleStores).1,
      r.answer = .ok .accepted := idleSessions_accepted (by decide)
  obtain ⟨hsessions, hcertificates, -⟩ := sessions_side_by_side idleRun
    (idleSessions ["s", "s_id_token"]) idleStores idleStores_seeded (by decide) haccepted
  have hfirst := hsessions [] _ _ rfl
  refine ⟨idleStores_seeded, haccepted, hfirst.code (by decide),
    hfirst.idTokenLost _ (List.mem_singleton.2 rfl) rfl, ?_, ?_⟩
  · exact hcertificates.signing (by decide)
  · exact hcertificates.transport (by decide)

/-- It is not so that sessions of distinct states leave each other and the certificates alone: the
state may be the name of a certificate. -/
theorem sessions_not_apart :
    ¬ ∀ (d : RunDefinition) (ps : List CodePayload) (s : Stores),
      HoldsCertificates d s.context.entries → (ps.Pairwise fun p q => p.state ≠ q.state) →
      (∀ r ∈ (receiveAll ps s).1, r.answer = .ok .accepted) →
      let after := (receiveAll ps s).2.context.entries
      (∀ p ∈ ps, after.get? p.state = some (.string p.code) ∧
        after.get? (p.state ++ "_id_token") = some (.string p.idToken)) ∧
      HoldsCertificates d after := by
  intro h
  obtain ⟨hsessions, hcertificates⟩ := h idleRun (idleSessions ["SigningCert"]) idleStores
    idleStores_seeded (by decide) (idleSessions_accepted (by decide))
  have hcode := (hsessions _ (List.mem_singleton.2 rfl)).1
  have hsigning := hcertificates.signing
  exact absurd (hcode.symm.trans hsigning) (by simp [Certificate.contextValue])

end ConformanceSuite.Redirect
