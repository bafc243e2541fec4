import ConformanceSuite.Proofs.ConsentTokens
import ConformanceSuite.Proofs.LastOf
import ConformanceSuite.Proofs.Redirect.Receive

/-!
# Histories of redirects

Redirects are received one after another, each into the stores that the one in front of it left.
What the slots of the token sets hold can be read off the history: a slot holds the code of the last
redirect that was accepted for its set. `Reflects.receive` is the step and `Reflects.receiveAll` the
whole history.
-/

namespace ConformanceSuite.Redirect

/-- A redirect that was received, with the answer to it. -/
structure Received where
  payload : CodePayload
  answer : Except Error Outcome

/-- A redirect was accepted for the token set of a name. -/
structure Received.AcceptedFor (r : Received) (name : String) : Prop where
  accepted : r.answer = .ok .accepted
  state : r.payload.state = name

/-- Receive redirects in order, each into the stores that are left. -/
def receiveAll : List CodePayload → Stores → List Received × Stores
  | [], stores => ([], stores)
  | p :: rest, stores =>
    let (answer, stores) := receive p stores
    let (later, stores) := receiveAll rest stores
    (⟨p, answer⟩ :: later, stores)

@[simp] theorem receiveAll_nil (s : Stores) : receiveAll [] s = ([], s) := rfl

@[simp] theorem receiveAll_cons (p : CodePayload) (rest : List CodePayload) (s : Stores) :
    receiveAll (p :: rest) s = (⟨p, (receive p s).1⟩ :: (receiveAll rest (receive p s).2).1,
      (receiveAll rest (receive p s).2).2) := rfl

/-- The last redirect of a history that was accepted for a set bore a code. -/
def LastGrant (history : List Received) (name code : String) : Prop :=
  ∃ before r after, history = before ++ r :: after ∧ r.AcceptedFor name ∧ r.payload.code = code ∧
    ∀ later ∈ after, ¬ later.AcceptedFor name

/-- Sound stores that reflect a history of redirects: there is a slot for each set, which holds the
code of the last redirect that was accepted for it. -/
structure Reflects (names : List String) (history : List Received) (s : Stores) : Prop where
  context : s.context.poisoned = false
  tokens : s.tokens.poisoned = false
  registered : ∀ name, s.tokens.sets.contains name = true ↔ name ∈ names
  granted : ∀ name ∈ names, ∀ code,
    s.tokens.sets.get? name = some (some code) ↔ LastGrant history name code

/-! ### Last grants -/

theorem lastGrant_iff {history : List Received} {name code : String} :
    LastGrant history name code ↔
      LastOf (fun _ r => r.AcceptedFor name ∧ r.payload.code = code) (·.AcceptedFor name)
        history := by
  simp only [LastGrant, LastOf, and_assoc]

theorem not_lastGrant_nil (name code : String) : ¬ LastGrant [] name code :=
  mt lastGrant_iff.1 not_lastOf_nil

/-- A redirect that was accepted for a set decides what was last granted for it, and any other one
changes nothing. -/
theorem lastGrant_append_singleton {history : List Received} {r : Received} {name code : String} :
    LastGrant (history ++ [r]) name code ↔
      (r.AcceptedFor name ∧ r.payload.code = code) ∨
        (¬ r.AcceptedFor name ∧ LastGrant history name code) := by
  rw [lastGrant_iff, lastGrant_iff, lastOf_append_singleton]

/-- Something was last granted for a set exactly if a redirect was accepted for it. -/
theorem exists_lastGrant_iff {history : List Received} {name : String} :
    (∃ code, LastGrant history name code) ↔ ∃ r ∈ history, r.AcceptedFor name := by
  induction history using List.reverseRecOn with
  | nil => simp [not_lastGrant_nil]
  | append_singleton history r ih =>
    simp only [lastGrant_append_singleton, List.mem_append, List.mem_singleton]
    by_cases hr : r.AcceptedFor name
    · simp only [hr, true_and, not_true_eq_false, false_and, or_false, exists_eq', true_iff]
      exact ⟨r, .inr rfl, hr⟩
    · simp only [hr, false_and, not_false_eq_true, true_and, false_or, ih]
      constructor
      · rintro ⟨q, hq, hacc⟩
        exact ⟨q, .inl hq, hacc⟩
      · rintro ⟨q, hq | rfl, hacc⟩
        · exact ⟨q, hq, hacc⟩
        · exact absurd hacc hr

/-! ### One redirect -/

/-- Over sound stores a redirect is accepted and stored, or leaves the stores alone. -/
theorem receive_cases (p : CodePayload) {s : Stores} (hcontext : s.context.poisoned = false)
    (htokens : s.tokens.poisoned = false) :
    (p.judge = .ok .accepted ∧
      receive p s = (.ok .accepted, ⟨p.boundIn s.context, p.suppliedTo s.tokens⟩)) ∨
    (p.judge ≠ .ok .accepted ∧ receive p s = (p.judge, s)) := by
  by_cases hjudge : p.judge = .ok .accepted
  · left
    refine ⟨hjudge, ?_⟩
    simp [receive_of_judge s hjudge, hcontext, htokens]
  · exact .inr ⟨hjudge, receive_of_judge_ne s hjudge⟩

/-- Supplying a code fills the slot of its state, if there is one. -/
theorem get?_suppliedTo (p : CodePayload) (c : ConsentTokens) (name : String) :
    (p.suppliedTo c).sets.get? name =
      if p.state = name ∧ c.sets.contains name = true then some (some p.code)
      else c.sets.get? name := by
  unfold CodePayload.suppliedTo
  by_cases hstate : p.state = name
  · subst hstate
    cases h : c.sets.contains p.state <;> simp [KeyMap.get?_insert]
  · split <;> simp [KeyMap.get?_insert, hstate]

theorem contains_suppliedTo (p : CodePayload) (c : ConsentTokens) (name : String) :
    (p.suppliedTo c).sets.contains name = c.sets.contains name := by
  unfold KeyMap.contains
  rw [get?_suppliedTo]
  split
  · rename_i h
    exact h.2.symm
  · rfl

theorem poisoned_suppliedTo (p : CodePayload) (c : ConsentTokens) :
    (p.suppliedTo c).poisoned = c.poisoned := by
  unfold CodePayload.suppliedTo
  split <;> rfl

/-- Stores that reflect a history reflect it with one more redirect when that has been received. -/
theorem Reflects.receive {names : List String} {history : List Received} {s : Stores}
    (h : Reflects names history s) (p : CodePayload) :
    Reflects names (history ++ [⟨p, (receive p s).1⟩]) (Redirect.receive p s).2 := by
  rcases receive_cases p h.context h.tokens with ⟨-, hr⟩ | ⟨hjudge, hr⟩
  · rw [hr]
    refine ⟨h.context, ?_, fun name => ?_, fun name hname code => ?_⟩
    · rw [poisoned_suppliedTo, h.tokens]
    · rw [contains_suppliedTo, h.registered]
    · have hslot : s.tokens.sets.contains name = true := (h.registered name).2 hname
      rw [get?_suppliedTo, lastGrant_append_singleton]
      by_cases hstate : p.state = name
      · have hacc : Received.AcceptedFor ⟨p, .ok .accepted⟩ name := ⟨rfl, hstate⟩
        simp [hstate, hslot, hacc]
      · have hacc : ¬ Received.AcceptedFor ⟨p, .ok .accepted⟩ name := fun hacc => hstate hacc.state
        simp [hstate, hacc, h.granted name hname]
  · rw [hr]
    refine ⟨h.context, h.tokens, h.registered, fun name hname code => ?_⟩
    have hacc : ¬ Received.AcceptedFor ⟨p, p.judge⟩ name := fun hacc => hjudge hacc.accepted
    simp [lastGrant_append_singleton, hacc, h.granted name hname]

/-! ### All redirects -/

theorem Reflects.receiveAll {names : List String} {history : List Received} {s : Stores}
    (h : Reflects names history s) (ps : List CodePayload) :
    Reflects names (history ++ (receiveAll ps s).1) (Redirect.receiveAll ps s).2 := by
  induction ps generalizing history s with
  | nil => simpa using h
  | cons p rest ih =>
    have hrest := ih (h.receive p)
    rwa [List.append_assoc] at hrest

/-- Fresh slots reflect the history in which nothing has been received. -/
theorem Reflects.fresh {context : Context} (hsound : context.poisoned = false)
    (names : List String) : Reflects names [] ⟨context, .ofNames names⟩ where
  context := hsound
  tokens := rfl
  registered name := by
    unfold KeyMap.contains
    rw [ConsentTokens.get?_ofNames]
    split <;> simpa
  granted name hname code := by
    simp [ConsentTokens.get?_ofNames, hname, not_lastGrant_nil]

theorem judge_of_receive {p : CodePayload} {s : Stores}
    (h : (receive p s).1 = .ok .accepted) : p.judge = .ok .accepted := by
  by_cases hjudge : p.judge = .ok .accepted
  · exact hjudge
  · rwa [receive_of_judge_ne s hjudge] at h

/-- Every redirect that was accepted is one of those received, and its identity token binds its
code. -/
theorem exists_mem_of_accepted {ps : List CodePayload} {s : Stores} {r : Received}
    (hr : r ∈ (receiveAll ps s).1) (haccepted : r.answer = .ok .accepted) :
    r.payload ∈ ps ∧ ∃ token d, IdToken.ofString r.payload.idToken = .ok token ∧
      Supported token.algorithm d ∧ BindsCode r.payload.idToken r.payload.code d := by
  induction ps generalizing s with
  | nil => simp at hr
  | cons p rest ih =>
    rw [receiveAll_cons] at hr
    rcases List.mem_cons.1 hr with rfl | hr
    · have hjudge := judge_of_receive haccepted
      exact ⟨List.mem_cons_self, ((judge_decided p).accepted.1 hjudge).2⟩
    · obtain ⟨hmem, hbound⟩ := ih hr
      exact ⟨List.mem_cons_of_mem _ hmem, hbound⟩

end ConformanceSuite.Redirect
