import ConformanceSuite.Proofs.Interleaving
import ConformanceSuite.Proofs.Redirect.History

/-!
# Redirects that are received at once

Each write of a redirect is made under the lock of its store, and between two writes of one redirect
those of others may fall. So redirects for one state, received at once, may leave the code of one
and the identity token of another, `interleaved_torn`; what they leave is always what was written
last, key by key and slot by slot, `interleaved_leaves_last`.
-/

namespace ConformanceSuite.Redirect

/-! ### Redirects under way -/

/-- How far a redirect has got: it has come in, it has writes left, or it has been answered. -/
inductive Progress where
  | received
  | storing (left : List Write)
  | answered (answer : Except Error Outcome)

/-- A redirect under way. -/
structure InFlight where
  payload : CodePayload
  progress : Progress

/-- Stores, and the writes performed on them in order, each with the redirect that it was for. -/
structure Journal where
  stores : Stores
  performed : List (CodePayload × Write)

/-- The next step of a redirect: to be judged, which takes no store, or to perform one write, or to
be answered when there is none left. -/
def InFlight.step (r : InFlight) (j : Journal) : InFlight × Journal :=
  match r.progress with
  | .received =>
    match r.payload.judge with
    | .ok .accepted => (⟨r.payload, .storing r.payload.writes⟩, j)
    | answer => (⟨r.payload, .answered answer⟩, j)
  | .storing [] => (⟨r.payload, .answered (.ok .accepted)⟩, j)
  | .storing (write :: left) =>
    match write.perform j.stores with
    | .error e => (⟨r.payload, .answered (.error e)⟩, j)
    | .ok stores =>
      (⟨r.payload, .storing left⟩, ⟨stores, j.performed ++ [(r.payload, write)]⟩)
  | .answered _ => (r, j)

/-- Redirects over stores that nothing else writes to. -/
def concurrent : Interleaving Journal InFlight Empty := ⟨InFlight.step, nofun⟩

/-- Redirects that have just come in. -/
def arriving (ps : List CodePayload) (s : Stores) : Configuration Journal InFlight :=
  ⟨⟨s, []⟩, ps.map (⟨·, .received⟩)⟩

/-- A redirect has been answered. -/
def InFlight.Answered (r : InFlight) : Prop := ∃ answer, r.progress = .answered answer

theorem step_received {p : CodePayload} {j : Journal} (h : p.judge = .ok .accepted) :
    InFlight.step ⟨p, .received⟩ j = (⟨p, .storing p.writes⟩, j) := by
  simp only [InFlight.step, h]

theorem step_received_ne {p : CodePayload} {j : Journal} (h : p.judge ≠ .ok .accepted) :
    InFlight.step ⟨p, .received⟩ j = (⟨p, .answered p.judge⟩, j) := by
  unfold InFlight.step
  split <;> simp_all

theorem advance_concurrent (r : InFlight) (j : Journal) : concurrent.advance r j = r.step j := rfl

theorem alone_answered (p : CodePayload) (answer : Except Error Outcome) (j : Journal)
    (n : Nat) : concurrent.alone n (⟨p, .answered answer⟩, j) = (⟨p, .answered answer⟩, j) := by
  induction n with
  | zero => rfl
  | succ n ih => exact ih

/-- A redirect that is left alone performs its writes up to the first that fails. -/
theorem alone_storing (p : CodePayload) (left : List Write) (j : Journal) : ∃ performed,
    concurrent.alone (left.length + 1) (⟨p, .storing left⟩, j) =
      (⟨p, .answered ((performAll left j.stores).1.map fun _ => .accepted)⟩,
        ⟨(performAll left j.stores).2, performed⟩) := by
  induction left generalizing j with
  | nil => exact ⟨j.performed, rfl⟩
  | cons write left ih =>
    rw [List.length_cons, Interleaving.alone, advance_concurrent]
    cases hwrite : write.perform j.stores with
    | error e =>
      simp only [InFlight.step, hwrite, performAll, alone_answered]
      exact ⟨j.performed, rfl⟩
    | ok stores =>
      simp only [InFlight.step, hwrite, performAll]
      exact ih ⟨stores, j.performed ++ [(p, write)]⟩

/-- A redirect that nothing comes between is received as a whole. -/
theorem alone_receive (p : CodePayload) (j : Journal) : ∃ performed,
    concurrent.alone 5 (⟨p, .received⟩, j) =
      (⟨p, .answered (receive p j.stores).1⟩, ⟨(receive p j.stores).2, performed⟩) := by
  change ∃ performed, concurrent.alone 4 (InFlight.step ⟨p, .received⟩ j) = _
  by_cases hjudge : p.judge = .ok .accepted
  · obtain ⟨performed, halone⟩ := alone_storing p p.writes j
    refine ⟨performed, ?_⟩
    rw [step_received hjudge]
    refine halone.trans ?_
    simp only [receive, hjudge]
    cases performAll p.writes j.stores with
    | mk result stores => cases result <;> rfl
  · rw [step_received_ne hjudge, receive_of_judge_ne _ hjudge, alone_answered]
    exact ⟨j.performed, rfl⟩

/-- Five turns on end receive a redirect as a whole, in the middle of any others. -/
theorem run_uninterrupted {c : Configuration Journal InFlight} {position : Nat} {p : CodePayload}
    (h : c.calls[position]? = some ⟨p, .received⟩) : ∃ performed,
    concurrent.run (List.replicate 5 (.call position)) c =
      ⟨⟨(receive p c.shared.stores).2, performed⟩,
        c.calls.set position ⟨p, .answered (receive p c.shared.stores).1⟩⟩ := by
  obtain ⟨performed, halone⟩ := alone_receive p c.shared
  exact ⟨performed, by rw [Interleaving.run_replicate h, halone]⟩

/-! ### Writes over sound stores -/

/-- No store is poisoned. -/
structure Stores.Sound (s : Stores) : Prop where
  context : s.context.poisoned = false
  tokens : s.tokens.poisoned = false

/-- What a write makes of sound stores. -/
def Write.effect (s : Stores) : Write → Stores
  | .put key value =>
    { s with context := { s.context with
        entries := s.context.entries.insert key (.string value) } }
  | .supply set token =>
    if s.tokens.sets.contains set then
      { s with tokens := { s.tokens with sets := s.tokens.sets.insert set (some token) } }
    else s

/-- What a write changes: the value of a key, or the slot of a token set. -/
inductive Target where
  | key (name : String)
  | slot (name : String)
  deriving DecidableEq

/-- What a write changes. -/
def Write.target : Write → Target
  | .put key _ => .key key
  | .supply set _ => .slot set

/-- The text that a write leaves at its target. -/
def Write.text : Write → String
  | .put _ value => value
  | .supply _ token => token

/-- The last write to a target, with its redirect. -/
def lastTo (target : Target) (performed : List (CodePayload × Write)) :
    Option (CodePayload × Write) :=
  performed.reverse.find? fun e => e.2.target = target

/-- Stores after writes in order. -/
def effects (s : Stores) (performed : List (CodePayload × Write)) : Stores :=
  performed.foldl (fun s e => e.2.effect s) s

section Effect

variable {s : Stores} {w : Write} {performed : List (CodePayload × Write)}

@[simp] theorem sound_effect : (w.effect s).Sound ↔ s.Sound := by
  have h : (w.effect s).context.poisoned = s.context.poisoned ∧
      (w.effect s).tokens.poisoned = s.tokens.poisoned := by
    cases w with
    | put key value => exact ⟨rfl, rfl⟩
    | supply set token =>
      simp only [Write.effect]
      split <;> exact ⟨rfl, rfl⟩
  exact ⟨fun h' => ⟨h.1 ▸ h'.context, h.2 ▸ h'.tokens⟩,
    fun h' => ⟨h.1.trans h'.context, h.2.trans h'.tokens⟩⟩

theorem Write.perform_of_sound (h : s.Sound) : w.perform s = .ok (w.effect s) := by
  cases w with
  | put key value => simp [perform, Context.put, Context.putAll, h.context, effect]
  | supply set token =>
    cases hset : s.tokens.sets.contains set <;>
      simp [perform, ConsentTokens.supply, h.tokens, hset, effect]

theorem entries_effect (s : Stores) (w : Write) (key : String) :
    (w.effect s).context.entries.get? key =
      if w.target = .key key then some (.string w.text) else s.context.entries.get? key := by
  cases w with
  | put name value => simp [Write.effect, KeyMap.get?_insert, Write.target, Write.text]
  | supply set token =>
    simp only [Write.effect, Write.target, reduceCtorEq, if_false]
    split <;> rfl

theorem slots_effect (w : Write) {name : String} (h : s.tokens.sets.contains name = true) :
    (w.effect s).tokens.sets.get? name =
      if w.target = .slot name then some (some w.text) else s.tokens.sets.get? name := by
  cases w with
  | put key value => simp [Write.effect, Write.target]
  | supply set token =>
    simp only [Write.effect, Write.target, Target.slot.injEq, Write.text]
    by_cases hset : set = name
    · subst hset
      simp [h, KeyMap.get?_insert]
    · split <;> simp [KeyMap.get?_insert, hset]

theorem contains_effect (s : Stores) (w : Write) (name : String) :
    (w.effect s).tokens.sets.contains name = s.tokens.sets.contains name := by
  cases w with
  | put key value => rfl
  | supply set token =>
    simp only [Write.effect]
    split
    · rename_i hset
      by_cases heq : set = name
      · subst heq
        simp [KeyMap.contains, KeyMap.get?_insert, hset.symm]
      · simp [KeyMap.contains, KeyMap.get?_insert, heq]
    · rfl

@[simp] theorem effects_append_singleton (s : Stores) (e : CodePayload × Write) :
    effects s (performed ++ [e]) = e.2.effect (effects s performed) := by
  simp [effects]

theorem lastTo_append_singleton (target : Target) (e : CodePayload × Write) :
    lastTo target (performed ++ [e]) =
      if e.2.target = target then some e else lastTo target performed := by
  by_cases h : e.2.target = target <;> simp [lastTo, h]

theorem lastTo_eq_some {target : Target} {e : CodePayload × Write}
    (h : lastTo target performed = some e) : e ∈ performed ∧ e.2.target = target :=
  ⟨List.mem_reverse.1 (List.mem_of_find?_eq_some h), by simpa using List.find?_some h⟩

theorem lastTo_eq_none_iff {target : Target} :
    lastTo target performed = none ↔ ∀ e ∈ performed, e.2.target ≠ target := by
  simp [lastTo]

/-- A key is bound to what was put there last. -/
theorem entries_effects (s : Stores) (performed : List (CodePayload × Write)) (key : String) :
    (effects s performed).context.entries.get? key =
      ((lastTo (.key key) performed).map fun e => Json.string e.2.text).or
        (s.context.entries.get? key) := by
  induction performed using List.reverseRecOn with
  | nil => rfl
  | append_singleton front e ih =>
    rw [effects_append_singleton, entries_effect, lastTo_append_singleton, ih]
    split <;> rfl

theorem contains_effects (s : Stores) (performed : List (CodePayload × Write)) (name : String) :
    (effects s performed).tokens.sets.contains name = s.tokens.sets.contains name := by
  induction performed using List.reverseRecOn with
  | nil => rfl
  | append_singleton front e ih => rw [effects_append_singleton, contains_effect, ih]

/-- The slot of a registered set holds what was supplied last. -/
theorem slots_effects (s : Stores) (performed : List (CodePayload × Write)) {name : String}
    (h : s.tokens.sets.contains name = true) :
    (effects s performed).tokens.sets.get? name =
      ((lastTo (.slot name) performed).map fun e => some e.2.text).or
        (s.tokens.sets.get? name) := by
  induction performed using List.reverseRecOn with
  | nil => rfl
  | append_singleton front e ih =>
    rw [effects_append_singleton, slots_effect _ ((contains_effects s front name).trans h),
      lastTo_append_singleton, ih]
    split <;> rfl

end Effect

/-! ### What every schedule keeps -/

/-- A journal of redirects over sound stores: the stores are what the writes made of them, and each
write is one of its redirect. -/
structure Journal.Of (ps : List CodePayload) (before : Stores) (j : Journal) : Prop where
  sound : j.stores.Sound
  stores : j.stores = effects before j.performed
  own : ∀ e ∈ j.performed, e.1 ∈ ps ∧ e.2 ∈ e.1.writes

/-- A redirect is in step with a journal: what it has not left to write has been performed, and it
is answered as accepted when all has been. -/
def InFlight.InStep (ps : List CodePayload) (j : Journal) (r : InFlight) : Prop :=
  r.payload ∈ ps ∧
  match r.progress with
  | .received => True
  | .storing left => ∃ done, r.payload.writes = done ++ left ∧
      ∀ w ∈ done, (r.payload, w) ∈ j.performed
  | .answered answer => answer = .ok .accepted ∧
      ∀ w ∈ r.payload.writes, (r.payload, w) ∈ j.performed

section Keeps

variable {ps : List CodePayload} {before : Stores} {j j' : Journal} {r : InFlight}

theorem step_storing {p : CodePayload} {w : Write} {left : List Write} (h : j.stores.Sound) :
    InFlight.step ⟨p, .storing (w :: left)⟩ j =
      (⟨p, .storing left⟩, ⟨w.effect j.stores, j.performed ++ [(p, w)]⟩) := by
  simp only [InFlight.step, Write.perform_of_sound h]

/-- A step of a redirect performs its next write, or leaves the journal alone. -/
theorem step_journal (r : InFlight) (h : j.stores.Sound) :
    (r.step j).2 = j ∨ ∃ w left, r.progress = .storing (w :: left) ∧
      r.step j = (⟨r.payload, .storing left⟩,
        ⟨w.effect j.stores, j.performed ++ [(r.payload, w)]⟩) := by
  obtain ⟨p, progress⟩ := r
  cases progress with
  | received =>
    left
    simp only [InFlight.step]
    split <;> rfl
  | storing left =>
    cases left with
    | nil => exact .inl rfl
    | cons w left => exact .inr ⟨w, left, rfl, step_storing h⟩
  | answered answer => exact .inl rfl

theorem InFlight.InStep.mono (h : r.InStep ps j) (hgrow : ∀ e ∈ j.performed, e ∈ j'.performed) :
    r.InStep ps j' := by
  obtain ⟨p, progress⟩ := r
  obtain ⟨hmem, h⟩ := h
  refine ⟨hmem, ?_⟩
  cases progress with
  | received => trivial
  | storing left =>
    obtain ⟨done, hdone, hperformed⟩ := h
    exact ⟨done, hdone, fun w hw => hgrow _ (hperformed w hw)⟩
  | answered answer => exact ⟨h.1, fun w hw => hgrow _ (h.2 w hw)⟩

theorem Journal.Of.step (h : j.Of ps before) (hr : r.InStep ps j) : (r.step j).2.Of ps before := by
  rcases step_journal r h.sound with hsame | ⟨w, left, hleft, hstep⟩
  · rwa [hsame]
  · obtain ⟨hmem, hr⟩ := hr
    rw [hleft] at hr
    obtain ⟨done, hdone, -⟩ := hr
    rw [hstep]
    refine ⟨sound_effect.2 h.sound, by simp [h.stores], fun e he => ?_⟩
    rcases List.mem_append.1 he with he | he
    · exact h.own e he
    · rw [List.mem_singleton.1 he]
      exact ⟨hmem, by simp [hdone]⟩

theorem performed_step (r : InFlight) (h : j.stores.Sound) :
    ∀ e ∈ j.performed, e ∈ (r.step j).2.performed := by
  rcases step_journal r h with hsame | ⟨w, left, -, hstep⟩
  · rw [hsame]
    exact fun e he => he
  · rw [hstep]
    exact fun e he => List.mem_append_left _ he

theorem InFlight.InStep.step (hps : ∀ p ∈ ps, p.judge = .ok .accepted) (h : j.stores.Sound)
    (hr : r.InStep ps j) : (r.step j).1.InStep ps (r.step j).2 := by
  obtain ⟨p, progress⟩ := r
  obtain ⟨hmem, hr⟩ := hr
  cases progress with
  | received =>
    rw [step_received (hps p hmem)]
    exact ⟨hmem, [], rfl, by simp⟩
  | storing left =>
    obtain ⟨done, hdone, hperformed⟩ := hr
    cases left with
    | nil =>
      rw [List.append_nil] at hdone
      exact ⟨hmem, rfl, hdone ▸ hperformed⟩
    | cons w left =>
      rw [step_storing h]
      refine ⟨hmem, done ++ [w], by simpa using hdone, fun w' hw => ?_⟩
      rcases List.mem_append.1 hw with hw | hw
      · exact List.mem_append_left _ (hperformed w' hw)
      · exact List.mem_append_right _ (by simpa using List.mem_singleton.1 hw)
  | answered answer => exact ⟨hmem, hr⟩

theorem concurrent_keeps (hps : ∀ p ∈ ps, p.judge = .ok .accepted)
    (schedule : List (Turn Empty)) :
    concurrent.Keeps schedule (Journal.Of ps before) (fun j r => r.InStep ps j) where
  shared _ _ hj hr := hj.step hr
  own _ _ hj hr := hr.step hps hj.sound
  others _ r _ hj _ hother := hother.mono (performed_step r hj.sound)
  world _ change := change.elim

/-- After any schedule the journal is one of the redirects, and each of them is in step with it. -/
theorem journal_run (hps : ∀ p ∈ ps, p.judge = .ok .accepted) (hsound : before.Sound)
    (schedule : List (Turn Empty)) :
    (concurrent.run schedule (arriving ps before)).shared.Of ps before ∧
      ∀ r ∈ (concurrent.run schedule (arriving ps before)).calls,
        r.InStep ps (concurrent.run schedule (arriving ps before)).shared := by
  refine (concurrent_keeps hps schedule).run ⟨hsound, rfl, by simp [arriving]⟩ fun r hr => ?_
  obtain ⟨p, hp, rfl⟩ := List.mem_map.1 hr
  exact ⟨hp, trivial⟩

/-- Redirects stay those that came in. -/
theorem payloads_run (schedule : List (Turn Empty)) :
    (concurrent.run schedule (arriving ps before)).calls.map InFlight.payload = ps := by
  rw [Interleaving.map_calls_run]
  · simp [arriving, Function.comp_def]
  · intro r j
    change (r.step j).1.payload = r.payload
    unfold InFlight.step
    split
    · split <;> rfl
    · rfl
    · split <;> rfl
    · rfl

/-- The steps that a redirect may still need. -/
def InFlight.remaining (r : InFlight) : Nat :=
  match r.progress with
  | .received => 5
  | .storing left => left.length + 1
  | .answered _ => 0

theorem remaining_step (r : InFlight) (j : Journal) :
    (r.step j).1.remaining ≤ r.remaining - 1 := by
  obtain ⟨p, progress⟩ := r
  cases progress with
  | received =>
    by_cases hjudge : p.judge = .ok .accepted
    · rw [step_received hjudge]
      exact Nat.le_refl 4
    · rw [step_received_ne hjudge]
      exact Nat.zero_le _
  | storing left =>
    cases left with
    | nil => exact Nat.zero_le _
    | cons w left =>
      cases hwrite : w.perform j.stores <;> simp [InFlight.step, hwrite, InFlight.remaining]
  | answered answer => exact Nat.zero_le _

theorem answered_of_remaining (h : r.remaining = 0) : r.Answered := by
  obtain ⟨p, progress⟩ := r
  cases progress with
  | received => cases h
  | storing left => cases h
  | answered answer => exact ⟨answer, rfl⟩

/-- Five turns are enough for a redirect to be answered, whatever falls between them. -/
theorem answered_of_turns {schedule : List (Turn Empty)}
    (h : ∀ i < ps.length, 5 ≤ schedule.countP (Turn.isCall i)) :
    ∀ r ∈ (concurrent.run schedule (arriving ps before)).calls, r.Answered := by
  intro r hr
  obtain ⟨i, hi⟩ := List.mem_iff_getElem?.1 hr
  have hpayloads : (concurrent.run schedule (arriving ps before)).calls.map InFlight.payload = ps :=
    payloads_run schedule
  have hpayload : ps[i]? = some r.payload := by
    rw [← hpayloads, List.getElem?_map, hi, Option.map_some]
  have hstart : (arriving ps before).calls[i]? = some ⟨r.payload, .received⟩ := by
    simp [arriving, hpayload]
  have hmeasure : ∃ after, (concurrent.run schedule (arriving ps before)).calls[i]? = some after ∧
      after.remaining ≤ 5 - schedule.countP (Turn.isCall i) :=
    Interleaving.measure_run remaining_step hstart
  obtain ⟨after, hafter, hle⟩ := hmeasure
  obtain rfl := Option.some.inj (hi.symm.trans hafter)
  have hturns := h i (List.getElem?_eq_some_iff.1 hpayload).1
  exact answered_of_remaining (by omega)

end Keeps

/-! ### What is left -/

/-- What redirects for one state leave, if the last to write the code was that of `p`, the last to
write the identity token that of `q`, and the last to supply the set that of `r`. -/
structure LeftBy (state : String) (p q r : CodePayload) (before after : Stores) : Prop where
  sound : after.Sound
  entries : ∀ key, after.context.entries.get? key =
    if key = state ++ "_id_token" then some (.string q.idToken)
    else if key = state then some (.string p.code)
    else before.context.entries.get? key
  slots : ∀ name, after.tokens.sets.get? name =
    if name = state ∧ before.tokens.sets.contains name = true then some (some r.code)
    else before.tokens.sets.get? name

section Left

variable {ps : List CodePayload} {before : Stores} {state : String} {j : Journal}

/-- Among the writes of a redirect each target has one write. -/
theorem writes_target {p : CodePayload} {w : Write} (hw : w ∈ p.writes) :
    (w.target = .key p.state → w = .put p.state p.code) ∧
    (w.target = .key (idTokenKey p.state) → w = .put (idTokenKey p.state) p.idToken) ∧
    (w.target = .slot p.state → w = .supply p.state p.code) ∧
    (w.target = .key p.state ∨ w.target = .key (idTokenKey p.state) ∨
      w.target = .slot p.state) := by
  have hne := idTokenKey_ne p.state
  simp only [CodePayload.writes, List.mem_cons, List.not_mem_nil, or_false] at hw
  rcases hw with rfl | rfl | rfl <;> simp [Write.target, hne, hne.symm]

/-- What was last written to a target is one of the writes of a redirect. -/
theorem Journal.Of.last (h : j.Of ps before) {target : Target} {e : CodePayload × Write}
    (hlast : lastTo target j.performed = some e) :
    e.1 ∈ ps ∧ e.2 ∈ e.1.writes ∧ e.2.target = target := by
  obtain ⟨hmem, htarget⟩ := lastTo_eq_some hlast
  exact ⟨(h.own e hmem).1, (h.own e hmem).2, htarget⟩

/-- Redirects for one state leave what each target was last given. -/
theorem Journal.Of.leftBy (h : j.Of ps before) (hps : ∀ p ∈ ps, p.state = state)
    {p q r : CodePayload}
    (hcode : lastTo (.key state) j.performed = some (p, .put state p.code))
    (htoken : lastTo (.key (idTokenKey state)) j.performed =
      some (q, .put (idTokenKey state) q.idToken))
    (hslot : lastTo (.slot state) j.performed = some (r, .supply state r.code)) :
    LeftBy state p q r before j.stores := by
  have hother : ∀ target : Target, target ≠ .key state → target ≠ .key (idTokenKey state) →
      target ≠ .slot state → lastTo target j.performed = none := by
    intro target hkey hidKey hset
    rw [lastTo_eq_none_iff]
    intro e he htarget
    obtain ⟨hmem, hw⟩ := h.own e he
    have hcases := (writes_target hw).2.2.2
    rw [hps _ hmem, htarget] at hcases
    rcases hcases with heq | heq | heq
    · exact hkey heq
    · exact hidKey heq
    · exact hset heq
  refine ⟨h.sound, fun key => ?_, fun name => ?_⟩
  · rw [h.stores, entries_effects]
    change _ = if key = idTokenKey state then _ else _
    by_cases hidKey : key = idTokenKey state
    · simp [hidKey, htoken, Write.text]
    · by_cases hkey : key = state
      · simp [hkey, (idTokenKey_ne state).symm, hcode, Write.text]
      · simp [hidKey, hkey, hother (.key key)]
  · rw [h.stores]
    cases hname : before.tokens.sets.contains name with
    | true =>
      rw [slots_effects _ _ hname]
      by_cases hset : name = state
      · simp [hset, hslot, Write.text]
      · simp [hset, hother (.slot name)]
    | false =>
      have hnone : ∀ s : Stores, s.tokens.sets.contains name = false →
          s.tokens.sets.get? name = none := fun s hs => by simpa [KeyMap.contains] using hs
      simp [hnone _ hname, hnone _ ((contains_effects before j.performed name).trans hname)]

/-- What redirects for one state leave when one of them has performed all its writes: each target
has been written, and the last to do so decides. -/
theorem Journal.Of.exists_leftBy (h : j.Of ps before) (hps : ∀ p ∈ ps, p.state = state)
    {p₀ : CodePayload} (hp₀ : p₀ ∈ ps) (hdone : ∀ w ∈ p₀.writes, (p₀, w) ∈ j.performed) :
    ∃ p ∈ ps, ∃ q ∈ ps, ∃ r ∈ ps,
      lastTo (.key state) j.performed = some (p, .put state p.code) ∧
      lastTo (.key (idTokenKey state)) j.performed =
        some (q, .put (idTokenKey state) q.idToken) ∧
      lastTo (.slot state) j.performed = some (r, .supply state r.code) ∧
      LeftBy state p q r before j.stores := by
  have hlast : ∀ w ∈ p₀.writes, ∃ p ∈ ps, ∃ w' ∈ p.writes, w'.target = w.target ∧
      lastTo w.target j.performed = some (p, w') := by
    intro w hw
    cases hfound : lastTo w.target j.performed with
    | none => exact absurd rfl (lastTo_eq_none_iff.1 hfound _ (hdone w hw))
    | some e =>
      obtain ⟨hmem, hwrite, htarget⟩ := h.last hfound
      exact ⟨e.1, hmem, e.2, hwrite, htarget, rfl⟩
  simp only [CodePayload.writes, List.forall_mem_cons, hps p₀ hp₀, Write.target] at hlast
  obtain ⟨⟨p, hp, w, hw, hwt, hcode⟩, ⟨q, hq, w', hw', hwt', htoken⟩,
    ⟨r, hr, w'', hw'', hwt'', hslot⟩, -⟩ := hlast
  -- among the writes of a redirect the target tells which one it is
  obtain rfl := (writes_target hw).1 (hps p hp ▸ hwt)
  obtain rfl := (writes_target hw').2.1 (hps q hq ▸ hwt')
  obtain rfl := (writes_target hw'').2.2.1 (hps r hr ▸ hwt'')
  rw [hps p hp] at hcode
  rw [hps q hq] at htoken
  rw [hps r hr] at hslot
  exact ⟨p, hp, q, hq, r, hr, hcode, htoken, hslot, h.leftBy hps hcode htoken hslot⟩

/-- The writes of one redirect that come last, with no other between them, leave what it bears. -/
theorem Journal.Of.leftBy_one (h : j.Of ps before) (hps : ∀ p ∈ ps, p.state = state)
    {p : CodePayload} (hp : p ∈ ps) {front : List (CodePayload × Write)}
    (hfront : j.performed = front ++ p.writes.map (p, ·)) : LeftBy state p p p before j.stores := by
  have hne := idTokenKey_ne state
  refine h.leftBy hps ?_ ?_ ?_ <;> rw [hfront] <;>
    simp [lastTo, CodePayload.writes, hps p hp, Write.target, hne]

end Left

/-- Redirects for one state, all with bound codes, over sound stores: however their writes fall,
when all have been answered all are accepted, and the stores hold the code, the identity token and
the supplied code that were written last, which need not be those of one redirect. They are if the
writes of one redirect come last and with no other between them. -/
theorem interleaved_leaves_last (ps : List CodePayload) (state : String) (before : Stores)
    (schedule : List (Turn Empty)) (hps : ∀ p ∈ ps, p.state = state ∧ p.Bound) (hsome : ps ≠ [])
    (hstate : state ≠ "") (hsound : before.Sound)
    (hanswered : ∀ r ∈ (concurrent.run schedule (arriving ps before)).calls, r.Answered) :
    let left := concurrent.run schedule (arriving ps before)
    left.calls.map InFlight.payload = ps ∧
    (∀ r ∈ left.calls, r.progress = .answered (.ok .accepted)) ∧
    (∃ p ∈ ps, ∃ q ∈ ps, ∃ r ∈ ps,
      lastTo (.key state) left.shared.performed = some (p, .put state p.code) ∧
      lastTo (.key (state ++ "_id_token")) left.shared.performed =
        some (q, .put (state ++ "_id_token") q.idToken) ∧
      lastTo (.slot state) left.shared.performed = some (r, .supply state r.code) ∧
      LeftBy state p q r before left.shared.stores) ∧
    ∀ p ∈ ps, ∀ front, left.shared.performed = front ++ p.writes.map (p, ·) →
      LeftBy state p p p before left.shared.stores := by
  intro left
  have hjudge : ∀ p ∈ ps, p.judge = .ok .accepted := fun p hp =>
    judge_eq_accepted_iff.2 ⟨(hps p hp).1.symm ▸ hstate, (hps p hp).2⟩
  have hstates : ∀ p ∈ ps, p.state = state := fun p hp => (hps p hp).1
  obtain ⟨hj, hcalls⟩ := journal_run hjudge hsound schedule
  -- an answered redirect has performed its three writes
  have hdone : ∀ r ∈ left.calls, r.progress = .answered (.ok .accepted) ∧
      ∀ w ∈ r.payload.writes, (r.payload, w) ∈ left.shared.performed := by
    intro r hr
    obtain ⟨answer, hanswer⟩ := hanswered r hr
    have h := (hcalls r hr).2
    rw [hanswer] at h
    exact ⟨h.1 ▸ hanswer, h.2⟩
  refine ⟨payloads_run schedule, fun r hr => (hdone r hr).1, ?_,
    fun p hp front hfront => hj.leftBy_one hstates hp hfront⟩
  obtain ⟨p₀, hp₀⟩ := List.exists_mem_of_ne_nil ps hsome
  have hmem : p₀ ∈ left.calls.map InFlight.payload := by rwa [payloads_run schedule]
  obtain ⟨r₀, hr₀, rfl⟩ := List.mem_map.1 hmem
  exact hj.exists_leftBy hstates hp₀ (hdone r₀ hr₀).2

/-! ### A torn pair -/

/-- Two redirects are judged, and the second one makes its writes behind the first write of the
first. -/
def tornSchedule : List (Turn Empty) := [0, 1, 0, 1, 1, 1, 0, 0, 0, 1].map .call

/-- The writes of two redirects in the order of the torn schedule. -/
def tornWrites (p q : CodePayload) : List (CodePayload × Write) :=
  [(p, .put p.state p.code), (q, .put q.state q.code), (q, .put (idTokenKey q.state) q.idToken),
    (q, .supply q.state q.code), (p, .put (idTokenKey p.state) p.idToken),
    (p, .supply p.state p.code)]

theorem run_torn {p q : CodePayload} {s : Stores} (hp : p.judge = .ok .accepted)
    (hq : q.judge = .ok .accepted) (hs : s.Sound) :
    concurrent.run tornSchedule (arriving [p, q] s) =
      ⟨⟨effects s (tornWrites p q), tornWrites p q⟩,
        [⟨p, .answered (.ok .accepted)⟩, ⟨q, .answered (.ok .accepted)⟩]⟩ := by
  have hlast : ∀ p j, InFlight.step ⟨p, .storing []⟩ j = (⟨p, .answered (.ok .accepted)⟩, j) :=
    fun _ _ => rfl
  simp [tornSchedule, arriving, concurrent, Interleaving.turn, step_received, hp, hq,
    CodePayload.writes, step_storing, hs, hlast, tornWrites, effects]

/-- The torn schedule leaves the code of the second redirect and the identity token of the first. -/
theorem entries_torn {p q : CodePayload} {s : Stores} (hstate : q.state = p.state) :
    (effects s (tornWrites p q)).context.entries.get? p.state = some (.string q.code) ∧
    (effects s (tornWrites p q)).context.entries.get? (idTokenKey p.state) =
      some (.string p.idToken) := by
  have hne := idTokenKey_ne p.state
  simp [entries_effects, tornWrites, lastTo, Write.target, Write.text, hstate, hne]

/-- A redirect for the state of `boundPayload`, with another bound code. -/
def rivalPayload : CodePayload where
  code := "d"
  scope := ""
  idToken := "eyJhbGciOiJFUzI1NiJ9.eyJjX2hhc2giOiJHS3ctYzBQd0Zva01VUTZULVRVbUVRIn0."
  state := "s"

theorem rivalPayload_bound : rivalPayload.Bound := by
  have htoken : (IdToken.ofString rivalPayload.idToken).toOption =
      some ⟨"ES256", some "GKw-c0PwFokMUQ6T-TUmEQ"⟩ := by decide +kernel
  have hbound : claim? rivalPayload.idToken "c_hash" =
      some (.string (boundHash .sha256 rivalPayload.code)) := by decide +kernel
  cases hx : IdToken.ofString rivalPayload.idToken with
  | error fault => simp [hx, Except.toOption] at htoken
  | ok token =>
    obtain rfl : token = ⟨"ES256", some "GKw-c0PwFokMUQ6T-TUmEQ"⟩ := by
      simpa [hx, Except.toOption] using htoken
    exact ⟨_, .sha256, hx, ⟨"ES", by decide, rfl⟩, hbound⟩

/-- Both redirects of the torn schedule are for the state `s` and have bound codes. -/
theorem rivals_bound : ∀ p ∈ [boundPayload, rivalPayload], p.state = "s" ∧ p.Bound := by
  simp only [List.forall_mem_cons, List.not_mem_nil, false_implies, implies_true, and_true]
  exact ⟨⟨rfl, (judge_eq_accepted_iff.1 judge_boundPayload).2⟩, rfl, rivalPayload_bound⟩

/-- Stores with one registered set. -/
def storesForS : Stores := ⟨.empty, .ofNames ["s"]⟩

theorem rivals_torn :
    concurrent.run tornSchedule (arriving [boundPayload, rivalPayload] storesForS) =
      ⟨⟨effects storesForS (tornWrites boundPayload rivalPayload),
          tornWrites boundPayload rivalPayload⟩,
        [⟨boundPayload, .answered (.ok .accepted)⟩, ⟨rivalPayload, .answered (.ok .accepted)⟩]⟩ :=
  run_torn judge_boundPayload (judge_eq_accepted_iff.2 ⟨by decide, rivalPayload_bound⟩) ⟨rfl, rfl⟩

theorem rivals_answered :
    ∀ r ∈ (concurrent.run tornSchedule (arriving [boundPayload, rivalPayload] storesForS)).calls,
      r.Answered :=
  answered_of_turns (by decide)

/-- What the torn redirects leave is of both. -/
theorem interleaved_leaves_last_torn :
    (∀ p ∈ [boundPayload, rivalPayload], p.state = "s" ∧ p.Bound) ∧
    (∀ r ∈ (concurrent.run tornSchedule (arriving [boundPayload, rivalPayload] storesForS)).calls,
      r.Answered) ∧
    LeftBy "s" rivalPayload boundPayload boundPayload storesForS
      (concurrent.run tornSchedule
        (arriving [boundPayload, rivalPayload] storesForS)).shared.stores := by
  obtain ⟨-, -, ⟨p, -, q, -, r, -, hcode, htoken, hslot, hleft⟩, -⟩ :=
    interleaved_leaves_last [boundPayload, rivalPayload] "s" storesForS tornSchedule rivals_bound
      (by simp) (by decide) ⟨rfl, rfl⟩ rivals_answered
  rw [rivals_torn] at hcode htoken hslot
  obtain rfl : rivalPayload = p := congrArg Prod.fst (Option.some.inj hcode)
  obtain rfl : boundPayload = q := congrArg Prod.fst (Option.some.inj htoken)
  obtain rfl : boundPayload = r := congrArg Prod.fst (Option.some.inj hslot)
  exact ⟨rivals_bound, rivals_answered, hleft⟩

/-- It is not so that redirects received at once leave the code and the identity token of one of
them. -/
theorem interleaved_torn :
    ¬ ∀ (ps : List CodePayload) (state : String) (before : Stores) (schedule : List (Turn Empty)),
      (∀ p ∈ ps, p.state = state ∧ p.Bound) → ps ≠ [] → state ≠ "" → before.Sound →
      (∀ r ∈ (concurrent.run schedule (arriving ps before)).calls, r.Answered) →
      let after := (concurrent.run schedule (arriving ps before)).shared.stores
      ∃ p ∈ ps,
        after.context.entries.get? state = some (.string p.code) ∧
        after.context.entries.get? (state ++ "_id_token") = some (.string p.idToken) ∧
        (before.tokens.sets.contains state = true →
          after.tokens.sets.get? state = some (some p.code)) := by
  intro h
  obtain ⟨p, hp, hcode, htoken, -⟩ := h [boundPayload, rivalPayload] "s" storesForS tornSchedule
    rivals_bound (by simp) (by decide) ⟨rfl, rfl⟩ rivals_answered
  obtain ⟨hcode', htoken'⟩ :=
    entries_torn (p := boundPayload) (q := rivalPayload) (s := storesForS) rfl
  rw [rivals_torn] at hcode htoken
  have hc := hcode.symm.trans hcode'
  have ht := htoken.symm.trans htoken'
  simp only [List.mem_cons, List.not_mem_nil, or_false] at hp
  rcases hp with rfl | rfl
  · simp [boundPayload, rivalPayload] at hc
  · simp [boundPayload, rivalPayload] at ht

end ConformanceSuite.Redirect
