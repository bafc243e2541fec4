import ConformanceSuite.Proofs.ConsentTokens
import ConformanceSuite.Proofs.LastOf
import ConformanceSuite.Proofs.Sharing

/-!
# Histories of consent tokens

What shared slots hold can be read off what was done through their handles: which sets there are,
and for each the token that was last supplied since it was registered. `Reflects.change` is one
event, `reflects_after` a whole history, and `slots_follow_history` says what every operation
answers then. From the moment in which a writer fails half-way every operation is refused.
-/

namespace ConformanceSuite.ConsentTokens

/-- What can be asked of slots. -/
inductive Operation where
  | register (name : String)
  | supply (name token : String)
  | token (name : String)
  | pending
  | isComplete

/-- What an operation answers. -/
inductive Reply where
  | done
  | token (slot : Option String)
  | pending (names : List String)
  | isComplete (complete : Bool)

/-- The answer of an operation that writes, and the slots that it leaves. -/
def written (c : ConsentTokens) :
    Except TokenError ConsentTokens → Except TokenError Reply × ConsentTokens
  | .ok left => (.ok .done, left)
  | .error e => (.error e, c)

/-- Perform an operation. -/
def perform (c : ConsentTokens) : Operation → Except TokenError Reply × ConsentTokens
  | .register name => written c (c.register name)
  | .supply name token => written c (c.supply name token)
  | .token name => ((c.token name).map .token, c)
  | .pending => (c.pending.map .pending, c)
  | .isComplete => (c.isComplete.map .isComplete, c)

/-- What happens to slots: an operation is performed on them, or a writer fails half-way. -/
inductive Event where
  | performed (operation : Operation)
  | crashed

/-- Slots that handles share. -/
def kind : StoreKind (List String) Event ConsentTokens where
  create := ofNames
  change
    | .performed operation, c => (c.perform operation).2
    | .crashed, c => c.poison

/-- A set is one of those at the start or has been registered. -/
def RegisteredBy (names : List String) (events : List Event) (name : String) : Prop :=
  name ∈ names ∨ .performed (.register name) ∈ events

/-- The last token supplied for a set came when the set was there. -/
def LastSupplied (names : List String) (events : List Event) (name token : String) : Prop :=
  LastOf (fun before e => e = .performed (.supply name token) ∧ RegisteredBy names before name)
    (fun e => ∃ other, e = .performed (.supply name other)) events

/-- Sound slots that reflect what has happened to them. -/
structure Reflects (names : List String) (events : List Event) (c : ConsentTokens) : Prop where
  sound : c.poisoned = false
  registered : ∀ name, c.sets.contains name = true ↔ RegisteredBy names events name
  supplied : ∀ name token,
    c.sets.get? name = some (some token) ↔ LastSupplied names events name token

/-! ### One event -/

section Steps

variable {names : List String} {events : List Event} {c : ConsentTokens}

theorem registeredBy_append_singleton {e : Event} {name : String} :
    RegisteredBy names (events ++ [e]) name ↔
      RegisteredBy names events name ∨ e = .performed (.register name) := by
  unfold RegisteredBy
  rw [List.mem_append, List.mem_singleton, or_assoc, eq_comm]

theorem lastSupplied_append_singleton {e : Event} {name token : String} :
    LastSupplied names (events ++ [e]) name token ↔
      (e = .performed (.supply name token) ∧ RegisteredBy names events name) ∨
        ((∀ other, e ≠ .performed (.supply name other)) ∧
          LastSupplied names events name token) := by
  unfold LastSupplied
  rw [lastOf_append_singleton, not_exists]

theorem change_register (hsound : c.poisoned = false) (name : String) :
    kind.change (.performed (.register name)) c =
      if c.sets.contains name then c else { c with sets := c.sets.insert name none } := by
  show (c.perform (.register name)).2 = _
  unfold perform register
  by_cases h : c.sets.contains name <;> simp [hsound, h, written]

theorem change_supply (hsound : c.poisoned = false) (name token : String) :
    kind.change (.performed (.supply name token)) c =
      if c.sets.contains name then { c with sets := c.sets.insert name (some token) } else c := by
  show (c.perform (.supply name token)).2 = _
  unfold perform supply
  by_cases h : c.sets.contains name <;> simp [hsound, h, written]

/-- Registering a set adds an empty slot for it, unless there is one. -/
theorem Reflects.register (h : Reflects names events c) (name : String) :
    Reflects names (events ++ [.performed (.register name)])
      (kind.change (.performed (.register name)) c) := by
  rw [change_register h.sound]
  by_cases hthere : c.sets.contains name = true
  · rw [if_pos hthere]
    refine ⟨h.sound, fun other => ?_, fun other token => ?_⟩
    · rw [registeredBy_append_singleton, h.registered]
      refine ⟨.inl, ?_⟩
      rintro (hother | hother)
      · exact hother
      · cases hother
        exact (h.registered name).1 hthere
    · rw [lastSupplied_append_singleton, h.supplied]
      simp
  · rw [if_neg hthere]
    have habsent : c.sets.get? name = none := by simpa [KeyMap.contains] using hthere
    refine ⟨h.sound, fun other => ?_, fun other token => ?_⟩
    · rw [registeredBy_append_singleton, ← h.registered, KeyMap.contains, KeyMap.contains,
        KeyMap.get?_insert]
      by_cases hother : name = other <;> simp [hother]
    · rw [lastSupplied_append_singleton, ← h.supplied, KeyMap.get?_insert]
      by_cases hother : name = other
      · subst hother
        simp [habsent]
      · simp [hother]

/-- Supplying a token fills the slot of its set, if there is one. -/
theorem Reflects.supply (h : Reflects names events c) (name token : String) :
    Reflects names (events ++ [.performed (.supply name token)])
      (kind.change (.performed (.supply name token)) c) := by
  rw [change_supply h.sound]
  by_cases hthere : c.sets.contains name = true
  · rw [if_pos hthere]
    have hregistered := (h.registered name).1 hthere
    refine ⟨h.sound, fun other => ?_, fun other code => ?_⟩
    · rw [registeredBy_append_singleton, ← h.registered, KeyMap.contains, KeyMap.contains,
        KeyMap.get?_insert]
      by_cases hother : name = other
      · subst hother
        simpa [KeyMap.contains] using hthere
      · simp [hother]
    · rw [lastSupplied_append_singleton, ← h.supplied, KeyMap.get?_insert]
      by_cases hother : name = other
      · subst hother
        simp [hregistered]
      · simp [hother]
  · rw [if_neg hthere]
    have habsent : ¬ RegisteredBy names events name := mt (h.registered name).2 hthere
    have hempty : c.sets.get? name = none := by simpa [KeyMap.contains] using hthere
    refine ⟨h.sound, fun other => ?_, fun other code => ?_⟩
    · rw [registeredBy_append_singleton, h.registered]
      simp
    · rw [lastSupplied_append_singleton, ← h.supplied]
      by_cases hother : name = other
      · subst hother
        simp [habsent, hempty]
      · simp [hother]

/-- Slots that reflect a history reflect it with one more event, unless a writer failed. -/
theorem Reflects.change (h : Reflects names events c) (e : Event) (he : e ≠ .crashed) :
    Reflects names (events ++ [e]) (kind.change e c) := by
  -- operations that only read leave the slots and what is said of them alone
  have hread : ∀ operation, (c.perform operation).2 = c → (∀ name, operation ≠ .register name) →
      (∀ name token, operation ≠ .supply name token) →
      Reflects names (events ++ [.performed operation]) (c.perform operation).2 := by
    intro operation hsame hregister hsupply
    rw [hsame]
    refine ⟨h.sound, fun name => ?_, fun name token => ?_⟩
    · rw [registeredBy_append_singleton, h.registered]
      simp [hregister]
    · rw [lastSupplied_append_singleton, h.supplied]
      simp [hsupply]
  cases e with
  | crashed => exact absurd rfl he
  | performed operation =>
    cases operation with
    | register name => exact h.register name
    | supply name token => exact h.supply name token
    | token | pending | isComplete => exact hread _ rfl (by simp) (by simp)

end Steps

/-! ### Slots that are refused -/

section Refusal

variable {c : ConsentTokens}

/-- Poisoned slots refuse every operation and stay as they are. -/
theorem perform_of_poisoned (h : c.poisoned = true) (operation : Operation) :
    c.perform operation = (.error .poisoned, c) := by
  cases operation with
  | register name => simp [perform, ConsentTokens.register, h, written]
  | supply name token => simp [perform, ConsentTokens.supply, h, written]
  | token name => simp [perform, ConsentTokens.token, h, Except.map]
  | pending => simp [perform, ConsentTokens.pending, h, Except.map]
  | isComplete => simp [perform, ConsentTokens.isComplete, ConsentTokens.pending, h, Except.map]

theorem sound_of_token {name : String} {slot : Option String} (h : c.token name = .ok slot) :
    c.poisoned = false := by
  unfold ConsentTokens.token at h
  cases hpoisoned : c.poisoned with
  | false => rfl
  | true => simp [hpoisoned] at h

theorem sound_of_pending {waiting : List String} (h : c.pending = .ok waiting) :
    c.poisoned = false := by
  unfold ConsentTokens.pending at h
  cases hpoisoned : c.poisoned with
  | false => rfl
  | true => simp [hpoisoned] at h

theorem change_of_poisoned (h : c.poisoned = true) (e : Event) : kind.change e c = c := by
  cases e with
  | performed operation => exact congrArg Prod.snd (perform_of_poisoned h operation)
  | crashed =>
    obtain ⟨sets, poisoned⟩ := c
    cases h
    rfl

/-- An event may replace the token of a set, but does not take it away. -/
theorem filled_change {name token : String} (h : c.sets.get? name = some (some token)) (e : Event) :
    ∃ other, (kind.change e c).sets.get? name = some (some other) := by
  by_cases hpoisoned : c.poisoned = true
  · exact ⟨token, by rw [change_of_poisoned hpoisoned, h]⟩
  · have hsound : c.poisoned = false := by simpa using hpoisoned
    have hthere : c.sets.contains name = true := by simp [KeyMap.contains, h]
    cases e with
    | crashed => exact ⟨token, h⟩
    | performed operation =>
      cases operation with
      | register other =>
        rw [change_register hsound]
        by_cases hother : other = name
        · exact ⟨token, by rw [hother, if_pos hthere, h]⟩
        · refine ⟨token, ?_⟩
          split
          · exact h
          · simp [KeyMap.get?_insert, hother, h]
      | supply other code =>
        rw [change_supply hsound]
        by_cases hother : other = name
        · exact ⟨code, by simp [hother, hthere, KeyMap.get?_insert]⟩
        · refine ⟨token, ?_⟩
          split
          · simp [KeyMap.get?_insert, hother, h]
          · exact h
      | token | pending | isComplete => exact ⟨token, h⟩

theorem filled_foldl {name token : String} (h : c.sets.get? name = some (some token))
    (events : List Event) :
    ∃ other, (events.foldl (fun s e => kind.change e s) c).sets.get? name = some (some other) := by
  induction events generalizing c token with
  | nil => exact ⟨token, h⟩
  | cons e rest ih =>
    obtain ⟨other, hother⟩ := filled_change h e
    exact ih hother

end Refusal

/-! ### Whole histories -/

/-- Slots that were created for some sets and then used reflect their history, as long as no writer
has failed. -/
theorem reflects_after (names : List String) {events : List Event} (h : .crashed ∉ events) :
    Reflects names events (kind.after ⟨names, events⟩) := by
  induction events using List.reverseRecOn with
  | nil =>
    have hnone : ∀ name token, ¬ LastSupplied names [] name token := fun _ _ => not_lastOf_nil
    rw [StoreKind.after_nil]
    refine ⟨rfl, fun name => ?_, fun name token => ?_⟩
    · show ((ofNames names).sets.get? name).isSome = true ↔ _
      rw [get?_ofNames]
      by_cases hname : name ∈ names <;> simp [RegisteredBy, hname]
    · show (ofNames names).sets.get? name = _ ↔ _
      rw [get?_ofNames]
      by_cases hname : name ∈ names <;> simp [hname, hnone]
  | append_singleton events e ih =>
    rw [List.mem_append, List.mem_singleton, not_or] at h
    rw [StoreKind.after_concat]
    exact (ih h.1).change e (Ne.symm h.2)

/-- What slots answer that reflect a history: which sets they know, which token each of them has and
which sets wait for one; and that nothing is lost by a set that is registered again, nor by a token
for a set that is unknown. -/
structure Answers (names : List String) (events : List Event) (c : ConsentTokens) : Prop where
  sets : ∀ name, name ∈ c.sets.keys ↔ RegisteredBy names events name
  unknown : ∀ name, c.token name = .error (.unknownSet name) ↔ ¬ RegisteredBy names events name
  token : ∀ name token, c.token name = .ok (some token) ↔ LastSupplied names events name token
  empty : ∀ name, c.token name = .ok none ↔
    RegisteredBy names events name ∧ ∀ token, ¬ LastSupplied names events name token
  pending : ∃ waiting, c.pending = .ok waiting ∧ Text.InByteOrder waiting ∧
    (∀ name, name ∈ waiting ↔
      RegisteredBy names events name ∧ ∀ token, ¬ LastSupplied names events name token) ∧
    c.isComplete = .ok (decide (waiting = []))
  registerAgain : ∀ name, RegisteredBy names events name →
    c.perform (.register name) = (.ok .done, c)
  supplyUnknown : ∀ name token, ¬ RegisteredBy names events name →
    c.perform (.supply name token) = (.error (.unknownSet name), c)

section Answering

variable {names : List String} {events : List Event} {c : ConsentTokens}

/-- The slot of a set is empty if it is there and no token was supplied for it. -/
theorem Reflects.empty_iff (h : Reflects names events c) (name : String) :
    c.sets.get? name = some none ↔
      RegisteredBy names events name ∧ ∀ token, ¬ LastSupplied names events name token := by
  have hregistered := h.registered name
  have hsupplied := h.supplied name
  unfold KeyMap.contains at hregistered
  cases hslot : c.sets.get? name with
  | none =>
    have habsent : ¬ RegisteredBy names events name := by simpa [hslot] using hregistered
    simp [habsent]
  | some slot =>
    have hthere : RegisteredBy names events name := by simpa [hslot] using hregistered
    cases slot with
    | none =>
      refine iff_of_true rfl ⟨hthere, fun token => ?_⟩
      rw [← hsupplied, hslot]
      simp
    | some token =>
      refine iff_of_false (by simp) fun h => h.2 token ?_
      rw [← hsupplied, hslot]

theorem Reflects.answers (h : Reflects names events c) : Answers names events c where
  sets name := by rw [KeyMap.mem_keys, h.registered]
  unknown name := by
    rw [← h.registered, KeyMap.contains, ConsentTokens.token, h.sound]
    cases c.sets.get? name <;> simp
  token name token := by rw [token_eq_ok_iff h.sound, h.supplied]
  empty name := by rw [token_eq_ok_iff h.sound, h.empty_iff]
  pending := by
    obtain ⟨waiting, hpending, horder, hmem⟩ := exists_pending h.sound
    refine ⟨waiting, hpending, horder, fun name => by rw [hmem, h.empty_iff], ?_⟩
    rw [isComplete, hpending]
    cases waiting <;> rfl
  registerAgain name hname := by
    have hthere := (h.registered name).2 hname
    simp [perform, ConsentTokens.register, h.sound, hthere, written]
  supplyUnknown name token hname := by
    have hthere := mt (h.registered name).1 hname
    simp [perform, ConsentTokens.supply, h.sound, hthere, written]

end Answering

/-- Behind every handle stand the slots that its history ends with. As long as no writer has failed
they answer as that history says. From the first failure on they refuse every operation and stay as
they were then. Whatever is done later through any handle, a set that has a token does not wait for
one again. -/
theorem slots_follow_history {steps : List (SharingStep (List String) Event)} {handle : Nat}
    {past : StoreHistory (List String) Event} (hpast : historyOf steps handle = some past) :
    ∃ c, (kind.run steps).store? handle = some c ∧
      (.crashed ∉ past.events → Answers past.seed past.events c) ∧
      (∀ before after, past.events = before ++ .crashed :: after → .crashed ∉ before →
        c = (kind.after ⟨past.seed, before⟩).poison ∧
        Answers past.seed before (kind.after ⟨past.seed, before⟩) ∧
        ∀ operation, c.perform operation = (.error .poisoned, c)) ∧
      ∀ later, ∃ left, (kind.run (steps ++ later)).store? handle = some left ∧
        (c.poisoned = true → left = c) ∧
        ∀ name token, c.token name = .ok (some token) →
          ∀ waiting, left.pending = .ok waiting → name ∉ waiting := by
  obtain ⟨names, events⟩ := past
  refine ⟨kind.after ⟨names, events⟩, ?_, fun hsound => (reflects_after names hsound).answers,
    ?_, fun later => ?_⟩
  · rw [StoreKind.store?_run, hpast, Option.map_some]
  · intro before after hsplit hbefore
    dsimp only at hsplit
    have hpoisoned : (kind.after ⟨names, before⟩).poison.poisoned = true := rfl
    have hleft : kind.after ⟨names, events⟩ = (kind.after ⟨names, before⟩).poison := by
      rw [hsplit, StoreKind.after_append, List.foldl_cons]
      exact StoreKind.foldl_change_of_fixed (change_of_poisoned hpoisoned) after
    refine ⟨hleft, (reflects_after names hbefore).answers, fun operation => ?_⟩
    rw [hleft]
    exact perform_of_poisoned hpoisoned operation
  · obtain ⟨more, hmore⟩ := exists_historyOf_append hpast later
    refine ⟨kind.after ⟨names, events ++ more⟩, ?_, fun hpoisoned => ?_, ?_⟩
    · rw [StoreKind.store?_run, hmore, Option.map_some]
    · rw [StoreKind.after_append]
      exact StoreKind.foldl_change_of_fixed (change_of_poisoned hpoisoned) more
    · intro name token htoken waiting hwaiting hmem
      obtain ⟨names', hpending, -, hempty⟩ := exists_pending (sound_of_pending hwaiting)
      obtain rfl : names' = waiting := Except.ok.inj (hpending.symm.trans hwaiting)
      obtain ⟨other, hother⟩ :=
        filled_foldl ((token_eq_ok_iff (sound_of_token htoken)).1 htoken) more
      rw [← StoreKind.after_append, (hempty name).1 hmem] at hother
      cases hother

/-- What happened to the slots behind a handle and a clone of it. -/
def clonedPast : List Event :=
  [.performed (.supply "payments" "early"), .performed (.register "payments"),
    .performed (.supply "payments" "late"), .performed (.register "payments")]

/-- A first handle on slots for `accounts`, and a clone of it. -/
def clonedSteps : List (SharingStep (List String) Event) :=
  .create ["accounts"] :: .clone 0 :: clonedPast.map (.happen 1)

/-- What is done through a clone is seen through the first handle. A token that came before its set
was registered is not kept, and one that came later is not lost. -/
theorem slots_follow_history_cloned :
    historyOf clonedSteps 0 = some ⟨["accounts"], clonedPast⟩ ∧
      ∃ c, (kind.run clonedSteps).store? 0 = some c ∧ c.token "payments" = .ok (some "late") ∧
        c.token "accounts" = .ok none := by
  have hpast : historyOf clonedSteps 0 = some ⟨["accounts"], clonedPast⟩ := rfl
  have hsound : .crashed ∉ clonedPast := by simp [clonedPast]
  obtain ⟨c, hc, hanswers, -⟩ := slots_follow_history hpast
  refine ⟨hpast, c, hc, ((hanswers hsound).token _ _).2 ?_, ((hanswers hsound).empty _).2 ?_⟩
  · refine ⟨clonedPast.take 2, _, clonedPast.drop 3, rfl, ⟨rfl, ?_⟩, ?_⟩
    · exact .inr (by simp [clonedPast])
    · simp [clonedPast]
  · refine ⟨.inl List.mem_cons_self, fun token => ?_⟩
    rintro ⟨before, e, after, hsplit, ⟨rfl, -⟩, -⟩
    have hmem : .performed (.supply "accounts" token) ∈ clonedPast := by
      have hsplit : clonedPast = before ++ .performed (.supply "accounts" token) :: after := hsplit
      rw [hsplit]
      exact List.mem_append_right _ List.mem_cons_self
    simp [clonedPast] at hmem

end ConformanceSuite.ConsentTokens
