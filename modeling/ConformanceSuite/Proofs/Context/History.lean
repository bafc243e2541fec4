import Mathlib.Data.Finset.Card
import ConformanceSuite.Context
import ConformanceSuite.Proofs.KeyMap
import ConformanceSuite.Proofs.LastOf
import ConformanceSuite.Proofs.Sharing
import ConformanceSuite.Proofs.Text.ByteOrder

/-!
# Histories of contexts

A shared context is the finite map of what was bound through its handles: `after_eq_ofList`. What
every operation answers follows from that, `context_follows_history`. A writer that fails half-way
leaves the keys that it has bound, and from then on every operation is refused.
-/

namespace ConformanceSuite.Context

/-- What can be asked of a context. -/
inductive Operation where
  | put (key : String) (value : Json)
  | putTexts (key : String) (texts : List String)
  | putAll (entries : List (String × Json))
  | get (key : String)
  | getText (key : String)
  | getTexts (key : String)
  | contents
  | size
  | isEmpty

/-- What an operation answers. -/
inductive Reply where
  | done
  | value (value : Json)
  | text (text : String)
  | texts (texts : List String)
  | contents (entries : KeyMap Json)
  | size (count : Nat)
  | isEmpty (empty : Bool)

/-- The answer of an operation that writes, and the context that it leaves. -/
def written (c : Context) : Except ContextError Context → Except ContextError Reply × Context
  | .ok left => (.ok .done, left)
  | .error e => (.error e, c)

/-- Perform an operation. -/
def perform (c : Context) : Operation → Except ContextError Reply × Context
  | .put key value => written c (c.put key value)
  | .putTexts key texts => written c (c.putTexts key texts)
  | .putAll entries => written c (c.putAll entries)
  | .get key => ((c.get key).map .value, c)
  | .getText key => ((c.getText key).map .text, c)
  | .getTexts key => ((c.getTexts key).map .texts, c)
  | .contents => (c.contents.map .contents, c)
  | .size => (c.size.map .size, c)
  | .isEmpty => (c.isEmpty.map .isEmpty, c)

/-- What happens to a context: an operation is performed on it, or a writer fails after it has bound
some keys. -/
inductive Event where
  | performed (operation : Operation)
  | crashed (entries : List (String × Json))

/-- The keys that an event binds, in order. -/
def Event.bindings : Event → List (String × Json)
  | .performed (.put key value) => [(key, value)]
  | .performed (.putTexts key texts) => [(key, .ofStrings texts)]
  | .performed (.putAll entries) => entries
  | .crashed entries => entries
  | _ => []

/-- The keys that events bind, in order. -/
def bindings (events : List Event) : List (String × Json) := events.flatMap Event.bindings

/-- No writer has failed. -/
def IsSound (events : List Event) : Prop := ∀ entries, .crashed entries ∉ events

/-- A context that handles share; it is created empty. -/
def kind : StoreKind Unit Event Context where
  create _ := empty
  change
    | .performed operation, c => (c.perform operation).2
    | .crashed entries, c =>
      match c.putAll entries with
      | .ok left => left.poison
      | .error _ => c

/-- Of the values that a key was bound to, the last. -/
def LastBound (written : List (String × Json)) (key : String) (value : Json) : Prop :=
  LastOf (fun _ e => e = (key, value)) (fun e => e.1 = key) written

/-! ### What a map holds -/

theorem lookup_reverse_eq_some_iff {written : List (String × Json)} {key : String} {value : Json} :
    written.reverse.lookup key = some value ↔ LastBound written key value := by
  induction written using List.reverseRecOn with
  | nil =>
    have hnone : ¬ LastBound [] key value := not_lastOf_nil
    simp [hnone]
  | append_singleton written e ih =>
    unfold LastBound at ih ⊢
    obtain ⟨k, v⟩ := e
    rw [lastOf_append_singleton, ← ih, List.reverse_append, List.reverse_singleton,
      List.singleton_append, List.lookup_cons]
    by_cases h : key = k
    · subst h
      simp
    · have hne : (key == k) = false := by simpa using h
      simp [hne, Ne.symm h]

/-- A key was bound last to some value if it was bound at all. -/
theorem exists_lastBound_iff {written : List (String × Json)} {key : String} :
    (∃ value, LastBound written key value) ↔ key ∈ written.map Prod.fst := by
  have hnone : written.reverse.lookup key = none ↔ key ∉ written.map Prod.fst := by
    rw [List.lookup_eq_none_iff, List.mem_map]
    constructor
    · rintro h ⟨e, he, rfl⟩
      simpa using h e (List.mem_reverse.2 he)
    · intro h e he
      have hne : key ≠ e.1 := fun heq => h ⟨e, List.mem_reverse.1 he, heq.symm⟩
      simpa using hne
  simp only [← lookup_reverse_eq_some_iff]
  rw [← Option.ne_none_iff_exists', ne_eq, hnone, not_not]

/-- The entries of a map are what was bound last: its keys, in strictly ascending order of their
bytes, are those that were bound, and each of them has the value that was bound to it last. -/
structure Holds (written : List (String × Json)) (entries : KeyMap Json) : Prop where
  ascending : Text.InByteOrder entries.keys
  distinct : entries.keys.Nodup
  keys : ∀ key, key ∈ entries.keys ↔ key ∈ written.map Prod.fst
  values : ∀ key value, (key, value) ∈ entries.entries ↔ LastBound written key value

theorem holds_ofList (written : List (String × Json)) : Holds written (.ofList written) where
  ascending := Text.inByteOrder_of_pairwise (KeyMap.keys_ascending _)
  distinct := (KeyMap.keys_ascending _).imp fun h => (String.ne_of_lt h)
  keys key := by
    rw [KeyMap.mem_keys, KeyMap.contains, KeyMap.get?_ofList, Option.isSome_iff_exists,
      ← exists_lastBound_iff]
    simp only [lookup_reverse_eq_some_iff]
  values key value := by
    rw [KeyMap.mem_entries, KeyMap.get?_ofList, lookup_reverse_eq_some_iff]

theorem Holds.size {written : List (String × Json)} {entries : KeyMap Json}
    (h : Holds written entries) : entries.size = (written.map Prod.fst).toFinset.card := by
  have hsame : entries.keys.toFinset = (written.map Prod.fst).toFinset := by
    ext key
    rw [List.mem_toFinset, List.mem_toFinset, h.keys]
  rw [← hsame, List.toFinset_card_of_nodup h.distinct]
  exact (List.length_map _).symm

/-! ### Lists of texts -/

theorem stringsOf_map_string (texts : List String) : stringsOf (texts.map .string) = .ok texts := by
  induction texts with
  | nil => rfl
  | cons s rest ih =>
    rw [List.map_cons, stringsOf, ih]
    rfl

/-- A list of values is read as a list of texts, or one of its values is no text. -/
theorem stringsOf_cases (items : List Json) :
    (∃ texts : List String, items = texts.map .string) ∨
      (stringsOf items = .error .elementCast ∧ ∃ x ∈ items, x.string? = none) := by
  induction items with
  | nil => exact .inl ⟨[], rfl⟩
  | cons x rest ih =>
    by_cases hx : ∃ s, x = .string s
    · obtain ⟨s, rfl⟩ := hx
      rcases ih with ⟨texts, rfl⟩ | ⟨herror, y, hy, hnone⟩
      · exact .inl ⟨s :: texts, rfl⟩
      · refine .inr ⟨?_, y, List.mem_cons_of_mem _ hy, hnone⟩
        rw [stringsOf, herror]
        rfl
    · right
      have hnone : x.string? = none := by
        cases x with
        | string s => exact absurd ⟨s, rfl⟩ hx
        | _ => rfl
      refine ⟨?_, x, List.mem_cons_self, hnone⟩
      rw [stringsOf]
      exact fun s hs => hx ⟨s, hs⟩

/-! ### Answers -/

/-- What a context answers whose keys were bound in some order: what it holds, how much that is, and
for each key its value, as a text, and as a list of texts; and that a list of texts is got as it was
put. -/
structure Answers (written : List (String × Json)) (c : Context) : Prop where
  contents : ∃ entries, c.contents = .ok entries ∧ Holds written entries
  size : c.size = .ok (written.map Prod.fst).toFinset.card
  isEmpty : c.isEmpty = .ok (decide (written = []))
  get : ∀ key value, c.get key = .ok value ↔ LastBound written key value
  absent : ∀ key, key ∉ written.map Prod.fst → c.get key = .error (.notFound key) ∧
    c.getText key = .error (.notFound key) ∧ c.getTexts key = .error (.notFound key)
  getText : ∀ key text, c.getText key = .ok text ↔ LastBound written key (.string text)
  notText : ∀ key, c.getText key = .error (.notString key) ↔
    ∃ value, LastBound written key value ∧ value.string? = none
  getTexts : ∀ key texts, c.getTexts key = .ok texts ↔ LastBound written key (.ofStrings texts)
  notArray : ∀ key, c.getTexts key = .error .cast ↔
    ∃ value, LastBound written key value ∧ value.array? = none
  notTexts : ∀ key, c.getTexts key = .error .elementCast ↔
    ∃ items, LastBound written key (.array items) ∧ ∃ x ∈ items, x.string? = none
  putTexts : ∀ key texts, ∃ left, c.perform (.putTexts key texts) = (.ok .done, left) ∧
    left.getTexts key = .ok texts

section Reading

variable {c : Context} {key : String}

/-- A key is not bound, or bound to a text, or to a value that is no text. -/
theorem getText_cases (hsound : c.poisoned = false) (key : String) :
    (c.entries.get? key = none ∧ c.getText key = .error (.notFound key)) ∨
    ∃ value, c.entries.get? key = some value ∧
      ((∃ text, value = .string text ∧ c.getText key = .ok text) ∨
        (value.string? = none ∧ c.getText key = .error (.notString key))) := by
  cases hvalue : c.entries.get? key with
  | none => exact .inl ⟨rfl, by simp [Context.getText, Context.get, hsound, hvalue]⟩
  | some value =>
    refine .inr ⟨value, rfl, ?_⟩
    cases value with
    | string text => exact .inl ⟨text, rfl, by simp [Context.getText, Context.get, hsound, hvalue]⟩
    | null | bool | number | array | object =>
      exact .inr ⟨rfl, by simp [Context.getText, Context.get, hsound, hvalue]⟩

/-- A key is not bound, or bound to a list of texts, to another list, or to a value that is no
list. -/
theorem getTexts_cases (hsound : c.poisoned = false) (key : String) :
    (c.entries.get? key = none ∧ c.getTexts key = .error (.notFound key)) ∨
    ∃ value, c.entries.get? key = some value ∧
      ((∃ texts, value = .ofStrings texts ∧ c.getTexts key = .ok texts) ∨
        (∃ items, value = .array items ∧ (∃ x ∈ items, x.string? = none) ∧
          c.getTexts key = .error .elementCast) ∨
        (value.array? = none ∧ c.getTexts key = .error .cast)) := by
  cases hvalue : c.entries.get? key with
  | none => exact .inl ⟨rfl, by simp [Context.getTexts, Context.get, hsound, hvalue]⟩
  | some value =>
    refine .inr ⟨value, rfl, ?_⟩
    cases value with
    | array items =>
      have hread : c.getTexts key = stringsOf items := by
        simp [Context.getTexts, Context.get, hsound, hvalue]
      rcases stringsOf_cases items with ⟨texts, rfl⟩ | ⟨herror, hitem⟩
      · exact .inl ⟨texts, rfl, by rw [hread, stringsOf_map_string]⟩
      · exact .inr (.inl ⟨items, rfl, hitem, by rw [hread, herror]⟩)
    | null | bool | number | string | object =>
      exact .inr (.inr ⟨rfl, by simp [Context.getTexts, Context.get, hsound, hvalue]⟩)

theorem get_eq_ok_iff (hsound : c.poisoned = false) {value : Json} :
    c.get key = .ok value ↔ c.entries.get? key = some value := by
  rw [Context.get, hsound]
  cases c.entries.get? key <;> simp

theorem getText_eq_ok_iff (hsound : c.poisoned = false) {text : String} :
    c.getText key = .ok text ↔ c.entries.get? key = some (.string text) := by
  rcases getText_cases hsound key with ⟨hnone, hread⟩ | ⟨value, hvalue, h⟩
  · simp [hnone, hread]
  · rw [hvalue, Option.some.injEq]
    rcases h with ⟨s, rfl, hread⟩ | ⟨hother, hread⟩
    · simp [hread]
    · refine iff_of_false (by simp [hread]) ?_
      rintro rfl
      cases hother

theorem getText_eq_notString_iff (hsound : c.poisoned = false) :
    c.getText key = .error (.notString key) ↔
      ∃ value, c.entries.get? key = some value ∧ value.string? = none := by
  rcases getText_cases hsound key with ⟨hnone, hread⟩ | ⟨value, hvalue, h⟩
  · simp [hnone, hread]
  · rcases h with ⟨s, rfl, hread⟩ | ⟨hother, hread⟩
    · simp [hvalue, hread]
    · exact iff_of_true hread ⟨value, hvalue, hother⟩

theorem ofStrings_inj {a b : List String} (h : Json.ofStrings a = .ofStrings b) : a = b := by
  have hmap : a.map Json.string = b.map Json.string := Json.array.inj h
  exact List.map_injective_iff.2 (fun _ _ => Json.string.inj) hmap

theorem string?_of_mem_ofStrings {texts : List String} {items : List Json}
    (h : Json.array items = .ofStrings texts) {x : Json} (hx : x ∈ items) : x.string? ≠ none := by
  obtain rfl : items = texts.map .string := Json.array.inj h
  obtain ⟨s, -, rfl⟩ := List.mem_map.1 hx
  simp

theorem getTexts_eq_ok_iff (hsound : c.poisoned = false) {texts : List String} :
    c.getTexts key = .ok texts ↔ c.entries.get? key = some (.ofStrings texts) := by
  rcases getTexts_cases hsound key with ⟨hnone, hread⟩ | ⟨value, hvalue, h⟩
  · simp [hnone, hread]
  · rw [hvalue, Option.some.injEq]
    rcases h with ⟨own, rfl, hread⟩ | ⟨items, rfl, ⟨x, hx, hother⟩, hread⟩ | ⟨hother, hread⟩
    · rw [hread, Except.ok.injEq]
      exact ⟨fun h => h ▸ rfl, ofStrings_inj⟩
    · exact iff_of_false (by simp [hread]) fun h => string?_of_mem_ofStrings h hx hother
    · refine iff_of_false (by simp [hread]) ?_
      rintro rfl
      cases hother

theorem getTexts_eq_cast_iff (hsound : c.poisoned = false) :
    c.getTexts key = .error .cast ↔
      ∃ value, c.entries.get? key = some value ∧ value.array? = none := by
  rcases getTexts_cases hsound key with ⟨hnone, hread⟩ | ⟨value, hvalue, h⟩
  · simp [hnone, hread]
  · rcases h with ⟨own, rfl, hread⟩ | ⟨items, rfl, -, hread⟩ | ⟨hother, hread⟩
    · simp [hvalue, hread, Json.ofStrings, Json.array?]
    · simp [hvalue, hread, Json.array?]
    · exact iff_of_true hread ⟨value, hvalue, hother⟩

theorem getTexts_eq_elementCast_iff (hsound : c.poisoned = false) :
    c.getTexts key = .error .elementCast ↔
      ∃ items, c.entries.get? key = some (.array items) ∧ ∃ x ∈ items, x.string? = none := by
  rcases getTexts_cases hsound key with ⟨hnone, hread⟩ | ⟨value, hvalue, h⟩
  · simp [hnone, hread]
  · simp only [hvalue, Option.some.injEq]
    rcases h with ⟨own, rfl, hread⟩ | ⟨items, rfl, hitem, hread⟩ | ⟨hother, hread⟩
    · refine iff_of_false (by simp [hread]) ?_
      rintro ⟨items, h, x, hx, hother⟩
      exact string?_of_mem_ofStrings h.symm hx hother
    · exact iff_of_true hread ⟨items, rfl, hitem⟩
    · refine iff_of_false (by simp [hread]) ?_
      rintro ⟨items, rfl, -⟩
      cases hother

theorem getTexts_putTexts (hsound : c.poisoned = false) (key : String) (texts : List String) :
    ∃ left, c.perform (.putTexts key texts) = (.ok .done, left) ∧
      left.getTexts key = .ok texts := by
  refine ⟨{ c with entries := c.entries.insertAll [(key, .ofStrings texts)] }, ?_, ?_⟩
  · simp [perform, Context.putTexts, Context.put, Context.putAll, hsound, written]
  · refine (getTexts_eq_ok_iff ?_).2 ?_
    · exact hsound
    · simp [KeyMap.get?_insert]

end Reading

theorem Holds.answers {written : List (String × Json)} {c : Context}
    (h : Holds written c.entries) (hsound : c.poisoned = false) : Answers written c := by
  have hbound : ∀ key value, LastBound written key value ↔ c.entries.get? key = some value :=
    fun key value => by rw [← KeyMap.mem_entries, h.values]
  have hcontents : c.contents = .ok c.entries := by simp [Context.contents, hsound]
  have hsize : c.size = .ok (written.map Prod.fst).toFinset.card := by
    rw [Context.size, hcontents, ← h.size]
    rfl
  refine ⟨⟨c.entries, hcontents, h⟩, hsize, ?_, fun key value => ?_, fun key hkey => ?_,
    fun key text => ?_, fun key => ?_, fun key texts => ?_, fun key => ?_, fun key => ?_,
    getTexts_putTexts hsound⟩
  · rw [Context.isEmpty, hsize]
    cases written with
    | nil => rfl
    | cons e rest => simp [Except.map]
  · rw [get_eq_ok_iff hsound, hbound]
  · have hnone : c.entries.get? key = none := by
      rw [← h.keys, KeyMap.mem_keys, KeyMap.contains] at hkey
      simpa using hkey
    simp [Context.getText, Context.getTexts, Context.get, hsound, hnone]
  · rw [getText_eq_ok_iff hsound, hbound]
  · simp only [getText_eq_notString_iff hsound, hbound]
  · rw [getTexts_eq_ok_iff hsound, hbound]
  · simp only [getTexts_eq_cast_iff hsound, hbound]
  · simp only [getTexts_eq_elementCast_iff hsound, hbound]

/-! ### Events -/

section Events

variable {c : Context}

/-- A poisoned context refuses every operation and stays as it is. -/
theorem perform_of_poisoned (h : c.poisoned = true) (operation : Operation) :
    c.perform operation = (.error .poisoned, c) := by
  have hputAll : ∀ entries, c.putAll entries = .error .poisoned := fun entries => by
    simp [Context.putAll, h]
  have hcontents : c.contents = .error .poisoned := by simp [Context.contents, h]
  have hget : ∀ key, c.get key = .error .poisoned := fun key => by simp [Context.get, h]
  cases operation with
  | put key value => rw [perform, Context.put, hputAll, written]
  | putTexts key texts => rw [perform, Context.putTexts, Context.put, hputAll, written]
  | putAll entries => rw [perform, hputAll, written]
  | get key => simp [perform, hget, Except.map]
  | getText key => simp [perform, Context.getText, hget, Except.map]
  | getTexts key => simp [perform, Context.getTexts, hget, Except.map]
  | contents => simp [perform, hcontents, Except.map]
  | size => simp [perform, Context.size, hcontents, Except.map]
  | isEmpty => simp [perform, Context.isEmpty, Context.size, hcontents, Except.map]

/-- An operation that fails changes nothing. -/
theorem eq_of_perform_error {operation : Operation} {e : ContextError} {left : Context}
    (h : c.perform operation = (.error e, left)) : left = c := by
  have hwritten : ∀ result, written c result = (.error e, left) → left = c := by
    rintro (e' | left') h
    · exact (Prod.mk.inj h).2.symm
    · cases (Prod.mk.inj h).1
  cases operation with
  | put | putTexts | putAll => exact hwritten _ h
  | get | getText | getTexts | contents | size | isEmpty => exact (Prod.mk.inj h).2.symm

theorem change_of_poisoned (h : c.poisoned = true) (e : Event) : kind.change e c = c := by
  cases e with
  | performed operation => exact congrArg Prod.snd (perform_of_poisoned h operation)
  | crashed entries => simp [kind, Context.putAll, h]

/-- An event on a sound context binds its keys; if a writer fails the context is poisoned. -/
theorem change_ofList (written : List (String × Json)) (e : Event) :
    kind.change e (ofList written) =
      ⟨.ofList (written ++ e.bindings),
        match e with | .performed _ => false | .crashed _ => true⟩ := by
  have happend : ∀ entries, (KeyMap.ofList written).insertAll entries =
      KeyMap.ofList (written ++ entries) := fun entries =>
    (KeyMap.insertAll_append .empty written entries).symm
  cases e with
  | crashed entries => simp [kind, ofList, Context.putAll, happend, poison, Event.bindings]
  | performed operation =>
    show ((ofList written).perform operation).2 = _
    cases operation with
    | put key value =>
      simp only [perform, ofList, Context.put, Context.putAll, Event.bindings, ← happend]
      rfl
    | putTexts key texts =>
      simp only [perform, ofList, Context.putTexts, Context.put, Context.putAll, Event.bindings,
        ← happend]
      rfl
    | putAll entries =>
      simp only [perform, ofList, Context.putAll, Event.bindings, ← happend]
      rfl
    | get | getText | getTexts | contents | size | isEmpty =>
      simp [perform, ofList, Event.bindings]

/-- As long as no writer has failed, a context binds what was bound. -/
theorem after_eq_ofList {events : List Event} (h : IsSound events) :
    kind.after ⟨(), events⟩ = ofList (bindings events) := by
  induction events using List.reverseRecOn with
  | nil => rfl
  | append_singleton events e ih =>
    have hevents : IsSound events := fun entries hmem =>
      h entries (List.mem_append_left _ hmem)
    rw [StoreKind.after_concat, ih hevents, change_ofList, bindings, bindings, List.flatMap_append,
      List.flatMap_singleton]
    cases e with
    | performed operation => rfl
    | crashed entries => exact absurd (List.mem_append_right _ List.mem_cons_self) (h entries)

end Events

/-- Behind every handle stands the context that its history ends with. As long as no writer has
failed it answers as what was bound says, and an operation that fails changes nothing. A writer that
fails leaves what was bound up to then; from then on every operation is refused, and whatever is
done through any handle the context stays as it is. -/
theorem context_follows_history {steps : List (SharingStep Unit Event)} {handle : Nat}
    {past : StoreHistory Unit Event} (hpast : historyOf steps handle = some past) :
    ∃ c, (kind.run steps).store? handle = some c ∧
      (IsSound past.events → Answers (bindings past.events) c) ∧
      (∀ operation e left, c.perform operation = (.error e, left) → left = c) ∧
      (∀ before entries after, past.events = before ++ .crashed entries :: after → IsSound before →
        Holds (bindings before ++ entries) c.entries ∧
        (∀ operation, c.perform operation = (.error .poisoned, c)) ∧
        ∀ later, (kind.run (steps ++ later)).store? handle = some c) := by
  obtain ⟨⟨⟩, events⟩ := past
  refine ⟨kind.after ⟨(), events⟩, ?_, fun hsound => ?_, fun _ _ _ => eq_of_perform_error, ?_⟩
  · rw [StoreKind.store?_run, hpast, Option.map_some]
  · rw [after_eq_ofList hsound]
    exact (holds_ofList _).answers rfl
  · intro before entries after hsplit hbefore
    dsimp only at hsplit
    have hleft : kind.after ⟨(), events⟩ = ⟨.ofList (bindings before ++ entries), true⟩ := by
      rw [hsplit, StoreKind.after_append, List.foldl_cons, after_eq_ofList hbefore, change_ofList]
      exact StoreKind.foldl_change_of_fixed (change_of_poisoned rfl) after
    rw [hleft]
    refine ⟨holds_ofList _, perform_of_poisoned rfl, fun later => ?_⟩
    obtain ⟨more, hmore⟩ := exists_historyOf_append hpast later
    rw [StoreKind.store?_run, hmore, Option.map_some, StoreKind.after_append, hleft]
    exact congrArg some (StoreKind.foldl_change_of_fixed (change_of_poisoned rfl) more)

/-- What happened to the context behind a handle and a clone of it. -/
def clonedPast : List Event :=
  [.performed (.putAll [("scope", .string "read"), ("state", .null), ("scope", .bool true)]),
    .performed (.putTexts "scope" ["read", "write"]), .performed (.get "scope")]

/-- A first handle on a context, and a clone of it. -/
def clonedSteps : List (SharingStep Unit Event) :=
  .create () :: .clone 0 :: clonedPast.map (.happen 1)

/-- What is bound through a clone is seen through the first handle. -/
theorem context_follows_history_cloned :
    historyOf clonedSteps 0 = some ⟨(), clonedPast⟩ ∧
      ∃ c, (kind.run clonedSteps).store? 0 = some c ∧
        c.getTexts "scope" = .ok ["read", "write"] ∧ c.size = .ok 2 := by
  have hsound : IsSound clonedPast := by simp [IsSound, clonedPast]
  have hpast : historyOf clonedSteps 0 = some ⟨(), clonedPast⟩ := rfl
  obtain ⟨c, hc, hanswers, -⟩ := context_follows_history hpast
  refine ⟨hpast, c, hc, ((hanswers hsound).getTexts _ _).2 ?_, (hanswers hsound).size⟩
  exact ⟨(bindings clonedPast).take 3, _, [], rfl, rfl, by simp⟩

end ConformanceSuite.Context
