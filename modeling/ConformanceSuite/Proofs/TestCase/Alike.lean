import Mathlib.Logic.Basic
import ConformanceSuite.Proofs.KeyMap
import ConformanceSuite.TestCase.Request

/-!
# What a prepared request shows of its context

Whether a test case can be prepared, and with which error it cannot, depends on the keys of the
context alone. Of its values only those under the names that the endpoint mentions reach the
address. So over contexts that look alike once all other values are blanked, preparation fails with
the same error or gives requests with the same method and address: `prepare_alike`.
-/

namespace ConformanceSuite

/-- Two results that are the same error, or values that are related. -/
inductive ExceptRel {ε α β : Type} (R : α → β → Prop) : Except ε α → Except ε β → Prop
  | error (e : ε) : ExceptRel R (.error e) (.error e)
  | ok {a : α} {b : β} (related : R a b) : ExceptRel R (.ok a) (.ok b)

namespace ExceptRel

variable {ε ε' α β γ δ : Type} {R : α → β → Prop} {S : γ → δ → Prop} {x : Except ε α}
  {y : Except ε β}

theorem bind (h : ExceptRel R x y) {f : α → Except ε γ} {g : β → Except ε δ}
    (hfg : ∀ a b, R a b → ExceptRel S (f a) (g b)) : ExceptRel S (x >>= f) (y >>= g) := by
  cases h with
  | error e => exact .error e
  | ok related => exact hfg _ _ related

theorem map (h : ExceptRel R x y) {f : α → γ} {g : β → δ} (hfg : ∀ a b, R a b → S (f a) (g b)) :
    ExceptRel S (x.map f) (y.map g) := by
  cases h with
  | error e => exact .error e
  | ok related => exact .ok (hfg _ _ related)

theorem mapError (h : ExceptRel R x y) (f : ε → ε') :
    ExceptRel R (x.mapError f) (y.mapError f) := by
  cases h with
  | error e => exact .error (f e)
  | ok related => exact .ok related

end ExceptRel

namespace KeyMap

variable {α β : Type} {shown : List String}

/-- Lists of entries with the same keys in the same order, which bind the keys that are shown to the
same values. -/
structure EntriesAlike (shown : List String) (entries₁ entries₂ : List (String × α)) : Prop where
  keys : entries₁.map Prod.fst = entries₂.map Prod.fst
  values : ∀ key ∈ shown, (ofList entries₁).get? key = (ofList entries₂).get? key

theorem EntriesAlike.refl (entries : List (String × α)) : EntriesAlike shown entries entries :=
  ⟨rfl, fun _ _ => rfl⟩

/-- Bindings in front of a map hide what it bound before. -/
theorem get?_insertAll_or (m : KeyMap α) (entries : List (String × α)) (key : String) :
    (m.insertAll entries).get? key = ((ofList entries).get? key).or (m.get? key) := by
  rw [get?_insertAll, get?_ofList]

theorem contains_insertAll (m : KeyMap α) (entries : List (String × α)) (key : String) :
    (m.insertAll entries).contains key =
      (decide (key ∈ entries.map Prod.fst) || m.contains key) := by
  induction entries generalizing m with
  | nil => simp
  | cons e rest ih =>
    rw [insertAll_cons, ih, contains, contains, get?_insert, List.map_cons]
    by_cases hkey : e.1 = key
    · simp [hkey]
    · have hne : (key == e.1) = false := by simpa using Ne.symm hkey
      simp [hkey, hne]

theorem get?_ofList_map (f : α → β) (entries : List (String × α)) (key : String) :
    (ofList (entries.map fun e => (e.1, f e.2))).get? key =
      ((ofList entries).get? key).map f := by
  have hlookup : ∀ l : List (String × α),
      (l.map fun e => (e.1, f e.2)).lookup key = (l.lookup key).map f := by
    intro l
    induction l with
    | nil => rfl
    | cons e rest ih =>
      obtain ⟨k, value⟩ := e
      by_cases hkey : key = k
      · simp [hkey]
      · have hne : (key == k) = false := by simpa using hkey
        simp [List.lookup_cons, hne, ih]
  rw [get?_ofList, get?_ofList, ← List.map_reverse, hlookup]

end KeyMap

namespace Context

variable {shown : List String} {c₁ c₂ : Context}

/-- Two contexts with the same keys, and with the same values under those that are shown. -/
structure Alike (shown : List String) (c₁ c₂ : Context) : Prop where
  poisoned : c₁.poisoned = c₂.poisoned
  bound : ∀ key, c₁.entries.contains key = c₂.entries.contains key
  values : ∀ key ∈ shown, c₁.entries.get? key = c₂.entries.get? key

/-- Binding the same keys keeps contexts alike, if those that are shown get the same values. -/
theorem Alike.insertAll (h : Alike shown c₁ c₂) {entries₁ entries₂ : List (String × Json)}
    (he : KeyMap.EntriesAlike shown entries₁ entries₂) :
    Alike shown { c₁ with entries := c₁.entries.insertAll entries₁ }
      { c₂ with entries := c₂.entries.insertAll entries₂ } where
  poisoned := h.poisoned
  bound key := by
    rw [KeyMap.contains_insertAll, KeyMap.contains_insertAll, he.keys, h.bound key]
  values key hshown := by
    rw [KeyMap.get?_insertAll_or, KeyMap.get?_insertAll_or, he.values key hshown,
      h.values key hshown]

theorem Alike.putAll (h : Alike shown c₁ c₂) {entries₁ entries₂ : List (String × Json)}
    (he : KeyMap.EntriesAlike shown entries₁ entries₂) :
    ExceptRel (Alike shown) (c₁.putAll entries₁) (c₂.putAll entries₂) := by
  have hpoisoned := h.poisoned
  rw [Context.putAll, Context.putAll, ← hpoisoned]
  split
  · exact .error _
  · exact .ok (hpoisoned ▸ h.insertAll he)

/-- A key is read with the same outcome, and with the same value if it is shown. -/
theorem Alike.get (h : Alike shown c₁ c₂) (key : String) :
    ExceptRel (fun value₁ value₂ => key ∈ shown → value₁ = value₂) (c₁.get key) (c₂.get key) := by
  have hbound : (c₁.entries.get? key).isSome = (c₂.entries.get? key).isSome := h.bound key
  have hvalues := h.values key
  rw [Context.get, Context.get, ← h.poisoned]
  split
  · exact .error _
  · cases h₁ : c₁.entries.get? key with
    | none =>
      have h₂ : c₂.entries.get? key = none := by simpa [h₁] using hbound.symm
      rw [h₂]
      exact .error _
    | some value₁ =>
      obtain ⟨value₂, h₂⟩ : ∃ value, c₂.entries.get? key = some value :=
        Option.isSome_iff_exists.1 (by simpa [h₁] using hbound.symm)
      rw [h₂]
      refine .ok fun hshown => ?_
      simpa [h₁, h₂] using hvalues hshown

end Context

namespace Template

variable {shown : List String} {c₁ c₂ : Context}

/-- The names among the pieces of a template. -/
def names (ps : List Piece) : List String :=
  ps.filterMap fun
    | .literal _ => none
    | .variable name => some (String.ofList name)

/-- The names that a template mentions, in order. -/
def mentioned (template : String) : List String := names (pieces template.toList)

theorem resolve_alike (h : c₁.Alike shown c₂) (name : String) :
    ExceptRel (fun text₁ text₂ => name ∈ shown → text₁ = text₂)
      (resolve c₁ name) (resolve c₂ name) := by
  have hget := h.get name
  generalize hx : c₁.get name = x, hy : c₂.get name = y at hget
  rw [resolve, resolve, hx, hy]
  cases hget with
  | error e => cases e <;> exact .error _
  | ok related => exact .ok fun hshown => congrArg Json.text (related hshown)

/-- Pieces are filled in with the same outcome, and with the same text if all their names are
shown. -/
theorem fill_alike (h : c₁.Alike shown c₂) (ps : List Piece) :
    ExceptRel (fun text₁ text₂ => (∀ name ∈ names ps, name ∈ shown) → text₁ = text₂)
      (fill c₁ ps) (fill c₂ ps) := by
  induction ps with
  | nil => exact .ok fun _ => rfl
  | cons p rest ih =>
    obtain x | name := p
    · rw [fill, fill]
      exact ih.map fun _ _ htext hshown => congrArg (x :: ·) (htext hshown)
    · have hresolve := resolve_alike h (String.ofList name)
      rw [fill, fill]
      generalize resolve c₁ (String.ofList name) = x, resolve c₂ (String.ofList name) = y
        at hresolve
      cases hresolve with
      | error e => exact .error e
      | ok related =>
        refine ih.map fun text₁ text₂ htext hshown => ?_
        have hnames := List.forall_mem_cons.1 hshown
        rw [related hnames.1, htext hnames.2]

theorem instantiate_alike (h : c₁.Alike shown c₂) (template : String) :
    ExceptRel (fun text₁ text₂ => (∀ name ∈ mentioned template, name ∈ shown) → text₁ = text₂)
      (instantiate template c₁) (instantiate template c₂) :=
  (fill_alike h (pieces template.toList)).map fun _ _ htext hshown =>
    congrArg String.ofList (htext hshown)

end Template

namespace TestCase

variable {shown : List String} {c₁ c₂ : Context}

theorem fillIn_alike (h : c₁.Alike shown c₂) (template : String) :
    ExceptRel
      (fun text₁ text₂ => (∀ name ∈ Template.mentioned template, name ∈ shown) → text₁ = text₂)
      (fillIn c₁ template) (fillIn c₂ template) :=
  (Template.instantiate_alike h template).mapError RequestError.ofTemplate

/-- Headers are filled in with the same outcome, whatever becomes of their values. -/
theorem fillHeaders_alike (h : c₁.Alike shown c₂) (headers : List (String × String)) :
    ExceptRel (fun _ _ => True) (fillHeaders c₁ headers) (fillHeaders c₂ headers) := by
  induction headers with
  | nil => exact .ok trivial
  | cons header rest ih =>
    rw [fillHeaders, fillHeaders]
    exact (fillIn_alike h header.2).bind fun _ _ _ => ih.bind fun _ _ _ => .ok trivial

theorem fillBody_alike (h : c₁.Alike shown c₂) (body : Option String) :
    ExceptRel (fun _ _ => True) (fillBody c₁ body) (fillBody c₂ body) := by
  cases body with
  | none => exact .ok trivial
  | some template => exact (fillIn_alike h template).map fun _ _ _ => trivial

/-- A test case whose endpoint mentions only what is shown is prepared with the same outcome, and
for the same method and address. -/
theorem prepare_alike (h : c₁.Alike shown c₂) (t : TestCase)
    (hshown : ∀ name ∈ Template.mentioned t.input.endpoint, name ∈ shown) (base : String) :
    ExceptRel (fun r₁ r₂ => r₁.method = r₂.method ∧ r₁.url = r₂.url)
      (t.prepare c₁ base) (t.prepare c₂ base) := by
  rw [prepare, prepare]
  split
  · exact .error _
  · refine (fillIn_alike h t.input.endpoint).bind fun endpoint₁ endpoint₂ hendpoint => ?_
    refine (fillHeaders_alike h t.input.headers.entries).bind fun _ _ _ => ?_
    refine (fillBody_alike h t.input.body).bind fun _ _ _ => ?_
    exact .ok ⟨rfl, congrArg (Url.join base) (hendpoint hshown)⟩

end TestCase

end ConformanceSuite
