import Mathlib.Data.List.Induction

/-!
# Shared stores

Stores are held by handles, and a clone of a handle is a further handle on the same store. A program
creates stores, clones handles, and lets events happen to the stores behind them. What stands behind
a handle is its store as it was created, after the events of all its handles in order:
`StoreKind.store?_run`. Whatever a program goes on to do, the history of a store is only added to:
`exists_historyOf_append`.
-/

namespace ConformanceSuite

/-- How a store is created, and what an event makes of it. -/
structure StoreKind (ι ε σ : Type) where
  create : ι → σ
  change : ε → σ → σ

/-- What a store was created from, and what has happened to it since. -/
structure StoreHistory (ι ε : Type) where
  seed : ι
  events : List ε

/-- One step of a program over stores. Handles are numbered in the order in which they come into
being. -/
inductive SharingStep (ι ε : Type) where
  | create (seed : ι)
  | clone (handle : Nat)
  | happen (handle : Nat) (event : ε)

/-- Stores, and for each handle the position of its store. -/
structure Holdings (σ : Type) where
  stores : List σ
  handles : List Nat

namespace Holdings

variable {σ τ : Type}

/-- The store behind a handle. -/
def store? (h : Holdings σ) (handle : Nat) : Option σ := h.handles[handle]?.bind (h.stores[·]?)

/-- Apply a function to every store. -/
def map (f : σ → τ) (h : Holdings σ) : Holdings τ := ⟨h.stores.map f, h.handles⟩

theorem store?_map (f : σ → τ) (h : Holdings σ) (handle : Nat) :
    (h.map f).store? handle = (h.store? handle).map f := by
  unfold store? map
  cases h.handles[handle]? with
  | none => rfl
  | some position => exact List.getElem?_map

end Holdings

namespace StoreKind

variable {ι ε σ : Type} (m : StoreKind ι ε σ)

/-- One step. Nothing happens through a handle that is not there. -/
def step (h : Holdings σ) : SharingStep ι ε → Holdings σ
  | .create seed => ⟨h.stores ++ [m.create seed], h.handles ++ [h.stores.length]⟩
  | .clone handle =>
    match h.handles[handle]? with
    | none => h
    | some position => ⟨h.stores, h.handles ++ [position]⟩
  | .happen handle event =>
    match h.handles[handle]? with
    | none => h
    | some position => ⟨h.stores.modify position (m.change event), h.handles⟩

/-- All steps of a program, in order. -/
def run (steps : List (SharingStep ι ε)) : Holdings σ := steps.foldl m.step ⟨[], []⟩

/-- The store that a history ends with. -/
def after (past : StoreHistory ι ε) : σ :=
  past.events.foldl (fun s event => m.change event s) (m.create past.seed)

/-- Histories, as stores to which every event is added. -/
def histories : StoreKind ι ε (StoreHistory ι ε) where
  create seed := ⟨seed, []⟩
  change event past := { past with events := past.events ++ [event] }

variable {m}

theorem run_append (steps later : List (SharingStep ι ε)) :
    m.run (steps ++ later) = later.foldl m.step (m.run steps) :=
  List.foldl_append

theorem after_nil (seed : ι) : m.after ⟨seed, []⟩ = m.create seed := rfl

theorem after_append (seed : ι) (events later : List ε) :
    m.after ⟨seed, events ++ later⟩ =
      later.foldl (fun s event => m.change event s) (m.after ⟨seed, events⟩) :=
  List.foldl_append

theorem after_concat (seed : ι) (events : List ε) (event : ε) :
    m.after ⟨seed, events ++ [event]⟩ = m.change event (m.after ⟨seed, events⟩) :=
  after_append seed events [event]

/-- A store that no event changes stays as it is. -/
theorem foldl_change_of_fixed {s : σ} (h : ∀ event, m.change event s = s) (events : List ε) :
    events.foldl (fun s event => m.change event s) s = s := by
  induction events with
  | nil => rfl
  | cons event rest ih => rw [List.foldl_cons, h event, ih]

theorem map_modify_change (stores : List (StoreHistory ι ε)) (position : Nat) (event : ε) :
    (stores.modify position (histories.change event)).map m.after =
      (stores.map m.after).modify position (m.change event) := by
  apply List.ext_getElem?
  intro i
  rw [List.getElem?_map, List.getElem?_modify, List.getElem?_modify, List.getElem?_map]
  cases stores[i]? with
  | none => rfl
  | some past =>
    by_cases h : position = i
    · simp only [h, if_true, Option.map_eq_map, Option.map_some]
      exact congrArg some (after_concat past.seed past.events event)
    · simp [h]

/-- A step does to stores what it does to their histories. -/
theorem step_map_after (h : Holdings (StoreHistory ι ε)) (step : SharingStep ι ε) :
    m.step (h.map m.after) step = (histories.step h step).map m.after := by
  cases step with
  | create seed =>
    unfold StoreKind.step Holdings.map
    simp [histories, after_nil]
  | clone handle =>
    unfold StoreKind.step Holdings.map
    dsimp only
    cases h.handles[handle]? <;> rfl
  | happen handle event =>
    unfold StoreKind.step Holdings.map
    dsimp only
    cases h.handles[handle]? with
    | none => rfl
    | some position => exact congrArg (Holdings.mk · h.handles) (map_modify_change _ _ _).symm

theorem run_eq_map (steps : List (SharingStep ι ε)) :
    m.run steps = (histories.run steps).map m.after := by
  have hfold : ∀ h : Holdings (StoreHistory ι ε),
      steps.foldl m.step (h.map m.after) = (steps.foldl histories.step h).map m.after := by
    induction steps with
    | nil => exact fun h => rfl
    | cons step rest ih =>
      intro h
      rw [List.foldl_cons, step_map_after, ih, List.foldl_cons]
  exact hfold ⟨[], []⟩

end StoreKind

open StoreKind

variable {ι ε σ : Type}

/-- The history of the store behind a handle. -/
def historyOf (steps : List (SharingStep ι ε)) (handle : Nat) : Option (StoreHistory ι ε) :=
  (histories.run steps).store? handle

/-- Behind a handle stands what its history ends with. -/
theorem StoreKind.store?_run (m : StoreKind ι ε σ) (steps : List (SharingStep ι ε)) (handle : Nat) :
    (m.run steps).store? handle = (historyOf steps handle).map m.after := by
  rw [run_eq_map, Holdings.store?_map, historyOf]

/-- An event through a handle is added to the histories of all handles on the same store, and to no
other. -/
theorem store?_happen {h : Holdings (StoreHistory ι ε)} {handle : Nat} {past : StoreHistory ι ε}
    (hpast : h.store? handle = some past) (other : Nat) (event : ε) :
    (histories.step h (.happen other event)).store? handle =
      some (if h.handles[other]? = h.handles[handle]? then histories.change event past
        else past) := by
  obtain ⟨position, hposition, hstore⟩ := Option.bind_eq_some_iff.1 hpast
  unfold StoreKind.step
  dsimp only
  cases hother : h.handles[other]? with
  | none =>
    rw [if_neg (by simp [hposition])]
    exact hpast
  | some touched =>
    rw [Holdings.store?, hposition, Option.bind_some, List.getElem?_modify, hstore]
    by_cases htouched : touched = position <;> simp [htouched]

/-- A step adds to the history of a store or leaves it alone. -/
theorem exists_store?_step {h : Holdings (StoreHistory ι ε)} {handle : Nat}
    {past : StoreHistory ι ε} (hpast : h.store? handle = some past) (step : SharingStep ι ε) :
    ∃ later, (histories.step h step).store? handle = some ⟨past.seed, past.events ++ later⟩ := by
  obtain ⟨position, hposition, hstore⟩ := Option.bind_eq_some_iff.1 hpast
  have hhandle : handle < h.handles.length := (List.getElem?_eq_some_iff.1 hposition).1
  have hlt : position < h.stores.length := (List.getElem?_eq_some_iff.1 hstore).1
  have hsame : past = ⟨past.seed, past.events ++ []⟩ := by rw [List.append_nil]
  cases step with
  | create seed =>
    refine ⟨[], ?_⟩
    rw [StoreKind.step, Holdings.store?, List.getElem?_append_left hhandle, hposition,
      Option.bind_some, List.getElem?_append_left hlt, hstore, ← hsame]
  | clone other =>
    refine ⟨[], ?_⟩
    rw [← hsame, StoreKind.step]
    cases h.handles[other]? with
    | none => exact hpast
    | some _ =>
      rw [Holdings.store?, List.getElem?_append_left hhandle, hposition]
      exact hstore
  | happen other event =>
    rw [store?_happen hpast]
    split
    · exact ⟨[event], rfl⟩
    · exact ⟨[], congrArg some hsame⟩

/-- Whatever a program goes on to do only adds to the history of a store. -/
theorem exists_historyOf_append {steps : List (SharingStep ι ε)} {handle : Nat}
    {past : StoreHistory ι ε} (hpast : historyOf steps handle = some past)
    (later : List (SharingStep ι ε)) :
    ∃ events, historyOf (steps ++ later) handle = some ⟨past.seed, past.events ++ events⟩ := by
  induction later using List.reverseRecOn with
  | nil => exact ⟨[], by simpa using hpast⟩
  | append_singleton later step ih =>
    obtain ⟨events, hevents⟩ := ih
    obtain ⟨more, hmore⟩ := exists_store?_step hevents step
    refine ⟨events ++ more, ?_⟩
    rw [historyOf, ← List.append_assoc, run_append, List.foldl_cons, List.foldl_nil, hmore,
      List.append_assoc]

end ConformanceSuite
