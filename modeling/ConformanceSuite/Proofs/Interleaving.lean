import Mathlib.Data.List.Basic

/-!
# Interleaved calls

Calls that share a state take their steps in any order, and between two steps the world around them
may change the state as well. What no step of a call and no change of the world breaks holds after
every schedule: `Interleaving.Keeps.run`. A call that is left alone takes its steps one after
another, `Interleaving.run_replicate`, and one that is given enough turns comes to its end,
`Interleaving.measure_run`.
-/

namespace ConformanceSuite

/-- A shared state, and the calls in progress over it. -/
structure Configuration (σ κ : Type) where
  shared : σ
  calls : List κ

/-- Whose turn it is: that of the call at a position, or that of the world around. -/
inductive Turn (ε : Type) where
  | call (position : Nat)
  | world (change : ε)

/-- Whether a turn is that of the call at a position. -/
def Turn.isCall {ε : Type} (position : Nat) : Turn ε → Bool
  | .call other => other == position
  | .world _ => false

/-- The steps of calls over a shared state, and what the changes of the world do to it. -/
structure Interleaving (σ κ ε : Type) where
  advance : κ → σ → κ × σ
  disturb : ε → σ → σ

namespace Interleaving

variable {σ κ ε τ : Type} (m : Interleaving σ κ ε)

/-- One turn. Where there is no call nothing happens. -/
def turn (c : Configuration σ κ) : Turn ε → Configuration σ κ
  | .call position =>
    match c.calls[position]? with
    | none => c
    | some call =>
      ⟨(m.advance call c.shared).2, c.calls.set position (m.advance call c.shared).1⟩
  | .world change => { c with shared := m.disturb change c.shared }

/-- All turns of a schedule, in order. -/
def run (schedule : List (Turn ε)) (c : Configuration σ κ) : Configuration σ κ :=
  schedule.foldl m.turn c

/-- A call and a state after some steps of the call that nothing comes between. -/
def alone : Nat → κ × σ → κ × σ
  | 0, x => x
  | n + 1, x => alone n (m.advance x.1 x.2)

/-- A property of the state and one of each call, which hold on: a step of a call keeps both for
itself and the second for every other call, and a change of the world keeps both for all. -/
structure Keeps (schedule : List (Turn ε)) (I : σ → Prop) (J : σ → κ → Prop) : Prop where
  shared : ∀ s call, I s → J s call → I (m.advance call s).2
  own : ∀ s call, I s → J s call → J (m.advance call s).2 (m.advance call s).1
  others : ∀ s call other, I s → J s call → J s other → J (m.advance call s).2 other
  world : ∀ s change, .world change ∈ schedule → I s →
    I (m.disturb change s) ∧ ∀ call, J s call → J (m.disturb change s) call

variable {m} {c : Configuration σ κ} {schedule : List (Turn ε)}

@[simp] theorem run_nil : m.run [] c = c := rfl

@[simp] theorem run_cons (t : Turn ε) : m.run (t :: schedule) c = m.run schedule (m.turn c t) := rfl

theorem run_append (later : List (Turn ε)) :
    m.run (schedule ++ later) c = m.run later (m.run schedule c) :=
  List.foldl_append

theorem turn_call {position : Nat} {call : κ} (h : c.calls[position]? = some call) :
    m.turn c (.call position) =
      ⟨(m.advance call c.shared).2, c.calls.set position (m.advance call c.shared).1⟩ := by
  simp only [turn, h]

theorem turn_none {position : Nat} (h : c.calls[position]? = none) :
    m.turn c (.call position) = c := by
  simp only [turn, h]

/-- A turn is that of a call, or of nobody, or of the world. -/
theorem turn_cases (c : Configuration σ κ) (t : Turn ε) :
    (∃ position call, t = .call position ∧ c.calls[position]? = some call ∧ m.turn c t =
      ⟨(m.advance call c.shared).2, c.calls.set position (m.advance call c.shared).1⟩) ∨
    m.turn c t = c ∨
    ∃ change, t = .world change ∧ m.turn c t = { c with shared := m.disturb change c.shared } := by
  cases t with
  | call position =>
    cases h : c.calls[position]? with
    | none => exact .inr (.inl (turn_none h))
    | some call => exact .inl ⟨position, call, rfl, h, turn_call h⟩
  | world change => exact .inr (.inr ⟨change, rfl, rfl⟩)

/-- What every turn of a schedule keeps holds after the schedule. -/
theorem run_induction {P : Configuration σ κ → Prop} (h : P c)
    (hturn : ∀ c, ∀ t ∈ schedule, P c → P (m.turn c t)) : P (m.run schedule c) := by
  induction schedule generalizing c with
  | nil => exact h
  | cons t rest ih =>
    exact ih (hturn c t List.mem_cons_self h) fun c later hlater =>
      hturn c later (List.mem_cons_of_mem t hlater)

theorem set_of_getElem? {l : List τ} {i : Nat} {x : τ} (h : l[i]? = some x) : l.set i x = l := by
  obtain ⟨hlt, rfl⟩ := List.getElem?_eq_some_iff.1 h
  exact List.set_getElem_self hlt

/-- What a step does not change about a call stays the same. -/
theorem map_calls_run {f : κ → τ} (h : ∀ call s, f (m.advance call s).1 = f call) :
    (m.run schedule c).calls.map f = c.calls.map f := by
  refine run_induction (P := fun c' => c'.calls.map f = c.calls.map f) rfl fun c' t _ ih => ?_
  rcases m.turn_cases c' t with ⟨position, call, -, hcall, hturn⟩ | hturn | ⟨change, -, hturn⟩
  · have hsame : (c'.calls.map f)[position]? = some (f call) := by
      rw [List.getElem?_map, hcall, Option.map_some]
    rw [hturn, List.map_set, h, set_of_getElem? hsame, ih]
  · rw [hturn, ih]
  · rw [hturn, ih]

theorem Keeps.run {I : σ → Prop} {J : σ → κ → Prop} (h : m.Keeps schedule I J)
    (hshared : I c.shared) (hcalls : ∀ call ∈ c.calls, J c.shared call) :
    I (m.run schedule c).shared ∧
      ∀ call ∈ (m.run schedule c).calls, J (m.run schedule c).shared call := by
  refine run_induction (P := fun c => I c.shared ∧ ∀ call ∈ c.calls, J c.shared call)
    ⟨hshared, hcalls⟩ fun c t ht hc => ?_
  obtain ⟨hI, hJ⟩ := hc
  rcases m.turn_cases c t with ⟨position, call, -, hcall, hturn⟩ | hturn | ⟨change, rfl, hturn⟩
  · have hmem := List.mem_of_getElem? hcall
    rw [hturn]
    refine ⟨h.shared _ call hI (hJ call hmem), fun other hother => ?_⟩
    rcases List.mem_or_eq_of_mem_set hother with hother | rfl
    · exact h.others _ call other hI (hJ call hmem) (hJ other hother)
    · exact h.own _ call hI (hJ call hmem)
  · rw [hturn]
    exact ⟨hI, hJ⟩
  · rw [hturn]
    obtain ⟨hI', hJ'⟩ := h.world _ change ht hI
    exact ⟨hI', fun call hmem => hJ' call (hJ call hmem)⟩

/-- A call that is given turn after turn takes its steps alone. -/
theorem run_replicate {position : Nat} {call : κ} (h : c.calls[position]? = some call) (n : Nat) :
    m.run (List.replicate n (.call position)) c =
      ⟨(m.alone n (call, c.shared)).2, c.calls.set position (m.alone n (call, c.shared)).1⟩ := by
  induction n generalizing c call with
  | zero =>
    simp [alone, set_of_getElem? h]
  | succ n ih =>
    obtain ⟨hlt, -⟩ := List.getElem?_eq_some_iff.1 h
    rw [List.replicate_succ, run_cons, turn_call h, ih (List.getElem?_set_self hlt)]
    simp [alone]

/-- What each step of a call lowers has been lowered, after a schedule, once for each of its
turns. -/
theorem measure_run {μ : κ → Nat} (h : ∀ call s, μ (m.advance call s).1 ≤ μ call - 1)
    {position : Nat} {call : κ} (hcall : c.calls[position]? = some call) :
    ∃ after, (m.run schedule c).calls[position]? = some after ∧
      μ after ≤ μ call - schedule.countP (Turn.isCall position) := by
  induction schedule generalizing c call with
  | nil => exact ⟨call, hcall, Nat.le_refl _⟩
  | cons t rest ih =>
    rw [run_cons]
    cases t with
    | world change =>
      rw [List.countP_cons_of_neg (by simp [Turn.isCall])]
      exact ih (c := m.turn c (.world change)) hcall
    | call other =>
      by_cases hother : other = position
      · subst hother
        obtain ⟨hlt, -⟩ := List.getElem?_eq_some_iff.1 hcall
        have hstep : (m.turn c (.call other)).calls[other]? = some (m.advance call c.shared).1 := by
          rw [turn_call hcall, List.getElem?_set_self hlt]
        obtain ⟨after, hafter, hle⟩ := ih hstep
        have hlower := h call c.shared
        rw [List.countP_cons_of_pos (by simp [Turn.isCall])]
        exact ⟨after, hafter, by omega⟩
      · have hstep : (m.turn c (.call other)).calls[position]? = some call := by
          cases hmoved : c.calls[other]? with
          | none => rw [turn_none hmoved, hcall]
          | some moved => rw [turn_call hmoved, List.getElem?_set_ne hother, hcall]
        rw [List.countP_cons_of_neg (by simpa [Turn.isCall] using hother)]
        exact ih hstep

end Interleaving

end ConformanceSuite
