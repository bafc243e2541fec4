import Mathlib.Data.List.Forall2
import ConformanceSuite.Proofs.TestCase.Verdict

/-!
# Captures, all or nothing

Nothing reaches the context unless a response passes, and then every capture of the case does, in
the order in which the case declares them. Whatever stands in the way of one of them stands in the
way of all: `validate_all_or_nothing`.
-/

namespace ConformanceSuite.TestCase

/-- A context with the captures of a case: each name is bound, in declared order, to the value that
its capture takes. So the last capture of a name decides, and other keys stay as they were. -/
structure Captured (t : TestCase) (r : HttpResponse) (before after : Context) : Prop where
  bound : ∃ entries : List (String × Json),
    List.Forall₂ (fun c e => e.1 = c.name ∧ c.Takes r e.2) t.captures entries ∧
      after = { before with entries := before.entries.insertAll entries }
  last : ∀ front c back value, t.captures = front ++ c :: back →
    (∀ other ∈ back, other.name ≠ c.name) → c.Takes r value →
    after.entries.get? c.name = some value
  others : ∀ key, (∀ c ∈ t.captures, c.name ≠ key) →
    after.entries.get? key = before.entries.get? key

/-- Something stands in the way of a capture. -/
inductive Obstructed (t : TestCase) (r : HttpResponse) (validator : Option ResponseJudge)
    (context : Context) : Prop
  | status (h : r.status ≠ t.expect.status)
  | schemaFails {e : JudgementError} (h : t.SchemaFails r validator e)
  | schemaFailure {failures : List SchemaFailure} (h : t.SchemaAnswers r validator failures)
      (hne : failures ≠ [])
  | check {m : Match} (hm : m ∈ t.expect.checks) (h : ¬ m.Holds r)
  | capture {c : Capture} (hc : c ∈ t.captures) (h : ¬ c.Finds r)
  | malformed {path : String}
      (hpath : path ∈ t.expect.checks.filterMap Match.json ++ t.captures.map Capture.json)
      (h : JsonPath.ofString? path = none)
  | body {e : Json.Error} (h : Json.parse r.body = .error e)
  | poisoned (h : context.poisoned = true)

section Captures

variable {t : TestCase} {r : HttpResponse} {validator : Option ResponseJudge} {context : Context}

theorem forall₂_captured (h : ∀ c ∈ t.captures, c.Finds r) :
    List.Forall₂ (fun c e => e.1 = c.name ∧ c.Takes r e.2) t.captures (t.captured r) := by
  have hcaptured : t.captured r = t.captures.filterMap fun c => (c.valueIn? r).map (c.name, ·) := by
    unfold captured Capture.valueIn?
    cases Json.parse r.body <;> simp [Except.toOption]
  rw [hcaptured]
  generalize t.captures = cs at h
  induction cs with
  | nil => exact .nil
  | cons c rest ih =>
    obtain ⟨⟨value, hvalue⟩, hrest⟩ := List.forall_mem_cons.1 h
    rw [List.filterMap_cons_some (by rw [Capture.valueIn?_eq_some_iff.2 hvalue]; rfl)]
    exact .cons ⟨rfl, hvalue⟩ (ih hrest)

theorem captured_insertAll (h : ∀ c ∈ t.captures, c.Finds r) (context : Context) :
    t.Captured r context
      { context with entries := context.entries.insertAll (t.captured r) } where
  bound := ⟨_, forall₂_captured h, rfl⟩
  last front c back value hcaptures hlast hvalue := by
    obtain ⟨rest, document, hbody, hpath⟩ := hvalue
    have hfirst : c.value? document = some value := by simp [Capture.value?, hpath]
    exact get?_insertAll_captured hcaptures hlast hbody hfirst context.entries
  others key hkey := by
    refine KeyMap.get?_insertAll_of_ne fun e he => ?_
    obtain ⟨c, hc, hname⟩ := name_of_mem_captured he
    exact hname ▸ hkey c hc

/-- A path that is malformed selects nothing, whatever the response. -/
theorem not_selects_of_malformed {path : String} {values : List Json}
    (h : JsonPath.ofString? path = none) : ¬ r.Selects path values := by
  rintro ⟨document, -, hpath⟩
  simp [JsonPath.find?, h] at hpath

/-- What is accepted over a sound context has nothing in the way, save a body that is no JSON and
that nothing is captured from. -/
theorem captured_eq_nil_of_obstructed (hsound : context.poisoned = false)
    (haccepts : t.Accepts r validator) (h : t.Obstructed r validator context) :
    t.captured r = [] := by
  cases h with
  | status h => exact absurd haccepts.status h
  | schemaFails h =>
    cases (schemaReasons_of_fails h).symm.trans (schemaReasons_of_answers haccepts.schema)
  | schemaFailure h hne =>
    have hreasons :=
      (schemaReasons_of_answers h).symm.trans (schemaReasons_of_answers haccepts.schema)
    exact absurd (List.map_eq_nil_iff.1 (Except.ok.inj hreasons)) hne
  | check hm h => exact absurd (haccepts.checks _ hm) h
  | capture hc h => exact absurd (haccepts.captures _ hc) h
  | malformed hpath h =>
    rcases List.mem_append.1 hpath with hcheck | hcapture
    · obtain ⟨values, hvalues⟩ := haccepts.selectsAll _ hcheck
      exact absurd hvalues (not_selects_of_malformed h)
    · obtain ⟨c, hc, rfl⟩ := List.mem_map.1 hcapture
      obtain ⟨value, rest, hvalues⟩ := haccepts.captures c hc
      exact absurd hvalues (not_selects_of_malformed h)
  | body h => simp [captured, h]
  | poisoned h => simp [hsound] at h

/-- The context afterwards has all captures of an accepted response, and of any other response none;
whatever stands in the way of one capture stands in the way of all. -/
theorem validate_all_or_nothing (t : TestCase) (r : HttpResponse)
    (validator : Option ResponseJudge) (context : Context) :
    ((∃ v, (t.validate r context validator).1 = .ok v ∧ v.pass = true) →
        t.Captured r context (t.validate r context validator).2) ∧
      ((¬ ∃ v, (t.validate r context validator).1 = .ok v ∧ v.pass = true) →
        (t.validate r context validator).2 = context) ∧
      (t.Obstructed r validator context → (t.validate r context validator).2 = context) := by
  rcases t.validate_cases r context validator with
    ⟨hsound, -, hvalidate⟩ | ⟨hleft, hfailed⟩
  · have hpass : ∃ v, (t.validate r context validator).1 = .ok v ∧ v.pass = true :=
      ⟨⟨[]⟩, by rw [hvalidate], rfl⟩
    have haccepts := (exists_pass_iff hsound).1 hpass
    refine ⟨fun _ => ?_, fun hnot => absurd hpass hnot, fun hobstructed => ?_⟩
    · rw [hvalidate]
      exact captured_insertAll haccepts.captures context
    · rw [hvalidate, captured_eq_nil_of_obstructed hsound haccepts hobstructed]
      rfl
  · refine ⟨fun ⟨v, hv, hpass⟩ => ?_, fun _ => hleft, fun _ => hleft⟩
    rw [hfailed v hv] at hpass
    cases hpass

end Captures

end ConformanceSuite.TestCase
