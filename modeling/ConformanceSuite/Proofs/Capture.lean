import ConformanceSuite.Proofs.KeyMap
import ConformanceSuite.TestCase.Verdict

/-!
# What a test case captures

A case that passes has bound each of its captures to the first value that its path selects; a case
that does not pass has left the context as it was. `validate_cases` says so of every response, every
validator and every context.
-/

namespace ConformanceSuite

/-- The value that a capture takes from a document: the first that its path selects. -/
def Capture.value? (c : Capture) (document : Json) : Option Json :=
  (JsonPath.find? c.json document).bind List.head?

namespace TestCase

/-- The captures of a case that find a value in a response, in order, with the values they find. -/
def captured (t : TestCase) (response : HttpResponse) : List (String × Json) :=
  match Json.parse response.body with
  | .error _ => []
  | .ok document => t.captures.filterMap fun c => (c.value? document).map (c.name, ·)

/-- What is captured is bound to the name of a capture. -/
theorem name_of_mem_captured {t : TestCase} {response : HttpResponse} {e : String × Json}
    (h : e ∈ t.captured response) : ∃ c ∈ t.captures, c.name = e.1 := by
  unfold captured at h
  split at h
  · cases h
  · obtain ⟨c, hc, hentry⟩ := List.mem_filterMap.1 h
    obtain ⟨value, -, rfl⟩ := Option.map_eq_some_iff.1 hentry
    exact ⟨c, hc, rfl⟩

/-- The last capture of a name decides what it is bound to. -/
theorem get?_insertAll_captured {t : TestCase} {response : HttpResponse} {front back : List Capture}
    {c : Capture} {document value : Json} (hcaptures : t.captures = front ++ c :: back)
    (hlast : ∀ other ∈ back, other.name ≠ c.name) (hbody : Json.parse response.body = .ok document)
    (hvalue : c.value? document = some value) (m : KeyMap Json) :
    (m.insertAll (t.captured response)).get? c.name = some value := by
  have hcaptured : t.captured response =
      front.filterMap (fun c => (c.value? document).map (c.name, ·)) ++ (c.name, value) ::
        back.filterMap (fun c => (c.value? document).map (c.name, ·)) := by
    simp [captured, hbody, hcaptures, hvalue]
  rw [hcaptured]
  refine KeyMap.get?_insertAll_last fun e he => ?_
  obtain ⟨other, hother, hfound⟩ := List.mem_filterMap.1 he
  obtain ⟨found, -, rfl⟩ := Option.map_eq_some_iff.1 hfound
  exact hlast other hother

/-- Every capture of a case finds a value in a response. -/
def CapturesAll (t : TestCase) (response : HttpResponse) : Prop :=
  ∀ c ∈ t.captures, ∃ document, Json.parse response.body = .ok document ∧
    (c.value? document).isSome

/-- A list of captures that misses nothing binds each capture to its value, in order. -/
theorem capturesIn_eq_nil {document : Json} {cs : List Capture} {entries : List (String × Json)}
    (h : capturesIn (.ok document) cs = .ok (entries, [])) :
    (∀ c ∈ cs, (c.value? document).isSome) ∧
      entries = cs.filterMap fun c => (c.value? document).map (c.name, ·) := by
  induction cs generalizing entries with
  | nil =>
    simp only [capturesIn, Except.ok.injEq, Prod.mk.injEq] at h
    simp [← h.1]
  | cons c rest ih =>
    simp only [capturesIn, selectIn, bind, Except.bind] at h
    cases hp : JsonPath.find? c.json document with
    | none => simp [hp] at h
    | some values =>
      cases hr : capturesIn (.ok document) rest with
      | error e => simp [hp, hr] at h
      | ok found =>
        obtain ⟨more, reasons⟩ := found
        -- a path that selects nothing is a reason, and there is none
        cases values with
        | nil => simp [hp, hr] at h
        | cons value others =>
          simp only [hp, hr, Except.ok.injEq, Prod.mk.injEq] at h
          obtain ⟨rfl, rfl⟩ := h
          obtain ⟨hall, rfl⟩ := ih hr
          have hv : c.value? document = some value := by simp [Capture.value?, hp]
          exact ⟨by simpa [hv] using hall, by simp [hv]⟩

/-- Without a document there is nothing to capture from. -/
theorem capturesIn_error {e : Json.Error} {cs : List Capture} {entries : List (String × Json)}
    {reasons : List Reason} (h : capturesIn (.error e) cs = .ok (entries, reasons)) :
    cs = [] ∧ entries = [] := by
  cases cs with
  | nil =>
    simp only [capturesIn, Except.ok.injEq, Prod.mk.injEq] at h
    exact ⟨rfl, h.1.symm⟩
  | cons c rest => simp [capturesIn, selectIn, bind, Except.bind] at h

theorem captured_of_capturesIn {t : TestCase} {response : HttpResponse}
    {entries : List (String × Json)}
    (h : capturesIn (Json.parse response.body) t.captures = .ok (entries, [])) :
    t.CapturesAll response ∧ entries = t.captured response := by
  unfold CapturesAll captured
  cases hb : Json.parse response.body with
  | error e =>
    rw [hb] at h
    obtain ⟨hnil, rfl⟩ := capturesIn_error h
    simp [hnil]
  | ok document =>
    rw [hb] at h
    obtain ⟨hall, rfl⟩ := capturesIn_eq_nil h
    exact ⟨fun c hc => ⟨document, rfl, hall c hc⟩, rfl⟩

/-- A case either passes and captures everything, or does not pass and captures nothing. -/
theorem validate_cases (t : TestCase) (response : HttpResponse) (context : Context)
    (validator : Option ResponseJudge) :
    (context.poisoned = false ∧ t.CapturesAll response ∧
      t.validate response context validator = (.ok ⟨[]⟩,
        { context with entries := context.entries.insertAll (t.captured response) })) ∨
    ((t.validate response context validator).2 = context ∧
      ∀ v, (t.validate response context validator).1 = .ok v → v.pass = false) := by
  cases hr : t.reasonsFor response validator (Json.parse response.body) with
  | error e => simp [validate, hr]
  | ok reasons =>
    cases reasons with
    | cons reason more => simp [validate, hr, Verdict.pass]
    | nil =>
      cases hc : capturesIn (Json.parse response.body) t.captures with
      | error e => simp [validate, hr, hc]
      | ok found =>
        obtain ⟨entries, missing⟩ := found
        cases missing with
        | cons reason more => simp [validate, hr, hc, Verdict.pass]
        | nil =>
          obtain ⟨hall, rfl⟩ := captured_of_capturesIn hc
          cases hp : context.poisoned <;> simp [validate, hr, hc, Context.putAll, hp, hall]

end TestCase

end ConformanceSuite
