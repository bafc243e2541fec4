import ConformanceSuite.Proofs.Capture
import ConformanceSuite.Proofs.KeyMap

/-!
# Verdicts are exact

A test case accepts a response if its status, the schema, every check and every capture are as they
should be. It refuses to judge at the first path that cannot be followed, and otherwise gives one
reason for each thing that is wrong: `validate_decided`.
-/

namespace ConformanceSuite

/-! ### Paths into a response -/

namespace HttpResponse

/-- A path selects values in the body. -/
def Selects (r : HttpResponse) (path : String) (values : List Json) : Prop :=
  ∃ document, Json.parse r.body = .ok document ∧ JsonPath.find? path document = some values

/-- A path cannot be followed: the body is no JSON, or the text is no path. -/
inductive PathFails (r : HttpResponse) (path : String) : JudgementError → Prop
  | body {e : Json.Error} (h : Json.parse r.body = .error e) : PathFails r path (.body e)
  | malformed {document : Json} (h : Json.parse r.body = .ok document)
      (hpath : JsonPath.find? path document = none) : PathFails r path (.jsonPath path)

/-- The first of some paths that cannot be followed. -/
inductive FirstFails (r : HttpResponse) : List String → JudgementError → Prop
  | here {path : String} {rest : List String} {e : JudgementError} (h : r.PathFails path e) :
      FirstFails r (path :: rest) e
  | later {path : String} {rest : List String} {values : List Json} {e : JudgementError}
      (h : r.Selects path values) (hrest : FirstFails r rest e) : FirstFails r (path :: rest) e

/-- Every one of some paths can be followed. -/
def SelectsAll (r : HttpResponse) (paths : List String) : Prop :=
  ∀ path ∈ paths, ∃ values, r.Selects path values

variable {r : HttpResponse} {path : String} {paths : List String}

theorem selectIn_eq_ok_iff {values : List Json} :
    selectIn (Json.parse r.body) path = .ok values ↔ r.Selects path values := by
  unfold selectIn Selects
  cases Json.parse r.body with
  | error e => simp
  | ok document => cases hpath : JsonPath.find? path document <;> simp [hpath]

theorem Selects.unique {values values' : List Json} (h : r.Selects path values)
    (h' : r.Selects path values') : values = values' :=
  Except.ok.inj ((selectIn_eq_ok_iff.2 h).symm.trans (selectIn_eq_ok_iff.2 h'))

theorem selectIn_of_pathFails {e : JudgementError} (h : r.PathFails path e) :
    selectIn (Json.parse r.body) path = .error e := by
  cases h with
  | body h => simp [selectIn, h]
  | malformed h hpath => simp [selectIn, h, hpath]

theorem selects_or_fails (r : HttpResponse) (path : String) :
    (∃ values, r.Selects path values) ∨ ∃ e, r.PathFails path e := by
  cases hbody : Json.parse r.body with
  | error e => exact .inr ⟨_, .body hbody⟩
  | ok document =>
    cases hpath : JsonPath.find? path document with
    | none => exact .inr ⟨_, .malformed hbody hpath⟩
    | some values => exact .inl ⟨values, document, hbody, hpath⟩

theorem selectsAll_or_firstFails (r : HttpResponse) (paths : List String) :
    r.SelectsAll paths ∨ ∃ e, r.FirstFails paths e := by
  induction paths with
  | nil => exact .inl nofun
  | cons path rest ih =>
    rcases r.selects_or_fails path with ⟨values, hpath⟩ | ⟨e, hpath⟩
    · rcases ih with hrest | ⟨e, hrest⟩
      · exact .inl (List.forall_mem_cons.2 ⟨⟨values, hpath⟩, hrest⟩)
      · exact .inr ⟨e, .later hpath hrest⟩
    · exact .inr ⟨e, .here hpath⟩

end HttpResponse

/-! ### Checks -/

namespace Match

/-- What a check asks of a response. By a JSON path, a value with the expected text, or any value if
no text is expected; by the name of a header, which is kept in small letters, that header with the
expected value, or with any; and by neither, nothing. -/
def Holds (m : Match) (r : HttpResponse) : Prop :=
  match m.json, m.header with
  | some path, _ => ∃ values, r.Selects path values ∧
      ∃ value ∈ values, ∀ expected, m.value = some expected → value.text = expected
  | none, some name => ∃ header ∈ r.headers.entries, header.1 = Text.lowerAscii name ∧
      ∀ expected, m.value = some expected → header.2 = expected
  | none, none => True

/-- The reason that a check gives when it does not hold. -/
def reason? (m : Match) : Option Reason :=
  match m.json, m.header with
  | some path, _ => some (.json m.description path)
  | none, some name => some (.header m.description name)
  | none, none => none

theorem holdsFor_iff {m : Match} {values : List Json} :
    m.holdsFor values = true ↔
      ∃ value ∈ values, ∀ expected, m.value = some expected → value.text = expected := by
  cases hvalue : m.value with
  | none => cases values <;> simp [holdsFor, hvalue]
  | some expected => simp [holdsFor, hvalue]

theorem holdsForHeader_iff {m : Match} {r : HttpResponse} {name : String} :
    m.holdsForHeader (r.header name) = true ↔
      ∃ header ∈ r.headers.entries, header.1 = Text.lowerAscii name ∧
        ∀ expected, m.value = some expected → header.2 = expected := by
  have hfound : ∀ actual, r.header name = some actual ↔
      (Text.lowerAscii name, actual) ∈ r.headers.entries := fun _ => KeyMap.mem_entries.symm
  constructor
  · intro h
    cases hheader : r.header name with
    | none => simp [holdsForHeader, hheader] at h
    | some actual =>
      refine ⟨_, (hfound actual).1 hheader, rfl, fun expected hexpected => ?_⟩
      simpa [holdsForHeader, hheader, hexpected] using h
  · rintro ⟨⟨stored, actual⟩, hmem, rfl, hvalue⟩
    rw [(hfound actual).2 hmem]
    cases hexpected : m.value with
    | none => simp [holdsForHeader, hexpected]
    | some expected => simpa [holdsForHeader, hexpected] using hvalue expected hexpected

/-- Whether a check holds. -/
def passes (m : Match) (r : HttpResponse) : Bool :=
  match m.json, m.header with
  | some path, _ => (selectIn (Json.parse r.body) path).toOption.any m.holdsFor
  | none, some name => m.holdsForHeader (r.header name)
  | none, none => true

theorem passes_iff {m : Match} {r : HttpResponse} : m.passes r = true ↔ m.Holds r := by
  unfold passes Holds
  split
  · rename_i path _
    constructor
    · intro h
      cases hselect : selectIn (Json.parse r.body) path with
      | error e => simp [hselect, Except.toOption] at h
      | ok values =>
        have hvalues : m.holdsFor values = true := by simpa [hselect, Except.toOption] using h
        exact ⟨values, HttpResponse.selectIn_eq_ok_iff.1 hselect, holdsFor_iff.1 hvalues⟩
    · rintro ⟨values, hvalues, hholds⟩
      rw [HttpResponse.selectIn_eq_ok_iff.2 hvalues]
      simpa [Except.toOption] using holdsFor_iff.2 hholds
  · exact holdsForHeader_iff
  · simp

instance (m : Match) (r : HttpResponse) : Decidable (m.Holds r) := decidable_of_iff _ passes_iff

/-- The reason that a check gives against a response. -/
def objection? (m : Match) (r : HttpResponse) : Option Reason :=
  if m.Holds r then none else m.reason?

variable {m : Match} {r : HttpResponse}

theorem objection?_eq (m : Match) (r : HttpResponse) :
    m.objection? r = if m.passes r then none else m.reason? := by
  simp only [objection?, passes_iff]

theorem objection?_eq_none_iff : m.objection? r = none ↔ m.Holds r := by
  by_cases h : m.Holds r
  · simp [objection?, h]
  · have hreason : m.reason? ≠ none := by
      unfold Holds at h
      unfold reason?
      split <;> simp_all
    simp [objection?, h, hreason]

theorem failures_of_selects (h : ∀ path, m.json = some path → ∃ values, r.Selects path values) :
    m.failures r (Json.parse r.body) = .ok (m.objection? r).toList := by
  rw [objection?_eq]
  cases hjson : m.json with
  | some path =>
    obtain ⟨values, hvalues⟩ := h path hjson
    have hselect := HttpResponse.selectIn_eq_ok_iff.2 hvalues
    cases hholds : m.holdsFor values <;>
      simp [failures, passes, reason?, hjson, hselect, hholds, Except.map, Except.toOption]
  | none =>
    cases hheader : m.header with
    | none => simp [failures, passes, hjson, hheader]
    | some name =>
      cases hholds : m.holdsForHeader (r.header name) <;>
        simp [failures, passes, reason?, hjson, hheader, hholds]

theorem failures_of_fails {path : String} {e : JudgementError} (hjson : m.json = some path)
    (h : r.PathFails path e) : m.failures r (Json.parse r.body) = .error e := by
  simp [failures, hjson, HttpResponse.selectIn_of_pathFails h, Except.map]

end Match

/-! ### Captures -/

namespace Capture

variable {c : Capture} {r : HttpResponse}

/-- A capture takes a value from a response: the first that its path selects. -/
def Takes (c : Capture) (r : HttpResponse) (value : Json) : Prop :=
  ∃ rest, r.Selects c.json (value :: rest)

/-- A capture finds a value to take. -/
def Finds (c : Capture) (r : HttpResponse) : Prop := ∃ value, c.Takes r value

/-- The value that a capture takes from a response. -/
def valueIn? (c : Capture) (r : HttpResponse) : Option Json :=
  (Json.parse r.body).toOption.bind c.value?

theorem valueIn?_eq_some_iff {value : Json} : c.valueIn? r = some value ↔ c.Takes r value := by
  unfold valueIn? Takes HttpResponse.Selects
  cases Json.parse r.body with
  | error e => simp [Except.toOption]
  | ok document =>
    cases hpath : JsonPath.find? c.json document with
    | none => simp [Except.toOption, value?, hpath]
    | some values => cases values <;> simp [Except.toOption, value?, hpath]

theorem finds_iff : (c.valueIn? r).isSome = true ↔ c.Finds r := by
  simp only [Option.isSome_iff_exists, valueIn?_eq_some_iff, Finds]

instance (c : Capture) (r : HttpResponse) : Decidable (c.Finds r) := decidable_of_iff _ finds_iff

/-- The reason that a capture gives against a response. -/
def objection? (c : Capture) (r : HttpResponse) : Option Reason :=
  if c.Finds r then none else some (.capture c.name c.json)

theorem objection?_eq_none_iff : c.objection? r = none ↔ c.Finds r := by simp [objection?]

end Capture

/-! ### Test cases -/

namespace TestCase

section Lists

variable {r : HttpResponse}

theorem checkReasons_of_selects {ms : List Match} (h : r.SelectsAll (ms.filterMap Match.json)) :
    checkReasons r (Json.parse r.body) ms = .ok (ms.filterMap (·.objection? r)) := by
  induction ms with
  | nil => rfl
  | cons m rest ih =>
    have hfirst : ∀ path, m.json = some path → ∃ values, r.Selects path values :=
      fun path hpath => h path (List.mem_filterMap.2 ⟨m, List.mem_cons_self, hpath⟩)
    have hrest : r.SelectsAll (rest.filterMap Match.json) := fun path hpath => by
      obtain ⟨other, hother, hjson⟩ := List.mem_filterMap.1 hpath
      exact h path (List.mem_filterMap.2 ⟨other, List.mem_cons_of_mem _ hother, hjson⟩)
    rw [checkReasons, Match.failures_of_selects hfirst, ih hrest]
    cases hobjection : m.objection? r <;> simp [hobjection, bind, Except.bind]

theorem checkReasons_of_fails {ms : List Match} {e : JudgementError}
    (h : r.FirstFails (ms.filterMap Match.json) e) :
    checkReasons r (Json.parse r.body) ms = .error e := by
  induction ms with
  | nil => cases h
  | cons m rest ih =>
    cases hjson : m.json with
    | none =>
      rw [List.filterMap_cons_none hjson] at h
      rw [checkReasons, Match.failures_of_selects (by simp [hjson]), ih h]
      rfl
    | some path =>
      rw [List.filterMap_cons_some hjson] at h
      rw [checkReasons]
      cases h with
      | here h => rw [Match.failures_of_fails hjson h]; rfl
      | later h hrest =>
        rw [Match.failures_of_selects (by simpa [hjson] using ⟨_, h⟩), ih hrest]
        rfl

theorem capturesIn_of_selects {cs : List Capture} (h : r.SelectsAll (cs.map Capture.json)) :
    ∃ entries, capturesIn (Json.parse r.body) cs =
      .ok (entries, cs.filterMap (·.objection? r)) := by
  induction cs with
  | nil => exact ⟨[], rfl⟩
  | cons c rest ih =>
    obtain ⟨⟨values, hvalues⟩, hrest⟩ := List.forall_mem_cons.1 h
    obtain ⟨entries, hentries⟩ := ih hrest
    rw [capturesIn, HttpResponse.selectIn_eq_ok_iff.2 hvalues, hentries]
    cases values with
    | nil =>
      have hmissed : ¬ c.Finds r := by
        rintro ⟨value, others, h⟩
        cases hvalues.unique h
      exact ⟨entries, by simp [Capture.objection?, hmissed, bind, Except.bind]⟩
    | cons value others =>
      have hfound : c.Finds r := ⟨value, others, hvalues⟩
      exact ⟨(c.name, value) :: entries, by simp [Capture.objection?, hfound, bind, Except.bind]⟩

theorem capturesIn_of_fails {cs : List Capture} {e : JudgementError}
    (h : r.FirstFails (cs.map Capture.json) e) :
    capturesIn (Json.parse r.body) cs = .error e := by
  induction cs with
  | nil => cases h
  | cons c rest ih =>
    rw [capturesIn]
    cases h with
    | here h => rw [HttpResponse.selectIn_of_pathFails h]; rfl
    | later h hrest =>
      rw [HttpResponse.selectIn_eq_ok_iff.2 h, ih hrest]
      rfl

end Lists

section Schema

variable (t : TestCase) (r : HttpResponse) (validator : Option ResponseJudge)

/-- What a schema validator answers, and nothing if the case does not ask for one. -/
inductive SchemaAnswers : List SchemaFailure → Prop
  | unasked (h : t.expect.schemaValidation = false) : SchemaAnswers []
  | asked {judge : ResponseJudge} {failures : List SchemaFailure}
      (h : t.expect.schemaValidation = true) (hvalidator : validator = some judge)
      (hanswer : judge r = .ok failures) : SchemaAnswers failures

/-- The case asks for a schema validator, and there is none or it fails. -/
inductive SchemaFails : JudgementError → Prop
  | unavailable (h : t.expect.schemaValidation = true) (hvalidator : validator = none) :
      SchemaFails .schemaUnavailable
  | failed {judge : ResponseJudge} {e : ValidatorError} (h : t.expect.schemaValidation = true)
      (hvalidator : validator = some judge) (hanswer : judge r = .error e) :
      SchemaFails (.schema e)

variable {t r validator}

theorem schemaReasons_of_answers {failures : List SchemaFailure}
    (h : t.SchemaAnswers r validator failures) :
    t.schemaReasons r validator = .ok (failures.map fun f => .schema f.message) := by
  cases h with
  | unasked h => simp [schemaReasons, h]
  | asked h hvalidator hanswer => simp [schemaReasons, h, hvalidator, hanswer]

theorem schemaReasons_of_fails {e : JudgementError} (h : t.SchemaFails r validator e) :
    t.schemaReasons r validator = .error e := by
  cases h with
  | unavailable h hvalidator => simp [schemaReasons, h, hvalidator]
  | failed h hvalidator hanswer => simp [schemaReasons, h, hvalidator, hanswer]

variable (t r validator)

theorem schemaAnswers_or_fails :
    (∃ failures, t.SchemaAnswers r validator failures) ∨ ∃ e, t.SchemaFails r validator e := by
  cases h : t.expect.schemaValidation with
  | false => exact .inl ⟨[], .unasked h⟩
  | true =>
    cases validator with
    | none => exact .inr ⟨_, .unavailable h rfl⟩
    | some judge =>
      cases hanswer : judge r with
      | error e => exact .inr ⟨_, .failed h rfl hanswer⟩
      | ok failures => exact .inl ⟨failures, .asked h rfl hanswer⟩

end Schema

section Verdicts

variable (t : TestCase) (r : HttpResponse) (validator : Option ResponseJudge)

/-- No check fails: not the status, not the schema and none of those that the case declares. -/
structure Meets : Prop where
  status : r.status = t.expect.status
  schema : t.SchemaAnswers r validator []
  checks : ∀ m ∈ t.expect.checks, m.Holds r

/-- No check fails, and every capture finds a value. -/
structure Accepts : Prop extends t.Meets r validator where
  captures : ∀ c ∈ t.captures, c.Finds r

/-- A response cannot be judged. The schema validator goes first and the checks follow, whatever
has failed by then; captures are looked at only if nothing has. -/
inductive Refuses : JudgementError → Prop
  | schema {e : JudgementError} (h : t.SchemaFails r validator e) : Refuses e
  | check {failures : List SchemaFailure} {e : JudgementError}
      (hschema : t.SchemaAnswers r validator failures)
      (h : r.FirstFails (t.expect.checks.filterMap Match.json) e) : Refuses e
  | capture {e : JudgementError} (hmeets : t.Meets r validator)
      (h : r.FirstFails (t.captures.map Capture.json) e) : Refuses e

/-- What the status, the schema and the declared checks have against a response, in this order. -/
def objections (failures : List SchemaFailure) : List Reason :=
  (if r.status = t.expect.status then [] else [.status r.status t.expect.status]) ++
    failures.map (fun f => .schema f.message) ++ t.expect.checks.filterMap (·.objection? r)

/-- The reasons against a response: those of the checks, and if there are none those of the
captures. -/
def reasonsAgainst (failures : List SchemaFailure) : List Reason :=
  if t.objections r failures = [] then t.captures.filterMap (·.objection? r)
  else t.objections r failures

/-- All that is looked at can be judged, and the schema validator gives these failures. -/
structure Judgeable (failures : List SchemaFailure) : Prop where
  schema : t.SchemaAnswers r validator failures
  checks : r.SelectsAll (t.expect.checks.filterMap Match.json)
  captures : t.objections r failures = [] → r.SelectsAll (t.captures.map Capture.json)

variable {t r validator} {context : Context} {failures : List SchemaFailure}

theorem objections_eq_nil_iff : t.objections r failures = [] ↔
    r.status = t.expect.status ∧ failures = [] ∧ ∀ m ∈ t.expect.checks, m.Holds r := by
  by_cases hstatus : r.status = t.expect.status <;>
    simp [objections, hstatus, List.filterMap_eq_nil_iff, Match.objection?_eq_none_iff]

theorem Meets.objections (h : t.Meets r validator) : t.objections r [] = [] :=
  objections_eq_nil_iff.2 ⟨h.status, rfl, h.checks⟩

theorem Meets.selectsAll (h : t.Meets r validator) :
    r.SelectsAll (t.expect.checks.filterMap Match.json) := by
  intro path hpath
  obtain ⟨m, hm, hjson⟩ := List.mem_filterMap.1 hpath
  have hholds := h.checks m hm
  simp only [Match.Holds, hjson] at hholds
  obtain ⟨values, hvalues, -⟩ := hholds
  exact ⟨values, hvalues⟩

theorem meets_of_objections (hschema : t.SchemaAnswers r validator failures)
    (h : t.objections r failures = []) : t.Meets r validator := by
  obtain ⟨hstatus, rfl, hchecks⟩ := objections_eq_nil_iff.1 h
  exact ⟨hstatus, hschema, hchecks⟩

theorem reasonsFor_of_selects (hschema : t.SchemaAnswers r validator failures)
    (h : r.SelectsAll (t.expect.checks.filterMap Match.json)) :
    t.reasonsFor r validator (Json.parse r.body) = .ok (t.objections r failures) := by
  rw [reasonsFor, schemaReasons_of_answers hschema, checkReasons_of_selects h]
  rfl

/-- What cannot be judged is refused, with the first failure. -/
theorem validate_of_refuses {e : JudgementError} (h : t.Refuses r validator e) :
    (t.validate r context validator).1 = .error e := by
  cases h with
  | schema h =>
    have hreasons : t.reasonsFor r validator (Json.parse r.body) = .error e := by
      rw [reasonsFor, schemaReasons_of_fails h]
      rfl
    simp [validate, hreasons]
  | check hschema h =>
    have hreasons : t.reasonsFor r validator (Json.parse r.body) = .error e := by
      rw [reasonsFor, schemaReasons_of_answers hschema, checkReasons_of_fails h]
      rfl
    simp [validate, hreasons]
  | capture hmeets h =>
    have hreasons := reasonsFor_of_selects hmeets.schema hmeets.selectsAll
    rw [hmeets.objections] at hreasons
    simp [validate, hreasons, capturesIn_of_fails h]

/-- What can be judged is given its reasons, or none. -/
theorem validate_of_judgeable (hsound : context.poisoned = false)
    (h : t.Judgeable r validator failures) :
    (t.validate r context validator).1 = .ok ⟨t.reasonsAgainst r failures⟩ := by
  have hreasons := reasonsFor_of_selects h.schema h.checks
  cases hobjections : t.objections r failures with
  | cons reason more =>
    simp [validate, hreasons, reasonsAgainst, hobjections]
  | nil =>
    obtain ⟨entries, hcaptures⟩ := capturesIn_of_selects (h.captures hobjections)
    rw [hobjections] at hreasons
    cases hmissed : t.captures.filterMap (·.objection? r) with
    | nil =>
      simp [validate, hreasons, reasonsAgainst, hobjections, hcaptures, hmissed, Context.putAll,
        hsound]
    | cons reason more =>
      simp [validate, hreasons, reasonsAgainst, hobjections, hcaptures, hmissed]

theorem refuses_or_judgeable (t : TestCase) (r : HttpResponse)
    (validator : Option ResponseJudge) :
    (∃ e, t.Refuses r validator e) ∨ ∃ failures, t.Judgeable r validator failures := by
  rcases t.schemaAnswers_or_fails r validator with ⟨failures, hschema⟩ | ⟨e, hschema⟩
  · rcases r.selectsAll_or_firstFails (t.expect.checks.filterMap Match.json) with
      hchecks | ⟨e, hchecks⟩
    · by_cases hobjections : t.objections r failures = []
      · rcases r.selectsAll_or_firstFails (t.captures.map Capture.json) with
          hcaptures | ⟨e, hcaptures⟩
        · exact .inr ⟨failures, hschema, hchecks, fun _ => hcaptures⟩
        · exact .inl ⟨e, .capture (meets_of_objections hschema hobjections) hcaptures⟩
      · exact .inr ⟨failures, hschema, hchecks, fun h => absurd h hobjections⟩
    · exact .inl ⟨e, .check hschema hchecks⟩
  · exact .inl ⟨e, .schema hschema⟩

/-- A response is accepted exactly if it can be judged and there is no reason against it. -/
theorem accepts_iff : t.Accepts r validator ↔
    ∃ failures, t.Judgeable r validator failures ∧ t.reasonsAgainst r failures = [] := by
  constructor
  · intro h
    refine ⟨[], ⟨h.schema, h.selectsAll, fun _ path hpath => ?_⟩, ?_⟩
    · obtain ⟨c, hc, rfl⟩ := List.mem_map.1 hpath
      obtain ⟨value, rest, hselects⟩ := h.captures c hc
      exact ⟨_, hselects⟩
    · rw [reasonsAgainst, if_pos h.objections, List.filterMap_eq_nil_iff]
      exact fun c hc => Capture.objection?_eq_none_iff.2 (h.captures c hc)
  · rintro ⟨failures, hjudgeable, hreasons⟩
    by_cases hobjections : t.objections r failures = []
    · rw [reasonsAgainst, if_pos hobjections, List.filterMap_eq_nil_iff] at hreasons
      exact ⟨meets_of_objections hjudgeable.schema hobjections,
        fun c hc => Capture.objection?_eq_none_iff.1 (hreasons c hc)⟩
    · rw [reasonsAgainst, if_neg hobjections] at hreasons
      exact absurd hreasons hobjections

theorem validate_eq_error_iff (hsound : context.poisoned = false) {e : JudgementError} :
    (t.validate r context validator).1 = .error e ↔ t.Refuses r validator e := by
  refine ⟨fun h => ?_, validate_of_refuses⟩
  rcases t.refuses_or_judgeable r validator with ⟨e', hrefuses⟩ | ⟨failures, hjudgeable⟩
  · obtain rfl := Except.error.inj ((validate_of_refuses hrefuses).symm.trans h)
    exact hrefuses
  · cases (validate_of_judgeable hsound hjudgeable).symm.trans h

theorem validate_eq_ok_iff (hsound : context.poisoned = false) {v : Verdict} :
    (t.validate r context validator).1 = .ok v ↔
      ∃ failures, t.Judgeable r validator failures ∧ v = ⟨t.reasonsAgainst r failures⟩ := by
  constructor
  · intro h
    rcases t.refuses_or_judgeable r validator with ⟨e, hrefuses⟩ | ⟨failures, hjudgeable⟩
    · cases (validate_of_refuses hrefuses).symm.trans h
    · exact ⟨failures, hjudgeable,
        Except.ok.inj (h.symm.trans (validate_of_judgeable hsound hjudgeable))⟩
  · rintro ⟨failures, hjudgeable, rfl⟩
    exact validate_of_judgeable hsound hjudgeable

theorem exists_pass_iff (hsound : context.poisoned = false) :
    (∃ v, (t.validate r context validator).1 = .ok v ∧ v.pass = true) ↔
      t.Accepts r validator := by
  rw [accepts_iff]
  constructor
  · rintro ⟨v, hv, hpass⟩
    obtain ⟨failures, hjudgeable, rfl⟩ := (validate_eq_ok_iff hsound).1 hv
    exact ⟨failures, hjudgeable, List.isEmpty_iff.1 hpass⟩
  · rintro ⟨failures, hjudgeable, hreasons⟩
    exact ⟨_, validate_of_judgeable hsound hjudgeable, List.isEmpty_iff.2 hreasons⟩

/-- Over a sound context a response passes exactly if it is accepted, and is refused with the first
failure to judge it; any other does not pass, for the reasons that there are against it. -/
theorem validate_decided (t : TestCase) (r : HttpResponse) (validator : Option ResponseJudge)
    (context : Context) (hsound : context.poisoned = false) :
    ((∃ v, (t.validate r context validator).1 = .ok v ∧ v.pass = true) ↔
        t.Accepts r validator) ∧
      (∀ e, (t.validate r context validator).1 = .error e ↔ t.Refuses r validator e) ∧
      (¬ t.Accepts r validator → (∀ e, ¬ t.Refuses r validator e) →
        ∃ v failures, (t.validate r context validator).1 = .ok v ∧ v.pass = false ∧
          t.SchemaAnswers r validator failures ∧ v.reasons = t.reasonsAgainst r failures) := by
  refine ⟨exists_pass_iff hsound, fun e => validate_eq_error_iff hsound, ?_⟩
  intro hrejected hjudged
  rcases t.refuses_or_judgeable r validator with ⟨e, hrefuses⟩ | ⟨failures, hjudgeable⟩
  · exact absurd hrefuses (hjudged e)
  · have hv := validate_of_judgeable hsound hjudgeable
    refine ⟨_, failures, hv, ?_, hjudgeable.schema, rfl⟩
    rw [← Bool.not_eq_true]
    exact fun hpass => hrejected ((exists_pass_iff hsound).1 ⟨_, hv, hpass⟩)

end Verdicts

/-- A case that asks for a status, the schema, a value, a header and a capture. -/
def demandingCase : TestCase where
  id := "1"
  name := "read"
  input := ⟨"get", "/consents", .empty, none⟩
  expect := ⟨200, true, [⟨some "state", some "$[0]", none, some "Authorised"⟩,
    ⟨none, none, some "X-Interaction", none⟩]⟩
  captures := [⟨"consent", "$[1]"⟩]

/-- A response that has the header, and nothing else that is asked for. -/
def forbiddenResponse : HttpResponse :=
  { (HttpResponse.ofStatus "get" "/consents" 403).addHeader "x-interaction" "7" with
    body := Json.bytesOf "[\"Rejected\"]" }

/-- A schema validator with one failure for every response. -/
def failingJudge : ResponseJudge := fun _ => .ok [⟨"bad content type"⟩]

/-- All that is wrong is told in order, save the capture that was not looked at. -/
theorem validate_decided_forbidden :
    Context.empty.poisoned = false ∧
      ¬ demandingCase.Accepts forbiddenResponse failingJudge ∧
      (∀ e, ¬ demandingCase.Refuses forbiddenResponse failingJudge e) ∧
      ∃ v, (demandingCase.validate forbiddenResponse .empty failingJudge).1 = .ok v ∧
        v.pass = false ∧ v.reasons =
          [.status 403 200, .schema "bad content type", .json (some "state") "$[0]"] := by
  obtain ⟨hpass, herror, hfail⟩ :=
    validate_decided demandingCase forbiddenResponse failingJudge .empty rfl
  have hanswer : (demandingCase.validate forbiddenResponse .empty failingJudge).1.toOption =
      some ⟨[.status 403 200, .schema "bad content type", .json (some "state") "$[0]"]⟩ := by
    decide +kernel
  have hrejected : ¬ demandingCase.Accepts forbiddenResponse failingJudge := fun haccepts => by
    obtain ⟨v, hv, hpassed⟩ := hpass.2 haccepts
    rw [hv] at hanswer
    rw [Option.some.inj hanswer] at hpassed
    cases hpassed
  have hjudged : ∀ e, ¬ demandingCase.Refuses forbiddenResponse failingJudge e := by
    intro e hrefuses
    rw [(herror e).2 hrefuses] at hanswer
    cases hanswer
  obtain ⟨v, failures, hv, hfailed, -, -⟩ := hfail hrejected hjudged
  rw [hv] at hanswer
  exact ⟨rfl, hrejected, hjudged, v, hv, hfailed,
    congrArg Verdict.reasons (Option.some.inj hanswer)⟩

end TestCase

end ConformanceSuite
