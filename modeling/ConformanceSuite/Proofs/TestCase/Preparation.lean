import ConformanceSuite.Proofs.Run.Calls
import ConformanceSuite.Proofs.TestCase.Template

/-!
# What preparation depends on

Preparing a test case fills in its templates one after another: the endpoint, the values of the
headers in ascending order of their names, and the body. It looks at its context for nothing but
the names that these mention. So it succeeds exactly if all of them are bound, and otherwise reports
the first that is not; over contexts that give them the same texts it comes to the same:
`prepare_decided`.
-/

namespace ConformanceSuite

namespace Template

/-- A template mentions a name: it stands behind a dollar sign and does not go on behind it. -/
def Mentions (template name : String) : Prop :=
  IsName name ∧ ∃ front back, EndsName back ∧
    template.toList = front ++ '$' :: (name.toList ++ back)

/-- The names of its reading are those that a template mentions. -/
theorem mem_names_reading_iff {template name : String} :
    name ∈ (reading template).names ↔ Mentions template name := by
  have h : (reading template).Of template := of_iff_eq_reading.2 rfl
  constructor
  · intro hname
    obtain ⟨m, hm, rfl⟩ := List.mem_map.1 hname
    obtain ⟨front, back, hmentions⟩ := List.append_of_mem hm
    have hback : ∀ m ∈ back, IsMention m := fun m' hm' => h.mentions m' (by simp [hmentions, hm'])
    refine ⟨(h.mentions m hm).name, (reading template).lead.toList ++
        front.flatMap (fun m => (mention m.1).toList ++ m.2.toList), _,
      (h.mentions m hm).ends.append (Reading.pieces_mentions hback).1, ?_⟩
    rw [← congrArg String.toList h.source, Reading.toList_render, hmentions]
    simp [mention]
  · rintro ⟨hname, front, back, hback, hsource⟩
    rw [← Reading.names_toPieces, ← h.pieces_eq, hsource, pieces_append (endsName_dollar _),
      pieces_name_append hname hback]
    simp [names]

namespace Reading

/-- A reading is rendered by the texts of its names. -/
theorem render_congr {r : Reading} {value value' : String → String}
    (h : ∀ name ∈ r.names, value name = value' name) : r.render value = r.render value' := by
  have htexts : r.mentions.map (fun m => value m.1 ++ m.2) =
      r.mentions.map fun m => value' m.1 ++ m.2 :=
    List.map_congr_left fun m hm => by rw [h m.1 (List.mem_map_of_mem hm)]
  rw [render, render, htexts]

end Reading

end Template

namespace Context

variable {α β : Type} {context : Context} {names names' : List String} {x : α}

/-- The text that a context gives a name. -/
def textOf (context : Context) (name : String) : String :=
  ((context.entries.get? name).map Json.text).getD ""

/-- A name is the first of some names that a context does not bind. -/
def FirstAbsent (context : Context) (names : List String) (name : String) : Prop :=
  context.entries.contains name = false ∧ ∃ front back, names = front ++ name :: back ∧
    ∀ earlier ∈ front, context.entries.contains earlier = true

/-- A value, unless one of some names is not bound: the first such name is reported. -/
def unlessAbsent (context : Context) (names : List String) (x : α) : Except RequestError α :=
  match names.find? fun name => !context.entries.contains name with
  | some name => .error (.unresolvedVariable name)
  | none => .ok x

theorem unlessAbsent_bind (f : α → β) :
    (context.unlessAbsent names x >>= fun a => context.unlessAbsent names' (f a)) =
      context.unlessAbsent (names ++ names') (f x) := by
  simp only [unlessAbsent, List.find?_append]
  cases names.find? fun name => !context.entries.contains name <;> rfl

theorem unlessAbsent_bind_ok (f : α → β) :
    (context.unlessAbsent names x >>= fun a => .ok (f a)) = context.unlessAbsent names (f x) := by
  unfold unlessAbsent
  split <;> rfl

theorem unlessAbsent_map (f : α → β) :
    (context.unlessAbsent names x).map f = context.unlessAbsent names (f x) := by
  unfold unlessAbsent
  split <;> rfl

theorem unlessAbsent_eq_ok_iff {y : α} : context.unlessAbsent names x = .ok y ↔
    (∀ name ∈ names, context.entries.contains name = true) ∧ y = x := by
  unfold unlessAbsent
  split
  · rename_i name hname
    have habsent := List.find?_some hname
    rw [Bool.not_eq_true'] at habsent
    refine iff_of_false nofun fun ⟨hbound, _⟩ => ?_
    rw [hbound name (List.mem_of_find?_eq_some hname)] at habsent
    cases habsent
  · rename_i hnone
    simp only [List.find?_eq_none, Bool.not_eq_true', Bool.not_eq_false] at hnone
    rw [Except.ok.injEq, eq_comm]
    exact ⟨fun hy => ⟨hnone, hy⟩, fun ⟨_, hy⟩ => hy⟩

theorem unlessAbsent_eq_error_iff {e : RequestError} : context.unlessAbsent names x = .error e ↔
    ∃ name, context.FirstAbsent names name ∧ e = .unresolvedVariable name := by
  have hfirst : ∀ name, (names.find? fun name => !context.entries.contains name) = some name ↔
      context.FirstAbsent names name := fun name => by
    simp only [List.find?_eq_some_iff_append, Bool.not_eq_true', Bool.not_not, FirstAbsent]
  simp only [← hfirst]
  unfold unlessAbsent
  split
  · rename_i name hname
    simp only [hname, Except.error.injEq, Option.some.injEq, exists_eq_left', eq_comm]
  · rename_i hnone
    simp [hnone]

/-- Contexts that bind the same of some names report the same. -/
theorem unlessAbsent_congr {other : Context}
    (h : ∀ name ∈ names, other.entries.contains name = context.entries.contains name) :
    other.unlessAbsent names x = context.unlessAbsent names x := by
  have hfind : names.find? (fun name => !other.entries.contains name) =
      names.find? fun name => !context.entries.contains name := by
    rw [← List.head?_filter, ← List.head?_filter]
    exact congrArg List.head? (List.filter_congr fun name hname => by rw [h name hname])
  rw [unlessAbsent, unlessAbsent, hfind]

end Context

namespace TestCase

open Template

variable {context : Context}

/-- Filling in a template looks for its names in order. -/
theorem fillIn_eq (hsound : context.poisoned = false) (template : String) :
    fillIn context template = context.unlessAbsent (reading template).names
      ((reading template).render context.textOf) := by
  have hreading : (reading template).Of template := of_iff_eq_reading.2 rfl
  rw [Context.unlessAbsent]
  split
  · rename_i name hname
    rw [fillIn, (hreading.decides context).unresolved hsound name hname]
    rfl
  · rename_i hnone
    have hresolved : ∀ name ∈ (reading template).names,
        resolve context name = .ok (context.textOf name) := fun name hname => by
      have hsome := List.find?_eq_none.1 hnone name hname
      rw [KeyMap.contains, Bool.not_eq_true, Bool.not_eq_false', Option.isSome_iff_exists] at hsome
      obtain ⟨value, hvalue⟩ := hsome
      rw [resolve_of_get? hsound hvalue, Context.textOf, hvalue]
      rfl
    rw [fillIn, hreading.instantiate_of_resolved hresolved]
    rfl

theorem fillHeaders_eq (hsound : context.poisoned = false) (headers : List (String × String)) :
    fillHeaders context headers =
      context.unlessAbsent (headers.flatMap fun header => (reading header.2).names)
        (headers.map fun header => (header.1, (reading header.2).render context.textOf)) := by
  induction headers with
  | nil => rfl
  | cons header rest ih =>
    rw [fillHeaders, fillIn_eq hsound, ih]
    simp only [Context.unlessAbsent_bind_ok, Context.unlessAbsent_bind, List.flatMap_cons,
      List.map_cons]

theorem fillBody_eq (hsound : context.poisoned = false) (body : Option String) :
    fillBody context body =
      context.unlessAbsent (body.toList.flatMap fun template => (reading template).names)
        (body.map fun template => (reading template).render context.textOf) := by
  cases body with
  | none => rfl
  | some template =>
    rw [fillBody, fillIn_eq hsound, Context.unlessAbsent_map, Option.toList_some,
      List.flatMap_singleton]
    rfl

/-- The templates of a test case in the order in which they are filled in: the endpoint, the values
of the headers in ascending order of their names, and the body. -/
def templates (t : TestCase) : List String :=
  t.input.endpoint :: (t.input.headers.entries.map Prod.snd ++ t.input.body.toList)

/-- The names that a test case mentions, in order. -/
def mentioned (t : TestCase) : List String :=
  t.templates.flatMap fun template => (reading template).names

/-- A test case mentions a name in one of its templates. -/
def Mentions (t : TestCase) (name : String) : Prop :=
  ∃ template ∈ t.templates, Template.Mentions template name

/-- The request of a test case under a base address, with a text in the place of each name. -/
def rendered (t : TestCase) (base : String) (value : String → String) : HttpRequest where
  method := Text.upperAscii t.input.method
  url := Url.join base ((reading t.input.endpoint).render value)
  path := Url.path (Url.join base ((reading t.input.endpoint).render value))
  headers := t.input.headers.mapValues fun _ template => (reading template).render value
  body := t.input.body.map fun template => (reading template).render value

/-- A request is rendered by the texts that its templates are rendered by. -/
theorem rendered_congr {t : TestCase} {base : String} {value value' : String → String}
    (h : ∀ template ∈ t.templates,
      (reading template).render value = (reading template).render value') :
    t.rendered base value = t.rendered base value' := by
  have hheaders : t.input.headers.mapValues (fun _ template => (reading template).render value) =
      t.input.headers.mapValues fun _ template => (reading template).render value' := by
    unfold KeyMap.mapValues
    congr 1
    refine List.map_congr_left fun header hheader => ?_
    exact congrArg (header.1, ·) (h header.2 (List.mem_cons_of_mem _ (List.mem_append_left _
      (List.mem_map_of_mem hheader))))
  have hbody : t.input.body.map (fun template => (reading template).render value) =
      t.input.body.map fun template => (reading template).render value' :=
    Option.map_congr fun template htemplate => h template (List.mem_cons_of_mem _
      (List.mem_append_right _ (Option.mem_toList.2 htemplate)))
  rw [rendered, rendered, h t.input.endpoint List.mem_cons_self, hheaders, hbody]

theorem mem_mentioned_iff {t : TestCase} {name : String} :
    name ∈ t.mentioned ↔ t.Mentions name := by
  simp only [mentioned, List.mem_flatMap, mem_names_reading_iff, Mentions]

/-- Preparing a test case looks for the names that it mentions, and for nothing else. -/
theorem prepare_eq (hsound : context.poisoned = false) (t : TestCase) (base : String) :
    t.prepare context base =
      if Text.isBlank t.input.endpoint then .error (.missingEndpoint t.id)
      else context.unlessAbsent t.mentioned (t.rendered base context.textOf) := by
  have hheaders : KeyMap.ofList (t.input.headers.entries.map fun header =>
      (header.1, (reading header.2).render context.textOf)) =
        t.input.headers.mapValues fun _ template => (reading template).render context.textOf :=
    KeyMap.ofList_entries (t.input.headers.mapValues fun _ template =>
      (reading template).render context.textOf)
  rw [prepare]
  split
  · rfl
  · simp only [fillIn_eq hsound, fillHeaders_eq hsound, fillBody_eq hsound,
      Context.unlessAbsent_bind_ok, Context.unlessAbsent_bind, hheaders]
    rw [mentioned, templates, List.flatMap_cons, List.flatMap_append, List.flatMap_map]
    rfl

/-- Over contexts that give what a test case mentions the same texts, or none, it is prepared
alike. -/
theorem prepare_congr {other : Context} (hsound : context.poisoned = false)
    (hother : other.poisoned = false) {t : TestCase} (base : String)
    (h : ∀ name, t.Mentions name →
      (other.entries.get? name).map Json.text = (context.entries.get? name).map Json.text) :
    t.prepare other base = t.prepare context base := by
  have hbound : ∀ name ∈ t.mentioned,
      other.entries.contains name = context.entries.contains name := fun name hname => by
    have hsome := congrArg Option.isSome (h name (mem_mentioned_iff.1 hname))
    rwa [Option.isSome_map, Option.isSome_map] at hsome
  have htext : ∀ template ∈ t.templates,
      (reading template).render other.textOf = (reading template).render context.textOf := by
    refine fun template htemplate => Reading.render_congr fun name hname => ?_
    rw [Context.textOf, Context.textOf, h name ⟨template, htemplate, mem_names_reading_iff.1 hname⟩]
  rw [prepare_eq hother, prepare_eq hsound, Context.unlessAbsent_congr hbound,
    rendered_congr htext]

end TestCase

namespace Run

/-- Preparing a case leaves the context of a run as it is: the executor is handed the request over
the context that it was prepared over, and cases that stop there end with it. -/
structure KeepsContext (t : TestCase) (base : String) (context : Context) : Prop where
  handed : ∀ {σ ρ : Type} (c : Collaborators σ ρ) (entry : SpecificationTestCases)
    (rest : List TestCase) (r : Resolution) (result : SpecificationResult) (w : World σ ρ)
    (request : HttpRequest), entry.baseUri = base → w.context = context →
    t.prepare context base = .ok request →
    ∃ later, (runCases c.logged entry (t :: rest) r result (w.withLog [])).2.2.executor.2 =
      .execute request context w.executor :: later
  stopped : ∀ {σ ρ : Type} (c : Collaborators σ ρ) (entry : SpecificationTestCases)
    (rest : List TestCase) (r : Resolution) (result : SpecificationResult) (w : World σ ρ)
    (e : RequestError), entry.baseUri = base → w.context = context →
    t.prepare context base = .error e →
    (runCases c entry (t :: rest) r result w).2.2.context = context

theorem keepsContext (t : TestCase) (base : String) (context : Context) :
    KeepsContext t base context where
  handed := by
    rintro σ ρ c entry rest r result w request rfl rfl hprepare
    obtain ⟨vs, s, w', h⟩ := exists_carries c entry (t :: rest) r w
    rw [runCases_logged h]
    cases h with
    | stop prepared => cases hprepare.symm.trans prepared
    | visit prepared attempted carried =>
      obtain rfl := Except.ok.inj (hprepare.symm.trans prepared)
      exact ⟨_, rfl⟩
  stopped := by
    rintro σ ρ c entry rest r result w e rfl rfl hprepare
    obtain ⟨vs, s, w', h⟩ := exists_carries c entry (t :: rest) r w
    rw [runCases_eq h]
    cases h with
    | stop prepared => rfl
    | visit prepared attempted carried => cases hprepare.symm.trans prepared

end Run

namespace TestCase

variable {context : Context}

/-- Over a sound context a test case is prepared exactly if its endpoint is not blank and all names
that it mentions are bound; otherwise a blank endpoint is reported, or else the first name that is
not. A request has the headers of its template, with the texts of the context in the place of names.
No more of a context counts than the texts of these names, and it is left as it is. -/
theorem prepare_decided (t : TestCase) (base : String) (hsound : context.poisoned = false) :
    ((∃ request, t.prepare context base = .ok request) ↔
        Text.isBlank t.input.endpoint = false ∧
          ∀ name, t.Mentions name → context.entries.contains name = true) ∧
      (∀ e, t.prepare context base = .error e ↔
        (Text.isBlank t.input.endpoint = true ∧ e = .missingEndpoint t.id) ∨
        (Text.isBlank t.input.endpoint = false ∧
          ∃ name, context.FirstAbsent t.mentioned name ∧ e = .unresolvedVariable name)) ∧
      (∀ request, t.prepare context base = .ok request →
        request = t.rendered base context.textOf ∧
          request.headers.keys = t.input.headers.keys) ∧
      (∀ other : Context, other.poisoned = false →
        (∀ name, t.Mentions name → (other.entries.get? name).map Json.text =
          (context.entries.get? name).map Json.text) →
        t.prepare other base = t.prepare context base) ∧
      Run.KeepsContext t base context := by
  have hprepare := prepare_eq hsound t base
  refine ⟨?_, fun e => ?_, fun request hrequest => ?_,
    fun other hother => prepare_congr hsound hother base, Run.keepsContext t base context⟩
  · cases hblank : Text.isBlank t.input.endpoint with
    | true => simp [hprepare, hblank]
    | false => simp [hprepare, hblank, Context.unlessAbsent_eq_ok_iff, mem_mentioned_iff]
  · cases hblank : Text.isBlank t.input.endpoint with
    | true => simp [hprepare, hblank, eq_comm]
    | false => simp [hprepare, hblank, Context.unlessAbsent_eq_error_iff]
  · rw [hprepare] at hrequest
    split at hrequest
    · cases hrequest
    · obtain ⟨-, rfl⟩ := Context.unlessAbsent_eq_ok_iff.1 hrequest
      exact ⟨rfl, by simp [rendered, KeyMap.keys, KeyMap.mapValues]⟩

/-- A test case that mentions names in its endpoint, in two headers and in its body. -/
def mentioningCase : TestCase where
  id := "1"
  name := "pay"
  input := ⟨"post", "/payments/$id", .ofList [("x-b", "$second"), ("x-a", "$first $$id")],
    some "$$$id-$third"⟩
  expect := ⟨201, false, []⟩
  captures := []

/-- Headers are filled in by their names, so the second name is looked for before the third. -/
theorem prepare_decided_absent :
    (Context.ofList [("id", .string "$third"), ("first", .null)]).poisoned = false ∧
      mentioningCase.prepare (.ofList [("id", .string "$third"), ("first", .null)]) "" =
        .error (.unresolvedVariable "second") := by
  refine ⟨rfl, ?_⟩
  obtain ⟨-, herror, -⟩ := prepare_decided mentioningCase ""
    (rfl : (Context.ofList [("id", .string "$third"), ("first", .null)]).poisoned = false)
  refine (herror _).2 (.inr ⟨by decide, "second", ⟨by decide, ["id", "first", "id"],
    ["id", "third"], ?_, by decide⟩, rfl⟩)
  decide +kernel

end TestCase

end ConformanceSuite
