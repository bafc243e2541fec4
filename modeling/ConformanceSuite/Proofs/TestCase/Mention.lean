import Mathlib.Data.List.TakeWhile
import ConformanceSuite.Proofs.Capture
import ConformanceSuite.Proofs.KeyMap
import ConformanceSuite.Proofs.Redirect.Receive
import ConformanceSuite.Proofs.TestCase.Request
import ConformanceSuite.Proofs.TestCase.Template
import ConformanceSuite.Run.Controller

/-!
# Mentions of what was placed

A redirect, a capture and a replacement each place a value in the context, under a name that they
take as it comes. A template reads a name only as far as it has letters, digits and underscores. So
what was placed can be mentioned later under the names of such characters, and under no others:
`mentionable_iff`.
-/

namespace ConformanceSuite

namespace Template

variable {n : String} {context : Context}

theorem instantiate_mention (h : IsName n) :
    instantiate (mention n) context = resolve context n := by
  have hpieces := pieces_name_append h endsName_nil
  rw [List.append_nil] at hpieces
  rw [instantiate, mention, String.toList_append]
  change (fill context (pieces ('$' :: n.toList))).map _ = _
  rw [hpieces, pieces, fill, String.ofList_toList]
  cases resolve context n <;> simp [fill, Except.map]

/-- Where a name is all that is bound, and to the empty text, a mention that reads something else
does not give that text. -/
theorem instantiate_mention_ne (h : ¬ IsName n) :
    instantiate (mention n) (.ofList [(n, .string "")]) ≠ .ok "" := by
  rw [instantiate, mention, String.toList_append]
  change (fill _ (pieces ('$' :: n.toList))).map _ ≠ _
  by_cases hread : n.toList.takeWhile isNameChar = []
  -- the dollar sign stands for itself
  · rw [pieces, if_neg (by simp [hread]), fill]
    cases fill (.ofList [(n, .string "")]) (pieces n.toList) <;> simp [Except.map]
  -- the name that is read is another one
  · have hother : n ≠ String.ofList (n.toList.takeWhile isNameChar) := by
      intro heq
      refine h ⟨fun hempty => hread (by simp [hempty]), fun c hc => ?_⟩
      rw [heq, String.toList_ofList] at hc
      exact List.mem_takeWhile_imp hc
    rw [pieces_mention hread, fill]
    simp [resolve, Context.get, Context.ofList, KeyMap.ofList, KeyMap.get?_insert, hother,
      Except.map]

end Template

namespace TestCase

variable {t : TestCase} {context : Context}

/-- All of a test case can be filled in but for the headers and the body that are a mention. -/
structure ReadyFor (t : TestCase) (mention : String) (context : Context) : Prop where
  present : Text.isBlank t.input.endpoint = false
  endpoint : ∃ text, fillIn context t.input.endpoint = .ok text
  headers : ∀ header ∈ t.input.headers.entries, header.2 ≠ mention →
    ∃ text, fillIn context header.2 = .ok text
  body : ∀ body, t.input.body = some body → body ≠ mention → ∃ text, fillIn context body = .ok text

/-- The headers and the body that are a mention have become a text. -/
structure Yields (t : TestCase) (mention text : String) (request : HttpRequest) : Prop where
  headers : ∀ name, t.input.headers.get? name = some mention →
    request.headers.get? name = some text
  body : t.input.body = some mention → request.body = some text

/-- Headers that can be filled in are filled in one by one. -/
theorem fillHeaders_eq_map {headers : List (String × String)}
    (h : ∀ header ∈ headers, ∃ text, fillIn context header.2 = .ok text) :
    fillHeaders context headers = .ok (headers.map fun header =>
      (header.1, (fillIn context header.2).toOption.getD "")) := by
  induction headers with
  | nil => rfl
  | cons header rest ih =>
    rw [List.forall_mem_cons] at h
    obtain ⟨⟨text, htext⟩, hrest⟩ := h
    simp [fillHeaders, htext, ih hrest, bind, Except.bind, Except.toOption]

/-- Of a test case that is ready for a mention a request is prepared, with the text that the mention
stands for. -/
theorem prepare_mention {mention text base : String} (h : t.ReadyFor mention context)
    (hmention : fillIn context mention = .ok text) :
    ∃ request, t.prepare context base = .ok request ∧ t.Yields mention text request := by
  obtain ⟨endpoint, hendpoint⟩ := h.endpoint
  have hheaders : ∀ header ∈ t.input.headers.entries,
      ∃ text, fillIn context header.2 = .ok text := by
    intro header hheader
    by_cases hne : header.2 = mention
    · exact ⟨text, hne ▸ hmention⟩
    · exact h.headers header hheader hne
  have hbody : ∃ body, fillBody context t.input.body = .ok body ∧
      (t.input.body = some mention → body = some text) := by
    cases hinput : t.input.body with
    | none => exact ⟨none, rfl, nofun⟩
    | some template =>
      by_cases hne : template = mention
      · exact ⟨some text, by simp [fillBody, hne, hmention, Except.map], fun _ => rfl⟩
      · obtain ⟨filled, hfilled⟩ := h.body template hinput hne
        exact ⟨some filled, by simp [fillBody, hfilled, Except.map],
          fun heq => absurd (Option.some.inj heq) hne⟩
  obtain ⟨body, hfilled, hyields⟩ := hbody
  have hprepare : t.prepare context base = .ok ⟨Text.upperAscii t.input.method,
      Url.join base endpoint, Url.path (Url.join base endpoint),
      .ofList (t.input.headers.entries.map fun header =>
        (header.1, (fillIn context header.2).toOption.getD "")), body⟩ := by
    simp [prepare, h.present, hendpoint, fillHeaders_eq_map hheaders, hfilled, bind, Except.bind]
  refine ⟨_, hprepare, fun name hname => ?_, hyields⟩
  -- the headers keep their names, so they stay in ascending order
  have hmem := List.mem_map_of_mem (f := fun header : String × String =>
    (header.1, (fillIn context header.2).toOption.getD "")) (KeyMap.mem_entries.2 hname)
  refine KeyMap.get?_insertAll_of_mem ?_ (by simpa [hmention, Except.toOption] using hmem)
  simpa [List.pairwise_map] using t.input.headers.ascending

/-- The body of a prepared request is the body of its test case, filled in. -/
theorem fillBody_of_prepare {base : String} {request : HttpRequest}
    (h : t.prepare context base = .ok request) :
    fillBody context t.input.body = .ok request.body := by
  obtain ⟨endpoint, headers, body, -, -, hbody, rfl⟩ := of_prepare_ok h
  exact hbody

end TestCase

/-! ### What is placed -/

/-- A value is placed under a name, and that leaves a context: it is the code of an accepted
redirect, or the value of a capture of a case that passed, or the text of a replacement of a run. -/
inductive Placed : String → Json → Context → Prop
  | redirect {p : Redirect.CodePayload} {stores : Redirect.Stores}
      (haccepted : (Redirect.receive p stores).1 = .ok .accepted) :
      Placed p.state (.string p.code) (Redirect.receive p stores).2.context
  | capture {t : TestCase} {response : HttpResponse} {context : Context}
      {validator : Option ResponseJudge} {verdict : Verdict} {front back : List Capture}
      {c : Capture} {document value : Json}
      (hverdict : (t.validate response context validator).1 = .ok verdict)
      (hpass : verdict.pass = true) (hcaptures : t.captures = front ++ c :: back)
      (hlast : ∀ other ∈ back, other.name ≠ c.name)
      (hbody : Json.parse response.body = .ok document) (hvalue : c.value? document = some value) :
      Placed c.name value (t.validate response context validator).2
  | replacement {d : RunDefinition} {given context : Context} {front back : List CustomTest}
      {test : CustomTest} {name text : String}
      (hput : given.putAll (Run.seeds d) = .ok context)
      (htests : d.discovery.customTests = front ++ test :: back)
      (htext : test.replacements.get? name = some text)
      (hlast : ∀ other ∈ back, other.replacements.contains name = false) :
      Placed name (.string text) context

/-- What is placed can be read. -/
theorem Placed.get {n : String} {v : Json} {context : Context} (h : Placed n v context) :
    context.get n = .ok v := by
  cases h with
  | @redirect p stores haccepted =>
    obtain ⟨hsound, hstored⟩ := Redirect.receive_of_accepted haccepted
    simp [hstored, Redirect.CodePayload.boundIn, Context.get, hsound, KeyMap.get?_insert]
  | @capture t response context validator verdict front back c document v hverdict hpass
      hcaptures hlast hbody hvalue =>
    rcases t.validate_cases response context validator with ⟨hsound, -, hvalidate⟩ | ⟨-, hfailed⟩
    · have hbound := TestCase.get?_insertAll_captured hcaptures hlast hbody hvalue context.entries
      simp [hvalidate, Context.get, hsound, hbound]
    · rw [hfailed verdict hverdict] at hpass
      cases hpass
  | @replacement d given context front back test name text hput htests htext hlast =>
    have hbound : (given.entries.insertAll (Run.seeds d)).get? n = some (.string text) := by
      have hmem : (n, Json.string text) ∈
          test.replacements.entries.map fun e => (e.1, Json.string e.2) :=
        List.mem_map_of_mem (KeyMap.mem_entries.2 htext)
      have hascending : (test.replacements.entries.map fun e => (e.1, Json.string e.2)).Pairwise
          fun a b => a.1 < b.1 := by simpa [List.pairwise_map] using test.replacements.ascending
      rw [Run.seeds, htests, List.flatMap_append, List.flatMap_cons, KeyMap.insertAll_append,
        KeyMap.insertAll_append, KeyMap.insertAll_append, KeyMap.get?_insertAll_of_ne]
      · exact KeyMap.get?_insertAll_of_mem hascending hmem
      · intro e he heq
        obtain ⟨other, hother, he⟩ := List.mem_flatMap.1 he
        obtain ⟨⟨name, text'⟩, hentry, rfl⟩ := List.mem_map.1 he
        have hlast' := hlast other hother
        rw [KeyMap.contains, ← heq, KeyMap.mem_entries.1 hentry] at hlast'
        cases hlast'
    unfold Context.putAll at hput
    split at hput
    · cases hput
    · rename_i hsound
      cases hput
      simp [Context.get, hsound, hbound]

/-- A name under which whatever is placed can be mentioned later: as long as the name is not bound
anew, a test case that is ready but for mentions of the name is prepared, with the text of the value
in their place. -/
def Mentionable (n : String) : Prop :=
  ∀ (v : Json) (placed later : Context) (t : TestCase) (base : String), Placed n v placed →
    later.get n = placed.get n → t.ReadyFor (Template.mention n) later →
    ∃ request, t.prepare later base = .ok request ∧ t.Yields (Template.mention n) v.text request

/-- A test case whose body is a text. -/
def bodyCase (body : String) : TestCase where
  id := "1"
  name := "mention"
  input := ⟨"post", "/", .empty, some body⟩
  expect := ⟨200, false, []⟩
  captures := []

theorem bodyCase_readyFor (mention : String) (context : Context) :
    (bodyCase mention).ReadyFor mention context where
  present := (by decide : Text.isBlank "/" = false)
  endpoint := ⟨_, TestCase.fillIn_of_plain (by decide : '$' ∉ "/".toList)⟩
  headers := by simp [bodyCase]
  body body hbody hne := absurd (Option.some.inj hbody).symm hne

/-- A run with one custom test, which replaces a name by the empty text. -/
def emptyReplacement (n : String) : RunDefinition where
  discovery := ⟨"", "", "", none, none, some [⟨"", "", .ofList [(n, "")]⟩]⟩
  specTests := []
  signingCert := ⟨"", ""⟩
  transportCert := ⟨"", ""⟩

/-- Exactly the names that a template reads to their end can be mentioned. -/
theorem mentionable_iff (n : String) : Mentionable n ↔ Template.IsName n := by
  constructor
  · intro h
    by_contra hname
    -- the empty text is placed under the name, and then nothing else is bound
    have hplaced : Placed n (.string "")
        ⟨KeyMap.empty.insertAll (Run.seeds (emptyReplacement n)), false⟩ :=
      @Placed.replacement (emptyReplacement n) .empty _ [] [] _ n "" rfl rfl
        (by simp [KeyMap.ofList, KeyMap.get?_insert]) (by simp)
    have hlater : (Context.ofList [(n, .string "")]).get n = .ok (.string "") := by
      simp [Context.get, Context.ofList, KeyMap.ofList, KeyMap.get?_insert]
    obtain ⟨request, hprepare, hyields⟩ := h _ _ _ _ "" hplaced (hlater.trans hplaced.get.symm)
      (bodyCase_readyFor _ _)
    have hbody := TestCase.fillBody_of_prepare hprepare
    rw [hyields.body rfl] at hbody
    refine Template.instantiate_mention_ne hname ?_
    cases hfilled : Template.instantiate (Template.mention n) (.ofList [(n, .string "")]) with
    | error e => simp [bodyCase, TestCase.fillBody, TestCase.fillIn, hfilled, Except.map,
        Except.mapError] at hbody
    | ok text => simpa [bodyCase, TestCase.fillBody, TestCase.fillIn, hfilled, Except.map,
        Except.mapError, Json.text] using hbody
  · intro hname v placed later t base hplaced hkept hready
    refine TestCase.prepare_mention hready ?_
    rw [TestCase.fillIn, Template.instantiate_mention hname, Template.resolve, hkept, hplaced.get]
    rfl

/-- A redirect with a bound code and a hyphen in its state. -/
def hyphenatedPayload : Redirect.CodePayload := { Redirect.boundPayload with state := "consent-1" }

theorem hyphenatedPayload_accepted :
    (Redirect.receive hyphenatedPayload ⟨.empty, .ofNames []⟩).1 = .ok .accepted := by
  have hjudge : hyphenatedPayload.judge = .ok .accepted :=
    Redirect.judge_eq_accepted_iff.2
      ⟨by decide, (Redirect.judge_eq_accepted_iff.1 Redirect.judge_boundPayload).2⟩
  rw [Redirect.receive_of_judge _ hjudge]
  rfl

/-- It is not so that whatever is placed can be mentioned: the state of an accepted redirect may
have characters that are read as no part of a name. -/
theorem placed_not_mentionable : ¬ ∀ n, n ≠ "" → Mentionable n := by
  intro h
  have hplaced := Placed.redirect hyphenatedPayload_accepted
  rw [(Redirect.receive_of_accepted hyphenatedPayload_accepted).2] at hplaced
  obtain ⟨request, hprepare, -⟩ := h "consent-1" (by decide) _ _ _
    (bodyCase (Template.mention "consent-1")) "" hplaced rfl (bodyCase_readyFor _ _)
  have hfails : ((bodyCase "$consent-1").prepare (hyphenatedPayload.boundIn .empty) "").toOption =
      none := by decide +kernel
  exact absurd (hfails.symm.trans (congrArg Except.toOption hprepare)) nofun

end ConformanceSuite
