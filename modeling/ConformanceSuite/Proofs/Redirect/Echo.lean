import ConformanceSuite.Proofs.Json.Records
import ConformanceSuite.Proofs.Json.Reparsed
import ConformanceSuite.Proofs.Redirect.Answered

/-!
# Redirects that are echoed

A redirect that bears an error is answered with its own document. The document is looked at only to
see that its error, its description and its state are texts, if they are there; what is sent back is
the document as it was parsed. So the answer parses to the same value, with its members in their
places and the unknown ones among them: `error_echoed`.
-/

namespace ConformanceSuite

namespace Redirect

open Json

/-- What an optional text may be given as. -/
inductive OptionalText : Json → Prop
  | null : OptionalText .null
  | string (s : String) : OptionalText (.string s)

/-- The names of the texts of an error payload. -/
def errorNames : List String := ["error", "error_description", "state"]

/-- A document that can be read as an error payload: an object in which each of the texts is
absent, `null` or a text, whatever else it holds, or an array of no more such values than there are
texts. -/
inductive ReadsAsError : Json → Prop
  | object {members : List (String × Json)}
      (texts : ∀ name ∈ errorNames, ∀ value ∈ findMember? name members, OptionalText value) :
      ReadsAsError (.object members)
  | array {items : List Json} (short : items.length ≤ errorNames.length)
      (texts : ∀ value ∈ items, OptionalText value) : ReadsAsError (.array items)

/-- The texts of an error payload, by their places among the names. -/
def errorTexts (f : Fields) : Fielded ErrorPayload :=
  .mk <$> f.optionalOrAbsent 0 Decoder.string <*> f.optionalOrAbsent 1 Decoder.string
    <*> f.optionalOrAbsent 2 Decoder.string

theorem ErrorPayload.decoder_eq :
    ErrorPayload.decoder = Decoder.record "RedirectErrorPayload" errorNames errorTexts := rfl

theorem optional_string_iff {s : Source} {j : Json} (h : Shows s j) :
    (∃ text, Decoder.optional Decoder.string s = .ok text) ↔ OptionalText j := by
  cases h with
  | null => exact ⟨fun _ => .null, fun _ => ⟨none, rfl⟩⟩
  | string _ _ text => exact ⟨fun _ => .string text, fun _ => ⟨some text, rfl⟩⟩
  | bool | number | array | object =>
    exact ⟨fun ⟨_, h⟩ => (by cases h), fun h => (by cases h)⟩

/-- The texts are read if each of them is absent or an optional text. -/
theorem errorTexts_succeeds_iff {f : Fields} {value : Nat → Option Json}
    (h : ∀ index, f.Finds index (value index)) :
    (errorTexts f).Succeeds ↔
      ∀ index < errorNames.length, ∀ j ∈ value index, OptionalText j := by
  have hfield := fun index => Fields.succeeds_optionalOrAbsent (h index) optional_string_iff
  rw [errorTexts, Fielded.succeeds_seq, Fielded.succeeds_seq, Fielded.succeeds_map, hfield, hfield,
    hfield]
  constructor
  · rintro ⟨⟨hfirst, hsecond⟩, hthird⟩ index hindex
    have hplace : index < 3 := hindex
    obtain rfl | rfl | rfl : index = 0 ∨ index = 1 ∨ index = 2 := by omega
    · exact hfirst
    · exact hsecond
    · exact hthird
  · intro htexts
    exact ⟨⟨htexts 0 (by decide), htexts 1 (by decide)⟩, htexts 2 (by decide)⟩

/-- An error payload is read from a tree exactly if the document that the tree shows can be read as
one. -/
theorem ErrorPayload.decoder_iff {s : Source} {document : Json} (shown : Shows s document)
    (hdistinct : Distinct document) :
    (∃ payload, ErrorPayload.decoder s = .ok payload) ↔ ReadsAsError document := by
  rw [decoder_eq]
  cases hdistinct with
  | null | bool | number | string =>
    refine ⟨fun ⟨payload, h⟩ => ?_, fun h => (by cases h)⟩
    exact absurd h (record_leaf _ _ _ shown rfl rfl payload)
  | object names _ =>
    cases shown with
    | object start shown closed =>
      obtain ⟨f, hfinds, hrecord⟩ :=
        record_object "RedirectErrorPayload" errorNames errorTexts shown closed names
      rw [hrecord, Fielded.settle_none_iff, errorTexts_succeeds_iff hfinds]
      constructor
      · intro htexts
        refine .object fun name hname => ?_
        obtain ⟨index, hindex⟩ := List.mem_iff_getElem?.1 hname
        have hvalue := htexts index (List.getElem?_eq_some_iff.1 hindex).1
        rwa [hindex, Option.bind_some] at hvalue
      · rintro (⟨htexts⟩ | _) index _ j hj
        obtain ⟨name, hname, hj⟩ := Option.bind_eq_some_iff.1 hj
        exact htexts name (List.mem_of_getElem? hname) j hj
  | @array items =>
    cases shown with
    | array start shown closed =>
      by_cases hshort : items.length ≤ errorNames.length
      · obtain ⟨f, hfinds, hrecord⟩ :=
          record_array "RedirectErrorPayload" errorNames errorTexts shown closed hshort
        rw [hrecord, Fielded.settle_none_iff, errorTexts_succeeds_iff hfinds]
        constructor
        · intro htexts
          refine .array hshort fun j hj => ?_
          obtain ⟨index, hindex⟩ := List.mem_iff_getElem?.1 hj
          have hlt : index < items.length := (List.getElem?_eq_some_iff.1 hindex).1
          exact htexts index (Nat.lt_of_lt_of_le hlt hshort) j hindex
        · rintro (_ | ⟨_, htexts⟩) index _ j hj
          exact htexts j (List.mem_of_getElem? hj)
      · refine ⟨fun ⟨payload, h⟩ => ?_, fun h => ?_⟩
        · exact absurd h (record_surplus _ _ _ shown (Nat.not_le.1 hshort) payload)
        · cases h with
          | array short _ => exact absurd short hshort

end Redirect

namespace Api

open Redirect

/-- A redirect that bears an error is read if its body is JSON that can be read as an error
payload. -/
theorem exists_readError_iff {body : List UInt8} {document : Json} :
    (∃ payload, readError body = .ok (document, payload)) ↔
      Json.parse body = .ok document ∧ ReadsAsError document := by
  unfold readError
  cases hparse : Json.parse body with
  | error e => exact ⟨fun ⟨_, h⟩ => (by cases h), fun ⟨h, _⟩ => (by cases h)⟩
  | ok found =>
    have hreads := ErrorPayload.decoder_iff (Json.shows_ofJson found)
      (Json.distinct_of_parse hparse)
    simp only [bind, Except.bind, Json.decode, pure, Except.pure, Except.ok.injEq]
    cases hdecode : ErrorPayload.decoder (.ofJson found) with
    | error p =>
      refine ⟨fun ⟨_, h⟩ => (by cases h), ?_⟩
      rintro ⟨rfl, h⟩
      obtain ⟨payload, hpayload⟩ := hreads.2 h
      rw [hdecode] at hpayload
      cases hpayload
    | ok payload =>
      constructor
      · rintro ⟨_, h⟩
        cases h
        exact ⟨rfl, hreads.1 ⟨payload, hdecode⟩⟩
      · rintro ⟨rfl, _⟩
        exact ⟨payload, rfl⟩

/-- What is answered to a redirect that bears an error: its document, or that it cannot be read. -/
theorem takeError_reply (body : List UInt8) (s : State) :
    (∃ document, Json.parse body = .ok document ∧ ReadsAsError document ∧
        (takeError body s).1 = .json 200 document) ∨
      ((¬ ∃ document, Json.parse body = .ok document ∧ ReadsAsError document) ∧
        ∃ message, (takeError body s).1 = .error 400 message) := by
  unfold takeError
  cases hread : readError body with
  | error e =>
    refine .inr ⟨fun ⟨document, h⟩ => ?_, e.message, rfl⟩
    obtain ⟨payload, hpayload⟩ := exists_readError_iff.2 h
    rw [hread] at hpayload
    cases hpayload
  | ok found =>
    obtain ⟨document, payload⟩ := found
    obtain ⟨hparse, hreads⟩ := exists_readError_iff.1 ⟨payload, hread⟩
    exact .inl ⟨document, hparse, hreads, rfl⟩

/-- A redirect that bears an error is answered with status 200 exactly if its body is JSON that can
be read as an error payload; and then the answer parses to the value to which the body parses,
unless that has doubles. -/
theorem error_echoed {target : String} (checker : Conditionality) (maxBodyBytes : Nat)
    (body : List UInt8) (s : State) (hpath : pathOf target = redirectPath .error)
    (hlength : body.length ≤ maxBodyBytes) :
    ((answer checker maxBodyBytes "POST" target body s).1.status = 200 ↔
        ∃ document, Json.parse body = .ok document ∧ ReadsAsError document) ∧
      ((answer checker maxBodyBytes "POST" target body s).1.status = 200 →
        ∀ document, Json.parse body = .ok document → Json.WithoutDoubles document →
          Json.parse (Json.bytesOf (answer checker maxBodyBytes "POST" target body s).1.body) =
            .ok document) := by
  have hanswer : answer checker maxBodyBytes "POST" target body s = takeError body s := by
    rw [answer_redirect hpath, if_neg (Nat.not_lt.2 hlength)]
    rfl
  rw [hanswer]
  rcases takeError_reply body s with ⟨document, hparse, hreads, hreply⟩ | ⟨hnone, _, hreply⟩
  · rw [hreply]
    refine ⟨⟨fun _ => ⟨document, hparse, hreads⟩, fun _ => rfl⟩, fun _ other hother hdoubles => ?_⟩
    obtain rfl : document = other := Except.ok.inj (hparse.symm.trans hother)
    exact Json.parse_render_of_parse hparse hdoubles
  · have hstatus : (takeError body s).1.status ≠ 200 := by
      rw [hreply]
      exact (by decide : (400 : UInt16) ≠ 200)
    exact ⟨⟨fun h => absurd h hstatus, fun h => absurd h hnone⟩, fun h => absurd h hstatus⟩

/-- A body with blanks, escapes, the outermost integers, nested members and members unknown to an
error payload. -/
def echoedBody : List UInt8 := Json.bytesOf
  "\x7b \"trail\" : [-9223372036854775808, \x7b\"error\":[18446744073709551615]\x7d, true],
    \"error\":\"a\\u0062\\n\\ud83d\\ude00\\\"\", \"state\":null\x7d "

/-- The document of that body. -/
def echoedDocument : Json := .object [
  ("trail", .array [.number (.integer (-9223372036854775808) (by decide)),
    .object [("error", .array [.number (.integer 18446744073709551615 (by decide))])],
    .bool true]),
  ("error", .string "ab\n😀\""), ("state", .null)]

theorem parse_echoedBody : Json.parse echoedBody = .ok echoedDocument := by
  have h : (Json.parse echoedBody).toOption = some echoedDocument := by decide +kernel
  cases hparse : Json.parse echoedBody with
  | error e => simp [hparse, Except.toOption] at h
  | ok document => simpa [hparse, Except.toOption] using h

theorem withoutDoubles_echoedDocument : Json.WithoutDoubles echoedDocument := by
  have hinner : Json.WithoutDoubles
      (.object [("error", .array [.number (.integer 18446744073709551615 (by decide))])]) :=
    .object (List.forall_mem_singleton.2 (.array (List.forall_mem_singleton.2 (.integer _ _))))
  refine .object (List.forall_mem_cons.2 ⟨.array ?_, List.forall_mem_cons.2 ⟨.string _,
    List.forall_mem_singleton.2 .null⟩⟩)
  exact List.forall_mem_cons.2 ⟨.integer _ _, List.forall_mem_cons.2 ⟨hinner,
    List.forall_mem_singleton.2 (.bool true)⟩⟩

/-- The document of such a body comes back, from a target with a query. -/
theorem error_echoed_trail :
    pathOf "/api/redirect/error?trail" = redirectPath .error ∧ echoedBody.length ≤ 140 ∧
      (answer idleChecker 140 "POST" "/api/redirect/error?trail" echoedBody freshState).1.status =
        200 ∧
      Json.parse (Json.bytesOf (answer idleChecker 140 "POST" "/api/redirect/error?trail" echoedBody
        freshState).1.body) = .ok echoedDocument := by
  have hpath : pathOf "/api/redirect/error?trail" = redirectPath .error := by decide
  have hlength : echoedBody.length ≤ 140 := by decide +kernel
  obtain ⟨hstatus, hbody⟩ :=
    error_echoed idleChecker 140 echoedBody freshState hpath hlength
  have hreads : ReadsAsError echoedDocument := by
    refine .object fun name hname value hvalue => ?_
    simp only [errorNames, List.mem_cons, List.not_mem_nil, or_false] at hname
    obtain rfl | rfl | rfl := hname
    · cases hvalue
      exact .string _
    · cases hvalue
    · cases hvalue
      exact .null
  have hok := hstatus.2 ⟨echoedDocument, parse_echoedBody, hreads⟩
  exact ⟨hpath, hlength, hok, hbody hok _ parse_echoedBody withoutDoubles_echoedDocument⟩

end Api

end ConformanceSuite
