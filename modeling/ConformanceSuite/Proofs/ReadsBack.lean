import ConformanceSuite.Discovery.Validation
import ConformanceSuite.Proofs.Json.Lossless
import ConformanceSuite.Redirect.Validator
import ConformanceSuite.Report
import ConformanceSuite.TestCase.Verdict

/-!
# Everything that is exchanged reads back

Every value of the types that are exchanged as JSON reads back from its compact text as it was: run
definitions with all their parts, reports, findings and redirects. Of each type only its fields are
said, in the order of its decoder; nothing is written of an absent field, so it is not mistaken for
an empty one. The conclusion for all types is `exchanged_readsBack`.
-/

namespace ConformanceSuite

open Json

/-! ### Discovery documents -/

theorem ApiSpecification.lossless (room : Nat) :
    Lossless (room + 1) ApiSpecification.toJson ApiSpecification.decoder := by
  refine .record (fun s => [("name", some (.string s.name)), ("url", some (.string s.url)),
      ("version", some (.string s.version)), ("schemaVersion", some (.string s.schemaVersion))])
    (fun _ => rfl) (fun _ => rfl) (by decide) (fun s => ?_) (fun s f h => ?_)
  · exact ⟨(Lossless.string _).fits _, (Lossless.string _).fits _, (Lossless.string _).fits _,
      (Lossless.string _).fits _⟩
  · rw [h.withDefault 0 (Lossless.string 0) rfl, h.withDefault 1 (Lossless.string 0) rfl,
      h.withDefault 2 (Lossless.string 0) rfl, h.withDefault 3 (Lossless.string 0) rfl]
    rfl

theorem ConditionalProperty.lossless (room : Nat) :
    Lossless (room + 1) ConditionalProperty.toJson ConditionalProperty.decoder := by
  refine .record (fun p => [("schema", some (.string p.schema)),
      ("property", some (.string p.property)), ("path", some (.string p.path))])
    (fun _ => rfl) (fun _ => rfl) (by decide) (fun p => ?_) (fun p f h => ?_)
  · exact ⟨(Lossless.string _).fits _, (Lossless.string _).fits _, (Lossless.string _).fits _⟩
  · rw [h.withDefault 0 (Lossless.string 0) rfl, h.withDefault 1 (Lossless.string 0) rfl,
      h.withDefault 2 (Lossless.string 0) rfl]
    rfl

theorem Endpoint.lossless (room : Nat) : Lossless (room + 3) Endpoint.toJson Endpoint.decoder := by
  refine .record (fun e => [("method", some (.string e.method)), ("path", some (.string e.path)),
      ("conditionalProperties",
        e.conditionalProperties.map (Json.ofList ConditionalProperty.toJson))])
    (fun _ => by simp [Endpoint.toJson]) (fun _ => rfl) (by decide) (fun e => ?_) (fun e f h => ?_)
  · exact ⟨(Lossless.string _).fits _, (Lossless.string _).fits _,
      (ConditionalProperty.lossless room).list.fitsMap _⟩
  · rw [h.withDefault 0 (Lossless.string 0) rfl, h.withDefault 1 (Lossless.string 0) rfl,
      h.optionalOrAbsent 2 (ConditionalProperty.lossless 0).list rfl]
    rfl

theorem DiscoveryItem.lossless (room : Nat) :
    Lossless (room + 5) DiscoveryItem.toJson DiscoveryItem.decoder := by
  refine .record (fun i => [("apiSpecification", some i.apiSpecification.toJson),
      ("openidConfigurationUri", some (.string i.openidConfigurationUri)),
      ("resourceBaseUri", some (.string i.resourceBaseUri)),
      ("endpoints", i.endpoints?.map (Json.ofList Endpoint.toJson))])
    (fun _ => by simp [DiscoveryItem.toJson]) (fun _ => rfl) (by decide) (fun i => ?_)
    (fun i f h => ?_)
  · exact ⟨(ApiSpecification.lossless _).fits _, (Lossless.string _).fits _,
      (Lossless.string _).fits _, (Endpoint.lossless room).list.fitsMap _⟩
  · rw [h.withDefault 0 (ApiSpecification.lossless 0) rfl,
      h.withDefault 1 (Lossless.string 0) rfl, h.withDefault 2 (Lossless.string 0) rfl,
      h.optionalOrAbsent 3 (Endpoint.lossless 0).list rfl]
    rfl

theorem CustomTest.lossless (room : Nat) :
    Lossless (room + 2) CustomTest.toJson CustomTest.decoder := by
  refine .record (fun t => [("name", some (.string t.name)),
      ("description", some (.string t.description)),
      ("replacements", some (Json.ofMap .string t.replacements))])
    (fun _ => rfl) (fun _ => rfl) (by decide) (fun t => ?_) (fun t f h => ?_)
  · exact ⟨(Lossless.string _).fits _, (Lossless.string _).fits _,
      (Lossless.string room).map.fits _⟩
  · rw [h.withDefault 0 (Lossless.string 0) rfl, h.withDefault 1 (Lossless.string 0) rfl,
      h.withDefault 2 (Lossless.string 0).map rfl]
    rfl

namespace DiscoveryDocument

theorem body_lossless (room : Nat) : Lossless (room + 7) bodyToJson bodyDecoder := by
  refine .record (fun d => [("name", some (.string d.name)),
      ("description", some (.string d.description)),
      ("discoveryVersion", some (.string d.discoveryVersion)),
      ("tokenAcquisition", d.tokenAcquisition.map .string),
      ("discoveryItems", d.items?.map (Json.ofList DiscoveryItem.toJson)),
      ("customTests", d.customTests?.map (Json.ofList CustomTest.toJson))])
    (fun _ => by simp [bodyToJson]) (fun _ => rfl) (by decide) (fun d => ?_) (fun d f h => ?_)
  · exact ⟨(Lossless.string _).fits _, (Lossless.string _).fits _, (Lossless.string _).fits _,
      (Lossless.string _).fitsMap _, (DiscoveryItem.lossless room).list.fitsMap _,
      (CustomTest.lossless (room + 3)).list.fitsMap _⟩
  · rw [h.withDefault 0 (Lossless.string 0) rfl, h.withDefault 1 (Lossless.string 0) rfl,
      h.withDefault 2 (Lossless.string 0) rfl, h.optionalOrAbsent 3 (Lossless.string 0) rfl,
      h.optionalOrAbsent 4 (DiscoveryItem.lossless 0).list rfl,
      h.optionalOrAbsent 5 (CustomTest.lossless 0).list rfl]
    rfl

theorem lossless (room : Nat) : Lossless (room + 8) toJson decoder := by
  refine .record (fun d => [("discoveryModel", some d.bodyToJson)])
    (fun _ => rfl) (fun _ => rfl) (by decide) (fun d => ?_) (fun d f h => ?_)
  · exact (body_lossless room).fits _
  · exact h.withDefault 0 (body_lossless 0) rfl .empty

end DiscoveryDocument

/-! ### Test cases -/

theorem Input.lossless (room : Nat) : Lossless (room + 2) Input.toJson Input.decoder := by
  refine .record (fun i => [("method", some (.string i.method)),
      ("endpoint", some (.string i.endpoint)), ("headers", some (Json.ofMap .string i.headers)),
      ("body", i.body.map .string)])
    (fun _ => by simp [Input.toJson]) (fun _ => rfl) (by decide) (fun i => ?_) (fun i f h => ?_)
  · exact ⟨(Lossless.string _).fits _, (Lossless.string _).fits _,
      (Lossless.string room).map.fits _, (Lossless.string _).fitsMap _⟩
  · rw [h.required 0 (Lossless.string 0) rfl, h.required 1 (Lossless.string 0) rfl,
      h.withDefault 2 (Lossless.string 0).map rfl, h.optionalOrAbsent 3 (Lossless.string 0) rfl]
    rfl

theorem Match.lossless (room : Nat) : Lossless (room + 1) Match.toJson Match.decoder := by
  refine .record (fun m => [("description", m.description.map .string),
      ("json", m.json.map .string), ("header", m.header.map .string),
      ("value", m.value.map .string)])
    (fun _ => by simp [Match.toJson]) (fun _ => rfl) (by decide) (fun m => ?_) (fun m f h => ?_)
  · exact ⟨(Lossless.string _).fitsMap _, (Lossless.string _).fitsMap _,
      (Lossless.string _).fitsMap _, (Lossless.string _).fitsMap _⟩
  · rw [h.optionalOrAbsent 0 (Lossless.string 0) rfl, h.optionalOrAbsent 1 (Lossless.string 0) rfl,
      h.optionalOrAbsent 2 (Lossless.string 0) rfl, h.optionalOrAbsent 3 (Lossless.string 0) rfl]
    rfl

theorem Expect.lossless (room : Nat) : Lossless (room + 3) Expect.toJson Expect.decoder := by
  refine .record (fun e => [("status_code", some (.ofNat e.status.toNat)),
      ("schema_validation", some (.bool e.schemaValidation)),
      ("matches", some (Json.ofList Match.toJson e.checks))])
    (fun _ => rfl) (fun _ => rfl) (by decide) (fun e => ?_) (fun e f h => ?_)
  · exact ⟨(Lossless.uint16 _).fits _, (Lossless.bool _).fits _, (Match.lossless room).list.fits _⟩
  · rw [h.required 0 (Lossless.uint16 0) rfl, h.withDefault 1 (Lossless.bool 0) rfl,
      h.withDefault 2 (Match.lossless 0).list rfl]
    rfl

theorem Capture.lossless (room : Nat) : Lossless (room + 1) Capture.toJson Capture.decoder := by
  refine .record (fun c => [("name", some (.string c.name)), ("json", some (.string c.json))])
    (fun _ => rfl) (fun _ => rfl) (by decide) (fun c => ?_) (fun c f h => ?_)
  · exact ⟨(Lossless.string _).fits _, (Lossless.string _).fits _⟩
  · rw [h.required 0 (Lossless.string 0) rfl, h.required 1 (Lossless.string 0) rfl]
    rfl

theorem TestCase.lossless (room : Nat) : Lossless (room + 4) TestCase.toJson TestCase.decoder := by
  refine .record (fun t => [("id", some (.string t.id)), ("name", some (.string t.name)),
      ("input", some t.input.toJson), ("expect", some t.expect.toJson),
      ("context_put", some (Json.ofList Capture.toJson t.captures))])
    (fun _ => rfl) (fun _ => rfl) (by decide) (fun t => ?_) (fun t f h => ?_)
  · exact ⟨(Lossless.string _).fits _, (Lossless.string _).fits _, (Input.lossless _).fits _,
      (Expect.lossless room).fits _, (Capture.lossless _).list.fits _⟩
  · rw [h.required 0 (Lossless.string 0) rfl, h.required 1 (Lossless.string 0) rfl,
      h.required 2 (Input.lossless 0) rfl, h.required 3 (Expect.lossless 0) rfl,
      h.withDefault 4 (Capture.lossless 0).list rfl]
    rfl

theorem SpecificationTestCases.lossless (room : Nat) :
    Lossless (room + 6) SpecificationTestCases.toJson SpecificationTestCases.decoder := by
  refine .record (fun s => [("specification", some s.specification.toJson),
      ("base_uri", some (.string s.baseUri)),
      ("test_cases", some (Json.ofList TestCase.toJson s.testCases))])
    (fun _ => rfl) (fun _ => rfl) (by decide) (fun s => ?_) (fun s f h => ?_)
  · exact ⟨(ApiSpecification.lossless _).fits _, (Lossless.string _).fits _,
      (TestCase.lossless room).list.fits _⟩
  · rw [h.required 0 (ApiSpecification.lossless 0) rfl, h.withDefault 1 (Lossless.string 0) rfl,
      h.required 2 (TestCase.lossless 0).list rfl]
    rfl

theorem Certificate.lossless (room : Nat) :
    Lossless (room + 1) Certificate.toJson Certificate.decoder := by
  refine .record (fun c => [("public_pem", some (.string c.publicPem)),
      ("private_pem", some (.string c.privatePem))])
    (fun _ => rfl) (fun _ => rfl) (by decide) (fun c => ?_) (fun c f h => ?_)
  · exact ⟨(Lossless.string _).fits _, (Lossless.string _).fits _⟩
  · rw [h.required 0 (Lossless.string 0) rfl, h.required 1 (Lossless.string 0) rfl]
    rfl

theorem RunDefinition.lossless (room : Nat) :
    Lossless (room + 9) RunDefinition.toJson RunDefinition.decoder := by
  refine .record (fun d => [("discovery", some d.discovery.toJson),
      ("spec_tests", some (Json.ofList SpecificationTestCases.toJson d.specTests)),
      ("signing_cert", some d.signingCert.toJson),
      ("transport_cert", some d.transportCert.toJson)])
    (fun _ => rfl) (fun _ => rfl) (by decide) (fun d => ?_) (fun d f h => ?_)
  · exact ⟨(DiscoveryDocument.lossless room).fits _,
      (SpecificationTestCases.lossless (room + 1)).list.fits _, (Certificate.lossless _).fits _,
      (Certificate.lossless _).fits _⟩
  · rw [h.required 0 (DiscoveryDocument.lossless 0) rfl,
      h.required 1 (SpecificationTestCases.lossless 0).list rfl,
      h.required 2 (Certificate.lossless 0) rfl, h.required 3 (Certificate.lossless 0) rfl]
    rfl

/-! ### Findings and redirects -/

theorem Discovery.ValidationFailure.lossless (room : Nat) :
    Lossless (room + 1) ValidationFailure.toJson ValidationFailure.decoder := by
  refine .record (fun v => [("key", some (.string v.key)), ("error", some (.string v.error))])
    (fun _ => rfl) (fun _ => rfl) (by decide) (fun v => ?_) (fun v f h => ?_)
  · exact ⟨(Lossless.string _).fits _, (Lossless.string _).fits _⟩
  · rw [h.required 0 (Lossless.string 0) rfl, h.required 1 (Lossless.string 0) rfl]
    rfl

theorem SchemaFailure.lossless (room : Nat) :
    Lossless (room + 1) SchemaFailure.toJson SchemaFailure.decoder := by
  refine .record (fun v => [("message", some (.string v.message))])
    (fun _ => rfl) (fun _ => rfl) (by decide) (fun v => ?_) (fun v f h => ?_)
  · exact (Lossless.string _).fits _
  · rw [h.required 0 (Lossless.string 0) rfl]
    rfl

theorem Redirect.CodePayload.lossless (room : Nat) :
    Lossless (room + 1) CodePayload.toJson CodePayload.decoder := by
  refine .record (fun p => [("code", some (.string p.code)), ("scope", some (.string p.scope)),
      ("id_token", some (.string p.idToken)), ("state", some (.string p.state))])
    (fun _ => rfl) (fun _ => rfl) (by decide) (fun p => ?_) (fun p f h => ?_)
  · exact ⟨(Lossless.string _).fits _, (Lossless.string _).fits _, (Lossless.string _).fits _,
      (Lossless.string _).fits _⟩
  · rw [h.withDefault 0 (Lossless.string 0) rfl, h.withDefault 1 (Lossless.string 0) rfl,
      h.withDefault 2 (Lossless.string 0) rfl, h.withDefault 3 (Lossless.string 0) rfl]
    rfl

theorem Redirect.ErrorPayload.lossless (room : Nat) :
    Lossless (room + 1) ErrorPayload.toJson ErrorPayload.decoder := by
  refine .record (fun p => [("error", p.error.map .string),
      ("error_description", p.errorDescription.map .string), ("state", p.state.map .string)])
    (fun _ => by simp [ErrorPayload.toJson]) (fun _ => rfl) (by decide) (fun p => ?_)
    (fun p f h => ?_)
  · exact ⟨(Lossless.string _).fitsMap _, (Lossless.string _).fitsMap _,
      (Lossless.string _).fitsMap _⟩
  · rw [h.optionalOrAbsent 0 (Lossless.string 0) rfl, h.optionalOrAbsent 1 (Lossless.string 0) rfl,
      h.optionalOrAbsent 2 (Lossless.string 0) rfl]
    rfl

/-! ### Reports -/

namespace Uuid

theorem digit?_digitChar (d : Fin 16) : digit? (digitChar d) = some d := by
  revert d
  decide

theorem mapM_digit? (ds : List (Fin 16)) : (ds.map digitChar).mapM digit? = some ds := by
  induction ds with
  | nil => rfl
  | cons d rest ih => simp [digit?_digitChar, ih]

theorem ofDigits?_digits (u : Uuid) : ofDigits? (u.digits.map digitChar) = some u := by
  rw [ofDigits?, mapM_digit?]
  simp [u.size]

/-- Five groups with hyphens between them are put together again. -/
theorem ungroup?_groups {a b c d e : List Char} (ha : a.length = 8) (hb : b.length = 4)
    (hc : c.length = 4) (hd : d.length = 4) (he : e.length = 12) :
    ungroup? (a ++ '-' :: b ++ '-' :: c ++ '-' :: d ++ '-' :: e) =
      some (a ++ b ++ c ++ d ++ e) := by
  simp [ungroup?, List.drop_append, List.getElem?_append, List.drop_eq_nil_of_le,
    ha, hb, hc, hd, he]

theorem ofString_toText (u : Uuid) : ofString u.toText = .ok u := by
  have hsize : (u.digits.map digitChar).length = 32 := by rw [List.length_map, u.size]
  have hungroup : ungroup? u.chars = some (u.digits.map digitChar) := by
    have hgroups : ∀ ds : List Char, ds.take 8 ++ (ds.drop 8).take 4 ++ (ds.drop 12).take 4 ++
        (ds.drop 16).take 4 ++ ds.drop 20 = ds := by
      intro ds
      have hsplit : ∀ n m, (ds.drop n).take m ++ ds.drop (n + m) = ds.drop n := by
        intro n m
        rw [← List.drop_drop, List.take_append_drop]
      rw [List.append_assoc, List.append_assoc, List.append_assoc, hsplit 16 4, hsplit 12 4,
        hsplit 8 4, List.take_append_drop]
    rw [chars, ungroup?_groups (by simp [u.size]) (by simp [u.size]) (by simp [u.size])
      (by simp [u.size]) (by simp [u.size]), hgroups]
  have hlength : u.chars.length = 36 := by
    simp [chars, u.size]
  have hchars : ofChars? u.chars = some u := by
    rw [ofChars?, if_neg (by omega), if_pos hlength, hungroup, Option.bind_some, ofDigits?_digits]
  rw [ofString, toText, String.toList_ofList, hchars]

theorem lossless (room : Nat) : Lossless room (fun u : Uuid => .string u.toText) decoder where
  legible u := .string room _
  present := by simp
  reads {s u} h := by
    cases h
    simp [decoder, bind, Except.bind, ofString_toText]

end Uuid

theorem TestResult.lossless (room : Nat) :
    Lossless (room + 1) TestResult.toJson TestResult.decoder := by
  refine .record (fun t => [("id", some (.string t.id)), ("name", some (.string t.name)),
      ("endpoint", some (.string t.endpoint)), ("pass", some (.bool t.pass))])
    (fun _ => rfl) (fun _ => rfl) (by decide) (fun t => ?_) (fun t f h => ?_)
  · exact ⟨(Lossless.string _).fits _, (Lossless.string _).fits _, (Lossless.string _).fits _,
      (Lossless.bool _).fits _⟩
  · rw [h.required 0 (Lossless.string 0) rfl, h.required 1 (Lossless.string 0) rfl,
      h.required 2 (Lossless.string 0) rfl, h.required 3 (Lossless.bool 0) rfl]
    rfl

theorem SpecificationResult.lossless (room : Nat) :
    Lossless (room + 3) SpecificationResult.toJson SpecificationResult.decoder := by
  refine .record (fun r => [("name", some (.string r.name)), ("version", some (.string r.version)),
      ("url", some (.string r.url)), ("schema_version", some (.string r.schemaVersion)),
      ("pass", some (.bool r.pass)), ("tests", some (Json.ofList TestResult.toJson r.tests))])
    (fun _ => rfl) (fun _ => rfl) (by decide) (fun r => ?_) (fun r f h => ?_)
  · exact ⟨(Lossless.string _).fits _, (Lossless.string _).fits _, (Lossless.string _).fits _,
      (Lossless.string _).fits _, (Lossless.bool _).fits _, (TestResult.lossless room).list.fits _⟩
  · rw [h.required 0 (Lossless.string 0) rfl, h.required 1 (Lossless.string 0) rfl,
      h.required 2 (Lossless.string 0) rfl, h.required 3 (Lossless.string 0) rfl,
      h.required 4 (Lossless.bool 0) rfl, h.required 5 (TestResult.lossless 0).list rfl]
    rfl

theorem Report.lossless (room : Nat) : Lossless (room + 5) Report.toJson Report.decoder := by
  refine .record (fun r => [("id", some (.string r.id.toText)),
      ("generated_at", some (.string r.generatedAt)),
      ("specifications", some (Json.ofList SpecificationResult.toJson r.specifications))])
    (fun _ => rfl) (fun _ => rfl) (by decide) (fun r => ?_) (fun r f h => ?_)
  · exact ⟨(Uuid.lossless _).fits _, (Lossless.string _).fits _,
      (SpecificationResult.lossless room).list.fits _⟩
  · rw [h.required 0 (Uuid.lossless 0) rfl, h.required 1 (Lossless.string 0) rfl,
      h.required 2 (SpecificationResult.lossless 0).list rfl]
    rfl

/-! ### All types -/

/-- Every value of every exchanged type reads back from its compact text as it was. -/
theorem exchanged_readsBack :
    (ReadsBack RunDefinition.toJson RunDefinition.decoder ∧
      ReadsBack DiscoveryDocument.toJson DiscoveryDocument.decoder ∧
      ReadsBack DiscoveryDocument.bodyToJson DiscoveryDocument.bodyDecoder ∧
      ReadsBack DiscoveryItem.toJson DiscoveryItem.decoder ∧
      ReadsBack ApiSpecification.toJson ApiSpecification.decoder ∧
      ReadsBack Endpoint.toJson Endpoint.decoder ∧
      ReadsBack ConditionalProperty.toJson ConditionalProperty.decoder ∧
      ReadsBack CustomTest.toJson CustomTest.decoder) ∧
    (ReadsBack SpecificationTestCases.toJson SpecificationTestCases.decoder ∧
      ReadsBack TestCase.toJson TestCase.decoder ∧ ReadsBack Input.toJson Input.decoder ∧
      ReadsBack Expect.toJson Expect.decoder ∧ ReadsBack Match.toJson Match.decoder ∧
      ReadsBack Capture.toJson Capture.decoder ∧
      ReadsBack Certificate.toJson Certificate.decoder) ∧
    (ReadsBack Discovery.ValidationFailure.toJson Discovery.ValidationFailure.decoder ∧
      ReadsBack SchemaFailure.toJson SchemaFailure.decoder ∧
      ReadsBack Redirect.CodePayload.toJson Redirect.CodePayload.decoder ∧
      ReadsBack Redirect.ErrorPayload.toJson Redirect.ErrorPayload.decoder) ∧
    ReadsBack Report.toJson Report.decoder ∧
      ReadsBack SpecificationResult.toJson SpecificationResult.decoder ∧
      ReadsBack TestResult.toJson TestResult.decoder := by
  refine ⟨⟨?_, ?_, ?_, ?_, ?_, ?_, ?_, ?_⟩, ⟨?_, ?_, ?_, ?_, ?_, ?_, ?_⟩, ⟨?_, ?_, ?_, ?_⟩,
    ?_, ?_, ?_⟩
  · exact (RunDefinition.lossless 0).readsBack (by decide)
  · exact (DiscoveryDocument.lossless 0).readsBack (by decide)
  · exact (DiscoveryDocument.body_lossless 0).readsBack (by decide)
  · exact (DiscoveryItem.lossless 0).readsBack (by decide)
  · exact (ApiSpecification.lossless 0).readsBack (by decide)
  · exact (Endpoint.lossless 0).readsBack (by decide)
  · exact (ConditionalProperty.lossless 0).readsBack (by decide)
  · exact (CustomTest.lossless 0).readsBack (by decide)
  · exact (SpecificationTestCases.lossless 0).readsBack (by decide)
  · exact (TestCase.lossless 0).readsBack (by decide)
  · exact (Input.lossless 0).readsBack (by decide)
  · exact (Expect.lossless 0).readsBack (by decide)
  · exact (Match.lossless 0).readsBack (by decide)
  · exact (Capture.lossless 0).readsBack (by decide)
  · exact (Certificate.lossless 0).readsBack (by decide)
  · exact (Discovery.ValidationFailure.lossless 0).readsBack (by decide)
  · exact (SchemaFailure.lossless 0).readsBack (by decide)
  · exact (Redirect.CodePayload.lossless 0).readsBack (by decide)
  · exact (Redirect.ErrorPayload.lossless 0).readsBack (by decide)
  · exact (Report.lossless 0).readsBack (by decide)
  · exact (SpecificationResult.lossless 0).readsBack (by decide)
  · exact (TestResult.lossless 0).readsBack (by decide)

end ConformanceSuite
