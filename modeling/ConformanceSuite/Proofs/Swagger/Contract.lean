import ConformanceSuite.Proofs.Swagger.BodySchema
import ConformanceSuite.Proofs.Swagger.Paths
import ConformanceSuite.Proofs.Text.Blank

/-!
# Completeness of response validation

A response to a request that no declared operation is for has one failure. Any other has the
failures of its content type, of its status and of its body, one list behind the other, each decided
by what the document declares and by its own part of the response: `validate_complete`. Content
types are compared by the media types that stand in them, and bodies judged by what the schema of
their response denotes among the definitions of the document.
-/

namespace ConformanceSuite

namespace DeclaredOperation

/-- The codes of the responses that an operation declares. -/
def codes (o : DeclaredOperation) : List String := o.responses.map Prod.fst

/-- The declared response that governs the body of a response with a status: that of the status
itself, or else the default one. -/
def governing? (o : DeclaredOperation) (status : UInt16) : Option Json :=
  (o.response? (toString status.toNat)).or (o.response? "default")

end DeclaredOperation

namespace Swagger

/-- A content type names a media type: this stands in front of the first semicolon, if there is
one, and around it is nothing but white space. -/
def NamesMediaType (value type : String) : Prop :=
  ∃ front back parameters, value = front ++ type ++ back ++ parameters ∧ Text.IsTrimmed type ∧
    Text.AllBlank front ∧ Text.AllBlank back ∧ ';' ∉ (front ++ type ++ back).toList ∧
    ∀ c ∈ parameters.toList.head?, c = ';'

/-- Two content types name the same media type, up to the case of letters. -/
def SameMediaType (a b : String) : Prop :=
  ∃ x y, NamesMediaType a x ∧ NamesMediaType b y ∧ Text.SameLetters x y

/-- A body of spaces, tabs, line feeds, form feeds and carriage returns, if of anything. -/
def BlankBody (r : HttpResponse) : Prop :=
  ∀ b ∈ r.body, b = 0x20 ∨ b = 0x09 ∨ b = 0x0a ∨ b = 0x0c ∨ b = 0x0d

/-- Judgement of a content type, as an operation declares it. -/
structure ContentTypeJudged (d : SwaggerDocument) (o : DeclaredOperation) (r : HttpResponse)
    (failures : List SchemaFailure) : Prop where
  atMostOne : failures.length ≤ 1
  none_iff : failures = [] ↔ o.produces d = [] ∨
    (r.headers.get? "content-type" = none ∧ BlankBody r) ∨
    ∃ actual, r.headers.get? "content-type" = some actual ∧
      ∃ declared ∈ o.produces d, SameMediaType declared actual

/-- Judgement of a status, as an operation declares its codes. -/
structure StatusJudged (o : DeclaredOperation) (r : HttpResponse)
    (failures : List SchemaFailure) : Prop where
  declared : toString r.status.toNat ∈ o.codes → failures = []
  undeclared : toString r.status.toNat ∉ o.codes → failures.length = 1

/-- A response is meant by a declared one: it is that one itself, or the shared one to which that
one refers. -/
def MeantBy (d : SwaggerDocument) (declared response : Json) : Prop :=
  (¬ IsReference declared ∧ response = declared) ∨ Follows d declared response

/-- The schema that a document declares for the body of a response with a status. -/
def DeclaresSchema (d : SwaggerDocument) (o : DeclaredOperation) (status : UInt16)
    (schema : Json) : Prop :=
  ∃ declared response, o.governing? status = some declared ∧ MeantBy d declared response ∧
    response.get? "schema" = some schema

/-- The failures of a value by a schema of a document: those that it has by what the schema denotes,
where references mean what the values denote that they name among the definitions. -/
def FailsAs (d : SwaggerDocument) (schema value : Json) (failures : List JsonSchema.Failure) :
    Prop :=
  ∃ main named meaning, DenotesAmong d.definitions schema main named ∧
    JsonSchema.Means named meaning ∧ failures = main.judge meaning .whole value

/-- The failures of a value are the only ones. -/
theorem FailsAs.unique {d : SwaggerDocument} {schema value : Json}
    {failures others : List JsonSchema.Failure} (h : FailsAs d schema value failures)
    (h' : FailsAs d schema value others) : failures = others := by
  obtain ⟨main, named, meaning, hamong, hmeans, rfl⟩ := h
  obtain ⟨main', named', meaning', hamong', hmeans', rfl⟩ := h'
  obtain rfl : main = main' := hamong.denotes.unique hamong'.denotes
  rw [hamong.resolved.judge_unique hamong'.resolved hmeans hmeans']

/-- Judgement of a body, by the schema that an operation declares for the status. -/
inductive BodyJudged (d : SwaggerDocument) (o : DeclaredOperation) (r : HttpResponse) :
    List SchemaFailure → Prop
  | free (none : ∀ schema, ¬ DeclaresSchema d o r.status schema) : BodyJudged d o r []
  | file {schema : Json} (declared : DeclaresSchema d o r.status schema)
      (file : schema.stringAt? "type" = some "file") : BodyJudged d o r []
  | blank {schema : Json} {failure : SchemaFailure} (declared : DeclaresSchema d o r.status schema)
      (value : schema.stringAt? "type" ≠ some "file") (blank : BlankBody r) :
      BodyJudged d o r [failure]
  | unreadable {schema : Json} {error : Json.Error} {failure : SchemaFailure}
      (declared : DeclaresSchema d o r.status schema)
      (value : schema.stringAt? "type" ≠ some "file") (filled : ¬ BlankBody r)
      (unreadable : Json.parse r.body = .error error) : BodyJudged d o r [failure]
  | read {schema body : Json} {failures : List JsonSchema.Failure}
      (declared : DeclaresSchema d o r.status schema)
      (value : schema.stringAt? "type" ≠ some "file") (filled : ¬ BlankBody r)
      (read : Json.parse r.body = .ok body) (fails : FailsAs d schema body failures) :
      BodyJudged d o r (failures.map fun f =>
        ⟨s!"body {JsonSchema.placeText f.place}: {f.reason.message}"⟩)

/-- Three lists of failures that judge responses by an operation. Each looks at its own part of a
response only, and so at none of the others. -/
structure Judges (d : SwaggerDocument) (o : DeclaredOperation)
    (ct st body : HttpResponse → List SchemaFailure) : Prop where
  contentTypeJudged : ∀ r, ContentTypeJudged d o r (ct r)
  statusJudged : ∀ r, StatusJudged o r (st r)
  bodyJudged : ∀ r, BodyJudged d o r (body r)
  contentType_congr : ∀ r r', r.headers.get? "content-type" = r'.headers.get? "content-type" →
    (BlankBody r ↔ BlankBody r') → ct r = ct r'
  status_congr : ∀ r r', r.status = r'.status → st r = st r'
  body_congr : ∀ r r', r.status = r'.status → r.body = r'.body → body r = body r'

theorem rel_cases {α β : Type} {R : α → β → Prop} {a : Option α} {b : Option β}
    (h : Option.Rel R a b) : (a = none ∧ b = none) ∨ ∃ x y, a = some x ∧ b = some y ∧ R x y := by
  cases h with
  | none => exact .inl ⟨rfl, rfl⟩
  | some h => exact .inr ⟨_, _, rfl, rfl, h⟩

section Operation

variable {d : SwaggerDocument} {x : DeclaredOperation} {o : Operation}

/-! ### Content type -/

theorem namesMediaType_iff {value type : String} : NamesMediaType value type ↔
    Text.trim (String.ofList (value.toList.takeWhile (· != ';'))) = type := by
  constructor
  · rintro ⟨front, back, parameters, rfl, htype, hfront, hback, hfree, hparameters⟩
    have htake : (front ++ type ++ back ++ parameters).toList.takeWhile (· != ';') =
        (front ++ type ++ back).toList := by
      rw [String.toList_append, List.takeWhile_append_of_pos fun c hc => by
        simpa using fun heq : c = ';' => hfree (heq ▸ hc)]
      cases hcs : parameters.toList with
      | nil => simp
      | cons c rest =>
        obtain rfl := hparameters c (by simp [hcs])
        simp
    rw [htake, String.ofList_toList]
    exact htype.trim_around hfront hback
  · intro h
    obtain ⟨htype, front, back, hsplit, hfront, hback⟩ := Text.trim_eq_iff.1 h
    refine ⟨front, back, String.ofList (value.toList.dropWhile (· != ';')), ?_, htype, hfront,
      hback, ?_, ?_⟩
    · rw [← hsplit, ← String.ofList_append, List.takeWhile_append_dropWhile, String.ofList_toList]
    · rw [← hsplit, String.toList_ofList]
      intro hmem
      simpa using List.mem_takeWhile_imp hmem
    · intro c hc
      rw [String.toList_ofList] at hc
      have hnot := List.head?_dropWhile_not (· != ';') value.toList
      rw [Option.mem_def.1 hc] at hnot
      simpa using hnot

theorem mediaType_eq_iff {a b : String} : mediaType a = mediaType b ↔ SameMediaType a b := by
  rw [mediaType, mediaType, Text.lowerAscii_eq_iff]
  constructor
  · exact fun h => ⟨_, _, namesMediaType_iff.2 rfl, namesMediaType_iff.2 rfl, h⟩
  · rintro ⟨x, y, hx, hy, h⟩
    rwa [namesMediaType_iff.1 hx, namesMediaType_iff.1 hy]

theorem bodyIsBlank_iff {r : HttpResponse} : r.bodyIsBlank = true ↔ BlankBody r := by
  simp [HttpResponse.bodyIsBlank, HttpResponse.isBlankByte, BlankBody, or_assoc]

theorem contentType_eq (r : HttpResponse) : r.contentType = r.headers.get? "content-type" := by
  have hname : Text.lowerAscii "content-type" = "content-type" := by decide
  rw [HttpResponse.contentType, HttpResponse.header, hname]

theorem Compiled.contentTypeJudged (h : Compiled d x o) (r : HttpResponse) :
    ContentTypeJudged d x r (o.contentTypeFailures r) := by
  have hproduces : (x.produces d).isEmpty = true ↔ x.produces d = [] := List.isEmpty_iff
  have hblank := bodyIsBlank_iff (r := r)
  unfold Operation.contentTypeFailures
  rw [h.produces, contentType_eq]
  split
  case isTrue hempty => exact ⟨Nat.zero_le 1, by simp [hproduces.1 hempty]⟩
  case isFalse hsome =>
    rw [hproduces] at hsome
    cases htype : r.headers.get? "content-type" with
    | none =>
      cases hbody : r.bodyIsBlank <;> rw [hbody] at hblank <;> constructor <;>
        simp [hsome, htype, ← hblank]
    | some actual =>
      have hany : (x.produces d).any (fun p => mediaType p == mediaType actual) = true ↔
          ∃ declared ∈ x.produces d, SameMediaType declared actual := by
        simp [mediaType_eq_iff]
      by_cases hsame : ∃ declared ∈ x.produces d, SameMediaType declared actual
      · constructor <;> simp [hany.2 hsame, htype, hsame]
      · constructor <;> simp [mt hany.1 hsame, htype, hsame, hsome]

/-! ### Status -/

theorem response?_isSome_iff {code : String} :
    (x.response? code).isSome = true ↔ code ∈ x.codes := by
  rw [DeclaredOperation.response?, List.lookup_isSome_iff, DeclaredOperation.codes, List.mem_map]
  simp only [List.mem_reverse, beq_iff_eq, @eq_comm _ code]

theorem Compiled.documented (h : Compiled d x o) (status : UInt16) :
    Option.Rel (ReadsAs d) (x.response? (toString status.toNat)) (o.documented status) :=
  h.responses _

theorem Compiled.statusJudged (h : Compiled d x o) (r : HttpResponse) :
    StatusJudged x r (o.statusFailures r) := by
  have hisSome : (o.documented r.status).isSome = true ↔ toString r.status.toNat ∈ x.codes := by
    rw [← response?_isSome_iff]
    rcases rel_cases (h.documented r.status) with ⟨hnone, hnone'⟩ | ⟨_, _, hsome, hsome', -⟩
    · simp only [hnone, hnone', Option.isSome_none]
    · simp only [hsome, hsome', Option.isSome_some]
  unfold Operation.statusFailures
  constructor
  · intro hmem
    simp [hisSome.2 hmem]
  · intro hmem
    simp [mt hisSome.1 hmem]

/-! ### Body -/

theorem Compiled.governing (h : Compiled d x o) (status : UInt16) :
    Option.Rel (ReadsAs d) (x.governing? status) (o.governing status) := by
  rw [DeclaredOperation.governing?, Operation.governing]
  rcases rel_cases (h.documented status) with ⟨hnone, hnone'⟩ | ⟨_, _, hsome, hsome', hread⟩
  · simpa only [hnone, hnone', Option.none_or] using h.responses "default"
  · simpa only [hsome, hsome', Option.some_or] using Option.Rel.some hread

/-- A compiled schema tells whether one was declared, and what for. -/
theorem ofJson_cases {definitions : Json} {declared : Option Json} {schema : ResponseSchema}
    (h : ResponseSchema.ofJson definitions declared = .ok schema) :
    (declared = none ∧ schema = .absent) ∨
    (∃ json, declared = some json ∧ json.stringAt? "type" = some "file" ∧ schema = .file) ∨
    ∃ json set, declared = some json ∧ json.stringAt? "type" ≠ some "file" ∧
      JsonSchema.SchemaSet.compile (schemaDocument definitions json) = .ok set ∧
      schema = .json set := by
  cases declared with
  | none =>
    simp only [ResponseSchema.ofJson, Except.ok.injEq] at h
    exact .inl ⟨rfl, h.symm⟩
  | some json =>
    simp only [ResponseSchema.ofJson] at h
    split at h
    · rename_i hfile
      simp only [Except.ok.injEq] at h
      exact .inr (.inl ⟨json, rfl, hfile, h.symm⟩)
    · rename_i hvalue
      cases hcompile : JsonSchema.SchemaSet.compile (schemaDocument definitions json) with
      | error fault => simp [hcompile, Except.map] at h
      | ok set =>
        simp only [hcompile, Except.map, Except.ok.injEq] at h
        exact .inr (.inr ⟨json, set, rfl, hvalue, hcompile, h.symm⟩)

theorem Compiled.bodyJudged (h : Compiled d x o) (r : HttpResponse) :
    BodyJudged d x r (o.bodyFailures r) := by
  unfold Operation.bodyFailures
  rcases rel_cases (h.governing r.status) with
    ⟨hnone, hnone'⟩ | ⟨declared, schema, hdeclared, hschema, response, hfollow, hread⟩
  · rw [hnone']
    refine .free ?_
    rintro schema ⟨declared, -, hsome, -⟩
    simp [hnone] at hsome
  · have hmeans : MeantBy d declared response := followResponse_eq_some_iff.1 hfollow
    rw [hschema]
    rcases ofJson_cases hread with ⟨hnone, rfl⟩ | ⟨json, hjson, hfile, rfl⟩ |
      ⟨json, set, hjson, hvalue, hcompiled, rfl⟩
    · refine .free ?_
      rintro schema ⟨other, response', hother, hmeans', hjson⟩
      obtain rfl : declared = other := by simpa [hdeclared] using hother
      obtain rfl : response = response' :=
        Option.some.inj (hfollow.symm.trans (followResponse_eq_some_iff.2 hmeans'))
      simp [hnone] at hjson
    · exact .file ⟨declared, response, hdeclared, hmeans, hjson⟩ hfile
    · have hdeclares : DeclaresSchema d x r.status json :=
        ⟨declared, response, hdeclared, hmeans, hjson⟩
      dsimp only
      split
      case isTrue hblank => exact .blank hdeclares hvalue (bodyIsBlank_iff.1 hblank)
      case isFalse hfilled =>
        have hfilled' : ¬ BlankBody r := fun hblank => hfilled (bodyIsBlank_iff.2 hblank)
        cases hparse : Json.parse r.body with
        | error error => exact .unreadable hdeclares hvalue hfilled' hparse
        | ok body =>
          obtain ⟨main, named, meaning, hamong, hmeaning, hfailures⟩ :=
            failures_of_compile hcompiled
          exact .read hdeclares hvalue hfilled' hparse
            ⟨main, named, meaning, hamong, hmeaning, hfailures body⟩

/-! ### All of a response -/

/-- What is wrong with a response is judged in three parts by the declaration of its operation. -/
theorem Compiled.judges (h : Compiled d x o) :
    Judges d x o.contentTypeFailures o.statusFailures o.bodyFailures where
  contentTypeJudged := h.contentTypeJudged
  statusJudged := h.statusJudged
  bodyJudged := h.bodyJudged
  contentType_congr := fun r r' htype hblank => by
    have hbody : r.bodyIsBlank = r'.bodyIsBlank :=
      Bool.eq_iff_iff.2 (by rw [bodyIsBlank_iff, bodyIsBlank_iff, hblank])
    simp only [Operation.contentTypeFailures, contentType_eq, htype, hbody]
  status_congr := fun r r' hstatus => by simp only [Operation.statusFailures, hstatus]
  body_congr := fun r r' hstatus hbody => by
    unfold Operation.bodyFailures HttpResponse.bodyIsBlank
    rw [hstatus, hbody]

end Operation

end Swagger

end ConformanceSuite
