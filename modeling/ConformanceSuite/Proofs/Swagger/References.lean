import ConformanceSuite.Proofs.Swagger.Contract

/-!
# References of responses

A declared response may be a reference to a shared one, which may be a reference in turn. The
schema of an operation is the one behind the first reference, whether or not that is the end:
`references_followed_once`. A document is refused for the first of its responses whose first
reference leads nowhere or whose schema cannot be compiled. A second reference is not followed, and
the schema behind it not used: `references_not_followed_on`.
-/

namespace ConformanceSuite.Swagger

/-- A response leads over any number of references to one that is none. -/
inductive LeadsTo (d : SwaggerDocument) : Json → Json → Prop
  | here {response : Json} (inline : ¬ IsReference response) : LeadsTo d response response
  | next {response shared final : Json} (follows : Follows d response shared)
      (leads : LeadsTo d shared final) : LeadsTo d response final

variable {d : SwaggerDocument}

/-! ### Chains of references -/

theorem Follows.isReference {response shared : Json} (h : Follows d response shared) :
    IsReference response := by
  obtain ⟨name, hname, -⟩ := h
  exact ⟨_, hname⟩

/-- A reference is one to a single response. -/
theorem Follows.unique {response shared shared' : Json} (h : Follows d response shared)
    (h' : Follows d response shared') : shared = shared' := by
  obtain ⟨name, hname, hshared⟩ := h
  obtain ⟨name', hname', hshared'⟩ := h'
  obtain rfl : name = name' :=
    (String.append_right_inj _).1 (Option.some.inj (hname.symm.trans hname'))
  exact Option.some.inj (hshared.symm.trans hshared')

theorem leadsTo_iff_of_inline {response final : Json} (h : ¬ IsReference response) :
    LeadsTo d response final ↔ final = response := by
  constructor
  · intro hleads
    cases hleads with
    | here => rfl
    | next follows _ => exact absurd follows.isReference h
  · rintro rfl
    exact .here h

theorem leadsTo_iff_of_follows {response shared final : Json} (h : Follows d response shared) :
    LeadsTo d response final ↔ LeadsTo d shared final := by
  constructor
  · intro hleads
    cases hleads with
    | here inline => exact absurd h.isReference inline
    | next follows leads => rwa [h.unique follows]
  · exact .next h

theorem followResponse_eq_none_iff {response : Json} :
    d.followResponse response = none ↔
      IsReference response ∧ ∀ shared, ¬ Follows d response shared := by
  simp only [Option.eq_none_iff_forall_ne_some, ne_eq, followResponse_eq_some_iff, not_or, not_and]
  constructor
  · intro h
    exact ⟨Classical.not_not.1 fun hinline => (h response).1 hinline rfl,
      fun shared => (h shared).2⟩
  · rintro ⟨href, hfollows⟩ shared
    exact ⟨fun hinline => absurd href hinline, hfollows shared⟩

/-! ### The first fault -/

/-- A list breaks at the first of its members that breaks, and as that one does. -/
def FirstBroken {α β : Type} (breaks : α → β → Prop) (l : List α) (fault : β) : Prop :=
  ∃ front x back, l = front ++ x :: back ∧ (∀ y ∈ front, ∀ f, ¬ breaks y f) ∧ breaks x fault

/-- A declared response breaks: its reference leads nowhere, or the schema of what is meant by it
cannot be compiled. -/
inductive ResponseBreaks (d : SwaggerDocument) : String × Json → OperationFault → Prop
  | unresolved {code : String} {response : Json} (reference : IsReference response)
      (nowhere : ∀ shared, ¬ Follows d response shared) :
      ResponseBreaks d (code, response) (.unresolvedResponse code)
  | invalid {code : String} {response meant : Json} {fault : JsonSchema.Fault}
      (means : (¬ IsReference response ∧ meant = response) ∨ Follows d response meant)
      (schema : ResponseSchema.ofJson d.definitions (meant.get? "schema") = .error fault) :
      ResponseBreaks d (code, response) (.invalidSchema fault)

/-- An operation breaks at the first of its responses that breaks. -/
def OperationBreaks (d : SwaggerDocument) (o : DeclaredOperation)
    (fault : String × OperationFault) : Prop :=
  fault.1 = operationKey o.method o.template ∧ FirstBroken (ResponseBreaks d) o.responses fault.2

theorem firstBroken_cons_iff {α β : Type} {breaks : α → β → Prop} {x : α} {rest : List α}
    {fault : β} : FirstBroken breaks (x :: rest) fault ↔
      breaks x fault ∨ ((∀ f, ¬ breaks x f) ∧ FirstBroken breaks rest fault) := by
  constructor
  · rintro ⟨front, y, back, hsplit, hfront, hbreaks⟩
    cases front with
    | nil =>
      obtain ⟨rfl, -⟩ := List.cons.inj hsplit
      exact .inl hbreaks
    | cons z front =>
      obtain ⟨rfl, hrest⟩ := List.cons.inj hsplit
      obtain ⟨hx, hothers⟩ := List.forall_mem_cons.1 hfront
      exact .inr ⟨hx, front, y, back, hrest, hothers, hbreaks⟩
  · rintro (hbreaks | ⟨hx, front, y, back, rfl, hfront, hbreaks⟩)
    · exact ⟨[], x, rest, rfl, fun _ h => absurd h List.not_mem_nil, hbreaks⟩
    · exact ⟨x :: front, y, back, rfl, List.forall_mem_cons.2 ⟨hx, hfront⟩, hbreaks⟩

theorem not_firstBroken_nil {α β : Type} {breaks : α → β → Prop} {fault : β} :
    ¬ FirstBroken breaks [] fault := by
  rintro ⟨front, x, back, hsplit, -⟩
  cases front <;> cases hsplit

theorem responseBreaks_iff {code : String} {response : Json} {fault : OperationFault} :
    ResponseBreaks d (code, response) fault ↔
      (d.followResponse response = none ∧ fault = .unresolvedResponse code) ∨
      ∃ meant f, d.followResponse response = some meant ∧
        ResponseSchema.ofJson d.definitions (meant.get? "schema") = .error f ∧
        fault = .invalidSchema f := by
  constructor
  · intro h
    cases h with
    | unresolved reference nowhere =>
      exact .inl ⟨followResponse_eq_none_iff.2 ⟨reference, nowhere⟩, rfl⟩
    | invalid means schema =>
      exact .inr ⟨_, _, followResponse_eq_some_iff.2 means, schema, rfl⟩
  · rintro (⟨hnone, rfl⟩ | ⟨meant, f, hmeant, hschema, rfl⟩)
    · obtain ⟨hreference, hnowhere⟩ := followResponse_eq_none_iff.1 hnone
      exact .unresolved hreference hnowhere
    · exact .invalid (followResponse_eq_some_iff.1 hmeant) hschema

theorem readResponses_eq_error_iff {declared : List (String × Json)} {fault : OperationFault} :
    readResponses d declared = .error fault ↔ FirstBroken (ResponseBreaks d) declared fault := by
  induction declared with
  | nil => simp [readResponses, not_firstBroken_nil]
  | cons x rest ih =>
    obtain ⟨code, response⟩ := x
    rw [firstBroken_cons_iff, ← ih]
    simp only [readResponses, bind, Except.bind, responseBreaks_iff]
    -- the first response breaks in one of two ways, or else the others decide
    cases hfollow : d.followResponse response with
    | none => simp [eq_comm]
    | some meant =>
      cases hschema : ResponseSchema.ofJson d.definitions (meant.get? "schema") with
      | error f => simp [hschema, Except.mapError, eq_comm]
      | ok schema => cases readResponses d rest <;> simp [hschema, Except.mapError]

theorem ofDeclared_eq_error_iff {o : DeclaredOperation} {fault : OperationFault} :
    Operation.ofDeclared d o = .error fault ↔ FirstBroken (ResponseBreaks d) o.responses fault := by
  rw [← readResponses_eq_error_iff]
  simp only [Operation.ofDeclared, bind, Except.bind, DeclaredOperation.responses]
  cases readResponses d (((o.body.get? "responses").bind Json.object?).getD []) <;> simp

theorem readOperations_eq_error_iff {declared : List DeclaredOperation}
    {fault : String × OperationFault} :
    readOperations d declared = .error fault ↔ FirstBroken (OperationBreaks d) declared fault := by
  induction declared with
  | nil => simp [readOperations, not_firstBroken_nil]
  | cons o rest ih =>
    rw [firstBroken_cons_iff, ← ih]
    simp only [readOperations, bind, Except.bind, OperationBreaks, ← ofDeclared_eq_error_iff]
    cases hfirst : Operation.ofDeclared d o with
    | error f => simp [Except.mapError, Prod.ext_iff, eq_comm]
    | ok operation => cases readOperations d rest <;> simp [Except.mapError]

theorem index_eq_error_iff {fault : String × OperationFault} :
    OperationIndex.ofDocument d = .error fault ↔
      FirstBroken (OperationBreaks d) d.operations fault := by
  rw [← readOperations_eq_error_iff, OperationIndex.ofDocument]
  cases readOperations d d.operations <;> simp [Except.map]

/-! ### What is compiled for a reference -/

/-- The schemas of an operation's references are those of the shared responses that they refer to,
and absent if these have none. -/
def FollowedOnce (d : SwaggerDocument) (declared : DeclaredOperation) (o : Operation) : Prop :=
  ∀ code response, declared.response? code = some response → IsReference response →
    ∃ shared schema, Follows d response shared ∧ o.responses.get? code = some schema ∧
      ResponseSchema.ofJson d.definitions (shared.get? "schema") = .ok schema ∧
      (schema = .absent ↔ shared.get? "schema" = none)

/-- The schemas of an operation's references are those of the responses to which they lead. -/
def FollowedToTheEnd (d : SwaggerDocument) (declared : DeclaredOperation) (o : Operation) : Prop :=
  ∀ code response, declared.response? code = some response → IsReference response →
    ∃ final schema, LeadsTo d response final ∧ o.responses.get? code = some schema ∧
      ResponseSchema.ofJson d.definitions (final.get? "schema") = .ok schema

theorem ofJson_eq_absent_iff {definitions : Json} {declared : Option Json} {schema : ResponseSchema}
    (h : ResponseSchema.ofJson definitions declared = .ok schema) :
    schema = .absent ↔ declared = none := by
  rcases ofJson_cases h with ⟨rfl, rfl⟩ | ⟨json, rfl, -, rfl⟩ | ⟨json, set, rfl, -, -, rfl⟩ <;> simp

theorem Compiled.followedOnce {declared : DeclaredOperation} {o : Operation}
    (h : Compiled d declared o) : FollowedOnce d declared o := by
  intro code response hresponse hreference
  obtain ⟨hnone, -⟩ | ⟨found, schema, hfound, hschema, shared, hshared, hread⟩ :=
    rel_cases (h.responses code)
  · rw [hresponse] at hnone
    cases hnone
  · obtain rfl := Option.some.inj (hresponse.symm.trans hfound)
    rcases followResponse_eq_some_iff.1 hshared with ⟨hinline, -⟩ | hfollows
    · exact absurd hreference hinline
    · exact ⟨shared, schema, hfollows, hschema, hread, ofJson_eq_absent_iff hread⟩

/-- Where no shared response is a reference, the first one that is followed is the end. -/
theorem FollowedOnce.toTheEnd {declared : DeclaredOperation} {o : Operation}
    (h : FollowedOnce d declared o)
    (hinline : ∀ name shared, d.sharedResponse? name = some shared → ¬ IsReference shared) :
    FollowedToTheEnd d declared o := by
  intro code response hresponse hreference
  obtain ⟨shared, schema, hfollows, hschema, hread, -⟩ := h code response hresponse hreference
  obtain ⟨name, -, hshared⟩ := id hfollows
  exact ⟨shared, schema, .next hfollows (.here (hinline name shared hshared)), hschema, hread⟩

/-- The schema that is compiled for a reference is the one behind its first step; this is the end of
its chain if the shared responses of the document are no references. A document is refused exactly
for the first operation with a response whose first step leads nowhere or whose schema cannot be
compiled. -/
theorem references_followed_once (d : SwaggerDocument) :
    (∀ index, OperationIndex.ofDocument d = .ok index →
      List.Forall₂ (FollowedOnce d) d.operations index.operations ∧
      ((∀ name shared, d.sharedResponse? name = some shared → ¬ IsReference shared) →
        List.Forall₂ (FollowedToTheEnd d) d.operations index.operations)) ∧
    ∀ fault, OperationIndex.ofDocument d = .error fault ↔
      FirstBroken (OperationBreaks d) d.operations fault := by
  refine ⟨fun index h => ?_, fun fault => index_eq_error_iff⟩
  have honce := (compiled_of_index h).2.imp fun _ _ => Compiled.followedOnce
  exact ⟨honce, fun hinline => honce.imp fun _ _ hfollowed => hfollowed.toTheEnd hinline⟩

/-- A reference to a shared response. -/
def referenceTo (name : String) : Json := .object [("$ref", .string ("#/responses/" ++ name))]

/-- A document with one operation that answers with `A`, which is `B`, which has a schema. -/
def chained : SwaggerDocument where
  root := .object [
    ("paths", .object [("/a", .object [
      ("get", .object [("responses", .object [("200", referenceTo "A")])])])]),
    ("responses", .object [
      ("A", referenceTo "B"),
      ("B", .object [("schema", .object [("type", .string "string")])])])]

/-- The operation of that document, with no schema. -/
def chainedIndex : OperationIndex where
  basePath := ""
  operations := [⟨"GET", "/a", .ofString "/a", [], .ofList [("200", .absent)]⟩]

theorem ofDocument_chained : OperationIndex.ofDocument chained = .ok chainedIndex := rfl

theorem references_followed_once_chained :
    List.Forall₂ (FollowedOnce chained) chained.operations chainedIndex.operations :=
  ((references_followed_once chained).1 chainedIndex ofDocument_chained).1

/-- The schema at the end of a chain of two is not used. -/
theorem references_not_followed_on :
    ¬ ∀ d index, OperationIndex.ofDocument d = .ok index →
      List.Forall₂ (FollowedToTheEnd d) d.operations index.operations := by
  intro h
  -- the chain ends at `B`, so that its schema would have to be the one compiled
  have hfirst : Follows chained (referenceTo "A") (referenceTo "B") := ⟨"A", rfl, rfl⟩
  have hsecond : Follows chained (referenceTo "B")
      (.object [("schema", .object [("type", .string "string")])]) := ⟨"B", rfl, rfl⟩
  have hend : ¬ IsReference (.object [("schema", .object [("type", .string "string")])]) := by
    rintro ⟨target, htarget⟩
    cases htarget
  obtain ⟨o, ho, hfollowed⟩ := exists_right (h chained chainedIndex ofDocument_chained)
    (List.mem_singleton.2 rfl : _ ∈ chained.operations)
  obtain rfl := List.mem_singleton.1 ho
  obtain ⟨final, schema, hleads, hschema, hread⟩ := hfollowed "200" (referenceTo "A") rfl ⟨_, rfl⟩
  rw [leadsTo_iff_of_follows hfirst, leadsTo_iff_of_follows hsecond,
    leadsTo_iff_of_inline hend] at hleads
  subst hleads
  obtain rfl : .absent = schema := Option.some.inj hschema
  cases (ofJson_eq_absent_iff hread).1 rfl

end ConformanceSuite.Swagger
