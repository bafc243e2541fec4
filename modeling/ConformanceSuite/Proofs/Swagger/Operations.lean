import Mathlib.Data.List.Forall2
import ConformanceSuite.Proofs.KeyMap
import ConformanceSuite.Swagger.Contract

/-!
# Declared and compiled operations

The contract of a document holds one compiled operation for each that the document declares, in the
same order: `compiled_of_ofDocument`. What is found for a request is one of those whose method is
that of the request and whose template matches its path, or what stands behind the base path.
-/

namespace ConformanceSuite

namespace DeclaredOperation

/-- The content types that an operation produces: its own if it names any, or else those of the
document. -/
def produces (d : SwaggerDocument) (o : DeclaredOperation) : List String :=
  match o.body.get? "produces" with
  | some list => SwaggerDocument.textsOf (some list)
  | none => d.produces

/-- The responses that an operation declares, by their codes. -/
def responses (o : DeclaredOperation) : List (String × Json) :=
  ((o.body.get? "responses").bind Json.object?).getD []

/-- The response that an operation declares for a code; of equal codes the last one counts. -/
def response? (o : DeclaredOperation) (code : String) : Option Json :=
  o.responses.reverse.lookup code

end DeclaredOperation

/-- The response that a document shares under a name. -/
def SwaggerDocument.sharedResponse? (d : SwaggerDocument) (name : String) : Option Json :=
  (d.root.get? "responses").bind (·.get? name)

namespace Swagger

/-- A response is a reference. -/
def IsReference (response : Json) : Prop := ∃ target, response.stringAt? "$ref" = some target

/-- A response is a reference to a shared one. -/
def Follows (d : SwaggerDocument) (response shared : Json) : Prop :=
  ∃ name, response.stringAt? "$ref" = some ("#/responses/" ++ name) ∧
    d.sharedResponse? name = some shared

/-- A declared response has a schema, which may be behind one reference. -/
def ReadsAs (d : SwaggerDocument) (declared : Json) (schema : ResponseSchema) : Prop :=
  ∃ response, d.followResponse declared = some response ∧
    ResponseSchema.ofJson d.definitions (response.get? "schema") = .ok schema

/-- An operation is a declared one, compiled. -/
structure Compiled (d : SwaggerDocument) (declared : DeclaredOperation) (o : Operation) : Prop where
  method : o.method = declared.method
  template : o.template = declared.template
  segments : o.segments = .ofString declared.template
  produces : o.produces = declared.produces d
  responses : ∀ code, Option.Rel (ReadsAs d) (declared.response? code) (o.responses.get? code)

/-- A segment of a template matches one of a path. -/
def Segment.Matches : Segment → List Char → Prop
  | .literal text, actual => actual = text
  | .parameter, actual => actual ≠ []

/-- A template matches a path segment by segment. -/
def PathTemplate.Matches (t : PathTemplate) (path : List Char) : Prop :=
  List.Forall₂ Segment.Matches t (pathSegments path)

/-- A method and a template are those of a request: the method in any case of letters, and the
template for the whole path or for what stands behind the base path. -/
def IsFor (base method path : String) (method' : String) (t : PathTemplate) : Prop :=
  Text.lowerAscii method' = Text.lowerAscii method ∧
    (t.Matches (OperationIndex.withoutQuery path.toList) ∨
      ∃ below, OperationIndex.belowBase? base.toList (OperationIndex.withoutQuery path.toList) =
        some below ∧ t.Matches below)

/-! ### References of responses -/

section Responses

variable {d : SwaggerDocument}

theorem toList_pointer (name : String) :
    ("#/responses/" ++ name).toList = SwaggerDocument.responsePointer ++ name.toList :=
  String.toList_append

theorem followResponse_of_pointer {response : Json} {name : String}
    (h : response.stringAt? "$ref" = some ("#/responses/" ++ name)) :
    d.followResponse response = d.sharedResponse? name := by
  have hprefix : SwaggerDocument.responsePointer.isPrefixOf
      ("#/responses/" ++ name).toList = true := by
    rw [toList_pointer]
    exact List.isPrefixOf_iff_prefix.2 (List.prefix_append _ _)
  simp only [SwaggerDocument.followResponse, h, hprefix, if_true]
  rw [toList_pointer, List.drop_left, String.ofList_toList, SwaggerDocument.sharedResponse?]

/-- A response is meant as it stands, or as the shared one that it refers to. -/
theorem followResponse_eq_some_iff {response meant : Json} :
    d.followResponse response = some meant ↔
      (¬ IsReference response ∧ meant = response) ∨ Follows d response meant := by
  constructor
  · intro h
    cases htarget : response.stringAt? "$ref" with
    | none =>
      simp only [SwaggerDocument.followResponse, htarget, Option.some.injEq] at h
      exact .inl ⟨by simp [IsReference, htarget], h.symm⟩
    | some target =>
      simp only [SwaggerDocument.followResponse, htarget] at h
      split_ifs at h with hprefix
      obtain ⟨rest, hrest⟩ := List.isPrefixOf_iff_prefix.1 hprefix
      refine .inr ⟨String.ofList rest, ?_, ?_⟩
      · rw [htarget, Option.some.injEq, ← String.toList_inj, toList_pointer, String.toList_ofList,
          hrest]
      · rwa [← hrest, List.drop_left] at h
  · rintro (⟨hinline, rfl⟩ | ⟨name, hname, hshared⟩)
    · have hnone : meant.stringAt? "$ref" = none :=
        Option.eq_none_iff_forall_ne_some.2 fun target htarget => hinline ⟨target, htarget⟩
      rw [SwaggerDocument.followResponse, hnone]
    · rw [followResponse_of_pointer hname, hshared]

end Responses

/-! ### Compiling -/

theorem lookup_rel {α β : Type} {R : α → β → Prop} {xs : List (String × α)}
    {ys : List (String × β)} (h : List.Forall₂ (fun x y => x.1 = y.1 ∧ R x.2 y.2) xs ys)
    (key : String) : Option.Rel R (xs.lookup key) (ys.lookup key) := by
  induction h with
  | nil => exact .none
  | @cons x y xs ys hxy _ ih =>
    obtain ⟨code, a⟩ := x
    obtain ⟨code', b⟩ := y
    obtain ⟨rfl, hab⟩ := hxy
    by_cases hkey : key = code
    · simpa [List.lookup_cons, hkey] using Option.Rel.some hab
    · have hne : (key == code) = false := by simpa using hkey
      simpa [List.lookup_cons, hne] using ih

theorem readResponses_eq_ok {d : SwaggerDocument} {declared : List (String × Json)}
    {schemas : List (String × ResponseSchema)} (h : readResponses d declared = .ok schemas) :
    List.Forall₂ (fun x y => x.1 = y.1 ∧ ReadsAs d x.2 y.2) declared schemas := by
  induction declared generalizing schemas with
  | nil =>
    obtain rfl : [] = schemas := by simpa [readResponses] using h
    exact .nil
  | cons x rest ih =>
    obtain ⟨code, response⟩ := x
    simp only [readResponses, bind, Except.bind] at h
    cases hfollow : d.followResponse response with
    | none => simp [hfollow] at h
    | some followed =>
      cases hschema : ResponseSchema.ofJson d.definitions (followed.get? "schema") with
      | error fault => simp [hfollow, hschema, Except.mapError] at h
      | ok schema =>
        cases hrest : readResponses d rest with
        | error fault => simp [hfollow, hschema, Except.mapError, hrest] at h
        | ok others =>
          obtain rfl : (code, schema) :: others = schemas := by
            simpa [hfollow, hschema, Except.mapError, hrest] using h
          exact .cons ⟨rfl, followed, hfollow, hschema⟩ (ih hrest)

theorem compiled_of_ofDeclared {d : SwaggerDocument} {declared : DeclaredOperation} {o : Operation}
    (h : Operation.ofDeclared d declared = .ok o) : Compiled d declared o := by
  simp only [Operation.ofDeclared, bind, Except.bind] at h
  cases hresponses : readResponses d declared.responses with
  | error fault =>
    rw [DeclaredOperation.responses] at hresponses
    simp [hresponses] at h
  | ok schemas =>
    have hrel := readResponses_eq_ok hresponses
    rw [DeclaredOperation.responses] at hresponses
    simp only [hresponses, Except.ok.injEq] at h
    subst h
    refine ⟨rfl, rfl, rfl, rfl, fun code => ?_⟩
    rw [KeyMap.get?_ofList]
    exact lookup_rel (List.rel_reverse hrel) code

theorem readOperations_eq_ok {d : SwaggerDocument} {declared : List DeclaredOperation}
    {os : List Operation} (h : readOperations d declared = .ok os) :
    List.Forall₂ (Compiled d) declared os := by
  induction declared generalizing os with
  | nil =>
    obtain rfl : [] = os := by simpa [readOperations] using h
    exact .nil
  | cons first rest ih =>
    simp only [readOperations, bind, Except.bind] at h
    cases hfirst : Operation.ofDeclared d first with
    | error fault => simp [hfirst, Except.mapError] at h
    | ok o =>
      cases hrest : readOperations d rest with
      | error fault => simp [hfirst, Except.mapError, hrest] at h
      | ok others =>
        obtain rfl : o :: others = os := by
          simpa [hfirst, Except.mapError, hrest] using h
        exact .cons (compiled_of_ofDeclared hfirst) (ih hrest)

/-- The index of a document has its operations, compiled, and its base path. -/
theorem compiled_of_index {d : SwaggerDocument} {index : OperationIndex}
    (h : OperationIndex.ofDocument d = .ok index) :
    index.basePath = d.basePath ∧ List.Forall₂ (Compiled d) d.operations index.operations := by
  cases hoperations : readOperations d d.operations with
  | error fault => simp [OperationIndex.ofDocument, hoperations, Except.map] at h
  | ok os =>
    obtain rfl : (⟨d.basePath, os⟩ : OperationIndex) = index := by
      simpa [OperationIndex.ofDocument, hoperations, Except.map] using h
    exact ⟨rfl, readOperations_eq_ok hoperations⟩

/-- The contract of a document has its operations, compiled, and its base path. -/
theorem compiled_of_ofDocument {d : SwaggerDocument} {v : SwaggerContract}
    (h : SwaggerContract.ofDocument d = .ok v) :
    v.index.basePath = d.basePath ∧ List.Forall₂ (Compiled d) d.operations v.index.operations := by
  simp only [SwaggerContract.ofDocument] at h
  split at h
  · cases h
  · split at h
    · cases h
    · cases hindex : OperationIndex.ofDocument d with
      | error fault => simp [hindex] at h
      | ok index =>
        obtain rfl : (⟨index⟩ : SwaggerContract) = v := by simpa [hindex] using h
        exact compiled_of_index hindex

theorem getElem?_left {α β : Type} {R : α → β → Prop} {xs : List α} {ys : List β}
    (h : List.Forall₂ R xs ys) {i : Nat} {y : β} (hy : ys[i]? = some y) :
    ∃ x, xs[i]? = some x ∧ R x y := by
  induction h generalizing i with
  | nil => cases hy
  | cons hfirst _ ih =>
    cases i with
    | zero =>
      obtain rfl := Option.some.inj hy
      exact ⟨_, rfl, hfirst⟩
    | succ i => exact ih hy

theorem exists_left {α β : Type} {R : α → β → Prop} {xs : List α} {ys : List β}
    (h : List.Forall₂ R xs ys) {y : β} (hy : y ∈ ys) : ∃ x ∈ xs, R x y := by
  obtain ⟨i, hi⟩ := List.mem_iff_getElem?.1 hy
  obtain ⟨x, hx, hxy⟩ := getElem?_left h hi
  exact ⟨x, List.mem_of_getElem? hx, hxy⟩

theorem exists_right {α β : Type} {R : α → β → Prop} {xs : List α} {ys : List β}
    (h : List.Forall₂ R xs ys) {x : α} (hx : x ∈ xs) : ∃ y ∈ ys, R x y :=
  exists_left h.flip hx

/-! ### Finding -/

theorem Segment.accepts_iff {s : Segment} {actual : List Char} :
    s.accepts actual = true ↔ s.Matches actual := by
  cases s with
  | literal text =>
    rw [accepts, Matches, beq_iff_eq]
    exact eq_comm
  | parameter => simp [accepts, Matches]

theorem PathTemplate.accepts_iff {t : PathTemplate} {segments : List (List Char)} :
    t.accepts segments = true ↔ List.Forall₂ Segment.Matches t segments := by
  induction t generalizing segments with
  | nil => cases segments <;> simp [accepts]
  | cons s rest ih =>
    cases segments with
    | nil => simp [accepts]
    | cons a as => simp [accepts, Segment.accepts_iff, ih]

theorem isFor_iff {method : String} {path : List Char} {o : Operation} :
    OperationIndex.isFor method (pathSegments path) o = true ↔
      Text.lowerAscii o.method = Text.lowerAscii method ∧ o.segments.Matches path := by
  simp [OperationIndex.isFor, PathTemplate.accepts_iff, PathTemplate.Matches]

theorem best_eq_none_iff {os : List Operation} : OperationIndex.best os = none ↔ os = [] := by
  cases os with
  | nil => simp [OperationIndex.best]
  | cons o rest =>
    simp only [OperationIndex.best]
    split
    · simp
    · split <;> simp

theorem mem_of_best {os : List Operation} {o : Operation} (h : OperationIndex.best os = some o) :
    o ∈ os := by
  induction os with
  | nil => cases h
  | cons first rest ih =>
    simp only [OperationIndex.best] at h
    split at h
    · cases h
      exact List.mem_cons_self
    · rename_i other hother
      split at h
      · cases h
        exact List.mem_cons_of_mem _ (ih hother)
      · cases h
        exact List.mem_cons_self

section Index

variable {index : OperationIndex} {method path : String} {o : Operation}

theorem bestMatch_eq_none_iff {segments : List Char} :
    index.bestMatch method segments = none ↔ ∀ o ∈ index.operations,
      ¬ (Text.lowerAscii o.method = Text.lowerAscii method ∧ o.segments.Matches segments) := by
  rw [OperationIndex.bestMatch, best_eq_none_iff, List.filter_eq_nil_iff]
  simp only [isFor_iff]

theorem of_bestMatch {segments : List Char} (h : index.bestMatch method segments = some o) :
    o ∈ index.operations ∧ Text.lowerAscii o.method = Text.lowerAscii method ∧
      o.segments.Matches segments := by
  obtain ⟨hmem, hfor⟩ := List.mem_filter.1 (mem_of_best h)
  exact ⟨hmem, isFor_iff.1 hfor⟩

/-- What is found for a request is an operation that is for it. -/
theorem of_find (h : index.find method path = some o) :
    o ∈ index.operations ∧ IsFor index.basePath method path o.method o.segments := by
  simp only [OperationIndex.find] at h
  split at h
  · rename_i other hother
    obtain rfl := Option.some.inj h
    obtain ⟨hmem, hmethod, hmatches⟩ := of_bestMatch hother
    exact ⟨hmem, hmethod, .inl hmatches⟩
  · obtain ⟨below, hbelow, hbest⟩ := Option.bind_eq_some_iff.1 h
    obtain ⟨hmem, hmethod, hmatches⟩ := of_bestMatch hbest
    exact ⟨hmem, hmethod, .inr ⟨below, hbelow, hmatches⟩⟩

/-- Nothing is found for a request exactly if no operation is for it. -/
theorem find_eq_none_iff : index.find method path = none ↔
    ∀ o ∈ index.operations, ¬ IsFor index.basePath method path o.method o.segments := by
  constructor
  · intro h o hmem hfor
    simp only [OperationIndex.find] at h
    split at h
    · cases h
    · rename_i hnone
      rcases hfor with ⟨hmethod, hmatches | ⟨below, hbelow, hmatches⟩⟩
      · exact bestMatch_eq_none_iff.1 hnone o hmem ⟨hmethod, hmatches⟩
      · rw [hbelow, Option.bind_some] at h
        exact bestMatch_eq_none_iff.1 h o hmem ⟨hmethod, hmatches⟩
  · intro h
    cases hfind : index.find method path with
    | none => rfl
    | some o =>
      obtain ⟨hmem, hfor⟩ := of_find hfind
      exact absurd hfor (h o hmem)

end Index

end Swagger

end ConformanceSuite
