import ConformanceSuite.Proofs.Swagger.Contract
import ConformanceSuite.Proofs.Text.Split

/-!
# Prepared requests and declared operations

A test case calls an operation if its endpoint is the template of the operation with the parameters
replaced, maybe with a query, and its base address ends in the base path of the document. Slashes
are dropped at four places on the way: at the end of the declared base path, at the end of the base
address, and at both ends of the template and of the path that is matched against it. They agree,
so the request of the test case is never one without an operation: `prepare_found`.
-/

namespace ConformanceSuite

/-- The base path as a document declares it; the empty text if it declares none. -/
def SwaggerDocument.declaredBase (d : SwaggerDocument) : String := textOf (d.root.get? "basePath")

theorem SwaggerDocument.basePath_toList (d : SwaggerDocument) :
    d.basePath.toList = Url.trimEndSlashes d.declaredBase.toList := by
  rw [basePath, trimSlashes, String.toList_ofList]
  rfl

namespace Swagger

/-! ### Calls of operations -/

/-- A base path is empty, or begins with a slash and has no query and no fragment. -/
def PlainBase (base : List Char) : Prop :=
  base = [] ∨ (base.head? = some '/' ∧ FreeOf ['?', '#'] base)

instance (base : List Char) : Decidable (PlainBase base) := inferInstanceAs (Decidable (_ ∨ _))

theorem PlainBase.freeOf {base : List Char} (h : PlainBase base) : FreeOf ['?', '#'] base := by
  rcases h with rfl | ⟨-, hfree⟩
  · simp [FreeOf]
  · exact hfree

/-- A template begins with a slash and has no query, no fragment and no variable. -/
def PlainTemplate (template : List Char) : Prop :=
  template.head? = some '/' ∧ FreeOf ['?', '#', '$'] template

instance (template : List Char) : Decidable (PlainTemplate template) :=
  inferInstanceAs (Decidable (_ ∧ _))

/-- A part of a path stands for one of a template: a parameter is replaced by something, and
everything else is kept. -/
def Replaces (part actual : List Char) : Prop :=
  if Segment.ofChars part = .parameter then actual ≠ [] ∧ FreeOf ['/', '?', '#', '$'] actual
  else actual = part

instance (part actual : List Char) : Decidable (Replaces part actual) :=
  inferInstanceAs (Decidable (if Segment.ofChars part = .parameter then
    actual ≠ [] ∧ FreeOf ['/', '?', '#', '$'] actual else actual = part))

/-- A path stands for a template part by part. -/
def StandsFor (template path : List Char) : Prop :=
  List.Forall₂ Replaces (template.splitOn '/') (path.splitOn '/')

/-- What follows a path is empty, or a query without variables. -/
def PlainQuery (suffix : List Char) : Prop :=
  suffix = [] ∨ ∃ query, suffix = '?' :: query ∧ '$' ∉ query

/-- A test case calls an operation under a base address: with the method in any case of letters, a
path that stands for the template and maybe a query as endpoint, and an address that ends in the
declared base path and any number of slashes. -/
structure Calls (declaredBase : String) (x : DeclaredOperation) (base : String) (t : TestCase) :
    Prop where
  method : Text.lowerAscii t.input.method = Text.lowerAscii x.method
  base : ∃ authority n, authority ≠ [] ∧ FreeOf ['/', '?', '#'] authority ∧
    base.toList =
      "https://".toList ++ (authority ++ (declaredBase.toList ++ List.replicate n '/'))
  endpoint : ∃ path suffix, StandsFor x.template.toList path ∧ PlainQuery suffix ∧
    t.input.endpoint.toList = path ++ suffix

/-! ### Paths that stand for a template -/

theorem Replaces.eq_nil_iff {part actual : List Char} (h : Replaces part actual) :
    part = [] ↔ actual = [] := by
  unfold Replaces at h
  split at h
  · rename_i hparameter
    have hpart : part ≠ [] := by
      rintro rfl
      simp [Segment.ofChars] at hparameter
    simp [hpart, h.1]
  · rw [h]

theorem Replaces.matches {part actual : List Char} (h : Replaces part actual) :
    (Segment.ofChars part).Matches actual := by
  unfold Replaces at h
  split at h
  · rename_i hparameter
    rw [hparameter]
    exact h.1
  · rename_i hliteral
    have hpart : Segment.ofChars part = .literal part := by
      rw [Segment.ofChars] at hliteral ⊢
      split
      · rename_i hbraces
        simp [hbraces] at hliteral
      · rfl
    rw [hpart]
    exact h

section Paths

variable {template path : List Char}

theorem StandsFor.pathSegments (h : StandsFor template path) :
    List.Forall₂ Replaces (pathSegments template) (pathSegments path) := by
  rw [Swagger.pathSegments, Swagger.pathSegments, Text.splitAll_eq_splitOn,
    Text.splitAll_eq_splitOn]
  exact Text.splitOn_trim_rel (fun _ _ hab => hab.eq_nil_iff) h

/-- A template matches whatever stands for it. -/
theorem StandsFor.matches {text : String} (h : StandsFor text.toList path) :
    (PathTemplate.ofString text).Matches path := by
  rw [PathTemplate.Matches, PathTemplate.ofString, List.forall₂_map_left_iff]
  exact h.pathSegments.imp fun _ _ hab => hab.matches

theorem StandsFor.head? (h : StandsFor template path) (htemplate : template.head? = some '/') :
    path.head? = some '/' := by
  obtain ⟨rest, rfl⟩ := List.head?_eq_some_iff.1 htemplate
  rw [StandsFor, List.splitOn_cons_eq_if_modifyHead, if_pos (beq_self_eq_true '/')] at h
  obtain ⟨first, others, hfirst, hothers, hpath⟩ := List.forall₂_cons_left_iff.1 h
  obtain rfl := hfirst.eq_nil_iff.1 rfl
  have hne : others ≠ [] := by
    rintro rfl
    exact List.splitOn_ne_nil '/' rest (List.forall₂_nil_right_iff.1 hothers)
  obtain ⟨below, rfl⟩ := Text.exists_cons_of_splitOn hpath hne
  rfl

theorem StandsFor.freeOf (h : StandsFor template path)
    (htemplate : FreeOf ['?', '#', '$'] template) : FreeOf ['?', '#', '$'] path := by
  intro c hc hmark
  have hslash : c ≠ '/' := by
    rintro rfl
    simp at hmark
  obtain ⟨actual, hactual, hcactual⟩ := (Text.mem_iff_of_ne hslash).1 hc
  obtain ⟨part, hpart, hreplaces⟩ := exists_left h hactual
  unfold Replaces at hreplaces
  split at hreplaces
  · exact hreplaces.2 c hcactual (List.mem_cons_of_mem _ hmark)
  · rw [hreplaces] at hcactual
    exact htemplate c ((Text.mem_iff_of_ne hslash).2 ⟨part, hpart, hcactual⟩) hmark

end Paths

/-! ### Addresses -/

theorem PlainQuery.endsPath {suffix : List Char} (h : PlainQuery suffix) : Url.EndsPath suffix := by
  rcases h with rfl | ⟨query, rfl, -⟩
  · nofun
  · exact Url.endsPath_of_query rfl

theorem PlainBase.trimEndSlashes {base : List Char} (h : PlainBase base) :
    PlainBase (Url.trimEndSlashes base) := by
  obtain ⟨slashes, hslashes⟩ := Url.trimEndSlashes_prefix base
  rcases h with rfl | ⟨hhead, hfree⟩
  · exact .inl rfl
  · cases htrim : Url.trimEndSlashes base with
    | nil => exact .inl rfl
    | cons c rest =>
      rw [htrim] at hslashes
      subst hslashes
      exact .inr ⟨hhead, fun c hc => hfree c (List.mem_append_left _ hc)⟩

theorem PlainBase.head?_append {base path : List Char} (h : PlainBase base)
    (hpath : path.head? = some '/') : (base ++ path).head? = some '/' := by
  rcases h with rfl | ⟨hhead, -⟩
  · exact hpath
  · rw [List.head?_append, hhead, Option.some_or]

/-- The path of an endpoint under a base address stands behind the base path. -/
theorem path_join {declared : List Char} {base endpoint : String}
    {authority path suffix : List Char} {n : Nat} (hdeclared : PlainBase declared)
    (hne : authority ≠ []) (hauthority : '/' ∉ authority)
    (hbase : base.toList =
      "https://".toList ++ (authority ++ (declared ++ List.replicate n '/')))
    (hpath : path.head? = some '/') (hfree : FreeOf ['?', '#'] path)
    (hsuffix : PlainQuery suffix)
    (hendpoint : endpoint.toList = path ++ suffix) :
    (Url.path (Url.join base endpoint)).toList = Url.trimEndSlashes declared ++ path := by
  have hlast : ("https://".toList ++ authority).getLast? ≠ some '/' := by
    rw [List.getLast?_append_of_ne_nil _ hne]
    exact fun hlast => hauthority (List.mem_of_getLast? hlast)
  have htrim : Url.trimEndSlashes base.toList =
      "https://".toList ++ (authority ++ Url.trimEndSlashes declared) := by
    rw [hbase, ← List.append_assoc, ← List.append_assoc, Url.trimEndSlashes_append_slashes,
      Url.trimEndSlashes_append hlast, List.append_assoc]
  have hnonempty : base.isEmpty = false := by
    rw [Bool.eq_false_iff]
    intro hempty
    rw [String.isEmpty_iff.1 hempty] at hbase
    simp at hbase
  have hhead := hdeclared.trimEndSlashes.head?_append hpath
  have hslash : endpoint.toList.head? = some '/' := by
    rw [hendpoint, List.head?_append, hpath, Option.some_or]
  have haddress : (Url.join base endpoint).toList =
      "https://".toList ++ (authority ++ (Url.trimEndSlashes declared ++ path ++ suffix)) := by
    rw [Url.join_of_slash hnonempty hslash, htrim, hendpoint]
    simp only [List.append_assoc]
  rw [Url.path, String.toList_ofList, haddress, Url.pathChars_https hauthority (by
    rw [List.head?_append, hhead, Option.some_or])]
  exact withoutQuery_append (hdeclared.trimEndSlashes.freeOf.append hfree) hsuffix.endsPath

/-! ### Found operations -/

/-- The only failure of a response to a request that no operation is for. -/
def noOperation (method path : String) : SchemaFailure :=
  ⟨s!"no operation found for {method} {path}"⟩

/-- The letters that messages about the responses to an operation begin with. -/
def firstLetters : List Char := ['m', 'C', 's', 'e', 'r', 'b']

theorem exists_head?_of_mem {message : String} {f : SchemaFailure} (c : Char)
    (h : f ∈ [(⟨message⟩ : SchemaFailure)]) (hc : c ∈ firstLetters)
    (hhead : message.toList.head? = some c) :
    ∃ c ∈ firstLetters, f.message.toList.head? = some c := by
  obtain rfl := List.mem_singleton.1 h
  exact ⟨c, hc, hhead⟩

/-- What an operation finds wrong differs from a missing operation in the first letter already. -/
theorem head?_of_mem_failures {o : Operation} {r : HttpResponse} {f : SchemaFailure}
    (h : f ∈ o.failures r) : ∃ c ∈ firstLetters, f.message.toList.head? = some c := by
  rw [Operation.failures, List.mem_append, List.mem_append] at h
  rcases h with (h | h) | h
  · unfold Operation.contentTypeFailures at h
    split at h
    · cases h
    · split at h <;> split at h
      · cases h
      · refine exists_head?_of_mem 'm' h (by decide) ?_
        simp only [String.toList_append, List.append_assoc]
        rfl
      · cases h
      · refine exists_head?_of_mem 'C' h (by decide) ?_
        simp only [String.toList_append, List.append_assoc]
        rfl
  · unfold Operation.statusFailures at h
    split at h
    · cases h
    · refine exists_head?_of_mem 's' h (by decide) ?_
      simp only [String.toList_append, List.append_assoc]
      rfl
  · unfold Operation.bodyFailures at h
    split at h
    · split at h
      · refine exists_head?_of_mem 'e' h (by decide) ?_
        simp only [String.toList_append]
        rfl
      · split at h
        · refine exists_head?_of_mem 'r' h (by decide) ?_
          simp only [String.toList_append]
          rfl
        · obtain ⟨failure, -, rfl⟩ := List.mem_map.1 h
          refine ⟨'b', by decide, ?_⟩
          simp only [Operation.bodyFailure, String.toList_append, List.append_assoc]
          rfl
    · cases h

theorem noOperation_notMem_failures {o : Operation} {r : HttpResponse} {method path : String} :
    noOperation method path ∉ o.failures r := by
  intro hmem
  obtain ⟨c, hc, hhead⟩ := head?_of_mem_failures hmem
  have hn : (noOperation method path).message.toList.head? = some 'n' := by
    unfold noOperation
    simp only [String.toList_append, List.append_assoc]
    rfl
  rw [hn, Option.some.injEq] at hhead
  subst hhead
  revert hc
  decide

/-- An operation is found for a request: it has the method of a declared one, its template matches,
and it judges every response to the request. -/
structure Found (d : SwaggerDocument) (v : SwaggerContract) (x : DeclaredOperation)
    (request : HttpRequest) (o : Operation) : Prop where
  found : v.index.find request.method request.path = some o
  method : o.method = x.method
  isFor : IsFor d.basePath request.method request.path o.method o.segments
  declared : ∃ y ∈ d.operations, Compiled d y o
  judged : ∀ r : HttpResponse, r.method = request.method → r.path = request.path →
    v.validate r = .ok (o.failures r) ∧ noOperation r.method r.path ∉ o.failures r

section Documents

variable {d : SwaggerDocument} {v : SwaggerContract} {x : DeclaredOperation}

theorem method_mem (hx : x ∈ d.operations) :
    x.method ∈ SwaggerDocument.methods.map Text.upperAscii := by
  obtain ⟨item, -, hx⟩ := List.mem_flatMap.1 hx
  obtain ⟨method, hmethod, hx⟩ := List.mem_filterMap.1 hx
  obtain ⟨body, -, rfl⟩ := Option.map_eq_some_iff.1 hx
  exact List.mem_map_of_mem hmethod

/-- Methods of declared operations are the same if they are the same in small letters. -/
theorem method_eq_of_lowerAscii {y : DeclaredOperation} (hx : x ∈ d.operations)
    (hy : y ∈ d.operations) (h : Text.lowerAscii x.method = Text.lowerAscii y.method) :
    x.method = y.method := by
  have hinjective : ∀ a ∈ SwaggerDocument.methods.map Text.upperAscii,
      ∀ b ∈ SwaggerDocument.methods.map Text.upperAscii,
        Text.lowerAscii a = Text.lowerAscii b → a = b := by decide
  exact hinjective _ (method_mem hx) _ (method_mem hy) h

/-- If a declared operation is for a request, then one of its method is found for it. -/
theorem exists_found (haccepted : SwaggerContract.ofDocument d = .ok v) (hx : x ∈ d.operations)
    {request : HttpRequest}
    (hfor : IsFor d.basePath request.method request.path x.method (.ofString x.template)) :
    ∃ o, Found d v x request o := by
  obtain ⟨hbase, hcompiled⟩ := compiled_of_ofDocument haccepted
  cases hfind : v.index.find request.method request.path with
  | none =>
    obtain ⟨o, ho, hxo⟩ := exists_right hcompiled hx
    rw [← hbase, ← hxo.method, ← hxo.segments] at hfor
    exact absurd hfor (find_eq_none_iff.1 hfind o ho)
  | some o =>
    obtain ⟨ho, hfor'⟩ := of_find hfind
    obtain ⟨y, hy, hyo⟩ := exists_left hcompiled ho
    have hmethod : o.method = x.method := by
      rw [hyo.method]
      exact method_eq_of_lowerAscii hy hx (by rw [← hyo.method, hfor'.1, hfor.1])
    refine ⟨o, hfind, hmethod, hbase ▸ hfor', ⟨y, hy, hyo⟩, ?_⟩
    rintro r hmethod hpath
    refine ⟨?_, noOperation_notMem_failures⟩
    rw [SwaggerContract.validate, SwaggerContract.failures, hmethod, hpath, hfind]

section Calls

variable {base : String} {t : TestCase}

theorem Calls.endpoint_plain (h : Calls d.declaredBase x base t)
    (htemplate : PlainTemplate x.template.toList) :
    Text.isBlank t.input.endpoint = false ∧ '$' ∉ t.input.endpoint.toList := by
  obtain ⟨path, suffix, hstands, hsuffix, hendpoint⟩ := h.endpoint
  have hhead := hstands.head? htemplate.1
  have hfree := hstands.freeOf htemplate.2
  obtain ⟨rest, rfl⟩ := List.head?_eq_some_iff.1 hhead
  constructor
  · rw [Text.isBlank, hendpoint]
    rfl
  · rw [hendpoint, List.mem_append, not_or]
    refine ⟨fun hmem => hfree '$' hmem (by simp), ?_⟩
    rcases hsuffix with rfl | ⟨query, rfl, hquery⟩
    · simp
    · simpa using hquery

/-- The operation that a test case calls is for its request. -/
theorem Calls.isFor (h : Calls d.declaredBase x base t) (hbase : PlainBase d.declaredBase.toList)
    (htemplate : PlainTemplate x.template.toList) {context : Context} {request : HttpRequest}
    (hprepare : t.prepare context base = .ok request) :
    IsFor d.basePath request.method request.path x.method (.ofString x.template) := by
  obtain ⟨hblank, hplain⟩ := h.endpoint_plain htemplate
  obtain ⟨hmethod, hpath⟩ := TestCase.of_prepare hplain hprepare
  obtain ⟨authority, n, hne, hauthority, haddress⟩ := h.base
  obtain ⟨path, suffix, hstands, hsuffix, hendpoint⟩ := h.endpoint
  have hhead := hstands.head? htemplate.1
  have hfree : FreeOf ['?', '#'] path :=
    (hstands.freeOf htemplate.2).mono (by simp)
  have hjoin : request.path.toList = d.basePath.toList ++ path := by
    rw [hpath, d.basePath_toList]
    exact path_join hbase hne (fun hmem => hauthority '/' hmem (by simp)) haddress hhead hfree
      hsuffix hendpoint
  have hquery : OperationIndex.withoutQuery request.path.toList = d.basePath.toList ++ path := by
    have hall : FreeOf ['?', '#'] (d.basePath.toList ++ path) := by
      rw [d.basePath_toList]
      exact hbase.trimEndSlashes.freeOf.append hfree
    rw [hjoin]
    simpa only [List.append_nil] using withoutQuery_append hall Url.endsPath_nil
  have hmatches := hstands.matches
  refine ⟨?_, ?_⟩
  · rw [hmethod, Text.lowerAscii_upperAscii, h.method]
  · rw [hquery]
    by_cases hnil : d.basePath.toList = []
    · exact .inl (by rwa [hnil, List.nil_append])
    · exact .inr ⟨path, belowBase?_append hnil hhead, hmatches⟩

end Calls

end Documents

/-- A test case that calls a declared operation is prepared over any context, unless its headers or
its body cannot be filled in; without dollar signs they always can. For its request an operation of
the same method is found whose template matches, never none. -/
theorem prepare_found {d : SwaggerDocument} {v : SwaggerContract} {x : DeclaredOperation}
    {base : String} {t : TestCase} (haccepted : SwaggerContract.ofDocument d = .ok v)
    (hbase : PlainBase d.declaredBase.toList) (hx : x ∈ d.operations)
    (htemplate : PlainTemplate x.template.toList) (hcall : Calls d.declaredBase x base t)
    (context : Context) :
    ((∃ request, t.prepare context base = .ok request) ↔ t.FillsIn context) ∧
      (t.Plain → ∃ request, t.prepare context base = .ok request) ∧
      ∀ request, t.prepare context base = .ok request → ∃ o, Found d v x request o := by
  obtain ⟨hblank, hplain⟩ := hcall.endpoint_plain htemplate
  have hiff : (∃ request, t.prepare context base = .ok request) ↔ t.FillsIn context :=
    TestCase.exists_prepare_iff hblank hplain
  exact ⟨hiff, fun h => hiff.2 h.fillsIn, fun request hprepare =>
    exists_found haccepted hx (hcall.isFor hbase htemplate hprepare)⟩

/-- An operation with a parameter in its path, which answers with nothing or with a file. -/
def accountDeclared : DeclaredOperation where
  method := "GET"
  template := "/accounts/{AccountId}"
  body := .object [("produces", .array [.string "application/json"]),
    ("responses", .object [("200", .object []),
      ("default", .object [("schema", .object [("type", .string "file")])])])]

/-- A document with the operation below a base path. -/
def accountDocument : SwaggerDocument where
  root := .object [("swagger", .string "2.0"), ("info", .object [("version", .string "v3.1.0")]),
    ("basePath", .string "/open/"),
    ("paths", .object [(accountDeclared.template, .object [("get", accountDeclared.body)])])]

/-- The operation, compiled. -/
def accountOperation : Operation where
  method := "GET"
  template := "/accounts/{AccountId}"
  segments := [.literal "accounts".toList, .parameter]
  produces := ["application/json"]
  responses := .ofList [("200", .absent), ("default", .file)]

theorem ofDocument_accountDocument : SwaggerContract.ofDocument accountDocument =
    .ok ⟨⟨"/open", [accountOperation]⟩⟩ := rfl

/-- A test case that calls the operation. -/
def accountCase : TestCase where
  id := "#1"
  name := "Account"
  input := ⟨"gEt", "/accounts/7?page=2", .empty, none⟩
  expect := ⟨200, true, []⟩
  captures := []

theorem accountCase_calls :
    Calls accountDocument.declaredBase accountDeclared "https://bank.example/open///"
      accountCase where
  method := by decide
  base := ⟨"bank.example".toList, 2, by decide, by decide, by decide⟩
  endpoint := by
    refine ⟨"/accounts/7".toList, "?page=2".toList, ?_,
      .inr ⟨"page=2".toList, by decide, by decide⟩, by decide⟩
    have htemplate : accountDeclared.template.toList.splitOn '/' =
        [[], "accounts".toList, "{AccountId}".toList] := by decide
    have hpath : "/accounts/7".toList.splitOn '/' = [[], "accounts".toList, ['7']] := by decide
    rw [StandsFor, htemplate, hpath]
    refine .cons ?_ (.cons ?_ (.cons ?_ .nil))
    · decide
    · decide
    · decide

/-- The test case is prepared for the path below the base path, and the operation is found. -/
theorem prepare_found_account :
    SwaggerContract.ofDocument accountDocument = .ok ⟨⟨"/open", [accountOperation]⟩⟩ ∧
    PlainBase accountDocument.declaredBase.toList ∧ accountDeclared ∈ accountDocument.operations ∧
    PlainTemplate accountDeclared.template.toList ∧
    Calls accountDocument.declaredBase accountDeclared "https://bank.example/open///" accountCase ∧
    ∃ request, accountCase.prepare .empty "https://bank.example/open///" = .ok request ∧
      request.path = "/open/accounts/7" ∧
      ∃ o, Found accountDocument ⟨⟨"/open", [accountOperation]⟩⟩ accountDeclared request o := by
  have hbase : PlainBase accountDocument.declaredBase.toList := by decide
  have hdeclared : accountDeclared ∈ accountDocument.operations :=
    List.mem_singleton.2 rfl
  have htemplate : PlainTemplate accountDeclared.template.toList := by decide
  obtain ⟨-, hprepares, hfound⟩ :=
    prepare_found ofDocument_accountDocument hbase hdeclared htemplate accountCase_calls .empty
  obtain ⟨request, hrequest⟩ :=
    hprepares ⟨by simp [accountCase, KeyMap.empty], by simp [accountCase]⟩
  have hpath : accountCase.prepare .empty "https://bank.example/open///" =
      .ok ⟨"GET", "https://bank.example/open/accounts/7?page=2", "/open/accounts/7", .empty,
        none⟩ := by
    rw [TestCase.prepare_of_plain (by decide) (by decide)]
    rfl
  refine ⟨ofDocument_accountDocument, hbase, hdeclared, htemplate, accountCase_calls, request,
    hrequest, ?_, hfound request hrequest⟩
  rw [hpath, Except.ok.injEq] at hrequest
  rw [← hrequest]

end Swagger

end ConformanceSuite
