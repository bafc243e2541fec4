import ConformanceSuite.Proofs.Swagger.PreparedRequests

/-!
# The choice of an operation

For a method and a path the operation with the most literal segments is chosen among those whose
template matches, and of several with as many the first one of the document. It is chosen for the
whole path if there is one, and otherwise for what stands behind the base path: `find_optimal`.
The case of the method, slashes at the end of the path, and a query or a fragment behind it make no
difference, also where the path is the base path or nearly so: `find_ignores`.
-/

namespace ConformanceSuite

/-- At a position of a list stands the first of the elements with a property that have the highest
score among them. -/
structure FirstMost {α : Type} (p : α → Prop) (score : α → Nat) (l : List α) (i : Nat) (a : α) :
    Prop where
  getElem? : l[i]? = some a
  holds : p a
  most : ∀ (j : Nat) (b : α), l[j]? = some b → p b → score b ≤ score a
  first : ∀ (j : Nat) (b : α), l[j]? = some b → p b → score b = score a → i ≤ j

namespace FirstMost

variable {α β : Type} {p : α → Prop} {score : α → Nat} {l : List α} {i : Nat} {a b : α}

theorem head (hp : p a) (h : ∀ b ∈ l, p b → score b ≤ score a) :
    FirstMost p score (a :: l) 0 a where
  getElem? := rfl
  holds := hp
  most j b hb hpb := by
    rcases List.mem_cons.1 (List.mem_of_getElem? hb) with rfl | hmem
    · exact le_rfl
    · exact h b hmem hpb
  first j _ _ _ _ := Nat.zero_le j

/-- An element in front only counts if it has the property and no lower score. -/
theorem cons (h : FirstMost p score l i b) (ha : p a → score a < score b) :
    FirstMost p score (a :: l) (i + 1) b where
  getElem? := h.getElem?
  holds := h.holds
  most j c hc hpc := by
    cases j with
    | zero =>
      obtain rfl := Option.some.inj hc
      exact (ha hpc).le
    | succ j => exact h.most j c hc hpc
  first j c hc hpc hscore := by
    cases j with
    | zero =>
      obtain rfl := Option.some.inj hc
      exact absurd hscore (ha hpc).ne
    | succ j => exact Nat.succ_le_succ (h.first j c hc hpc hscore)

theorem unique {j : Nat} (h : FirstMost p score l i a) (h' : FirstMost p score l j b) :
    i = j ∧ a = b := by
  have hscore : score a = score b :=
    le_antisymm (h'.most i a h.getElem? h.holds) (h.most j b h'.getElem? h'.holds)
  obtain rfl : i = j := le_antisymm (h.first j b h'.getElem? h'.holds hscore.symm)
    (h'.first i a h.getElem? h.holds hscore)
  exact ⟨rfl, Option.some.inj (h.getElem?.symm.trans h'.getElem?)⟩

/-- Where two lists agree place by place, the first elements with the highest score stand at the
same place. -/
theorem forall₂ {R : α → β → Prop} {q : β → Prop} {score' : β → Nat} {l' : List β}
    (hl : List.Forall₂ R l l') (hp : ∀ a x, R a x → (p a ↔ q x))
    (hscore : ∀ a x, R a x → score a = score' x) (h : FirstMost p score l i a) :
    ∃ x, R a x ∧ FirstMost q score' l' i x := by
  obtain ⟨x, hx, hax⟩ := Swagger.getElem?_left hl.flip h.getElem?
  refine ⟨x, hax, hx, (hp a x hax).1 h.holds, fun j y hy hqy => ?_, fun j y hy hqy hyx => ?_⟩
  · obtain ⟨b, hb, hby⟩ := Swagger.getElem?_left hl hy
    rw [← hscore a x hax, ← hscore b y hby]
    exact h.most j b hb ((hp b y hby).2 hqy)
  · obtain ⟨b, hb, hby⟩ := Swagger.getElem?_left hl hy
    rw [← hscore a x hax, ← hscore b y hby] at hyx
    exact h.first j b hb ((hp b y hby).2 hqy) hyx

end FirstMost

namespace SwaggerDocument

/-- The paths of a document, in its order. -/
def paths (d : SwaggerDocument) : List (String × Json) :=
  ((d.root.get? "paths").bind Json.object?).getD []

/-- The order of a document: an operation precedes another one if its path stands in front of that
of the other, or on the same path its method stands in front in the fixed order of methods. -/
inductive Precedes (d : SwaggerDocument) : DeclaredOperation → DeclaredOperation → Prop
  | path {p q : String × Json} {x y : DeclaredOperation} (h : [p, q].Sublist d.paths)
      (hx : x ∈ operationsAt p.1 p.2) (hy : y ∈ operationsAt q.1 q.2) : Precedes d x y
  | method {p : String × Json} {m m' : String} {body body' : Json} (hp : p ∈ d.paths)
      (h : [m, m'].Sublist methods) (hbody : p.2.get? m = some body)
      (hbody' : p.2.get? m' = some body') :
      Precedes d ⟨Text.upperAscii m, p.1, body⟩ ⟨Text.upperAscii m', p.1, body'⟩

/-- The operations of a document stand in its order. -/
theorem operations_pairwise (d : SwaggerDocument) : d.operations.Pairwise d.Precedes := by
  change (d.paths.flatMap fun p => operationsAt p.1 p.2).Pairwise d.Precedes
  refine List.pairwise_flatMap.2 ⟨fun p hp => ?_, ?_⟩
  · refine List.pairwise_filterMap.2 (List.pairwise_iff_forall_sublist.2 ?_)
    intro m m' h x hx y hy
    obtain ⟨body, hbody, rfl⟩ := Option.map_eq_some_iff.1 hx
    obtain ⟨body', hbody', rfl⟩ := Option.map_eq_some_iff.1 hy
    exact .method hp h hbody hbody'
  · exact List.pairwise_iff_forall_sublist.2 fun h x hx y hy => .path h hx hy

end SwaggerDocument

namespace DeclaredOperation

/-- The number of literal segments of the template. -/
def literals (x : DeclaredOperation) : Nat := (Swagger.PathTemplate.ofString x.template).literals

end DeclaredOperation

namespace Swagger

open OperationIndex

/-! ### The best match -/

/-- The best of the operations with a property is the first of those with the most literals. -/
theorem firstMost_best {p : Operation → Bool} {os : List Operation} {o : Operation}
    (h : best (os.filter p) = some o) :
    ∃ i, FirstMost (p · = true) (·.segments.literals) os i o := by
  induction os generalizing o with
  | nil => cases h
  | cons a rest ih =>
    by_cases ha : p a = true
    · rw [List.filter_cons_of_pos ha, best] at h
      split at h
      · rename_i hnone
        obtain rfl := Option.some.inj h
        refine ⟨0, .head ha fun b hb hpb => ?_⟩
        exact absurd hpb (List.filter_eq_nil_iff.1 (best_eq_none_iff.1 hnone) b hb)
      · rename_i other hother
        obtain ⟨i, hi⟩ := ih hother
        split at h
        · rename_i hlt
          obtain rfl := Option.some.inj h
          exact ⟨i + 1, hi.cons fun _ => hlt⟩
        · rename_i hle
          obtain rfl := Option.some.inj h
          refine ⟨0, .head ha fun b hb hpb => ?_⟩
          obtain ⟨j, hj⟩ := List.mem_iff_getElem?.1 hb
          exact (hi.most j b hj hpb).trans (not_lt.1 hle)
    · rw [List.filter_cons_of_neg ha] at h
      obtain ⟨i, hi⟩ := ih h
      exact ⟨i + 1, hi.cons fun hpa => absurd hpa ha⟩

theorem firstMost_bestMatch {index : OperationIndex} {method : String} {path : List Char}
    {o : Operation} (h : index.bestMatch method path = some o) :
    ∃ i, FirstMost (fun o : Operation => Text.lowerAscii o.method = Text.lowerAscii method ∧
      o.segments.Matches path) (·.segments.literals) index.operations i o := by
  obtain ⟨i, hi⟩ := firstMost_best h
  simp only [isFor_iff] at hi
  exact ⟨i, hi⟩

/-- The choice of a document for a method and a path: the operation at its place in the index is
compiled from the first of the declared ones with the most literals among those that serve them. -/
def IsChoice (d : SwaggerDocument) (index : OperationIndex) (method : String) (path : List Char)
    (o : Operation) : Prop :=
  ∃ i x, FirstMost (·.Serves method path) DeclaredOperation.literals d.operations i x ∧
    index.operations[i]? = some o ∧ Compiled d x o

section Documents

variable {d : SwaggerDocument} {index : OperationIndex}

/-- The best match is the choice of the document. -/
theorem bestMatch_eq_some_iff (h : OperationIndex.ofDocument d = .ok index) {method : String}
    {path : List Char} {o : Operation} :
    index.bestMatch method path = some o ↔ IsChoice d index method path o := by
  have hcompiled := (compiled_of_index h).2
  have hchoice : ∀ {o}, index.bestMatch method path = some o →
      IsChoice d index method path o := fun {o} ho => by
    obtain ⟨i, hi⟩ := firstMost_bestMatch ho
    obtain ⟨x, hxo, hx⟩ := hi.forall₂ (R := fun o x => Compiled d x o) hcompiled.flip
      (fun o x hxo => by rw [hxo.method, hxo.segments])
      (fun o x hxo => by rw [hxo.segments])
    exact ⟨i, x, hx, hi.getElem?, hxo⟩
  refine ⟨hchoice, fun ⟨i, x, hx, ho, hxo⟩ => ?_⟩
  cases hbest : index.bestMatch method path with
  | none =>
    refine absurd ?_ (bestMatch_eq_none_iff.1 hbest o (List.mem_of_getElem? ho))
    rw [hxo.method, hxo.segments]
    exact hx.holds
  | some other =>
    obtain ⟨j, y, hy, hother, -⟩ := hchoice hbest
    obtain ⟨rfl, -⟩ := hx.unique hy
    rw [← hother, ho]

theorem exists_bestMatch_iff (h : OperationIndex.ofDocument d = .ok index) {method : String}
    {path : List Char} :
    (∃ o, index.bestMatch method path = some o) ↔ ∃ x ∈ d.operations, x.Serves method path := by
  have hcompiled := (compiled_of_index h).2
  constructor
  · rintro ⟨o, ho⟩
    obtain ⟨i, x, hx, -, -⟩ := (bestMatch_eq_some_iff h).1 ho
    exact ⟨x, List.mem_of_getElem? hx.getElem?, hx.holds⟩
  · rintro ⟨x, hmem, hserves⟩
    obtain ⟨o, ho, hxo⟩ := exists_right hcompiled hmem
    refine Option.ne_none_iff_exists'.1 fun hnone => bestMatch_eq_none_iff.1 hnone o ho ?_
    rw [hxo.method, hxo.segments]
    exact hserves

end Documents

/-! ### Below the base path -/

section Paths

variable {base path rest : List Char} {method : String} {index : OperationIndex} {o : Operation}

theorem pathSegments_append_slashes (path : List Char) (n : Nat) :
    pathSegments (path ++ List.replicate n '/') = pathSegments path := by
  have htrim : trimSlashes (path ++ List.replicate n '/') = trimSlashes path := by
    change Url.trimEndSlashes _ = Url.trimEndSlashes _
    rw [List.dropWhile_append]
    split
    · rename_i hempty
      rw [List.isEmpty_iff.1 hempty, List.dropWhile_eq_nil_iff.2 (by simp)]
    · rw [Url.trimEndSlashes_append_slashes]
  rw [pathSegments, pathSegments, htrim]

/-- An operation is looked for under what stands behind the base path. -/
theorem belowBase?_bind_eq_some_iff :
    (belowBase? base path).bind (index.bestMatch method) = some o ↔
      ∃ rest, IsBelow base path rest ∧ index.bestMatch method rest = some o := by
  have hroot : ∀ rest : List Char, index.bestMatch method (if rest = [] then ['/'] else rest) =
      index.bestMatch method rest := fun rest => by
    rw [bestMatch, bestMatch, pathSegments_root]
  simp only [Option.bind_eq_some_iff, belowBase?_eq_some_iff]
  constructor
  · rintro ⟨below, ⟨rest, hbelow, rfl⟩, ho⟩
    exact ⟨rest, hbelow, hroot rest ▸ ho⟩
  · rintro ⟨rest, hbelow, ho⟩
    exact ⟨_, ⟨rest, hbelow, rfl⟩, (hroot rest).trans ho⟩

/-- An operation is found for a path, whatever follows it, if it is the best match for the whole
path or, where there is none, for what stands behind the base path. -/
theorem find_eq_some_iff {text : String} (hpath : FreeOf ['?', '#'] path) {suffix : List Char}
    (hsuffix : Url.EndsPath suffix) (htext : text.toList = path ++ suffix) :
    index.find method text = some o ↔ index.bestMatch method path = some o ∨
      index.bestMatch method path = none ∧
        ∃ rest, IsBelow index.basePath.toList path rest ∧ index.bestMatch method rest = some o := by
  rw [← belowBase?_bind_eq_some_iff, find, htext, withoutQuery_append hpath hsuffix]
  cases index.bestMatch method path <;> simp

/-! ### Slashes at the end -/

theorem IsBelow.append_slashes (h : IsBelow base path rest) (n : Nat) :
    IsBelow base (path ++ List.replicate n '/') (rest ++ List.replicate n '/') where
  nonempty := h.nonempty
  split := by rw [h.split, List.append_assoc]
  below := by
    cases rest with
    | nil =>
      cases n with
      | zero => nofun
      | succ n => simp [List.replicate_succ]
    | cons c rest => exact h.below

/-- Slashes at the end of a path do not bring it below a base path that does not end in one. -/
theorem IsBelow.of_append_slashes {n : Nat} (hbase : base.getLast? ≠ some '/')
    (h : IsBelow base (path ++ List.replicate n '/') rest) :
    ∃ rest', IsBelow base path rest' ∧ rest = rest' ++ List.replicate n '/' := by
  obtain ⟨hne, hsplit, hbelow⟩ := h
  rcases List.append_eq_append_iff.1 hsplit with ⟨slashes, rfl, hslashes⟩ | ⟨rest', rfl, rfl⟩
  -- the base path ends with the path, as otherwise it would end in a slash
  · have hnil : slashes = [] := by
      by_contra hslash
      rw [List.getLast?_append_of_ne_nil _ hslash,
        List.getLast?_eq_getLast_of_ne_nil hslash] at hbase
      have hmem : slashes.getLast hslash ∈ List.replicate n '/' :=
        hslashes ▸ List.mem_append_left rest (List.getLast_mem hslash)
      exact hbase (congrArg some (List.eq_of_mem_replicate hmem))
    subst hnil
    rw [List.append_nil] at hne ⊢
    exact ⟨[], ⟨hne, by rw [List.append_nil], nofun⟩, by simpa using hslashes.symm⟩
  · refine ⟨rest', ⟨hne, rfl, fun c hc => hbelow c ?_⟩, rfl⟩
    rw [List.head?_append, Option.mem_def.1 hc, Option.some_or]
    rfl

/-- The best match does not depend on the case of the method and on slashes at the end. -/
theorem bestMatch_append_slashes {method' : String}
    (hmethod : Text.lowerAscii method' = Text.lowerAscii method) (n : Nat) :
    index.bestMatch method' (path ++ List.replicate n '/') = index.bestMatch method path := by
  have hfor : isFor method' = isFor method := by
    funext segments o
    rw [isFor, isFor, hmethod]
  rw [bestMatch, bestMatch, pathSegments_append_slashes, hfor]

end Paths

theorem trimEndSlashes_getLast? (cs : List Char) : (Url.trimEndSlashes cs).getLast? ≠ some '/' := by
  intro hlast
  have h := List.head?_dropWhile_not (· == '/') cs.reverse
  rw [Url.trimEndSlashes, List.getLast?_reverse] at hlast
  rw [hlast] at h
  cases h

theorem basePath_getLast? {d : SwaggerDocument} {index : OperationIndex}
    (h : OperationIndex.ofDocument d = .ok index) :
    index.basePath.toList.getLast? ≠ some '/' := by
  rw [(compiled_of_index h).1, d.basePath_toList]
  exact trimEndSlashes_getLast? _

/-- The operations stand in the order of the document. There is a best match for a method and a path
exactly if an operation serves them, and it is the choice of the document for them. What is found is
the choice for the whole path, or if no operation serves that, the choice for what stands behind the
base path. -/
theorem find_optimal {d : SwaggerDocument} {index : OperationIndex}
    (h : OperationIndex.ofDocument d = .ok index) (method : String) (path : String) :
    d.operations.Pairwise d.Precedes ∧
      ((∃ o, index.bestMatch method path.toList = some o) ↔
        ∃ x ∈ d.operations, x.Serves method path.toList) ∧
      (∀ o, index.bestMatch method path.toList = some o ↔
        IsChoice d index method path.toList o) ∧
      (FreeOf ['?', '#'] path.toList → ∀ o, index.find method path = some o ↔
        IsChoice d index method path.toList o ∨
        (∀ x ∈ d.operations, ¬ x.Serves method path.toList) ∧
          ∃ rest, IsBelow d.basePath.toList path.toList rest ∧
            IsChoice d index method rest o) := by
  refine ⟨d.operations_pairwise, exists_bestMatch_iff h, fun o => bestMatch_eq_some_iff h,
    fun hpath o => ?_⟩
  have hnone : index.bestMatch method path.toList = none ↔
      ∀ x ∈ d.operations, ¬ x.Serves method path.toList := by
    rw [Option.eq_none_iff_forall_ne_some, ← not_exists, exists_bestMatch_iff h]
    simp
  rw [find_eq_some_iff hpath Url.endsPath_nil (by rw [List.append_nil]), hnone,
    (compiled_of_index h).1]
  simp only [bestMatch_eq_some_iff h]

/-- An operation that answers with nothing. -/
def emptyAnswer : Json := .object [("responses", .object [("200", .object [])])]

/-- A document with an operation at its root, one below whose template has no literal segment, and
two behind it of which each matches the path that the other one names by a parameter. -/
def shelfDocument : SwaggerDocument where
  root := .object [("basePath", .string "/v1/"), ("paths", .object [
    ("/", .object [("get", emptyAnswer)]),
    ("/{Kind}/{Id}", .object [("get", emptyAnswer)]),
    ("/{Kind}/new", .object [("post", emptyAnswer), ("get", emptyAnswer)]),
    ("/books/{Id}", .object [("get", emptyAnswer)])])]

/-- An operation of the document, compiled. -/
def shelfOperation (method template : String) (segments : PathTemplate) : Operation where
  method := method
  template := template
  segments := segments
  produces := []
  responses := .ofList [("200", .absent)]

/-- The index of the document. -/
def shelfIndex : OperationIndex where
  basePath := "/v1"
  operations := [shelfOperation "GET" "/" [.literal []],
    shelfOperation "GET" "/{Kind}/{Id}" [.parameter, .parameter],
    shelfOperation "GET" "/{Kind}/new" [.parameter, .literal "new".toList],
    shelfOperation "POST" "/{Kind}/new" [.parameter, .literal "new".toList],
    shelfOperation "GET" "/books/{Id}" [.literal "books".toList, .parameter]]

theorem ofDocument_shelfDocument : OperationIndex.ofDocument shelfDocument = .ok shelfIndex := rfl

/-- The best match for the whole path does not exist. Of the three templates that match what stands
behind the base path the first one has no literal segment, so that the second one is chosen, which
has one, in front of the third one, which has as many. -/
theorem find_optimal_shelf :
    OperationIndex.ofDocument shelfDocument = .ok shelfIndex ∧
    FreeOf ['?', '#'] "/v1/books/new".toList ∧
    ∃ rest, IsBelow "/v1".toList "/v1/books/new".toList rest ∧
      IsChoice shelfDocument shelfIndex "get" rest
        (shelfOperation "GET" "/{Kind}/new" [.parameter, .literal "new".toList]) := by
  have hfree : FreeOf ['?', '#'] "/v1/books/new".toList := by decide
  obtain ⟨-, -, hbest, hfind⟩ := find_optimal ofDocument_shelfDocument "get" "/v1/books/new"
  refine ⟨ofDocument_shelfDocument, hfree, ?_⟩
  rcases (hfind hfree _).1 rfl with hwhole | ⟨-, hbelow⟩
  · have hnone : shelfIndex.bestMatch "get" "/v1/books/new".toList = none := rfl
    cases hnone.symm.trans ((hbest _).2 hwhole)
  · exact hbelow

/-- Found is the same operation or none for a method in any case of letters, and for a path with
slashes at its end and a query or a fragment behind it. -/
theorem find_ignores {d : SwaggerDocument} {index : OperationIndex}
    (h : OperationIndex.ofDocument d = .ok index) {method method' path suffix : String}
    (hmethod : Text.lowerAscii method' = Text.lowerAscii method)
    (hpath : FreeOf ['?', '#'] path.toList) (n : Nat) (hsuffix : Url.EndsPath suffix.toList) :
    index.find method' (path ++ String.ofList (List.replicate n '/') ++ suffix) =
      index.find method path := by
  have hlonger : FreeOf ['?', '#'] (path.toList ++ List.replicate n '/') :=
    hpath.append fun c hc => by rw [List.eq_of_mem_replicate hc]; decide
  refine Option.ext fun o => ?_
  rw [find_eq_some_iff hlonger hsuffix (by simp), find_eq_some_iff hpath Url.endsPath_nil (by simp),
    bestMatch_append_slashes hmethod]
  have hbelow : (∃ rest, IsBelow index.basePath.toList (path.toList ++ List.replicate n '/') rest ∧
        index.bestMatch method' rest = some o) ↔
      ∃ rest, IsBelow index.basePath.toList path.toList rest ∧
        index.bestMatch method rest = some o := by
    constructor
    · rintro ⟨rest, hrest, ho⟩
      obtain ⟨rest', hrest', rfl⟩ := hrest.of_append_slashes (basePath_getLast? h)
      exact ⟨rest', hrest', bestMatch_append_slashes hmethod n ▸ ho⟩
    · rintro ⟨rest, hrest, ho⟩
      exact ⟨_, hrest.append_slashes n, (bestMatch_append_slashes hmethod n).trans ho⟩
  rw [hbelow]

/-- The operation at the root is found for the base path with slashes and a query behind it. -/
theorem find_ignores_shelf :
    OperationIndex.ofDocument shelfDocument = .ok shelfIndex ∧
    Text.lowerAscii "gEt" = Text.lowerAscii "GET" ∧ FreeOf ['?', '#'] "/v1".toList ∧
    Url.EndsPath "?page=/2#".toList ∧
    shelfIndex.find "gEt" ("/v1" ++ String.ofList (List.replicate 2 '/') ++ "?page=/2#") =
      some (shelfOperation "GET" "/" [.literal []]) := by
  have hmethod : Text.lowerAscii "gEt" = Text.lowerAscii "GET" := by decide
  have hfree : FreeOf ['?', '#'] "/v1".toList := by decide
  have hends : Url.EndsPath "?page=/2#".toList := Url.endsPath_of_query rfl
  have hfind : shelfIndex.find "GET" "/v1" = some (shelfOperation "GET" "/" [.literal []]) := rfl
  exact ⟨ofDocument_shelfDocument, hmethod, hfree, hends,
    (find_ignores ofDocument_shelfDocument hmethod hfree 2 hends).trans hfind⟩

end Swagger

end ConformanceSuite
