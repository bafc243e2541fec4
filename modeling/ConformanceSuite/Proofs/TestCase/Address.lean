import Mathlib.Data.List.Infix
import ConformanceSuite.Proofs.TestCase.Request
import ConformanceSuite.Proofs.TestCase.Template

/-!
# Paths of addresses

The path of an address is looked for in three steps: the first mark of an authority, the first slash
behind it, and the first query or fragment from there. The first two do not stop at a query or a
fragment. So the path is read whatever query or fragment follows it, save in two cases: an address
without an authority whose query or fragment has a mark in it, and one without a path whose query or
fragment has a slash in it. What is read instead is a part of that query or fragment:
`path_of_parts`.
-/

namespace ConformanceSuite

namespace Url

/-- What stands between a scheme and an authority. -/
def authorityMark : List Char := [':', '/', '/']

/-- Characters in front of which a path ends: none, or a query or a fragment. -/
def EndsPath (suffix : List Char) : Prop := ∀ c ∈ suffix.head?, c = '?' ∨ c = '#'

/-- From the first slash up to a query or a fragment. -/
def fromSlash (cs : List Char) : List Char :=
  match cs.dropWhile (· != '/') with
  | [] => ['/']
  | path => path.takeWhile fun c => c != '?' && c != '#'

theorem pathChars_eq (url : List Char) :
    pathChars url = fromSlash ((after? authorityMark url).getD url) := rfl

section Chars

variable {pattern front path suffix cs rest : List Char}

theorem endsPath_nil : EndsPath [] := nofun

theorem EndsPath.append (h : EndsPath suffix) (hrest : EndsPath rest) :
    EndsPath (suffix ++ rest) := by
  cases suffix with
  | nil => exact hrest
  | cons c suffix => exact h

theorem endsPath_of_query (h : suffix.head? = some '?') : EndsPath suffix := fun c hc => by
  rw [h] at hc
  exact .inl (Option.some.inj hc).symm

/-- A path without a query and a fragment is taken up to where it ends. -/
theorem takeWhile_append_of_endsPath (hquery : '?' ∉ path) (hfragment : '#' ∉ path)
    (hsuffix : EndsPath suffix) :
    (path ++ suffix).takeWhile (fun c => c != '?' && c != '#') = path := by
  have hkeep : ∀ c ∈ path, (c != '?' && c != '#') = true := fun c hc => by
    simpa using ⟨ne_of_mem_of_not_mem hc hquery, ne_of_mem_of_not_mem hc hfragment⟩
  have hend : suffix.takeWhile (fun c => c != '?' && c != '#') = [] := by
    cases suffix with
    | nil => rfl
    | cons c suffix =>
      rcases hsuffix c rfl with rfl | rfl <;> rfl
  rw [List.takeWhile_append_of_pos hkeep, hend, List.append_nil]

/-! ### The first slash -/

theorem fromSlash_append (h : '/' ∉ front) : fromSlash (front ++ cs) = fromSlash cs := by
  rw [fromSlash, fromSlash, List.dropWhile_append_of_pos fun c hc => by
    simpa using ne_of_mem_of_not_mem hc h]

theorem fromSlash_of_not_mem (h : '/' ∉ cs) : fromSlash cs = ['/'] := by
  rw [← List.append_nil cs, fromSlash_append h]
  rfl

theorem fromSlash_of_head? (h : cs.head? = some '/') :
    fromSlash cs = cs.takeWhile fun c => c != '?' && c != '#' := by
  obtain ⟨rest, rfl⟩ := List.head?_eq_some_iff.1 h
  rw [fromSlash, List.dropWhile_cons_of_neg (by simp)]

/-! ### The first mark -/

theorem after?_eq_none_iff (hpattern : pattern ≠ []) :
    after? pattern cs = none ↔ ¬ pattern <:+: cs := by
  induction cs with
  | nil => simp [after?, hpattern]
  | cons c rest ih =>
    rw [List.infix_cons_iff, not_or, after?, ← ih, ← List.isPrefixOf_iff_prefix]
    by_cases hstarts : pattern.isPrefixOf (c :: rest) = true
    · simp [hstarts]
    · simp [hstarts]

/-- What a path does not go on with plays no part in what the path begins with. -/
theorem prefix_of_endsPath (hquery : '?' ∉ pattern) (hfragment : '#' ∉ pattern)
    (hsuffix : EndsPath suffix) (h : pattern <+: path ++ suffix) : pattern <+: path := by
  rcases List.prefix_or_prefix_of_prefix h (List.prefix_append path suffix) with hprefix | hprefix
  · exact hprefix
  · obtain ⟨tail, rfl⟩ := hprefix
    rw [List.prefix_append_right_inj] at h
    cases tail with
    | nil => simp
    | cons c tail =>
      obtain ⟨rest, rfl⟩ := h
      rcases hsuffix c rfl with rfl | rfl <;> simp at hquery hfragment

/-- A path without a mark is skipped in the search for one. -/
theorem after?_append (hpath : ¬ authorityMark <:+: path) (hsuffix : EndsPath suffix) :
    after? authorityMark (path ++ suffix) = after? authorityMark suffix := by
  induction path with
  | nil => rfl
  | cons c path ih =>
    rw [List.infix_cons_iff, not_or] at hpath
    have hprefix : ¬ authorityMark <+: c :: (path ++ suffix) := fun h =>
      hpath.1 (prefix_of_endsPath (by decide) (by decide) hsuffix h)
    rw [List.cons_append, after?, if_neg (by simpa using hprefix), ih hpath.2]

/-- The first mark stands behind the scheme. -/
theorem after?_mark (h : ':' ∉ front) :
    after? authorityMark (front ++ (authorityMark ++ cs)) = some cs := by
  induction front with
  | nil => rfl
  | cons c front ih =>
    rw [List.mem_cons, not_or] at h
    have hprefix : ¬ authorityMark <+: c :: (front ++ (authorityMark ++ cs)) := fun hprefix =>
      h.1 (List.cons_prefix_cons.1 hprefix).1
    rw [List.cons_append, after?, if_neg (by simpa using hprefix), ih h.2]

/-- The path of an address stands between its authority and its query or fragment. -/
theorem pathChars_https (hauthority : '/' ∉ front) (hpath : path.head? = some '/') :
    pathChars ("https://".toList ++ (front ++ path)) =
      path.takeWhile fun c => c != '?' && c != '#' := by
  have hmark : "https://".toList ++ (front ++ path) =
      "https".toList ++ (authorityMark ++ (front ++ path)) := rfl
  rw [hmark, pathChars_eq, after?_mark (by decide), Option.getD_some, fromSlash_append hauthority,
    fromSlash_of_head? hpath]

end Chars

/-- An origin is nothing, or a scheme of letters and an authority. -/
inductive IsOrigin : List Char → Prop
  | none : IsOrigin []
  | authority {scheme authority : List Char} (hscheme : ∀ c ∈ scheme, c.isAlpha = true)
      (hauthority : ∀ c ∈ authority, c ≠ '/' ∧ c ≠ '?' ∧ c ≠ '#') :
      IsOrigin (scheme ++ (authorityMark ++ authority))

/-- An address is made of an origin, a path behind it, and a query or a fragment, of which the path
may only be missing behind an authority. -/
structure Parts (origin path suffix : List Char) : Prop where
  isOrigin : IsOrigin origin
  starts : path.head? = some '/' ∨ path = [] ∧ origin ≠ []
  noQuery : '?' ∉ path
  noFragment : '#' ∉ path
  noMark : ¬ authorityMark <:+: path
  ends : EndsPath suffix

/-- A path, or the root in the place of a missing one. -/
def orRoot (path : List Char) : List Char := if path = [] then ['/'] else path

section Parts

variable {origin path suffix : List Char}

/-- Behind an authority the first slash is looked for in the path and what follows it. -/
theorem Parts.pathChars_of_authority (h : Parts origin path suffix) (horigin : origin ≠ []) :
    pathChars (origin ++ (path ++ suffix)) = fromSlash (path ++ suffix) := by
  cases h.isOrigin with
  | none => exact absurd rfl horigin
  | @authority scheme authority hscheme hauthority =>
    have hcolon : ':' ∉ scheme := fun hmem => absurd (hscheme ':' hmem) (by decide)
    have hslash : '/' ∉ authority := fun hmem => (hauthority '/' hmem).1 rfl
    rw [pathChars_eq, List.append_assoc, List.append_assoc, after?_mark hcolon, Option.getD_some,
      fromSlash_append hslash]

theorem Parts.fromSlash_path (h : Parts origin path suffix) (hpath : path ≠ []) :
    fromSlash (path ++ suffix) = path := by
  have hhead : path.head? = some '/' := h.starts.resolve_right fun hmissing => hpath hmissing.1
  rw [fromSlash_of_head? (by rw [List.head?_append, hhead, Option.some_or]),
    takeWhile_append_of_endsPath h.noQuery h.noFragment h.ends]

/-- The path of an address is read, save from one without an origin whose query or fragment has a
mark, and from one without a path whose query or fragment has a slash. -/
theorem Parts.pathChars_eq_path (h : Parts origin path suffix)
    (hmark : origin = [] → ¬ authorityMark <:+: suffix) (hslash : path = [] → '/' ∉ suffix) :
    pathChars (origin ++ (path ++ suffix)) = orRoot path := by
  have hread : pathChars (origin ++ (path ++ suffix)) = fromSlash (path ++ suffix) := by
    by_cases horigin : origin = []
    · subst horigin
      rw [List.nil_append, pathChars_eq, after?_append h.noMark h.ends,
        (after?_eq_none_iff (by decide)).2 (hmark rfl), Option.getD_none]
    · exact h.pathChars_of_authority horigin
  rw [hread, orRoot]
  split
  · rename_i hpath
    rw [hpath, List.nil_append, fromSlash_of_not_mem (hslash hpath)]
  · rename_i hpath
    exact h.fromSlash_path hpath

/-- Without an origin, what follows the first mark of a query or fragment is read in its place. -/
theorem Parts.pathChars_eq_suffix (h : Parts origin path suffix) (horigin : origin = [])
    (hmark : authorityMark <:+: suffix) :
    pathChars (origin ++ (path ++ suffix)) = pathChars suffix := by
  obtain ⟨rest, hrest⟩ := Option.ne_none_iff_exists'.1 fun hnone =>
    (after?_eq_none_iff (by decide)).1 hnone hmark
  rw [horigin, List.nil_append, pathChars_eq, pathChars_eq, after?_append h.noMark h.ends, hrest,
    Option.getD_some, Option.getD_some]

/-- Without a path, what begins with the first slash of a query or fragment is read in its place. -/
theorem Parts.pathChars_eq_fromSlash (h : Parts origin path suffix) (hpath : path = []) :
    pathChars (origin ++ (path ++ suffix)) = fromSlash suffix := by
  have horigin : origin ≠ [] := by
    rcases h.starts with hhead | ⟨-, horigin⟩
    · rw [hpath] at hhead
      cases hhead
    · exact horigin
  rw [h.pathChars_of_authority horigin, hpath, List.nil_append]

end Parts

/-! ### Queries at the end of an endpoint -/

theorem join_append {base endpoint added : String} (hadded : added.toList.head? = some '?') :
    (join base (endpoint ++ added)).toList = (join base endpoint).toList ++ added.toList := by
  obtain ⟨rest, hrest⟩ := List.head?_eq_some_iff.1 hadded
  have hends := endsPath_of_query hadded
  have hprefix : ∀ pattern : List Char, '?' ∉ pattern → '#' ∉ pattern →
      pattern.isPrefixOf (endpoint ++ added).toList = pattern.isPrefixOf endpoint.toList := by
    intro pattern hquery hfragment
    rw [Bool.eq_iff_iff, List.isPrefixOf_iff_prefix, List.isPrefixOf_iff_prefix,
      String.toList_append]
    exact ⟨prefix_of_endsPath hquery hfragment hends, fun h => h.trans (List.prefix_append _ _)⟩
  have habsolute : isAbsolute (endpoint ++ added) = isAbsolute endpoint := by
    rw [isAbsolute, isAbsolute, hprefix _ (by decide) (by decide),
      hprefix _ (by decide) (by decide)]
  rw [join, join, habsolute]
  split
  · rw [String.toList_append]
  · rw [String.toList_append]
    cases endpoint.toList with
    | nil => simp [hrest]
    | cons c cs =>
      by_cases hc : c = '/'
      · subst hc
        simp
      · simp [hc]

end Url

namespace TestCase

open Template

variable {t : TestCase} {context : Context} {base : String}

/-- A template with a query at its end is filled in as before, with the query at the end. -/
theorem fillIn_append {template query text : String} (hquery : query.toList.head? = some '?')
    (h : fillIn context (template ++ query) = .ok text) :
    ∃ front added, fillIn context template = .ok front ∧ added.toList.head? = some '?' ∧
      text = front ++ added := by
  obtain ⟨rest, hrest⟩ := List.head?_eq_some_iff.1 hquery
  have hends : EndsName query.toList := fun c hc => by
    rw [hquery] at hc
    obtain rfl := Option.some.inj hc
    decide
  have hliteral : pieces query.toList = .literal '?' :: pieces rest := by
    rw [hrest, pieces, if_neg (by simp)]
  rw [fillIn, instantiate, String.toList_append, pieces_append hends, fill_append, hliteral] at h
  cases hfront : fill context (pieces template.toList) with
  | error e => simp [hfront, bind, Except.bind, Except.map, Except.mapError] at h
  | ok front =>
    cases hback : fill context (pieces rest) with
    | error e => simp [hfront, hback, fill, bind, Except.bind, Except.map, Except.mapError] at h
    | ok back =>
      refine ⟨String.ofList front, String.ofList ('?' :: back), ?_, by simp, ?_⟩
      · rw [fillIn, instantiate, hfront]
        rfl
      · simp only [hfront, hback, fill, bind, Except.bind, Except.map, Except.mapError,
          Except.ok.injEq] at h
        rw [← h, String.ofList_append]

/-- A test case with a query at the end of its endpoint. -/
def withQuery (t : TestCase) (query : String) : TestCase :=
  { t with input := { t.input with endpoint := t.input.endpoint ++ query } }

/-- A query at the end of an endpoint comes to stand at the end of the address. -/
theorem url_withQuery {query : String} (hquery : query.toList.head? = some '?')
    {request request' : HttpRequest} (hrequest : t.prepare context base = .ok request)
    (hrequest' : (t.withQuery query).prepare context base = .ok request') :
    request.path = Url.path request.url ∧ request'.path = Url.path request'.url ∧
      ∃ added : List Char, added.head? = some '?' ∧
        request'.url.toList = request.url.toList ++ added := by
  obtain ⟨endpoint, headers, body, hendpoint, -, -, rfl⟩ := of_prepare_ok hrequest
  obtain ⟨endpoint', headers', body', hendpoint', -, -, rfl⟩ := of_prepare_ok hrequest'
  obtain ⟨front, added, hfront, hadded, rfl⟩ := fillIn_append hquery hendpoint'
  obtain rfl := Except.ok.inj (hendpoint.symm.trans hfront)
  exact ⟨rfl, rfl, added.toList, hadded, Url.join_append hadded⟩

end TestCase

namespace Url

variable {origin path suffix : List Char}

/-- From an address of three parts its path is read, or the root in the place of a missing one,
unless a query or fragment has a mark where no authority is in front of it, or a slash where no path
is. Then the path of the query or fragment is read, or what begins with its first slash. A query at
the end of an endpoint comes to stand at the end of the address, and the same holds for it. -/
theorem path_of_parts (h : Parts origin path suffix) {url : String}
    (hurl : url.toList = origin ++ (path ++ suffix)) :
    ((origin = [] → ¬ authorityMark <:+: suffix) → (path = [] → '/' ∉ suffix) →
        Url.path url = String.ofList (orRoot path)) ∧
      (origin = [] → authorityMark <:+: suffix →
        Url.path url = Url.path (String.ofList suffix)) ∧
      (path = [] → Url.path url = String.ofList (fromSlash suffix)) ∧
      ∀ (t : TestCase) (query base : String) (context : Context) (request request' : HttpRequest),
        query.toList.head? = some '?' → t.prepare context base = .ok request →
        (t.withQuery query).prepare context base = .ok request' → request.url = url →
        ∃ added, request'.url.toList = origin ++ (path ++ (suffix ++ added)) ∧
          Parts origin path (suffix ++ added) ∧
          ((origin = [] → ¬ authorityMark <:+: suffix ++ added) →
            (path = [] → '/' ∉ suffix ++ added) → request'.path = request.path) := by
  refine ⟨fun hmark hslash => ?_, fun horigin hmark => ?_, fun hpath => ?_, ?_⟩
  · rw [Url.path, hurl, h.pathChars_eq_path hmark hslash]
  · rw [Url.path, Url.path, hurl, h.pathChars_eq_suffix horigin hmark, String.toList_ofList]
  · rw [Url.path, hurl, h.pathChars_eq_fromSlash hpath]
  · rintro t query base context request request' hquery hrequest hrequest' rfl
    obtain ⟨hpath, hpath', added, hadded, haddress⟩ :=
      TestCase.url_withQuery hquery hrequest hrequest'
    have hparts : Parts origin path (suffix ++ added) :=
      { h with ends := h.ends.append (endsPath_of_query hadded) }
    have hurl' : request'.url.toList = origin ++ (path ++ (suffix ++ added)) := by
      rw [haddress, hurl]
      simp only [List.append_assoc]
    refine ⟨added, hurl', hparts, fun hmark hslash => ?_⟩
    -- the shorter query or fragment has no more marks and slashes than the longer one
    have hmark' : origin = [] → ¬ authorityMark <:+: suffix := fun horigin hmarked =>
      hmark horigin (hmarked.trans (List.prefix_append suffix added).isInfix)
    have hslash' : path = [] → '/' ∉ suffix := fun hmissing hmem =>
      hslash hmissing (List.mem_append_left added hmem)
    rw [hpath, hpath', Url.path, Url.path, hurl, hurl', h.pathChars_eq_path hmark' hslash',
      hparts.pathChars_eq_path hmark hslash]

/-- The parts of an address with another address in its query. -/
theorem parts_nested : Parts "https://bank.example".toList "/accounts".toList
    "?next=https://other.example/payments".toList where
  isOrigin := @IsOrigin.authority "https".toList "bank.example".toList (by simp) (by simp)
  starts := .inl rfl
  noQuery := by decide
  noFragment := by decide
  noMark := by decide
  ends := by simp [EndsPath]

/-- Behind an authority and a path, no query changes what is read. -/
theorem path_of_parts_nested :
    Parts "https://bank.example".toList "/accounts".toList
      "?next=https://other.example/payments".toList ∧
    Url.path "https://bank.example/accounts?next=https://other.example/payments" = "/accounts" :=
  ⟨parts_nested, (path_of_parts parts_nested rfl).1 (by decide) (by decide)⟩

/-- It is not so that the path of an address is read whatever its query: without an authority in
front, it is taken from an address in the query. -/
theorem path_not_of_parts : ¬ ∀ (origin path suffix : List Char) (url : String),
    Parts origin path suffix → url.toList = origin ++ (path ++ suffix) →
    Url.path url = String.ofList (orRoot path) := by
  intro h
  have hread := h [] "/accounts".toList "?next=https://other.example/payments".toList
    "/accounts?next=https://other.example/payments"
    { parts_nested with isOrigin := .none, starts := .inl rfl } rfl
  exact absurd hread (by decide)

end Url

end ConformanceSuite
