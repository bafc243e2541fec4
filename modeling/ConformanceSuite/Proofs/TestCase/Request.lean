import Mathlib.Data.List.Basic
import ConformanceSuite.TestCase.Request

/-!
# Requests of plain endpoints

A template without dollar signs mentions no variable and is filled in by itself over any context,
a poisoned one too. So preparing a test case whose endpoint is such a template can only fail at its
headers and its body: `prepare_of_plain`.
-/

namespace ConformanceSuite

namespace Text

theorem toLowerAscii_toUpperAscii (c : Char) : toLowerAscii (toUpperAscii c) = toLowerAscii c := by
  have hletters : ∀ n ≤ 122, 97 ≤ n →
      toLowerAscii (Char.ofNat (n - 32)) = toLowerAscii (Char.ofNat n) := by decide
  rw [toUpperAscii]
  split
  · rename_i h
    rw [hletters c.toNat h.2 h.1, Char.ofNat_toNat]
  · rfl

/-- A text in capitals is the same in small letters as the text itself. -/
@[simp] theorem lowerAscii_upperAscii (s : String) : lowerAscii (upperAscii s) = lowerAscii s := by
  simp only [lowerAscii, upperAscii, String.toList_ofList, List.map_map, Function.comp_def,
    toLowerAscii_toUpperAscii]

end Text

namespace Template

theorem pieces_of_plain {cs : List Char} (h : '$' ∉ cs) : pieces cs = cs.map .literal := by
  induction cs with
  | nil => rw [pieces, List.map_nil]
  | cons c rest ih =>
    rw [List.mem_cons, not_or] at h
    have hc : ¬ (c = '$' ∧ (rest.takeWhile isNameChar).isEmpty = false) := fun hc => h.1 hc.1.symm
    rw [pieces, if_neg hc, ih h.2, List.map_cons]

@[simp] theorem fill_literals (context : Context) (cs : List Char) :
    fill context (cs.map .literal) = .ok cs := by
  induction cs with
  | nil => rfl
  | cons c rest ih => simp [fill, ih, Except.map]

/-- A template without dollar signs stands for itself. -/
theorem instantiate_of_plain {template : String} (h : '$' ∉ template.toList) (context : Context) :
    instantiate template context = .ok template := by
  rw [instantiate, pieces_of_plain h, fill_literals, Except.map, String.ofList_toList]

end Template

namespace TestCase

variable {t : TestCase} {context : Context}

theorem fillIn_of_plain {template : String} (h : '$' ∉ template.toList) :
    fillIn context template = .ok template := by
  rw [fillIn, Template.instantiate_of_plain h, Except.mapError]

theorem fillHeaders_of_plain {headers : List (String × String)}
    (h : ∀ header ∈ headers, '$' ∉ header.2.toList) :
    fillHeaders context headers = .ok headers := by
  induction headers with
  | nil => rfl
  | cons header rest ih =>
    rw [List.forall_mem_cons] at h
    simp [fillHeaders, fillIn_of_plain h.1, ih h.2, bind, Except.bind]

theorem fillBody_of_plain {body : Option String}
    (h : ∀ text, body = some text → '$' ∉ text.toList) : fillBody context body = .ok body := by
  cases body with
  | none => rfl
  | some text => rw [fillBody, fillIn_of_plain (h text rfl), Except.map]

/-- The headers and the body of a test case can be filled in over a context. -/
def FillsIn (t : TestCase) (context : Context) : Prop :=
  (∃ headers, fillHeaders context t.input.headers.entries = .ok headers) ∧
    ∃ body, fillBody context t.input.body = .ok body

/-- No header and no body has a dollar sign. -/
def Plain (t : TestCase) : Prop :=
  (∀ header ∈ t.input.headers.entries, '$' ∉ header.2.toList) ∧
    ∀ text, t.input.body = some text → '$' ∉ text.toList

theorem Plain.fillsIn (h : t.Plain) : t.FillsIn context :=
  ⟨⟨_, fillHeaders_of_plain h.1⟩, ⟨_, fillBody_of_plain h.2⟩⟩

/-- With an endpoint without dollar signs, only headers and body can keep a test case from being
prepared. -/
theorem prepare_of_plain {base : String} (hblank : Text.isBlank t.input.endpoint = false)
    (hplain : '$' ∉ t.input.endpoint.toList) :
    t.prepare context base = (do
      let headers ← fillHeaders context t.input.headers.entries
      let body ← fillBody context t.input.body
      .ok ⟨Text.upperAscii t.input.method, Url.join base t.input.endpoint,
        Url.path (Url.join base t.input.endpoint), .ofList headers, body⟩) := by
  rw [prepare, hblank, fillIn_of_plain hplain]
  rfl

theorem exists_prepare_iff {base : String} (hblank : Text.isBlank t.input.endpoint = false)
    (hplain : '$' ∉ t.input.endpoint.toList) :
    (∃ request, t.prepare context base = .ok request) ↔ t.FillsIn context := by
  rw [prepare_of_plain hblank hplain, FillsIn]
  cases hheaders : fillHeaders context t.input.headers.entries with
  | error e => simp [bind, Except.bind]
  | ok headers => cases hbody : fillBody context t.input.body <;> simp [bind, Except.bind]

/-- What a prepared request is made of. -/
theorem of_prepare_ok {base : String} {request : HttpRequest}
    (h : t.prepare context base = .ok request) :
    ∃ endpoint headers body, fillIn context t.input.endpoint = .ok endpoint ∧
      fillHeaders context t.input.headers.entries = .ok headers ∧
      fillBody context t.input.body = .ok body ∧
      request = ⟨Text.upperAscii t.input.method, Url.join base endpoint,
        Url.path (Url.join base endpoint), .ofList headers, body⟩ := by
  unfold prepare at h
  split at h
  · cases h
  · cases hendpoint : fillIn context t.input.endpoint with
    | error e => simp [hendpoint, bind, Except.bind] at h
    | ok endpoint =>
      cases hheaders : fillHeaders context t.input.headers.entries with
      | error e => simp [hendpoint, hheaders, bind, Except.bind] at h
      | ok headers =>
        cases hbody : fillBody context t.input.body with
        | error e => simp [hendpoint, hheaders, hbody, bind, Except.bind] at h
        | ok body =>
          simp only [hendpoint, hheaders, hbody, bind, Except.bind, Except.ok.injEq] at h
          exact ⟨endpoint, headers, body, rfl, rfl, rfl, h.symm⟩

theorem of_prepare {base : String} {request : HttpRequest}
    (hplain : '$' ∉ t.input.endpoint.toList) (h : t.prepare context base = .ok request) :
    request.method = Text.upperAscii t.input.method ∧
      request.path = Url.path (Url.join base t.input.endpoint) := by
  obtain ⟨endpoint, headers, body, hendpoint, -, -, rfl⟩ := of_prepare_ok h
  obtain rfl := Except.ok.inj ((fillIn_of_plain hplain).symm.trans hendpoint)
  exact ⟨rfl, rfl⟩

end TestCase

namespace Url

theorem trimEndSlashes_prefix (cs : List Char) : trimEndSlashes cs <+: cs := by
  have h := List.reverse_prefix.2 (List.dropWhile_suffix (l := cs.reverse) (· == '/'))
  rwa [List.reverse_reverse] at h

theorem trimEndSlashes_append {front : List Char} (hfront : front.getLast? ≠ some '/')
    (cs : List Char) : trimEndSlashes (front ++ cs) = front ++ trimEndSlashes cs := by
  have hkeep : front.reverse.dropWhile (· == '/') = front.reverse := by
    cases hreverse : front.reverse with
    | nil => rfl
    | cons c rest =>
      have hc : front.getLast? = some c := by rw [← List.head?_reverse, hreverse, List.head?_cons]
      rw [List.dropWhile_cons_of_neg]
      rintro hslash
      exact hfront (by rw [hc, beq_iff_eq.1 hslash])
  rw [trimEndSlashes, trimEndSlashes, List.reverse_append, List.dropWhile_append]
  split
  · rename_i hnil
    rw [hkeep, List.reverse_reverse, List.isEmpty_iff.1 hnil, List.reverse_nil, List.append_nil]
  · rw [List.reverse_append, List.reverse_reverse]

theorem trimEndSlashes_append_slashes (cs : List Char) (n : Nat) :
    trimEndSlashes (cs ++ List.replicate n '/') = trimEndSlashes cs := by
  rw [trimEndSlashes, List.reverse_append, List.reverse_replicate,
    List.dropWhile_append_of_pos (by simp), trimEndSlashes]

/-- An endpoint that begins with a slash is put behind the base as it is. -/
theorem join_of_slash {base endpoint : String} (hbase : base.isEmpty = false)
    (hendpoint : endpoint.toList.head? = some '/') :
    (join base endpoint).toList = trimEndSlashes base.toList ++ endpoint.toList := by
  obtain ⟨rest, hrest⟩ := List.head?_eq_some_iff.1 hendpoint
  have habsolute : isAbsolute endpoint = false := by rw [isAbsolute, hrest]; rfl
  rw [join, habsolute, hbase, hrest]
  simp

end Url

end ConformanceSuite
