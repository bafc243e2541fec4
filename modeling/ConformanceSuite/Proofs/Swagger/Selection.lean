import Mathlib.Tactic.SplitIfs
import ConformanceSuite.Swagger.Files

/-!
# The file of a specification

The contract of a specification is decided by names and contents: by the first directory that can be
listed, and in it by the first candidate, in ascending order of paths, that cannot be loaded or has
the title and the version that are asked for. Whatever else there is, in whatever order it is
listed, makes no difference: `selected_forSpecification`.
-/

namespace ConformanceSuite

namespace SwaggerContract

/-- A directory is the first of some that can be listed, with some names in it. -/
def FirstListed (fs : FileSystem) (dirs : List String) (dir : String) (names : List String) :
    Prop :=
  ∃ front back, dirs = front ++ dir :: back ∧ (∀ d ∈ front, ∀ l, fs.list d ≠ .ok l) ∧
    fs.list dir = .ok names

/-- A path is that of a file in a directory, with an extension of documents in any case of
letters. -/
structure IsCandidate (fs : FileSystem) (dir : String) (names : List String) (path : String) :
    Prop where
  named : ∃ name ∈ names, path = Path.join dir name
  isFile : fs.isFile path = true
  extension : Text.lowerAscii (Path.extension path) ∈ ["json", "yaml", "yml"]

/-- A file decides about a specification: it cannot be read or parsed, or it has the title and the
version that are asked for. -/
inductive Decides (fs : FileSystem) (name version path : String) :
    Except ContractError SwaggerContract → Prop
  | unreadable {text : String} (load : SwaggerDocument.load fs path = .error (.io text)) :
      Decides fs name version path (.error (.io text))
  | malformed {message : String}
      (load : SwaggerDocument.load fs path = .error (.parse path message)) :
      Decides fs name version path (.error (.parse path message))
  | requested {d : SwaggerDocument} (load : SwaggerDocument.load fs path = .ok d)
      (sameTitle : d.title = name) (sameVersion : d.version = version) :
      Decides fs name version path (ofDocument d)

/-- Some answer is decided by a file. -/
def IsDecisive (fs : FileSystem) (name version path : String) : Prop :=
  ∃ answer, Decides fs name version path answer

/-- The answer that the files of a directory give: that of the first candidate that decides, or that
there is none. -/
inductive SelectedIn (fs : FileSystem) (dir : String) (names : List String)
    (name version : String) : Except ContractError SwaggerContract → Prop
  | decided {path : String} {answer : Except ContractError SwaggerContract}
      (candidate : IsCandidate fs dir names path) (decides : Decides fs name version path answer)
      (first : ∀ other, IsCandidate fs dir names other → IsDecisive fs name version other →
        path ≤ other) :
      SelectedIn fs dir names name version answer
  | missing (undecided : ∀ path, IsCandidate fs dir names path →
        ¬ IsDecisive fs name version path) :
      SelectedIn fs dir names name version (.error (.notFound name version))

/-- The answer that directories give: that of the first that can be listed, or that there is
none. -/
inductive Selected (fs : FileSystem) (dirs : List String) (name version : String) :
    Except ContractError SwaggerContract → Prop
  | listed {dir : String} {names : List String} {answer : Except ContractError SwaggerContract}
      (first : FirstListed fs dirs dir names)
      (selected : SelectedIn fs dir names name version answer) :
      Selected fs dirs name version answer
  | unlisted {text : String} (none : ∀ dir ∈ dirs, ∀ names, fs.list dir ≠ .ok names) :
      Selected fs dirs name version (.error (.io text))

/-- Two directories have the same candidates with the same contents up to the first that decides in
the one of them. -/
def AgreeUpToDecision (fs fs' : FileSystem) (dir : String) (names names' : List String)
    (name version : String) : Prop :=
  ∀ path, (∀ other, IsCandidate fs dir names other → IsDecisive fs name version other →
      path ≤ other) →
    (IsCandidate fs dir names path ↔ IsCandidate fs' dir names' path) ∧
      (IsCandidate fs dir names path → fs.read path = fs'.read path)

variable {fs fs' : FileSystem} {dirs dirs' names names' : List String} {dir name version : String}

/-! ### Loading -/

/-- A document that cannot be loaded cannot be read or cannot be parsed. -/
theorem load_error_cases {path : String} {e : ContractError}
    (h : SwaggerDocument.load fs path = .error e) :
    (∃ text, e = .io text) ∨ ∃ message, e = .parse path message := by
  unfold SwaggerDocument.load SwaggerDocument.readLimited at h
  cases hread : fs.read path with
  | error problem =>
    simp only [hread, Except.error.injEq] at h
    exact .inl ⟨_, h.symm⟩
  | ok content =>
    by_cases hsize : content.length > SwaggerDocument.maxFileSize
    · simp only [hread, hsize, if_true, Except.error.injEq] at h
      exact .inl ⟨_, h.symm⟩
    · simp only [hread, hsize, if_false, SwaggerDocument.ofContent] at h
      split at h
      · split at h
        · cases h
        · exact .inr ⟨_, (Except.error.inj h).symm⟩
      · split at h
        · cases h
        · exact .inr ⟨_, (Except.error.inj h).symm⟩

theorem load_congr {path : String} (h : fs.read path = fs'.read path) :
    SwaggerDocument.load fs path = SwaggerDocument.load fs' path := by
  rw [SwaggerDocument.load, SwaggerDocument.readLimited, h]
  rfl

/-- What a file decides is read off what is loaded from it. -/
theorem decides_iff {path : String} {answer : Except ContractError SwaggerContract} :
    Decides fs name version path answer ↔
      (∃ e, SwaggerDocument.load fs path = .error e ∧ answer = .error e) ∨
      ∃ d, SwaggerDocument.load fs path = .ok d ∧ d.title = name ∧ d.version = version ∧
        answer = ofDocument d := by
  constructor
  · intro h
    cases h with
    | unreadable load => exact .inl ⟨_, load, rfl⟩
    | malformed load => exact .inl ⟨_, load, rfl⟩
    | requested load sameTitle sameVersion => exact .inr ⟨_, load, sameTitle, sameVersion, rfl⟩
  · rintro (⟨e, hload, rfl⟩ | ⟨d, hload, htitle, hversion, rfl⟩)
    · rcases load_error_cases hload with ⟨text, rfl⟩ | ⟨message, rfl⟩
      · exact .unreadable hload
      · exact .malformed hload
    · exact .requested hload htitle hversion

/-- A file decides one answer. -/
theorem Decides.unique {path : String} {a b : Except ContractError SwaggerContract}
    (ha : Decides fs name version path a) (hb : Decides fs name version path b) : a = b := by
  rcases decides_iff.1 ha with ⟨e, hload, rfl⟩ | ⟨d, hload, -, -, rfl⟩
  · rcases decides_iff.1 hb with ⟨e', hload', rfl⟩ | ⟨d', hload', -, -, rfl⟩
    · rw [hload] at hload'
      rw [Except.error.inj hload']
    · rw [hload] at hload'
      cases hload'
  · rcases decides_iff.1 hb with ⟨e', hload', rfl⟩ | ⟨d', hload', -, -, rfl⟩
    · rw [hload] at hload'
      cases hload'
    · rw [hload] at hload'
      rw [Except.ok.inj hload']

theorem decides_congr {path : String} (h : fs.read path = fs'.read path)
    (answer : Except ContractError SwaggerContract) :
    Decides fs name version path answer ↔ Decides fs' name version path answer := by
  rw [decides_iff, decides_iff, load_congr h]

theorem isDecisive_congr {path : String} (h : fs.read path = fs'.read path) :
    IsDecisive fs name version path ↔ IsDecisive fs' name version path :=
  exists_congr fun answer => decides_congr h answer

/-! ### Candidates -/

theorem mem_candidates_iff {path : String} :
    path ∈ candidates fs dir names ↔ IsCandidate fs dir names path := by
  simp only [candidates, List.mem_filter, List.mem_map, List.mem_mergeSort, Bool.and_eq_true,
    SwaggerDocument.isDocumentName, List.contains_iff_mem]
  constructor
  · rintro ⟨⟨found, hfound, rfl⟩, hfile, hextension⟩
    exact ⟨⟨found, hfound, rfl⟩, hfile, hextension⟩
  · rintro ⟨⟨found, hfound, rfl⟩, hfile, hextension⟩
    exact ⟨⟨found, hfound, rfl⟩, hfile, hextension⟩

theorem append_le_append {a b : String} (h : a ≤ b) (front : String) : front ++ a ≤ front ++ b := by
  by_cases heq : a = b
  · subst heq
    exact String.le_refl _
  · have hlt : a < b := Decidable.not_not.1 fun hnot =>
      heq (String.le_antisymm h (String.not_lt.1 hnot))
    have hlist : a.toList < b.toList := hlt
    have happend : (front ++ a).toList < (front ++ b).toList := by
      rw [String.toList_append, String.toList_append]
      exact List.append_left_lt hlist
    exact String.not_lt.1 (String.lt_asymm happend)

/-- Paths in one directory are in the order of their names. -/
theorem join_le_join {a b : String} (h : a ≤ b) (dir : String) :
    Path.join dir a ≤ Path.join dir b := by
  unfold Path.join
  split_ifs
  · exact append_le_append h dir
  · exact append_le_append h (dir ++ "/")

theorem pairwise_candidates (fs : FileSystem) (dir : String) (names : List String) :
    (candidates fs dir names).Pairwise (· ≤ ·) := by
  have hsorted : (names.mergeSort fun a b => decide (a ≤ b)).Pairwise (· ≤ ·) := by
    refine (List.pairwise_mergeSort ?_ ?_ names).imp of_decide_eq_true
    · intro a b c hab hbc
      exact decide_eq_true (String.le_trans (of_decide_eq_true hab) (of_decide_eq_true hbc))
    · intro a b
      simpa using String.le_total a b
  exact (List.pairwise_map.2 (hsorted.imp fun hab => join_le_join hab dir)).filter _

/-! ### The search -/

/-- Of files in ascending order the first that decides gives the answer. -/
theorem amongFiles_cases (fs : FileSystem) (name version : String) {paths : List String}
    (h : paths.Pairwise (· ≤ ·)) :
    (∃ path ∈ paths, Decides fs name version path (amongFiles fs name version paths) ∧
      ∀ other ∈ paths, IsDecisive fs name version other → path ≤ other) ∨
    ((∀ path ∈ paths, ¬ IsDecisive fs name version path) ∧
      amongFiles fs name version paths = .error (.notFound name version)) := by
  induction paths with
  | nil => exact .inr ⟨fun _ hmem => absurd hmem List.not_mem_nil, rfl⟩
  | cons path rest ih =>
    obtain ⟨hbefore, hrest⟩ := List.pairwise_cons.1 h
    -- a file that decides stands in front of all that are still to come
    have hfirst : ∀ other ∈ path :: rest, IsDecisive fs name version other → path ≤ other := by
      intro other hother _
      rcases List.mem_cons.1 hother with rfl | hother
      · exact String.le_refl _
      · exact hbefore other hother
    rw [amongFiles]
    cases hload : SwaggerDocument.load fs path with
    | error e =>
      exact .inl ⟨path, List.mem_cons_self, decides_iff.2 (.inl ⟨e, hload, rfl⟩), hfirst⟩
    | ok d =>
      by_cases hrequested : d.version = version ∧ d.title = name
      · simp only [if_pos hrequested]
        exact .inl ⟨path, List.mem_cons_self, .requested hload hrequested.2 hrequested.1, hfirst⟩
      · simp only [if_neg hrequested]
        have hundecided : ¬ IsDecisive fs name version path := by
          rintro ⟨answer, hdecides⟩
          rcases decides_iff.1 hdecides with ⟨e, hload', -⟩ | ⟨d', hload', htitle, hversion, -⟩
          · rw [hload] at hload'
            cases hload'
          · rw [hload] at hload'
            obtain rfl := Except.ok.inj hload'
            exact hrequested ⟨hversion, htitle⟩
        rcases ih hrest with ⟨found, hfound, hdecides, hleast⟩ | ⟨hnone, hanswer⟩
        · refine .inl ⟨found, List.mem_cons_of_mem _ hfound, hdecides, ?_⟩
          intro other hother hdecisive
          rcases List.mem_cons.1 hother with rfl | hother
          · exact absurd hdecisive hundecided
          · exact hleast other hother hdecisive
        · exact .inr ⟨List.forall_mem_cons.2 ⟨hundecided, hnone⟩, hanswer⟩

theorem selectedIn_amongFiles (fs : FileSystem) (dir : String) (names : List String)
    (name version : String) : SelectedIn fs dir names name version
      (amongFiles fs name version (candidates fs dir names)) := by
  rcases amongFiles_cases fs name version (pairwise_candidates fs dir names) with
    ⟨path, hpath, hdecides, hfirst⟩ | ⟨hnone, hanswer⟩
  · exact .decided (mem_candidates_iff.1 hpath) hdecides fun other hother =>
      hfirst other (mem_candidates_iff.2 hother)
  · rw [hanswer]
    exact .missing fun path hpath => hnone path (mem_candidates_iff.2 hpath)

/-- The files of a directory give one answer. -/
theorem SelectedIn.unique {a b : Except ContractError SwaggerContract}
    (ha : SelectedIn fs dir names name version a) (hb : SelectedIn fs dir names name version b) :
    a = b := by
  cases ha with
  | @decided path _ candidate decides first =>
    cases hb with
    | @decided path' _ candidate' decides' first' =>
      have hle : path ≤ path' := first path' candidate' ⟨b, decides'⟩
      have hge : path' ≤ path := first' path candidate ⟨a, decides⟩
      obtain rfl := String.le_antisymm hle hge
      exact decides.unique decides'
    | missing undecided => exact absurd ⟨a, decides⟩ (undecided path candidate)
  | missing undecided =>
    cases hb with
    | @decided path _ candidate decides _ => exact absurd ⟨b, decides⟩ (undecided path candidate)
    | missing _ => rfl

/-- An answer stays that of a directory when all that changes is behind the file that decides. -/
theorem SelectedIn.of_agree {a : Except ContractError SwaggerContract}
    (h : SelectedIn fs dir names name version a)
    (hagree : AgreeUpToDecision fs fs' dir names names' name version) :
    SelectedIn fs' dir names' name version a := by
  cases h with
  | @decided path _ candidate decides first =>
    obtain ⟨hcandidate, hread⟩ := hagree path first
    refine .decided (hcandidate.1 candidate) ((decides_congr (hread candidate) a).1 decides) ?_
    intro other hother hdecisive
    rcases String.le_total path other with hle | hle
    · exact hle
    · -- a file in front of the one that decides is the same in both
      obtain ⟨hsame, hsameRead⟩ := hagree other fun q hq hq' => String.le_trans hle (first q hq hq')
      have hother' := hsame.2 hother
      exact first other hother' ((isDecisive_congr (hsameRead hother')).2 hdecisive)
  | missing undecided =>
    have hall : ∀ path, (IsCandidate fs dir names path ↔ IsCandidate fs' dir names' path) ∧
        (IsCandidate fs dir names path → fs.read path = fs'.read path) := fun path =>
      hagree path fun other hother hdecisive => absurd hdecisive (undecided other hother)
    refine .missing fun path hpath hdecisive => ?_
    obtain ⟨hsame, hread⟩ := hall path
    have hpath' := hsame.2 hpath
    exact undecided path hpath' ((isDecisive_congr (hread hpath')).2 hdecisive)

/-! ### Directories -/

/-- The directory that is searched is the first that can be listed; if there is none, this is
reported. -/
theorem firstDirectory_cases (fs : FileSystem) (dirs : List String) (failure : String) :
    (∃ dir names, firstDirectory fs failure dirs = .ok (dir, names) ∧
      FirstListed fs dirs dir names) ∨
    ((∃ text, firstDirectory fs failure dirs = .error (.io text)) ∧
      ∀ dir ∈ dirs, ∀ names, fs.list dir ≠ .ok names) := by
  induction dirs generalizing failure with
  | nil => exact .inr ⟨⟨failure, rfl⟩, fun _ hmem => absurd hmem List.not_mem_nil⟩
  | cons dir rest ih =>
    cases hlist : fs.list dir with
    | ok names =>
      refine .inl ⟨dir, names, by simp [firstDirectory, hlist], [], rest, rfl, ?_, hlist⟩
      exact fun _ hmem => absurd hmem List.not_mem_nil
    | error e =>
      have hunlisted : ∀ names, fs.list dir ≠ .ok names := by
        intro names hnames
        rw [hlist] at hnames
        cases hnames
      simp only [firstDirectory, hlist]
      rcases ih _ with ⟨found, names, hfound, front, back, rfl, hfront, hnames⟩ | ⟨htext, hnone⟩
      · exact .inl ⟨found, names, hfound, dir :: front, back, rfl,
          List.forall_mem_cons.2 ⟨hunlisted, hfront⟩, hnames⟩
      · exact .inr ⟨htext, List.forall_mem_cons.2 ⟨hunlisted, hnone⟩⟩

theorem FirstListed.firstDirectory_eq (h : FirstListed fs dirs dir names) (failure : String) :
    firstDirectory fs failure dirs = .ok (dir, names) := by
  obtain ⟨front, back, rfl, hfront, hlist⟩ := h
  induction front generalizing failure with
  | nil => simp [firstDirectory, hlist]
  | cons first front ih =>
    obtain ⟨hfirst, hothers⟩ := List.forall_mem_cons.1 hfront
    cases hlisted : fs.list first with
    | ok found => exact absurd hlisted (hfirst found)
    | error e =>
      simp only [List.cons_append, firstDirectory, hlisted]
      exact ih _ hothers

theorem FirstListed.forSpecification_eq (h : FirstListed fs dirs dir names)
    (name version : String) : forSpecification fs dirs name version =
      amongFiles fs name version (candidates fs dir names) := by
  rw [forSpecification, h.firstDirectory_eq]

/-- Directories with the same first one that can be listed give the same answer if its candidates
agree up to the one that decides. -/
theorem forSpecification_eq_of_agree (h : FirstListed fs dirs dir names)
    (h' : FirstListed fs' dirs' dir names')
    (hagree : AgreeUpToDecision fs fs' dir names names' name version) :
    forSpecification fs' dirs' name version = forSpecification fs dirs name version := by
  rw [h.forSpecification_eq, h'.forSpecification_eq]
  have hselected := selectedIn_amongFiles fs dir names name version
  exact (selectedIn_amongFiles fs' dir names' name version).unique (hselected.of_agree hagree)

theorem agree_of_perm (hperm : names.Perm names') (hfile : fs'.isFile = fs.isFile)
    (hread : fs'.read = fs.read) : AgreeUpToDecision fs fs' dir names names' name version := by
  intro path _
  refine ⟨⟨fun h => ⟨?_, hfile ▸ h.isFile, h.extension⟩,
    fun h => ⟨?_, hfile ▸ h.isFile, h.extension⟩⟩, fun _ => by rw [hread]⟩
  · obtain ⟨found, hfound, hpath⟩ := h.named
    exact ⟨found, hperm.mem_iff.1 hfound, hpath⟩
  · obtain ⟨found, hfound, hpath⟩ := h.named
    exact ⟨found, hperm.mem_iff.2 hfound, hpath⟩

/-- The answer is that of the first directory that can be listed, by the first of its candidates
that decides. It does not depend on the order in which names are listed, and on nothing else than
what the candidates are and hold up to the one that decides. -/
theorem selected_forSpecification (fs : FileSystem) (dirs : List String) (name version : String) :
    Selected fs dirs name version (forSpecification fs dirs name version) ∧
    (∀ fs' dir names names', FirstListed fs dirs dir names → FirstListed fs' dirs dir names' →
      names.Perm names' → fs'.isFile = fs.isFile → fs'.read = fs.read →
      forSpecification fs' dirs name version = forSpecification fs dirs name version) ∧
    ∀ fs' dirs' dir names names', FirstListed fs dirs dir names →
      FirstListed fs' dirs' dir names' →
      AgreeUpToDecision fs fs' dir names names' name version →
      forSpecification fs' dirs' name version = forSpecification fs dirs name version := by
  refine ⟨?_, ?_, ?_⟩
  · rcases firstDirectory_cases fs dirs "no spec folders configured" with
      ⟨dir, names, -, hfirst⟩ | ⟨⟨text, htext⟩, hnone⟩
    · rw [hfirst.forSpecification_eq]
      exact .listed hfirst (selectedIn_amongFiles fs dir names name version)
    · rw [forSpecification, htext]
      exact .unlisted hnone
  · intro fs' dir names names' hfirst hfirst' hperm hfile hread
    exact forSpecification_eq_of_agree hfirst hfirst' (agree_of_perm hperm hfile hread)
  · intro fs' dirs' dir names names' hfirst hfirst' hagree
    exact forSpecification_eq_of_agree hfirst hfirst' hagree

/-- Files of which `a.json` has the title `T` and the version `v`, and all others are empty; one
directory can be listed. -/
def shelf (names : List String) : FileSystem where
  read path :=
    if path = "specs/a.json" then
      .ok (Json.bytesOf "\x7b\"info\":\x7b\"title\":\"T\",\"version\":\"v\"\x7d\x7d")
    else .ok []
  list dir := if dir = "specs" then .ok names else .error .notFound
  isFile _ := true
  workingDirectory := "/"

/-- An empty file behind the one that decides, a file of another kind and another directory make no
difference. -/
theorem selected_forSpecification_shelf :
    forSpecification (shelf ["b.json", "notes.txt", "a.json"]) ["none", "specs"] "T" "v" =
      forSpecification (shelf ["a.json"]) ["specs", "others"] "T" "v" := by
  have hfirst : FirstListed (shelf ["a.json"]) ["specs", "others"] "specs" ["a.json"] :=
    ⟨[], ["others"], rfl, fun _ h => absurd h List.not_mem_nil, rfl⟩
  have hfirst' : FirstListed (shelf ["b.json", "notes.txt", "a.json"]) ["none", "specs"] "specs"
      ["b.json", "notes.txt", "a.json"] := by
    refine ⟨["none"], [], rfl, fun d hd l hl => ?_, rfl⟩
    obtain rfl := List.mem_singleton.1 hd
    cases hl
  have hload : SwaggerDocument.load (shelf ["a.json"]) "specs/a.json" = .ok ⟨.object
      [("info", .object [("title", .string "T"), ("version", .string "v")])]⟩ := rfl
  have hcandidate : IsCandidate (shelf ["a.json"]) "specs" ["a.json"] "specs/a.json" :=
    ⟨⟨"a.json", List.mem_singleton.2 rfl, by decide⟩, rfl, by decide⟩
  refine (selected_forSpecification _ _ _ _).2.2 _ _ _ _ _ hfirst hfirst' fun path hpath => ?_
  have hle := hpath "specs/a.json" hcandidate ⟨_, .requested hload rfl rfl⟩
  refine ⟨⟨?_, ?_⟩, fun _ => rfl⟩
  · rintro ⟨⟨found, hfound, rfl⟩, hfile, hextension⟩
    obtain rfl := List.mem_singleton.1 hfound
    exact ⟨⟨"a.json", by simp, rfl⟩, hfile, hextension⟩
  · rintro ⟨⟨found, hfound, rfl⟩, hfile, hextension⟩
    simp only [List.mem_cons, List.not_mem_nil, or_false] at hfound
    rcases hfound with rfl | rfl | rfl
    · exact absurd hle (by decide)
    · exact absurd hextension (by decide)
    · exact ⟨⟨"a.json", List.mem_singleton.2 rfl, rfl⟩, hfile, hextension⟩

end SwaggerContract

end ConformanceSuite
