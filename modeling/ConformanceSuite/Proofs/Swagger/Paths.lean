import ConformanceSuite.Proofs.Swagger.Operations
import ConformanceSuite.Proofs.TestCase.Address

/-!
# Paths of requests

The path of a request ends in front of a query or a fragment. A declared operation takes the request
if its template matches that path, or what stands in it behind the base path: these are the
operations among which one is looked for, `isFor_iff_takes`.
-/

namespace ConformanceSuite

namespace DeclaredOperation

/-- An operation serves a method and a path: the method is its own up to the case of letters, and
its template matches the path segment by segment. -/
def Serves (method : String) (path : List Char) (x : DeclaredOperation) : Prop :=
  Text.lowerAscii x.method = Text.lowerAscii method ∧
    (Swagger.PathTemplate.ofString x.template).Matches path

end DeclaredOperation

namespace Swagger

open OperationIndex

/-- A text has none of certain characters. -/
def FreeOf (marks text : List Char) : Prop := ∀ c ∈ text, c ∉ marks

instance (marks text : List Char) : Decidable (FreeOf marks text) :=
  List.decidableBAll (fun c => c ∉ marks) text

theorem FreeOf.mono {marks marks' text : List Char} (h : FreeOf marks text)
    (hsubset : marks' ⊆ marks) : FreeOf marks' text :=
  fun c hc hmark => h c hc (hsubset hmark)

theorem FreeOf.append {marks text text' : List Char} (h : FreeOf marks text)
    (h' : FreeOf marks text') : FreeOf marks (text ++ text') := fun c hc =>
  (List.mem_append.1 hc).elim (h c) (h' c)

/-- A path is a base path that is not empty, or stands below it. -/
structure IsBelow (base path rest : List Char) : Prop where
  nonempty : base ≠ []
  split : path = base ++ rest
  below : ∀ c ∈ rest.head?, c = '/'

/-- An operation takes a request: in front of any query and fragment stands a path that it serves,
as a whole or in what is behind the base path. -/
def Takes (base : List Char) (method : String) (path : List Char) (x : DeclaredOperation) : Prop :=
  ∃ whole suffix, path = whole ++ suffix ∧ FreeOf ['?', '#'] whole ∧ Url.EndsPath suffix ∧
    (x.Serves method whole ∨ ∃ rest, IsBelow base whole rest ∧ x.Serves method rest)

section Paths

variable {base path : List Char}

theorem withoutQuery_append {suffix : List Char} (hpath : FreeOf ['?', '#'] path)
    (hsuffix : Url.EndsPath suffix) : withoutQuery (path ++ suffix) = path :=
  Url.takeWhile_append_of_endsPath (fun hmem => hpath '?' hmem (by simp))
    (fun hmem => hpath '#' hmem (by simp)) hsuffix

theorem belowBase?_append (hbase : base ≠ []) (hpath : path.head? = some '/') :
    belowBase? base (base ++ path) = some path := by
  obtain ⟨rest, rfl⟩ := List.head?_eq_some_iff.1 hpath
  simp [belowBase?, hbase]

theorem belowBase?_eq_some_iff {below : List Char} :
    belowBase? base path = some below ↔
      ∃ rest, IsBelow base path rest ∧ below = if rest = [] then ['/'] else rest := by
  constructor
  · intro h
    unfold belowBase? at h
    split at h
    · cases h
    · rename_i hguard
      simp only [Bool.or_eq_true, List.isEmpty_iff, Bool.not_eq_true', not_or, Bool.not_eq_false,
        List.isPrefixOf_iff_prefix] at hguard
      obtain ⟨hbase, rest, rfl⟩ := hguard
      rw [List.drop_left] at h
      split at h
      · cases h
        exact ⟨[], ⟨hbase, rfl, nofun⟩, rfl⟩
      · cases h
        exact ⟨_, ⟨hbase, rfl, by simp⟩, by simp⟩
      · cases h
  · rintro ⟨rest, ⟨hbase, rfl, hbelow⟩, rfl⟩
    cases rest with
    | nil => simp [belowBase?, hbase]
    | cons c rest =>
      obtain rfl := hbelow c rfl
      exact belowBase?_append hbase rfl

/-- The root and the empty path have the same segments. -/
theorem pathSegments_root (rest : List Char) :
    pathSegments (if rest = [] then ['/'] else rest) = pathSegments rest := by
  cases rest <;> rfl

end Paths

end Swagger

end ConformanceSuite
