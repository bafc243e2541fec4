import Mathlib.Data.List.Forall2
import ConformanceSuite.Text.Split

/-!
# Parts of a list

The parts between separators are those of the library, `splitAll_eq_splitOn`. Separators that are
dropped at an end of a list are empty parts that are dropped at that end, of which the last one
stays: `splitOn_dropWhile`. A relation that only holds between parts that are both empty or both
not is kept by this, `dropEmpty_rel`.
-/

namespace ConformanceSuite.Text

variable {α β : Type}

/-- Parts without the empty ones in front; the last part stays. -/
def dropEmpty : List (List α) → List (List α)
  | [] :: part :: rest => dropEmpty (part :: rest)
  | parts => parts

@[simp] theorem dropEmpty_cons_cons (x : α) (part : List α) (rest : List (List α)) :
    dropEmpty ((x :: part) :: rest) = (x :: part) :: rest := rfl

theorem dropEmpty_nil_cons {parts : List (List α)} (h : parts ≠ []) :
    dropEmpty ([] :: parts) = dropEmpty parts := by
  cases parts with
  | nil => exact absurd rfl h
  | cons part rest => rfl

/-- Related parts stay related without the empty ones in front. -/
theorem dropEmpty_rel {R : List α → List β → Prop} (hR : ∀ a b, R a b → (a = [] ↔ b = []))
    {xs : List (List α)} {ys : List (List β)} (h : List.Forall₂ R xs ys) :
    List.Forall₂ R (dropEmpty xs) (dropEmpty ys) := by
  induction h with
  | nil => exact .nil
  | @cons a b xs ys hab hrest ih =>
    cases a with
    | cons x a =>
      obtain ⟨y, b, rfl⟩ := List.exists_cons_of_ne_nil (mt (hR _ _ hab).2 (List.cons_ne_nil x a))
      exact .cons hab hrest
    | nil =>
      obtain rfl := (hR _ _ hab).1 rfl
      cases hrest with
      | nil => exact .cons hab .nil
      | cons => exact ih

section Splitting

variable [DecidableEq α] (s : α)

theorem splitAll_eq_splitOn (l : List α) : splitAll s l = l.splitOn s := by
  induction l with
  | nil => rw [splitAll, List.splitOn_nil]
  | cons x rest ih =>
    rw [splitAll, List.splitOn_cons_eq_if_modifyHead, ih]
    obtain ⟨part, parts, hparts⟩ := List.exists_cons_of_ne_nil (List.splitOn_ne_nil s rest)
    simp [hparts]

/-- The parts of a list are what is cut off at its front and the parts of what follows. -/
theorem splitAll_eq_cut (s : α) (l : List α) :
    splitAll s l = (cut s l).1 :: ((cut s l).2.map (splitAll s)).getD [] := by
  induction l with
  | nil => rfl
  | cons x rest ih =>
    by_cases hx : x = s
    · simp [splitAll, cut, hx]
    · simp [splitAll, cut, hx, ih]

/-- A list is cut at its first separator. -/
theorem cut_append {s : α} {front : List α} (h : s ∉ front) (rest : List α) :
    cut s (front ++ s :: rest) = (front, some rest) := by
  induction front with
  | nil => simp [cut]
  | cons x front ih =>
    rw [List.mem_cons, not_or] at h
    rw [List.cons_append, cut, if_neg (Ne.symm h.1), ih h.2]

theorem splitAll_of_notMem {s : α} {l : List α} (h : s ∉ l) : splitAll s l = [l] := by
  induction l with
  | nil => rfl
  | cons x rest ih =>
    rw [List.mem_cons, not_or] at h
    rw [splitAll, if_neg (Ne.symm h.1), ih h.2]

/-- The parts in front of a separator and those behind it are all parts. -/
theorem splitAll_append_cons (s : α) (front rest : List α) :
    splitAll s (front ++ s :: rest) = splitAll s front ++ splitAll s rest := by
  induction front with
  | nil => simp [splitAll]
  | cons x front ih =>
    obtain ⟨part, parts, hparts⟩ := List.exists_cons_of_ne_nil (splitAll_ne_nil s front)
    by_cases hx : x = s <;> simp [splitAll, hx, ih, hparts]

/-- There is one part more than there are separators. -/
theorem length_splitAll (l : List α) : (splitAll s l).length = l.count s + 1 := by
  induction l with
  | nil => rfl
  | cons x rest ih =>
    rw [splitAll]
    by_cases hx : x = s
    · simp [hx, ih]
    · obtain ⟨part, parts, hparts⟩ := List.exists_cons_of_ne_nil (splitAll_ne_nil s rest)
      rw [hparts] at ih
      simpa [hx, hparts, List.count_cons] using ih

theorem splitOn_reverse (l : List α) :
    l.reverse.splitOn s = ((l.splitOn s).map List.reverse).reverse := by
  by_cases hmem : s ∈ l
  · -- at the first separator: one part, and what follows
    obtain ⟨part, rest, hl, hpart⟩ := List.eq_append_cons_of_mem hmem
    have hlt : rest.length < l.length := by rw [hl, List.length_append, List.length_cons]; omega
    have ih := splitOn_reverse rest
    have hreverse : s ∉ part.reverse := by simpa using hpart
    rw [hl, List.splitOn_append_cons_self_of_not_mem hpart, List.reverse_append, List.reverse_cons,
      List.append_assoc, List.singleton_append, List.splitOn_append_cons_self, ih,
      List.splitOn_eq_singleton hreverse, List.map_cons, List.reverse_cons]
  · have hreverse : s ∉ l.reverse := by simpa using hmem
    rw [List.splitOn_eq_singleton hmem, List.splitOn_eq_singleton hreverse]
    rfl
  termination_by l.length

theorem splitOn_dropWhile (l : List α) :
    (l.dropWhile fun x => x == s).splitOn s = dropEmpty (l.splitOn s) := by
  induction l with
  | nil => simp [dropEmpty]
  | cons x rest ih =>
    rw [List.splitOn_cons_eq_if_modifyHead]
    by_cases hx : (x == s) = true
    · rw [List.dropWhile_cons_of_pos (p := fun x => x == s) hx, if_pos hx,
        dropEmpty_nil_cons (List.splitOn_ne_nil s rest), ih]
    · obtain ⟨part, parts, hparts⟩ := List.exists_cons_of_ne_nil (List.splitOn_ne_nil s rest)
      rw [List.dropWhile_cons_of_neg (p := fun x => x == s) hx, if_neg hx,
        List.splitOn_cons_eq_if_modifyHead, if_neg hx, hparts, List.modifyHead_cons,
        dropEmpty_cons_cons]

variable {s} {l : List α}

/-- Whatever is not a separator stands in a part. -/
theorem mem_iff_of_ne {x : α} (hne : x ≠ s) : x ∈ l ↔ ∃ part ∈ l.splitOn s, x ∈ part := by
  induction l with
  | nil => simp
  | cons y rest ih =>
    rw [List.splitOn_cons_eq_if_modifyHead, List.mem_cons, ih]
    by_cases hy : (y == s) = true
    · have hxy : x ≠ y := by rwa [beq_iff_eq.1 hy]
      simp [hy, hxy]
    · obtain ⟨part, parts, hparts⟩ := List.exists_cons_of_ne_nil (List.splitOn_ne_nil s rest)
      simp [hy, hparts, or_assoc]

/-- Only a list that begins with a separator has an empty part in front of others. -/
theorem exists_cons_of_splitOn {parts : List (List α)} (h : l.splitOn s = [] :: parts)
    (hparts : parts ≠ []) : ∃ rest, l = s :: rest := by
  cases l with
  | nil =>
    simp only [List.splitOn_nil, List.cons.injEq, true_and] at h
    exact absurd h.symm hparts
  | cons x rest =>
    rw [List.splitOn_cons_eq_if_modifyHead] at h
    by_cases hx : (x == s) = true
    · exact ⟨rest, by rw [beq_iff_eq.1 hx]⟩
    · obtain ⟨part, others, hothers⟩ := List.exists_cons_of_ne_nil (List.splitOn_ne_nil s rest)
      simp [hx, hothers] at h

/-! ### Lists with related parts -/

section Related

variable [DecidableEq β] {R : List α → List β → Prop} {s : α} {s' : β} {l : List α} {l' : List β}

theorem splitOn_dropWhile_rel (hR : ∀ a b, R a b → (a = [] ↔ b = []))
    (h : List.Forall₂ R (l.splitOn s) (l'.splitOn s')) :
    List.Forall₂ R ((l.dropWhile fun x => x == s).splitOn s)
      ((l'.dropWhile fun x => x == s').splitOn s') := by
  rw [splitOn_dropWhile, splitOn_dropWhile]
  exact dropEmpty_rel hR h

theorem splitOn_reverse_rel (h : List.Forall₂ R (l.splitOn s) (l'.splitOn s')) :
    List.Forall₂ (fun a b => R a.reverse b.reverse) (l.reverse.splitOn s)
      (l'.reverse.splitOn s') := by
  rw [splitOn_reverse, splitOn_reverse]
  refine List.rel_reverse (List.forall₂_map_left_iff.2 (List.forall₂_map_right_iff.2 ?_))
  simpa only [List.reverse_reverse] using h

/-- Lists with related parts still have them without the separators at both ends. -/
theorem splitOn_trim_rel (hR : ∀ a b, R a b → (a = [] ↔ b = []))
    (h : List.Forall₂ R (l.splitOn s) (l'.splitOn s')) :
    List.Forall₂ R
      (((l.dropWhile fun x => x == s).reverse.dropWhile fun x => x == s).reverse.splitOn s)
      (((l'.dropWhile fun x => x == s').reverse.dropWhile fun x => x == s').reverse.splitOn
        s') := by
  have hreverse : ∀ a b, R a.reverse b.reverse → (a = [] ↔ b = []) := fun a b hab => by
    simpa using hR _ _ hab
  have hfront := splitOn_dropWhile_rel hR h
  have hback := splitOn_dropWhile_rel hreverse (splitOn_reverse_rel hfront)
  simpa only [List.reverse_reverse] using splitOn_reverse_rel hback

end Related

end Splitting

end ConformanceSuite.Text
