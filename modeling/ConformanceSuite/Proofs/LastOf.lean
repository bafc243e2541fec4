import Mathlib.Data.List.Induction

/-!
# The last of its kind

Something in a history stands as long as nothing behind it takes its place. One more event takes the
place itself, or takes that of what stood before, or leaves it: `lastOf_append_singleton`.
-/

namespace ConformanceSuite

variable {α : Type} {P : List α → α → Prop} {Q : α → Prop} {history : List α}

/-- Something happened, with a part of the history before it, and nothing took its place since. -/
def LastOf (P : List α → α → Prop) (Q : α → Prop) (history : List α) : Prop :=
  ∃ before x after, history = before ++ x :: after ∧ P before x ∧ ∀ y ∈ after, ¬ Q y

theorem not_lastOf_nil : ¬ LastOf P Q [] := by
  rintro ⟨before, x, after, h, -⟩
  simp at h

theorem lastOf_append_singleton {e : α} :
    LastOf P Q (history ++ [e]) ↔ P history e ∨ (¬ Q e ∧ LastOf P Q history) := by
  constructor
  · rintro ⟨before, x, after, hsplit, hx, hafter⟩
    -- what stands is the last event itself, or there is an event behind it
    rcases List.eq_nil_or_concat after with rfl | ⟨front, last, rfl⟩
    · obtain ⟨rfl, rfl⟩ : history = before ∧ e = x := by simpa using hsplit
      exact .inl hx
    · rw [List.concat_eq_append] at hsplit hafter
      have hsnoc : history ++ [e] = (before ++ x :: front) ++ [last] := by simp [hsplit]
      obtain ⟨rfl, hlast⟩ := List.append_inj' hsnoc rfl
      obtain rfl : e = last := by simpa using hlast
      refine .inr ⟨hafter e (by simp), before, x, front, rfl, hx, fun y hy => ?_⟩
      exact hafter y (by simp [hy])
  · rintro (he | ⟨he, before, x, after, rfl, hx, hafter⟩)
    · exact ⟨history, e, [], rfl, he, by simp⟩
    · refine ⟨before, x, after ++ [e], by simp, hx, fun y hy => ?_⟩
      rcases List.mem_append.1 hy with hy | hy
      · exact hafter y hy
      · exact List.mem_singleton.1 hy ▸ he

end ConformanceSuite
