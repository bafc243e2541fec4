/-!
# Splitting at a separator

A list has one part more than it has separators, and joining its parts gives it back.
-/

namespace ConformanceSuite.Text

variable {α : Type} [DecidableEq α]

/-- The parts of a list between separators. -/
def splitAll (separator : α) : List α → List (List α)
  | [] => [[]]
  | x :: rest =>
    if x = separator then [] :: splitAll separator rest
    else match splitAll separator rest with
      | [] => [[x]]
      | first :: others => (x :: first) :: others

theorem splitAll_ne_nil (separator : α) (l : List α) : splitAll separator l ≠ [] := by
  cases l with
  | nil => simp [splitAll]
  | cons x rest =>
    simp only [splitAll]
    split
    · simp
    · split <;> simp

/-- What stands in front of the first separator, and what stands behind it if there is one. -/
def cut (separator : α) : List α → List α × Option (List α)
  | [] => ([], none)
  | x :: rest =>
    if x = separator then ([], some rest)
    else
      let (before, after) := cut separator rest
      (x :: before, after)

end ConformanceSuite.Text
