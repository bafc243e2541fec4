import ConformanceSuite.ConsentTokens
import ConformanceSuite.Proofs.KeyMap
import ConformanceSuite.Proofs.Text.ByteOrder

/-!
# Slots for consent tokens

What an operation on the slots says, by their look-ups: fresh slots are empty, a token is read from
the slot of its set, and the pending sets are those with an empty slot, in the order of their bytes.
-/

namespace ConformanceSuite.ConsentTokens

theorem lookup_map_none {names : List String} {name : String} :
    (names.map fun n => (n, (none : Option String))).lookup name =
      if name ∈ names then some none else none := by
  induction names with
  | nil => rfl
  | cons n rest ih =>
    by_cases h : name = n
    · subst h
      simp
    · have hne : (name == n) = false := by simpa using h
      simp [List.lookup_cons, hne, ih, h]

/-- Fresh slots are empty, and there is one for each name. -/
theorem get?_ofNames (names : List String) (name : String) :
    (ofNames names).sets.get? name = if name ∈ names then some none else none := by
  rw [ofNames, KeyMap.get?_ofList, ← List.map_reverse, lookup_map_none]
  simp

/-- The token of a set stands in its slot. -/
theorem token_eq_ok_iff {c : ConsentTokens} (hsound : c.poisoned = false) {name : String}
    {slot : Option String} : c.token name = .ok slot ↔ c.sets.get? name = some slot := by
  cases h : c.sets.get? name <;> simp [token, hsound, h]

/-- The pending sets are those with an empty slot. -/
theorem exists_pending {c : ConsentTokens} (hsound : c.poisoned = false) :
    ∃ names, c.pending = .ok names ∧ Text.InByteOrder names ∧
      ∀ name, name ∈ names ↔ c.sets.get? name = some none := by
  refine ⟨(c.sets.entries.filter (·.2.isNone)).map (·.1), ?_, ?_, fun name => ?_⟩
  · simp [pending, hsound]
  · refine Text.inByteOrder_of_pairwise ?_
    rw [List.pairwise_map]
    exact c.sets.ascending.filter _
  · rw [← KeyMap.mem_entries]
    constructor
    · intro h
      obtain ⟨⟨key, slot⟩, hmem, rfl⟩ := List.mem_map.1 h
      obtain ⟨hentry, hempty⟩ := List.mem_filter.1 hmem
      cases slot with
      | none => exact hentry
      | some code => simp at hempty
    · intro h
      exact List.mem_map.2 ⟨(name, none), List.mem_filter.2 ⟨h, rfl⟩, rfl⟩

end ConformanceSuite.ConsentTokens
