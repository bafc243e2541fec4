import ConformanceSuite.KeyMap

/-!
# Maps as lists of bindings

Binding the keys of one list and then those of another is binding the keys of both in sequence, and
of equal keys the last one counts. The entries of a map are its bindings, in ascending order of
keys.
-/

namespace ConformanceSuite.KeyMap

variable {α : Type}

@[simp] theorem insertAll_nil (m : KeyMap α) : m.insertAll [] = m := rfl

@[simp] theorem insertAll_cons (m : KeyMap α) (e : String × α) (entries : List (String × α)) :
    m.insertAll (e :: entries) = (m.insert e.1 e.2).insertAll entries := rfl

theorem insertAll_append (m : KeyMap α) (first second : List (String × α)) :
    m.insertAll (first ++ second) = (m.insertAll first).insertAll second :=
  List.foldl_append

/-- Binding the keys of many lists is binding those of one list after another. -/
theorem insertAll_flatMap {β : Type} (f : β → List (String × α)) (l : List β) (m : KeyMap α) :
    m.insertAll (l.flatMap f) = l.foldl (fun m b => m.insertAll (f b)) m := by
  induction l generalizing m with
  | nil => rfl
  | cons b rest ih => rw [List.flatMap_cons, insertAll_append, ih, List.foldl_cons]

/-- A key is bound to the last value that it is given, and if it is given none to its old one. -/
theorem get?_insertAll (m : KeyMap α) (entries : List (String × α)) (key : String) :
    (m.insertAll entries).get? key = (entries.reverse.lookup key).or (m.get? key) := by
  induction entries generalizing m with
  | nil => rfl
  | cons e rest ih =>
    obtain ⟨k, value⟩ := e
    rw [insertAll_cons, ih, get?_insert, List.reverse_cons, List.lookup_append, Option.or_assoc]
    by_cases h : k = key
    · subst h
      simp
    · have hne : (key == k) = false := by simpa using Ne.symm h
      simp [List.lookup_cons, h, hne]

/-- A key that is given no value stays bound as it was. -/
theorem get?_insertAll_of_ne {m : KeyMap α} {entries : List (String × α)} {key : String}
    (h : ∀ e ∈ entries, e.1 ≠ key) : (m.insertAll entries).get? key = m.get? key := by
  have hnone : entries.reverse.lookup key = none := by
    rw [List.lookup_eq_none_iff]
    intro e he
    simpa using (h e (List.mem_reverse.1 he)).symm
  rw [get?_insertAll, hnone, Option.none_or]

/-- A key stays bound to what it is given when it is given nothing later. -/
theorem get?_insertAll_last {m : KeyMap α} {front back : List (String × α)} {key : String}
    {value : α} (h : ∀ e ∈ back, e.1 ≠ key) :
    (m.insertAll (front ++ (key, value) :: back)).get? key = some value := by
  rw [insertAll_append, insertAll_cons, get?_insertAll_of_ne h, get?_insert, if_pos rfl]

/-- In the map of a list a key is bound to the last value that the list gives it. -/
theorem get?_ofList (entries : List (String × α)) (key : String) :
    (ofList entries).get? key = entries.reverse.lookup key := by
  rw [ofList, get?_insertAll, get?_empty, Option.or_none]

/-! ### Entries -/

theorem mem_of_find?_eq_some {key : String} {value : α} {l : List (String × α)}
    (h : find? key l = some value) : (key, value) ∈ l := by
  induction l with
  | nil => simp [find?] at h
  | cons e rest ih =>
    simp only [find?] at h
    split at h
    · rename_i hkey
      subst hkey
      cases h
      exact List.mem_cons_self
    · exact List.mem_cons_of_mem _ (ih h)

theorem find?_eq_some_of_mem {key : String} {value : α} {l : List (String × α)}
    (hl : l.Pairwise fun a b => a.1 < b.1) (h : (key, value) ∈ l) : find? key l = some value := by
  induction l with
  | nil => cases h
  | cons e rest ih =>
    have ⟨hfirst, hrest⟩ := List.pairwise_cons.1 hl
    rcases List.mem_cons.1 h with rfl | h
    · simp [find?]
    · have hne : e.1 ≠ key := fun heq => String.lt_irrefl _ (heq ▸ hfirst _ h)
      simp [find?, hne, ih hrest h]

/-- The entries of a map are its bindings. -/
theorem mem_entries {m : KeyMap α} {key : String} {value : α} :
    (key, value) ∈ m.entries ↔ m.get? key = some value :=
  ⟨find?_eq_some_of_mem m.ascending, mem_of_find?_eq_some⟩

/-- The keys of a map are those that are bound. -/
theorem mem_keys {m : KeyMap α} {key : String} : key ∈ m.keys ↔ m.contains key = true := by
  unfold keys contains
  rw [Option.isSome_iff_exists, List.mem_map]
  constructor
  · rintro ⟨⟨k, value⟩, hmem, rfl⟩
    exact ⟨value, mem_entries.1 hmem⟩
  · rintro ⟨value, h⟩
    exact ⟨(key, value), mem_entries.2 h, rfl⟩

theorem keys_ascending (m : KeyMap α) : m.keys.Pairwise (· < ·) :=
  List.pairwise_map.2 m.ascending

/-- A list of ascending keys gives each of its keys the value beside it. -/
theorem get?_insertAll_of_mem {m : KeyMap α} {l : List (String × α)} {key : String} {value : α}
    (hl : l.Pairwise fun a b => a.1 < b.1) (h : (key, value) ∈ l) :
    (m.insertAll l).get? key = some value := by
  obtain ⟨front, back, rfl⟩ := List.append_of_mem h
  have hback := (List.pairwise_cons.1 (List.pairwise_append.1 hl).2.1).1
  exact get?_insertAll_last fun e he heq => String.lt_irrefl _ (heq ▸ hback e he)

theorem place_of_last {key : String} {value : α} {l : List (String × α)} (h : ∀ e ∈ l, e.1 < key) :
    place key value l = l ++ [(key, value)] := by
  induction l with
  | nil => rfl
  | cons e rest ih =>
    obtain ⟨hfirst, hrest⟩ := List.forall_mem_cons.1 h
    have hnot : ¬ key < e.1 := fun hlt => String.lt_irrefl _ (String.lt_trans hlt hfirst)
    rw [place, if_neg hnot, if_pos hfirst, ih hrest, List.cons_append]

/-- A map binds no more than its entries, each of them once. -/
theorem ofList_entries (m : KeyMap α) : ofList m.entries = m := by
  have hbuilt : ∀ (l : List (String × α)) (built : KeyMap α),
      (built.entries ++ l).Pairwise (fun a b => a.1 < b.1) →
      (built.insertAll l).entries = built.entries ++ l := by
    intro l
    induction l with
    | nil => simp
    | cons e rest ih =>
      intro built h
      have hlast : ∀ b ∈ built.entries, b.1 < e.1 := fun b hb =>
        (List.pairwise_append.1 h).2.2 b hb e List.mem_cons_self
      have hplaced : (built.insert e.1 e.2).entries = built.entries ++ [e] := place_of_last hlast
      have hpairwise : ((built.insert e.1 e.2).entries ++ rest).Pairwise fun a b => a.1 < b.1 := by
        rw [hplaced, List.append_assoc]
        exact h
      rw [insertAll_cons, ih _ hpairwise, hplaced, List.append_assoc, List.singleton_append]
  have hext : ∀ a b : KeyMap α, a.entries = b.entries → a = b := by
    rintro ⟨_, _⟩ ⟨_, _⟩ rfl
    rfl
  exact hext _ _ (hbuilt m.entries empty (by simpa using m.ascending))

end ConformanceSuite.KeyMap
