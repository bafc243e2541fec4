/-!
# Finite maps from texts

A map is the list of its entries in ascending key order, so equal maps are equal lists.
`get?_insert` and `get?_empty` describe a map by its look-ups.
-/

namespace ConformanceSuite

/-- A finite map from texts, held as its entries in ascending order of keys. -/
structure KeyMap (α : Type) where
  entries : List (String × α)
  ascending : entries.Pairwise (fun a b => a.1 < b.1)
  deriving DecidableEq

namespace KeyMap

variable {α β : Type}

/-- The map with no entry. -/
def empty : KeyMap α := ⟨[], .nil⟩

instance : Inhabited (KeyMap α) := ⟨empty⟩

/-- The value at the first entry with the key. -/
def find? (key : String) : List (String × α) → Option α
  | [] => none
  | (k, v) :: rest => if k = key then some v else find? key rest

/-- The value bound to a key. -/
def get? (m : KeyMap α) (key : String) : Option α :=
  find? key m.entries

/-- Whether a key is bound. -/
def contains (m : KeyMap α) (key : String) : Bool :=
  (m.get? key).isSome

/-- The number of entries. -/
def size (m : KeyMap α) : Nat :=
  m.entries.length

/-- The keys, in ascending order. -/
def keys (m : KeyMap α) : List String :=
  m.entries.map (·.1)

/-- Put an entry at its place in an ascending list, replacing an entry of the same key. -/
def place (key : String) (value : α) : List (String × α) → List (String × α)
  | [] => [(key, value)]
  | (k, v) :: rest =>
    if key < k then (key, value) :: (k, v) :: rest
    else if k < key then (k, v) :: place key value rest
    else (key, value) :: rest

theorem mem_place {key : String} {value : α} {l : List (String × α)} {e : String × α}
    (h : e ∈ place key value l) : e = (key, value) ∨ e ∈ l := by
  induction l with
  | nil => simpa [place] using h
  | cons x rest ih =>
    obtain ⟨k, v⟩ := x
    simp only [place] at h
    split at h
    · simpa using h
    · split at h
      · rcases List.mem_cons.1 h with h | h
        · simp [h]
        · rcases ih h with h | h <;> simp [h]
      · rcases List.mem_cons.1 h with h | h <;> simp [h]

theorem eq_of_not_lt {a b : String} (h : ¬ a < b) (h' : ¬ b < a) : a = b :=
  String.le_antisymm (String.not_lt.1 h') (String.not_lt.1 h)

theorem pairwise_place {key : String} {value : α} {l : List (String × α)}
    (h : l.Pairwise (fun a b => a.1 < b.1)) :
    (place key value l).Pairwise (fun a b => a.1 < b.1) := by
  induction l with
  | nil => simp [place]
  | cons x rest ih =>
    obtain ⟨k, v⟩ := x
    have ⟨hk, hrest⟩ := List.pairwise_cons.1 h
    simp only [place]
    split
    · rename_i hlt
      refine List.pairwise_cons.2 ⟨?_, h⟩
      intro e he
      rcases List.mem_cons.1 he with he | he
      · simpa [he] using hlt
      · exact String.lt_trans hlt (hk e he)
    · split
      · rename_i hlt
        refine List.pairwise_cons.2 ⟨?_, ih hrest⟩
        intro e he
        rcases mem_place he with he | he
        · simpa [he] using hlt
        · exact hk e he
      · rename_i h₁ h₂
        have : k = key := eq_of_not_lt h₂ h₁
        subst this
        exact List.pairwise_cons.2 ⟨hk, hrest⟩

/-- Bind a key to a value, replacing what it was bound to. -/
def insert (m : KeyMap α) (key : String) (value : α) : KeyMap α :=
  ⟨place key value m.entries, pairwise_place m.ascending⟩

/-- Bind the keys of a list of entries in order; the last of equal keys wins. -/
def insertAll (m : KeyMap α) (entries : List (String × α)) : KeyMap α :=
  entries.foldl (fun m e => m.insert e.1 e.2) m

/-- The map that binds the keys of a list of entries; the last of equal keys wins. -/
def ofList (entries : List (String × α)) : KeyMap α :=
  empty.insertAll entries

/-- Apply a function to every value. -/
def mapValues (f : String → α → β) (m : KeyMap α) : KeyMap β :=
  ⟨m.entries.map fun e => (e.1, f e.1 e.2), by
    simpa [List.pairwise_map] using m.ascending⟩

@[simp] theorem get?_empty (key : String) : (empty : KeyMap α).get? key = none := rfl

@[simp] theorem entries_empty : (empty : KeyMap α).entries = [] := rfl

theorem find?_place_self (key : String) (value : α) (l : List (String × α)) :
    find? key (place key value l) = some value := by
  induction l with
  | nil => simp [place, find?]
  | cons x rest ih =>
    obtain ⟨k, v⟩ := x
    simp only [place]
    split
    · simp [find?]
    · split
      · rename_i hlt
        have : k ≠ key := fun h => String.lt_irrefl _ (h ▸ hlt)
        simp [find?, this, ih]
      · simp [find?]

theorem find?_place_of_ne {key other : String} (value : α) (l : List (String × α))
    (h : key ≠ other) : find? other (place key value l) = find? other l := by
  induction l with
  | nil => simp [place, find?, h]
  | cons x rest ih =>
    obtain ⟨k, v⟩ := x
    simp only [place]
    split
    · simp [find?, h]
    · split
      · simp [find?, ih]
      · rename_i h₁ h₂
        have : k = key := eq_of_not_lt h₂ h₁
        subst this
        simp [find?, h]

/-- Only the bound key changes. -/
theorem get?_insert (m : KeyMap α) (key other : String) (value : α) :
    (m.insert key value).get? other = if key = other then some value else m.get? other := by
  by_cases h : key = other
  · subst h
    simp [insert, get?, find?_place_self]
  · simp [insert, get?, h, find?_place_of_ne]

end KeyMap

end ConformanceSuite
