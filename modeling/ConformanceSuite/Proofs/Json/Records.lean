import ConformanceSuite.Proofs.Json.Lossless

/-!
# Records of values

A value is read as a record by the members of an object or by the items of an array. From a tree
that shows the value nothing can go wrong but in the fields themselves: `record_object`,
`record_array` and `record_surplus`. Members that are no fields are passed over, and items behind
the last field are refused.
-/

namespace ConformanceSuite.Json

variable {α β : Type}

/-! ### Values from several fields -/

namespace Fielded

/-- All fields are read. -/
def Succeeds (x : Fielded α) : Prop := ∃ a, x.result = .ok a

theorem succeeds_ok (a : α) : Succeeds ⟨.ok a⟩ := ⟨a, rfl⟩

theorem not_succeeds_error (e : Failure) : ¬ Succeeds (⟨.error e⟩ : Fielded α) := by
  rintro ⟨_, h⟩
  cases h

theorem succeeds_map (f : α → β) (x : Fielded α) : (f <$> x).Succeeds ↔ x.Succeeds := by
  obtain ⟨e | a⟩ := x
  · exact iff_of_false (not_succeeds_error e) (not_succeeds_error e)
  · exact iff_of_true (succeeds_ok (f a)) (succeeds_ok a)

theorem succeeds_seq (f : Fielded (α → β)) (x : Fielded α) :
    (f <*> x).Succeeds ↔ f.Succeeds ∧ x.Succeeds := by
  obtain ⟨e | g⟩ := f
  · have hfirst : ¬ (Succeeds (⟨.error e⟩ : Fielded (α → β)) ∧ x.Succeeds) :=
      fun h => not_succeeds_error e h.1
    obtain ⟨e' | a⟩ := x
    · exact iff_of_false (not_succeeds_error (earlier e e')) hfirst
    · exact iff_of_false (not_succeeds_error e) hfirst
  · obtain ⟨e' | a⟩ := x
    · exact iff_of_false (not_succeeds_error e') fun h => not_succeeds_error e' h.2
    · exact iff_of_true (succeeds_ok (g a)) ⟨succeeds_ok g, succeeds_ok a⟩

theorem settle_none_iff (x : Fielded α) :
    (∃ a, Decoder.settle none x = .ok a) ↔ x.Succeeds := by
  obtain ⟨e | a⟩ := x
  · refine iff_of_false ?_ (not_succeeds_error e)
    rintro ⟨_, h⟩
    cases h
  · exact iff_of_true ⟨a, rfl⟩ (succeeds_ok a)

/-- A failure of the container as a whole is not made good by its fields. -/
theorem settle_some_ne (e : Failure) (x : Fielded α) (a : α) :
    Decoder.settle (some e) x ≠ .ok a := by
  obtain ⟨_ | _⟩ := x
  · exact fun h => by cases h
  · exact fun h => by cases h

end Fielded

/-! ### Parts of containers -/

/-- A field is found with a value that is shown, or there is neither. -/
abbrev Fields.Finds (f : Fields) (index : Nat) (value : Option Json) : Prop :=
  Option.Rel (fun found j => Shows found.2 j) (f.find index) value

theorem findField?_of_shows {sources : List (Key × Source)} {members : List (String × Json)}
    (h : ShowsMembers sources members) (name : String) (time : Nat) :
    Option.Rel (fun found j => Shows found.2 j) (Decoder.findField? name time sources)
      (findMember? name members) := by
  induction members generalizing sources time with
  | nil =>
    cases h
    exact .none
  | cons m rest ih =>
    cases h with
    | @cons k own s v _ _ key shown others =>
      rw [Decoder.findField?, key, findMember?]
      by_cases hname : own = name
      · simp only [hname, if_true]
        exact .some shown
      · simp only [hname, if_false]
        exact ih others (time + 1)

theorem length_of_showsItems {sources : List Source} {items : List Json}
    (h : ShowsItems sources items) : sources.length = items.length := by
  induction items generalizing sources with
  | nil =>
    cases h
    rfl
  | cons x rest ih =>
    cases h with
    | cons first others => rw [List.length_cons, List.length_cons, ih others]

theorem getElem?_of_showsItems {sources : List Source} {items : List Json}
    (h : ShowsItems sources items) (index : Nat) :
    Option.Rel Shows sources[index]? items[index]? := by
  induction items generalizing sources index with
  | nil =>
    cases h
    exact .none
  | cons x rest ih =>
    cases h with
    | cons first others =>
      cases index with
      | zero => exact .some first
      | succ index =>
        rw [List.getElem?_cons_succ, List.getElem?_cons_succ]
        exact ih others index

/-! ### Records -/

section Records

variable (title : String) (names : List String) (build : Fields → Fielded α) {start : Nat}
  {closing : Closing}

/-- An object is read by the members that have the names of fields. -/
theorem record_object {sources : List (Key × Source)} {members : List (String × Json)}
    (shown : ShowsMembers sources members) (closed : closing.Sound)
    (hnodup : (members.map Prod.fst).Nodup) :
    ∃ f : Fields, (∀ index, f.Finds index ((names[index]?).bind (findMember? · members))) ∧
      Decoder.record title names build (.object start none sources closing) =
        Decoder.settle none (build f) := by
  have hmembers := Decoder.memberFailure?_shows shown hnodup names 0 []
    fun _ _ => List.not_mem_nil
  have hclosing := closed.closingFailure? sources.length
  simp only [Decoder.record, Decoder.enter, bind, Except.bind, hmembers, hclosing]
  refine ⟨_, fun index => ?_, rfl⟩
  cases hname : names[index]? with
  | none =>
    simp only [Fields.Finds, hname, Option.bind_none]
    exact .none
  | some name =>
    simp only [Fields.Finds, hname, Option.bind_some]
    exact findField?_of_shows shown name 0

/-- An array is read by the places of its items. -/
theorem record_array {sources : List Source} {items : List Json}
    (shown : ShowsItems sources items) (closed : closing.Sound)
    (hshort : items.length ≤ names.length) :
    ∃ f : Fields, (∀ index, f.Finds index items[index]?) ∧
      Decoder.record title names build (.array start none sources closing) =
        Decoder.settle none (build f) := by
  have hlength := length_of_showsItems shown
  have hclosing := closed.closingFailure? sources.length
  have hsurplus : Decoder.surplus? names.length sources closing = none := by
    have hdrop : sources.drop names.length = [] := List.drop_eq_nil_of_le (by omega)
    cases closing with
    | fault f => exact absurd rfl (closed f)
    | bracket | unreached | inMemory => simp only [Decoder.surplus?, hdrop]
  simp only [Decoder.record, Decoder.enter, bind, Except.bind, hclosing, hsurplus, Option.map_none,
    ite_self]
  refine ⟨_, fun index => ?_, rfl⟩
  have hitem := getElem?_of_showsItems shown index
  simp only [Fields.Finds]
  generalize sources[index]? = found, items[index]? = value at hitem
  cases hitem with
  | none => exact .none
  | some shown => exact .some shown

/-- An array with more items than there are fields is no record. -/
theorem record_surplus {sources : List Source} {items : List Json}
    (shown : ShowsItems sources items) (hlong : names.length < items.length) (a : α) :
    Decoder.record title names build (.array start none sources closing) ≠ .ok a := by
  have hlength := length_of_showsItems shown
  have hshort : ¬ sources.length < names.length := by omega
  obtain ⟨p, hsurplus⟩ : ∃ p, Decoder.surplus? names.length sources closing = some p := by
    obtain ⟨s, more, hdrop⟩ : ∃ s more, sources.drop names.length = s :: more :=
      List.exists_cons_of_ne_nil fun hnil => by
        have := List.drop_eq_nil_iff.1 hnil
        omega
    unfold Decoder.surplus?
    rw [hdrop]
    cases closing with
    | inMemory => exact ⟨_, rfl⟩
    | bracket | unreached | fault => exact ⟨_, rfl⟩
  simp only [Decoder.record, Decoder.enter, bind, Except.bind, hshort, if_false, hsurplus,
    Option.map_some]
  exact Fielded.settle_some_ne _ _ a

/-- What shows a leaf is no record. -/
theorem record_leaf {s : Source} {value : Json} (shown : Shows s value)
    (harray : value.array? = none) (hobject : value.object? = none) (a : α) :
    Decoder.record title names build s ≠ .ok a := by
  cases shown with
  | null | bool | number | string => exact fun h => by cases h
  | array => cases harray
  | object => cases hobject

end Records

/-- An optional field is read if it is absent or its value is. -/
theorem Fields.succeeds_optionalOrAbsent {f : Fields} {index : Nat} {value : Option Json}
    (h : f.Finds index value) {read : Decoder α} {P : Json → Prop}
    (hread : ∀ {s j}, Shows s j → ((∃ a, Decoder.optional read s = .ok a) ↔ P j)) :
    (f.optionalOrAbsent index read).Succeeds ↔ ∀ j ∈ value, P j := by
  have hfound : Option.Rel (fun found j => Shows found.2 j) (f.find index) value := h
  rw [Fields.optionalOrAbsent, Fields.withDefault]
  generalize f.find index = found at hfound
  cases hfound with
  | none =>
    refine iff_of_true (Fielded.succeeds_ok none) fun j hj => ?_
    cases hj
  | @some found j shown =>
    obtain ⟨time, s⟩ := found
    have hvalue : (∀ i ∈ some j, P i) ↔ P j := by simp
    rw [hvalue, ← hread shown]
    show (Fields.readAt (Decoder.optional read) time s).Succeeds ↔ _
    rw [Fields.readAt]
    cases Decoder.optional read s with
    | error p =>
      refine iff_of_false (Fielded.not_succeeds_error _) ?_
      rintro ⟨_, h⟩
      cases h
    | ok a => exact iff_of_true (Fielded.succeeds_ok a) ⟨a, rfl⟩

/-! ### Values that were never text -/

theorem Closing.sound_inMemory : Closing.inMemory.Sound := by
  intro f h
  cases h

mutual

/-- The tree of a value that was never text shows the value. -/
theorem shows_ofJson : ∀ j : Json, Shows (.ofJson j) j
  | .null => .null 0 0
  | .bool b => .bool 0 0 b
  | .number n => .number 0 0 n
  | .string s => .string 0 0 s
  | .array items => .array 0 (showsItems_ofItems items) Closing.sound_inMemory
  | .object members => .object 0 (showsMembers_ofMembers members) Closing.sound_inMemory

theorem showsItems_ofItems : ∀ items : List Json, ShowsItems (Source.ofItems items) items
  | [] => .nil
  | x :: rest => .cons (shows_ofJson x) (showsItems_ofItems rest)

theorem showsMembers_ofMembers :
    ∀ members : List (String × Json), ShowsMembers (Source.ofMembers members) members
  | [] => .nil
  | (_, v) :: rest => .cons rfl (shows_ofJson v) (showsMembers_ofMembers rest)

end

end ConformanceSuite.Json
