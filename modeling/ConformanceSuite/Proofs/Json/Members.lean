import Mathlib.Tactic.SplitIfs
import ConformanceSuite.Json.Decoder

/-!
# Members of objects

An object keeps one member for each name, the last that its text gives it: `findMember?_membersOf`.
What is read from a text as an object has the members that the text spells, `exists_spells`.
-/

namespace ConformanceSuite.Json

/-! ### Names that repeat -/

/-- The value of the last member with a name. -/
def lastMember? (name : String) (pairs : List (String × Json)) : Option Json :=
  pairs.reverse.lookup name

theorem findMember?_foldl (pairs acc : List (String × Json)) (key : String) :
    findMember? key (pairs.foldl (fun acc p => setMember p.1 p.2 acc) acc) =
      (lastMember? key pairs).or (findMember? key acc) := by
  unfold lastMember?
  induction pairs generalizing acc with
  | nil => rfl
  | cons p rest ih =>
    obtain ⟨name, value⟩ := p
    rw [List.foldl_cons, ih, findMember?_setMember, List.reverse_cons, List.lookup_append,
      Option.or_assoc]
    by_cases h : name = key
    · subst h
      simp
    · have hne : (key == name) = false := by simpa using Ne.symm h
      simp [List.lookup_cons, h, hne]

/-- Of members with one name the last one counts. -/
theorem findMember?_membersOf (pairs : List (String × Json)) (key : String) :
    findMember? key (membersOf pairs) = lastMember? key pairs := by
  rw [membersOf, findMember?_foldl, findMember?, Option.or_none]

/-- A new name is put at the end. -/
theorem setMember_of_notMem {key : String} {l : List (String × Json)} (h : key ∉ l.map Prod.fst)
    (value : Json) : setMember key value l = l ++ [(key, value)] := by
  induction l with
  | nil => rfl
  | cons m rest ih =>
    obtain ⟨k, v⟩ := m
    rw [List.map_cons, List.mem_cons, not_or] at h
    rw [setMember, if_neg (Ne.symm h.1), ih h.2, List.cons_append]

theorem keys_setMember (key : String) (value : Json) (l : List (String × Json)) :
    (setMember key value l).map Prod.fst =
      if key ∈ l.map Prod.fst then l.map Prod.fst else l.map Prod.fst ++ [key] := by
  induction l with
  | nil => simp [setMember]
  | cons m rest ih =>
    obtain ⟨k, v⟩ := m
    rw [setMember]
    by_cases hk : k = key
    · simp [hk]
    · have hne : key ≠ k := Ne.symm hk
      rw [if_neg hk, List.map_cons, ih]
      by_cases hmem : key ∈ rest.map Prod.fst
      · simp only [List.map_cons, List.mem_cons, hne, hmem, if_true, or_true]
      · simp only [List.map_cons, List.mem_cons, hne, hmem, if_false, or_false, List.cons_append]

theorem mem_setMember {key : String} {value : Json} {l : List (String × Json)}
    {m : String × Json} (h : m ∈ setMember key value l) : m = (key, value) ∨ m ∈ l := by
  induction l with
  | nil => exact .inl (List.mem_singleton.1 h)
  | cons first rest ih =>
    obtain ⟨k, v⟩ := first
    rw [setMember] at h
    split_ifs at h with hk
    · rcases List.mem_cons.1 h with rfl | hrest
      · exact .inl (by rw [hk])
      · exact .inr (List.mem_cons_of_mem _ hrest)
    · rcases List.mem_cons.1 h with rfl | hrest
      · exact .inr List.mem_cons_self
      · exact (ih hrest).imp_right (List.mem_cons_of_mem _)

/-- No two members of an object have the same name. -/
theorem nodup_membersOf (pairs : List (String × Json)) :
    ((membersOf pairs).map Prod.fst).Nodup := by
  -- of the members that are gathered so far, too
  suffices hfrom : ∀ acc : List (String × Json), (acc.map Prod.fst).Nodup →
      ((pairs.foldl (fun acc p => setMember p.1 p.2 acc) acc).map Prod.fst).Nodup from
    hfrom [] List.nodup_nil
  induction pairs with
  | nil => exact fun acc h => h
  | cons p rest ih =>
    intro acc h
    refine ih _ ?_
    rw [keys_setMember]
    split_ifs with hmem
    · exact h
    · refine List.nodup_append.2 ⟨h, by simp, ?_⟩
      rintro a ha b hb rfl
      exact hmem (List.mem_singleton.1 hb ▸ ha)

/-- The members of an object are among the pairs from which it is made. -/
theorem mem_of_mem_membersOf {pairs : List (String × Json)} {m : String × Json}
    (h : m ∈ membersOf pairs) : m ∈ pairs := by
  suffices hfrom : ∀ acc, m ∈ pairs.foldl (fun acc p => setMember p.1 p.2 acc) acc →
      m ∈ pairs ∨ m ∈ acc from (hfrom [] h).resolve_right List.not_mem_nil
  clear h
  induction pairs with
  | nil => exact fun acc h => .inr h
  | cons p rest ih =>
    intro acc h
    rcases ih _ h with hrest | hacc
    · exact .inl (List.mem_cons_of_mem _ hrest)
    · rcases mem_setMember hacc with rfl | hacc
      · exact .inl List.mem_cons_self
      · exact .inr hacc

/-- Pairs with names of their own are members as they stand. -/
theorem membersOf_of_nodup {pairs : List (String × Json)} (h : (pairs.map Prod.fst).Nodup) :
    membersOf pairs = pairs := by
  suffices hfrom : ∀ acc : List (String × Json), ((acc ++ pairs).map Prod.fst).Nodup →
      pairs.foldl (fun acc p => setMember p.1 p.2 acc) acc = acc ++ pairs from hfrom [] h
  clear h
  induction pairs with
  | nil => exact fun acc _ => (List.append_nil acc).symm
  | cons p rest ih =>
    intro acc h
    have hfresh : p.1 ∉ acc.map Prod.fst := by
      intro hmem
      rw [List.map_append, List.map_cons] at h
      exact (List.nodup_append.1 h).2.2 _ hmem _ List.mem_cons_self rfl
    rw [List.foldl_cons, setMember_of_notMem hfresh, ih _ (by simpa using h), List.append_assoc]
    rfl

/-! ### Members in a text -/

/-- The members of an object in a text, in the order of the text; names may repeat. -/
def Spells (text : List UInt8) (pairs : List (String × Json)) : Prop :=
  ∃ start tooDeep sources closing,
    (Source.ofText text).1 = .object start tooDeep sources closing ∧
      Decoder.jsonMembers sources = .ok pairs

theorem exists_of_bind {ε α β : Type} {x : Except ε α} {f : α → Except ε β} {b : β}
    (h : x >>= f = .ok b) : ∃ a, x = .ok a ∧ f a = .ok b := by
  cases x with
  | error e => cases h
  | ok a => exact ⟨a, rfl, h⟩

section Trees

variable {start : Nat} {tooDeep : Option Problem} {closing : Closing} {value : Json}

theorem Decoder.eq_none_of_enter {u : Unit} (h : Decoder.enter tooDeep = .ok u) :
    tooDeep = none := by
  cases tooDeep with
  | none => rfl
  | some p => cases h

/-- The value of an array is the array of the values of its items. -/
theorem of_json_array {sources : List Source}
    (h : Decoder.json (.array start tooDeep sources closing) = .ok value) :
    tooDeep = none ∧ ∃ items, Decoder.jsonItems sources = .ok items ∧ value = .array items := by
  rw [Decoder.json] at h
  obtain ⟨_, henter, h⟩ := exists_of_bind h
  obtain ⟨items, hitems, h⟩ := exists_of_bind h
  obtain ⟨_, _, h⟩ := exists_of_bind h
  cases h
  exact ⟨Decoder.eq_none_of_enter henter, items, hitems, rfl⟩

/-- The value of an object is the object of the values of its members. -/
theorem of_json_object {sources : List (Key × Source)}
    (h : Decoder.json (.object start tooDeep sources closing) = .ok value) :
    tooDeep = none ∧ ∃ pairs, Decoder.jsonMembers sources = .ok pairs ∧
      value = .object (membersOf pairs) := by
  rw [Decoder.json] at h
  obtain ⟨_, henter, h⟩ := exists_of_bind h
  obtain ⟨pairs, hpairs, h⟩ := exists_of_bind h
  obtain ⟨_, _, h⟩ := exists_of_bind h
  cases h
  exact ⟨Decoder.eq_none_of_enter henter, pairs, hpairs, rfl⟩

end Trees

/-- Only the tree of an object is read as an object. -/
theorem of_json_eq_object {source : Source} {members : List (String × Json)}
    (h : Decoder.json source = .ok (.object members)) :
    ∃ start tooDeep sources closing pairs, source = .object start tooDeep sources closing ∧
      Decoder.jsonMembers sources = .ok pairs ∧ members = membersOf pairs := by
  cases source with
  | fault start f => cases h
  | null start stop => cases h
  | bool start stop b => cases h
  | number start stop reading => cases reading <;> cases h
  | string start stop reading => cases reading <;> cases h
  | array start tooDeep items closing =>
    obtain ⟨-, values, -, h⟩ := of_json_array h
    cases h
  | object start tooDeep sources closing =>
    obtain ⟨-, pairs, hpairs, h⟩ := of_json_object h
    cases h
    exact ⟨start, tooDeep, sources, closing, pairs, rfl, hpairs, rfl⟩

theorem json_of_parse {text : List UInt8} {value : Json} (h : parse text = .ok value) :
    Decoder.json (Source.ofText text).1 = .ok value := by
  unfold parse decodeText at h
  cases hread : Decoder.json (Source.ofText text).1 with
  | error p => simp [hread] at h
  | ok found =>
    simp only [hread] at h
    split at h
    · rw [Except.ok.inj h]
    · split_ifs at h
      rw [Except.ok.inj h]

/-- An object that is read has the members that its text spells. -/
theorem exists_spells {text : List UInt8} {members : List (String × Json)}
    (h : parse text = .ok (.object members)) :
    ∃ pairs, Spells text pairs ∧ members = membersOf pairs := by
  obtain ⟨start, tooDeep, sources, closing, pairs, hsource, hpairs, hmembers⟩ :=
    of_json_eq_object (json_of_parse h)
  exact ⟨pairs, ⟨start, tooDeep, sources, closing, hsource, hpairs⟩, hmembers⟩

end ConformanceSuite.Json
