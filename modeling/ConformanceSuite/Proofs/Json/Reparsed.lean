import ConformanceSuite.Proofs.Json.Lossless
import ConformanceSuite.Proofs.Json.Members

/-!
# Texts that are written again

The value of a text can be written in compact form and read again. Its objects have members with
names of their own, and its containers are not nested more deeply than a reader goes, since it has
been read once already. What a reader may lose is only in the doubles: a value without them is read
again as it was, `parse_render_of_parse`.
-/

namespace ConformanceSuite.Json

/-- No number is held as a double, however deep it stands: each is an integer that fits. -/
inductive WithoutDoubles : Json → Prop
  | null : WithoutDoubles .null
  | bool (b : Bool) : WithoutDoubles (.bool b)
  | integer (n : Int) (h : InRange n) : WithoutDoubles (.number (.integer n h))
  | string (s : String) : WithoutDoubles (.string s)
  | array {items : List Json} (each : ∀ x ∈ items, WithoutDoubles x) :
      WithoutDoubles (.array items)
  | object {members : List (String × Json)} (each : ∀ m ∈ members, WithoutDoubles m.2) :
      WithoutDoubles (.object members)

/-- No object has two members with one name, however deep it stands. -/
inductive Distinct : Json → Prop
  | null : Distinct .null
  | bool (b : Bool) : Distinct (.bool b)
  | number (n : Number) : Distinct (.number n)
  | string (s : String) : Distinct (.string s)
  | array {items : List Json} (each : ∀ x ∈ items, Distinct x) : Distinct (.array items)
  | object {members : List (String × Json)} (names : (members.map Prod.fst).Nodup)
      (each : ∀ m ∈ members, Distinct m.2) : Distinct (.object members)

/-! ### Parts of trees -/

/-- What holds of the value of each tree holds of each of the items that are read. -/
theorem forall_of_jsonItems {P : Json → Prop} {sources : List Source} {items : List Json}
    (h : Decoder.jsonItems sources = .ok items)
    (each : ∀ s ∈ sources, ∀ j, Decoder.json s = .ok j → P j) : ∀ x ∈ items, P x := by
  induction sources generalizing items with
  | nil =>
    cases h
    exact fun x hx => absurd hx List.not_mem_nil
  | cons s rest ih =>
    rw [Decoder.jsonItems] at h
    obtain ⟨j, hj, h⟩ := exists_of_bind h
    obtain ⟨others, hothers, h⟩ := exists_of_bind h
    cases h
    obtain ⟨hfirst, hrest⟩ := List.forall_mem_cons.1 each
    exact List.forall_mem_cons.2 ⟨hfirst j hj, ih hothers hrest⟩

/-- What holds of the value of each tree holds of each of the members that are read. -/
theorem forall_of_jsonMembers {P : Json → Prop} {sources : List (Key × Source)}
    {pairs : List (String × Json)} (h : Decoder.jsonMembers sources = .ok pairs)
    (each : ∀ s ∈ sources, ∀ j, Decoder.json s.2 = .ok j → P j) : ∀ m ∈ pairs, P m.2 := by
  induction sources generalizing pairs with
  | nil =>
    cases h
    exact fun m hm => absurd hm List.not_mem_nil
  | cons s rest ih =>
    obtain ⟨k, s⟩ := s
    rw [Decoder.jsonMembers] at h
    obtain ⟨name, _, h⟩ := exists_of_bind h
    obtain ⟨j, hj, h⟩ := exists_of_bind h
    obtain ⟨others, hothers, h⟩ := exists_of_bind h
    cases h
    obtain ⟨hfirst, hrest⟩ := List.forall_mem_cons.1 each
    exact List.forall_mem_cons.2 ⟨hfirst j hj, ih hothers hrest⟩

/-! ### Names that are distinct -/

mutual

/-- Whatever is read has objects without repeated names. -/
theorem distinct_of_json : ∀ (s : Source) {j : Json}, Decoder.json s = .ok j → Distinct j
  | .fault _ _, _, h => by cases h
  | .null _ _, _, h => by
    cases h
    exact .null
  | .bool _ _ b, _, h => by
    cases h
    exact .bool b
  | .number _ _ reading, _, h => by
    cases reading with
    | error p => cases h
    | ok n =>
      cases h
      exact .number n
  | .string _ _ reading, _, h => by
    cases reading with
    | error p => cases h
    | ok s =>
      cases h
      exact .string s
  | .array _ _ sources _, _, h => by
    obtain ⟨_, items, hitems, rfl⟩ := of_json_array h
    exact .array (forall_of_jsonItems hitems (distinct_of_jsonItems sources))
  | .object _ _ sources _, _, h => by
    obtain ⟨_, pairs, hpairs, rfl⟩ := of_json_object h
    have heach := forall_of_jsonMembers hpairs (distinct_of_jsonMembers sources)
    exact .object (nodup_membersOf pairs) fun m hm => heach m (mem_of_mem_membersOf hm)

theorem distinct_of_jsonItems :
    ∀ (sources : List Source), ∀ s ∈ sources, ∀ j, Decoder.json s = .ok j → Distinct j
  | [] => fun _ hs => absurd hs List.not_mem_nil
  | s :: rest =>
    List.forall_mem_cons.2 ⟨fun _ => distinct_of_json s, distinct_of_jsonItems rest⟩

theorem distinct_of_jsonMembers :
    ∀ (sources : List (Key × Source)), ∀ s ∈ sources, ∀ j, Decoder.json s.2 = .ok j → Distinct j
  | [] => fun _ hs => absurd hs List.not_mem_nil
  | (_, s) :: rest =>
    List.forall_mem_cons.2 ⟨fun _ => distinct_of_json s, distinct_of_jsonMembers rest⟩

end

mutual

/-- A tree that shows a value with distinct names is read as that value. -/
theorem json_of_shows : ∀ {s : Source} {j : Json}, Shows s j → Distinct j → Decoder.json s = .ok j
  | _, _, .null _ _, _ => rfl
  | _, _, .bool _ _ _, _ => rfl
  | _, _, .number _ _ _, _ => rfl
  | _, _, .string _ _ _, _ => rfl
  | _, _, .array _ shown closed, .array each => by
    simp [Decoder.json, Decoder.enter, jsonItems_of_shows shown each, closed.check, bind,
      Except.bind]
  | _, _, .object _ shown closed, .object names each => by
    simp [Decoder.json, Decoder.enter, jsonMembers_of_shows shown each, closed.check,
      membersOf_of_nodup names, bind, Except.bind]

theorem jsonItems_of_shows : ∀ {sources : List Source} {items : List Json},
    ShowsItems sources items → (∀ x ∈ items, Distinct x) → Decoder.jsonItems sources = .ok items
  | _, _, .nil, _ => rfl
  | _, _, .cons first rest, each => by
    obtain ⟨hfirst, hrest⟩ := List.forall_mem_cons.1 each
    simp [Decoder.jsonItems, json_of_shows first hfirst, jsonItems_of_shows rest hrest, bind,
      Except.bind]

theorem jsonMembers_of_shows : ∀ {sources : List (Key × Source)} {members : List (String × Json)},
    ShowsMembers sources members → (∀ m ∈ members, Distinct m.2) →
      Decoder.jsonMembers sources = .ok members
  | _, _, .nil, _ => rfl
  | _, _, .cons key first rest, each => by
    obtain ⟨hfirst, hrest⟩ := List.forall_mem_cons.1 each
    simp [Decoder.jsonMembers, key, json_of_shows first hfirst, jsonMembers_of_shows rest hrest,
      bind, Except.bind]

end

/-! ### Depth -/

/-- Whatever value without doubles is read from a tree fits at a depth. -/
def Fits (depth : Nat) (s : Source) : Prop :=
  ∀ j, Decoder.json s = .ok j → WithoutDoubles j → Legible (depthLimit - 1 - depth) j

namespace Fits

variable {depth : Nat}

theorem fault (start : Nat) (f : Fault) : Fits depth (.fault start f) := by
  intro j h
  cases h

theorem null (start stop : Nat) : Fits depth (.null start stop) := by
  intro j h _
  cases h
  exact .null _

theorem bool (start stop : Nat) (b : Bool) : Fits depth (.bool start stop b) := by
  intro j h _
  cases h
  exact .bool _ b

theorem number (start stop : Nat) (reading : Except Problem Number) :
    Fits depth (.number start stop reading) := by
  intro j h hj
  cases reading with
  | error p => cases h
  | ok n =>
    cases h
    cases hj with
    | integer n hn => exact .integer _ n hn

theorem string (start stop : Nat) (reading : Except Problem String) :
    Fits depth (.string start stop reading) := by
  intro j h _
  cases reading with
  | error p => cases h
  | ok s =>
    cases h
    exact .string _ s

/-- A container that is entered leaves room for the containers in it. -/
theorem room {start : Nat} (h : Source.depthProblem depth start = none) :
    depthLimit - 1 - depth = depthLimit - 1 - (depth + 1) + 1 := by
  rw [Source.depthProblem] at h
  split_ifs at h with hdeep
  omega

theorem array {start : Nat} {sources : List Source} {closing : Closing}
    (each : ∀ s ∈ sources, Fits (depth + 1) s) :
    Fits depth (.array start (Source.depthProblem depth start) sources closing) := by
  intro j h hj
  obtain ⟨henter, items, hitems, rfl⟩ := of_json_array h
  cases hj with
  | array hdoubles =>
    rw [room henter]
    refine .array fun x hx => ?_
    exact forall_of_jsonItems (P := fun j => WithoutDoubles j → Legible _ j) hitems each x hx
      (hdoubles x hx)

theorem object {start : Nat} {sources : List (Key × Source)} {closing : Closing}
    (each : ∀ s ∈ sources, Fits (depth + 1) s.2) :
    Fits depth (.object start (Source.depthProblem depth start) sources closing) := by
  intro j h hj
  obtain ⟨henter, pairs, hpairs, rfl⟩ := of_json_object h
  cases hj with
  | object hdoubles =>
    rw [room henter]
    refine .object fun m hm => ?_
    exact forall_of_jsonMembers (P := fun j => WithoutDoubles j → Legible _ j) hpairs each m
      (mem_of_mem_membersOf hm) (hdoubles m hm)

theorem leaf {α : Type} {start : Nat} {reading : Except Problem (α × Reader)}
    {skipping : Except Problem Reader} {make : Nat → Except Problem α → Source}
    (each : ∀ stop found, Fits depth (make stop found)) :
    Fits depth (Source.leaf start reading skipping make).1 := by
  unfold Source.leaf
  split
  · exact each _ _
  · split
    · exact each _ _
    · exact fault _ _

theorem word {r : Reader} {letters : List UInt8} {make : Nat → Source}
    (each : ∀ stop, Fits depth (make stop)) : Fits depth (Source.word r letters make).1 := by
  unfold Source.word
  split
  · exact each _
  · exact fault _ _

end Fits

open Source in
mutual

/-- A value that is read at a depth fits there. -/
theorem fits_readValue : ∀ (fuel depth : Nat) (r : Reader), Fits depth (readValue fuel depth r).1
  | 0, _, _ => .fault _ _
  | fuel + 1, depth, r => by
    rw [readValue]
    split
    · exact .fault _ _
    · exact .word fun _ => .null _ _
    · exact .word fun _ => .bool _ _ _
    · exact .word fun _ => .bool _ _ _
    · exact .leaf fun _ _ => .string _ _ _
    · exact .array (fits_readItems fuel (depth + 1) _ _ _ fun _ hs => absurd hs List.not_mem_nil)
    · exact .object
        (fits_readMembers fuel (depth + 1) _ _ _ fun _ hs => absurd hs List.not_mem_nil)
    · split
      · exact .leaf fun _ _ => .number _ _ _
      · exact .fault _ _

theorem fits_readItems : ∀ (fuel depth : Nat) (first : Bool) (r : Reader) (acc : List Source),
    (∀ s ∈ acc, Fits depth s) → ∀ s ∈ (readItems fuel depth first r acc).1, Fits depth s
  | 0, _, _, _, _, hacc => fun s hs => hacc s (List.mem_reverse.1 hs)
  | fuel + 1, depth, first, r, acc, hacc => by
    have hreverse : ∀ s ∈ acc.reverse, Fits depth s := fun s hs => hacc s (List.mem_reverse.1 hs)
    rw [readItems]
    split
    · exact hreverse
    · exact hreverse
    · rename_i item _
      have hitem := fits_readValue fuel depth item
      have hcons : ∀ s ∈ (readValue fuel depth item).1 :: acc, Fits depth s :=
        List.forall_mem_cons.2 ⟨hitem, hacc⟩
      split
      · rename_i hread
        rw [hread] at hcons
        exact fits_readItems fuel depth _ _ _ hcons
      · rename_i hread
        rw [hread] at hcons
        exact fun s hs => hcons s (List.mem_reverse.1 hs)

theorem fits_readMembers : ∀ (fuel depth : Nat) (first : Bool) (r : Reader)
    (acc : List (Key × Source)), (∀ s ∈ acc, Fits depth s.2) →
      ∀ s ∈ (readMembers fuel depth first r acc).1, Fits depth s.2
  | 0, _, _, _, _, hacc => fun s hs => hacc s (List.mem_reverse.1 hs)
  | fuel + 1, depth, first, r, acc, hacc => by
    have hreverse : ∀ s ∈ acc.reverse, Fits depth s.2 :=
      fun s hs => hacc s (List.mem_reverse.1 hs)
    rw [readMembers]
    split
    · exact hreverse
    · exact hreverse
    · split
      · exact hreverse
      · rename_i k behind _
        split
        · rename_i f _
          -- a key without a colon stands in front of no value
          have hcons : ∀ s ∈ (k, fault behind.offset f) :: acc, Fits depth s.2 :=
            List.forall_mem_cons.2 ⟨.fault _ _, hacc⟩
          exact fun s hs => hcons s (List.mem_reverse.1 hs)
        · rename_i member _
          have hcons : ∀ s ∈ (k, (readValue fuel depth member).1) :: acc, Fits depth s.2 :=
            List.forall_mem_cons.2 ⟨fits_readValue fuel depth member, hacc⟩
          split
          · rename_i hread
            rw [hread] at hcons
            exact fits_readMembers fuel depth _ _ _ hcons
          · rename_i hread
            rw [hread] at hcons
            exact fun s hs => hcons s (List.mem_reverse.1 hs)

end

/-! ### Whole texts -/

section Texts

variable {text : List UInt8} {value : Json}

theorem distinct_of_parse (h : parse text = .ok value) : Distinct value :=
  distinct_of_json _ (json_of_parse h)

/-- The value of a text leaves room for its containers. -/
theorem legible_of_parse (h : parse text = .ok value) (hdoubles : WithoutDoubles value) :
    Legible (depthLimit - 1) value :=
  fits_readValue _ 0 _ value (json_of_parse h) hdoubles

/-- A value that leaves room for its containers, with distinct names, is read back from its compact
text. -/
theorem parse_render {room : Nat} (hlegible : Legible room value) (hroom : room < depthLimit)
    (hdistinct : Distinct value) : parse (bytesOf value.render) = .ok value := by
  obtain ⟨s, stop, htext, hshows⟩ := ofText_write hlegible hroom
  rw [parse, decodeText, htext]
  simp only [json_of_shows hshows hdistinct]
  rfl

/-- The value of a text is read again from its compact text, unless it has doubles. -/
theorem parse_render_of_parse (h : parse text = .ok value) (hdoubles : WithoutDoubles value) :
    parse (bytesOf value.render) = .ok value :=
  parse_render (legible_of_parse h hdoubles) (by decide) (distinct_of_parse h)

end Texts

end ConformanceSuite.Json
