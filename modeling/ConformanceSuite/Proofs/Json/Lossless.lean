import Mathlib.Data.List.Defs
import Mathlib.Data.List.Basic
import ConformanceSuite.Json.Encoder
import ConformanceSuite.Proofs.Json.Written
import ConformanceSuite.Proofs.KeyMap

/-!
# Writing and reading that lose nothing

A type is written and read without loss if each of its values is read from every tree that shows
what was written of it. This is so of texts, truth values and small integers, it carries over to
lists and maps, and to records by their fields: `Lossless.record`. What is read without loss from
trees is read without loss from texts: `Lossless.decodeText`.
-/

namespace ConformanceSuite.Json

variable {α β : Type} {room : Nat} {write : α → Json} {read : Decoder α}

/-- What is written of each value has room for its containers, is not `null`, and is read back from
every tree that shows it. -/
structure Lossless (room : Nat) (write : α → Json) (read : Decoder α) : Prop where
  legible : ∀ a, Legible room (write a)
  present : ∀ a, write a ≠ .null
  reads : ∀ {s a}, Shows s (write a) → read s = .ok a

/-- Each value is read back from the bytes of its compact text. -/
def ReadsBack (write : α → Json) (read : Decoder α) : Prop :=
  ∀ a, decodeText read (bytesOf (write a).render) = .ok a

theorem Lossless.readsBack (h : Lossless room write read) (hroom : room < depthLimit) :
    ReadsBack write read := by
  intro a
  obtain ⟨s, stop, htext, hshows⟩ := ofText_write (h.legible a) hroom
  rw [decodeText, htext]
  simp only [h.reads hshows]
  rfl

/-! ### Leaves and collections -/

theorem Lossless.string (room : Nat) : Lossless room Json.string Decoder.string where
  legible := .string room
  present := by simp
  reads h := by
    cases h
    rfl

theorem Lossless.bool (room : Nat) : Lossless room Json.bool Decoder.bool where
  legible := .bool room
  present := by simp
  reads h := by
    cases h
    rfl

/-- Natural numbers of 64 bits are held exactly. -/
theorem inRange_of_lt {n : Nat} (h : n < UInt64.size) : InRange n := by
  have hsize : UInt64.size = 18446744073709551616 := rfl
  have h63 : Int.pow 2 63 = 9223372036854775808 := by decide
  have h64 : Int.pow 2 64 = 18446744073709551616 := by decide
  rw [InRange, h63, h64]
  omega

theorem ofNat_of_lt {n : Nat} (h : n < UInt64.size) :
    ofNat n = .number (.integer n (inRange_of_lt h)) := by
  rw [ofNat, ofInt, Number.ofInt, dif_pos (inRange_of_lt h)]

theorem inRange_toNat (n : UInt16) : InRange n.toNat :=
  inRange_of_lt (Nat.lt_trans n.toNat_lt (by decide))

theorem ofNat_toNat (n : UInt16) : ofNat n.toNat = .number (.integer n.toNat (inRange_toNat n)) :=
  ofNat_of_lt (Nat.lt_trans n.toNat_lt (by decide))

theorem Decoder.uint16_integer {n : Int} (hn : InRange n) (h : 0 ≤ n ∧ n < Int.pow 2 16)
    (start stop : Nat) :
    Decoder.uint16 (.number start stop (.ok (.integer n hn))) = .ok n.toNat.toUInt16 :=
  if_pos h

theorem Lossless.uint16 (room : Nat) :
    Lossless room (fun n : UInt16 => .ofNat n.toNat) Decoder.uint16 where
  legible n := by
    rw [ofNat_toNat]
    exact .integer room _ _
  present n := by
    rw [ofNat_toNat]
    simp
  reads {s n} h := by
    rw [ofNat_toNat] at h
    cases h
    have hlt : n.toNat < 65536 := n.toNat_lt
    have hpow : Int.pow 2 16 = 65536 := by decide
    rw [Decoder.uint16_integer _ (by rw [hpow]; omega), Int.toNat_natCast]
    exact congrArg Except.ok UInt16.ofNat_toNat

theorem Decoder.items_of_shows (h : Lossless room write read) {sources : List Source} {l : List α}
    (hs : ShowsItems sources (l.map write)) : Decoder.items read sources = .ok l := by
  induction l generalizing sources with
  | nil =>
    cases hs
    rfl
  | cons a rest ih =>
    cases hs with
    | cons first others => simp [Decoder.items, h.reads first, ih others, bind, Except.bind]

theorem Closing.Sound.check {closing : Closing} (h : closing.Sound) : closing.check = .ok () := by
  cases closing with
  | fault f => exact absurd rfl (h f)
  | bracket stop => rfl
  | unreached => rfl
  | inMemory => rfl

theorem Closing.Sound.skip {closing : Closing} (h : closing.Sound) :
    Decoder.skipClosing closing = .ok () := by
  cases closing with
  | fault f => exact absurd rfl (h f)
  | bracket stop => rfl
  | unreached => rfl
  | inMemory => rfl

theorem Closing.Sound.closingFailure? {closing : Closing} (h : closing.Sound) (time : Nat) :
    Decoder.closingFailure? time closing = none := by
  cases closing with
  | fault f => exact absurd rfl (h f)
  | bracket stop => rfl
  | unreached => rfl
  | inMemory => rfl

theorem Lossless.list (h : Lossless room write read) :
    Lossless (room + 1) (Json.ofList write) (Decoder.list read) where
  legible l := .array fun j hj => by
    obtain ⟨a, -, rfl⟩ := List.mem_map.1 hj
    exact h.legible a
  present := by simp [Json.ofList]
  reads hs := by
    cases hs with
    | array start shown closed =>
      simp [Decoder.list, Decoder.enter, Decoder.items_of_shows h shown, closed.check, bind,
        Except.bind]

theorem Decoder.members_of_shows (h : Lossless room write read) {sources : List (Key × Source)}
    {l : List (String × α)} (hs : ShowsMembers sources (l.map fun e => (e.1, write e.2))) :
    Decoder.members read sources = .ok l := by
  induction l generalizing sources with
  | nil =>
    cases hs
    rfl
  | cons e rest ih =>
    cases hs with
    | cons key first others =>
      simp [Decoder.members, key, h.reads first, ih others, bind, Except.bind]

theorem Lossless.map (h : Lossless room write read) :
    Lossless (room + 1) (Json.ofMap write) (Decoder.map read) where
  legible m := .object fun j hj => by
    obtain ⟨e, -, rfl⟩ := List.mem_map.1 hj
    exact h.legible e.2
  present := by simp [Json.ofMap]
  reads hs := by
    cases hs with
    | object start shown closed =>
      simp [Decoder.map, Decoder.enter, Decoder.members_of_shows h shown, closed.check, bind,
        Except.bind, KeyMap.ofList_entries]

/-! ### Records -/

/-- The members of fields, some of which are absent. -/
def presentMembers (fields : List (String × Option Json)) : List (String × Json) :=
  fields.flatMap fun f => optionalMember f.1 f.2

@[simp] theorem presentMembers_nil : presentMembers [] = [] := rfl

@[simp] theorem presentMembers_cons (f : String × Option Json)
    (fields : List (String × Option Json)) :
    presentMembers (f :: fields) = optionalMember f.1 f.2 ++ presentMembers fields := rfl

/-- The names of members are those of the fields that are present, in their order. -/
theorem presentMembers_sublist (fields : List (String × Option Json)) :
    ((presentMembers fields).map Prod.fst).Sublist (fields.map Prod.fst) := by
  induction fields with
  | nil => exact .slnil
  | cons f rest ih =>
    obtain ⟨name, value⟩ := f
    cases value with
    | none => exact ih.cons name
    | some j => exact ih.cons_cons name

namespace Decoder

theorem findField?_eq_none {sources : List (Key × Source)} {members : List (String × Json)}
    (h : ShowsMembers sources members) {name : String} (hname : name ∉ members.map Prod.fst)
    (time : Nat) : findField? name time sources = none := by
  induction members generalizing sources time with
  | nil =>
    cases h
    rfl
  | cons m rest ih =>
    cases h with
    | cons key first others =>
      rw [List.map_cons, List.mem_cons, not_or] at hname
      rw [findField?, key]
      simp only [if_neg (Ne.symm hname.1)]
      exact ih others hname.2 _

/-- A field is found exactly if it is present, and with its value. -/
theorem findField?_shows {fields : List (String × Option Json)}
    (hnodup : (fields.map Prod.fst).Nodup) {sources : List (Key × Source)}
    (h : ShowsMembers sources (presentMembers fields)) {i : Nat} {name : String}
    {value : Option Json} (hi : fields[i]? = some (name, value)) (time : Nat) :
    Option.Rel (fun found j => Shows found.2 j) (findField? name time sources) value := by
  induction fields generalizing sources i time with
  | nil => simp at hi
  | cons f rest ih =>
    obtain ⟨k, first⟩ := f
    rw [List.map_cons, List.nodup_cons] at hnodup
    have habsent : k ∉ (presentMembers rest).map Prod.fst := fun hk =>
      hnodup.1 ((presentMembers_sublist rest).subset hk)
    cases i with
    | zero =>
      obtain ⟨rfl, rfl⟩ : k = name ∧ first = value := by simpa using hi
      cases first with
      | none =>
        rw [findField?_eq_none h habsent]
        exact .none
      | some j =>
        cases h with
        | cons key shown others =>
          rw [findField?, key]
          simp only [if_true]
          exact .some shown
    | succ i =>
      have hi' : rest[i]? = some (name, value) := by simpa using hi
      cases first with
      | none => exact ih hnodup.2 h hi' time
      | some j =>
        cases h with
        | cons key shown others =>
          have hne : k ≠ name := by
            rintro rfl
            exact hnodup.1 (List.mem_map.2 ⟨_, List.mem_of_getElem? hi', rfl⟩)
          rw [findField?, key]
          simp only [if_neg hne]
          exact ih hnodup.2 others hi' _

mutual

/-- A tree that shows a value can be passed over. -/
theorem skip_of_shows : ∀ {s : Source} {j : Json}, Shows s j → skip s = .ok ()
  | _, _, .null _ _ | _, _, .bool _ _ _ | _, _, .number _ _ _ | _, _, .string _ _ _ => rfl
  | _, _, .array _ shown closed => by
    rw [skip, skipItems_of_shows shown]
    exact closed.skip
  | _, _, .object _ shown closed => by
    rw [skip, skipMembers_of_shows shown]
    exact closed.skip

theorem skipItems_of_shows : ∀ {sources : List Source} {items : List Json},
    ShowsItems sources items → skipItems sources = .ok ()
  | _, _, .nil => rfl
  | _, _, .cons first rest => by
    rw [skipItems, skip_of_shows first]
    exact skipItems_of_shows rest

theorem skipMembers_of_shows : ∀ {sources : List (Key × Source)} {members : List (String × Json)},
    ShowsMembers sources members → skipMembers sources = .ok ()
  | _, _, .nil => rfl
  | _, _, .cons _ first rest => by
    rw [skipMembers, skip_of_shows first]
    exact skipMembers_of_shows rest

end

/-- Members with names of their own are all in order, whether they are asked for or not. -/
theorem memberFailure?_shows {sources : List (Key × Source)} {members : List (String × Json)}
    (h : ShowsMembers sources members) (hnodup : (members.map Prod.fst).Nodup)
    (names : List String) (time : Nat) (seen : List String)
    (hseen : ∀ name ∈ members.map Prod.fst, name ∉ seen) :
    memberFailure? names time seen sources = none := by
  induction members generalizing sources seen time with
  | nil =>
    cases h
    rfl
  | cons m rest ih =>
    cases h with
    | @cons k own s v _ _ key shown others =>
      rw [List.map_cons] at hnodup hseen
      obtain ⟨hfresh, hseen⟩ := List.forall_mem_cons.1 hseen
      obtain ⟨hnotmem, hnodup⟩ := List.nodup_cons.1 hnodup
      have hseen' : ∀ name ∈ rest.map Prod.fst, name ∉ own :: seen := by
        intro name hmem
        rw [List.mem_cons, not_or]
        exact ⟨fun heq => hnotmem (heq ▸ hmem), hseen name hmem⟩
      rw [memberFailure?, key]
      by_cases hname : own ∈ names
      · simp [hname, hfresh, ih others hnodup _ _ hseen']
      · simp [hname, skip_of_shows shown, ih others hnodup _ _ hseen]

end Decoder

namespace Fields

variable {f : Fields} {values : List (Option Json)}

/-- The parts of a record show the values of its fields. -/
def Show (f : Fields) (values : List (Option Json)) : Prop :=
  ∀ i value, values[i]? = some value →
    Option.Rel (fun found j => Shows found.2 j) (f.find i) value

theorem Show.required (h : f.Show values) (i : Nat) (hd : Lossless room write read) {a : α}
    (hi : values[i]? = some (some (write a))) : f.required i read = ⟨.ok a⟩ := by
  have hfind := h i _ hi
  rw [Fields.required]
  generalize f.find i = found at hfind
  cases hfind with
  | some shown => simp only [readAt, hd.reads shown]

theorem Show.withDefault (h : f.Show values) (i : Nat) (hd : Lossless room write read) {a : α}
    (hi : values[i]? = some (some (write a))) (default : α) :
    f.withDefault i default read = ⟨.ok a⟩ := by
  have hfind := h i _ hi
  rw [Fields.withDefault]
  generalize f.find i = found at hfind
  cases hfind with
  | some shown => simp only [readAt, hd.reads shown]

theorem optional_of_shows {s : Source} {j : Json} (h : Shows s j) (hj : j ≠ .null)
    (d : Decoder α) : Decoder.optional d s = (d s).map some := by
  cases h with
  | null => exact absurd rfl hj
  | bool | number | string | array | object => rfl

/-- An optional field reads back as absent or as its value. -/
theorem Show.optionalOrAbsent (h : f.Show values) (i : Nat) (hd : Lossless room write read)
    {o : Option α} (hi : values[i]? = some (o.map write)) :
    f.optionalOrAbsent i read = ⟨.ok o⟩ := by
  have hfind := h i _ hi
  rw [Fields.optionalOrAbsent, Fields.withDefault]
  generalize f.find i = found at hfind
  cases o with
  | none =>
    cases hfind
    rfl
  | some a =>
    cases hfind with
    | some shown =>
      simp only [readAt, optional_of_shows shown (hd.present a), hd.reads shown]
      rfl

end Fields

theorem Lossless.fits (h : Lossless room write read) (a : α) :
    ∀ j ∈ some (write a), Legible room j := by
  rintro j ⟨⟩
  exact h.legible a

theorem Lossless.fitsMap (h : Lossless room write read) (o : Option α) :
    ∀ j ∈ o.map write, Legible room j := by
  intro j hj
  obtain ⟨a, -, rfl⟩ := Option.map_eq_some_iff.1 hj
  exact h.legible a

/-- A record is read back if its fields have names of their own, and it is made of what they are
read as. -/
theorem Lossless.record {title : String} {names : List String} {build : Fields → Fielded α}
    (fields : α → List (String × Option Json))
    (hwrite : ∀ a, write a = .object (presentMembers (fields a)))
    (hnames : ∀ a, (fields a).map Prod.fst = names) (hnodup : names.Nodup)
    (hfits : ∀ a, (fields a).Forall fun f => ∀ j ∈ f.2, Legible room j)
    (hbuild : ∀ a f, Fields.Show f ((fields a).map Prod.snd) → build f = ⟨.ok a⟩) :
    Lossless (room + 1) write (Decoder.record title names build) where
  legible a := by
    rw [hwrite]
    refine .object fun m hm => ?_
    obtain ⟨f, hf, hm⟩ := List.mem_flatMap.1 hm
    have hfit := List.forall_iff_forall_mem.1 (hfits a) f hf
    obtain ⟨name, value⟩ := f
    cases value with
    | none => cases hm
    | some j =>
      rw [List.mem_singleton.1 hm]
      exact hfit j rfl
  present a := by simp [hwrite]
  reads {s a} h := by
    rw [hwrite] at h
    cases h with
    | @object start sources _ closing shown closed =>
      have hsublist : ((presentMembers (fields a)).map Prod.fst).Sublist names :=
        hnames a ▸ presentMembers_sublist (fields a)
      have hmembers := Decoder.memberFailure?_shows shown (hnodup.sublist hsublist) names 0 []
        fun _ _ => List.not_mem_nil
      have hclosing := closed.closingFailure? sources.length
      simp only [Decoder.record, Decoder.enter, bind, Except.bind, hmembers, hclosing]
      rw [hbuild a]
      · rfl
      · intro i value hi
        obtain ⟨⟨name, value⟩, hfield, rfl⟩ : ∃ field, (fields a)[i]? = some field ∧
            field.2 = value := by simpa using hi
        have hname : names[i]? = some name := by
          rw [← hnames a, List.getElem?_map, hfield]
          rfl
        simp only [hname, Option.bind_some]
        exact Decoder.findField?_shows (hnames a ▸ hnodup) shown hfield 0

end ConformanceSuite.Json
