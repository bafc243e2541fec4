import ConformanceSuite.Json.Source
import ConformanceSuite.Proofs.Json.Leaves

/-!
# Trees of written values

A value without doubles that is not nested too deeply is read from its compact text as a tree that
shows it: the same kinds, items and members in the same places, nothing out of order. This is
`readValue_write`, by induction on the value, with whatever may follow it; `ofText_write` is the
whole text.
-/

namespace ConformanceSuite.Json

/-- A closing that is no fault. -/
def Closing.Sound (closing : Closing) : Prop := ∀ f, closing ≠ .fault f

theorem Closing.sound_bracket (stop : Nat) : (Closing.bracket stop).Sound := by
  intro f h
  cases h

mutual

/-- A tree without faults that shows a value. Places do not matter. -/
inductive Shows : Source → Json → Prop
  | null (start stop : Nat) : Shows (.null start stop) .null
  | bool (start stop : Nat) (b : Bool) : Shows (.bool start stop b) (.bool b)
  | number (start stop : Nat) (n : Number) : Shows (.number start stop (.ok n)) (.number n)
  | string (start stop : Nat) (s : String) : Shows (.string start stop (.ok s)) (.string s)
  | array (start : Nat) {sources : List Source} {items : List Json} {closing : Closing}
      (shown : ShowsItems sources items) (closed : closing.Sound) :
      Shows (.array start none sources closing) (.array items)
  | object (start : Nat) {sources : List (Key × Source)} {members : List (String × Json)}
      {closing : Closing} (shown : ShowsMembers sources members) (closed : closing.Sound) :
      Shows (.object start none sources closing) (.object members)

/-- Trees that show values one by one. -/
inductive ShowsItems : List Source → List Json → Prop
  | nil : ShowsItems [] []
  | cons {s : Source} {j : Json} {sources : List Source} {items : List Json} (first : Shows s j)
      (rest : ShowsItems sources items) : ShowsItems (s :: sources) (j :: items)

/-- Keys and trees that show members one by one. -/
inductive ShowsMembers : List (Key × Source) → List (String × Json) → Prop
  | nil : ShowsMembers [] []
  | cons {k : Key} {name : String} {s : Source} {j : Json} {sources : List (Key × Source)}
      {members : List (String × Json)} (key : k.reading = .ok name) (first : Shows s j)
      (rest : ShowsMembers sources members) :
      ShowsMembers ((k, s) :: sources) ((name, j) :: members)

end

/-- A value with at most so many containers around each part, and without doubles. -/
inductive Legible : Nat → Json → Prop
  | null (room : Nat) : Legible room .null
  | bool (room : Nat) (b : Bool) : Legible room (.bool b)
  | integer (room : Nat) (n : Int) (h : InRange n) : Legible room (.number (.integer n h))
  | string (room : Nat) (s : String) : Legible room (.string s)
  | array {room : Nat} {items : List Json} (each : ∀ x ∈ items, Legible room x) :
      Legible (room + 1) (.array items)
  | object {room : Nat} {members : List (String × Json)} (each : ∀ m ∈ members, Legible room m.2) :
      Legible (room + 1) (.object members)

/-! ### Texts in front of other texts -/

theorem writeString_append (s : String) (rest : List Char) :
    writeString s rest = '"' :: (writeStringChars s.toList ['"'] ++ rest) := by
  have hchars : ∀ cs : List Char,
      writeStringChars cs ('"' :: rest) = writeStringChars cs ['"'] ++ rest := by
    intro cs
    induction cs with
    | nil => rfl
    | cons c cs ih =>
      rw [writeStringChars, List.foldr_cons, ← writeStringChars, ih, writeStringChars,
        writeStringChars, List.foldr_cons, List.append_assoc]
  rw [writeString, hchars]

mutual

/-- A value is written in front of a rest without regard to it. -/
theorem write_append : ∀ (j : Json) (rest : List Char), write j rest = write j [] ++ rest
  | .null, _ | .bool true, _ | .bool false, _ => rfl
  | .number n, rest => by rw [write, write, List.append_nil]
  | .string s, rest => by
    rw [write, write, writeString_append, writeString_append s []]
    simp
  | .array [], _ | .object [], _ => rfl
  | .array (x :: xs), rest => by
    rw [write, write, write_append x, write_append x (writeItems xs _), writeItems_append xs,
      writeItems_append xs [']']]
    simp
  | .object ((k, v) :: ms), rest => by
    rw [write, write, writeString_append, writeString_append k (':' :: write v _),
      write_append v, write_append v (writeMembers ms ['}']), writeMembers_append ms,
      writeMembers_append ms ['}']]
    simp

theorem writeItems_append :
    ∀ (xs : List Json) (rest : List Char), writeItems xs rest = writeItems xs [] ++ rest
  | [], _ => rfl
  | x :: xs, rest => by
    rw [writeItems, writeItems, write_append x, write_append x (writeItems xs []),
      writeItems_append xs]
    simp

theorem writeMembers_append :
    ∀ (ms : List (String × Json)) (rest : List Char),
      writeMembers ms rest = writeMembers ms [] ++ rest
  | [], _ => rfl
  | (k, v) :: ms, rest => by
    rw [writeMembers, writeMembers, writeString_append, writeString_append k (':' :: write v _),
      write_append v, write_append v (writeMembers ms []), writeMembers_append ms]
    simp

end

/-! ### Bytes of punctuation -/

@[simp] theorem utf8EncodeChar_quote : String.utf8EncodeChar '"' = [0x22] := by decide

@[simp] theorem utf8EncodeChar_comma : String.utf8EncodeChar ',' = [0x2c] := by decide

@[simp] theorem utf8EncodeChar_colon : String.utf8EncodeChar ':' = [0x3a] := by decide

@[simp] theorem utf8EncodeChar_openBracket : String.utf8EncodeChar '[' = [0x5b] := by decide

@[simp] theorem utf8EncodeChar_closeBracket : String.utf8EncodeChar ']' = [0x5d] := by decide

@[simp] theorem utf8EncodeChar_openBrace : String.utf8EncodeChar '{' = [0x7b] := by decide

@[simp] theorem utf8EncodeChar_closeBrace : String.utf8EncodeChar '}' = [0x7d] := by decide

theorem utf8_write_string (s : String) :
    utf8 (write (.string s) []) = 0x22 :: utf8 (writeStringChars s.toList ['"']) := by
  rw [write, writeString_append]
  simp

theorem utf8_write_array (x : Json) (xs : List Json) :
    utf8 (write (.array (x :: xs)) []) =
      0x5b :: (utf8 (write x []) ++ (utf8 (writeItems xs []) ++ [0x5d])) := by
  rw [write, write_append, writeItems_append]
  simp

theorem utf8_writeItems_cons (x : Json) (xs : List Json) :
    utf8 (writeItems (x :: xs) []) = 0x2c :: (utf8 (write x []) ++ utf8 (writeItems xs [])) := by
  rw [writeItems, write_append]
  simp

theorem utf8_write_object (k : String) (v : Json) (ms : List (String × Json)) :
    utf8 (write (.object ((k, v) :: ms)) []) =
      0x7b :: 0x22 :: (utf8 (writeStringChars k.toList ['"']) ++
        0x3a :: (utf8 (write v []) ++ (utf8 (writeMembers ms []) ++ [0x7d]))) := by
  rw [write, writeString_append, write_append, writeMembers_append]
  simp

theorem utf8_writeMembers_cons (k : String) (v : Json) (ms : List (String × Json)) :
    utf8 (writeMembers ((k, v) :: ms) []) =
      0x2c :: 0x22 :: (utf8 (writeStringChars k.toList ['"']) ++
        0x3a :: (utf8 (write v []) ++ utf8 (writeMembers ms []))) := by
  rw [writeMembers, writeString_append, write_append]
  simp

/-! ### Reading -/

theorem skipBlanks_cons {b : UInt8} (h : isBlank b = false) (offset : Nat) (rest : List UInt8) :
    Reader.skipBlanks ⟨offset, b :: rest⟩ = ⟨offset, b :: rest⟩ := by
  rw [Reader.skipBlanks, skipBlanks, if_neg (by simp [h])]

/-- A byte with which an item may begin. -/
structure StartsItem (b : UInt8) : Prop where
  visible : isBlank b = false
  opening : b ≠ 0x5d
  separated : b ≠ 0x2c

/-- The first byte of a natural number is a digit. -/
theorem exists_digit_toDigits (n : Nat) :
    ∃ b more, utf8 (Nat.toDigits 10 n) = b :: more ∧ isDigit b = true := by
  obtain ⟨c, more, hcs⟩ := List.exists_cons_of_ne_nil (Nat.toDigits_ne_nil (n := n) (b := 10))
  have hc : c.isDigit = true := by
    refine Nat.isDigit_of_mem_toDigits (b := 10) (n := n) (by decide) (by decide) ?_
    rw [hcs]
    exact List.mem_cons_self
  obtain ⟨b, hencode, hb, -⟩ := utf8EncodeChar_of_isDigit hc
  exact ⟨b, utf8 more, by rw [hcs, utf8_cons, hencode, List.singleton_append], hb⟩

/-- The first byte of an integer. -/
theorem integerChars_head (n : Int) :
    ∃ b more, utf8 (integerChars n) = b :: more ∧ (b = 0x2d ∨ isDigit b = true) := by
  by_cases hneg : n < 0
  · have hminus : String.utf8EncodeChar '-' = [0x2d] := by decide
    exact ⟨0x2d, _, by rw [integerChars, if_pos hneg, utf8_cons, hminus, List.singleton_append],
      .inl rfl⟩
  · obtain ⟨b, more, hbytes, hb⟩ := exists_digit_toDigits n.natAbs
    exact ⟨b, more, by rw [integerChars, if_neg hneg, hbytes], .inr hb⟩

/-- A digit is no other byte. -/
theorem ne_of_isDigit {b : UInt8} (h : isDigit b = true) (c : UInt8)
    (hc : c.toNat < 48 ∨ 57 < c.toNat) : b ≠ c := by
  have hrange : 48 ≤ b.toNat ∧ b.toNat ≤ 57 := by
    simpa [isDigit, UInt8.le_iff_toNat_le] using h
  rintro rfl
  omega

theorem startsItem_of_number {b : UInt8} (h : b = 0x2d ∨ isDigit b = true) : StartsItem b := by
  rcases h with rfl | h
  · exact ⟨by decide, by decide, by decide⟩
  · have hne := ne_of_isDigit h
    exact ⟨by simp [isBlank, hne 0x20 (by decide), hne 0x0a (by decide), hne 0x09 (by decide),
      hne 0x0d (by decide)], hne _ (by decide), hne _ (by decide)⟩

theorem Legible.starts {room : Nat} {j : Json} (h : Legible room j) :
    ∃ b more, utf8 (write j []) = b :: more ∧ StartsItem b := by
  cases h with
  | null => exact ⟨0x6e, _, rfl, by decide, by decide, by decide⟩
  | bool _ b =>
    cases b
    · exact ⟨0x66, _, rfl, by decide, by decide, by decide⟩
    · exact ⟨0x74, _, rfl, by decide, by decide, by decide⟩
  | integer _ n h =>
    obtain ⟨b, more, hbytes, hb⟩ := integerChars_head n
    exact ⟨b, more, by simpa [write, Number.chars] using hbytes, startsItem_of_number hb⟩
  | string _ s => exact ⟨0x22, _, utf8_write_string s, by decide, by decide, by decide⟩
  | @array _ items =>
    cases items with
    | nil => exact ⟨0x5b, _, rfl, by decide, by decide, by decide⟩
    | cons x xs => exact ⟨0x5b, _, utf8_write_array x xs, by decide, by decide, by decide⟩
  | @object _ members =>
    cases members with
    | nil => exact ⟨0x7b, _, rfl, by decide, by decide, by decide⟩
    | cons m ms => exact ⟨0x7b, _, utf8_write_object m.1 m.2 ms, by decide, by decide, by decide⟩

theorem endsNumber_cons {b : UInt8} (h : isDigit b = false ∧ b ≠ 0x2e ∧ b ≠ 0x65 ∧ b ≠ 0x45)
    (rest : List UInt8) : EndsNumber (b :: rest) := by
  intro c hc
  cases Option.some.inj hc
  exact h

theorem endsNumber_items (xs : List Json) (tail : List UInt8) :
    EndsNumber (utf8 (writeItems xs []) ++ 0x5d :: tail) := by
  cases xs with
  | nil => exact endsNumber_cons (by decide) tail
  | cons x xs =>
    rw [utf8_writeItems_cons]
    exact endsNumber_cons (by decide) _

theorem endsNumber_members (ms : List (String × Json)) (tail : List UInt8) :
    EndsNumber (utf8 (writeMembers ms []) ++ 0x7d :: tail) := by
  cases ms with
  | nil => exact endsNumber_cons (by decide) tail
  | cons m ms =>
    rw [utf8_writeMembers_cons]
    exact endsNumber_cons (by decide) _

open Source

theorem nextItem_close (first : Bool) (offset : Nat) (tail : List UInt8) :
    nextItem first ⟨offset, 0x5d :: tail⟩ = .close ⟨offset + 1, tail⟩ := by
  rw [nextItem, skipBlanks_cons (by decide)]
  rfl

theorem nextItem_first {b : UInt8} (h : StartsItem b) (offset : Nat) (rest : List UInt8) :
    nextItem true ⟨offset, b :: rest⟩ = .item ⟨offset, b :: rest⟩ := by
  rw [nextItem, skipBlanks_cons h.visible]
  simp [h.opening, h.separated]

theorem nextItem_comma {b : UInt8} (h : StartsItem b) (offset : Nat) (rest : List UInt8) :
    nextItem false ⟨offset, 0x2c :: b :: rest⟩ = .item ⟨offset + 1, b :: rest⟩ := by
  rw [nextItem, skipBlanks_cons (by decide)]
  simp [Reader.drop, skipBlanks_cons h.visible, h.opening]

theorem nextKey_close (first : Bool) (offset : Nat) (tail : List UInt8) :
    nextKey first ⟨offset, 0x7d :: tail⟩ = .close ⟨offset + 1, tail⟩ := by
  rw [nextKey, skipBlanks_cons (by decide)]
  rfl

theorem nextKey_first (offset : Nat) (rest : List UInt8) :
    nextKey true ⟨offset, 0x22 :: rest⟩ = .item ⟨offset + 1, rest⟩ := by
  rw [nextKey, skipBlanks_cons (by decide)]
  rfl

theorem nextKey_comma (offset : Nat) (rest : List UInt8) :
    nextKey false ⟨offset, 0x2c :: 0x22 :: rest⟩ = .item ⟨offset + 2, rest⟩ := by
  rw [nextKey, skipBlanks_cons (by decide)]
  simp [Reader.drop, skipBlanks_cons (b := 0x22) (by decide)]

/-- A written key is read back, and with it the colon behind it. -/
theorem key_write (k : String) (offset : Nat) (tail : List UInt8) :
    ∃ key' offset', key ⟨offset, utf8 (writeStringChars k.toList ['"']) ++ 0x3a :: tail⟩ =
        .ok (key', ⟨offset', 0x3a :: tail⟩) ∧ key'.reading = .ok k ∧
      colon ⟨offset', 0x3a :: tail⟩ = .ok ⟨offset' + 1, tail⟩ := by
  obtain ⟨offset', hread⟩ := readString_write k (0x3a :: tail) offset
  refine ⟨_, offset', by rw [key, hread], rfl, ?_⟩
  rw [colon, skipBlanks_cons (by decide)]
  rfl

/-- A value is read back at a depth, whatever follows it. -/
def ReadsAt (depth : Nat) (j : Json) : Prop :=
  ∀ fuel offset tail, EndsNumber tail → 2 * (utf8 (write j []) ++ tail).length ≤ fuel →
    ∃ s offset', readValue fuel depth ⟨offset, utf8 (write j []) ++ tail⟩ =
      (s, some ⟨offset', tail⟩) ∧ Shows s j

/-- One more item is read back, and the items go on behind it. -/
theorem readItems_item (fuel : Nat) (acc : List Source) {depth : Nat} {first : Bool} {x : Json}
    (hx : ReadsAt depth x) {offset start : Nat} {bytes tail : List UInt8}
    (hnext : nextItem first ⟨offset, bytes⟩ = .item ⟨start, utf8 (write x []) ++ tail⟩)
    (htail : EndsNumber tail) (hfuel : 2 * (utf8 (write x []) ++ tail).length ≤ fuel) :
    ∃ s offset', Shows s x ∧ readItems (fuel + 1) depth first ⟨offset, bytes⟩ acc =
      readItems fuel depth false ⟨offset', tail⟩ (s :: acc) := by
  obtain ⟨s, offset', hread, hshows⟩ := hx fuel start tail htail hfuel
  refine ⟨s, offset', hshows, ?_⟩
  rw [readItems, hnext]
  simp only [hread]

/-- The items behind the first are read back up to their bracket. -/
theorem readItems_rest {depth room : Nat} {xs : List Json} (hlegible : ∀ x ∈ xs, Legible room x)
    (hxs : ∀ x ∈ xs, ReadsAt depth x) (fuel offset : Nat) (tail : List UInt8) (acc : List Source)
    (hfuel : 2 * (utf8 (writeItems xs []) ++ 0x5d :: tail).length ≤ fuel) :
    ∃ sources stop,
      readItems fuel depth false ⟨offset, utf8 (writeItems xs []) ++ 0x5d :: tail⟩ acc =
      (acc.reverse ++ sources, .bracket stop, some ⟨stop, tail⟩) ∧ ShowsItems sources xs := by
  induction xs generalizing fuel offset acc with
  | nil =>
    obtain ⟨fuel, rfl⟩ : ∃ n, fuel = n + 1 := ⟨fuel - 1, by simp at hfuel; omega⟩
    refine ⟨[], offset + 1, ?_, .nil⟩
    rw [writeItems, utf8_nil, List.nil_append, readItems, nextItem_close, List.append_nil]
  | cons x xs ih =>
    obtain ⟨hx, hrest⟩ := List.forall_mem_cons.1 hxs
    obtain ⟨hlegible, hlegibles⟩ := List.forall_mem_cons.1 hlegible
    obtain ⟨b, more, hbytes, hstarts⟩ := hlegible.starts
    rw [utf8_writeItems_cons] at hfuel ⊢
    simp only [List.cons_append, List.append_assoc, List.length_cons, List.length_append] at hfuel ⊢
    obtain ⟨fuel, rfl⟩ : ∃ n, fuel = n + 1 := ⟨fuel - 1, by omega⟩
    have hnext := nextItem_comma hstarts offset
      (more ++ (utf8 (writeItems xs []) ++ 0x5d :: tail))
    rw [← List.cons_append, ← hbytes] at hnext
    obtain ⟨s, offset', hshows, hread⟩ := readItems_item fuel acc hx hnext
      (endsNumber_items xs tail) (by simp only [List.length_append, List.length_cons]; omega)
    obtain ⟨sources, stop, hread', hshows'⟩ := ih hlegibles hrest fuel offset' (s :: acc)
      (by simp only [List.length_append, List.length_cons]; omega)
    refine ⟨s :: sources, stop, ?_, .cons hshows hshows'⟩
    rw [hread, hread']
    simp

/-- One more member is read back, and the members go on behind it. -/
theorem readMembers_member (fuel : Nat) (acc : List (Key × Source)) {depth : Nat} {first : Bool}
    {k : String} {v : Json} (hv : ReadsAt depth v) {offset start : Nat} {bytes tail : List UInt8}
    (hnext : nextKey first ⟨offset, bytes⟩ = .item ⟨start,
      utf8 (writeStringChars k.toList ['"']) ++ 0x3a :: (utf8 (write v []) ++ tail)⟩)
    (htail : EndsNumber tail) (hfuel : 2 * (utf8 (write v []) ++ tail).length ≤ fuel) :
    ∃ key s offset', key.reading = .ok k ∧ Shows s v ∧
      readMembers (fuel + 1) depth first ⟨offset, bytes⟩ acc =
        readMembers fuel depth false ⟨offset', tail⟩ ((key, s) :: acc) := by
  obtain ⟨key', middle, hkey, hreading, hcolon⟩ := key_write k start (utf8 (write v []) ++ tail)
  obtain ⟨s, offset', hread, hshows⟩ := hv fuel (middle + 1) tail htail hfuel
  refine ⟨key', s, offset', hreading, hshows, ?_⟩
  rw [readMembers, hnext]
  simp only [hkey, hcolon, hread]

/-- The members behind the first are read back up to their bracket. -/
theorem readMembers_rest {depth : Nat} {ms : List (String × Json)}
    (hms : ∀ m ∈ ms, ReadsAt depth m.2) (fuel offset : Nat) (tail : List UInt8)
    (acc : List (Key × Source))
    (hfuel : 2 * (utf8 (writeMembers ms []) ++ 0x7d :: tail).length ≤ fuel) :
    ∃ sources stop,
      readMembers fuel depth false ⟨offset, utf8 (writeMembers ms []) ++ 0x7d :: tail⟩ acc =
        (acc.reverse ++ sources, .bracket stop, some ⟨stop, tail⟩) ∧ ShowsMembers sources ms := by
  induction ms generalizing fuel offset acc with
  | nil =>
    obtain ⟨fuel, rfl⟩ : ∃ n, fuel = n + 1 := ⟨fuel - 1, by simp at hfuel; omega⟩
    refine ⟨[], offset + 1, ?_, .nil⟩
    rw [writeMembers, utf8_nil, List.nil_append, readMembers, nextKey_close, List.append_nil]
  | cons m ms ih =>
    obtain ⟨k, v⟩ := m
    obtain ⟨hv, hrest⟩ := List.forall_mem_cons.1 hms
    rw [utf8_writeMembers_cons] at hfuel ⊢
    simp only [List.cons_append, List.append_assoc, List.length_cons, List.length_append] at hfuel ⊢
    obtain ⟨fuel, rfl⟩ : ∃ n, fuel = n + 1 := ⟨fuel - 1, by omega⟩
    have hnext := nextKey_comma offset (utf8 (writeStringChars k.toList ['"']) ++
      0x3a :: (utf8 (write v []) ++ (utf8 (writeMembers ms []) ++ 0x7d :: tail)))
    obtain ⟨key', s, offset', hkey, hshows, hread⟩ := readMembers_member fuel acc hv
      hnext (endsNumber_members ms tail)
      (by simp only [List.length_append, List.length_cons]; omega)
    obtain ⟨sources, stop, hread', hshows'⟩ := ih hrest fuel offset' ((key', s) :: acc)
      (by simp only [List.length_append, List.length_cons]; omega)
    refine ⟨(key', s) :: sources, stop, ?_, .cons hkey hshows hshows'⟩
    rw [hread, hread']
    simp

/-- There is fuel for the first byte of a value. -/
theorem ReadsAt.of_succ {depth : Nat} {j : Json} (b : UInt8) (more : List UInt8)
    (hbytes : utf8 (write j []) = b :: more)
    (h : ∀ fuel offset tail, EndsNumber tail → 2 * (more ++ tail).length < fuel →
      ∃ s offset', readValue (fuel + 1) depth ⟨offset, b :: (more ++ tail)⟩ =
        (s, some ⟨offset', tail⟩) ∧ Shows s j) : ReadsAt depth j := by
  intro fuel offset tail htail hfuel
  rw [hbytes, List.cons_append] at hfuel ⊢
  rw [List.length_cons] at hfuel
  obtain ⟨fuel, rfl⟩ : ∃ n, fuel = n + 1 := ⟨fuel - 1, by omega⟩
  exact h fuel offset tail htail (by omega)

theorem readValue_number {b : UInt8} (h : b = 0x2d ∨ isDigit b = true) (fuel depth offset : Nat)
    (rest : List UInt8) :
    readValue (fuel + 1) depth ⟨offset, b :: rest⟩ =
      leaf offset (readNumber ⟨offset, b :: rest⟩) (skipNumber ⟨offset, b :: rest⟩)
        (.number offset) := by
  rw [readValue, skipBlanks_cons (startsItem_of_number h).visible]
  rcases h with rfl | h
  · rfl
  · have hne := ne_of_isDigit h
    simp [hne 0x6e (by decide), hne 0x74 (by decide), hne 0x66 (by decide), hne 0x22 (by decide),
      hne 0x5b (by decide), hne 0x7b (by decide), h]

theorem readsAt_array {depth room : Nat} {items : List Json}
    (hlegible : ∀ x ∈ items, Legible room x) (hitems : ∀ x ∈ items, ReadsAt (depth + 1) x)
    (hdepth : depth + 1 < depthLimit) : ReadsAt depth (.array items) := by
  have hroom : ∀ start, depthProblem depth start = none := by
    intro start
    rw [depthProblem, if_neg (by omega)]
  cases items with
  | nil =>
    refine .of_succ 0x5b [0x5d] rfl fun fuel offset tail _ hfuel => ?_
    obtain ⟨fuel, rfl⟩ : ∃ n, fuel = n + 1 := ⟨fuel - 1, by omega⟩
    rw [readValue, skipBlanks_cons (by decide)]
    simp only [Reader.drop, List.drop_succ_cons, List.drop_zero, List.singleton_append, readItems,
      nextItem_close, hroom]
    exact ⟨_, _, rfl, .array offset .nil (Closing.sound_bracket _)⟩
  | cons x xs =>
    refine .of_succ _ _ (utf8_write_array x xs) fun fuel offset tail _ hfuel => ?_
    obtain ⟨hx, hxs⟩ := List.forall_mem_cons.1 hitems
    obtain ⟨hfirst, hrest⟩ := List.forall_mem_cons.1 hlegible
    obtain ⟨b, more, hbytes, hstarts⟩ := hfirst.starts
    simp only [List.append_assoc, List.singleton_append, List.length_append, List.length_cons]
      at hfuel ⊢
    obtain ⟨fuel, rfl⟩ : ∃ n, fuel = n + 1 := ⟨fuel - 1, by omega⟩
    have hnext := nextItem_first hstarts (offset + 1)
      (more ++ (utf8 (writeItems xs []) ++ 0x5d :: tail))
    rw [← List.cons_append, ← hbytes] at hnext
    obtain ⟨s, middle, hshows, hread⟩ := readItems_item fuel [] hx hnext
      (endsNumber_items xs tail) (by simp only [List.length_append, List.length_cons]; omega)
    obtain ⟨sources, stop, hread', hshows'⟩ := readItems_rest hrest hxs fuel middle tail [s]
      (by simp only [List.length_append, List.length_cons]; omega)
    rw [readValue, skipBlanks_cons (by decide)]
    simp only [Reader.drop, List.drop_succ_cons, List.drop_zero, hread, hread', hroom]
    exact ⟨_, _, rfl, .array offset (.cons hshows hshows') (Closing.sound_bracket _)⟩

theorem readsAt_object {depth : Nat} {members : List (String × Json)}
    (hmembers : ∀ m ∈ members, ReadsAt (depth + 1) m.2) (hdepth : depth + 1 < depthLimit) :
    ReadsAt depth (.object members) := by
  have hroom : ∀ start, depthProblem depth start = none := by
    intro start
    rw [depthProblem, if_neg (by omega)]
  cases members with
  | nil =>
    refine .of_succ 0x7b [0x7d] rfl fun fuel offset tail _ hfuel => ?_
    obtain ⟨fuel, rfl⟩ : ∃ n, fuel = n + 1 := ⟨fuel - 1, by omega⟩
    rw [readValue, skipBlanks_cons (by decide)]
    simp only [Reader.drop, List.drop_succ_cons, List.drop_zero, List.singleton_append,
      readMembers, nextKey_close, hroom]
    exact ⟨_, _, rfl, .object offset .nil (Closing.sound_bracket _)⟩
  | cons m ms =>
    obtain ⟨k, v⟩ := m
    refine .of_succ _ _ (utf8_write_object k v ms) fun fuel offset tail _ hfuel => ?_
    obtain ⟨hv, hms⟩ := List.forall_mem_cons.1 hmembers
    simp only [List.append_assoc, List.cons_append, List.nil_append, List.length_append,
      List.length_cons] at hfuel ⊢
    obtain ⟨fuel, rfl⟩ : ∃ n, fuel = n + 1 := ⟨fuel - 1, by omega⟩
    have hnext := nextKey_first (offset + 1) (utf8 (writeStringChars k.toList ['"']) ++
      0x3a :: (utf8 (write v []) ++ (utf8 (writeMembers ms []) ++ 0x7d :: tail)))
    obtain ⟨key', s, middle, hkey, hshows, hread⟩ := readMembers_member fuel [] hv
      hnext (endsNumber_members ms tail)
      (by simp only [List.length_append, List.length_cons]; omega)
    obtain ⟨sources, stop, hread', hshows'⟩ := readMembers_rest hms fuel middle tail
      [(key', s)] (by simp only [List.length_append, List.length_cons]; omega)
    rw [readValue, skipBlanks_cons (by decide)]
    simp only [Reader.drop, List.drop_succ_cons, List.drop_zero, hread, hread', hroom]
    exact ⟨_, _, rfl, .object offset (.cons hkey hshows hshows') (Closing.sound_bracket _)⟩

/-- A value that leaves room for its containers is read back. -/
theorem readValue_write {room depth : Nat} {j : Json} (h : Legible room j)
    (hdepth : depth + room < depthLimit) : ReadsAt depth j := by
  induction h generalizing depth with
  | null room =>
    refine .of_succ 0x6e [0x75, 0x6c, 0x6c] rfl fun fuel offset tail _ _ => ?_
    rw [readValue, skipBlanks_cons (by decide)]
    simp only [word, List.drop_succ_cons, List.drop_zero, List.cons_append,
      List.nil_append, readWord, if_true]
    exact ⟨_, _, rfl, .null _ _⟩
  | bool room b =>
    cases b with
    | true =>
      refine .of_succ 0x74 [0x72, 0x75, 0x65] rfl fun fuel offset tail _ _ => ?_
      rw [readValue, skipBlanks_cons (by decide)]
      simp only [word, List.drop_succ_cons, List.drop_zero, List.cons_append,
        List.nil_append, readWord, if_true]
      exact ⟨_, _, rfl, .bool _ _ true⟩
    | false =>
      refine .of_succ 0x66 [0x61, 0x6c, 0x73, 0x65] rfl fun fuel offset tail _ _ => ?_
      rw [readValue, skipBlanks_cons (by decide)]
      simp only [word, List.drop_succ_cons, List.drop_zero, List.cons_append,
        List.nil_append, readWord, if_true]
      exact ⟨_, _, rfl, .bool _ _ false⟩
  | integer room n h =>
    have hwrite : write (.number (.integer n h)) [] = integerChars n := by
      simp [write, Number.chars]
    obtain ⟨b, more, hbytes, hb⟩ := integerChars_head n
    refine .of_succ b more (by rw [hwrite, hbytes]) fun fuel offset tail htail _ => ?_
    obtain ⟨offset', hread⟩ := readNumber_write h htail offset
    rw [hbytes, List.cons_append] at hread
    rw [readValue_number hb, hread]
    exact ⟨_, _, rfl, .number _ _ _⟩
  | string room s =>
    refine .of_succ _ _ (utf8_write_string s) fun fuel offset tail _ _ => ?_
    obtain ⟨offset', hread⟩ := readString_write s tail (offset + 1)
    rw [readValue, skipBlanks_cons (by decide)]
    simp only [Reader.drop, List.drop_succ_cons, List.drop_zero, hread]
    exact ⟨_, _, rfl, .string _ _ s⟩
  | array each ih =>
    exact readsAt_array each (fun x hx => ih x hx (by omega)) (by omega)
  | object each ih =>
    exact readsAt_object (fun m hm => ih m hm (by omega)) (by omega)

/-- The whole text of a value is read as a tree that shows it, and nothing is left. -/
theorem ofText_write {room : Nat} {j : Json} (h : Legible room j) (hroom : room < depthLimit) :
    ∃ s stop, ofText (bytesOf j.render) = (s, some ⟨stop, []⟩) ∧ Shows s j := by
  have hend : EndsNumber [] := by simp [EndsNumber]
  have hreads : ReadsAt 0 j := readValue_write h (by omega)
  have hread := hreads (2 * (utf8 (write j [])).length + 2) 0 [] hend
    (by simp only [List.append_nil]; omega)
  rw [List.append_nil] at hread
  rw [render, bytesOf_ofList, ofText]
  exact hread

end ConformanceSuite.Json
