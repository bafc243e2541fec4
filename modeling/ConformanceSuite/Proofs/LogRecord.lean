import ConformanceSuite.LogRecord
import ConformanceSuite.Proofs.Json.Reparsed

/-!
# Log records read back

A reader of flat JSON objects gets from the text of a record the record that was written, whatever
its texts are and however large its numbers: `LogRecord.ofText?_text`. There is no line feed in that
text: `LogRecord.lineFeed_notMem_text`. Where all numbers are of 64 bits it is the compact text
of the record's JSON value and parses as that value: `LogRecord.parse_text`.
-/

namespace ConformanceSuite

open Json

namespace LogField

/-- The number of some digits. -/
def number (digits : List UInt8) : Nat :=
  digits.foldl (fun n b => 10 * n + (b.toNat - 0x30)) 0

/-- Read a field: `null`, a text, or a natural number of any size. -/
def read? (r : Reader) : Option (LogField × Reader) :=
  match r.rest with
  | 0x6e :: rest => (readWord [0x75, 0x6c, 0x6c] rest (r.offset + 1)).toOption.map (.unknown, ·)
  | 0x22 :: _ => (readString (r.drop 1)).toOption.map fun (s, after) => (.text s, after)
  | _ =>
    let (digits, after) := r.span isDigit
    if digits.isEmpty then none else some (.natural (number digits), after)

end LogField

namespace LogRecord

/-- Read the fields of a record up to its closing brace. -/
def readFields? : (fuel : Nat) → (first : Bool) → Reader → Option (LogRecord × Reader)
  | 0, _, _ => none
  | fuel + 1, first, r =>
    match Source.nextKey first r with
    | .close after => some ([], after)
    | .fault _ => none
    | .item r => do
      let (key, r) ← (Source.key r).toOption
      let name ← key.reading.toOption
      let r ← (Source.colon r).toOption
      let (field, r) ← LogField.read? r.skipBlanks
      let (more, r) ← readFields? fuel false r
      return ((name, field) :: more, r)

/-- The record of a text. -/
def ofText? (text : List UInt8) : Option LogRecord :=
  match text with
  | 0x7b :: rest => do
    let (record, after) ← readFields? text.length true ⟨1, rest⟩
    if after.rest.isEmpty then some record else none
  | _ => none

end LogRecord

/-! ### Texts in front of other texts -/

theorem LogField.write_append (f : LogField) (rest : List Char) :
    f.write rest = f.write [] ++ rest := by
  cases f with
  | unknown => rfl
  | text s => simp [write, writeString_append]
  | natural n => simp [write]

namespace LogRecord

theorem writeRest_append (r : LogRecord) (rest : List Char) :
    r.writeRest rest = r.writeRest [] ++ rest := by
  induction r with
  | nil => rfl
  | cons member more ih =>
    obtain ⟨name, field⟩ := member
    rw [writeRest, writeRest, writeString_append, writeString_append name (':' :: field.write _),
      field.write_append, field.write_append (writeRest more []), ih]
    simp

theorem utf8_writeRest_cons (name : String) (field : LogField) (more : LogRecord) :
    utf8 (writeRest ((name, field) :: more) []) =
      0x2c :: 0x22 :: (utf8 (writeStringChars name.toList ['"']) ++
        0x3a :: (utf8 (field.write []) ++ utf8 (more.writeRest []))) := by
  rw [writeRest, writeString_append, field.write_append]
  simp

theorem bytesOf_text_cons (name : String) (field : LogField) (more : LogRecord) :
    bytesOf (text ((name, field) :: more)) =
      0x7b :: 0x22 :: (utf8 (writeStringChars name.toList ['"']) ++
        0x3a :: (utf8 (field.write []) ++ (utf8 (more.writeRest []) ++ [0x7d]))) := by
  rw [text, bytesOf_ofList, write, writeString_append, field.write_append, writeRest_append]
  simp

end LogRecord

/-! ### Reading back -/

theorem LogField.number_utf8 {cs : List Char} (hcs : ∀ c ∈ cs, c.isDigit = true) :
    number (utf8 cs) = Nat.ofDigitChars 10 cs 0 := by
  have hfold : ∀ n, (utf8 cs).foldl (fun n b => 10 * n + (b.toNat - 0x30)) n =
      Nat.ofDigitChars 10 cs n := by
    induction cs with
    | nil => exact fun n => rfl
    | cons c rest ih =>
      intro n
      obtain ⟨hc, hrest⟩ := List.forall_mem_cons.1 hcs
      obtain ⟨b, hencode, -, hb⟩ := utf8EncodeChar_of_isDigit hc
      rw [Nat.ofDigitChars_cons, utf8_cons, hencode, List.singleton_append, List.foldl_cons,
        ih hrest, hb]
      rfl
  exact hfold 0

/-- A written field is read back in front of what ends a number. -/
theorem LogField.read?_write (f : LogField) {tail : List UInt8} (htail : EndsNumber tail)
    (offset : Nat) :
    ∃ offset', read? ⟨offset, utf8 (f.write []) ++ tail⟩ = some (f, ⟨offset', tail⟩) := by
  cases f with
  | unknown => exact ⟨_, rfl⟩
  | text s =>
    obtain ⟨offset', hread⟩ := readString_write s tail (offset + 1)
    refine ⟨offset', ?_⟩
    rw [write, writeString_append, List.append_nil, utf8_cons, utf8EncodeChar_quote,
      List.singleton_append, List.cons_append]
    simp [read?, Reader.drop, hread, Except.toOption]
  | natural n =>
    have hdigits : ∀ c ∈ Nat.toDigits 10 n, c.isDigit = true := fun c hc =>
      Nat.isDigit_of_mem_toDigits (by decide) (by decide) hc
    have hvalue : number (utf8 (Nat.toDigits 10 n)) = n := by
      rw [number_utf8 hdigits, Nat.ofDigitChars_ten_toDigits]
    have hne : (utf8 (Nat.toDigits 10 n)).isEmpty = false := by
      simp [utf8_eq_nil_iff, Nat.toDigits_ne_nil]
    obtain ⟨b, more, hbytes, hb⟩ := exists_digit_toDigits n
    refine ⟨offset + (utf8 (Nat.toDigits 10 n)).length, ?_⟩
    rw [write, List.append_nil, read?]
    -- the first byte is a digit, so neither `null` nor a text begins here
    split
    case h_1 heq =>
      simp only [hbytes, List.cons_append, List.cons.injEq] at heq
      exact absurd heq.1 (ne_of_isDigit hb _ (by decide))
    case h_2 heq =>
      simp only [hbytes, List.cons_append, List.cons.injEq] at heq
      exact absurd heq.1 (ne_of_isDigit hb _ (by decide))
    case h_3 => simp [span_digits hdigits htail, hvalue, hne]

/-- The first byte of a field is no blank. -/
theorem LogField.skipBlanks_write (f : LogField) (offset : Nat) (tail : List UInt8) :
    Reader.skipBlanks ⟨offset, utf8 (f.write []) ++ tail⟩ =
      ⟨offset, utf8 (f.write []) ++ tail⟩ := by
  cases f with
  | unknown => exact skipBlanks_cons (by decide) offset _
  | text s =>
    rw [write, writeString_append]
    exact skipBlanks_cons (by decide) offset _
  | natural n =>
    obtain ⟨b, more, hbytes, hb⟩ := exists_digit_toDigits n
    rw [write, List.append_nil, hbytes, List.cons_append]
    exact skipBlanks_cons (startsItem_of_number (.inr hb)).visible offset _

namespace LogRecord

/-- One more field is read back, and the fields go on behind it. -/
theorem readFields?_field (fuel : Nat) {first : Bool} {name : String} {field : LogField}
    {offset start : Nat} {bytes tail : List UInt8}
    (hnext : Source.nextKey first ⟨offset, bytes⟩ = .item ⟨start,
      utf8 (writeStringChars name.toList ['"']) ++ 0x3a :: (utf8 (field.write []) ++ tail)⟩)
    (htail : EndsNumber tail) :
    ∃ offset', readFields? (fuel + 1) first ⟨offset, bytes⟩ =
      (readFields? fuel false ⟨offset', tail⟩).map fun (more, r) => ((name, field) :: more, r) := by
  obtain ⟨key, middle, hkey, hname, hcolon⟩ :=
    key_write name start (utf8 (field.write []) ++ tail)
  obtain ⟨offset', hread⟩ := field.read?_write htail (middle + 1)
  refine ⟨offset', ?_⟩
  rw [readFields?, hnext]
  simp only [hkey, hname, hcolon, Except.toOption, Option.bind_eq_bind, Option.bind_some,
    field.skipBlanks_write, hread]
  cases readFields? fuel false ⟨offset', tail⟩ <;> rfl

theorem endsNumber_writeRest (r : LogRecord) (tail : List UInt8) :
    EndsNumber (utf8 (r.writeRest []) ++ 0x7d :: tail) := by
  cases r with
  | nil => exact endsNumber_cons (by decide) tail
  | cons member more =>
    rw [utf8_writeRest_cons]
    exact endsNumber_cons (by decide) _

/-- The fields behind the first are read back up to their brace. -/
theorem readFields?_writeRest (r : LogRecord) (fuel : Nat) (hfuel : r.length < fuel) (offset : Nat)
    (tail : List UInt8) :
    ∃ offset', readFields? fuel false ⟨offset, utf8 (r.writeRest []) ++ 0x7d :: tail⟩ =
      some (r, ⟨offset', tail⟩) := by
  induction r generalizing fuel offset with
  | nil =>
    obtain ⟨fuel, rfl⟩ : ∃ n, fuel = n + 1 := ⟨fuel - 1, by simp at hfuel; omega⟩
    refine ⟨offset + 1, ?_⟩
    rw [writeRest, utf8_nil, List.nil_append, readFields?, nextKey_close]
  | cons member more ih =>
    obtain ⟨name, field⟩ := member
    rw [List.length_cons] at hfuel
    obtain ⟨fuel, rfl⟩ : ∃ n, fuel = n + 1 := ⟨fuel - 1, by omega⟩
    rw [utf8_writeRest_cons]
    simp only [List.cons_append, List.append_assoc]
    obtain ⟨middle, hfield⟩ := readFields?_field fuel (nextKey_comma offset _)
      (endsNumber_writeRest more tail)
    obtain ⟨offset', hmore⟩ := ih fuel (by omega) middle
    exact ⟨offset', by rw [hfield, hmore]; rfl⟩

theorem length_le_writeRest (r : LogRecord) : r.length ≤ (utf8 (r.writeRest [])).length := by
  induction r with
  | nil => exact Nat.zero_le _
  | cons member more ih =>
    rw [utf8_writeRest_cons]
    simp only [List.length_cons, List.length_append]
    omega

/-- The record that was written is read back from its text. -/
theorem ofText?_text (r : LogRecord) : ofText? (bytesOf r.text) = some r := by
  cases r with
  | nil => rfl
  | cons member more =>
    obtain ⟨name, field⟩ := member
    have hread : ∀ fuel, more.length + 1 < fuel → ∃ offset', readFields? fuel true
        ⟨1, 0x22 :: (utf8 (writeStringChars name.toList ['"']) ++ 0x3a ::
          (utf8 (field.write []) ++ (utf8 (writeRest more []) ++ [0x7d])))⟩ =
        some ((name, field) :: more, ⟨offset', []⟩) := by
      intro fuel hfuel
      obtain ⟨fuel, rfl⟩ : ∃ n, fuel = n + 1 := ⟨fuel - 1, by omega⟩
      obtain ⟨middle, hfield⟩ := readFields?_field fuel (nextKey_first 1 _)
        (endsNumber_writeRest more [])
      obtain ⟨offset', hmore⟩ := readFields?_writeRest more fuel (by omega) middle []
      exact ⟨offset', by rw [hfield, hmore]; rfl⟩
    have hlength := length_le_writeRest more
    obtain ⟨offset', hread⟩ := hread (bytesOf (text ((name, field) :: more))).length (by
      rw [bytesOf_text_cons]
      simp only [List.length_cons, List.length_append]
      omega)
    rw [bytesOf_text_cons] at hread ⊢
    rw [ofText?, hread]
    rfl

/-! ### No line feed -/

theorem lineFeed_notMem_stringChar (c : Char) : '\n' ∉ stringChar c := by
  have hdigit : ∀ n < 16, Nat.digitChar n ≠ '\n' := by decide
  unfold stringChar
  split_ifs with h₁ h₂ h₃ h₄ h₅ h₆ h₇ hcontrol
  all_goals try decide
  · have hhigh := hdigit (c.toNat / 16) (by omega)
    have hlow := hdigit (c.toNat % 16) (by omega)
    simp [controlEscape, hhigh.symm, hlow.symm]
  · simpa using Ne.symm h₃

/-- A string brings no line feed with it, whatever its characters are. -/
theorem lineFeed_mem_of_writeString {s : String} {rest : List Char}
    (h : '\n' ∈ writeString s rest) : '\n' ∈ rest := by
  have hchars : ∀ cs : List Char, '\n' ∈ writeStringChars cs ('"' :: rest) → '\n' ∈ rest := by
    intro cs h
    induction cs with
    | nil => exact List.mem_of_ne_of_mem (by decide) h
    | cons c cs ih =>
      rw [writeStringChars, List.foldr_cons, ← writeStringChars] at h
      exact ih ((List.mem_append.1 h).resolve_left (lineFeed_notMem_stringChar c))
  exact hchars s.toList (List.mem_of_ne_of_mem (by decide) h)

theorem lineFeed_mem_of_field {f : LogField} {rest : List Char} (h : '\n' ∈ f.write rest) :
    '\n' ∈ rest := by
  cases f with
  | unknown => simpa [LogField.write] using h
  | text s => exact lineFeed_mem_of_writeString h
  | natural n =>
    refine (List.mem_append.1 h).resolve_left fun hdigit => ?_
    exact absurd (Nat.isDigit_of_mem_toDigits (by decide) (by decide) hdigit) (by decide)

theorem lineFeed_mem_of_writeRest {r : LogRecord} {rest : List Char}
    (h : '\n' ∈ r.writeRest rest) : '\n' ∈ rest := by
  induction r with
  | nil => exact h
  | cons member more ih =>
    rw [writeRest] at h
    have hvalue := lineFeed_mem_of_writeString (List.mem_of_ne_of_mem (by decide) h)
    exact ih (lineFeed_mem_of_field (List.mem_of_ne_of_mem (by decide) hvalue))

theorem lineFeed_notMem_write (r : LogRecord) : '\n' ∉ r.write := by
  cases r with
  | nil => decide
  | cons member more =>
    intro h
    rw [write] at h
    have hvalue := lineFeed_mem_of_writeString (List.mem_of_ne_of_mem (by decide) h)
    have hrest := lineFeed_mem_of_field (List.mem_of_ne_of_mem (by decide) hvalue)
    exact absurd (lineFeed_mem_of_writeRest hrest) (by decide)

/-- A line feed among the bytes of characters is one of the characters. -/
theorem lineFeed_mem_of_utf8 {cs : List Char} (h : (0x0a : UInt8) ∈ utf8 cs) : '\n' ∈ cs := by
  obtain ⟨c, hc, hb⟩ := List.mem_flatMap.1 h
  have hchar : c = '\n' := eq_of_mem_utf8EncodeChar (by decide) hb
  rwa [← hchar]

/-- The text of a record is a single line. -/
theorem lineFeed_notMem_text (r : LogRecord) : (0x0a : UInt8) ∉ bytesOf r.text := by
  rw [text, bytesOf_ofList]
  exact mt lineFeed_mem_of_utf8 (lineFeed_notMem_write r)

end LogRecord

/-! ### Numbers that a JSON value holds exactly -/

namespace LogField

/-- A number of 64 bits, or no number. -/
def Small (f : LogField) : Prop := ∀ n, f = .natural n → n < UInt64.size

theorem Small.write_eq {f : LogField} (h : f.Small) (rest : List Char) :
    f.write rest = Json.write f.toJson rest := by
  cases f with
  | unknown => simp [write, toJson, Json.write]
  | text s => simp [write, toJson, Json.write]
  | natural n =>
    rw [toJson, ofNat_of_lt (h n rfl), Json.write]
    simp [write, Number.chars, integerChars]

theorem Small.legible {f : LogField} (h : f.Small) (room : Nat) : Legible room f.toJson := by
  cases f with
  | unknown => exact .null room
  | text s => exact .string room s
  | natural n =>
    rw [toJson, ofNat_of_lt (h n rfl)]
    exact .integer room n _

theorem distinct (f : LogField) : Distinct f.toJson := by
  cases f with
  | unknown => exact .null
  | text s => exact .string s
  | natural n => exact .number _

end LogField

namespace LogRecord

variable {r : LogRecord}

theorem writeRest_eq (h : ∀ member ∈ r, member.2.Small) (rest : List Char) :
    r.writeRest rest =
      writeMembers (r.map fun (name, field) => (name, field.toJson)) rest := by
  induction r with
  | nil => rw [writeRest, List.map_nil, writeMembers]
  | cons member more ih =>
    obtain ⟨hfield, hmore⟩ := List.forall_mem_cons.1 h
    rw [writeRest, List.map_cons, writeMembers, ih hmore, hfield.write_eq]

theorem write_eq (h : ∀ member ∈ r, member.2.Small) : r.write = Json.write r.toJson [] := by
  cases r with
  | nil => rw [write, toJson, List.map_nil, Json.write]
  | cons member more =>
    obtain ⟨hfield, hmore⟩ := List.forall_mem_cons.1 h
    rw [write, toJson, List.map_cons, Json.write, writeRest_eq hmore, hfield.write_eq]

/-- Without larger numbers the text of a record parses as its JSON value. -/
theorem parse_text (hnames : (r.map Prod.fst).Nodup) (h : ∀ member ∈ r, member.2.Small) :
    parse (bytesOf r.text) = .ok r.toJson := by
  have htext : r.text = r.toJson.render := by rw [text, render, write_eq h]
  have hlegible : Legible (0 + 1) r.toJson := by
    refine .object fun m hm => ?_
    obtain ⟨member, hmember, rfl⟩ := List.mem_map.1 hm
    exact (h member hmember).legible 0
  have hdistinct : Distinct r.toJson := by
    refine .object (by simpa [List.map_map, Function.comp_def] using hnames) fun m hm => ?_
    obtain ⟨member, -, rfl⟩ := List.mem_map.1 hm
    exact member.2.distinct
  rw [htext, parse_render hlegible (by decide) hdistinct]

end LogRecord

end ConformanceSuite
