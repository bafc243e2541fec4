import ConformanceSuite.Proofs.Double
import ConformanceSuite.Proofs.Json.Written

/-!
# The grammar of JSON

The texts that are JSON documents, said without the reader and the printer, and the proof that the
compact text of every value is one of them: `isDocument_render`. Its strings hold no bare control
character, its numbers do not begin with a superfluous zero and have digits on both sides of a
point, and its items and members are separated by single commas.
-/

namespace ConformanceSuite.Json

namespace Grammar

/-- Blanks: spaces, tabs, line feeds and carriage returns. -/
def IsBlank (cs : List Char) : Prop := ∀ c ∈ cs, c = ' ' ∨ c = '\t' ∨ c = '\n' ∨ c = '\r'

/-- Digits, at least one. -/
def IsDigits (cs : List Char) : Prop := cs ≠ [] ∧ ∀ c ∈ cs, c.isDigit = true

/-- A hexadecimal digit. -/
def IsHex (c : Char) : Prop := c ∈ "0123456789abcdefABCDEF".toList

/-- The letters that may follow a backslash alone. -/
def shortEscapes : List Char := ['"', '\\', '/', 'b', 'f', 'n', 'r', 't']

/-- One character of a string, as it may be written. -/
inductive IsPiece : List Char → Prop
  | plain {c : Char} (quote : c ≠ '"') (backslash : c ≠ '\\') (control : 0x20 ≤ c.toNat) :
      IsPiece [c]
  | short {c : Char} (letter : c ∈ shortEscapes) : IsPiece ['\\', c]
  | code {a b c d : Char} (first : IsHex a) (second : IsHex b) (third : IsHex c)
      (fourth : IsHex d) : IsPiece ['\\', 'u', a, b, c, d]

/-- A string between its quotes. -/
inductive IsString : List Char → Prop
  | mk (pieces : List (List Char)) (each : ∀ piece ∈ pieces, IsPiece piece) :
      IsString ('"' :: (pieces.flatten ++ ['"']))

/-- The whole part of a number: zero alone, or digits of which the first is not zero. -/
inductive IsWhole : List Char → Prop
  | zero : IsWhole ['0']
  | digits {c : Char} {rest : List Char} (first : c ≠ '0') (each : IsDigits (c :: rest)) :
      IsWhole (c :: rest)

/-- The fraction of a number, if it has one. -/
inductive IsFraction : List Char → Prop
  | absent : IsFraction []
  | point {cs : List Char} (digits : IsDigits cs) : IsFraction ('.' :: cs)

/-- The exponent of a number, if it has one. -/
inductive IsExponent : List Char → Prop
  | absent : IsExponent []
  | mark {e : Char} {sign cs : List Char} (letter : e = 'e' ∨ e = 'E')
      (signed : sign = [] ∨ sign = ['+'] ∨ sign = ['-']) (digits : IsDigits cs) :
      IsExponent (e :: (sign ++ cs))

/-- A number without its sign. -/
inductive IsMagnitude : List Char → Prop
  | mk {whole fraction exponent : List Char} (isWhole : IsWhole whole)
      (isFraction : IsFraction fraction) (isExponent : IsExponent exponent) :
      IsMagnitude (whole ++ (fraction ++ exponent))

/-- A number. -/
inductive IsNumber : List Char → Prop
  | unsigned {cs : List Char} (isMagnitude : IsMagnitude cs) : IsNumber cs
  | negative {cs : List Char} (isMagnitude : IsMagnitude cs) : IsNumber ('-' :: cs)

mutual

/-- A value, without blanks around it. -/
inductive IsValue : List Char → Prop
  | null : IsValue ['n', 'u', 'l', 'l']
  | true : IsValue ['t', 'r', 'u', 'e']
  | false : IsValue ['f', 'a', 'l', 's', 'e']
  | number {cs : List Char} (isNumber : IsNumber cs) : IsValue cs
  | string {cs : List Char} (isString : IsString cs) : IsValue cs
  | emptyArray {blank : List Char} (isBlank : IsBlank blank) : IsValue ('[' :: (blank ++ [']']))
  | array {cs : List Char} (items : IsItems cs) : IsValue ('[' :: (cs ++ [']']))
  | emptyObject {blank : List Char} (isBlank : IsBlank blank) : IsValue ('{' :: (blank ++ ['}']))
  | object {cs : List Char} (members : IsMembers cs) : IsValue ('{' :: (cs ++ ['}']))

/-- A value with the blanks around it. -/
inductive IsItem : List Char → Prop
  | mk {before value after : List Char} (blankBefore : IsBlank before) (isValue : IsValue value)
      (blankAfter : IsBlank after) : IsItem (before ++ (value ++ after))

/-- Items between commas. -/
inductive IsItems : List Char → Prop
  | one {item : List Char} (isItem : IsItem item) : IsItems item
  | more {item rest : List Char} (isItem : IsItem item) (items : IsItems rest) :
      IsItems (item ++ ',' :: rest)

/-- A key, a colon and an item. -/
inductive IsMember : List Char → Prop
  | mk {before key after item : List Char} (blankBefore : IsBlank before) (isKey : IsString key)
      (blankAfter : IsBlank after) (isItem : IsItem item) :
      IsMember (before ++ (key ++ (after ++ ':' :: item)))

/-- Members between commas. -/
inductive IsMembers : List Char → Prop
  | one {member : List Char} (isMember : IsMember member) : IsMembers member
  | more {member rest : List Char} (isMember : IsMember member) (members : IsMembers rest) :
      IsMembers (member ++ ',' :: rest)

end

theorem isBlank_nil : IsBlank [] := fun _ hc => absurd hc List.not_mem_nil

theorem IsValue.isItem {cs : List Char} (h : IsValue cs) : IsItem cs := by
  simpa using IsItem.mk isBlank_nil h isBlank_nil

theorem isMember {key item : List Char} (hkey : IsString key) (hitem : IsItem item) :
    IsMember (key ++ ':' :: item) := by
  simpa using IsMember.mk isBlank_nil hkey isBlank_nil hitem

/-! ### First characters -/

theorem exists_head_of_isNumber {cs : List Char} (h : IsNumber cs) :
    ∃ c rest, cs = c :: rest ∧ (c = '-' ∨ c.isDigit = true) := by
  cases h with
  | negative _ => exact ⟨'-', _, rfl, .inl rfl⟩
  | unsigned isMagnitude =>
    obtain ⟨isWhole, -, -⟩ := isMagnitude
    cases isWhole with
    | zero => exact ⟨'0', _, rfl, .inr rfl⟩
    | digits _ each => exact ⟨_, _, rfl, .inr (each.2 _ List.mem_cons_self)⟩

/-- A value is known by its first character. -/
theorem exists_head_of_isValue {cs : List Char} (h : IsValue cs) :
    ∃ c rest, cs = c :: rest ∧ (c ∈ ['n', 't', 'f', '"', '[', '{', '-'] ∨ c.isDigit = true) := by
  cases h with
  | number isNumber =>
    obtain ⟨c, rest, rfl, rfl | hdigit⟩ := exists_head_of_isNumber isNumber
    · exact ⟨'-', rest, rfl, .inl (by decide)⟩
    · exact ⟨c, rest, rfl, .inr hdigit⟩
  | string isString =>
    obtain ⟨pieces, -⟩ := isString
    exact ⟨'"', _, rfl, .inl (by decide)⟩
  | null | true | false | emptyArray | array | emptyObject | object =>
    exact ⟨_, _, rfl, .inl (by decide)⟩

/-- What begins with neither a blank nor a value is no item. -/
theorem not_isItem_cons {c : Char} (hblank : c ∉ [' ', '\t', '\n', '\r'])
    (hvalue : c ∉ ['n', 't', 'f', '"', '[', '{', '-']) (hdigit : c.isDigit = false)
    (rest : List Char) : ¬ IsItem (c :: rest) := by
  intro h
  generalize hcs : c :: rest = cs at h
  obtain ⟨blankBefore, isValue, -⟩ := h
  rename_i before value after
  cases before with
  | nil =>
    obtain ⟨d, more, rfl, hd⟩ := exists_head_of_isValue isValue
    obtain rfl : c = d := (List.cons.inj hcs).1
    rcases hd with hd | hd
    · exact hvalue hd
    · exact absurd hd (by simp [hdigit])
  | cons d more =>
    obtain rfl : c = d := (List.cons.inj hcs).1
    have hc := blankBefore c List.mem_cons_self
    exact hblank (by simpa using hc)

end Grammar

/-- A JSON document: a value with blanks around it. -/
def IsDocument (text : String) : Prop := Grammar.IsItem text.toList

open Grammar

/-! ### Strings -/

theorem isPiece_stringChar (c : Char) : IsPiece (stringChar c) := by
  have hshort : ∀ letter ∈ shortEscapes, IsPiece ['\\', letter] := fun _ h => .short h
  have hhex : ∀ n < 16, IsHex (Nat.digitChar n) := by
    unfold IsHex
    decide
  unfold stringChar
  split_ifs with hquote hbackslash _ _ _ _ _ hcontrol
  · exact hshort _ (by decide)
  · exact hshort _ (by decide)
  · exact hshort _ (by decide)
  · exact hshort _ (by decide)
  · exact hshort _ (by decide)
  · exact hshort _ (by decide)
  · exact hshort _ (by decide)
  · exact .code (hhex 0 (by decide)) (hhex 0 (by decide)) (hhex _ (by omega)) (hhex _ (by omega))
  · exact .plain hquote hbackslash (Nat.not_lt.1 hcontrol)

theorem isString_writeString (s : String) : IsString (writeString s []) := by
  have hpieces : ∀ cs : List Char,
      writeStringChars cs ['"'] = (cs.map stringChar).flatten ++ ['"'] := by
    intro cs
    induction cs with
    | nil => rfl
    | cons c rest ih =>
      rw [writeStringChars, List.foldr_cons, ← writeStringChars, ih, List.map_cons,
        List.flatten_cons, List.append_assoc]
  rw [writeString, hpieces]
  refine .mk _ fun piece hpiece => ?_
  obtain ⟨c, -, rfl⟩ := List.mem_map.1 hpiece
  exact isPiece_stringChar c

/-! ### Numbers -/

theorem isDigits_toDigits (n : Nat) : IsDigits (Nat.toDigits 10 n) :=
  ⟨Nat.toDigits_ne_nil, fun _ hc => Nat.isDigit_of_mem_toDigits (by decide) (by decide) hc⟩

theorem isWhole_toDigits (n : Nat) : IsWhole (Nat.toDigits 10 n) := by
  by_cases hzero : n = 0
  · subst hzero
    exact .zero
  · have hhead := head?_toDigits_ne hzero
    have hdigits := isDigits_toDigits n
    cases hchars : Nat.toDigits 10 n with
    | nil => exact absurd hchars Nat.toDigits_ne_nil
    | cons c rest =>
      rw [hchars] at hhead hdigits
      exact .digits (by simpa using hhead) hdigits

theorem isNumber_integerChars (n : Int) : IsNumber (integerChars n) := by
  have hmagnitude : IsMagnitude (Nat.toDigits 10 n.natAbs) := by
    simpa using IsMagnitude.mk (isWhole_toDigits n.natAbs) .absent .absent
  rw [integerChars]
  split
  · exact .negative hmagnitude
  · exact .unsigned hmagnitude

/-- Zeros do no harm among digits. -/
theorem isDigits_replicate_append (k : Nat) {cs : List Char} (h : IsDigits cs) :
    IsDigits (List.replicate k '0' ++ cs) := by
  refine ⟨List.append_ne_nil_of_right_ne_nil _ h.1, fun c hc => ?_⟩
  rcases List.mem_append.1 hc with hzero | hc
  · rw [List.eq_of_mem_replicate hzero]
    rfl
  · exact h.2 c hc

section Decimals

variable {s : Double.Scientific} {c : Char} {rest : List Char}

theorem isMagnitude_positional (hdigits : s.digits = c :: rest) (hfirst : c ≠ '0')
    (heach : ∀ x ∈ c :: rest, x.isDigit = true) : IsMagnitude s.positional := by
  rw [Double.Scientific.positional]
  split
  · have hfraction : IsDigits (List.replicate (-s.exponent - 1).toNat '0' ++ s.digits) :=
      isDigits_replicate_append _ ⟨by simp [hdigits], by rwa [hdigits]⟩
    simpa using IsMagnitude.mk .zero (.point hfraction) .absent
  · -- the first digit is always part of the whole
    have htake : s.digits.take (s.exponent.toNat + 1) = c :: rest.take s.exponent.toNat := by
      rw [hdigits, List.take_succ_cons]
    have hwhole : IsWhole (c :: (rest.take s.exponent.toNat ++
        List.replicate (s.exponent.toNat - (rest.take s.exponent.toNat).length) '0')) := by
      refine .digits hfirst ⟨by simp, fun x hx => ?_⟩
      rcases List.mem_cons.1 hx with rfl | hx
      · exact heach x List.mem_cons_self
      rcases List.mem_append.1 hx with htaken | hzero
      · exact heach x (List.mem_cons_of_mem c (List.mem_of_mem_take htaken))
      · rw [List.eq_of_mem_replicate hzero]
        rfl
    have hfraction : IsDigits (if (s.digits.drop (s.exponent.toNat + 1)).isEmpty then ['0']
        else s.digits.drop (s.exponent.toNat + 1)) := by
      split
      · exact ⟨by simp, by simp⟩
      · rename_i hne
        refine ⟨by simpa using hne, fun x hx => heach x ?_⟩
        rw [← hdigits]
        exact List.mem_of_mem_drop hx
    simpa [htake] using IsMagnitude.mk hwhole (.point hfraction) .absent

theorem isMagnitude_exponential (hdigits : s.digits = c :: rest) (hfirst : c ≠ '0')
    (heach : ∀ x ∈ c :: rest, x.isDigit = true) : IsMagnitude s.exponential := by
  have hwhole : IsWhole [c] :=
    .digits hfirst ⟨by simp, fun x hx => heach x (List.mem_of_mem_head? (by simp_all))⟩
  have hexponent : ∀ sign : Char, sign = '+' ∨ sign = '-' →
      IsExponent ('e' :: sign :: Nat.toDigits 10 s.exponent.natAbs) := by
    rintro sign (rfl | rfl)
    · exact .mark (.inl rfl) (.inr (.inl rfl)) (isDigits_toDigits _)
    · exact .mark (.inl rfl) (.inr (.inr rfl)) (isDigits_toDigits _)
  have hsign : (if s.exponent < 0 then '-' else '+') = '+' ∨
      (if s.exponent < 0 then '-' else '+') = '-' := by
    split
    · exact .inr rfl
    · exact .inl rfl
  rw [Double.Scientific.exponential, hdigits]
  cases rest with
  | nil => simpa using IsMagnitude.mk hwhole .absent (hexponent _ hsign)
  | cons d more =>
    have hfraction : IsDigits (d :: more) := ⟨by simp, fun x hx => heach x (.tail c hx)⟩
    simpa using IsMagnitude.mk hwhole (.point hfraction) (hexponent _ hsign)

end Decimals

theorem isNumber_double (layout : Double.Layout) (d : Double) : IsNumber (d.chars layout) := by
  have hmagnitude : IsMagnitude
      (if d.isZero then ['0', '.', '0'] else d.shortest.chars layout) := by
    cases hzero : d.isZero with
    | true =>
      have hfraction : IsDigits ['0'] := ⟨by simp, by simp⟩
      exact IsMagnitude.mk .zero (.point hfraction) .absent
    | false =>
      obtain ⟨c, rest, hdigits, hfirst, heach⟩ := Double.shortest_digits hzero
      rw [if_neg (by simp), Double.Scientific.chars]
      split
      · exact isMagnitude_positional hdigits hfirst heach
      · exact isMagnitude_exponential hdigits hfirst heach
  rw [Double.chars]
  split
  · exact .negative hmagnitude
  · exact .unsigned hmagnitude

theorem isNumber_chars (n : Number) : IsNumber n.chars := by
  cases n with
  | integer n _ => exact isNumber_integerChars n
  | float d => exact isNumber_double floatLayout d

/-! ### Values -/

theorem writeMember_append (k : String) (v : Json) (rest : List Char) :
    writeString k (':' :: write v rest) = (writeString k [] ++ ':' :: write v []) ++ rest := by
  rw [writeString_append, writeString_append k [], write_append]
  simp

mutual

theorem isValue_write : ∀ j : Json, IsValue (write j [])
  | .null => .null
  | .bool true => .true
  | .bool false => .false
  | .number n => by
    rw [write, List.append_nil]
    exact .number (isNumber_chars n)
  | .string s => .string (isString_writeString s)
  | .array [] => .emptyArray isBlank_nil
  | .array (x :: xs) => by
    rw [write, write_append, writeItems_append, ← List.append_assoc]
    exact .array (isItems_writeItems xs (isValue_write x).isItem)
  | .object [] => .emptyObject isBlank_nil
  | .object ((k, v) :: ms) => by
    have hmember := isMember (isString_writeString k) (isValue_write v).isItem
    rw [write, writeMember_append, writeMembers_append, ← List.append_assoc]
    exact .object (isMembers_writeMembers ms hmember)

theorem isItems_writeItems :
    ∀ (xs : List Json) {first : List Char}, IsItem first → IsItems (first ++ writeItems xs [])
  | [], _, hfirst => by
    rw [writeItems, List.append_nil]
    exact .one hfirst
  | x :: xs, _, hfirst => by
    rw [writeItems, write_append]
    exact .more hfirst (isItems_writeItems xs (isValue_write x).isItem)

theorem isMembers_writeMembers :
    ∀ (ms : List (String × Json)) {first : List Char}, IsMember first →
      IsMembers (first ++ writeMembers ms [])
  | [], _, hfirst => by
    rw [writeMembers, List.append_nil]
    exact .one hfirst
  | (k, v) :: ms, _, hfirst => by
    have hmember := isMember (isString_writeString k) (isValue_write v).isItem
    rw [writeMembers, writeMember_append]
    exact .more hfirst (isMembers_writeMembers ms hmember)

end

/-- The compact text of a value is a document. -/
theorem isDocument_render (j : Json) : IsDocument j.render := by
  rw [IsDocument, render, String.toList_ofList]
  exact (isValue_write j).isItem

end ConformanceSuite.Json
