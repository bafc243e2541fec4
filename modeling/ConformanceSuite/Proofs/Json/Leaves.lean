import Mathlib.Tactic.SplitIfs
import ConformanceSuite.Proofs.Text.ByteOrder

/-!
# Written strings and numbers

The leaves of a compact text read back as what was written. A string reads back whatever its
characters are, as each of them is written so that its bytes are read as the bytes of that character
alone: `readString_write`. An integer reads back where a byte follows that belongs to no number:
`readNumber_write`.
-/

namespace ConformanceSuite.Json

/-- The bytes of characters. -/
def utf8 (cs : List Char) : List UInt8 := cs.flatMap String.utf8EncodeChar

@[simp] theorem utf8_nil : utf8 [] = [] := rfl

@[simp] theorem utf8_cons (c : Char) (cs : List Char) :
    utf8 (c :: cs) = String.utf8EncodeChar c ++ utf8 cs := rfl

@[simp] theorem utf8_append (cs ds : List Char) : utf8 (cs ++ ds) = utf8 cs ++ utf8 ds :=
  List.flatMap_append

theorem bytesOf_ofList (cs : List Char) : bytesOf (String.ofList cs) = utf8 cs := by
  rw [Text.bytesOf_eq_flatMap, String.toList_ofList, utf8]

theorem textOfBytes?_utf8 (cs : List Char) : textOfBytes? (utf8 cs) = some (String.ofList cs) := by
  have hdata : (utf8 cs).toArray = (String.ofList cs).toByteArray.data := by
    rw [← bytesOf_ofList, bytesOf, String.toUTF8, Array.toArray_toList]
  rw [textOfBytes?, hdata, String.fromUTF8?, dif_pos (String.ofList cs).isValidUTF8]
  rfl

theorem utf8EncodeChar_of_lt {c : Char} (h : c.toNat < 128) :
    String.utf8EncodeChar c = [UInt8.ofNat c.toNat] := by
  have hle : c.val.toNat ≤ 127 := Nat.le_of_lt_succ h
  simp only [String.utf8EncodeChar, hle, if_true]
  rfl

theorem bytesOf_eq_utf8 (s : String) : bytesOf s = utf8 s.toList := Text.bytesOf_eq_flatMap s

theorem utf8_inj {cs ds : List Char} (h : utf8 cs = utf8 ds) : cs = ds := by
  have htext := textOfBytes?_utf8 cs
  rw [h, textOfBytes?_utf8 ds] at htext
  exact (String.ofList_injective (Option.some.inj htext)).symm

theorem utf8_eq_nil_iff {cs : List Char} : utf8 cs = [] ↔ cs = [] :=
  ⟨fun h => utf8_inj h, fun h => h ▸ rfl⟩

/-- Bytes of ASCII are the bytes of their characters. -/
theorem utf8_map_ofNat {bytes : List UInt8} (h : ∀ b ∈ bytes, b.toNat < 128) :
    utf8 (bytes.map fun b => Char.ofNat b.toNat) = bytes := by
  induction bytes with
  | nil => rfl
  | cons b rest ih =>
    obtain ⟨hb, hrest⟩ := List.forall_mem_cons.1 h
    have hvalid : b.toNat.isValidChar := .inl (by omega)
    have htoNat : (Char.ofNat b.toNat).toNat = b.toNat := by
      rw [Char.ofNat, dif_pos hvalid]
      rfl
    have hascii : (Char.ofNat b.toNat).toNat < 128 := by rwa [htoNat]
    rw [List.map_cons, utf8_cons, utf8EncodeChar_of_lt hascii, htoNat, UInt8.ofNat_toNat,
      ih hrest, List.singleton_append]

/-! ### Strings -/

/-- A byte that a reader of strings takes as it is. -/
def IsPlain (b : UInt8) : Prop := b ≠ 0x22 ∧ b ≠ 0x5c ∧ ¬ b < 0x20

theorem readStringBytes_plain {bytes : List UInt8} (h : ∀ b ∈ bytes, IsPlain b)
    (tail : List UInt8) (offset : Nat) (acc : List UInt8) :
    ∃ offset', readStringBytes .plain (bytes ++ tail) offset acc =
      readStringBytes .plain tail offset' (bytes.reverse ++ acc) := by
  induction bytes generalizing offset acc with
  | nil => exact ⟨offset, rfl⟩
  | cons b rest ih =>
    obtain ⟨⟨hquote, hbackslash, hcontrol⟩, hrest⟩ := List.forall_mem_cons.1 h
    obtain ⟨offset', hread⟩ := ih hrest (offset + 1) (b :: acc)
    refine ⟨offset', ?_⟩
    rw [List.cons_append, readStringBytes, if_neg hquote, if_neg hbackslash, if_neg hcontrol, hread,
      List.reverse_cons, List.append_assoc, List.singleton_append]

/-- Every byte of a character beyond ASCII has its highest bit set. -/
theorem le_of_mem_utf8EncodeChar {c : Char} (h : 128 ≤ c.toNat) {b : UInt8}
    (hb : b ∈ String.utf8EncodeChar c) : 128 ≤ b.toNat := by
  have hle : ¬ c.val.toNat ≤ 127 := Nat.not_le.2 h
  simp only [String.utf8EncodeChar, hle, if_false] at hb
  split_ifs at hb <;>
    simp only [List.mem_cons, List.not_mem_nil, or_false] at hb <;>
    rcases hb with rfl | rfl | rfl | rfl <;>
    simp only [UInt8.toNat_ofNat'] <;> omega

/-- A byte of ASCII is found in its own character only. -/
theorem eq_of_mem_utf8EncodeChar {c : Char} {b : UInt8} (hb : b.toNat < 128)
    (h : b ∈ String.utf8EncodeChar c) : c = Char.ofNat b.toNat := by
  by_cases hascii : c.toNat < 128
  · rw [utf8EncodeChar_of_lt hascii, List.mem_singleton] at h
    have hcode : b.toNat = c.toNat := by
      rw [h, UInt8.toNat_ofNat']
      omega
    rw [hcode, Char.ofNat_toNat]
  · have hle := le_of_mem_utf8EncodeChar (Nat.not_lt.1 hascii) h
    omega

theorem isPlain_utf8EncodeChar {c : Char} (hquote : c ≠ '"') (hbackslash : c ≠ '\\')
    (hcontrol : ¬ c.toNat < 0x20) : ∀ b ∈ String.utf8EncodeChar c, IsPlain b := by
  intro b hb
  by_cases hascii : c.toNat < 128
  · rw [utf8EncodeChar_of_lt hascii, List.mem_singleton] at hb
    have hb : b.toNat = c.toNat := by
      rw [hb, UInt8.toNat_ofNat']
      omega
    have hback : Char.ofNat b.toNat = c := by rw [hb, Char.ofNat_toNat]
    refine ⟨?_, ?_, ?_⟩
    · rintro rfl
      exact hquote hback.symm
    · rintro rfl
      exact hbackslash hback.symm
    · intro hlt
      have hlt' : b.toNat < 32 := hlt
      omega
  · have hle := le_of_mem_utf8EncodeChar (Nat.not_lt.1 hascii) hb
    refine ⟨?_, ?_, ?_⟩
    · rintro rfl
      exact absurd hle (by decide)
    · rintro rfl
      exact absurd hle (by decide)
    · intro hlt
      have hlt' : b.toNat < 32 := hlt
      omega

/-- A control character reads back from its two hexadecimal digits. -/
theorem readStringBytes_control {c : Char} (h : c.toNat < 0x20) (tail : List UInt8)
    (offset : Nat) (acc : List UInt8) :
    readStringBytes .plain (utf8 (controlEscape c) ++ tail) offset acc =
      readStringBytes .plain tail (offset + 6) ((String.utf8EncodeChar c).reverse ++ acc) := by
  have hdigit : ∀ n < 16, String.utf8EncodeChar (Nat.digitChar n) =
      [UInt8.ofNat (Nat.digitChar n).toNat] ∧
      hexDigit? (UInt8.ofNat (Nat.digitChar n).toNat) = some n := by decide
  obtain ⟨hhigh, hhigh'⟩ := hdigit (c.toNat / 16) (by omega)
  obtain ⟨hlow, hlow'⟩ := hdigit (c.toNat % 16) (by omega)
  have hvalue : c.toNat / 16 * 16 + c.toNat % 16 = c.toNat := Nat.div_add_mod' _ _
  have hsurrogates : isLowSurrogate c.toNat = false ∧ isHighSurrogate c.toNat = false := by
    simp only [isLowSurrogate, isHighSurrogate, Bool.and_eq_false_iff, decide_eq_false_iff_not]
    omega
  have hbackslash : String.utf8EncodeChar '\\' = [0x5c] := by decide
  have hletter : String.utf8EncodeChar 'u' = [0x75] := by decide
  have hzero : String.utf8EncodeChar '0' = [0x30] := by decide
  have hzero' : hexDigit? 0x30 = some 0 := by decide
  simp [controlEscape, hbackslash, hletter, hzero, hhigh, hlow, readStringBytes, hzero', hhigh',
    hlow', hvalue, hsurrogates, codePointBytes, Char.ofNat_toNat]

/-- Each written character is read as its own bytes. -/
theorem readStringBytes_stringChar (c : Char) (tail : List UInt8) (offset : Nat)
    (acc : List UInt8) :
    ∃ offset', readStringBytes .plain (utf8 (stringChar c) ++ tail) offset acc =
      readStringBytes .plain tail offset' ((String.utf8EncodeChar c).reverse ++ acc) := by
  -- one branch for each character that is escaped by a letter of its own
  have hshort : ∀ d : Char, ∀ letter : Char, ∀ code : UInt8, ∀ byte : UInt8,
      String.utf8EncodeChar letter = [code] → String.utf8EncodeChar d = [byte] → code ≠ 0x75 →
      simpleEscape? code = some byte →
      readStringBytes .plain (utf8 ['\\', letter] ++ tail) offset acc =
        readStringBytes .plain tail (offset + 2) ((String.utf8EncodeChar d).reverse ++ acc) := by
    intro d letter code byte hletter hd hne hescape
    have hbackslash : String.utf8EncodeChar '\\' = [0x5c] := by decide
    simp [utf8, hbackslash, hletter, hd, readStringBytes, hne, hescape]
  unfold stringChar
  split_ifs with h₁ h₂ h₃ h₄ h₅ h₆ h₇ hcontrol
  · exact ⟨_, hshort c '"' 0x22 0x22 (by decide) (by rw [h₁]; decide) (by decide) (by decide)⟩
  · exact ⟨_, hshort c '\\' 0x5c 0x5c (by decide) (by rw [h₂]; decide) (by decide) (by decide)⟩
  · exact ⟨_, hshort c 'n' 0x6e 0x0a (by decide) (by rw [h₃]; decide) (by decide) (by decide)⟩
  · exact ⟨_, hshort c 'r' 0x72 0x0d (by decide) (by rw [h₄]; decide) (by decide) (by decide)⟩
  · exact ⟨_, hshort c 't' 0x74 0x09 (by decide) (by rw [h₅]; decide) (by decide) (by decide)⟩
  · exact ⟨_, hshort c 'b' 0x62 0x08 (by decide) (by rw [h₆]; decide) (by decide) (by decide)⟩
  · exact ⟨_, hshort c 'f' 0x66 0x0c (by decide) (by rw [h₇]; decide) (by decide) (by decide)⟩
  · exact ⟨_, readStringBytes_control hcontrol tail offset acc⟩
  · simpa [utf8] using readStringBytes_plain (isPlain_utf8EncodeChar h₁ h₂ hcontrol) tail offset acc

theorem readStringBytes_write (cs : List Char) (tail : List UInt8) (offset : Nat)
    (acc : List UInt8) :
    ∃ offset', readStringBytes .plain (utf8 (writeStringChars cs ['"']) ++ tail) offset acc =
      .ok (acc.reverse ++ utf8 cs, ⟨offset', tail⟩) := by
  induction cs generalizing offset acc with
  | nil =>
    have hquote : String.utf8EncodeChar '"' = [0x22] := by decide
    exact ⟨offset + 1, by simp [writeStringChars, hquote, readStringBytes]⟩
  | cons c rest ih =>
    obtain ⟨offset', hchar⟩ := readStringBytes_stringChar c
      (utf8 (writeStringChars rest ['"']) ++ tail) offset acc
    obtain ⟨offset'', hrest⟩ := ih offset' ((String.utf8EncodeChar c).reverse ++ acc)
    refine ⟨offset'', ?_⟩
    rw [writeStringChars, List.foldr_cons, ← writeStringChars, utf8_append, List.append_assoc,
      hchar, hrest]
    simp

/-- A written string reads back, behind its opening quote. -/
theorem readString_write (s : String) (tail : List UInt8) (offset : Nat) :
    ∃ offset', readString ⟨offset, utf8 (writeStringChars s.toList ['"']) ++ tail⟩ =
      .ok (s, ⟨offset', tail⟩) := by
  obtain ⟨offset', hbytes⟩ := readStringBytes_write s.toList tail offset []
  refine ⟨offset', ?_⟩
  rw [readString, hbytes]
  simp [textOfBytes?_utf8]

/-! ### Integers -/

/-- What does not go on a number: nothing, or a byte that is no part of one. -/
def EndsNumber (tail : List UInt8) : Prop :=
  ∀ b ∈ tail.head?, isDigit b = false ∧ b ≠ 0x2e ∧ b ≠ 0x65 ∧ b ≠ 0x45

theorem utf8EncodeChar_of_isDigit {c : Char} (h : c.isDigit = true) :
    ∃ b : UInt8, String.utf8EncodeChar c = [b] ∧ isDigit b = true ∧ b.toNat = c.toNat := by
  have hrange : 48 ≤ c.toNat ∧ c.toNat ≤ 57 := by
    simp only [Char.isDigit, Bool.and_eq_true, decide_eq_true_eq, ge_iff_le,
      UInt32.le_iff_toNat_le] at h
    exact h
  have hb : (UInt8.ofNat c.toNat).toNat = c.toNat := by
    rw [UInt8.toNat_ofNat']
    omega
  refine ⟨UInt8.ofNat c.toNat, utf8EncodeChar_of_lt (by omega), ?_, hb⟩
  simp only [isDigit, Bool.and_eq_true, decide_eq_true_eq, UInt8.le_iff_toNat_le, hb]
  exact hrange

theorem le_ofDigitChars (cs : List Char) (n : Nat) : n ≤ Nat.ofDigitChars 10 cs n := by
  induction cs generalizing n with
  | nil => exact Nat.le_refl n
  | cons c rest ih =>
    have hrest := ih (10 * n + (c.toNat - '0'.toNat))
    rw [Nat.ofDigitChars_cons]
    omega

/-- Digits are read to their end as long as their number fits. -/
theorem appendDigits_utf8 {cs : List Char} (hcs : ∀ c ∈ cs, c.isDigit = true) {n : Nat}
    (h : Nat.ofDigitChars 10 cs n ≤ maxSignificand) :
    appendDigits n (utf8 cs) = (Nat.ofDigitChars 10 cs n, []) := by
  induction cs generalizing n with
  | nil => rfl
  | cons c rest ih =>
    obtain ⟨hc, hrest⟩ := List.forall_mem_cons.1 hcs
    obtain ⟨b, hencode, -, hb⟩ := utf8EncodeChar_of_isDigit hc
    have hnext : n * 10 + (b.toNat - 0x30) = 10 * n + (c.toNat - '0'.toNat) := by
      rw [hb, Nat.mul_comm]
      rfl
    rw [Nat.ofDigitChars_cons] at h ⊢
    have hfits := Nat.le_trans (le_ofDigitChars rest _) h
    rw [utf8_cons, hencode, List.singleton_append, appendDigits]
    simp only [hnext, hfits, if_true]
    exact ih hrest h

/-- The digits in front of what ends a number are all that is read. -/
theorem span_digits {cs : List Char} (hcs : ∀ c ∈ cs, c.isDigit = true) {tail : List UInt8}
    (htail : EndsNumber tail) (offset : Nat) :
    (Reader.mk offset (utf8 cs ++ tail)).span isDigit =
      (utf8 cs, ⟨offset + (utf8 cs).length, tail⟩) := by
  have hdigits : ∀ b ∈ utf8 cs, isDigit b = true := by
    intro b hb
    obtain ⟨c, hc, hb⟩ := List.mem_flatMap.1 hb
    obtain ⟨d, hencode, hd, -⟩ := utf8EncodeChar_of_isDigit (hcs c hc)
    rw [hencode, List.mem_singleton] at hb
    rwa [hb]
  have hstop : tail.takeWhile isDigit = [] := by
    cases tail with
    | nil => rfl
    | cons b rest => rw [List.takeWhile_cons_of_neg (by simp [(htail b rfl).1])]
  simp [Reader.span, Reader.drop, List.takeWhile_append_of_pos hdigits, hstop]

theorem readNumberTail_of_ends {negative : Bool} {n : Nat} (hzero : negative = true → n ≠ 0)
    {tail : List UInt8} (htail : EndsNumber tail) (offset : Nat) :
    readNumberTail negative n 0 ⟨offset, tail⟩ =
      .ok (.ofInt (if negative then -n else n), ⟨offset, tail⟩) := by
  have hcond : ¬ (0 ≠ 0 ∨ (negative = true ∧ n = 0)) := by
    rintro (h | ⟨hneg, hn⟩)
    · exact h rfl
    · exact hzero hneg hn
  rw [readNumberTail]
  split
  · exact absurd rfl (htail 0x2e (by simp_all)).2.1
  · exact absurd rfl (htail 0x65 (by simp_all)).2.2.1
  · exact absurd rfl (htail 0x45 (by simp_all)).2.2.2
  · rw [if_neg hcond]

/-- The digits of a number that is not zero do not begin with a zero. -/
theorem head?_toDigits_ne {n : Nat} (h : n ≠ 0) : (Nat.toDigits 10 n).head? ≠ some '0' := by
  induction n using Nat.strongRecOn with
  | ind n ih =>
    rw [Nat.toDigits_eq_if (by decide)]
    split
    · rename_i hlt
      have hdigits : ∀ n < 10, n ≠ 0 → [Nat.digitChar n].head? ≠ some '0' := by decide
      exact hdigits n hlt h
    · have hrest := ih (n / 10) (by omega) (by omega)
      rw [List.head?_append]
      cases hhead : (Nat.toDigits 10 (n / 10)).head? with
      | none => exact absurd (List.head?_eq_none_iff.1 hhead) Nat.toDigits_ne_nil
      | some c => simpa [hhead] using hrest

/-- Behind its sign a number that does not begin with a zero is read by its digits. -/
theorem readNumber_digits {cs : List Char} (hcs : ∀ c ∈ cs, c.isDigit = true) (hne : cs ≠ [])
    (hzero : cs.head? ≠ some '0') (hfits : Nat.ofDigitChars 10 cs 0 ≤ maxSignificand)
    {tail : List UInt8} (htail : EndsNumber tail) (offset : Nat) :
    readNumber ⟨offset, utf8 cs ++ tail⟩ =
        readNumberTail false (Nat.ofDigitChars 10 cs 0) 0 ⟨offset + (utf8 cs).length, tail⟩ ∧
      readNumber ⟨offset, 0x2d :: (utf8 cs ++ tail)⟩ =
        readNumberTail true (Nat.ofDigitChars 10 cs 0) 0
          ⟨offset + 1 + (utf8 cs).length, tail⟩ := by
  have hspan := span_digits hcs htail
  have happend := appendDigits_utf8 hcs hfits
  obtain ⟨c, rest, rfl⟩ := List.exists_cons_of_ne_nil hne
  obtain ⟨b, hencode, hb, hvalue⟩ := utf8EncodeChar_of_isDigit (hcs c List.mem_cons_self)
  have hminus : b ≠ 0x2d := by
    rintro rfl
    exact absurd hb (by decide)
  have hfirst : b ≠ 0x30 := by
    rintro rfl
    have hc : c = '0' := by rw [← Char.ofNat_toNat c, ← hvalue]; decide
    exact hzero (by rw [hc]; rfl)
  simp only [utf8_cons, hencode, List.cons_append, List.nil_append] at hspan happend ⊢
  constructor
  · rw [readNumber]
    split
    rename_i negative r hsign
    split at hsign
    · simp_all
    · obtain ⟨rfl, rfl⟩ := Prod.mk.inj hsign
      split
      · simp_all
      · simp_all
      · simp_all
  · simp [readNumber, Reader.drop, hb, hspan, happend]

theorem readNumber_zero {tail : List UInt8} (htail : EndsNumber tail) (offset : Nat) :
    readNumber ⟨offset, 0x30 :: tail⟩ = readNumberTail false 0 0 ⟨offset + 1, tail⟩ := by
  cases tail with
  | nil => simp [readNumber, Reader.drop]
  | cons b rest => simp [readNumber, Reader.drop, (htail b rfl).1]

/-- A written integer reads back in front of what does not go on a number. -/
theorem readNumber_write {n : Int} (hn : InRange n) {tail : List UInt8} (htail : EndsNumber tail)
    (offset : Nat) :
    ∃ offset', readNumber ⟨offset, utf8 (integerChars n) ++ tail⟩ =
      .ok (.integer n hn, ⟨offset', tail⟩) := by
  have hrange : -9223372036854775808 ≤ n ∧ n < 18446744073709551616 := hn
  have hdigits : ∀ c ∈ Nat.toDigits 10 n.natAbs, c.isDigit = true := fun c hc =>
    Nat.isDigit_of_mem_toDigits (by decide) (by decide) hc
  have hvalue : Nat.ofDigitChars 10 (Nat.toDigits 10 n.natAbs) 0 = n.natAbs :=
    Nat.ofDigitChars_ten_toDigits
  have hfits : n.natAbs ≤ maxSignificand := by
    show n.natAbs ≤ 18446744073709551615
    omega
  have hofInt : Number.ofInt n = .integer n hn := dif_pos hn
  by_cases hzero : n = 0
  · subst hzero
    have hchars : utf8 (integerChars 0) = [0x30] := by decide
    refine ⟨offset + 1, ?_⟩
    rw [hchars, List.singleton_append, readNumber_zero htail,
      readNumberTail_of_ends (by simp) htail]
    simpa using hofInt
  · have hhead : (Nat.toDigits 10 n.natAbs).head? ≠ some '0' := head?_toDigits_ne (by omega)
    obtain ⟨hplain, hsigned⟩ := readNumber_digits hdigits Nat.toDigits_ne_nil hhead
      (by rw [hvalue]; exact hfits) htail offset
    rw [hvalue] at hplain hsigned
    by_cases hneg : n < 0
    · have hminus : String.utf8EncodeChar '-' = [0x2d] := by decide
      have hback : -(n.natAbs : Int) = n := by omega
      refine ⟨offset + 1 + (utf8 (Nat.toDigits 10 n.natAbs)).length, ?_⟩
      rw [integerChars, if_pos hneg, utf8_cons, hminus, List.append_assoc, List.singleton_append,
        hsigned, readNumberTail_of_ends (fun _ => by omega) htail, if_pos rfl, hback, hofInt]
    · have hback : (n.natAbs : Int) = n := by omega
      refine ⟨offset + (utf8 (Nat.toDigits 10 n.natAbs)).length, ?_⟩
      rw [integerChars, if_neg hneg, hplain, readNumberTail_of_ends (by simp) htail,
        if_neg (by simp), hback, hofInt]

end ConformanceSuite.Json
