import Mathlib.Data.List.DropRight
import Mathlib.Data.List.Forall2
import ConformanceSuite.Text.Blank

/-!
# Trimmed texts and the case of letters

A text without the white space around it is the one part of it that has none at its ends and nothing
but white space in front and behind: `trim_eq_iff`. Two texts are the same in small letters exactly
if they are the same up to the case of letters, one character after the other: `lowerAscii_eq_iff`.
-/

namespace ConformanceSuite.Text

/-! ### Trimmed texts -/

/-- A text without white space at either end. -/
structure IsTrimmed (s : String) : Prop where
  head : ∀ c ∈ s.toList.head?, isWhitespace c = false
  last : ∀ c ∈ s.toList.getLast?, isWhitespace c = false

/-- A text of white space alone, if of anything. -/
def AllBlank (s : String) : Prop := ∀ c ∈ s.toList, isWhitespace c = true

theorem trimChars_eq (cs : List Char) :
    trimChars cs = (cs.dropWhile isWhitespace).rdropWhile isWhitespace := rfl

theorem isTrimmed_trim (s : String) : IsTrimmed (trim s) where
  head c hc := by
    rw [trim, String.toList_ofList, trimChars_eq] at hc
    -- What is dropped at the end leaves the first character, if any, where it was.
    obtain ⟨tail, htail⟩ := List.rdropWhile_prefix isWhitespace (s.toList.dropWhile isWhitespace)
    have hfirst : c ∈ (s.toList.dropWhile isWhitespace).head? := by
      rw [← htail, List.head?_append, Option.mem_def.1 hc]
      rfl
    have hnot := List.head?_dropWhile_not isWhitespace s.toList
    rwa [Option.mem_def.1 hfirst] at hnot
  last c hc := by
    rw [trim, String.toList_ofList, trimChars_eq] at hc
    have hne := List.ne_nil_of_mem (List.mem_of_getLast? hc)
    rw [Option.mem_def, List.getLast?_eq_some_getLast hne, Option.some.injEq] at hc
    simpa [hc] using List.rdropWhile_last_not _ _ hne

theorem IsTrimmed.isBlank_eq {s : String} (h : IsTrimmed s) : isBlank s = s.isEmpty := by
  cases hs : s.toList with
  | nil =>
    obtain rfl : s = "" := String.toList_eq_nil_iff.1 hs
    rfl
  | cons c cs =>
    have hc : isWhitespace c = false := h.head c (by simp [hs])
    have hne : s ≠ "" := fun h0 => by simp [h0] at hs
    simp [isBlank, hs, hc, hne]

/-- White space around a trimmed text is all that trimming drops. -/
theorem IsTrimmed.trim_around {s front back : String} (h : IsTrimmed s) (hfront : AllBlank front)
    (hback : AllBlank back) : trim (front ++ s ++ back) = s := by
  rw [trim, trimChars_eq, String.toList_append, String.toList_append, List.append_assoc,
    List.dropWhile_append_of_pos hfront]
  cases hs : s.toList with
  | nil =>
    rw [List.nil_append, List.dropWhile_eq_nil_iff.2 hback, List.rdropWhile_nil,
      String.toList_eq_nil_iff.1 hs]
  | cons c cs =>
    have hc : isWhitespace c = false := h.head c (by simp [hs])
    have hlast : (c :: cs).rdropWhile isWhitespace = c :: cs :=
      List.rdropWhile_eq_self_iff.2 fun hne => by
        simp [h.last _ (by rw [hs]; exact List.getLast?_eq_some_getLast hne)]
    rw [List.cons_append, List.dropWhile_cons_of_neg (by simp [hc]), ← List.cons_append,
      List.rdropWhile, List.reverse_append,
      List.dropWhile_append_of_pos fun c hc => hback c (List.mem_reverse.1 hc),
      ← List.rdropWhile, hlast, ← hs, String.ofList_toList]

/-- Trimming a text leaves its one part that is trimmed and has only white space around it. -/
theorem trim_eq_iff {s core : String} : trim s = core ↔
    IsTrimmed core ∧ ∃ front back, s = front ++ core ++ back ∧ AllBlank front ∧ AllBlank back := by
  constructor
  · rintro rfl
    refine ⟨isTrimmed_trim s, String.ofList (s.toList.takeWhile isWhitespace),
      String.ofList ((s.toList.dropWhile isWhitespace).rtakeWhile isWhitespace), ?_, ?_, ?_⟩
    · rw [trim, trimChars_eq, ← String.ofList_append, ← String.ofList_append, List.append_assoc,
        List.rdropWhile_append_rtakeWhile, List.takeWhile_append_dropWhile, String.ofList_toList]
    · intro c hc
      rw [String.toList_ofList] at hc
      exact List.mem_takeWhile_imp hc
    · intro c hc
      rw [String.toList_ofList] at hc
      exact List.mem_rtakeWhile_imp hc
  · rintro ⟨hcore, front, back, rfl, hfront, hback⟩
    exact hcore.trim_around hfront hback

theorem trim_eq_self_iff {s : String} : trim s = s ↔ IsTrimmed s :=
  ⟨fun h => h ▸ isTrimmed_trim s, fun h => trim_eq_iff.2 ⟨h, "", "", by simp, nofun, nofun⟩⟩

/-! ### The case of letters -/

/-- A capital of ASCII and its small letter. -/
structure IsCapitalOf (capital small : Char) : Prop where
  first : 'A' ≤ capital
  last : capital ≤ 'Z'
  shift : small.toNat = capital.toNat + 32

/-- Two characters are equal up to the case of the letters of ASCII. -/
def SameLetter (a b : Char) : Prop := a = b ∨ IsCapitalOf a b ∨ IsCapitalOf b a

/-- Two texts are equal up to the case of the letters of ASCII. -/
def SameLetters (a b : String) : Prop := List.Forall₂ SameLetter a.toList b.toList

theorem isCapitalOf_iff {a b : Char} :
    IsCapitalOf a b ↔ 65 ≤ a.toNat ∧ a.toNat ≤ 90 ∧ b.toNat = a.toNat + 32 :=
  ⟨fun h => ⟨h.first, h.last, h.shift⟩, fun ⟨first, last, shift⟩ => ⟨first, last, shift⟩⟩

theorem toNat_toLowerAscii (c : Char) : (toLowerAscii c).toNat =
    if 65 ≤ c.toNat ∧ c.toNat ≤ 90 then c.toNat + 32 else c.toNat := by
  have hrange : ('A' ≤ c ∧ c ≤ 'Z') ↔ 65 ≤ c.toNat ∧ c.toNat ≤ 90 := Iff.rfl
  simp only [toLowerAscii, hrange]
  split
  case isTrue h =>
    have hvalid : (c.toNat + 32).isValidChar := .inl (by omega)
    rw [Char.ofNat, dif_pos hvalid]
    rfl
  case isFalse => rfl

theorem toLowerAscii_eq_iff {a b : Char} : toLowerAscii a = toLowerAscii b ↔ SameLetter a b := by
  rw [SameLetter, isCapitalOf_iff, isCapitalOf_iff, ← Char.toNat_inj, ← Char.toNat_inj,
    toNat_toLowerAscii, toNat_toLowerAscii]
  split_ifs <;> omega

/-- Two texts are the same in small letters exactly if they are equal up to the case of letters. -/
theorem lowerAscii_eq_iff {a b : String} : lowerAscii a = lowerAscii b ↔ SameLetters a b := by
  rw [lowerAscii, lowerAscii, String.ofList_inj, ← List.forall₂_eq_eq_eq,
    List.forall₂_map_left_iff, List.forall₂_map_right_iff, SameLetters]
  simp only [toLowerAscii_eq_iff]

end ConformanceSuite.Text
