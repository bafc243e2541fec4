import Mathlib.Tactic.SplitIfs
import ConformanceSuite.Json.Decoder

/-!
# The order of bytes

Texts are compared by their characters. As longer encodings start with greater bytes, this is the
order of their UTF-8 bytes: `bytesOf_lt_bytesOf`.
-/

namespace ConformanceSuite.Text

/-- A number in digits of six bits, three of which are written out. -/
theorem eq_sextets (n : Nat) :
    n = 64 * (64 * (64 * (n / 262144) + n / 4096 % 64) + n / 64 % 64) + n % 64 := by
  omega

/-- The bytes of a smaller character are smaller, whatever follows. -/
theorem utf8EncodeChar_append_lt {c d : Char} (h : c < d) (x y : List UInt8) :
    String.utf8EncodeChar c ++ x < String.utf8EncodeChar d ++ y := by
  have hlt : c.val.toNat < d.val.toNat := h
  have hd : d.val.toNat < 1114112 := d.valid.elim (fun h => by omega) fun h => h.2
  have hcs := eq_sextets c.val.toNat
  have hds := eq_sextets d.val.toNat
  unfold String.utf8EncodeChar
  dsimp only
  generalize c.val.toNat = m at hlt hcs ⊢
  generalize d.val.toNat = n at hlt hd hds ⊢
  have hc : m < 1114112 := by omega
  -- one case for each pair of lengths; the first byte decides if they differ
  split_ifs <;>
    simp (disch := omega) only [List.cons_append, List.nil_append, List.cons_lt_cons_iff,
      UInt8.lt_iff_toNat_lt, ← UInt8.toNat_inj, UInt8.toNat_ofNat', Nat.mod_eq_of_lt] <;>
    omega

theorem flatMap_utf8EncodeChar_lt {a b : List Char} (h : a < b) :
    a.flatMap String.utf8EncodeChar < b.flatMap String.utf8EncodeChar := by
  induction h with
  | @nil c cs =>
    rw [List.flatMap_nil, List.flatMap_cons]
    cases hc : String.utf8EncodeChar c with
    | nil => exact absurd hc String.utf8EncodeChar_ne_nil
    | cons first others => exact List.nil_lt_cons _ _
  | rel h => exact utf8EncodeChar_append_lt h _ _
  | cons h ih => exact List.append_left_lt ih

theorem bytesOf_eq_flatMap (s : String) :
    Json.bytesOf s = s.toList.flatMap String.utf8EncodeChar := by
  unfold Json.bytesOf
  rw [String.toUTF8, ← String.utf8Encode_toList]
  simp [List.utf8Encode]

/-- A smaller text has smaller bytes. -/
theorem bytesOf_lt_bytesOf {a b : String} (h : a < b) : Json.bytesOf a < Json.bytesOf b := by
  have hlt : a.toList < b.toList := h
  rw [bytesOf_eq_flatMap, bytesOf_eq_flatMap]
  exact flatMap_utf8EncodeChar_lt hlt

/-- Texts in strictly ascending order of their bytes. -/
def InByteOrder (texts : List String) : Prop :=
  texts.Pairwise fun a b => Json.bytesOf a < Json.bytesOf b

theorem inByteOrder_of_pairwise {texts : List String} (h : texts.Pairwise (· < ·)) :
    InByteOrder texts :=
  h.imp bytesOf_lt_bytesOf

end ConformanceSuite.Text
