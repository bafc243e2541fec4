import Mathlib.Tactic.SplitIfs
import ConformanceSuite.Base64

/-!
# Canonical base64

Decoding accepts exactly what encoding writes: `decode_eq_ok_iff`. A text is read as full groups of
four symbols and one last group of two to four, and both are compared with what encoding makes of
their bytes. The two spellings of the same bytes differ in their padding alone, so that no text is a
padded spelling of some bytes and an unpadded one of others: `encode_inj`.
-/

namespace ConformanceSuite.Base64

variable {alphabet : Alphabet} {padded : Bool}

/-! ### Symbols -/

/-- What holds of the bytes of all numbers below 256 holds of all bytes. -/
theorem forall_byte {p : UInt8 → Prop} (h : ∀ n < 256, p (UInt8.ofNat n)) (b : UInt8) : p b := by
  have hb := h b.toNat b.toNat_lt
  rwa [UInt8.ofNat_toNat] at hb

theorem value?_symbol {n : Nat} (h : n < 64) : value? alphabet (symbol alphabet n) = some n := by
  revert n
  cases alphabet <;> decide +kernel

/-- The symbols are those of the numbers below 64. -/
theorem value?_eq_some_iff {b : UInt8} {n : Nat} :
    value? alphabet b = some n ↔ n < 64 ∧ b = symbol alphabet n := by
  constructor
  · have hall : ∀ b : UInt8, ∀ m ∈ value? alphabet b, m < 64 ∧ b = symbol alphabet m := by
      refine forall_byte ?_
      cases alphabet <;> decide +kernel
    exact hall b n
  · rintro ⟨hn, rfl⟩
    exact value?_symbol hn

theorem value?_padSymbol : value? alphabet padSymbol = none := by
  cases alphabet <;> rfl

theorem isNone_value?_symbol {n : Nat} (h : n < 64) :
    (value? alphabet (symbol alphabet n)).isNone = false := by
  rw [value?_symbol h]
  rfl

theorem symbol_ne_padSymbol {n : Nat} (h : n < 64) : symbol alphabet n ≠ padSymbol := by
  intro heq
  have hvalue : value? alphabet (symbol alphabet n) = some n := value?_symbol h
  rw [heq, value?_padSymbol] at hvalue
  cases hvalue

/-- Numbers of six bits. -/
def AreSextets (ns : List Nat) : Prop := ∀ n ∈ ns, n < 64

theorem values_map {ns : List Nat} (h : AreSextets ns) (offset : Nat) :
    values alphabet (ns.map (symbol alphabet)) offset = .ok ns := by
  induction ns generalizing offset with
  | nil => rfl
  | cons n ns ih =>
    obtain ⟨hn, hns⟩ := List.forall_mem_cons.1 h
    rw [List.map_cons, values, value?_symbol hn]
    simp only [ih hns, Except.map]

/-- A text whose numbers can be read consists of their symbols. -/
theorem of_values {text : List UInt8} {offset : Nat} {ns : List Nat}
    (h : values alphabet text offset = .ok ns) :
    AreSextets ns ∧ text = ns.map (symbol alphabet) := by
  induction text generalizing offset ns with
  | nil =>
    obtain rfl : [] = ns := by simpa [values] using h
    exact ⟨fun n hn => absurd hn List.not_mem_nil, rfl⟩
  | cons b rest ih =>
    rw [values] at h
    cases hb : value? alphabet b with
    | none => simp [hb] at h
    | some n =>
      cases hrest : values alphabet rest (offset + 1) with
      | error e => simp [hb, hrest, Except.map] at h
      | ok others =>
        obtain rfl : n :: others = ns := by simpa [hb, hrest, Except.map] using h
        obtain ⟨hn, rfl⟩ := value?_eq_some_iff.1 hb
        obtain ⟨hothers, rfl⟩ := ih hrest
        exact ⟨List.forall_mem_cons.2 ⟨hn, hothers⟩, rfl⟩

/-! ### Padding -/

theorem splitPadding_replicate {index : Nat} (count offset : Nat) (h : count = 0 ∨ 2 ≤ index) :
    splitPadding alphabet (List.replicate count padSymbol) index offset = .ok ([], count) := by
  cases count with
  | zero => rfl
  | succ count =>
    have hindex : ¬ index < 2 := by omega
    have hall : (List.replicate count padSymbol).all (· = padSymbol) = true := by simp
    rw [List.replicate_succ, splitPadding, if_pos rfl, if_neg hindex, if_pos hall,
      List.length_replicate]

/-- Symbols in front of padding are told from it. -/
theorem splitPadding_map {ns : List Nat} (h : AreSextets ns) {index : Nat} (count offset : Nat)
    (hcount : count = 0 ∨ 2 ≤ index + ns.length) :
    splitPadding alphabet (ns.map (symbol alphabet) ++ List.replicate count padSymbol) index
      offset = .ok (ns.map (symbol alphabet), count) := by
  induction ns generalizing index with
  | nil => exact splitPadding_replicate count offset hcount
  | cons n ns ih =>
    obtain ⟨hn, hns⟩ := List.forall_mem_cons.1 h
    rw [List.length_cons] at hcount
    rw [List.map_cons, List.cons_append, splitPadding, if_neg (symbol_ne_padSymbol hn),
      isNone_value?_symbol hn, if_neg Bool.false_ne_true, ih hns (by omega)]
    rfl

/-- A text is split only in front of its padding, which is that of two symbols or more. -/
theorem of_splitPadding {text symbols : List UInt8} {index offset pads : Nat}
    (h : splitPadding alphabet text index offset = .ok (symbols, pads)) :
    ∃ ns, AreSextets ns ∧ symbols = ns.map (symbol alphabet) ∧
      text = symbols ++ List.replicate pads padSymbol := by
  induction text generalizing index symbols pads with
  | nil =>
    obtain ⟨rfl, rfl⟩ : [] = symbols ∧ 0 = pads := by simpa [splitPadding] using h
    exact ⟨[], fun n hn => absurd hn List.not_mem_nil, rfl, rfl⟩
  | cons b rest ih =>
    rw [splitPadding] at h
    split_ifs at h with hpad hindex hall hnone
    · obtain ⟨rfl, rfl⟩ : [] = symbols ∧ rest.length + 1 = pads := by simpa using h
      have hrest : rest = List.replicate rest.length padSymbol :=
        List.eq_replicate_of_mem (by simpa using hall)
      refine ⟨[], fun n hn => absurd hn List.not_mem_nil, rfl, ?_⟩
      rw [List.nil_append, List.replicate_succ, ← hrest, hpad]
    · cases hsplit : splitPadding alphabet rest (index + 1) offset with
      | error e => simp [hsplit, Except.map] at h
      | ok p =>
        obtain ⟨others, count⟩ := p
        obtain ⟨rfl, rfl⟩ : b :: others = symbols ∧ count = pads := by
          simpa [hsplit, Except.map] using h
        obtain ⟨n, hvalue⟩ := Option.ne_none_iff_exists'.1 (by simpa using hnone)
        obtain ⟨hn, rfl⟩ := value?_eq_some_iff.1 hvalue
        obtain ⟨ns, hns, rfl, rfl⟩ := ih hsplit
        exact ⟨n :: ns, List.forall_mem_cons.2 ⟨hn, hns⟩, rfl, rfl⟩

/-! ### Groups -/

/-- Full groups are encoded by themselves, whatever follows them. -/
theorem encode_append {front : List UInt8} (h : front.length % 3 = 0) (back : List UInt8) :
    encode alphabet padded (front ++ back) =
      encode alphabet padded front ++ encode alphabet padded back := by
  induction front using encode.induct with
  | case1 => rfl
  | case2 a => simp at h
  | case3 a b => simp at h
  | case4 a b c rest ih =>
    simp only [List.length_cons] at h
    have hrest : rest.length % 3 = 0 := by omega
    simp only [List.cons_append, encode, ih hrest]

/-- Three bytes are four numbers of six bits, and back. -/
theorem toNat_group {a b c d : Nat} (ha : a < 64) (hb : b < 64) (hc : c < 64) (hd : d < 64) :
    (a * 4 + b / 16).toUInt8.toNat = a * 4 + b / 16 ∧
      (b % 16 * 16 + c / 4).toUInt8.toNat = b % 16 * 16 + c / 4 ∧
      (c % 4 * 64 + d).toUInt8.toNat = c % 4 * 64 + d := by
  simp only [Nat.toUInt8, UInt8.toNat_ofNat']
  omega

/-- Full groups of symbols are what encoding makes of their bytes. -/
theorem encode_joinGroups (alphabet : Alphabet) (padded : Bool) {ns : List Nat}
    (hlength : ns.length % 4 = 0) (h : AreSextets ns) :
    encode alphabet padded (joinGroups ns) = ns.map (symbol alphabet) ∧
      (joinGroups ns).length % 3 = 0 := by
  induction ns using joinGroups.induct with
  | case1 a b c d rest ih =>
    simp only [List.length_cons] at hlength
    have hrest : rest.length % 4 = 0 := by omega
    simp only [AreSextets, List.forall_mem_cons] at h
    obtain ⟨ha, hb, hc, hd, hothers⟩ := h
    obtain ⟨hencode, hthree⟩ := ih hrest hothers
    obtain ⟨h₁, h₂, h₃⟩ := toNat_group ha hb hc hd
    have e₁ : (a * 4 + b / 16) / 4 = a := by omega
    have e₂ : (a * 4 + b / 16) % 4 * 16 + (b % 16 * 16 + c / 4) / 16 = b := by omega
    have e₃ : (b % 16 * 16 + c / 4) % 16 * 4 + (c % 4 * 64 + d) / 64 = c := by omega
    have e₄ : (c % 4 * 64 + d) % 64 = d := by omega
    constructor
    · rw [joinGroups, encode, h₁, h₂, h₃, e₁, e₂, e₃, e₄, hencode]
      rfl
    · rw [joinGroups]
      simp only [List.length_cons]
      omega
  | case2 ns hshort =>
    rcases ns with - | ⟨a, - | ⟨b, - | ⟨c, - | ⟨d, rest⟩⟩⟩⟩
    · exact ⟨rfl, rfl⟩
    · simp at hlength
    · simp at hlength
    · simp at hlength
    · exact absurd rfl (hshort a b c d rest)

/-- The numbers of three bytes. -/
def sextets (a b c : UInt8) : List Nat :=
  [a.toNat / 4, a.toNat % 4 * 16 + b.toNat / 16, b.toNat % 16 * 4 + c.toNat / 64, c.toNat % 64]

theorem areSextets_sextets (a b c : UInt8) : AreSextets (sextets a b c) := by
  have ha := a.toNat_lt
  have hb := b.toNat_lt
  have hc := c.toNat_lt
  intro n hn
  simp only [sextets, List.mem_cons, List.not_mem_nil, or_false] at hn
  omega

theorem toUInt8_of_eq {n : Nat} {b : UInt8} (h : n = b.toNat) : n.toUInt8 = b := by
  rw [h]
  exact UInt8.ofNat_toNat

theorem joinGroups_sextets_append (a b c : UInt8) (ns : List Nat) :
    joinGroups (sextets a b c ++ ns) = a :: b :: c :: joinGroups ns := by
  have hb := b.toNat_lt
  have hc := c.toNat_lt
  have h₁ : (a.toNat / 4 * 4 + (a.toNat % 4 * 16 + b.toNat / 16) / 16).toUInt8 = a :=
    toUInt8_of_eq (by omega)
  have h₂ : ((a.toNat % 4 * 16 + b.toNat / 16) % 16 * 16 +
      (b.toNat % 16 * 4 + c.toNat / 64) / 4).toUInt8 = b := toUInt8_of_eq (by omega)
  have h₃ : ((b.toNat % 16 * 4 + c.toNat / 64) % 4 * 64 + c.toNat % 64).toUInt8 = c :=
    toUInt8_of_eq (by omega)
  simp only [sextets, List.cons_append, List.nil_append, joinGroups, h₁, h₂, h₃]

/-- Full groups of bytes have numbers. -/
theorem exists_joinGroups {bytes : List UInt8} (h : bytes.length % 3 = 0) :
    ∃ ns, AreSextets ns ∧ ns.length % 4 = 0 ∧ joinGroups ns = bytes := by
  induction bytes using encode.induct with
  | case1 => exact ⟨[], fun n hn => absurd hn List.not_mem_nil, rfl, rfl⟩
  | case2 a => simp at h
  | case3 a b => simp at h
  | case4 a b c rest ih =>
    simp only [List.length_cons] at h
    obtain ⟨ns, hns, hlength, rfl⟩ := ih (by omega)
    refine ⟨sextets a b c ++ ns, ?_, ?_, joinGroups_sextets_append a b c ns⟩
    · exact List.forall_mem_append.2 ⟨areSextets_sextets a b c, hns⟩
    · simp only [sextets, List.length_append, List.length_cons, List.length_nil]
      omega

/-! ### The last group -/

/-- A last group of numbers and its bytes: no bit is left over. -/
inductive LastGroup : List Nat → List UInt8 → Prop
  | one {a b : Nat} (left : b % 16 = 0) : LastGroup [a, b] [(a * 4 + b / 16).toUInt8]
  | two {a b c : Nat} (left : c % 4 = 0) :
      LastGroup [a, b, c] [(a * 4 + b / 16).toUInt8, (b % 16 * 16 + c / 4).toUInt8]
  | three {a b c d : Nat} : LastGroup [a, b, c, d] (joinGroups [a, b, c, d])

theorem LastGroup.length_le {ns : List Nat} {last : List UInt8} (h : LastGroup ns last) :
    2 ≤ ns.length ∧ ns.length ≤ 4 := by
  cases h <;> exact ⟨by simp, by simp⟩

theorem lastGroup_map {ns : List Nat} (h : AreSextets ns) (hshort : 2 ≤ ns.length)
    (hlong : ns.length ≤ 4) {offset : Nat} {last : List UInt8} :
    lastGroup alphabet (ns.map (symbol alphabet)) offset = .ok last ↔ LastGroup ns last := by
  have hmap : (ns.map (symbol alphabet)).map (fun b => (value? alphabet b).getD 0) = ns := by
    have hid : ∀ n ∈ ns, (value? alphabet (symbol alphabet n)).getD 0 = id n := fun n hn => by
      rw [value?_symbol (h n hn)]
      rfl
    rw [List.map_map]
    exact (List.map_congr_left hid).trans (List.map_id ns)
  rw [lastGroup, hmap]
  constructor
  · intro hlast
    rcases ns with - | ⟨a, - | ⟨b, - | ⟨c, - | ⟨d, - | ⟨e, rest⟩⟩⟩⟩⟩
    · simp at hshort
    · simp at hshort
    · by_cases hleft : b % 16 = 0
      · simp only [hleft, if_true, Except.ok.injEq] at hlast
        exact hlast ▸ .one hleft
      · simp [hleft] at hlast
    · by_cases hleft : c % 4 = 0
      · simp only [hleft, if_true, Except.ok.injEq] at hlast
        exact hlast ▸ .two hleft
      · simp [hleft] at hlast
    · cases hlast
      exact .three
    · simp only [List.length_cons] at hlong
      omega
  · intro hlast
    cases hlast with
    | one hleft => simp only [hleft, if_true]
    | two hleft => simp only [hleft, if_true]
    | three => rfl

/-- A last group is what encoding makes of its bytes, with the padding that is due. -/
theorem LastGroup.encode_eq {ns : List Nat} {last : List UInt8} (h : LastGroup ns last)
    (hns : AreSextets ns) :
    encode alphabet padded last = ns.map (symbol alphabet) ++ padding padded (4 - ns.length) := by
  cases h with
  | @one a b hleft =>
    simp only [AreSextets, List.forall_mem_cons] at hns
    obtain ⟨ha, hb, -⟩ := hns
    obtain ⟨h₁, -, -⟩ := toNat_group ha hb (c := 0) (d := 0) (by omega) (by omega)
    have e₁ : (a * 4 + b / 16) / 4 = a := by omega
    have e₂ : (a * 4 + b / 16) % 4 * 16 = b := by omega
    rw [encode, h₁, e₁, e₂]
    rfl
  | @two a b c hleft =>
    simp only [AreSextets, List.forall_mem_cons] at hns
    obtain ⟨ha, hb, hc, -⟩ := hns
    obtain ⟨h₁, h₂, -⟩ := toNat_group ha hb hc (d := 0) (by omega)
    have e₁ : (a * 4 + b / 16) / 4 = a := by omega
    have e₂ : (a * 4 + b / 16) % 4 * 16 + (b % 16 * 16 + c / 4) / 16 = b := by omega
    have e₃ : (b % 16 * 16 + c / 4) % 16 * 4 = c := by omega
    rw [encode, h₁, h₂, e₁, e₂, e₃]
    rfl
  | @three a b c d =>
    rw [(encode_joinGroups alphabet padded (by simp) hns).1]
    cases padded <;> rfl

/-- One, two or three bytes are those of a last group. -/
theorem exists_lastGroup {last : List UInt8} (hne : last ≠ []) (hlong : last.length ≤ 3) :
    ∃ ns, AreSextets ns ∧ LastGroup ns last := by
  rcases last with - | ⟨a, - | ⟨b, - | ⟨c, - | ⟨d, rest⟩⟩⟩⟩
  · exact absurd rfl hne
  · have ha := a.toNat_lt
    have h₁ : (a.toNat / 4 * 4 + a.toNat % 4 * 16 / 16).toUInt8 = a := toUInt8_of_eq (by omega)
    refine ⟨[a.toNat / 4, a.toNat % 4 * 16], ?_, ?_⟩
    · intro n hn
      simp only [List.mem_cons, List.not_mem_nil, or_false] at hn
      omega
    · have hlast : LastGroup [a.toNat / 4, a.toNat % 4 * 16] _ := .one (by omega)
      rwa [h₁] at hlast
  · have ha := a.toNat_lt
    have hb := b.toNat_lt
    have h₁ : (a.toNat / 4 * 4 + (a.toNat % 4 * 16 + b.toNat / 16) / 16).toUInt8 = a :=
      toUInt8_of_eq (by omega)
    have h₂ : ((a.toNat % 4 * 16 + b.toNat / 16) % 16 * 16 +
        b.toNat % 16 * 4 / 4).toUInt8 = b := toUInt8_of_eq (by omega)
    refine ⟨[a.toNat / 4, a.toNat % 4 * 16 + b.toNat / 16, b.toNat % 16 * 4], ?_, ?_⟩
    · intro n hn
      simp only [List.mem_cons, List.not_mem_nil, or_false] at hn
      omega
    · have hlast : LastGroup [a.toNat / 4, a.toNat % 4 * 16 + b.toNat / 16,
        b.toNat % 16 * 4] _ := .two (by omega)
      rwa [h₁, h₂] at hlast
  · have hlast : LastGroup (sextets a b c) _ := .three
    have hjoin := joinGroups_sextets_append a b c []
    rw [List.append_nil] at hjoin
    exact ⟨sextets a b c, areSextets_sextets a b c, hjoin ▸ hlast⟩
  · simp only [List.length_cons] at hlong
    omega

/-! ### Whole texts -/

/-- A text that is not empty has one to four symbols behind full groups. -/
theorem leadingLength_spec {length : Nat} (h : length ≠ 0) :
    leadingLength length % 4 = 0 ∧ leadingLength length + 1 ≤ length ∧
      length ≤ leadingLength length + 4 := by
  unfold leadingLength
  split_ifs <;> omega

/-- What decoding makes of full groups and a last one with padding. -/
theorem decode_groups {ns ms : List Nat} {pads : Nat} (hns : AreSextets ns)
    (hlength : ns.length % 4 = 0) (hms : AreSextets ms) (hshort : 2 ≤ ms.length)
    (hlong : ms.length + pads ≤ 4) :
    decode alphabet padded
        (ns.map (symbol alphabet) ++ (ms.map (symbol alphabet) ++ List.replicate pads padSymbol)) =
      if padded ∧ (pads + ms.length) % 4 ≠ 0 then .error .padding
      else if !padded ∧ pads ≠ 0 then .error .padding
      else (lastGroup alphabet (ms.map (symbol alphabet)) ns.length).map (joinGroups ns ++ ·) := by
  have htotal : (ns.map (symbol alphabet) ++ (ms.map (symbol alphabet) ++
      List.replicate pads padSymbol)).length = ns.length + (ms.length + pads) := by simp
  have hleading : leadingLength (ns.length + (ms.length + pads)) = ns.length := by
    unfold leadingLength
    split_ifs <;> omega
  have hnot : ¬ (ns.length + (ms.length + pads)) % 4 = 1 := by omega
  have hfront : (ns.map (symbol alphabet)).length = ns.length := List.length_map _
  have hsplit : splitPadding alphabet (ms.map (symbol alphabet) ++ List.replicate pads padSymbol) 0
      ns.length = .ok (ms.map (symbol alphabet), pads) :=
    splitPadding_map hms pads ns.length (.inr (by omega))
  unfold decode
  simp only [htotal, hleading, hnot, false_and, if_false, List.take_left' hfront,
    List.drop_left' hfront, values_map hns, hsplit, List.length_map]
  rw [if_neg (by omega)]

/-- A text that is decoded consists of full groups and a last one with padding. -/
theorem exists_groups {text bytes : List UInt8} (hne : text ≠ [])
    (h : decode alphabet padded text = .ok bytes) :
    ∃ ns ms pads, AreSextets ns ∧ ns.length % 4 = 0 ∧ AreSextets ms ∧ 2 ≤ ms.length ∧
      ms.length + pads ≤ 4 ∧
      text = ns.map (symbol alphabet) ++
        (ms.map (symbol alphabet) ++ List.replicate pads padSymbol) := by
  obtain ⟨hfour, hmore, hlast⟩ := leadingLength_spec (mt List.length_eq_zero_iff.1 hne)
  have hsplit := List.take_append_drop (leadingLength text.length) text
  have hdrop : (text.drop (leadingLength text.length)).length ≤ 4 := by
    rw [List.length_drop]
    omega
  have htake : (text.take (leadingLength text.length)).length % 4 = 0 := by
    rw [List.length_take, Nat.min_eq_left (by omega), hfour]
  unfold decode at h
  simp only at h
  split_ifs at h
  split at h
  · cases h
  · rename_i ns hvalues
    obtain ⟨hns, hfront⟩ := of_values hvalues
    split at h
    · cases h
    · rename_i symbols pads hpadding
      obtain ⟨ms, hms, rfl, hback⟩ := of_splitPadding hpadding
      have hshort : 2 ≤ ms.length := by
        refine Nat.not_lt.1 fun hlt => ?_
        rw [List.length_map, if_pos ⟨mt List.length_eq_zero_iff.1 hne, hlt⟩] at h
        cases h
      refine ⟨ns, ms, pads, hns, ?_, hms, hshort, ?_, ?_⟩
      · simpa [hfront] using htake
      · simpa [hback] using hdrop
      · rw [← hback, ← hfront, hsplit]

/-- Bytes are full groups and a last one of one to three. -/
theorem exists_front_last {bytes : List UInt8} (h : bytes ≠ []) :
    ∃ front last, bytes = front ++ last ∧ front.length % 3 = 0 ∧ last ≠ [] ∧ last.length ≤ 3 := by
  have hlength := mt List.length_eq_zero_iff.1 h
  refine ⟨bytes.take ((bytes.length - 1) / 3 * 3), bytes.drop ((bytes.length - 1) / 3 * 3),
    (List.take_append_drop _ _).symm, ?_, ?_, ?_⟩
  · rw [List.length_take]
    omega
  · rw [Ne, List.drop_eq_nil_iff]
    omega
  · rw [List.length_drop]
    omega

/-- Decoding accepts exactly what encoding writes. -/
theorem decode_eq_ok_iff {text bytes : List UInt8} :
    decode alphabet padded text = .ok bytes ↔ text = encode alphabet padded bytes := by
  constructor
  · intro h
    by_cases hne : text = []
    · subst hne
      obtain rfl : [] = bytes := by
        cases padded <;> exact Except.ok.inj h
      rfl
    · obtain ⟨ns, ms, pads, hns, hlength, hms, hshort, hlong, rfl⟩ := exists_groups hne h
      rw [decode_groups hns hlength hms hshort hlong] at h
      split_ifs at h with hpadded hunpadded
      cases hlast : lastGroup alphabet (ms.map (symbol alphabet)) ns.length with
      | error e => simp [hlast, Except.map] at h
      | ok last =>
        obtain rfl : joinGroups ns ++ last = bytes := by simpa [hlast, Except.map] using h
        obtain ⟨hfront, hthree⟩ := encode_joinGroups alphabet padded hlength hns
        have hgroup := (lastGroup_map hms hshort (by omega)).1 hlast
        rw [encode_append hthree, hfront, hgroup.encode_eq hms]
        -- the padding is the one that is due, as there is none or the last group is full
        have hpads : List.replicate pads padSymbol = padding padded (4 - ms.length) := by
          cases padded with
          | true =>
            have hfull : pads = 4 - ms.length := by
              simp only [true_and, ne_eq, Decidable.not_not] at hpadded
              omega
            rw [hfull]
            rfl
          | false =>
            have hnone : pads = 0 := by simpa using hunpadded
            rw [hnone]
            rfl
        rw [hpads]
  · rintro rfl
    by_cases hne : bytes = []
    · subst hne
      cases padded <;> rfl
    · obtain ⟨front, last, rfl, hthree, hlast, hlong⟩ := exists_front_last hne
      obtain ⟨ns, hns, hlength, rfl⟩ := exists_joinGroups hthree
      obtain ⟨ms, hms, hgroup⟩ := exists_lastGroup hlast hlong
      obtain ⟨hshort, hfour⟩ := hgroup.length_le
      rw [encode_append hthree, (encode_joinGroups alphabet padded hlength hns).1,
        hgroup.encode_eq hms]
      have hread : lastGroup alphabet (ms.map (symbol alphabet)) ns.length = .ok last :=
        (lastGroup_map hms hshort hfour).2 hgroup
      cases padded with
      | true =>
        rw [padding, if_pos rfl, decode_groups hns hlength hms hshort (by omega),
          if_neg (by omega), if_neg (by simp), hread]
        rfl
      | false =>
        rw [padding, if_neg Bool.false_ne_true, ← List.replicate_zero,
          decode_groups hns hlength hms hshort (by omega), if_neg (by simp), if_neg (by simp),
          hread]
        rfl

/-! ### Two spellings -/

/-- The padded spelling is the unpadded one with padding behind it. -/
theorem encode_padded (alphabet : Alphabet) (bytes : List UInt8) :
    ∃ count, encode alphabet true bytes =
      encode alphabet false bytes ++ List.replicate count padSymbol := by
  induction bytes using encode.induct with
  | case1 => exact ⟨0, rfl⟩
  | case2 a => exact ⟨2, rfl⟩
  | case3 a b => exact ⟨1, rfl⟩
  | case4 a b c rest ih =>
    obtain ⟨count, hcount⟩ := ih
    exact ⟨count, by simp only [encode, hcount, List.cons_append]⟩

theorem of_mem_padding {count : Nat} {b : UInt8} (h : b ∈ padding padded count) :
    padded = true ∧ b = padSymbol := by
  cases padded with
  | true => exact ⟨rfl, List.eq_of_mem_replicate h⟩
  | false => exact absurd h List.not_mem_nil

/-- What is written are symbols, and padding if it is asked for. -/
theorem of_mem_encode {bytes : List UInt8} {b : UInt8} (h : b ∈ encode alphabet padded bytes) :
    (∃ n < 64, b = symbol alphabet n) ∨ (padded = true ∧ b = padSymbol) := by
  induction bytes using encode.induct with
  | case1 => exact absurd h List.not_mem_nil
  | case2 x =>
    have hx := x.toNat_lt
    simp only [encode, List.mem_cons] at h
    rcases h with rfl | rfl | h
    · exact .inl ⟨_, by omega, rfl⟩
    · exact .inl ⟨_, by omega, rfl⟩
    · exact .inr (of_mem_padding h)
  | case3 x y =>
    have hx := x.toNat_lt
    have hy := y.toNat_lt
    simp only [encode, List.mem_cons] at h
    rcases h with rfl | rfl | rfl | h
    · exact .inl ⟨_, by omega, rfl⟩
    · exact .inl ⟨_, by omega, rfl⟩
    · exact .inl ⟨_, by omega, rfl⟩
    · exact .inr (of_mem_padding h)
  | case4 x y z rest ih =>
    have hgroup := areSextets_sextets x y z
    simp only [encode, List.mem_cons] at h
    simp only [AreSextets, sextets, List.forall_mem_cons] at hgroup
    obtain ⟨h₁, h₂, h₃, h₄, -⟩ := hgroup
    rcases h with rfl | rfl | rfl | rfl | h
    · exact .inl ⟨_, h₁, rfl⟩
    · exact .inl ⟨_, h₂, rfl⟩
    · exact .inl ⟨_, h₃, rfl⟩
    · exact .inl ⟨_, h₄, rfl⟩
    · exact ih h

/-- Bytes are told from their text, whether it is padded or not. -/
theorem encode_inj {padded' : Bool} {bytes bytes' : List UInt8}
    (h : encode alphabet padded bytes = encode alphabet padded' bytes') : bytes = bytes' := by
  have hsame : ∀ p xs ys, encode alphabet p xs = encode alphabet p ys → xs = ys := by
    intro p xs ys hxy
    have hxs : decode alphabet p (encode alphabet p xs) = .ok xs := decode_eq_ok_iff.2 rfl
    rw [hxy, decode_eq_ok_iff.2 rfl] at hxs
    exact (Except.ok.inj hxs).symm
  -- a padded text that is also an unpadded one has no padding
  have hmixed : ∀ xs ys, encode alphabet true xs = encode alphabet false ys → xs = ys := by
    intro xs ys hxy
    obtain ⟨count, hcount⟩ := encode_padded alphabet xs
    cases count with
    | zero =>
      rw [hcount, List.replicate_zero, List.append_nil] at hxy
      exact hsame false xs ys hxy
    | succ count =>
      have hmem : padSymbol ∈ encode alphabet false ys := by
        rw [← hxy, hcount, List.replicate_succ]
        exact List.mem_append_right _ List.mem_cons_self
      rcases of_mem_encode hmem with ⟨n, hn, hpad⟩ | ⟨hfalse, -⟩
      · exact absurd hpad.symm (symbol_ne_padSymbol hn)
      · cases hfalse
  cases padded <;> cases padded'
  · exact hsame false _ _ h
  · exact (hmixed _ _ h.symm).symm
  · exact hmixed _ _ h
  · exact hsame true _ _ h

end ConformanceSuite.Base64
