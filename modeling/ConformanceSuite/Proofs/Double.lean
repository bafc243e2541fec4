import Mathlib.Algebra.Group.Nat.Defs
import Mathlib.Data.List.DropRight
import ConformanceSuite.Double
import ConformanceSuite.Proofs.Json.Leaves

/-!
# The digits of a double

The shortest decimal of a double that is not zero begins with a digit that is not zero. The search
for it goes through grids of powers of ten from coarse to fine. On each of them the two candidates
are at least one, as the coarsest one is no coarser than the number itself; and on the last of them
the interval that rounds to the number is wider than the grid, so that the search ends there at the
latest: `shortest_digits`.
-/

namespace ConformanceSuite.Double

variable {d : Double}

/-! ### Bits -/

theorem fractionField_eq (d : Double) : d.fractionField = d.bits.toNat % 2 ^ 52 := by
  rw [fractionField, UInt64.toNat_and]
  exact Nat.and_two_pow_sub_one_eq_mod d.bits.toNat 52

theorem exponentField_eq (d : Double) : d.exponentField = d.bits.toNat / 2 ^ 52 % 2 ^ 11 := by
  rw [exponentField, UInt64.toNat_and, UInt64.toNat_shiftRight, Nat.shiftRight_eq_div_pow]
  exact Nat.and_two_pow_sub_one_eq_mod _ 11

theorem isZero_eq (d : Double) : d.isZero = decide (d.bits.toNat % 2 ^ 63 = 0) := by
  have hand : (d.bits &&& 0x7fffffffffffffff).toNat = d.bits.toNat % 2 ^ 63 := by
    rw [UInt64.toNat_and]
    exact Nat.and_two_pow_sub_one_eq_mod d.bits.toNat 63
  rw [isZero, Bool.eq_iff_iff, beq_iff_eq, ← UInt64.toNat_inj, hand]
  simp

theorem significand_pos (h : d.isZero = false) : 0 < d.significand := by
  rw [isZero_eq, decide_eq_false_iff_not] at h
  have hfraction := fractionField_eq d
  have hexponent := exponentField_eq d
  rw [significand]
  split
  · omega
  · have hpos : 0 < Nat.pow 2 52 := Nat.pow_pos (by decide)
    omega

theorem significand_lt (d : Double) : d.significand < 2 ^ 53 := by
  have hfraction := fractionField_eq d
  have hpow : Nat.pow 2 52 = 2 ^ 52 := rfl
  rw [significand]
  split <;> omega

/-! ### Powers of ten -/

theorem pow_length_toDigits_le {n : Nat} (hn : 0 < n) :
    10 ^ ((Nat.toDigits 10 n).length - 1) ≤ n := by
  by_cases hone : (Nat.toDigits 10 n).length - 1 = 0
  · rw [hone, Nat.pow_zero]
    exact hn
  · refine Nat.not_lt.1 fun hlt => ?_
    have hlength := (Nat.length_toDigits_le_iff (by decide) (Nat.pos_of_ne_zero hone)).2 hlt
    omega

/-- Powers of ten on both sides are balanced by their exponents. -/
theorem mul_pow_le {denominator value l a b t shift : Nat}
    (h : denominator * 10 ^ l ≤ value * 10 ^ shift) (hsum : a + t + shift = l + b) :
    denominator * 10 ^ a * 10 ^ t ≤ value * 10 ^ b := by
  have hshift : 0 < 10 ^ shift := Nat.pow_pos (by decide)
  refine Nat.le_of_mul_le_mul_right ?_ hshift
  calc denominator * 10 ^ a * 10 ^ t * 10 ^ shift
      = denominator * 10 ^ l * 10 ^ b := by
        rw [Nat.mul_assoc, Nat.mul_assoc, ← Nat.pow_add, ← Nat.pow_add, ← Nat.add_assoc, hsum,
          Nat.pow_add, Nat.mul_assoc]
    _ ≤ value * 10 ^ shift * 10 ^ b := Nat.mul_le_mul_right _ h
    _ = value * 10 ^ b * 10 ^ shift := Nat.mul_right_comm _ _ _

/-! ### Grids -/

/-- A neighbourhood with room on either side of its value: a gap `g` of which the value holds fewer
than `2 ^ 55`. -/
structure Neighbourhood.Wide (n : Neighbourhood) (g : Nat) : Prop where
  value_pos : 0 < n.value
  denominator_pos : 0 < n.denominator
  denominator_le : n.denominator ≤ 10 ^ 400
  below : n.low + g ≤ n.value
  above : n.value + g ≤ n.high
  value_lt : n.value < 2 ^ 55 * g

theorem two_pow_exponent_le (d : Double) : 2 ^ (-(d.exponent - 2)).toNat ≤ 10 ^ 400 := by
  have hpower : ∀ e shift : Nat, e ≤ 3 * shift → 2 ^ e ≤ 10 ^ shift := by
    intro e shift he
    calc 2 ^ e ≤ 2 ^ (3 * shift) := Nat.pow_le_pow_right (by decide) he
      _ = (2 ^ 3) ^ shift := Nat.pow_mul 2 3 shift
      _ ≤ 10 ^ shift := Nat.pow_le_pow_left (by decide) shift
  refine hpower _ 400 ?_
  rw [exponent]
  split <;> omega

theorem neighbourhood_wide (h : d.isZero = false) :
    d.neighbourhood.Wide (Nat.pow 2 (d.exponent - 2).toNat) := by
  have hpos := significand_pos h
  have hlt := significand_lt d
  have hscale : 0 < Nat.pow 2 (d.exponent - 2).toNat := Nat.pow_pos (by decide)
  exact
    { value_pos := Nat.mul_pos (by omega) hscale
      denominator_pos := Nat.pow_pos (by decide)
      denominator_le := two_pow_exponent_le d
      below := by
        simp only [neighbourhood]
        rw [← Nat.succ_mul]
        refine Nat.mul_le_mul_right _ ?_
        split <;> omega
      above := by
        simp only [neighbourhood]
        rw [← Nat.succ_mul]
        exact Nat.mul_le_mul_right _ (by omega)
      value_lt := Nat.mul_lt_mul_of_pos_right (by omega) hscale }

namespace Neighbourhood

variable {n : Neighbourhood} {g : Nat}

theorem Wide.unit_pos (h : n.Wide g) (k : Int) : 0 < n.denominator * 10 ^ k.toNat :=
  Nat.mul_pos h.denominator_pos (Nat.pow_pos (by decide))

/-- The coarsest grid is no coarser than the value, and each finer one is ten times as fine. -/
theorem Wide.unit_le (h : n.Wide g) (tried : Nat) :
    n.denominator * 10 ^ (n.decimalExponent - tried).toNat * 10 ^ tried ≤
      n.value * 10 ^ (-(n.decimalExponent - tried)).toNat := by
  have hexponent : n.decimalExponent =
      ((Nat.toDigits 10 (n.value * Nat.pow 10 400 / n.denominator)).length : Int) - 401 := by
    rw [decimalExponent]
  have hle := h.denominator_le
  -- the exponent 400 is named, so that no step computes the power
  generalize hshift : 400 = shift at hexponent hle
  rw [Nat.pow_eq] at hexponent
  generalize hquotient : n.value * 10 ^ shift / n.denominator = quotient at hexponent
  have hpos : 0 < quotient := by
    rw [← hquotient]
    exact Nat.div_pos (Nat.le_trans hle (Nat.le_mul_of_pos_left _ h.value_pos)) h.denominator_pos
  have hbound : n.denominator * 10 ^ ((Nat.toDigits 10 quotient).length - 1) ≤
      n.value * 10 ^ shift := by
    refine Nat.le_trans (Nat.mul_le_mul_left _ (pow_length_toDigits_le hpos)) ?_
    rw [← hquotient]
    exact Nat.mul_div_le _ _
  have hlength : 0 < (Nat.toDigits 10 quotient).length :=
    List.length_pos_of_ne_nil Nat.toDigits_ne_nil
  refine mul_pow_le hbound ?_
  -- what is left is about exponents alone
  clear hle hquotient hpos hbound
  omega

/-- Seventeen grids on, the grid is finer than the gap, as `10 ^ 17` exceeds `2 ^ 55`. -/
theorem Wide.unit_lt (h : n.Wide g) :
    n.denominator * 10 ^ (n.decimalExponent - (17 : Nat)).toNat <
      g * 10 ^ (-(n.decimalExponent - (17 : Nat))).toNat := by
  have hunit := h.unit_le 17
  have hup : 0 < 10 ^ (-(n.decimalExponent - (17 : Nat))).toNat := Nat.pow_pos (by decide)
  have hvalue := Nat.mul_lt_mul_of_pos_right h.value_lt hup
  rw [Nat.mul_assoc] at hvalue
  omega

/-- Whether a multiple of `10 ^ k` lies in the neighbourhood. -/
def Inside (n : Neighbourhood) (k : Int) (candidate : Nat) : Bool :=
  let unit := n.denominator * 10 ^ k.toNat
  let up := 10 ^ (-k).toNat
  if n.closed then n.low * up ≤ candidate * unit && candidate * unit ≤ n.high * up
  else n.low * up < candidate * unit && candidate * unit < n.high * up

/-- The candidates of a grid are the quotient and its successor. -/
def Candidate (n : Neighbourhood) (k : Int) (c : Nat) : Prop :=
  c = n.value * 10 ^ (-k).toNat / (n.denominator * 10 ^ k.toNat) ∨
    c = n.value * 10 ^ (-k).toNat / (n.denominator * 10 ^ k.toNat) + 1

/-- A grid offers the first of its candidates that is inside. -/
theorem onGrid?_eq (n : Neighbourhood) (k : Int) :
    ∃ first second, n.Candidate k first ∧ n.Candidate k second ∧
      n.onGrid? k = if n.Inside k first then some first
        else if n.Inside k second then some second else none := by
  by_cases hnear : 2 * (n.value * 10 ^ (-k).toNat % (n.denominator * 10 ^ k.toNat)) <
      n.denominator * 10 ^ k.toNat ∨
    2 * (n.value * 10 ^ (-k).toNat % (n.denominator * 10 ^ k.toNat)) =
        n.denominator * 10 ^ k.toNat ∧
      n.value * 10 ^ (-k).toNat / (n.denominator * 10 ^ k.toNat) % 2 = 0
  · refine ⟨_, _, .inl rfl, .inr rfl, ?_⟩
    simp only [onGrid?, Inside, Nat.pow_eq, Bool.or_eq_true, Bool.and_eq_true, decide_eq_true_eq,
      hnear, if_true]
    rfl
  · refine ⟨_, _, .inr rfl, .inl rfl, ?_⟩
    simp only [onGrid?, Inside, Nat.pow_eq, Bool.or_eq_true, Bool.and_eq_true, decide_eq_true_eq,
      hnear, if_false]
    rfl

/-- On a grid no coarser than the value a candidate is at least one. -/
theorem onGrid?_pos (h : n.Wide g) {k : Int}
    (hunit : n.denominator * 10 ^ k.toNat ≤ n.value * 10 ^ (-k).toNat) {found : Nat}
    (hfound : n.onGrid? k = some found) : 0 < found := by
  have hpos := h.unit_pos k
  have hbelow : 0 < n.value * 10 ^ (-k).toNat / (n.denominator * 10 ^ k.toNat) :=
    Nat.div_pos hunit hpos
  have hcandidate : ∀ c, n.Candidate k c → 0 < c := by
    rintro c (rfl | rfl)
    · exact hbelow
    · exact Nat.succ_pos _
  obtain ⟨first, second, hfirst, hsecond, hgrid⟩ := onGrid?_eq n k
  rw [hgrid] at hfound
  split at hfound
  · exact Option.some.inj hfound ▸ hcandidate first hfirst
  · split at hfound
    · exact Option.some.inj hfound ▸ hcandidate second hsecond
    · exact absurd hfound (by simp)

/-- On a grid finer than the gap every candidate is inside. -/
theorem inside_of_candidate (h : n.Wide g) {k : Int}
    (hunit : n.denominator * 10 ^ k.toNat < g * 10 ^ (-k).toNat) {c : Nat}
    (hc : n.Candidate k c) : n.Inside k c = true := by
  have hpos := h.unit_pos k
  have hlow : n.low * 10 ^ (-k).toNat + g * 10 ^ (-k).toNat ≤ n.value * 10 ^ (-k).toNat := by
    rw [← Nat.add_mul]
    exact Nat.mul_le_mul_right _ h.below
  have hhigh : n.value * 10 ^ (-k).toNat + g * 10 ^ (-k).toNat ≤ n.high * 10 ^ (-k).toNat := by
    rw [← Nat.add_mul]
    exact Nat.mul_le_mul_right _ h.above
  have hdivision := Nat.div_add_mod' (n.value * 10 ^ (-k).toNat) (n.denominator * 10 ^ k.toNat)
  have hremainder := Nat.mod_lt (n.value * 10 ^ (-k).toNat) hpos
  have hstrict : n.low * 10 ^ (-k).toNat < c * (n.denominator * 10 ^ k.toNat) ∧
      c * (n.denominator * 10 ^ k.toNat) < n.high * 10 ^ (-k).toNat := by
    rcases hc with rfl | rfl
    · omega
    · rw [Nat.succ_mul]
      omega
  obtain ⟨hleft, hright⟩ := hstrict
  simp only [Inside]
  split
  · simp [hleft.le, hright.le]
  · simp [hleft, hright]

theorem onGrid?_ne_none (h : n.Wide g) {k : Int}
    (hunit : n.denominator * 10 ^ k.toNat < g * 10 ^ (-k).toNat) : n.onGrid? k ≠ none := by
  obtain ⟨first, second, hfirst, -, hgrid⟩ := onGrid?_eq n k
  rw [hgrid, if_pos (inside_of_candidate h hunit hfirst)]
  exact Option.some_ne_none first

/-- The search ends with a positive number. -/
theorem search_pos (h : n.Wide g) (steps tried : Nat) (hsteps : 0 < steps)
    (hsum : tried + steps = 18) : 0 < (n.search n.decimalExponent steps tried).1 := by
  induction steps generalizing tried with
  | zero => exact absurd hsteps (Nat.lt_irrefl 0)
  | succ steps ih =>
    have hunit := h.unit_le tried
    rw [search]
    cases hfound : n.onGrid? (n.decimalExponent - tried) with
    | some found =>
      refine onGrid?_pos h (Nat.le_trans ?_ hunit) hfound
      exact Nat.le_mul_of_pos_right _ (Nat.pow_pos (by decide))
    | none =>
      -- the last grid has a point inside
      have hlast : steps ≠ 0 := by
        rintro rfl
        obtain rfl : tried = 17 := by omega
        exact onGrid?_ne_none h h.unit_lt hfound
      exact ih (tried + 1) (by omega) (by omega)

end Neighbourhood

/-! ### Digits -/

theorem dropTrailingZeros_eq (digits : List Char) :
    dropTrailingZeros digits = digits.rdropWhile (· = '0') := rfl

/-- A number of units of `10 ^ k` as a decimal. -/
def Scientific.ofUnits (units : Nat × Int) : Scientific :=
  ⟨dropTrailingZeros (Nat.toDigits 10 units.1), units.2 + (Nat.toDigits 10 units.1).length - 1⟩

theorem Scientific.ofUnits_eq (units : Nat × Int) :
    (let (found, k) := units
      let digits := Nat.toDigits 10 found
      (⟨dropTrailingZeros digits, k + digits.length - 1⟩ : Scientific)) =
      Scientific.ofUnits units := rfl

-- an equation of functions: to compare its sides at a double the kernel would run the search
theorem shortest_eq : shortest = fun d =>
    let n := d.neighbourhood
    let (found, k) := n.search n.decimalExponent 18 0
    let digits := Nat.toDigits 10 found
    ⟨dropTrailingZeros digits, k + digits.length - 1⟩ := by
  delta shortest
  exact Eq.refl _

theorem shortest_eq_ofUnits (d : Double) :
    d.shortest = .ofUnits (d.neighbourhood.search d.neighbourhood.decimalExponent 18 0) := by
  rw [shortest_eq, ← Scientific.ofUnits_eq]

/-- The digits of the shortest decimal: at least one, and no zero in front. -/
theorem shortest_digits (h : d.isZero = false) :
    ∃ c rest, d.shortest.digits = c :: rest ∧ c ≠ '0' ∧ ∀ x ∈ c :: rest, x.isDigit = true := by
  obtain ⟨found, hfound, hdigits⟩ : ∃ found, 0 < found ∧
      d.shortest.digits = dropTrailingZeros (Nat.toDigits 10 found) := by
    refine ⟨_, Neighbourhood.search_pos (neighbourhood_wide h) 18 0 (by decide) rfl, ?_⟩
    rw [shortest_eq_ofUnits, Scientific.ofUnits]
  rw [dropTrailingZeros_eq] at hdigits
  obtain ⟨c, more, hchars⟩ := List.exists_cons_of_ne_nil (Nat.toDigits_ne_nil (n := found)
    (b := 10))
  have hc : c ≠ '0' := by
    have hhead := Json.head?_toDigits_ne (Nat.pos_iff_ne_zero.1 hfound)
    rw [hchars] at hhead
    simpa using hhead
  rw [hchars] at hdigits
  have hprefix : d.shortest.digits <+: c :: more := hdigits ▸ List.rdropWhile_prefix _ _
  cases hshortest : d.shortest.digits with
  | nil =>
    rw [hshortest] at hdigits
    have hall := List.rdropWhile_eq_nil_iff.1 hdigits.symm c List.mem_cons_self
    exact absurd (of_decide_eq_true hall) hc
  | cons x rest =>
    rw [hshortest] at hprefix
    obtain ⟨rfl, -⟩ := List.cons_prefix_cons.1 hprefix
    refine ⟨x, rest, rfl, hc, fun y hy => ?_⟩
    refine Nat.isDigit_of_mem_toDigits (b := 10) (n := found) (by decide) (by decide) ?_
    rw [hchars]
    exact hprefix.subset hy

end ConformanceSuite.Double
