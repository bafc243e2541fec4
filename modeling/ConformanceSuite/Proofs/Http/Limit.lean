import Mathlib.Tactic.Common
import ConformanceSuite.Http.Body

/-!
# The limit of bodies

A body is read up to one byte beyond its limit, which tells a body that is too large from one that
fits. At the largest limit there is no such byte, but no body that long can be held either. So the
limit is exact: `readLimited_exact`. Lengths stay in the range of machine integers throughout.
-/

namespace ConformanceSuite.Http.Body

/-- Reading does not fail: a body that is not refused for its declared length is delivered as far as
it is read, and can be held. -/
def Reads (maxBytes : UInt64) (b : Body) : Prop :=
  (∀ n ∈ b.declared, n ≤ maxBytes) → ∃ bytes, (b.read (oneMore maxBytes)).1 = .ok bytes

theorem toNat_oneMore (n : UInt64) :
    (oneMore n).toNat = min (n.toNat + 1) 18446744073709551615 := by
  have hn := n.toNat_lt
  have hsum : (n + 1).toNat = (n.toNat + 1) % 18446744073709551616 := UInt64.toNat_add n 1
  unfold oneMore
  split
  · rename_i hzero
    rw [hzero] at hsum
    have hwrap : (0 : Nat) = (n.toNat + 1) % 18446744073709551616 := hsum
    omega
  · rename_i hne
    have hpos : (n + 1).toNat ≠ 0 := fun h => hne (UInt64.toNat_inj.1 h)
    omega

theorem capacity_eq : capacity = 9223372036854775807 := rfl

section Reading

variable {limit maxBytes : UInt64} {b : Body} {bytes : List UInt8}

/-- What is read stands in front of what is left, up to the limit, and can be held. -/
theorem of_read (h : (b.read limit).1 = .ok bytes) :
    bytes = b.delivered.take limit.toNat ∧ bytes.length ≤ capacity := by
  unfold read at h
  dsimp only at h
  split at h
  · cases h
  · split at h
    · cases h
    · rename_i hfits
      obtain rfl := Except.ok.inj h
      exact ⟨rfl, Nat.not_lt.1 hfits⟩

theorem toNat_length_of_read (h : (b.read limit).1 = .ok bytes) :
    (UInt64.ofNat bytes.length).toNat = bytes.length := by
  have hfits := (of_read h).2
  rw [capacity_eq] at hfits
  rw [UInt64.toNat_ofNat']
  omega

/-- As many bytes are read as are needed to see whether there are too many. -/
theorem length_of_read (h : (b.read (oneMore maxBytes)).1 = .ok bytes) :
    (maxBytes.toNat < bytes.length ↔ maxBytes.toNat < b.delivered.length) ∧
      (b.delivered.length ≤ maxBytes.toNat → bytes = b.delivered) := by
  obtain ⟨hbytes, hfits⟩ := of_read h
  have hlength : bytes.length = min (oneMore maxBytes).toNat b.delivered.length := by
    rw [hbytes, List.length_take]
  have hmax := maxBytes.toNat_lt
  rw [toNat_oneMore] at hlength
  rw [capacity_eq] at hfits
  refine ⟨by omega, fun hle => ?_⟩
  rw [hbytes, List.take_of_length_le]
  rw [toNat_oneMore]
  omega

/-- The bytes that were read are judged by their number. -/
theorem judge_eq (h : (b.read limit).1 = .ok bytes) :
    judge maxBytes b.declared bytes =
      if maxBytes.toNat < bytes.length then .error .tooLarge
      else if b.declared.any (bytes.length < ·.toNat) then .error truncated
      else .ok bytes := by
  unfold judge
  simp only [UInt64.lt_iff_toNat_lt, toNat_length_of_read h]

/-- What is left of a body is what stands behind at most one byte more than its limit. -/
theorem exists_taken (maxBytes : UInt64) (b : Body) :
    ∃ taken, b.delivered = taken ++ (b.readLimited maxBytes).2 ∧
      taken.length ≤ maxBytes.toNat + 1 := by
  have hread : ∃ taken, b.delivered = taken ++ (b.read (oneMore maxBytes)).2 ∧
      taken.length ≤ maxBytes.toNat + 1 := by
    refine ⟨b.delivered.take (oneMore maxBytes).toNat, (List.take_append_drop _ _).symm, ?_⟩
    rw [List.length_take, toNat_oneMore]
    omega
  unfold readLimited
  split
  · exact ⟨[], rfl, Nat.zero_le _⟩
  · split <;> (rename_i hresult; rwa [hresult] at hread)

end Reading

theorem any_eq_true_iff {o : Option UInt64} {p : UInt64 → Prop} [DecidablePred p] :
    (o.any fun n => decide (p n)) = true ↔ ∃ n ∈ o, p n := by
  cases o <;> simp

/-- A body is refused for its declared length, or for its length, or it is truncated, or it is read
whole. -/
theorem readLimited_cases {maxBytes : UInt64} {b : Body} (hreads : b.Reads maxBytes) :
    ((∃ n ∈ b.declared, maxBytes < n) ∧ (b.readLimited maxBytes).1 = .error .tooLarge) ∨
    (∀ n ∈ b.declared, n ≤ maxBytes) ∧
      ((maxBytes.toNat < b.delivered.length ∧ (b.readLimited maxBytes).1 = .error .tooLarge) ∨
        b.delivered.length ≤ maxBytes.toNat ∧
          (((∃ n ∈ b.declared, b.delivered.length < n.toNat) ∧
              (b.readLimited maxBytes).1 = .error truncated) ∨
            ((∀ n ∈ b.declared, n.toNat ≤ b.delivered.length) ∧
              (b.readLimited maxBytes).1 = .ok b.delivered))) := by
  by_cases hdeclared : ∃ n ∈ b.declared, maxBytes < n
  · left
    refine ⟨hdeclared, ?_⟩
    rw [readLimited, if_pos (any_eq_true_iff.2 hdeclared)]
  · right
    have hfits : ∀ n ∈ b.declared, n ≤ maxBytes := fun n hn =>
      UInt64.not_lt.1 fun hlt => hdeclared ⟨n, hn, hlt⟩
    obtain ⟨bytes, hread⟩ := hreads hfits
    have hresult : (b.readLimited maxBytes).1 = judge maxBytes b.declared bytes := by
      rw [readLimited, if_neg (mt any_eq_true_iff.1 hdeclared)]
      generalize b.read (oneMore maxBytes) = outcome at hread
      obtain ⟨result, left⟩ := outcome
      obtain rfl : result = .ok bytes := hread
      rfl
    obtain ⟨hlarge, hwhole⟩ := length_of_read hread
    rw [hresult, judge_eq hread]
    refine ⟨hfits, ?_⟩
    by_cases hlong : maxBytes.toNat < b.delivered.length
    · exact .inl ⟨hlong, if_pos (hlarge.2 hlong)⟩
    · have hshort := Nat.not_lt.1 hlong
      refine .inr ⟨hshort, ?_⟩
      rw [if_neg (mt hlarge.1 hlong), hwhole hshort]
      by_cases htruncated : ∃ n ∈ b.declared, b.delivered.length < n.toNat
      · exact .inl ⟨htruncated, if_pos (any_eq_true_iff.2 htruncated)⟩
      · refine .inr ⟨fun n hn => Nat.not_lt.1 fun hlt => htruncated ⟨n, hn, hlt⟩, ?_⟩
        exact if_neg (mt any_eq_true_iff.1 htruncated)

section Exactness

variable {maxBytes : UInt64} {b : Body}

theorem readLimited_eq_ok_iff (hreads : b.Reads maxBytes) (bytes : List UInt8) :
    (b.readLimited maxBytes).1 = .ok bytes ↔
      bytes = b.delivered ∧ b.delivered.length ≤ maxBytes.toNat ∧
        ∀ n ∈ b.declared, n ≤ maxBytes ∧ n.toNat ≤ b.delivered.length := by
  rcases readLimited_cases hreads with ⟨⟨n, hn, hlt⟩, hresult⟩ |
    ⟨hfits, ⟨hlong, hresult⟩ | ⟨hshort, ⟨⟨n, hn, hlt⟩, hresult⟩ | ⟨hwhole, hresult⟩⟩⟩
  · refine iff_of_false (by simp [hresult]) ?_
    rintro ⟨-, -, h⟩
    exact UInt64.not_lt.2 (h n hn).1 hlt
  · refine iff_of_false (by simp [hresult]) ?_
    rintro ⟨-, h, -⟩
    omega
  · refine iff_of_false (by simp [hresult, truncated]) ?_
    rintro ⟨-, -, h⟩
    have := (h n hn).2
    omega
  · rw [hresult, Except.ok.injEq, eq_comm]
    exact (and_iff_left ⟨hshort, fun n hn => ⟨hfits n hn, hwhole n hn⟩⟩).symm

theorem readLimited_eq_tooLarge_iff (hreads : b.Reads maxBytes) :
    (b.readLimited maxBytes).1 = .error .tooLarge ↔
      (∃ n ∈ b.declared, maxBytes < n) ∨ maxBytes.toNat < b.delivered.length := by
  have hnot : (∀ n ∈ b.declared, n ≤ maxBytes) → b.delivered.length ≤ maxBytes.toNat →
      ¬ ((∃ n ∈ b.declared, maxBytes < n) ∨ maxBytes.toNat < b.delivered.length) := by
    rintro hfits hshort (⟨n, hn, hlt⟩ | hlong)
    · exact UInt64.not_lt.2 (hfits n hn) hlt
    · omega
  rcases readLimited_cases hreads with ⟨hdeclared, hresult⟩ |
    ⟨hfits, ⟨hlong, hresult⟩ | ⟨hshort, ⟨-, hresult⟩ | ⟨-, hresult⟩⟩⟩
  · exact iff_of_true hresult (.inl hdeclared)
  · exact iff_of_true hresult (.inr hlong)
  · exact iff_of_false (by simp [hresult, truncated]) (hnot hfits hshort)
  · exact iff_of_false (by simp [hresult]) (hnot hfits hshort)

theorem readLimited_eq_truncated_iff (hreads : b.Reads maxBytes) :
    (b.readLimited maxBytes).1 = .error truncated ↔
      b.delivered.length ≤ maxBytes.toNat ∧
        ∃ n ∈ b.declared, n ≤ maxBytes ∧ b.delivered.length < n.toNat := by
  rcases readLimited_cases hreads with ⟨⟨n, hn, hlt⟩, hresult⟩ |
    ⟨hfits, ⟨hlong, hresult⟩ | ⟨hshort, ⟨⟨n, hn, hlt⟩, hresult⟩ | ⟨hwhole, hresult⟩⟩⟩
  · refine iff_of_false (by simp [hresult, truncated]) ?_
    rintro ⟨-, m, hm, hle, -⟩
    obtain rfl : n = m := Option.some.inj (hn.symm.trans hm)
    exact UInt64.not_lt.2 hle hlt
  · refine iff_of_false (by simp [hresult, truncated]) ?_
    rintro ⟨hshort, -⟩
    omega
  · exact iff_of_true hresult ⟨hshort, n, hn, hfits n hn, hlt⟩
  · refine iff_of_false (by simp [hresult]) ?_
    rintro ⟨-, n, hn, -, hlt⟩
    have := hwhole n hn
    omega

end Exactness

/-- A body that can be read is read whole if neither its length nor its declared length is beyond
the limit and it is not shorter than declared. It is too large if one of the two is beyond the
limit, and in all other cases truncated. No more than one byte beyond the limit is taken off it, and
no length leaves the range of machine integers. -/
theorem readLimited_exact (maxBytes : UInt64) (b : Body) (hreads : b.Reads maxBytes) :
    (∀ bytes, (b.readLimited maxBytes).1 = .ok bytes ↔
      bytes = b.delivered ∧ b.delivered.length ≤ maxBytes.toNat ∧
        ∀ n ∈ b.declared, n ≤ maxBytes ∧ n.toNat ≤ b.delivered.length) ∧
    ((b.readLimited maxBytes).1 = .error .tooLarge ↔
      (∃ n ∈ b.declared, maxBytes < n) ∨ maxBytes.toNat < b.delivered.length) ∧
    ((b.readLimited maxBytes).1 = .error truncated ↔
      b.delivered.length ≤ maxBytes.toNat ∧
        ∃ n ∈ b.declared, n ≤ maxBytes ∧ b.delivered.length < n.toNat) ∧
    (∃ taken, b.delivered = taken ++ (b.readLimited maxBytes).2 ∧
      taken.length ≤ maxBytes.toNat + 1) ∧
    (oneMore maxBytes).toNat = min (maxBytes.toNat + 1) (UInt64.size - 1) ∧
    ∀ bytes, (b.read (oneMore maxBytes)).1 = .ok bytes →
      (UInt64.ofNat bytes.length).toNat = bytes.length := by
  exact ⟨readLimited_eq_ok_iff hreads, readLimited_eq_tooLarge_iff hreads,
    readLimited_eq_truncated_iff hreads, exists_taken maxBytes b, toNat_oneMore maxBytes,
    fun _ => toNat_length_of_read⟩

/-- Three bytes that are declared as three. -/
def threeBytes : Body := ⟨some 3, [1, 2, 3], false⟩

/-- Three bytes are too many for a limit of two, fit a limit of three, and fit the largest limit. -/
theorem readLimited_exact_threeBytes :
    threeBytes.Reads 2 ∧ (threeBytes.readLimited 2).1 = .error .tooLarge ∧
      threeBytes.Reads 3 ∧ (threeBytes.readLimited 3).1 = .ok [1, 2, 3] ∧
      threeBytes.Reads 0xffffffffffffffff ∧
      (threeBytes.readLimited 0xffffffffffffffff).1 = .ok [1, 2, 3] := by
  have hdeclared : ∀ n ∈ threeBytes.declared, n = 3 := fun n hn => (Option.some.inj hn).symm
  have htwo : threeBytes.Reads 2 := fun _ => ⟨_, rfl⟩
  have hthree : threeBytes.Reads 3 := fun _ => ⟨_, rfl⟩
  have hlargest : threeBytes.Reads 0xffffffffffffffff := fun _ => ⟨_, rfl⟩
  refine ⟨htwo, (readLimited_exact 2 threeBytes htwo).2.1.2 (.inl ⟨3, rfl, by decide⟩), hthree,
    ((readLimited_exact 3 threeBytes hthree).1 _).2 ⟨rfl, by decide, fun n hn => ?_⟩, hlargest,
    ((readLimited_exact 0xffffffffffffffff threeBytes hlargest).1 _).2
      ⟨rfl, by decide, fun n hn => ?_⟩⟩
  · rw [hdeclared n hn]
    decide
  · rw [hdeclared n hn]
    decide

end ConformanceSuite.Http.Body
