import Mathlib.Data.Rat.Floor

/-!
# Trunc

A number without its fraction, as `int` cuts it off, and what this is for a
quotient: the division that rounds towards zero.
-/

/-- `int(q)`: towards zero. -/
def trunc (q : ℚ) : Int := if 0 ≤ q then ⌊q⌋ else ⌈q⌉

@[simp] theorem trunc_intCast (n : Int) : trunc n = n := by
  rw [trunc, Int.floor_intCast, Int.ceil_intCast, ite_self]

theorem trunc_natCast_div (m n : Nat) : trunc (m / n) = (m / n : Nat) := by
  rw [trunc, if_pos (div_nonneg (Nat.cast_nonneg m) (Nat.cast_nonneg n)),
    Rat.floor_natCast_div_natCast, Int.natCast_ediv]

theorem trunc_intCast_div (m : Int) (n : Nat) : trunc (m / n) = m.tdiv n := by
  obtain ⟨k, rfl | rfl⟩ := m.eq_nat_or_neg
  · rw [Int.cast_natCast, trunc_natCast_div]
    rfl
  · have hneg : (((-(k : Int) : Int) : ℚ) / n) = -((k : ℚ) / n) := by
      push_cast
      ring
    have hquotient := trunc_natCast_div k n
    rw [hneg, Int.neg_tdiv, ← Int.ofNat_tdiv]
    have hnonneg : (0 : ℚ) ≤ k / n := div_nonneg (Nat.cast_nonneg k) (Nat.cast_nonneg n)
    rcases hnonneg.eq_or_lt' with hzero | hpos
    · rw [hzero, trunc, if_pos le_rfl, Int.floor_zero] at hquotient
      rw [hzero, neg_zero, trunc, if_pos le_rfl, Int.floor_zero, ← hquotient, neg_zero]
    · rw [trunc, if_pos hpos.le] at hquotient
      rw [trunc, if_neg (by linarith), Int.ceil_neg, hquotient]

/-- The quotient and the rest, which has the sign of the number. -/
theorem tdiv_spec (m : Int) {d : Int} (hd : 0 < d) : d * m.tdiv d + m.tmod d = m ∧
    (0 ≤ m → 0 ≤ m.tmod d ∧ m.tmod d < d) ∧ (m ≤ 0 → -d < m.tmod d ∧ m.tmod d ≤ 0) := by
  refine ⟨Int.mul_tdiv_add_tmod m d, fun h => ⟨Int.tmod_nonneg d h, Int.tmod_lt_of_pos m hd⟩,
    fun h => ⟨Int.lt_tmod_of_pos m hd, ?_⟩⟩
  have hnonneg := Int.tmod_nonneg d (neg_nonneg.mpr h)
  rw [Int.neg_tmod] at hnonneg
  exact neg_nonneg.mp hnonneg
