import Mathlib.Algebra.Order.Floor.Ring
import Mathlib.Algebra.Order.Ring.Int
import Mathlib.Tactic.Linarith

namespace Rkipc.Libc

/-! The conversion of a number to an integer, toward zero. -/

section Truncate

variable {K : Type u} [Field K] [LinearOrder K] [FloorRing K]

def truncate (x : K) : Int := if 0 ≤ x then ⌊x⌋ else ⌈x⌉

variable {x : K} {n : Int}

theorem truncate_of_nonneg (nonneg : 0 ≤ x) : truncate x = ⌊x⌋ := if_pos nonneg

theorem truncate_of_neg (neg : x < 0) : truncate x = ⌈x⌉ := if_neg neg.not_ge

theorem truncate_nonpos_of_neg (neg : x < 0) : truncate x ≤ 0 := by
  rw [truncate_of_neg neg, Int.ceil_le, Int.cast_zero]
  exact neg.le

variable [IsStrictOrderedRing K]

theorem le_truncate (nonneg : 0 ≤ n) (isLe : (n : K) ≤ x) : n ≤ truncate x := by
  rw [truncate_of_nonneg ((Int.cast_nonneg nonneg).trans isLe)]
  exact Int.le_floor.mpr isLe

theorem le_truncate_iff (nonneg : 0 ≤ n) :
    n ≤ truncate x ↔ (n : K) ≤ x ∨ n = 0 ∧ -1 < x := by
  by_cases sign : 0 ≤ x
  · rw [truncate_of_nonneg sign, Int.le_floor]
    refine (or_iff_left_of_imp fun ⟨isZero, _⟩ => ?_).symm
    rw [isZero, Int.cast_zero]
    exact sign
  · have neg := not_le.mp sign
    have notLe : ¬ (n : K) ≤ x := fun isLe => sign ((Int.cast_nonneg nonneg).trans isLe)
    rw [or_iff_right notLe, truncate_of_neg neg]
    have isNeg : ⌈x⌉ ≤ 0 := (truncate_of_neg neg) ▸ truncate_nonpos_of_neg neg
    have above : -1 < ⌈x⌉ ↔ -1 < x := by
      rw [Int.lt_ceil, Int.cast_neg, Int.cast_one]
    rw [← above]
    omega

theorem truncate_le_iff (nonneg : 0 ≤ n) : truncate x ≤ n ↔ x < n + 1 := by
  by_cases sign : 0 ≤ x
  · rw [truncate_of_nonneg sign, ← Int.lt_add_one_iff, Int.floor_lt, Int.cast_add, Int.cast_one]
  · have neg := not_le.mp sign
    have isPos : (0 : K) < n + 1 := by
      have isNonneg : (0 : K) ≤ n := Int.cast_nonneg nonneg
      linarith
    exact iff_of_true ((truncate_nonpos_of_neg neg).trans nonneg) (neg.trans isPos)

end Truncate

end Rkipc.Libc
