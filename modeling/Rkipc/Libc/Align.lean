import Mathlib.Algebra.Order.Ring.Int
import Mathlib.Order.Bounds.Basic
import Mathlib.Order.Lattice

namespace Rkipc.Libc

/-! Rounding to the grid of an alignment. -/

/-- `(value + align - 1) & ~(align - 1)`, where the alignment is a power of two. -/
def alignUp (align value : Int) : Int := (value + align - 1) / align * align

/-- `while (value > limit) value -= align;` -/
def stepDown (align limit value : Int) : Int :=
  if 0 < align ∧ limit < value then stepDown align limit (value - align) else value
termination_by (value - limit).toNat
decreasing_by omega

/-- The last place of the grid that leaves room for the size. -/
def room (align frame size : Int) : Int := (frame - size) / align * align

section Align

variable {align value limit frame size : Int}

theorem alignUp_le_iff (pos : 0 < align) {place : Int} (onGrid : align ∣ place) :
    alignUp align value ≤ place ↔ value ≤ place := by
  obtain ⟨factor, rfl⟩ := onGrid
  have scaled : (factor + 1) * align = factor * align + align := by
    rw [Int.add_mul, Int.one_mul]
  rw [alignUp, mul_comm align factor, mul_le_mul_iff_of_pos_right pos, ← Int.lt_add_one_iff,
    Int.ediv_lt_iff_lt_mul pos, scaled]
  constructor
  · intro less
    omega
  · intro less
    omega

theorem dvd_alignUp : align ∣ alignUp align value := Dvd.intro_left _ rfl

theorem dvd_room : align ∣ room align frame size := Dvd.intro_left _ rfl

theorem alignUp_nonneg_iff (pos : 0 < align) : 0 ≤ alignUp align value ↔ -align < value := by
  have below : alignUp align value ≤ align * -1 ↔ value ≤ align * -1 :=
    alignUp_le_iff pos (Dvd.intro (-1) rfl)
  have step : alignUp align value < 0 ↔ alignUp align value ≤ align * -1 := by
    obtain ⟨factor, same⟩ : align ∣ alignUp align value := dvd_alignUp
    rw [same, mul_le_mul_iff_of_pos_left pos]
    constructor
    · intro negative
      have lessZero : factor < 0 := by
        by_contra nonneg
        exact absurd negative (not_lt.mpr (mul_nonneg pos.le (not_lt.mp nonneg)))
      omega
    · intro negative
      exact mul_neg_of_pos_of_neg pos (by omega)
  rw [← not_lt, step, below, not_le, mul_neg_one]

theorem add_le_iff_le_room (pos : 0 < align) (onGrid : align ∣ value) :
    value + size ≤ frame ↔ value ≤ room align frame size := by
  obtain ⟨factor, rfl⟩ := onGrid
  rw [room, mul_comm align factor, mul_le_mul_iff_of_pos_right pos, Int.le_ediv_iff_mul_le pos]
  constructor
  · intro fits
    omega
  · intro fits
    omega

theorem room_nonneg_iff (pos : 0 < align) : 0 ≤ room align frame size ↔ size ≤ frame := by
  rw [← add_le_iff_le_room pos (Dvd.intro 0 (mul_zero align)), zero_add]

theorem isGreatest_floor (pos : 0 < align) :
    IsGreatest {place | align ∣ place ∧ place ≤ value} (value / align * align) := by
  refine ⟨⟨Int.dvd_mul_left _ _, Int.ediv_mul_le value pos.ne'⟩, ?_⟩
  rintro place ⟨⟨factor, rfl⟩, small⟩
  rw [mul_comm align factor] at small ⊢
  exact mul_le_mul_of_nonneg_right ((Int.le_ediv_iff_mul_le pos).mpr small) pos.le

/-- Stepping down the grid ends at the last place below the limit. -/
theorem stepDown_eq (pos : 0 < align) (onGrid : align ∣ value) :
    stepDown align limit value = min value (limit / align * align) := by
  induction value using stepDown.induct align limit with
  | case1 value above induction =>
      rw [stepDown, if_pos above, induction (Int.dvd_sub onGrid (Int.dvd_refl align))]
      obtain ⟨factor, rfl⟩ := onGrid
      have less : limit / align < factor := by
        rw [Int.ediv_lt_iff_lt_mul pos, mul_comm]
        exact above.2
      have before : limit / align * align ≤ align * factor - align := by
        have scaled : align * factor - align = (factor - 1) * align := by
          rw [Int.sub_mul, Int.one_mul, mul_comm]
        rw [scaled]
        exact mul_le_mul_of_nonneg_right (by omega) pos.le
      rw [min_eq_right before, min_eq_right (by omega)]
  | case2 value below =>
      rw [stepDown, if_neg below]
      refine (min_eq_left ?_).symm
      obtain ⟨factor, rfl⟩ := onGrid
      rw [mul_comm align factor]
      refine mul_le_mul_of_nonneg_right ?_ pos.le
      rw [Int.le_ediv_iff_mul_le pos, mul_comm]
      by_contra above
      exact below ⟨pos, not_le.mp above⟩

end Align

section Scale

variable {align size value target source : Int}

theorem lt_tdiv_iff (positive : 0 < source) (pos : 0 < align) :
    -align < value.tdiv source ↔ -(align * source) < value := by
  have product : 0 < align * source := mul_pos pos positive
  rcases Int.le_total 0 value with nonneg | nonpos
  · rw [Int.tdiv_eq_ediv_of_nonneg nonneg]
    have quotient : 0 ≤ value / source := Int.ediv_nonneg nonneg positive.le
    constructor
    · intro _
      omega
    · intro _
      omega
  · obtain ⟨opposite, rfl⟩ : ∃ opposite, value = -opposite := ⟨-value, (neg_neg value).symm⟩
    rw [Int.neg_tdiv, Int.tdiv_eq_ediv_of_nonneg (by omega), Int.neg_lt_neg_iff,
      Int.neg_lt_neg_iff, Int.ediv_lt_iff_lt_mul positive]

theorem tdiv_le_iff (positive : 0 < source) {bound : Int} (nonneg : 0 ≤ bound) :
    value.tdiv source ≤ bound ↔ value < source * (bound + 1) := by
  rcases Int.le_total 0 value with above | below
  · rw [Int.tdiv_eq_ediv_of_nonneg above, ← Int.lt_add_one_iff,
      Int.ediv_lt_iff_lt_mul positive, mul_comm]
  · have quotient : value.tdiv source ≤ 0 := by
      rw [← neg_neg value, Int.neg_tdiv]
      exact Int.neg_nonpos_of_nonneg (Int.tdiv_nonneg (Int.neg_nonneg_of_nonpos below)
        positive.le)
    have product : 0 < source * (bound + 1) := mul_pos positive (by omega)
    constructor
    · intro _
      omega
    · intro _
      omega

/-- Scaled to another frame and rounded up, a place leaves room for the size. -/
theorem alignUp_tdiv_inside_iff (pos : 0 < align) (positive : 0 < source) :
    (0 ≤ alignUp align (value.tdiv source) ∧
        alignUp align (value.tdiv source) + size ≤ target) ↔
      size ≤ target ∧ -(align * source) < value ∧
        value < source * (room align target size + 1) := by
  rw [add_le_iff_le_room pos dvd_alignUp, alignUp_le_iff pos dvd_room]
  constructor
  · rintro ⟨nonneg, fits⟩
    have spacious : 0 ≤ room align target size :=
      nonneg.trans ((alignUp_le_iff pos dvd_room).mpr fits)
    exact ⟨(room_nonneg_iff pos).mp spacious,
      (lt_tdiv_iff positive pos).mp ((alignUp_nonneg_iff pos).mp nonneg),
      (tdiv_le_iff positive spacious).mp fits⟩
  · rintro ⟨smaller, above, below⟩
    have spacious := (room_nonneg_iff pos).mpr smaller
    exact ⟨(alignUp_nonneg_iff pos).mpr ((lt_tdiv_iff positive pos).mpr above),
      (tdiv_le_iff positive spacious).mpr below⟩

end Scale

/-! Loops that step down until a sum is below a limit, in `int` arithmetic, where an
overflow has no meaning. -/

def intMin : Int := -2147483648

def intMax : Int := 2147483647

/-- The value of an expression of type `int`. -/
def toInt (value : Int) : Option Int :=
  if intMin ≤ value ∧ value ≤ intMax then some value else none

/-- `UPALIGNTO16`, which takes 1 from the sum with 16. -/
def upAlign16 (value : Int) : Option Int :=
  (toInt (value + 16)).map fun _ => alignUp 16 value

/-- `while (other + value >= limit) value -= step;` -/
def shrink (step limit other value : Int) : Option Int :=
  if intMin ≤ other + value ∧ other + value ≤ intMax then
    if limit ≤ other + value then
      if 0 < step ∧ intMin ≤ value - step then shrink step limit other (value - step)
      else none
    else some value
  else none
termination_by (value - intMin).toNat
decreasing_by omega

/-- The greatest number below the limit that is so many steps from the value. -/
def below (step limit value : Int) : Int := limit - 1 - (limit - 1 - value) % step

/-- No step of the loop overflows. -/
def Shrinks (step limit other value : Int) : Prop :=
  other + value ≤ intMax ∧
    (other + value < limit ∨ intMin + max other 0 ≤ below step limit (other + value))

instance (step limit other value : Int) : Decidable (Shrinks step limit other value) :=
  inferInstanceAs (Decidable (_ ∧ _))

section Shrink

variable {step limit other value result : Int}

theorem toInt_eq_some_iff :
    toInt value = some result ↔ (intMin ≤ value ∧ value ≤ intMax) ∧ value = result := by
  unfold toInt
  split
  next inRange => simp [inRange]
  next outside => simp [outside]

theorem upAlign16_eq_some_iff {up : Int} : upAlign16 value = some up ↔
    (intMin ≤ value + 16 ∧ value + 16 ≤ intMax) ∧ alignUp 16 value = up := by
  rw [upAlign16, toInt]
  split
  · simp [*]
  · simp [*]

theorem upAlign16_eq_some (fits : value + 16 ≤ intMax) (large : intMin ≤ value + 16) :
    upAlign16 value = some (alignUp 16 value) :=
  upAlign16_eq_some_iff.mpr ⟨⟨large, fits⟩, rfl⟩

theorem below_lt (pos : 0 < step) : below step limit value < limit := by
  have nonneg := Int.emod_nonneg (limit - 1 - value) pos.ne'
  unfold below
  omega

theorem below_step : below step limit (value - step) = below step limit value := by
  have same : limit - 1 - (value - step) = limit - 1 - value + step := by omega
  rw [below, below, same, Int.add_emod_right]

theorem below_le (pos : 0 < step) (above : limit ≤ value) :
    below step limit value ≤ value - step := by
  have less := Int.emod_lt_of_pos (limit - 1 - value) pos
  have parts := Int.emod_add_mul_ediv (limit - 1 - value) step
  have negative : (limit - 1 - value) / step ≤ -1 := by
    have := Int.ediv_lt_of_lt_mul pos (show limit - 1 - value < 0 * step by omega)
    omega
  have product : step * ((limit - 1 - value) / step) ≤ step * -1 :=
    mul_le_mul_of_nonneg_left negative pos.le
  unfold below
  omega

theorem le_below (pos : 0 < step) (less : value < limit) : value ≤ below step limit value := by
  have parts := Int.emod_add_mul_ediv (limit - 1 - value) step
  have product : 0 ≤ step * ((limit - 1 - value) / step) :=
    mul_nonneg pos.le (Int.ediv_nonneg (by omega) pos.le)
  unfold below
  omega

theorem below_eq (onGrid : step ∣ value) : below step limit value = (limit - 1) / step * step := by
  have same : (limit - 1 - value) % step = (limit - 1) % step := by
    obtain ⟨factor, rfl⟩ := onGrid
    exact Int.sub_mul_emod_self_left (limit - 1) step factor
  have parts := Int.emod_add_mul_ediv (limit - 1) step
  rw [mul_comm step] at parts
  rw [below, same]
  omega

theorem shrink_of_fits (large : intMin ≤ other + value) (fits : other + value ≤ intMax)
    (less : other + value < limit) : shrink step limit other value = some value := by
  rw [shrink, if_pos ⟨large, fits⟩, if_neg (not_le.mpr less)]

theorem inRange_of_shrink (isResult : shrink step limit other value = some result) :
    intMin ≤ other + value ∧ other + value ≤ intMax := by
  by_contra outside
  rw [shrink, if_neg outside] at isResult
  cases isResult

/-- The loop ends at the greatest sum below the limit, if nothing overflows before. -/
theorem shrink_eq (pos : 0 < step) (large : intMin ≤ other + value) :
    shrink step limit other value =
      if Shrinks step limit other value then
        some (min value (below step limit (other + value) - other))
      else none := by
  induction value using shrink.induct step limit other with
  | case1 value inRange above goesOn induction =>
      have lower : below step limit (other + value) ≤ other + value - step :=
        below_le pos above
      have next : below step limit (other + (value - step)) =
          below step limit (other + value) := by
        rw [← Int.add_sub_assoc, below_step]
      rw [shrink, if_pos inRange, if_pos above, if_pos goesOn]
      rcases le_or_gt intMin (other + (value - step)) with inner | beyond
      · rw [induction inner, next]
        have upper : other + (value - step) < limit →
            other + (value - step) ≤ below step limit (other + value) :=
          fun less => next ▸ le_below pos less
        have same : Shrinks step limit other (value - step) ↔ Shrinks step limit other value := by
          unfold Shrinks
          rw [next]
          omega
        rw [min_eq_right (by omega), min_eq_right (by omega)]
        exact if_congr same rfl rfl
      · have outside : ¬ Shrinks step limit other value := by
          unfold Shrinks
          omega
        rw [shrink, if_neg (by omega), if_neg outside]
  | case2 value inRange above stops =>
      have lower : below step limit (other + value) ≤ other + value - step :=
        below_le pos above
      rw [shrink, if_pos inRange, if_pos above, if_neg stops, if_neg]
      rintro ⟨_, less | room⟩
      · omega
      · exact stops ⟨pos, by omega⟩
  | case3 value inRange less =>
      have under : other + value < limit := not_le.mp less
      have upper := le_below pos under
      rw [shrink_of_fits inRange.1 inRange.2 under, if_pos ⟨inRange.2, .inl under⟩,
        min_eq_left (by omega)]
  | case4 value outside =>
      rw [shrink, if_neg outside, if_neg]
      rintro ⟨fits, _⟩
      exact outside ⟨large, fits⟩

theorem isGreatest_shrink (pos : 0 < step) (otherOnGrid : step ∣ other)
    (valueOnGrid : step ∣ value) :
    IsGreatest {place | step ∣ place ∧ place ≤ value ∧ other + place < limit}
      (min value (below step limit (other + value) - other)) := by
  have onGrid : step ∣ other + value := Int.dvd_add otherOnGrid valueOnGrid
  have less : below step limit (other + value) < limit := below_lt pos
  constructor
  · refine ⟨?_, min_le_left _ _, by omega⟩
    rcases min_choice value (below step limit (other + value) - other) with isValue | isBelow
    · rw [isValue]
      exact valueOnGrid
    · rw [isBelow, below_eq onGrid]
      exact Int.dvd_sub (Int.dvd_mul_left _ _) otherOnGrid
  · rintro place ⟨placeOnGrid, small, inside⟩
    refine le_min small ?_
    obtain ⟨factor, same⟩ : step ∣ other + place := Int.dvd_add otherOnGrid placeOnGrid
    have bound : factor ≤ (limit - 1) / step := by
      rw [Int.le_ediv_iff_mul_le pos, mul_comm]
      omega
    have scaled := mul_le_mul_of_nonneg_right bound pos.le
    rw [mul_comm factor] at scaled
    rw [below_eq onGrid]
    omega

end Shrink

end Rkipc.Libc
