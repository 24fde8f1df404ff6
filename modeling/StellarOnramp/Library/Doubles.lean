import Mathlib.Algebra.Order.Field.Basic
import Mathlib.Algebra.Order.Round
import Mathlib.Data.Int.Log
import Mathlib.Data.Rat.Floor
import Mathlib.Tactic.Linarith
import Mathlib.Tactic.Ring

/-! Rounding to double precision: 53 binary digits, ties to the even neighbour, and the grid of
the subnormal numbers below. The exponents have no upper bound, so a sum that would be infinite
is a large number instead.
-/

namespace Doubles

/-- The nearest integer, and the even one where two are equally near. -/
def nearestEven (value : ℚ) : ℤ :=
  if Int.fract value < 1 / 2 then
    ⌊value⌋
  else if 1 / 2 < Int.fract value then
    ⌊value⌋ + 1
  else if ⌊value⌋ % 2 = 0 then
    ⌊value⌋
  else
    ⌊value⌋ + 1

/-- The exponent of the last binary digit that is kept. -/
def lastDigit (value : ℚ) : ℤ := max (Int.log 2 |value| - 52) (-1074)

/-- The double that an exact result is rounded to. -/
def rounded (value : ℚ) : ℚ :=
  nearestEven (value / 2 ^ lastDigit value) * 2 ^ lastDigit value

-----------------------------------------------------------------------------------------
-- The nearest integer
-----------------------------------------------------------------------------------------

theorem nearestEven_cases (value : ℚ)
    : nearestEven value = ⌊value⌋ ∧ Int.fract value ≤ 1 / 2
      ∨ nearestEven value = ⌊value⌋ + 1 ∧ 1 / 2 ≤ Int.fract value := by
  unfold nearestEven
  split_ifs with below above
  · exact .inl ⟨rfl, below.le⟩
  · exact .inr ⟨rfl, above.le⟩
  · exact .inl ⟨rfl, not_lt.mp above⟩
  · exact .inr ⟨rfl, not_lt.mp below⟩

@[simp]
theorem nearestEven_intCast (value : ℤ) : nearestEven value = value := by
  simp [nearestEven]

/-- Rounding to the nearest integer keeps the order: two values on both sides of an integer stay
there, and within one unit they only meet on its middle.
-/
theorem nearestEven_mono {left right : ℚ} (ordered : left ≤ right)
    : nearestEven left ≤ nearestEven right := by
  have floors := Int.floor_mono ordered
  have parts := Int.floor_add_fract left
  have others := Int.floor_add_fract right
  rcases floors.lt_or_eq with apart | same
  · rcases nearestEven_cases left with ⟨down, -⟩ | ⟨up, -⟩ <;>
      rcases nearestEven_cases right with ⟨down', -⟩ | ⟨up', -⟩ <;> omega
  · have fracts : Int.fract left ≤ Int.fract right := by
      rw [same] at parts
      linarith
    unfold nearestEven
    rw [same]
    split_ifs <;> first | omega | linarith

theorem nearestEven_neg (value : ℚ) : nearestEven (-value) = -nearestEven value := by
  by_cases whole : Int.fract value = 0
  · obtain ⟨number, rfl⟩ := Int.fract_eq_zero_iff.mp whole
    rw [← Int.cast_neg]
    simp only [nearestEven_intCast]
  · have fract : Int.fract (-value) = 1 - Int.fract value := Int.fract_neg whole
    have floor : ⌊-value⌋ = -⌊value⌋ - 1 := by
      have sum := Int.floor_add_fract (-value)
      have parts := Int.floor_add_fract value
      rw [fract] at sum
      have exact : ((⌊-value⌋ : ℤ) : ℚ) = ((-⌊value⌋ - 1 : ℤ) : ℚ) := by
        push_cast
        linarith
      exact_mod_cast exact
    unfold nearestEven
    rw [fract, floor]
    split_ifs <;> first | omega | linarith

/-- Half a unit below an even integer, the integer is taken. -/
theorem nearestEven_below_even {value : ℚ} {number : ℤ} (even : number % 2 = 0)
    (half : value = number - 1 / 2)
    : nearestEven value = number := by
  have floor : ⌊value⌋ = number - 1 := by
    rw [Int.floor_eq_iff]
    push_cast
    constructor <;> linarith
  have fract : Int.fract value = 1 / 2 := by
    rw [Int.fract, floor]
    push_cast
    linarith
  unfold nearestEven
  rw [fract, floor]
  split_ifs <;> first | omega | linarith

-----------------------------------------------------------------------------------------
-- The nearest double
-----------------------------------------------------------------------------------------

theorem lastDigit_neg (value : ℚ) : lastDigit (-value) = lastDigit value := by
  rw [lastDigit, abs_neg, lastDigit]

theorem rounded_neg (value : ℚ) : rounded (-value) = -rounded value := by
  rw [rounded, lastDigit_neg, neg_div, nearestEven_neg, rounded]
  push_cast
  ring

/-- The last digit of a value whose first digit is known, where it is not subnormal. -/
theorem lastDigit_of_range {value : ℚ} {exponent : ℤ} (normal : -1022 ≤ exponent)
    (low : (2 : ℚ) ^ exponent ≤ value) (high : value < 2 ^ (exponent + 1))
    : lastDigit value = exponent - 52 := by
  have positive : 0 < value := (zpow_pos two_pos exponent).trans_le low
  have least : exponent ≤ Int.log 2 value :=
    (Int.zpow_le_iff_le_log one_lt_two positive).mp (by exact_mod_cast low)
  have most : Int.log 2 value < exponent + 1 :=
    (Int.lt_zpow_iff_log_lt one_lt_two positive).mp (by exact_mod_cast high)
  rw [lastDigit, abs_of_pos positive]
  omega

/-- A value on the grid of its last digit is a double. -/
theorem rounded_of_grid {value : ℚ} {digits : ℤ}
    (grid : value = digits * 2 ^ lastDigit value)
    : rounded value = value := by
  have positive : (0 : ℚ) < 2 ^ lastDigit value := zpow_pos (by norm_num) _
  have quotient : value / 2 ^ lastDigit value = digits := by
    rw [div_eq_iff positive.ne']
    exact grid
  rw [rounded, quotient, nearestEven_intCast]
  exact grid.symm

/-- Integers of up to 53 binary digits are doubles. -/
theorem rounded_intCast {value : ℤ} (small : |value| < 2 ^ 53)
    : rounded value = value := by
  have last : lastDigit value ≤ 0 := by
    refine max_le (sub_nonpos.mpr ?_) (by norm_num)
    by_cases zero : value = 0
    · simp [zero]
    · have positive : (0 : ℚ) < |(value : ℚ)| := abs_pos.mpr (Int.cast_ne_zero.mpr zero)
      refine Int.lt_add_one_iff.mp ((Int.lt_zpow_iff_log_lt one_lt_two positive).mp ?_)
      have cast : |(value : ℚ)| < (2 ^ 53 : ℤ) := by exact_mod_cast small
      exact_mod_cast cast
  obtain ⟨places, same⟩ := Int.eq_ofNat_of_zero_le (neg_nonneg.mpr last)
  have digit : lastDigit value = -(places : ℤ) := by omega
  refine @rounded_of_grid value (value * 2 ^ places) ?_
  rw [digit, zpow_neg, zpow_natCast]
  push_cast
  rw [mul_assoc, mul_inv_cancel₀ (by positivity), mul_one]

@[simp]
theorem rounded_zero : rounded 0 = 0 := by
  have zero := rounded_intCast (show |(0 : ℤ)| < 2 ^ 53 by decide)
  rwa [Int.cast_zero] at zero

/-- Scaled to a grid, rounding keeps the order. -/
theorem scaled_mono {left right grid : ℚ} (positive : 0 < grid) (ordered : left ≤ right)
    : nearestEven (left / grid) * grid ≤ nearestEven (right / grid) * grid := by
  have quotients : left / grid ≤ right / grid := div_le_div_of_nonneg_right ordered positive.le
  have integers : (nearestEven (left / grid) : ℚ) ≤ nearestEven (right / grid) :=
    Int.cast_le.mpr (nearestEven_mono quotients)
  exact mul_le_mul_of_nonneg_right integers positive.le

theorem rounded_nonneg {value : ℚ} (natural : 0 ≤ value) : 0 ≤ rounded value := by
  have scaled := scaled_mono (zpow_pos two_pos (lastDigit value)) natural
  simpa [rounded, nearestEven] using scaled

/-- A power of two on the grid of a value bounds what the value is rounded to. -/
theorem nearestEven_power {value : ℚ} {power : ℤ} (onGrid : lastDigit value ≤ power)
    : nearestEven ((2 : ℚ) ^ power / 2 ^ lastDigit value) * (2 : ℚ) ^ lastDigit value
      = 2 ^ power := by
  obtain ⟨places, same⟩ := Int.eq_ofNat_of_zero_le (sub_nonneg.mpr onGrid)
  have quotient : (2 : ℚ) ^ power / 2 ^ lastDigit value = ((2 ^ places : ℤ) : ℚ) := by
    rw [← zpow_sub₀ two_ne_zero, same]
    push_cast
    exact zpow_natCast 2 places
  rw [quotient, nearestEven_intCast, ← quotient]
  exact div_mul_cancel₀ _ (zpow_ne_zero _ two_ne_zero)

/-- Rounding keeps the order of positive values: those with the same last digit are on one grid,
and between any others lies a power of two that is on both.
-/
theorem rounded_mono_of_pos {left right : ℚ} (positive : 0 < left) (ordered : left ≤ right)
    : rounded left ≤ rounded right := by
  have further := positive.trans_le ordered
  have logs : Int.log 2 |left| ≤ Int.log 2 |right| := by
    rw [abs_of_pos positive, abs_of_pos further]
    exact Int.log_mono_right positive ordered
  by_cases same : lastDigit left = lastDigit right
  · rw [rounded, rounded, same]
    exact scaled_mono (zpow_pos two_pos _) ordered
  · have normal
        : lastDigit right = Int.log 2 |right| - 52 ∧ Int.log 2 |left| < Int.log 2 |right| := by
      unfold lastDigit at same ⊢
      omega
    have low : left ≤ 2 ^ Int.log 2 |right| := by
      have shorter := normal.2
      rw [abs_of_pos positive] at shorter
      exact_mod_cast ((Int.lt_zpow_iff_log_lt one_lt_two positive).mpr shorter).le
    have high : 2 ^ Int.log 2 |right| ≤ right := by
      rw [abs_of_pos further]
      exact_mod_cast Int.zpow_log_le_self one_lt_two further
    calc
      rounded left
        ≤ nearestEven ((2 : ℚ) ^ Int.log 2 |right| / 2 ^ lastDigit left) * 2 ^ lastDigit left :=
          scaled_mono (zpow_pos two_pos _) low
      _ = 2 ^ Int.log 2 |right| := nearestEven_power (by unfold lastDigit at normal ⊢; omega)
      _ = nearestEven ((2 : ℚ) ^ Int.log 2 |right| / 2 ^ lastDigit right)
            * 2 ^ lastDigit right := (nearestEven_power (by omega)).symm
      _ ≤ rounded right := scaled_mono (zpow_pos two_pos _) high

theorem rounded_mono {left right : ℚ} (ordered : left ≤ right)
    : rounded left ≤ rounded right := by
  rcases lt_or_ge 0 left with positive | negative
  · exact rounded_mono_of_pos positive ordered
  · rcases lt_or_ge right 0 with below | natural
    · have flipped := rounded_mono_of_pos (neg_pos.mpr below) (neg_le_neg ordered)
      rw [rounded_neg, rounded_neg] at flipped
      exact neg_le_neg_iff.mp flipped
    · have opposite := rounded_nonneg (neg_nonneg.mpr negative)
      rw [rounded_neg] at opposite
      exact (neg_nonneg.mp opposite).trans (rounded_nonneg natural)

end Doubles
