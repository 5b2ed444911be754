import Salgil.Python
import Mathlib.Data.Int.Log
import Mathlib.Tactic.GCongr
import Mathlib.Tactic.Linarith

namespace Salgil
set_option autoImplicit true

section
variable {K : Type u} [Field K] [LinearOrder K] [IsStrictOrderedRing K] [FloorRing K]

/-- The distance between neighbouring binary numbers around `x`, with so many digits after the
first and no exponent below `low`. -/
def binaryUlp (digits low : ℤ) (x : K) : K := 2 ^ (max (Int.log 2 |x|) low - digits)

/-- The binary number nearest to `x`, ties to even, as if there were no greatest one. -/
def roundBinary (digits low : ℤ) (x : K) : K :=
  roundHalfEven (x / binaryUlp digits low x) * binaryUlp digits low x

/-- The double that an operation of exact result `x` returns. -/
def double (x : K) : K := roundBinary 52 (-1022) x

/-- A result that is not in the range of the doubles becomes infinite. -/
def InDoubleRange (x : K) : Prop := |double x| < 2 ^ 1024

instance (x : K) : Decidable (InDoubleRange x) := by
  unfold InDoubleRange
  infer_instance

theorem abs_roundHalfEven_sub_le (x : K) : |roundHalfEven x - x| ≤ 1 / 2 := by
  have hlow : (⌊x⌋ : K) ≤ x := Int.floor_le x
  have hhigh : x < ⌊x⌋ + 1 := Int.lt_floor_add_one x
  rw [abs_le]
  simp only [roundHalfEven]
  split
  · next hless =>
    constructor <;> linarith
  · next hmore =>
    rw [not_lt] at hmore
    split
    · push_cast
      constructor <;> linarith
    · next hhalf =>
      rw [not_lt] at hhalf
      split
      · constructor <;> linarith
      · push_cast
        constructor <;> linarith

section
variable {digits low : ℤ} {x : K}

theorem binaryUlp_pos : 0 < binaryUlp digits low x := zpow_pos (by norm_num) _

theorem binaryUlp_le (hx : x ≠ 0) :
    binaryUlp digits low x ≤ max |x| (2 ^ low) * 2 ^ (-digits) := by
  rw [binaryUlp, sub_eq_add_neg, zpow_add₀ two_ne_zero]
  apply mul_le_mul_of_nonneg_right _ (zpow_nonneg zero_le_two _)
  rcases max_choice (Int.log 2 |x|) low with h | h
  · rw [h]
    exact (Int.zpow_log_le_self one_lt_two (abs_pos.2 hx)).trans (le_max_left _ _)
  · rw [h]
    exact le_max_right _ _

theorem roundBinary_zero : roundBinary digits low (0 : K) = 0 := by
  simp [roundBinary, roundHalfEven]

/-- Rounding moves a number by half a unit of its last digit at most. -/
theorem abs_roundBinary_sub_le :
    |roundBinary digits low x - x| ≤ max |x| (2 ^ low) * 2 ^ (-digits) / 2 := by
  rcases eq_or_ne x 0 with rfl | hx
  · have hmax : 0 ≤ max |(0 : K)| (2 ^ low) := (abs_nonneg 0).trans (le_max_left _ _)
    rw [roundBinary_zero, sub_zero, abs_zero]
    exact div_nonneg (mul_nonneg (by rwa [abs_zero] at hmax) (zpow_nonneg zero_le_two _))
      zero_le_two
  have hpos : 0 < binaryUlp digits low x := binaryUlp_pos
  have hround := abs_roundHalfEven_sub_le (x / binaryUlp digits low x)
  have hsplit : roundBinary digits low x - x =
      (roundHalfEven (x / binaryUlp digits low x) - x / binaryUlp digits low x) *
        binaryUlp digits low x := by
    rw [roundBinary, sub_mul, div_mul_cancel₀ _ hpos.ne']
  calc |roundBinary digits low x - x|
      ≤ 1 / 2 * binaryUlp digits low x := by
        rw [hsplit, abs_mul, abs_of_pos hpos]
        exact mul_le_mul_of_nonneg_right hround hpos.le
    _ ≤ max |x| (2 ^ low) * 2 ^ (-digits) / 2 := by
        have hulp : binaryUlp digits low x ≤ _ := binaryUlp_le hx
        linarith

end

@[simp] theorem double_zero : double (0 : K) = 0 := roundBinary_zero

theorem abs_double_sub_le (x : K) : |double x - x| ≤ (|x| + 1) / 2 ^ 53 := by
  have hround : |double x - x| ≤ max |x| (2 ^ (-1022 : ℤ)) * 2 ^ (-52 : ℤ) / 2 :=
    abs_roundBinary_sub_le
  have hlow : (2 : K) ^ (-1022 : ℤ) ≤ 1 := zpow_le_one_of_nonpos₀ one_le_two (by norm_num)
  have hmax : max |x| (2 ^ (-1022 : ℤ)) ≤ |x| + 1 :=
    max_le (le_add_of_nonneg_right zero_le_one) (hlow.trans (le_add_of_nonneg_left (abs_nonneg x)))
  have hdigits : (2 : K) ^ (-52 : ℤ) / 2 = 1 / 2 ^ 53 := by norm_num
  calc |double x - x|
      ≤ max |x| (2 ^ (-1022 : ℤ)) * (1 / 2 ^ 53) := by rwa [← hdigits, ← mul_div_assoc]
    _ ≤ (|x| + 1) * (1 / 2 ^ 53) := mul_le_mul_of_nonneg_right hmax (by positivity)
    _ = (|x| + 1) / 2 ^ 53 := mul_one_div _ _

theorem double_le (x : K) : double x ≤ x + (|x| + 1) / 2 ^ 53 := by
  linarith [(abs_le.1 (abs_double_sub_le x)).2]

theorem le_double (x : K) : x - (|x| + 1) / 2 ^ 53 ≤ double x := by
  linarith [(abs_le.1 (abs_double_sub_le x)).1]

theorem le_double_of_le {c x : K} (hc : 0 ≤ c) (h : c ≤ x) :
    c - (c + 1) / 2 ^ 53 ≤ double x := by
  have hle := le_double x
  rw [abs_of_nonneg (hc.trans h)] at hle
  linarith

theorem double_le_of_le {c x : K} (hx : 0 ≤ x) (h : x ≤ c) :
    double x ≤ c + (c + 1) / 2 ^ 53 := by
  have hle := double_le x
  rw [abs_of_nonneg hx] at hle
  linarith

end

end Salgil
