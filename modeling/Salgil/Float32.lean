import Salgil.Doubles

namespace Salgil
set_option autoImplicit true

section
variable {K : Type u} [Field K] [LinearOrder K] [IsStrictOrderedRing K] [FloorRing K]

/-- The distance between neighbouring binary32 numbers around `x`. -/
def float32Ulp (x : K) : K := binaryUlp 23 (-126) x

/-- The binary32 number nearest to `x`, ties to even, unless it is beyond their range. -/
def float32 (x : K) : Option K :=
  let y := roundBinary 23 (-126) x
  if |y| < 2 ^ 128 then some y else none

theorem float32Ulp_pos (x : K) : 0 < float32Ulp x := binaryUlp_pos

omit [IsStrictOrderedRing K] in
theorem roundBinary_float32 (x : K) :
    roundBinary 23 (-126) x = roundHalfEven (x / float32Ulp x) * float32Ulp x := rfl

theorem roundHalfEven_intCast (m : ℤ) : roundHalfEven (m : K) = m := by
  simp [roundHalfEven]

theorem float32_eq_self {x : K} {m : ℤ} (hx : x = m * float32Ulp x) (hlt : |x| < 2 ^ 128) :
    float32 x = some x := by
  have hdiv : x / float32Ulp x = m := (div_eq_iff (float32Ulp_pos x).ne').2 hx
  simp only [float32, roundBinary_float32, hdiv, roundHalfEven_intCast, ← hx, hlt, ↓reduceIte]

theorem float32_zero : float32 (0 : K) = some 0 :=
  float32_eq_self (m := 0) (by simp) (by simp)

theorem float32_one : float32 (1 : K) = some 1 := by
  refine float32_eq_self (m := 2 ^ 23) ?_ (by norm_num)
  simp only [float32Ulp, binaryUlp, abs_one, Int.log_one_right]
  norm_num

theorem float32_half : float32 (1 / 2 : K) = some (1 / 2) := by
  have hlog : Int.log 2 |(1 / 2 : K)| = -1 := by
    rw [abs_of_pos (by norm_num)]
    have := Int.log_zpow (R := K) (b := 2) (by norm_num) (-1)
    norm_num at this ⊢
    exact this
  refine float32_eq_self (m := 2 ^ 23) ?_ (by norm_num [abs_of_pos])
  rw [float32Ulp, binaryUlp, hlog]
  norm_num

end

end Salgil
