import Salgil.Float32
import Mathlib.Data.UInt
import Mathlib.Tactic.Ring

namespace Salgil
set_option autoImplicit true
set_option linter.unusedSectionVars false

/-- A number in so many bytes, the least one first. -/
def littleEndian : ℕ → ℕ → List UInt8
  | 0, _ => []
  | size + 1, n => UInt8.ofNat n :: littleEndian size (n / 256)

def ofLittleEndian : List UInt8 → ℕ
  | [] => 0
  | byte :: bytes => byte.toNat + 256 * ofLittleEndian bytes

/-- The number of the bits of a binary32 number: what the exponent's and the fraction's bits make
together, without the sign. -/
def magnitudeBits (exponent : ℤ) (significand : ℕ) : ℕ :=
  (exponent + 126).toNat * 2 ^ 23 + significand

section
variable {K : Type u} [Field K] [LinearOrder K] [IsStrictOrderedRing K] [FloorRing K]

/-- The exponent of the binary32 numbers around `x`. -/
def float32Exponent (x : K) : ℤ := max (Int.log 2 |x|) (-126)

/-- The bits of the binary32 number nearest to `x`. Where rounding reaches the next power of two,
the significand is carried into the exponent. -/
def float32Bits (x : K) : ℕ :=
  (if x < 0 then 2 ^ 31 else 0) + if x = 0 then 0 else
    magnitudeBits (float32Exponent x) (roundHalfEven (x / float32Ulp x)).natAbs

/-- The number that the bits are of; none where they are of an infinity or of no number. -/
def ofFloat32Bits (bits : ℕ) : Option K :=
  let sign : K := if bits / 2 ^ 31 % 2 = 1 then -1 else 1
  let exponent : ℕ := bits / 2 ^ 23 % 256
  let fraction : ℕ := bits % 2 ^ 23
  if exponent = 255 then none
  else if exponent = 0 then some (sign * ((fraction : K) * 2 ^ (-149 : ℤ)))
  else some (sign * (((2 ^ 23 + fraction : ℕ) : K) * 2 ^ ((exponent : ℤ) - 150)))

end

theorem ofLittleEndian_littleEndian {size n : ℕ} (h : n < 256 ^ size) :
    ofLittleEndian (littleEndian size n) = n := by
  induction size generalizing n with
  | zero =>
    rw [pow_zero, Nat.lt_one_iff] at h
    rw [h]
    rfl
  | succ size ih =>
    have hdiv : n / 256 < 256 ^ size := by
      rw [Nat.div_lt_iff_lt_mul (by decide)]
      rwa [pow_succ] at h
    rw [littleEndian, ofLittleEndian, ih hdiv, UInt8.toNat_ofNat']
    omega

section
variable {K : Type u} [Field K] [LinearOrder K] [IsStrictOrderedRing K] [FloorRing K] {x y : K}

theorem le_roundHalfEven {n : ℤ} (h : n ≤ x) : n ≤ roundHalfEven x :=
  (Int.le_floor.2 h).trans (floor_le_roundHalfEven x)

theorem roundHalfEven_le {n : ℤ} (h : x ≤ n) : roundHalfEven x ≤ n := by
  have hfloor : ⌊x⌋ ≤ n := Int.floor_le_iff.2 (h.trans_lt (lt_add_one _))
  rcases hfloor.eq_or_lt with heq | hlt
  · have hzero : x - ⌊x⌋ < 1 / 2 := by
      rw [heq]
      exact (sub_nonpos.2 h).trans_lt (by norm_num)
    simp only [roundHalfEven, hzero, if_pos]
    exact hfloor
  · simp only [roundHalfEven]
    split
    · exact hfloor
    · split
      · exact hlt
      · split
        · exact hfloor
        · exact hlt

theorem natAbs_roundHalfEven_le {n : ℕ} (h : |x| ≤ n) : (roundHalfEven x).natAbs ≤ n := by
  rw [abs_le] at h
  have hle : roundHalfEven x ≤ n := roundHalfEven_le (by exact_mod_cast h.2)
  have hge : -(n : ℤ) ≤ roundHalfEven x := le_roundHalfEven (by exact_mod_cast h.1)
  omega

theorem le_natAbs_roundHalfEven {n : ℕ} (h : (n : K) ≤ |x|) : n ≤ (roundHalfEven x).natAbs := by
  rcases le_abs'.1 h with hneg | hpos
  · have hle : roundHalfEven x ≤ -(n : ℤ) := roundHalfEven_le (by exact_mod_cast hneg)
    omega
  · have hge : (n : ℤ) ≤ roundHalfEven x := le_roundHalfEven (by exact_mod_cast hpos)
    omega

theorem exponent_bound {q significand : ℕ} (hle : significand ≤ 2 ^ 24)
    (hnormal : q ≠ 0 → 2 ^ 23 ≤ significand)
    (hlt : (significand : K) * 2 ^ ((q : ℤ) - 149) < 2 ^ 128) : q + significand / 2 ^ 23 ≤ 254 := by
  have hpower : ∀ k : ℕ, 2 ^ k ≤ significand → k + q < 277 := by
    intro k hk
    have hcast : (2 : K) ^ k ≤ significand := by exact_mod_cast hk
    have hprod : (2 : K) ^ ((k : ℤ) + (q - 149)) < 2 ^ (128 : ℤ) := by
      rw [zpow_add₀ two_ne_zero, zpow_natCast]
      exact (mul_le_mul_of_nonneg_right hcast (zpow_nonneg zero_le_two _)).trans_lt
        (by exact_mod_cast hlt)
    have := (zpow_lt_zpow_iff_right₀ (one_lt_two : (1 : K) < 2)).1 hprod
    omega
  by_cases hq : q = 0
  · omega
  · have h23 := hpower 23 (hnormal hq)
    by_cases h24 : significand = 2 ^ 24
    · have := hpower 24 h24.ge
      omega
    · omega

/-- The number of the bits, for a significand of at most 24 bits, all of them where the exponent is
not the least one. -/
theorem ofFloat32Bits_magnitude {exponent : ℤ} {significand : ℕ} (hexponent : -126 ≤ exponent)
    (hle : significand ≤ 2 ^ 24) (hnormal : exponent ≠ -126 → 2 ^ 23 ≤ significand)
    (hlt : (significand : K) * 2 ^ (exponent - 23) < 2 ^ 128) (negative : Bool) :
    magnitudeBits exponent significand < 2 ^ 31 ∧
    ofFloat32Bits ((if negative then 2 ^ 31 else 0) + magnitudeBits exponent significand) =
      some ((if negative then -1 else 1) * (significand * 2 ^ (exponent - 23) : K)) := by
  obtain ⟨q, rfl⟩ : ∃ q : ℕ, exponent = q - 126 := ⟨(exponent + 126).toNat, by omega⟩
  have hsub : (q : ℤ) - 126 - 23 = q - 149 := by omega
  have hmagnitude : magnitudeBits (q - 126) significand = q * 2 ^ 23 + significand := by
    simp [magnitudeBits]
  rw [hsub] at hlt
  have hbound := exponent_bound hle (fun hq => hnormal (by omega)) hlt
  rw [hmagnitude, hsub]
  refine ⟨by omega, ?_⟩
  generalize hbits : (if negative = true then 2 ^ 31 else 0) + (q * 2 ^ 23 + significand) = bits
  have hsign : bits / 2 ^ 31 % 2 = 1 ↔ negative = true := by
    cases negative with
    | false =>
      have : bits / 2 ^ 31 % 2 = 0 := by
        simp only [Bool.false_eq_true, ↓reduceIte, zero_add] at hbits
        omega
      constructor
      · intro h
        omega
      · intro h
        cases h
    | true =>
      have : bits / 2 ^ 31 % 2 = 1 := by
        simp only [↓reduceIte] at hbits
        omega
      exact ⟨fun _ => rfl, fun _ => this⟩
  have hfield : bits / 2 ^ 23 % 256 = q + significand / 2 ^ 23 := by
    cases negative <;> simp at hbits <;> omega
  have hfraction : bits % 2 ^ 23 = significand % 2 ^ 23 := by
    cases negative <;> simp at hbits <;> omega
  have hfinite : ¬ q + significand / 2 ^ 23 = 255 := by omega
  simp only [ofFloat32Bits, hsign, hfield, hfraction, hfinite, if_false]
  rcases Nat.lt_or_ge significand (2 ^ 23) with hshort | hlong
  · have hq : q = 0 := by
      by_contra hq
      exact absurd (hnormal (by omega)) (Nat.not_le.2 hshort)
    rw [hq, Nat.div_eq_of_lt hshort, Nat.mod_eq_of_lt hshort, if_pos rfl]
    rfl
  · rw [if_neg (by omega)]
    congr 2
    rcases hle.lt_or_eq with hlt24 | heq
    · have hdiv : significand / 2 ^ 23 = 1 := by omega
      have hmod : 2 ^ 23 + significand % 2 ^ 23 = significand := by omega
      have hexp : ((q + 1 : ℕ) : ℤ) - 150 = q - 149 := by omega
      rw [hdiv, hmod, hexp]
    · have hdiv : significand / 2 ^ 23 = 2 := by omega
      have hmod : 2 ^ 23 + significand % 2 ^ 23 = 2 ^ 23 := by omega
      have hexp : ((q + 2 : ℕ) : ℤ) - 150 = q - 149 + 1 := by omega
      rw [hdiv, hmod, hexp, zpow_add_one₀ two_ne_zero, heq]
      push_cast
      ring

theorem float32Ulp_eq (x : K) : float32Ulp x = 2 ^ (float32Exponent x - 23) := rfl

/-- A number is less than twice the power of its exponent, and no less than the power itself, unless
the exponent is the least one. -/
theorem abs_div_float32Ulp (hx : x ≠ 0) : |x / float32Ulp x| ≤ ((2 ^ 24 : ℕ) : K) ∧
    (float32Exponent x ≠ -126 → ((2 ^ 23 : ℕ) : K) ≤ |x / float32Ulp x|) := by
  have hu := float32Ulp_pos x
  have hpower : ∀ k : ℕ, ((2 ^ k : ℕ) : K) * float32Ulp x = 2 ^ (float32Exponent x + (k - 23)) := by
    intro k
    rw [float32Ulp_eq, Nat.cast_pow, Nat.cast_ofNat, ← zpow_natCast, ← zpow_add₀ two_ne_zero]
    congr 1
    ring
  rw [abs_div, abs_of_pos hu, div_le_iff₀ hu, hpower]
  constructor
  · have hlog := Int.lt_zpow_succ_log_self (b := 2) one_lt_two |x|
    have hexponent : Int.log 2 |x| + 1 ≤ float32Exponent x + ((24 : ℕ) - 23) := by
      simp [float32Exponent]
    have hle := zpow_le_zpow_right₀ (one_le_two : (1 : K) ≤ 2) hexponent
    exact hlog.le.trans (by exact_mod_cast hle)
  · intro hne
    rw [le_div_iff₀ hu, hpower]
    have hlog := Int.zpow_log_le_self (b := 2) one_lt_two (abs_pos.2 hx)
    have hexponent : float32Exponent x + ((23 : ℕ) - 23) = Int.log 2 |x| := by
      rw [float32Exponent] at hne ⊢
      omega
    rw [hexponent]
    exact_mod_cast hlog

theorem roundHalfEven_eq_sign (x : K) : (roundHalfEven (x / float32Ulp x) : K) =
    (if x < 0 then -1 else 1) * (roundHalfEven (x / float32Ulp x)).natAbs := by
  have hu := float32Ulp_pos x
  split
  · next hx =>
    have hle : roundHalfEven (x / float32Ulp x) ≤ 0 :=
      roundHalfEven_le (by rw [Int.cast_zero]; exact (div_neg_of_neg_of_pos hx hu).le)
    rw [← Int.cast_natCast, Int.ofNat_natAbs_of_nonpos hle, Int.cast_neg, neg_one_mul, neg_neg]
  · next hx =>
    have hge : 0 ≤ roundHalfEven (x / float32Ulp x) :=
      le_roundHalfEven (by rw [Int.cast_zero]; exact div_nonneg (not_lt.1 hx) hu.le)
    rw [← Int.cast_natCast, Int.natAbs_of_nonneg hge, one_mul]

theorem ofFloat32Bits_float32Bits (h : float32 x = some y) :
    float32Bits x < 2 ^ 32 ∧ ofFloat32Bits (float32Bits x) = some y := by
  by_cases hx : x = 0
  · subst hx
    rw [float32_zero] at h
    cases h
    simp [float32Bits, ofFloat32Bits]
  · rw [float32] at h
    split at h
    · next hlt =>
      cases h
      obtain ⟨hle, hnormal⟩ := abs_div_float32Ulp hx
      have hexponent : -126 ≤ float32Exponent x := le_max_right _ _
      rw [roundBinary_float32] at hlt ⊢
      rw [abs_mul, abs_of_pos (float32Ulp_pos x), float32Ulp_eq, ← Int.cast_abs,
        Int.abs_eq_natAbs, Int.cast_natCast] at hlt
      obtain ⟨hbits, hvalue⟩ := ofFloat32Bits_magnitude hexponent (natAbs_roundHalfEven_le hle)
        (fun hne => le_natAbs_roundHalfEven (hnormal hne)) hlt (decide (x < 0))
      simp only [decide_eq_true_iff] at hvalue
      rw [float32Bits, if_neg hx]
      refine ⟨by split <;> omega, ?_⟩
      rw [hvalue, roundHalfEven_eq_sign, float32Ulp_eq, mul_assoc]
    · cases h

end

end Salgil
