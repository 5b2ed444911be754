import Salgil.RoadGraph
import Mathlib.Analysis.SpecialFunctions.Trigonometric.Inverse
import Mathlib.Analysis.Real.Pi.Bounds

namespace Salgil
set_option autoImplicit true

/-- Python's `math` with exact reals in place of floating-point numbers. -/
noncomputable instance : MathLib ℝ where
  pi := Real.pi
  sin := Real.sin
  cos := Real.cos
  asin := Real.arcsin
  sqrt := Real.sqrt
  exp := Real.exp

theorem radians_def (x : ℝ) : radians x = x * (Real.pi / 180) := rfl

theorem haversineM_def (lat₁ lon₁ lat₂ lon₂ : ℝ) :
    haversineM lat₁ lon₁ lat₂ lon₂ = 2 * earthRadiusM * Real.arcsin (√
      (Real.sin (radians (lat₂ - lat₁) / 2) ^ 2 +
        Real.cos (radians lat₁) * Real.cos (radians lat₂) *
        Real.sin (radians (lon₂ - lon₁) / 2) ^ 2)) := rfl

theorem earthRadiusM_pos : (0 : ℝ) < earthRadiusM := by
  unfold earthRadiusM
  norm_num

theorem haversineM_nonneg (lat₁ lon₁ lat₂ lon₂ : ℝ) : 0 ≤ haversineM lat₁ lon₁ lat₂ lon₂ := by
  rw [haversineM_def]
  have := earthRadiusM_pos
  have := Real.arcsin_nonneg.2 (Real.sqrt_nonneg (Real.sin (radians (lat₂ - lat₁) / 2) ^ 2 +
    Real.cos (radians lat₁) * Real.cos (radians lat₂) * Real.sin (radians (lon₂ - lon₁) / 2) ^ 2))
  positivity

theorem haversineM_self (lat lon : ℝ) : haversineM lat lon lat lon = 0 := by
  simp [haversineM_def, radians_def]

theorem haversineM_comm (lat₁ lon₁ lat₂ lon₂ : ℝ) :
    haversineM lat₁ lon₁ lat₂ lon₂ = haversineM lat₂ lon₂ lat₁ lon₁ := by
  have hneg : ∀ x y : ℝ, Real.sin (radians (x - y) / 2) ^ 2 =
      Real.sin (radians (y - x) / 2) ^ 2 := by
    intro x y
    rw [← neg_sub y x, radians_def, radians_def, neg_mul, neg_div, Real.sin_neg, neg_sq]
  rw [haversineM_def, haversineM_def, hneg lat₂, hneg lon₂, mul_comm (Real.cos (radians lat₁))]

theorem haversineM_meridian {lat₁ lat₂ : ℝ} (lon : ℝ) (h : |lat₂ - lat₁| ≤ 180) :
    haversineM lat₁ lon lat₂ lon = earthRadiusM * (|lat₂ - lat₁| * (Real.pi / 180)) := by
  have hpi := Real.pi_pos
  have hx : |radians (lat₂ - lat₁) / 2| = |lat₂ - lat₁| * (Real.pi / 180) / 2 := by
    rw [radians_def, abs_div, abs_mul, abs_of_pos (by positivity : 0 < Real.pi / 180), abs_two]
  have hle : |radians (lat₂ - lat₁) / 2| ≤ Real.pi / 2 := by
    rw [hx]
    have := mul_le_mul_of_nonneg_right h (by positivity : 0 ≤ Real.pi / 180)
    linarith
  have hsin : |Real.sin (radians (lat₂ - lat₁) / 2)| = Real.sin |radians (lat₂ - lat₁) / 2| := by
    rw [Real.abs_sin_eq_sin_abs_of_abs_le_pi (hle.trans (by linarith))]
  rw [haversineM_def]
  simp only [sub_self, radians_def 0, zero_mul, zero_div, Real.sin_zero, ne_eq, OfNat.ofNat_ne_zero,
    not_false_eq_true, zero_pow, mul_zero, add_zero, Real.sqrt_sq_eq_abs]
  rw [hsin, Real.arcsin_sin (by linarith [abs_nonneg (radians (lat₂ - lat₁) / 2)]) hle, hx]
  ring

/-- A place off the poles and off the antimeridian. -/
def NodeId.OnMap (n : NodeId ℝ) : Prop := |n.lat| < 90 ∧ |n.lon| < 180

theorem sin_half_radians_ne_zero {d : ℝ} (h0 : d ≠ 0) (h : |d| < 360) :
    Real.sin (radians d / 2) ≠ 0 := by
  have hpi := Real.pi_pos
  obtain ⟨hl, hu⟩ := abs_lt.1 h
  have hx : radians d / 2 = d / 360 * Real.pi := by
    rw [radians_def]
    ring
  intro hsin
  refine h0 ?_
  have hx0 : radians d / 2 = 0 := by
    refine (Real.sin_eq_zero_iff_of_lt_of_lt ?_ ?_).1 hsin <;> rw [hx] <;> nlinarith
  rw [hx] at hx0
  have := (mul_eq_zero.1 hx0).resolve_right hpi.ne'
  linarith

theorem cos_radians_pos {lat : ℝ} (h : |lat| < 90) : 0 < Real.cos (radians lat) := by
  have hpi := Real.pi_pos
  obtain ⟨hl, hu⟩ := abs_lt.1 h
  refine Real.cos_pos_of_mem_Ioo ⟨?_, ?_⟩ <;> rw [radians_def] <;> nlinarith

theorem NodeId.OnMap.distance_pos {a b : NodeId ℝ} (ha : a.OnMap) (hb : b.OnMap) (hab : a ≠ b) :
    0 < a.distance b := by
  have hca := cos_radians_pos ha.1
  have hcb := cos_radians_pos hb.1
  have hsub : ∀ {x y c : ℝ}, |x| < c → |y| < c → |y - x| < 2 * c := by
    intro x y c hx hy
    have := abs_sub y x
    linarith
  have hpos : 0 < Real.sin (radians (b.lat - a.lat) / 2) ^ 2 +
      Real.cos (radians a.lat) * Real.cos (radians b.lat) *
        Real.sin (radians (b.lon - a.lon) / 2) ^ 2 := by
    by_cases hlat : b.lat = a.lat
    · have hlon : b.lon - a.lon ≠ 0 := by
        intro h
        refine hab ?_
        cases a
        cases b
        simp_all [sub_eq_zero]
      have := sin_half_radians_ne_zero hlon ((hsub ha.2 hb.2).trans_le (by norm_num))
      positivity
    · have := sin_half_radians_ne_zero (sub_ne_zero.2 hlat) ((hsub ha.1 hb.1).trans (by norm_num))
      positivity
  rw [distance, haversineM_def]
  have := earthRadiusM_pos
  have := Real.arcsin_pos.2 (Real.sqrt_pos.2 hpos)
  positivity

theorem degree_length :
    (111000 : ℝ) < earthRadiusM * (Real.pi / 180) ∧ earthRadiusM * (Real.pi / 180) < 111500 := by
  have h₁ := Real.pi_gt_d2
  have h₂ := Real.pi_lt_d2
  unfold earthRadiusM
  constructor <;> norm_num at * <;> linarith

/-- The place of the given latitude on the meridian 129°E. -/
def onMeridian (lat : ℝ) : NodeId ℝ := ⟨lat, 129⟩

theorem onMeridian_inj {x y : ℝ} : onMeridian x = onMeridian y ↔ x = y := by
  simp [onMeridian]

theorem onMeridian_onMap {x : ℝ} (h : |x| < 90) : (onMeridian x).OnMap :=
  ⟨h, by norm_num [onMeridian]⟩

theorem distance_onMeridian {x y : ℝ} (h : |y - x| ≤ 180) :
    (onMeridian x).distance (onMeridian y) = earthRadiusM * (Real.pi / 180) * |y - x| := by
  rw [NodeId.distance, onMeridian, onMeridian, haversineM_meridian _ h]
  ring

/-- Places on the meridian that differ by `d` degrees are between 111 and 111.5 km times `d`
apart. -/
theorem distance_onMeridian_bounds {x y : ℝ} (h : |y - x| ≤ 180) :
    111000 * |y - x| ≤ (onMeridian x).distance (onMeridian y) ∧
      (onMeridian x).distance (onMeridian y) ≤ 111500 * |y - x| := by
  rw [distance_onMeridian h]
  obtain ⟨hl, hu⟩ := degree_length
  exact ⟨mul_le_mul_of_nonneg_right hl.le (abs_nonneg _),
    mul_le_mul_of_nonneg_right hu.le (abs_nonneg _)⟩

end Salgil
