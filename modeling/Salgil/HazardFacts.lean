import Salgil.Hazard
import Mathlib.Tactic.Linarith
import Mathlib.Tactic.GCongr

namespace Salgil
set_option autoImplicit true
set_option linter.unusedSectionVars false

section
variable {K : Type u} [Field K] [LinearOrder K] [IsStrictOrderedRing K] [FloorRing K]
variable {f : HazardField K}

/-- The grid of a slice has a cell, and one value for each of its cells. -/
def HazardSlice.Readable (s : HazardSlice K) : Prop :=
  0 < s.height * s.width ∧ s.values.length = s.height * s.width

/-- Reading the field fails: at some place and time a slice has no value for the cell of the
place. -/
def HazardField.Unreadable (f : HazardField K) (e : PyError) : Prop :=
  e = .indexError ∧ ∃ lat lon t, f.riskAt lat lon t = .error .indexError

theorem HazardSlice.Readable.cellIndex_bounds {s : HazardSlice K} (h : s.Readable) (lat lon : K) :
    0 ≤ s.cellIndex lat lon ∧ s.cellIndex lat lon < s.values.length := by
  obtain ⟨hpos, hlen⟩ := h
  rw [hlen]
  simp only [cellIndex]
  generalize pyInt ((s.bbox.maxLat - lat) / _ * _) = row
  generalize pyInt ((lon - s.bbox.minLon) / _ * _) = col
  rcases pos_and_pos_or_neg_and_neg_of_mul_pos hpos with ⟨hh, hw⟩ | ⟨hh, hw⟩
  · have hr0 : 0 ≤ min (max row 0) (s.height - 1) := by omega
    have hr1 : min (max row 0) (s.height - 1) ≤ s.height - 1 := by omega
    have hc0 : 0 ≤ min (max col 0) (s.width - 1) := by omega
    have hc1 : min (max col 0) (s.width - 1) ≤ s.width - 1 := by omega
    constructor
    · positivity
    · nlinarith
  · -- with both sizes negative every lookup lands on the last value
    have hr : min (max row 0) (s.height - 1) = s.height - 1 := by omega
    have hc : min (max col 0) (s.width - 1) = s.width - 1 := by omega
    rw [hr, hc]
    constructor <;> nlinarith

theorem HazardSlice.Readable.valueAt_ok {s : HazardSlice K} (h : s.Readable) (lat lon : K) :
    ∃ v, s.valueAt lat lon = .ok v := by
  by_cases hc : s.bbox.contains lat lon
  · obtain ⟨h0, h1⟩ := h.cellIndex_bounds lat lon
    obtain ⟨v, hv⟩ := pyGetItem_ok h0 h1
    exact ⟨some v, by simp [valueAt, hc, hv, Except.map]⟩
  · exact ⟨none, by simp [valueAt, hc]⟩

theorem pyGetItem_error {l : List α} {i : ℤ} (h : pyGetItem l i = .error e) : e = .indexError := by
  simp only [pyGetItem] at h
  generalize (if i < 0 then i + l.length else i) = j at h
  split at h
  · exact (Except.error.inj h).symm
  · split at h
    · cases h
    · exact (Except.error.inj h).symm

theorem HazardSlice.valueAt_error {s : HazardSlice K} {lat lon : K}
    (h : s.valueAt lat lon = .error e) : e = .indexError ∧ ¬ s.Readable := by
  refine ⟨?_, fun hs => ?_⟩
  · simp only [valueAt] at h
    split at h
    · cases hv : pyGetItem s.values (s.cellIndex lat lon) with
      | ok v => simp [hv, Except.map] at h
      | error e' =>
        rw [hv] at h
        cases h
        exact pyGetItem_error hv
    · cases h
  · obtain ⟨v, hv⟩ := hs.valueAt_ok lat lon
    rw [hv] at h
    cases h

theorem worstOf_ends (s : HazardSlice K) (lat lon worst : K) :
    Ends (fun e => e = .indexError ∧ ¬ s.Readable) (worst ≤ ·) (worstOf lat lon worst s) := by
  cases hv : s.valueAt lat lon with
  | error e => simpa [worstOf, hv] using HazardSlice.valueAt_error hv
  | ok v => cases v <;> simp [worstOf, hv]

theorem foldlM_worstOf_le {slices : List (HazardSlice K)} {lat lon worst worst' : K}
    (h : slices.foldlM (worstOf lat lon) worst = .ok worst') : worst ≤ worst' :=
  (Ends.foldlM (E := fun _ => True) (R := fun _ w => worst ≤ w) le_rfl fun _ s w _ hw => by
    cases hs : worstOf lat lon w s with
    | ok w' => exact hw.trans ((worstOf_ends s lat lon w).of_ok hs)
    | error _ => trivial).of_ok h

theorem HazardField.riskAt_slice (f : HazardField K) (lat lon t : K) :
    Ends (fun e => e = .indexError ∧ ∃ s ∈ f.slices, ¬ s.Readable) (fun _ => True)
      (f.riskAt lat lon t) := by
  refine Ends.foldlM (R := fun _ _ => True) trivial fun _ s w hs _ => ?_
  cases hw : worstOf lat lon w s with
  | ok w' => trivial
  | error e =>
    obtain ⟨he, hr⟩ := (worstOf_ends s lat lon w).of_error hw
    exact ⟨he, s, List.mem_of_mem_take hs, hr⟩

theorem HazardField.riskAt_ends (f : HazardField K) (lat lon t : K) :
    Ends f.Unreadable (fun _ => True) (f.riskAt lat lon t) := by
  cases h : f.riskAt lat lon t with
  | ok risk => trivial
  | error e =>
    obtain ⟨rfl, -⟩ := (f.riskAt_slice lat lon t).of_error h
    exact ⟨rfl, lat, lon, t, h⟩

theorem HazardField.Unreadable.exists_slice {e : PyError} (h : f.Unreadable e) :
    ∃ s ∈ f.slices, ¬ s.Readable := by
  obtain ⟨-, lat, lon, t, hrisk⟩ := h
  exact ((f.riskAt_slice lat lon t).of_error hrisk).2

theorem HazardField.consulted_singleton {s : HazardSlice K} (h : f.slices = [s]) (t : K) :
    f.consulted t = [s] := by
  rw [consulted, h]
  apply List.take_of_length_le
  split
  · exact le_rfl
  · next hne => exact Nat.one_le_iff_ne_zero.2 hne

theorem HazardField.riskAt_of_slices_eq_nil (h : f.slices = []) (lat lon t : K) :
    f.riskAt lat lon t = .ok 0 := by
  simp [riskAt, consulted, h]

theorem bisectRight_mono (l : List ℤ) {x y : K} (h : x ≤ y) :
    bisectRight l x ≤ bisectRight l y := by
  induction l with
  | nil => exact le_rfl
  | cons a l ih =>
    simp only [bisectRight, List.takeWhile_cons] at ih ⊢
    by_cases hx : (a : K) ≤ x
    · simpa [hx, hx.trans h] using ih
    · simp [hx]

/-- The slices looked into at an earlier time come first among those of a later time. -/
theorem HazardField.consulted_prefix (f : HazardField K) {s t : K} (h : s ≤ t) :
    f.consulted s <+: f.consulted t := by
  have hm := bisectRight_mono f.horizons (div_le_div_of_nonneg_right h (by norm_num : (0 : K) ≤ 60))
  refine List.take_prefix_take_left ?_
  split <;> split <;> omega

/-- The risk of a place never falls with time, and what can be read later can be read earlier. -/
theorem HazardField.riskAt_mono {lat lon s t r' : K} (h : s ≤ t)
    (ht : f.riskAt lat lon t = .ok r') : ∃ r, f.riskAt lat lon s = .ok r ∧ r ≤ r' := by
  obtain ⟨rest, hrest⟩ := f.consulted_prefix h
  rw [riskAt, ← hrest, List.foldlM_append] at ht
  obtain ⟨r, hr, hr'⟩ := bind_eq_ok.1 ht
  exact ⟨r, hr, foldlM_worstOf_le hr'⟩

variable {p q : HazardPolicy K}

theorem minSpan_pos : (0 : K) < minSpan := by
  unfold minSpan
  positivity

theorem HazardPolicy.edgeMultiplier_isSome {risk : K} :
    (p.edgeMultiplier risk).isSome ↔ risk < p.blockThreshold := by
  simp only [edgeMultiplier]
  split
  · next h => simp [h]
  · next h =>
    split <;> simpa using h

theorem HazardPolicy.edgeMultiplier_eq_none {risk : K} :
    p.edgeMultiplier risk = none ↔ ¬ risk < p.blockThreshold := by
  rw [← edgeMultiplier_isSome, Option.not_isSome_iff_eq_none]

/-- A lower risk under a policy that blocks later and penalises no more is passable too, and
costs no more. -/
theorem HazardPolicy.edgeMultiplier_mono {r r' m' : K} (hb : q.blockThreshold ≤ p.blockThreshold)
    (ha : p.avoidThreshold = q.avoidThreshold) (hp : 1 ≤ p.avoidPenalty)
    (hpq : p.avoidPenalty ≤ q.avoidPenalty) (hr : r ≤ r') (h : q.edgeMultiplier r' = some m') :
    ∃ m, p.edgeMultiplier r = some m ∧ m ≤ m' := by
  have hlt : r' < q.blockThreshold := edgeMultiplier_isSome.1 (by simp [h])
  have hlt' : ¬ p.blockThreshold ≤ r := not_le.2 ((hr.trans_lt hlt).trans_le hb)
  have hq : 0 < max (q.blockThreshold - q.avoidThreshold) minSpan :=
    minSpan_pos.trans_le (le_max_right _ _)
  simp only [edgeMultiplier, not_le.2 hlt, ↓reduceIte] at h
  simp only [edgeMultiplier, hlt', ↓reduceIte, ha]
  by_cases hra : r ≤ q.avoidThreshold
  · refine ⟨1, by simp [hra], ?_⟩
    split at h
    · exact (Option.some.inj h).le
    · next hra' =>
      rw [← Option.some.inj h]
      have hratio : 0 ≤ (r' - q.avoidThreshold) /
          max (q.blockThreshold - q.avoidThreshold) minSpan :=
        div_nonneg (sub_nonneg.2 (not_le.1 hra').le) hq.le
      have := mul_nonneg hratio (sub_nonneg.2 (hp.trans hpq))
      linarith
  · have hra' : ¬ r' ≤ q.avoidThreshold := fun h' => hra (hr.trans h')
    simp only [hra', ↓reduceIte, Option.some.injEq] at h
    simp only [hra, ↓reduceIte, Option.some.injEq, exists_eq_left']
    rw [← h]
    have hspan : max (q.blockThreshold - q.avoidThreshold) minSpan ≤
        max (p.blockThreshold - q.avoidThreshold) minSpan :=
      max_le_max (sub_le_sub_right hb _) le_rfl
    have hratio : (r - q.avoidThreshold) / max (p.blockThreshold - q.avoidThreshold) minSpan ≤
        (r' - q.avoidThreshold) / max (q.blockThreshold - q.avoidThreshold) minSpan :=
      div_le_div₀ (sub_nonneg.2 (not_le.1 hra').le) (sub_le_sub_right hr _) hq hspan
    have hratio₀ : 0 ≤ (r' - q.avoidThreshold) /
        max (q.blockThreshold - q.avoidThreshold) minSpan :=
      div_nonneg (sub_nonneg.2 (not_le.1 hra').le) hq.le
    have := mul_le_mul hratio (sub_le_sub_right hpq 1) (sub_nonneg.2 hp) hratio₀
    linarith

theorem HazardPolicy.one_le_edgeMultiplier {risk m : K} (hp : 1 ≤ p.avoidPenalty)
    (h : p.edgeMultiplier risk = some m) : 1 ≤ m := by
  obtain ⟨m', hm', hle⟩ := edgeMultiplier_mono (p := p) le_rfl rfl hp le_rfl
    (min_le_left risk p.avoidThreshold) h
  have hlt := edgeMultiplier_isSome.1 (Option.isSome_iff_exists.2 ⟨m', hm'⟩)
  simp only [edgeMultiplier, not_le.2 hlt, min_le_right, ↓reduceIte, Option.some.injEq] at hm'
  exact hm' ▸ hle

end

end Salgil
