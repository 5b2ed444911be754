import Salgil.HazardFacts
import Salgil.Prediction
import Mathlib.Data.Rat.Floor
import Mathlib.Tactic.FieldSimp

namespace Salgil
set_option autoImplicit true
set_option linter.unusedSectionVars false

section
variable {K : Type u} [Field K] [LinearOrder K] [IsStrictOrderedRing K] [FloorRing K]

/-- Where a point comes along one side of a grid, at a distance from the edge that is counted
from. -/
def axisIndex (size : ℤ) (span distance : K) : ℤ :=
  min (max (pyInt (distance / max span minSpan * size)) 0) (size - 1)

def Bbox.latSpan (b : Bbox K) : K := b.maxLat - b.minLat

def Bbox.lonSpan (b : Bbox K) : K := b.maxLon - b.minLon

/-- The closed rectangle of a cell has the point: rows are counted from the north edge, columns
from the west edge. -/
structure Bbox.InCell (b : Bbox K) (height width row col : ℤ) (lat lon : K) : Prop where
  row_le : row * (b.latSpan / height) ≤ b.maxLat - lat
  le_row : b.maxLat - lat ≤ (row + 1) * (b.latSpan / height)
  col_le : col * (b.lonSpan / width) ≤ lon - b.minLon
  le_col : lon - b.minLon ≤ (col + 1) * (b.lonSpan / width)

/-- What a lookup in a slice is to do, at one point. -/
structure HazardSlice.LandsRight (s : HazardSlice K) (lat lon : K) : Prop where
  inside : s.bbox.contains lat lon → 0 ≤ s.cellIndex lat lon ∧ s.cellIndex lat lon < s.values.length
  none_iff : s.valueAt lat lon = .ok none ↔ s.bbox.contains lat lon = false
  cell : 0 < s.bbox.latSpan → 0 < s.bbox.lonSpan → s.bbox.contains lat lon →
    ∃ row col value, 0 ≤ row ∧ row < s.height ∧ 0 ≤ col ∧ col < s.width ∧
      s.bbox.InCell s.height s.width row col lat lon ∧
      pyGetItem s.values (row * s.width + col) = .ok value ∧
      s.valueAt lat lon = .ok (some value)

/-- Whatever values a grid of these sizes is accepted with, every lookup in it does what it is to
do. -/
def GridLandsRight (height width : ℤ) (bbox : Bbox K) : Prop :=
  ∀ (horizon : ℤ) (values : List K) (channel : Option ℤ) (channelCount : ℕ)
    (slice : HazardSlice K),
    sliceFromGrid horizon height width bbox values channel channelCount = .ok slice →
      ∀ lat lon, slice.LandsRight lat lon

/-- An axis has one cell, or a span that is not replaced. -/
def AxisFits (size : ℤ) (span : K) : Prop := size = 1 ∨ minSpan ≤ span

/-- The sizes of a grid over a rectangle with points have cells, and the cells are as wide as the
lookup takes them. -/
def CellsFit (height width : ℤ) (bbox : Bbox K) : Prop :=
  bbox.minLat ≤ bbox.maxLat → bbox.minLon ≤ bbox.maxLon → 0 ≤ height * width →
    0 < height * width ∧ (0 < bbox.latSpan → 0 < bbox.lonSpan →
      0 < height ∧ AxisFits height bbox.latSpan ∧ AxisFits width bbox.lonSpan)

theorem HazardSlice.cellIndex_eq (s : HazardSlice K) (lat lon : K) :
    s.cellIndex lat lon = axisIndex s.height s.bbox.latSpan (s.bbox.maxLat - lat) * s.width +
      axisIndex s.width s.bbox.lonSpan (lon - s.bbox.minLon) := rfl

variable {size : ℤ} {span distance : K}

theorem axisIndex_bounds (hsize : 0 < size) (span distance : K) :
    0 ≤ axisIndex size span distance ∧ axisIndex size span distance < size := by
  simp only [axisIndex]
  omega

theorem axisIndex_mem (hsize : 0 < size) (hspan : 0 < span) (hfits : AxisFits size span)
    (h0 : 0 ≤ distance) (h1 : distance ≤ span) :
    axisIndex size span distance * (span / size) ≤ distance ∧
      distance ≤ (axisIndex size span distance + 1) * (span / size) := by
  rcases hfits with rfl | hmin
  · have hzero : axisIndex 1 span distance = 0 := by
      simp only [axisIndex]
      omega
    simpa [hzero] using ⟨h0, h1⟩
  · have hsize' : (0 : K) < size := Int.cast_pos.2 hsize
    have hstep : 0 < span / size := div_pos hspan hsize'
    have hx : distance / max span minSpan * size = distance / (span / size) := by
      rw [max_eq_left hmin]
      field_simp
    have hx0 : 0 ≤ distance / (span / size) := div_nonneg h0 hstep.le
    have hx1 : distance / (span / size) ≤ size := by
      rw [div_le_iff₀ hstep, mul_div_cancel₀ _ hsize'.ne']
      exact h1
    have hindex : axisIndex size span distance = min ⌊distance / (span / size)⌋ (size - 1) := by
      rw [axisIndex, hx, pyInt, if_pos hx0, max_eq_left (Int.floor_nonneg.2 hx0)]
    rw [hindex, ← le_div_iff₀ hstep, ← div_le_iff₀ hstep]
    constructor
    · exact (Int.cast_le.2 (min_le_left _ _)).trans (Int.floor_le _)
    · rcases min_cases ⌊distance / (span / size)⌋ (size - 1) with ⟨heq, -⟩ | ⟨heq, -⟩
      · rw [heq]
        exact (Int.lt_floor_add_one _).le
      · rw [heq]
        push_cast
        linarith

/-- Along a side that does not fit, some point of the second cell is looked up in the first. -/
theorem exists_misplaced (hspan : 0 < span) (hsize : 0 < size) (hfits : ¬ AxisFits size span) :
    ∃ distance, 0 ≤ distance ∧ distance ≤ span ∧ axisIndex size span distance = 0 ∧
      ¬ distance ≤ span / size := by
  rw [AxisFits, not_or, not_le] at hfits
  obtain ⟨hone, hmin⟩ := hfits
  have hsize' : (0 : K) < size := Int.cast_pos.2 hsize
  have htwo : (1 : K) < size := by
    exact_mod_cast (show 1 < size by omega)
  have hbetween : span / size < min span (minSpan / size) := by
    apply lt_min
    · exact div_lt_self hspan htwo
    · exact div_lt_div_of_pos_right hmin hsize'
  obtain ⟨distance, hlow, hhigh⟩ := exists_between hbetween
  have h0 : 0 ≤ distance := (div_pos hspan hsize').le.trans hlow.le
  refine ⟨distance, h0, (hhigh.trans_le (min_le_left _ _)).le, ?_, not_le.2 hlow⟩
  have hx0 : 0 ≤ distance / minSpan * size :=
    mul_nonneg (div_nonneg h0 minSpan_pos.le) hsize'.le
  have hx1 : distance / minSpan * size < 1 := by
    have := hhigh.trans_le (min_le_right _ _)
    rw [lt_div_iff₀ hsize'] at this
    rw [div_mul_eq_mul_div, div_lt_one minSpan_pos]
    exact this
  have hfloor : ⌊distance / minSpan * size⌋ = 0 := Int.floor_eq_iff.2 (by simpa using ⟨hx0, hx1⟩)
  rw [axisIndex, max_eq_right hmin.le, pyInt, if_pos hx0, hfloor]
  omega

theorem Bbox.contains_iff {b : Bbox K} {lat lon : K} : b.contains lat lon = true ↔
    (0 ≤ b.maxLat - lat ∧ b.maxLat - lat ≤ b.latSpan) ∧
      (0 ≤ lon - b.minLon ∧ lon - b.minLon ≤ b.lonSpan) := by
  simp only [contains, latSpan, lonSpan, decide_eq_true_eq, sub_nonneg, sub_le_sub_iff_left,
    sub_le_sub_iff_right]
  tauto

theorem HazardSlice.valueAt_of_contains {s : HazardSlice K} {lat lon value : K}
    (h : s.bbox.contains lat lon = true) :
    s.valueAt lat lon = .ok (some value) ↔
      pyGetItem s.values (s.cellIndex lat lon) = .ok value := by
  rw [valueAt, if_pos h]
  cases pyGetItem s.values (s.cellIndex lat lon) <;> simp [Except.map]

theorem HazardSlice.valueAt_eq_none {s : HazardSlice K} {lat lon : K} :
    s.valueAt lat lon = .ok none ↔ s.bbox.contains lat lon = false := by
  by_cases h : s.bbox.contains lat lon
  · rw [valueAt, if_pos h]
    cases pyGetItem s.values (s.cellIndex lat lon) <;> simp [Except.map, h]
  · simp [valueAt, h]

theorem HazardSlice.Readable.landsRight {s : HazardSlice K} (hread : s.Readable)
    (hfit : 0 < s.bbox.latSpan → 0 < s.bbox.lonSpan →
      0 < s.height ∧ AxisFits s.height s.bbox.latSpan ∧ AxisFits s.width s.bbox.lonSpan)
    (lat lon : K) : s.LandsRight lat lon where
  inside _ := hread.cellIndex_bounds lat lon
  none_iff := valueAt_eq_none
  cell hlat hlon hcontains := by
    obtain ⟨hheight, hfitLat, hfitLon⟩ := hfit hlat hlon
    have hwidth : 0 < s.width := (mul_pos_iff_of_pos_left hheight).1 hread.1
    obtain ⟨⟨hlat0, hlat1⟩, hlon0, hlon1⟩ := Bbox.contains_iff.1 hcontains
    obtain ⟨hrow0, hrow1⟩ := axisIndex_bounds hheight s.bbox.latSpan (s.bbox.maxLat - lat)
    obtain ⟨hcol0, hcol1⟩ := axisIndex_bounds hwidth s.bbox.lonSpan (lon - s.bbox.minLon)
    obtain ⟨hnorth, hsouth⟩ := axisIndex_mem hheight hlat hfitLat hlat0 hlat1
    obtain ⟨hwest, heast⟩ := axisIndex_mem hwidth hlon hfitLon hlon0 hlon1
    obtain ⟨h0, h1⟩ := hread.cellIndex_bounds lat lon
    obtain ⟨value, hvalue⟩ := pyGetItem_ok h0 h1
    refine ⟨_, _, value, hrow0, hrow1, hcol0, hcol1, ⟨hnorth, hsouth, hwest, heast⟩, ?_, ?_⟩
    · rw [← s.cellIndex_eq]
      exact hvalue
    · exact (valueAt_of_contains hcontains).2 hvalue

/-- The numbers from 0 on, so that every cell has a value of its own. -/
def numbered (K : Type u) [Field K] (n : ℕ) : List K := (List.range n).map (↑)

theorem pyGetItem_numbered {n : ℕ} {i : ℤ} {value : K} (hi : 0 ≤ i)
    (h : pyGetItem (numbered K n) i = .ok value) : value = i := by
  simp only [pyGetItem, not_lt.2 hi, if_false] at h
  split at h
  · next x hx =>
    cases h
    obtain ⟨m, hm, rfl⟩ := List.getElem?_eq_some_iff.1 hx
    simp only [numbered, List.getElem_map, List.getElem_range]
    exact_mod_cast Int.toNat_of_nonneg hi
  · cases h

theorem length_numbered {n : ℤ} (hn : 0 ≤ n) : ((numbered K n.toNat).length : ℤ) = n := by
  rw [numbered, List.length_map, List.length_range, Int.toNat_of_nonneg hn]

theorem row_col_inj {width row col row' col' : ℤ} (hcol : 0 ≤ col) (hcol' : col < width)
    (hother : 0 ≤ col') (hother' : col' < width)
    (h : row * width + col = row' * width + col') : row = row' ∧ col = col' := by
  have hwidth : width ≠ 0 := by omega
  have hrow := congrArg (· / width) h
  simp only [Int.add_comm (_ * width), Int.add_mul_ediv_right _ _ hwidth,
    Int.ediv_eq_zero_of_lt hcol hcol', Int.ediv_eq_zero_of_lt hother hother', zero_add] at hrow
  subst hrow
  exact ⟨rfl, add_left_cancel h⟩

variable {height width : ℤ} {bbox : Bbox K}

theorem GridLandsRight.on_numbered (h : GridLandsRight height width bbox)
    (harea : 0 ≤ height * width) (lat lon : K) :
    (HazardSlice.mk 0 height width bbox
      (numbered K (height * width).toNat)).LandsRight lat lon := by
  apply h 0 (numbered K (height * width).toNat) none 1
  rw [sliceFromGrid_ok, pickChannel]
  exact ⟨length_numbered harea, rfl⟩

theorem GridLandsRight.cell_eq (h : GridLandsRight height width bbox) (harea : 0 < height * width)
    (hlat : 0 < bbox.latSpan) (hlon : 0 < bbox.lonSpan) {lat lon : K}
    (hcontains : bbox.contains lat lon = true) :
    0 < height ∧ 0 < width ∧
      bbox.InCell height width (axisIndex height bbox.latSpan (bbox.maxLat - lat))
        (axisIndex width bbox.lonSpan (lon - bbox.minLon)) lat lon := by
  obtain ⟨row, col, value, hrow0, hrow1, hcol0, hcol1, hcell, hvalue, hlookup⟩ :=
    (h.on_numbered harea.le lat lon).cell hlat hlon hcontains
  have hheight : 0 < height := hrow0.trans_lt hrow1
  have hwidth : 0 < width := hcol0.trans_lt hcol1
  obtain ⟨hr0, hr1⟩ := axisIndex_bounds hheight bbox.latSpan (bbox.maxLat - lat)
  obtain ⟨hc0, hc1⟩ := axisIndex_bounds hwidth bbox.lonSpan (lon - bbox.minLon)
  rw [HazardSlice.valueAt_of_contains hcontains, HazardSlice.cellIndex_eq] at hlookup
  have hnamed := pyGetItem_numbered (by positivity) hvalue
  have hlooked := pyGetItem_numbered (by positivity) hlookup
  obtain ⟨rfl, rfl⟩ := row_col_inj hcol0 hcol1 hc0 hc1
    (Int.cast_injective (hnamed.symm.trans hlooked))
  exact ⟨hheight, hwidth, hcell⟩

theorem Bbox.contains_corner (hlat : bbox.minLat ≤ bbox.maxLat) (hlon : bbox.minLon ≤ bbox.maxLon) :
    bbox.contains bbox.minLat bbox.minLon = true := by
  simp [contains, hlat, hlon]

/-- A grid without a cell is accepted with no values, and a lookup in it fails. -/
theorem GridLandsRight.area_ne_zero (h : GridLandsRight height width bbox)
    (hcontains : bbox.contains bbox.minLat bbox.minLon = true) : height * width ≠ 0 := by
  intro hzero
  obtain ⟨h0, h1⟩ := (h.on_numbered hzero.ge bbox.minLat bbox.minLon).inside hcontains
  rw [length_numbered hzero.ge, hzero] at h1
  exact absurd (h0.trans_lt h1) (lt_irrefl 0)

theorem GridLandsRight.fits_rows (h : GridLandsRight height width bbox)
    (harea : 0 < height * width) (hlat : 0 < bbox.latSpan) (hlon : 0 < bbox.lonSpan)
    (hheight : 0 < height) : AxisFits height bbox.latSpan := by
  by_contra hfits
  obtain ⟨distance, h0, h1, hfirst, hbeyond⟩ := exists_misplaced hlat hheight hfits
  have hcontains : bbox.contains (bbox.maxLat - distance) bbox.minLon = true := by
    rw [Bbox.contains_iff]
    simp [h0, h1, hlon.le]
  obtain ⟨-, -, hcell⟩ := h.cell_eq harea hlat hlon hcontains
  have hrow := hcell.le_row
  rw [sub_sub_cancel, hfirst] at hrow
  simp only [Int.cast_zero, zero_add, one_mul] at hrow
  exact hbeyond hrow

theorem GridLandsRight.fits_columns (h : GridLandsRight height width bbox)
    (harea : 0 < height * width) (hlat : 0 < bbox.latSpan) (hlon : 0 < bbox.lonSpan)
    (hwidth : 0 < width) : AxisFits width bbox.lonSpan := by
  by_contra hfits
  obtain ⟨distance, h0, h1, hfirst, hbeyond⟩ := exists_misplaced hlon hwidth hfits
  have hcontains : bbox.contains bbox.maxLat (bbox.minLon + distance) = true := by
    rw [Bbox.contains_iff]
    simp [h0, h1, hlat.le]
  obtain ⟨-, -, hcell⟩ := h.cell_eq harea hlat hlon hcontains
  have hcol := hcell.le_col
  rw [add_sub_cancel_left, hfirst] at hcol
  simp only [Int.cast_zero, zero_add, one_mul] at hcol
  exact hbeyond hcol

/-- Every lookup lands in the right cell exactly where the grid has cells and each side one cell
or a span that is not replaced. -/
theorem gridLandsRight_iff (height width : ℤ) (bbox : Bbox K) :
    GridLandsRight height width bbox ↔ CellsFit height width bbox := by
  constructor
  · intro h hlat hlon harea
    have hcorner := Bbox.contains_corner hlat hlon
    have hpos : 0 < height * width := lt_of_le_of_ne harea (h.area_ne_zero hcorner).symm
    refine ⟨hpos, fun hlatSpan hlonSpan => ?_⟩
    obtain ⟨hheight, hwidth, -⟩ := h.cell_eq hpos hlatSpan hlonSpan hcorner
    exact ⟨hheight, h.fits_rows hpos hlatSpan hlonSpan hheight,
      h.fits_columns hpos hlatSpan hlonSpan hwidth⟩
  · intro h horizon values channel channelCount slice hslice lat lon
    obtain ⟨hlength, rfl⟩ := sliceFromGrid_ok.1 hslice
    by_cases hcontains : bbox.contains lat lon = true
    · obtain ⟨⟨hlat0, hlat1⟩, hlon0, hlon1⟩ := Bbox.contains_iff.1 hcontains
      have hlat : bbox.minLat ≤ bbox.maxLat := sub_nonneg.1 (hlat0.trans hlat1)
      have hlon : bbox.minLon ≤ bbox.maxLon := sub_nonneg.1 (hlon0.trans hlon1)
      have harea : 0 ≤ height * width := by
        rw [← hlength]
        exact Int.natCast_nonneg _
      obtain ⟨hpos, hfit⟩ := h hlat hlon harea
      exact HazardSlice.Readable.landsRight ⟨hpos, hlength⟩ hfit lat lon
    · exact ⟨fun hin => absurd hin hcontains, HazardSlice.valueAt_eq_none,
        fun _ _ hin => absurd hin hcontains⟩

end

/-- Four cells over a degree. -/
theorem gridLandsRight_four_cells : CellsFit 2 2 (⟨36, 129, 37, 130⟩ : Bbox ℚ) ∧
    GridLandsRight 2 2 (⟨36, 129, 37, 130⟩ : Bbox ℚ) := by
  have hfit : CellsFit 2 2 (⟨36, 129, 37, 130⟩ : Bbox ℚ) := by
    intro _ _ _
    refine ⟨by norm_num, fun _ _ => ⟨by norm_num, .inr ?_, .inr ?_⟩⟩
    · norm_num [minSpan, Bbox.latSpan]
    · norm_num [minSpan, Bbox.lonSpan]
  exact ⟨hfit, (gridLandsRight_iff 2 2 _).2 hfit⟩

/-- A grid of no rows and five columns is accepted without a value, and every lookup within its
rectangle fails. -/
theorem empty_grid_indexes_outside :
    sliceFromGrid 0 0 5 (⟨36, 129, 37, 130⟩ : Bbox ℚ) [] none 1 =
      .ok ⟨0, 0, 5, ⟨36, 129, 37, 130⟩, []⟩ ∧
    (HazardSlice.mk 0 0 5 (⟨36, 129, 37, 130⟩ : Bbox ℚ) []).valueAt 36.5 129.5 =
      .error .indexError ∧
    ¬ GridLandsRight 0 5 (⟨36, 129, 37, 130⟩ : Bbox ℚ) := by
  have hslice : sliceFromGrid 0 0 5 (⟨36, 129, 37, 130⟩ : Bbox ℚ) [] none 1 =
      .ok ⟨0, 0, 5, ⟨36, 129, 37, 130⟩, []⟩ := rfl
  have hcontains : (⟨36, 129, 37, 130⟩ : Bbox ℚ).contains 36.5 129.5 = true := by decide +kernel
  refine ⟨hslice, ?_, fun h => ?_⟩
  · rw [HazardSlice.valueAt, if_pos hcontains]
    simp [pyGetItem, Except.map]
  · obtain ⟨h0, h1⟩ := (h _ _ _ _ _ hslice 36.5 129.5).inside hcontains
    exact absurd (h0.trans_lt h1) (lt_irrefl 0)

end Salgil
