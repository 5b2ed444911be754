import Salgil.Ranking
import Salgil.Binary32
import Salgil.DeclaredErrors
import Mathlib.Algebra.Order.BigOperators.Group.List

namespace Salgil
set_option autoImplicit true
set_option linter.unusedSectionVars false

instance atLeastTwo_20 : Nat.AtLeastTwo 20 := ⟨by decide⟩
instance atLeastTwo_18 : Nat.AtLeastTwo 18 := ⟨by decide⟩
instance atLeastTwo_45 : Nat.AtLeastTwo 45 := ⟨by decide⟩
instance atLeastTwo_55 : Nat.AtLeastTwo 55 := ⟨by decide⟩
instance atLeastTwo_100 : Nat.AtLeastTwo 100 := ⟨by decide⟩
instance atLeastTwo_255 : Nat.AtLeastTwo 255 := ⟨by decide⟩

structure TopCell (K : Type u) where
  row : ℤ
  col : ℤ
  value : K

/-- The numbers about a grid that the screens show. -/
structure PredictionSummary (K : Type u) where
  max : Option K := none
  mean : Option K := none
  p95 : Option K := none
  threshold : Option K := none
  cellsOverThreshold : Option ℤ := none
  totalCells : Option ℤ := none
  topCells : List (TopCell K) := []

/-- A prediction of the stub, with what the screens read of it. -/
structure StubPrediction (K : Type u) extends PredictionResult K where
  shape : List ℤ
  summary : PredictionSummary K
  warnings : List String

def stubNotice : String :=
  "ML 추론 서버가 stub 모드입니다 — 학습된 모델이 아니라 결정론적 합성값입니다. " ++
    "운영 판단에 쓰면 안 됩니다."

section
variable {K : Type} [Field K] [LinearOrder K] [IsStrictOrderedRing K] [FloorRing K] [MathLib K]

/-- `_seed`: the first 32 bits of the digest of the text. -/
def stubSeed (digest : String → ℕ) (request : PredictionRequest K) : ℕ :=
  digest (request.recipe.value ++ "|" ++ request.regionCode.getD "None" ++ "|" ++
    ((request.horizonMinutes.map toString).getD "None"))

/-- `math.hypot`. -/
def hypot (x y : K) : K := MathLib.sqrt (x * x + y * y)

/-- The value of a cell: a hill that falls off from the middle, with a phase of the seed. -/
def stubValue (seed : ℕ) (grid : GridSpec K) (row col : ℕ) : K :=
  let cy : K := grid.height / 2
  let cx : K := grid.width / 2
  let dist := hypot ((row - cy) / max cy 1) ((col - cx) / max cx 1)
  let phase : K := ((seed >>> ((row + col) % 16)) &&& 255 : ℕ) / 255
  let value := max 0 (min 1 (MathLib.exp (-(18 / 10) * dist * dist) *
    (55 / 100 + 45 / 100 * phase)))
  pyRound 5 value

/-- The two loops over the cells. -/
def stubValues (seed : ℕ) (grid : GridSpec K) : List K :=
  (List.range grid.height.toNat).flatMap fun row =>
    (List.range grid.width.toNat).map fun col => stubValue seed grid row col

/-- The five greatest cells, by Python's stable sort. -/
def stubTopCells (grid : GridSpec K) (values : List K) : List (TopCell K) :=
  let key (i : ℕ) : K := values[i]?.getD 0
  ((ranked key (List.range values.length)).take 5).map fun flatIndex : ℕ =>
    { row := flatIndex / grid.width
      col := flatIndex % grid.width
      value := values[flatIndex]?.getD 0 }

def stubSummary (grid : GridSpec K) (threshold : K) (values : List K) : PredictionSummary K :=
  let ordered := ranked id values
  let index : ℤ := max 0 (pyInt ((ordered.length : K) * (5 / 100)) - 1)
  { max := ordered[0]?
    mean := if values = [] then none else some (pyRound 5 (values.sum / values.length))
    p95 := ordered[index.toNat]?
    threshold := some threshold
    cellsOverThreshold := some (values.countP (threshold ≤ ·))
    totalCells := some values.length
    topCells := stubTopCells grid values }

/-- `_stub_prediction`; `newId` is the text of the identifier that it draws. -/
def stubPrediction (digest : String → ℕ) (newId : String) (request : PredictionRequest K)
    (threshold : Option K) : StubPrediction K :=
  let grid := request.grid.getD ⟨32, 32, some "EPSG:5179", none⟩
  let values := stubValues (stubSeed digest request) grid
  { predictionId := newId
    recipe := request.recipe
    status := "succeeded"
    model := ⟨request.recipe.value, some "stub", some "stub"⟩
    regionCode := request.regionCode
    hazard := request.hazard
    horizonMinutes := request.horizonMinutes
    grid := some grid
    outputs := [⟨"risk", values⟩]
    shape := [grid.height, grid.width]
    summary := stubSummary grid (threshold.getD (1 / 2)) values
    channels := []
    featureMode := .synthetic
    isStub := true
    warnings := [stubNotice] }

/-- The client in its stub mode; the route service asks for no threshold. -/
def stubPredictor (digest : String → ℕ) (newId : PredictionRequest K → String) : Predictor K :=
  fun request => .ok (stubPrediction digest (newId request) request none).toPredictionResult

/-- Where a cell stands in the data of its grid. -/
def TopCell.place (grid : GridSpec K) (cell : TopCell K) : ℕ :=
  (cell.row * grid.width + cell.col).toNat

/-- What a summary says about a grid is so. -/
structure PredictionSummary.Describes (summary : PredictionSummary K) (grid : GridSpec K)
    (threshold : K) (values : List K) : Prop where
  total : summary.totalCells = some values.length
  asked : summary.threshold = some threshold
  overThreshold : summary.cellsOverThreshold = some (values.countP (threshold ≤ ·))
  max : ∀ m, summary.max = some m ↔ m ∈ values ∧ ∀ v ∈ values, v ≤ m
  meanSome : summary.mean = none ↔ values = []
  mean : ∀ m, summary.mean = some m → (∃ v ∈ values, v ≤ m) ∧ (∃ v ∈ values, m ≤ v) ∧
    |m - values.sum / values.length| ≤ 1 / 2 / 10 ^ 5
  p95Some : summary.p95 = none ↔ values = []
  p95 : ∀ p, summary.p95 = some p → p ∈ values ∧
    values.countP (p < ·) ≤ values.length / 20 - 1 ∧
    values.length / 20 - 1 < values.countP (p ≤ ·)
  topLength : summary.topCells.length = min 5 values.length
  topPlaced : ∀ cell ∈ summary.topCells, (0 ≤ cell.row ∧ cell.row < grid.height) ∧
    (0 ≤ cell.col ∧ cell.col < grid.width) ∧ values[cell.place grid]? = some cell.value
  topOrdered : summary.topCells.Pairwise fun cell next => next.value < cell.value ∨
    next.value = cell.value ∧ cell.place grid < next.place grid
  topBest : ∀ i v, values[i]? = some v → (∀ cell ∈ summary.topCells, cell.place grid ≠ i) →
    ∀ cell ∈ summary.topCells, v < cell.value ∨ v = cell.value ∧ cell.place grid < i

end

section Numbers
variable {K : Type} [Field K] [LinearOrder K] [IsStrictOrderedRing K] [FloorRing K] {x : K}

theorem abs_pyRound_sub_le (digits : ℕ) (x : K) : |pyRound digits x - x| ≤ 1 / 2 / 10 ^ digits := by
  have hpos : (0 : K) < 10 ^ digits := by positivity
  have hdiff : pyRound digits x - x =
      (roundHalfEven (x * 10 ^ digits) - x * 10 ^ digits) / 10 ^ digits := by
    rw [pyRound, sub_div, mul_div_cancel_right₀ _ hpos.ne']
  rw [hdiff, abs_div, abs_of_pos hpos]
  exact div_le_div_of_nonneg_right (abs_roundHalfEven_sub_le _) hpos.le

theorem pyRound_le {digits : ℕ} {n : ℤ} (h : x * 10 ^ digits ≤ n) :
    pyRound digits x ≤ n / 10 ^ digits :=
  div_le_div_of_nonneg_right (Int.cast_le.2 (roundHalfEven_le h)) (by positivity)

/-- A number with so many digits. -/
def Digits (digits : ℕ) (x : K) : Prop := ∃ n : ℤ, x = n / 10 ^ digits

theorem pyRound_digits (digits : ℕ) (x : K) : Digits digits (pyRound digits x) := ⟨_, rfl⟩

theorem le_pyRound_of_digits {digits : ℕ} {v : K} (hv : Digits digits v) (h : v ≤ x) :
    v ≤ pyRound digits x := by
  obtain ⟨n, rfl⟩ := hv
  apply le_pyRound
  rwa [← div_le_iff₀ (by positivity)]

theorem pyRound_le_of_digits {digits : ℕ} {v : K} (hv : Digits digits v) (h : x ≤ v) :
    pyRound digits x ≤ v := by
  obtain ⟨n, rfl⟩ := hv
  apply pyRound_le
  rwa [← le_div_iff₀ (by positivity)]

theorem mean_between {values : List K} {digits : ℕ} (hne : values ≠ [])
    (hdigits : ∀ v ∈ values, Digits digits v) :
    (∃ v ∈ values, v ≤ pyRound digits (values.sum / values.length)) ∧
      ∃ v ∈ values, pyRound digits (values.sum / values.length) ≤ v := by
  have hlength : (values.length : K) ≠ 0 := by
    rw [Nat.cast_ne_zero]
    exact fun h => hne (List.length_eq_zero_iff.1 h)
  have hsum : (values.map fun _ => values.sum / values.length).sum = (values.map id).sum := by
    rw [List.map_const', List.sum_replicate, nsmul_eq_mul, mul_div_cancel₀ _ hlength, List.map_id]
  obtain ⟨low, hlow, hle⟩ := List.exists_le_of_sum_le hne _ _ hsum.ge
  obtain ⟨high, hhigh, hge⟩ := List.exists_le_of_sum_le hne _ _ hsum.le
  exact ⟨⟨low, hlow, le_pyRound_of_digits (hdigits low hlow) hle⟩, high, hhigh,
    pyRound_le_of_digits (hdigits high hhigh) hge⟩

end Numbers

section
variable {K : Type} [Field K] [LinearOrder K] [IsStrictOrderedRing K] [FloorRing K]
variable {grid : GridSpec K} {values : List K} {threshold : K}

theorem ranked_first {m : K} :
    (ranked id values)[0]? = some m ↔ m ∈ values ∧ ∀ v ∈ values, v ≤ m := by
  have hfirst : ∀ x, (ranked id values)[0]? = some x → x ∈ values ∧ ∀ v ∈ values, v ≤ x := by
    intro x hx
    refine ⟨(mem_ranked id).1 (List.mem_of_getElem? hx), ?_⟩
    have hnone := countP_above hx
    rw [Nat.le_zero, List.countP_eq_zero] at hnone
    intro v hv
    simpa using hnone v hv
  constructor
  · exact hfirst m
  · rintro ⟨hm, hgreatest⟩
    have hpos : 0 < (ranked id values).length := by
      rw [length_ranked]
      exact List.length_pos_of_mem hm
    obtain ⟨hx, hbest⟩ := hfirst _ (List.getElem?_eq_getElem hpos)
    rw [List.getElem?_eq_getElem hpos, le_antisymm (hgreatest _ hx) (hbest m hm)]

theorem pyInt_twentieth (n : ℕ) : pyInt ((n : K) * (5 / 100)) = ((n / 20 : ℕ) : ℤ) := by
  have hnonneg : (0 : K) ≤ n * (5 / 100) := by positivity
  have hfive : (n : K) * (5 / 100) * 20 = n := by ring
  have hlow : ((n / 20 : ℕ) : K) * 20 ≤ n := by
    exact_mod_cast Nat.div_mul_le_self n 20
  have hhigh : (n : K) < (((n / 20 : ℕ) : K) + 1) * 20 := by
    exact_mod_cast (Nat.div_lt_iff_lt_mul (by decide : 0 < 20)).1 (Nat.lt_succ_self (n / 20))
  rw [pyInt, if_pos hnonneg, Int.floor_eq_iff, Int.cast_natCast]
  constructor <;> linarith

theorem p95_index (n : ℕ) :
    (max (0 : ℤ) (pyInt ((n : K) * (5 / 100)) - 1)).toNat = n / 20 - 1 := by
  rw [pyInt_twentieth]
  omega

theorem cell_of_place {i : ℕ} (hvalues : values.length = grid.height.toNat * grid.width.toNat)
    (hi : i < values.length) :
    (0 ≤ (i : ℤ) / grid.width ∧ (i : ℤ) / grid.width < grid.height) ∧
      (0 ≤ (i : ℤ) % grid.width ∧ (i : ℤ) % grid.width < grid.width) ∧
      ((i : ℤ) / grid.width * grid.width + (i : ℤ) % grid.width).toNat = i := by
  have hpos : 0 < grid.height.toNat * grid.width.toNat := by omega
  have hwidth : 0 < grid.width := by
    have hwide := Nat.pos_of_mul_pos_left hpos
    omega
  have hheight : 0 < grid.height := by
    have hhigh := Nat.pos_of_mul_pos_right hpos
    omega
  have harea : (i : ℤ) < grid.height * grid.width := by
    have hcast : ((grid.height.toNat * grid.width.toNat : ℕ) : ℤ) = grid.height * grid.width := by
      rw [Nat.cast_mul, Int.toNat_of_nonneg hheight.le, Int.toNat_of_nonneg hwidth.le]
    omega
  refine ⟨⟨?_, ?_⟩, ⟨?_, ?_⟩, ?_⟩
  · exact Int.ediv_nonneg (Int.natCast_nonneg i) hwidth.le
  · exact Int.ediv_lt_of_lt_mul hwidth harea
  · exact Int.emod_nonneg _ hwidth.ne'
  · exact Int.emod_lt_of_pos _ hwidth
  · rw [Int.ediv_mul_add_emod]
    rfl

end

section
variable {K : Type} [Field K] [LinearOrder K] [IsStrictOrderedRing K] [FloorRing K] [MathLib K]
variable {grid : GridSpec K} {values : List K} {threshold : K}

theorem mem_top {values : List K} {i : ℕ}
    (h : i ∈ (ranked (fun i => values[i]?.getD 0) (List.range values.length)).take 5) :
    i < values.length := by
  have hmem := (mem_ranked _).1 (List.mem_of_mem_take h)
  exact List.mem_range.1 hmem

theorem getD_getElem {i : ℕ} (hi : i < values.length) :
    values[i]? = some (values[i]?.getD 0) := by
  rw [List.getElem?_eq_getElem hi]
  rfl

theorem stubSummary_describes (hvalues : values.length = grid.height.toNat * grid.width.toNat)
    (hdigits : ∀ v ∈ values, Digits 5 v) :
    (stubSummary grid threshold values).Describes grid threshold values := by
  set key : ℕ → K := fun i => values[i]?.getD 0 with hkey
  set top := (ranked key (List.range values.length)).take 5 with htop
  have hplace : ∀ i ∈ top, i < values.length := fun i hi => mem_top hi
  have hcell : ∀ i ∈ top, TopCell.place grid
      ⟨(i : ℤ) / grid.width, (i : ℤ) % grid.width, key i⟩ = i := fun i hi =>
    (cell_of_place hvalues (hplace i hi)).2.2
  have hcells : (stubSummary grid threshold values).topCells =
      top.map fun i => ⟨(i : ℤ) / grid.width, (i : ℤ) % grid.width, key i⟩ := rfl
  have horder : (List.range values.length).Pairwise (· < ·) := List.pairwise_lt_range
  constructor
  case total => rfl
  case asked => rfl
  case overThreshold => rfl
  case max => exact fun m => ranked_first
  case meanSome =>
    by_cases hne : values = [] <;> simp [stubSummary, hne]
  case mean =>
    intro m hm
    have hne : values ≠ [] := by
      rintro rfl
      cases hm
    obtain rfl : pyRound 5 (values.sum / values.length) = m := by
      simpa [stubSummary, hne] using hm
    obtain ⟨hlow, hhigh⟩ := mean_between hne hdigits
    exact ⟨hlow, hhigh, abs_pyRound_sub_le 5 _⟩
  case p95Some =>
    change (ranked id values)[(max (0 : ℤ) (pyInt _ - 1)).toNat]? = none ↔ _
    rw [p95_index, length_ranked, List.getElem?_eq_none_iff, length_ranked,
      ← List.length_eq_zero_iff]
    omega
  case p95 =>
    intro p hp
    change (ranked id values)[(max (0 : ℤ) (pyInt _ - 1)).toNat]? = some p at hp
    rw [p95_index, length_ranked] at hp
    exact ⟨(mem_ranked id).1 (List.mem_of_getElem? hp), countP_above hp, lt_countP_from hp⟩
  case topLength =>
    rw [hcells, List.length_map, htop, List.length_take, length_ranked, List.length_range]
  case topPlaced =>
    intro cell hmem
    rw [hcells] at hmem
    obtain ⟨i, hi, rfl⟩ := List.mem_map.1 hmem
    obtain ⟨hrow, hcol, -⟩ := cell_of_place hvalues (hplace i hi)
    refine ⟨hrow, hcol, ?_⟩
    rw [hcell i hi]
    exact getD_getElem (hplace i hi)
  case topOrdered =>
    rw [hcells, List.pairwise_map]
    have hsorted := (ranked_stable key horder).sublist (List.take_sublist 5 _)
    refine hsorted.imp_of_mem ?_
    intro i j hi hj hbefore
    rw [hcell i hi, hcell j hj]
    exact hbefore
  case topBest =>
    intro i v hv hout cell hmem
    rw [hcells] at hmem hout
    obtain ⟨j, hj, rfl⟩ := List.mem_map.1 hmem
    have hi : i < values.length := (List.getElem?_eq_some_iff.1 hv).1
    have hnot : i ∉ top := by
      intro htaken
      exact hout _ (List.mem_map_of_mem htaken) (hcell i htaken)
    have hvalue : key i = v := by
      rw [hkey]
      simp only [hv, Option.getD_some]
    rw [hcell j hj, ← hvalue]
    exact ranked_beats horder hj (List.mem_range.2 hi) hnot

theorem length_stubValues (seed : ℕ) (grid : GridSpec K) :
    (stubValues seed grid).length = grid.height.toNat * grid.width.toNat := by
  simp [stubValues]

theorem mem_stubValues {seed : ℕ} {v : K} (h : v ∈ stubValues seed grid) :
    ∃ row col, v = stubValue seed grid row col := by
  obtain ⟨row, -, hrow⟩ := List.mem_flatMap.1 h
  obtain ⟨col, -, rfl⟩ := List.mem_map.1 hrow
  exact ⟨row, col, rfl⟩

theorem stubValue_digits (seed : ℕ) (grid : GridSpec K) (row col : ℕ) :
    Digits 5 (stubValue seed grid row col) := pyRound_digits 5 _

/-- The clamp holds after the rounding too. -/
theorem stubValue_unit (seed : ℕ) (grid : GridSpec K) (row col : ℕ) :
    0 ≤ stubValue seed grid row col ∧ stubValue seed grid row col ≤ 1 := by
  constructor
  · exact le_pyRound_of_digits ⟨0, by simp⟩ (le_max_left _ _)
  · exact pyRound_le_of_digits ⟨10 ^ 5, by norm_num⟩ (max_le zero_le_one (min_le_left _ _))

end

section
variable {K : Type} [Field K] [LinearOrder K] [IsStrictOrderedRing K] [FloorRing K] [MathLib K]

/-- Whatever the request, the summary of the stub says what is so of the grid that it made up, and
the prediction tells that it is made up. -/
theorem stub_tells_truth (digest : String → ℕ) (newId : String) (request : PredictionRequest K)
    (threshold : Option K) :
    ∃ grid values, (stubPrediction digest newId request threshold).grid = some grid ∧
      (∀ given, request.grid = some given → grid = given) ∧
      (stubPrediction digest newId request threshold).outputs = [⟨"risk", values⟩] ∧
      (stubPrediction digest newId request threshold).shape = [grid.height, grid.width] ∧
      values.length = grid.height.toNat * grid.width.toNat ∧
      (∀ v ∈ values, 0 ≤ v ∧ v ≤ 1) ∧
      (stubPrediction digest newId request threshold).summary.Describes grid
        (threshold.getD (1 / 2)) values ∧
      ¬ (stubPrediction digest newId request threshold).Genuine ∧
      (stubPrediction digest newId request threshold).warnings = [stubNotice] := by
  set grid := request.grid.getD ⟨32, 32, some "EPSG:5179", none⟩ with hgrid
  set values := stubValues (stubSeed digest request) grid with hvalues
  have hlength : values.length = grid.height.toNat * grid.width.toNat := length_stubValues _ _
  refine ⟨grid, values, rfl, ?_, rfl, rfl, hlength, ?_, ?_, ?_, rfl⟩
  · intro given hgiven
    rw [hgrid, hgiven]
    rfl
  · intro v hv
    obtain ⟨row, col, rfl⟩ := mem_stubValues hv
    exact stubValue_unit _ _ _ _
  · apply stubSummary_describes hlength
    intro v hv
    obtain ⟨row, col, rfl⟩ := mem_stubValues hv
    exact stubValue_digits _ _ _ _
  · exact fun h => h.1 rfl

/-- The stub asked for the flood on six cells. -/
def sixCells : PredictionRequest ℝ where
  recipe := .floodExtent
  regionCode := some "47750"
  hazard := some "flood"
  horizonMinutes := some 30
  grid := some ⟨2, 3, none, none⟩
  horizon_ok := givenHorizon_ok (by decide)

theorem stub_tells_truth_six : ∃ values : List ℝ, values.length = 6 ∧
    (stubPrediction (fun _ => 7) "p" sixCells none).outputs = [⟨"risk", values⟩] ∧
    (stubPrediction (fun _ => 7) "p" sixCells none).summary.Describes ⟨2, 3, none, none⟩ (1 / 2)
      values := by
  obtain ⟨grid, values, -, hgiven, houtputs, -, hlength, -, hdescribes, -⟩ :=
    stub_tells_truth (fun _ => 7) "p" sixCells none
  obtain rfl := hgiven _ rfl
  exact ⟨values, hlength, houtputs, hdescribes⟩

section Planner
variable {field field' : HazardField K} {graph : RoadGraph K} {profile : ModeProfile K}
variable {policy : HazardPolicy K} {goal start : NodeId K}

/-- Two hazard fields that answer the planner's two questions alike. -/
structure HazardField.Alike (field field' : HazardField K) : Prop where
  reports : ∀ lat lon, field.blockedByFieldReport lat lon = field'.blockedByFieldReport lat lon
  risks : ∀ lat lon elapsedS, field.riskAt lat lon elapsedS = field'.riskAt lat lon elapsedS

theorem HazardField.alike_of_eq (hslices : field.slices = field'.slices)
    (hblocked : field.blocked = field'.blocked) : field.Alike field' := by
  constructor
  · intro lat lon
    rw [HazardField.blockedByFieldReport, HazardField.blockedByFieldReport, hblocked]
  · intro lat lon elapsedS
    rw [HazardField.riskAt, HazardField.riskAt, HazardField.consulted, HazardField.consulted,
      HazardField.horizons, HazardField.horizons, hslices]

theorem relaxEdge_congr (h : field.Alike field') (arrival : K) (node : NodeId K) :
    relaxEdge profile field policy arrival node = relaxEdge profile field' policy arrival node := by
  funext st edge
  simp only [relaxEdge, h.reports, h.risks]

theorem searchRound_congr (h : field.Alike field') (departAfterS maxDurationS : K)
    (st : SearchState K) :
    searchRound graph profile field policy goal departAfterS maxDurationS st =
      searchRound graph profile field' policy goal departAfterS maxDurationS st := by
  simp only [searchRound, relaxEdge_congr h]

theorem search_congr (h : field.Alike field') (departAfterS maxDurationS : K) (fuel : ℕ)
    (st : SearchState K) :
    search graph profile field policy goal departAfterS maxDurationS fuel st =
      search graph profile field' policy goal departAfterS maxDurationS fuel st := by
  induction fuel generalizing st with
  | zero => rfl
  | succ fuel ih => simp only [search, searchRound_congr h, ih]

theorem measurePath_congr (h : field.Alike field') (speed : K) (path : List (NodeId K))
    (distance elapsed : K) :
    measurePath graph field speed path distance elapsed =
      measurePath graph field' speed path distance elapsed := by
  induction path generalizing distance elapsed with
  | nil => rfl
  | cons a path ih =>
    cases path with
    | nil => rfl
    | cons b path => simp only [measurePath, h.risks, ih]

theorem buildResult_congr (h : field.Alike field') (fuel : ℕ)
    (previous : NodeId K → Option (NodeId K)) (durationS : K) (avoided : ℕ)
    (blockedHits : List (BlockedPoint K)) (explored : ℕ) (speed : K) :
    buildResult graph field fuel previous start goal durationS avoided blockedHits explored speed =
      buildResult graph field' fuel previous start goal durationS avoided blockedHits explored
        speed := by
  simp only [buildResult, h.risks, measurePath_congr h]

theorem routeBetween_congr (h : field.Alike field') (fuel : ℕ) (departAfterS maxDurationS : K) :
    routeBetween fuel graph profile field policy start goal departAfterS maxDurationS =
      routeBetween fuel graph profile field' policy start goal departAfterS maxDurationS := by
  simp only [routeBetween, search_congr h, buildResult_congr h]

/-- The planner asks of a hazard field only where it is closed and how risky it is. -/
theorem planRoute_congr (h : field.Alike field') (fuel : ℕ) (origin destination : K × K)
    (departAfterS maxDurationS snapDistanceM : K) :
    planRoute fuel graph profile field policy origin destination departAfterS maxDurationS
        snapDistanceM =
      planRoute fuel graph profile field' policy origin destination departAfterS maxDurationS
        snapDistanceM := by
  simp only [planRoute, h.reports, h.risks, routeBetween_congr h]

theorem routeLeg_congr (h : field.Alike field') (fuel : ℕ) (payload : RouteRequest K)
    (origin : RouteOrigin K) :
    routeLeg fuel graph payload origin field = routeLeg fuel graph payload origin field' := by
  funext candidate
  simp only [routeLeg, planRoute_congr h]

end Planner

end

section
variable {K : Type} [Field K] [LinearOrder K] [IsStrictOrderedRing K] [FloorRing K] [MathLib K]
variable {digest : String → ℕ} {newId : PredictionRequest K → String} {recipe : Recipe}
variable {hazard : String} {regionCode : Option String} {bbox : Bbox K} {horizon : ℤ}

theorem readResult_stub (digest : String → ℕ) (newId : String) (threshold : Option K)
    (hazard : String) (bbox : Bbox K) (horizon : ℤ) {request : PredictionRequest K}
    (hgrid : request.grid = none) :
    ∃ slice, readResult hazard bbox horizon
      (stubPrediction digest newId request threshold).toPredictionResult = (true, .ok slice) := by
  have hname : ¬ ("risk" = "logits" ∨ "risk".endsWith "_logits") := by decide +kernel
  have hlength : ((stubValues (stubSeed digest request)
      (⟨32, 32, some "EPSG:5179", none⟩ : GridSpec K)).length : ℤ) = 32 * 32 := by
    rw [length_stubValues]
    rfl
  simp only [readResult, stubPrediction, hgrid, Option.getD_none, readGrid, gridBbox,
    toProbability, hname, ↓reduceIte, hazardChannel, List.find?_nil, Option.map_none, sliceFromGrid,
    pickChannel, hlength, ne_eq, not_true_eq_false, Except.mapError]
  exact ⟨_, rfl⟩

/-- What has been read of the stub's answers. -/
structure Reading.FromStub (reading : Reading K) (done : List ℤ) : Prop where
  warnings : reading.warnings = []
  none : done = [] → reading.slices = [] ∧ reading.accepted = none ∧
    reading.assumedGeoreference = false
  some : done ≠ [] → reading.slices ≠ [] ∧ reading.assumedGeoreference = true ∧
    ∃ last, reading.accepted = some last ∧ last.featureMode = .synthetic ∧ last.isStub = true

theorem readHorizon_stub (hhorizon : 0 ≤ horizon ∧ horizon ≤ 72 * 60) {done : List ℤ}
    {acc : Reading K} (h : acc.FromStub done) :
    Ends (fun _ => False) (fun next => next.FromStub (done ++ [horizon]))
      (readHorizon (stubPredictor digest newId) recipe hazard regionCode bbox acc horizon) := by
  have hrequest : ∃ request, predictionRequest recipe hazard regionCode bbox horizon = .ok request ∧
      request.grid = none := by
    rw [predictionRequest, dif_pos hhorizon]
    exact ⟨_, rfl, rfl⟩
  obtain ⟨request, hrequest, hgrid⟩ := hrequest
  obtain ⟨slice, hslice⟩ := readResult_stub digest (newId request) none hazard bbox horizon hgrid
  rw [readHorizon, hrequest, ok_bind]
  simp only [stubPredictor, Reading.add, hslice, Bool.or_true]
  constructor
  · exact h.warnings
  · intro hdone
    simp at hdone
  · intro _
    exact ⟨by simp, rfl, _, rfl, rfl, rfl⟩

theorem Reading.field_closed (reading : Reading K) (hazard : String) (hslices : reading.slices ≠ [])
    (hgate : isSynthetic reading.accepted = true) :
    ∃ field, reading.field hazard = (field, reading.accepted,
        (if reading.assumedGeoreference then reading.warnings ++ [.assumedGeoreference]
          else reading.warnings) ++ [.syntheticInput (reading.accepted.map (·.featureMode))]) ∧
      field.slices = [] ∧ field.blocked = [] := by
  refine ⟨.build [] [] (some hazard) (reading.accepted.map (·.model))
    (reading.accepted.map (·.featureMode.value)) ((reading.accepted.map (·.isStub)).getD false),
    ?_, rfl, rfl⟩
  simp [Reading.field, hslices, hgate]

theorem Reading.field_empty (reading : Reading K) (hazard : String)
    (hslices : reading.slices = []) :
    ∃ field, reading.field hazard = (field, reading.accepted,
        if reading.assumedGeoreference then reading.warnings ++ [.assumedGeoreference]
        else reading.warnings) ∧
      field.slices = [] ∧ field.blocked = [] := by
  refine ⟨.build [] [] (some hazard) (reading.accepted.map (·.model))
    (reading.accepted.map (·.featureMode.value)) ((reading.accepted.map (·.isStub)).getD false),
    ?_, rfl, rfl⟩
  simp [Reading.field, hslices]

/-- What a plan warns of where the stub answers. -/
def stubWarnings (hazard : String) (horizons : List ℤ) : List Warning :=
  if recipeForHazard hazard = none then [.noModel hazard]
  else if horizons = [] then []
  else [.assumedGeoreference, .syntheticInput (some .synthetic)]

theorem hazardField_stub (digest : String → ℕ) (newId : PredictionRequest K → String)
    (hazard : String) (lat lon : K) (regionCode : Option String) {horizons : List ℤ}
    (hhorizons : ∀ horizon ∈ horizons, 0 ≤ horizon ∧ horizon ≤ 72 * 60) :
    ∃ field accepted, hazardField (stubPredictor digest newId) hazard lat lon horizons regionCode =
        .ok (field, accepted, stubWarnings hazard horizons) ∧
      field.slices = [] ∧ field.blocked = [] ∧ ∀ last ∈ accepted, last.isStub = true := by
  rw [hazardField, stubWarnings]
  cases hrecipe : recipeForHazard hazard with
  | none => exact ⟨.build, none, rfl, rfl, rfl, by simp⟩
  | some recipe =>
    have hread : Ends (fun _ => False) (Reading.FromStub · (sortedSet horizons))
        ((sortedSet horizons).foldlM (readHorizon (stubPredictor digest newId) recipe hazard
          regionCode (bboxAround lat lon predictionRadiusM)) {}) := by
      refine Ends.foldlM (R := fun done reading => Reading.FromStub reading done) ?_ ?_
      · exact ⟨rfl, fun _ => ⟨rfl, rfl, rfl⟩, fun h => absurd rfl h⟩
      · intro done horizon reading hmem hreading
        exact readHorizon_stub (hhorizons horizon (mem_sortedSet.1 hmem)) hreading
    obtain ⟨reading, hok, hreading⟩ := hread.exists_ok
    simp only [hok, ok_bind, reduceCtorEq, ↓reduceIte]
    have hempty : sortedSet horizons = [] ↔ horizons = [] := by
      rw [List.eq_nil_iff_forall_not_mem, List.eq_nil_iff_forall_not_mem]
      simp only [mem_sortedSet]
    by_cases hnone : horizons = []
    · obtain ⟨hslices, haccepted, hassumed⟩ := hreading.none (hempty.2 hnone)
      obtain ⟨field, hfield, hempty⟩ := reading.field_empty hazard hslices
      rw [hassumed, if_neg Bool.false_ne_true, hreading.warnings, haccepted] at hfield
      rw [hfield, if_pos hnone]
      exact ⟨field, none, rfl, hempty.1, hempty.2, by simp⟩
    · obtain ⟨hslices, hassumed, last, haccepted, hmode, hstub⟩ :=
        hreading.some fun h => hnone (hempty.1 h)
      have hgate : isSynthetic reading.accepted = true := by
        simp [isSynthetic, haccepted, hmode]
      obtain ⟨field, hfield, hempty⟩ := reading.field_closed hazard hslices hgate
      rw [if_pos hassumed, hreading.warnings, haccepted, Option.map_some, hmode] at hfield
      rw [hfield, if_neg hnone]
      exact ⟨field, some last, rfl, hempty.1, hempty.2, by simpa using hstub⟩

end

section
variable {K : Type} [Field K] [LinearOrder K] [IsStrictOrderedRing K] [FloorRing K]

/-- Two plans that guide alike: all but what they say of the prediction is the same. -/
structure RoutePlan.GuidesAlike (plan plan' : RoutePlan K) : Prop where
  origin : plan.origin = plan'.origin
  hazard : plan.hazard = plan'.hazard
  mode : plan.mode = plan'.mode
  routes : plan.routes = plan'.routes
  recommended : plan.recommended = plan'.recommended
  guidance : plan.shelterGuidanceAvailable = plan'.shelterGuidanceAvailable
  limitation : plan.hazardLimitation = plan'.hazardLimitation
  reports : plan.fieldReportsApplied = plan'.fieldReportsApplied
  roadNetwork : plan.roadNetwork = plan'.roadNetwork

/-- The plan has used no prediction, and what it cites is a stub. Where it has routes, it says that
there is no model, or, if any horizon was asked for, that the input was made up. -/
structure RoutePlan.Unpredicted (plan : RoutePlan K) (payload : RouteRequest K) : Prop where
  unused : plan.predictionUsed = false
  horizons : plan.horizonsMinutes = []
  cited : ∀ last ∈ plan.prediction, last.isStub = true
  unmodelled : plan.routes ≠ [] → recipeForHazard payload.hazard = none →
    .noModel payload.hazard ∈ plan.warnings
  synthetic : plan.routes ≠ [] → recipeForHazard payload.hazard ≠ none →
    payload.horizonsMinutes ≠ [] → .assumedGeoreference ∈ plan.warnings ∧
      .syntheticInput (some .synthetic) ∈ plan.warnings

theorem RoutePlan.Unpredicted.of_warnings {plan : RoutePlan K} {payload : RouteRequest K}
    (hunused : plan.predictionUsed = false) (hhorizons : plan.horizonsMinutes = [])
    (hcited : ∀ last ∈ plan.prediction, last.isStub = true)
    (hwarned : ∀ warning ∈ stubWarnings payload.hazard payload.horizonsMinutes,
      warning ∈ plan.warnings) : plan.Unpredicted payload := by
  refine ⟨hunused, hhorizons, hcited, fun _ hrecipe => ?_, fun _ hrecipe hsome => ?_⟩
  · rw [stubWarnings, if_pos hrecipe] at hwarned
    exact hwarned _ (List.mem_singleton_self _)
  · rw [stubWarnings, if_neg hrecipe, if_neg hsome] at hwarned
    exact ⟨hwarned _ (by simp), hwarned _ (by simp)⟩

variable [MathLib K]

theorem requestField_stub {services : Services K} {payload : RouteRequest K}
    {digest : String → ℕ} {newId : PredictionRequest K → String}
    (hstub : services.predict = stubPredictor digest newId) (huse : payload.usePrediction = true)
    (hhorizons : ∀ horizon ∈ payload.horizonsMinutes, 0 ≤ horizon ∧ horizon ≤ 72 * 60)
    (origin : RouteOrigin K) :
    ∃ field accepted plain,
      requestField services payload origin =
        .ok (field, accepted, stubWarnings payload.hazard payload.horizonsMinutes) ∧
      requestField services { payload with usePrediction := false } origin =
        .ok (plain, none, [.predictionNotUsed]) ∧
      field.slices = [] ∧ field.slices = plain.slices ∧ field.blocked = plain.blocked ∧
      ∀ last ∈ accepted, last.isStub = true := by
  obtain ⟨predicted, accepted, hpredicted, hslices, hblocked, haccepted⟩ :=
    hazardField_stub digest newId payload.hazard origin.lat origin.lon origin.regionCode hhorizons
  rw [← hstub] at hpredicted
  simp only [requestField, huse, ↓reduceIte, hpredicted, ok_bind, Bool.false_eq_true]
  cases payload.incidentId with
  | none => exact ⟨_, _, _, rfl, rfl, hslices, hslices, hblocked, haccepted⟩
  | some incidentId => exact ⟨_, _, _, rfl, rfl, hslices, hslices, rfl, haccepted⟩

/-- A service in stub mode guides as it would without a prediction, whatever the stub makes up. -/
theorem stub_moves_no_route {fuel : ℕ} {services : Services K} {payload : RouteRequest K}
    {digest : String → ℕ} {newId : PredictionRequest K → String}
    (hstub : services.predict = stubPredictor digest newId) (huse : payload.usePrediction = true)
    (hhorizons : ∀ horizon ∈ payload.horizonsMinutes, 0 ≤ horizon ∧ horizon ≤ 72 * 60) :
    Together (fun plan plan' => plan.GuidesAlike plan' ∧ plan.Unpredicted payload)
      (planEvacuation fuel services payload)
      (planEvacuation fuel services { payload with usePrediction := false }) := by
  unfold planEvacuation
  refine (Together.refl (S := Eq) (fun _ => rfl) _).bind ?_
  rintro graph _ rfl
  refine (Together.refl (S := Eq) (fun _ => rfl) (routeOrigin services.database payload)).bind ?_
  rintro origin _ rfl
  refine (Together.refl (S := Eq) (fun _ => rfl)
    (candidateShelters services.database payload origin)).bind ?_
  rintro candidates _ rfl
  refine (Together.refl (S := Eq) (fun _ => rfl) _).bind ?_
  rintro ⟨limitation, warnings⟩ _ rfl
  dsimp only
  split
  · -- nobody to guide to: the plan ends before the predictions
    cases limitation with
    | none => rfl
    | some text =>
      refine ⟨⟨rfl, rfl, rfl, rfl, rfl, rfl, rfl, rfl, rfl⟩, rfl, rfl, ?_, ?_, ?_⟩
      · rintro _ ⟨⟩
      · exact fun h => absurd rfl h
      · exact fun h => absurd rfl h
  · obtain ⟨field, accepted, plain, hfield, hplain, hempty, hslices, hblocked, haccepted⟩ :=
      requestField_stub hstub huse hhorizons origin
    have halike := HazardField.alike_of_eq hslices hblocked
    rw [hfield, hplain, ok_bind, ok_bind, routeLeg_congr halike]
    refine (Together.refl (S := Eq) (fun _ => rfl) (candidates.mapM
      (routeLeg fuel graph payload origin plain))).bind ?_
    rintro legs _ rfl
    refine ⟨⟨rfl, rfl, rfl, rfl, rfl, rfl, rfl, congrArg List.length hblocked, rfl⟩, ?_⟩
    apply RoutePlan.Unpredicted.of_warnings
    · simp [HazardField.hasPrediction, hempty]
    · simp [HazardField.horizons, hempty]
    · exact haccepted
    · intro warning hwarning
      dsimp only
      split
      · simp [hwarning]
      · simp [hwarning]

end

/-- The long road with its shelter, while the predictions come from the stub. -/
noncomputable def stubbedRoad : Services ℝ :=
  { shelteredRoad longRoadRequest with predict := stubPredictor (fun _ => 7) fun _ => "p" }

theorem stub_moves_no_route_long_road :
    Together (fun plan plan' => plan.GuidesAlike plan' ∧ plan.Unpredicted longRoadRequest)
      (planEvacuation 4 stubbedRoad longRoadRequest)
      (planEvacuation 4 stubbedRoad { longRoadRequest with usePrediction := false }) := by
  have hhorizons : ∀ horizon ∈ longRoadRequest.horizonsMinutes,
      0 ≤ horizon ∧ horizon ≤ 72 * 60 := by
    intro horizon hhorizon
    obtain rfl : horizon = 30 := List.mem_singleton.1 hhorizon
    norm_num
  exact stub_moves_no_route rfl rfl hhorizons

end Salgil
