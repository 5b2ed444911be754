import Salgil.Geodesy
import Salgil.SpreadRounds
import Salgil.SyntheticGate

namespace Salgil
set_option autoImplicit true
set_option linter.unusedSectionVars false

/-- The rectangle that four numbers give, longitude first. -/
def cornersOf (bbox : List K) : Option (Bbox K) :=
  match bbox with
  | [west, south, east, north] => some ⟨south, west, north, east⟩
  | _ => none

def SpreadWindow.corners (window : SpreadWindow K) : Bbox K :=
  ⟨window.south, window.west, window.north, window.east⟩

/-- Where a grid says that it lies. -/
def GridSpec.corners (grid : GridSpec K) : Option (Bbox K) := grid.bbox.bind cornersOf

/-- The grid names a coordinate system that is not WGS84. -/
def GridSpec.otherCrs (grid : GridSpec K) : Bool :=
  let crs := String.ofList ((pyUpper (grid.crs.getD "")).toList.filter (· ≠ ' '))
  crs ≠ "" ∧ crs ∉ wgs84Names

/-- The values of the channel of a hazard. -/
def PredictionResult.channelValues (r : PredictionResult K) (hazard : String)
    (tensor : TensorPayload K) : List K :=
  pickChannel tensor.data (hazardChannel hazard r) r.channelCount

/-- A slice can be read: the grid is not placed in another coordinate system, and the channel of
the hazard has one value for each cell. -/
structure PredictionResult.Readable (r : PredictionResult K) (hazard : String) (grid : GridSpec K)
    (tensor : TensorPayload K) : Prop where
  wgs84 : grid.corners.isSome = true → grid.otherCrs = false
  length : ((r.channelValues hazard tensor).length : ℤ) = grid.height * grid.width

theorem pickChannel_map (f : α → β) (values : List α) (channel : Option ℤ) (channelCount : ℕ) :
    pickChannel (values.map f) channel channelCount =
      (pickChannel values channel channelCount).map f := by
  unfold pickChannel
  split
  · split
    · simp only [pySliceStep, List.length_map, everyNth_map]
    · rfl
  · rfl

section
variable {grid : GridSpec K} {window : SpreadWindow K} {assumed : Bbox K}

theorem GridSpec.otherCrs_iff : grid.otherCrs = true ↔
    String.ofList ((pyUpper (grid.crs.getD "")).toList.filter (· ≠ ' ')) ≠ "" ∧
      String.ofList ((pyUpper (grid.crs.getD "")).toList.filter (· ≠ ' ')) ∉ wgs84Names :=
  decide_eq_true_iff

theorem gridBbox_ok {placed : Bbox K × Bool} : gridBbox grid assumed = .ok placed ↔
    (grid.corners.isSome = true → grid.otherCrs = false) ∧
      placed = (grid.corners.getD assumed, grid.corners.isNone) := by
  unfold gridBbox
  split
  · next west south east north hbbox =>
    have hcorners : grid.corners = some ⟨south, west, north, east⟩ := by
      simp only [GridSpec.corners, hbbox, Option.bind_some, cornersOf]
    rw [hcorners]
    simp only
    split
    · next hother =>
      refine iff_of_false (by simp) fun h => ?_
      rw [GridSpec.otherCrs_iff.2 hother] at h
      exact absurd (h.1 rfl) (by simp)
    · next hother =>
      rw [← GridSpec.otherCrs_iff, Bool.not_eq_true] at hother
      rw [Except.ok.injEq, hother]
      exact ⟨fun h => ⟨fun _ => rfl, h.symm⟩, fun h => h.2.symm⟩
  · next hbbox =>
    have hcorners : grid.corners = none := by
      unfold GridSpec.corners
      cases hgrid : grid.bbox with
      | none => rfl
      | some bbox =>
        rw [Option.bind_some]
        unfold cornersOf
        split
        · next west south east north => exact (hbbox west south east north hgrid).elim
        · rfl
    rw [hcorners, Except.ok.injEq]
    exact ⟨fun h => ⟨nofun, h.symm⟩, fun h => h.2.symm⟩

/-- A frame lies where the slice does if the grid says where, or if both places are assumed and
the assumptions are the same. -/
theorem cornersOf_bboxOr : cornersOf (grid.bboxOr window) = some (grid.corners.getD assumed) ↔
    grid.corners.isSome = true ∨ grid.bbox.getD [] = [] ∧ window.corners = assumed := by
  have hwindow : cornersOf window.bbox = some window.corners := rfl
  unfold GridSpec.bboxOr GridSpec.corners
  cases hbbox : grid.bbox with
  | none => simp [hwindow]
  | some bbox =>
    cases bbox with
    | nil =>
      have hnil : cornersOf ([] : List K) = none := rfl
      simp [hwindow, hnil]
    | cons x bbox =>
      simp only [Option.bind_some, Option.getD_some, reduceCtorEq, false_and, or_false]
      cases cornersOf (x :: bbox) <;> simp

end

section
variable {K : Type} [Field K] [LinearOrder K] [IsStrictOrderedRing K] [FloorRing K] [MathLib K]

/-- A value as `to_probability` takes it. -/
def TensorPayload.probability (tensor : TensorPayload K) (value : K) : K :=
  if tensor.name = "logits" ∨ tensor.name.endsWith "_logits" then sigmoid value else value

/-- The frame shows the slice: the same grid in the same place, its values as binary32 numbers. -/
structure Frame.Depicts (frame : Frame K) (slice : HazardSlice K) : Prop where
  height : frame.height = slice.height
  width : frame.width = slice.width
  place : cornersOf frame.bbox = some slice.bbox
  values : List.Forall₂ (fun value cell => float32 value = some cell) slice.values frame.values

/-- A frame is made of a result just if the route service accepts it, and shows the slice. -/
structure PredictionResult.DecodedAlike (r : PredictionResult K) (hazard : String) (horizon : ℤ)
    (window : SpreadWindow K) (assumed : Bbox K) : Prop where
  together : (∃ frame, frameFromResult r window hazard = .ok (some frame)) ↔
    ∃ slice, acceptedSlice hazard assumed horizon r = some slice
  depicts : ∀ frame slice, frameFromResult r window hazard = .ok (some frame) →
    acceptedSlice hazard assumed horizon r = some slice → frame.Depicts slice

/-- The first values of the tensor, as they are, and those of the channel, as probabilities, are
the same binary32 numbers, and the place is given or assumed alike. -/
structure PredictionResult.SameCells (r : PredictionResult K) (hazard : String) (grid : GridSpec K)
    (tensor : TensorPayload K) (samePlace : Prop) : Prop where
  place : grid.corners.isSome = true ∨ grid.bbox.getD [] = [] ∧ samePlace
  cells : List.Forall₂ (fun value picked => ∃ cell, float32 value = some cell ∧
    float32 (tensor.probability picked) = some cell) r.cells (r.channelValues hazard tensor)

/-- Of a result with a grid and a tensor, either a slice can be read and its cells are the first
values of the tensor, or none can be read and no frame can be made either. -/
def PredictionResult.ReadsAlike (r : PredictionResult K) (hazard : String) (samePlace : Prop) :
    Prop :=
  ∀ grid tensor rest, r.grid = some grid → r.outputs = tensor :: rest →
    (r.Readable hazard grid tensor ∧ r.SameCells hazard grid tensor samePlace) ∨
      (¬ r.Readable hazard grid tensor ∧ ¬ (r.usableGrid = true ∧ r.packs = true))

variable {r : PredictionResult K} {hazard : String} {horizon : ℤ} {window : SpreadWindow K}
variable {assumed : Bbox K} {grid : GridSpec K} {tensor : TensorPayload K}
variable {rest : List (TensorPayload K)} {samePlace : Prop}

theorem toProbability_eq (values : List K) :
    toProbability tensor.name values = values.map tensor.probability := by
  unfold toProbability TensorPayload.probability
  split
  · rfl
  · exact (List.map_id' values).symm

theorem acceptedSlice_iff (assumed : Bbox K) (horizon : ℤ) (hgrid : r.grid = some grid)
    (houtputs : r.outputs = tensor :: rest) {slice : HazardSlice K} :
    acceptedSlice hazard assumed horizon r = some slice ↔
      r.Readable hazard grid tensor ∧ slice = ⟨horizon, grid.height, grid.width,
        grid.corners.getD assumed, (r.channelValues hazard tensor).map tensor.probability⟩ := by
  have hvalues : ∀ place slice', sliceFromGrid horizon grid.height grid.width place
      (toProbability tensor.name tensor.data) (hazardChannel hazard r) r.channelCount = .ok slice' ↔
      ((r.channelValues hazard tensor).length : ℤ) = grid.height * grid.width ∧
        slice' = ⟨horizon, grid.height, grid.width, place,
          (r.channelValues hazard tensor).map tensor.probability⟩ := by
    intro place slice'
    rw [sliceFromGrid_ok, toProbability_eq, pickChannel_map, List.length_map]
    rfl
  constructor
  · intro h
    obtain ⟨tensor', rest', grid', placed, houtputs', hgrid', hplaced, hslice⟩ :=
      acceptedSlice_eq_some h
    obtain ⟨rfl, rfl⟩ := List.cons.inj (houtputs.symm.trans houtputs')
    obtain rfl := Option.some.inj (hgrid.symm.trans hgrid')
    obtain ⟨hcrs, rfl⟩ := gridBbox_ok.1 hplaced
    obtain ⟨hlength, rfl⟩ := (hvalues _ _).1 hslice
    exact ⟨⟨hcrs, hlength⟩, rfl⟩
  · rintro ⟨⟨hcrs, hlength⟩, rfl⟩
    have hplaced : gridBbox grid assumed = .ok (grid.corners.getD assumed, grid.corners.isNone) :=
      gridBbox_ok.2 ⟨hcrs, rfl⟩
    have hslice := (hvalues (grid.corners.getD assumed) _).2 ⟨hlength, rfl⟩
    simp only [acceptedSlice, readResult, houtputs, hgrid, readGrid, hplaced, hslice]
    rfl

theorem PredictionResult.SameCells.shown (h : r.SameCells hazard grid tensor samePlace)
    (hread : r.Readable hazard grid tensor) (hgrid : r.grid = some grid)
    (houtputs : r.outputs = tensor :: rest) : r.usableGrid = true ∧ r.packs = true := by
  constructor
  · have hlength := h.cells.length_eq
    have hcells : r.cells.length ≤ tensor.data.length := by
      simp only [PredictionResult.cells, hgrid, houtputs]
      exact List.length_take_le' _ _
    have harea := hread.length
    simp only [PredictionResult.usableGrid, hgrid, houtputs, decide_eq_true_eq]
    rw [mul_comm, ← harea]
    omega
  · rw [PredictionResult.packs, List.all_eq_true]
    intro value hvalue
    obtain ⟨k, hk⟩ := List.getElem?_of_mem hvalue
    rcases forall₂_getElem? h.cells k with ⟨hnone, -⟩ | ⟨value', -, hvalue', -, cell, hcell, -⟩
    · rw [hk] at hnone
      cases hnone
    · obtain rfl : value = value' := Option.some.inj (hk.symm.trans hvalue')
      rw [hcell]
      rfl

theorem decodedAlike_of_missing
    (h : ∀ grid tensor rest, r.grid = some grid → r.outputs ≠ tensor :: rest) :
    r.DecodedAlike hazard horizon window assumed := by
  have hframe : ∀ frame, frameFromResult r window hazard ≠ .ok (some frame) := by
    intro frame hframe
    obtain ⟨husable, hof⟩ := frameFromResult_some hframe
    obtain ⟨grid, hgrid, -⟩ := hof.grid
    cases houtputs : r.outputs with
    | nil => simp [PredictionResult.usableGrid, houtputs] at husable
    | cons tensor rest => exact h grid tensor rest hgrid houtputs
  have hslice : ∀ slice, acceptedSlice hazard assumed horizon r ≠ some slice := by
    intro slice hslice
    obtain ⟨tensor, rest, grid, -, houtputs, hgrid, -⟩ := acceptedSlice_eq_some hslice
    exact h grid tensor rest hgrid houtputs
  exact ⟨iff_of_false (not_exists.2 hframe) (not_exists.2 hslice),
    fun frame slice hsome => absurd hsome (hframe frame)⟩

theorem decodedAlike_of_present (hgrid : r.grid = some grid)
    (houtputs : r.outputs = tensor :: rest) :
    r.DecodedAlike hazard horizon window assumed ↔
      (r.Readable hazard grid tensor ∧
        r.SameCells hazard grid tensor (window.corners = assumed)) ∨
      (¬ r.Readable hazard grid tensor ∧ ¬ (r.usableGrid = true ∧ r.packs = true)) := by
  have hslice : ∀ slice, acceptedSlice hazard assumed horizon r = some slice ↔
      r.Readable hazard grid tensor ∧ slice = ⟨horizon, grid.height, grid.width,
        grid.corners.getD assumed, (r.channelValues hazard tensor).map tensor.probability⟩ :=
    fun slice => acceptedSlice_iff assumed horizon hgrid houtputs
  have hof : ∀ frame, frameFromResult r window hazard = .ok (some frame) →
      frame.Of r window hazard ∧ frame.width = grid.width ∧ frame.height = grid.height ∧
        frame.bbox = grid.bboxOr window := by
    intro frame hframe
    obtain ⟨-, hof⟩ := frameFromResult_some hframe
    obtain ⟨grid', hgrid', hsize⟩ := hof.grid
    obtain rfl := Option.some.inj (hgrid.symm.trans hgrid')
    exact ⟨hof, hsize⟩
  constructor
  · rintro ⟨htogether, hdepicts⟩
    by_cases hread : r.Readable hazard grid tensor
    · left
      have hsome := (hslice _).2 ⟨hread, rfl⟩
      obtain ⟨frame, hframe⟩ := htogether.2 ⟨_, hsome⟩
      obtain ⟨hvalues, -, -, hbbox⟩ := hof frame hframe
      have hdepicts := hdepicts frame _ hframe hsome
      refine ⟨hread, cornersOf_bboxOr.1 (hbbox ▸ hdepicts.place), ?_⟩
      exact forall₂_common hvalues.values (List.forall₂_map_left_iff.1 hdepicts.values)
    · refine .inr ⟨hread, fun hshown => ?_⟩
      obtain ⟨slice, hsome⟩ := htogether.1 (exists_frame_iff.2 hshown)
      exact hread ((hslice slice).1 hsome).1
  · rintro (⟨hread, hsame⟩ | ⟨hread, hshown⟩)
    · refine ⟨iff_of_true ?_ ⟨_, (hslice _).2 ⟨hread, rfl⟩⟩, fun frame slice hframe hsome => ?_⟩
      · exact exists_frame_iff.2 (hsame.shown hread hgrid houtputs)
      · obtain ⟨-, rfl⟩ := (hslice slice).1 hsome
        obtain ⟨hvalues, hwidth, hheight, hbbox⟩ := hof frame hframe
        refine ⟨hheight, hwidth, ?_, List.forall₂_map_left_iff.2 ?_⟩
        · rw [hbbox]
          exact cornersOf_bboxOr.2 hsame.place
        · exact forall₂_of_common (fun a c c' hc hc' => Option.some.inj (hc.symm.trans hc'))
            hvalues.values hsame.cells
    · have hframe : ¬ ∃ frame, frameFromResult r window hazard = .ok (some frame) := by
        rwa [exists_frame_iff]
      refine ⟨iff_of_false hframe ?_, fun frame slice hsome => absurd ⟨frame, hsome⟩ hframe⟩
      rintro ⟨slice, hsome⟩
      exact hread ((hslice slice).1 hsome).1

theorem decodedAlike_iff_readsAlike :
    r.DecodedAlike hazard horizon window assumed ↔
      r.ReadsAlike hazard (window.corners = assumed) := by
  by_cases hpresent : ∃ grid tensor rest, r.grid = some grid ∧ r.outputs = tensor :: rest
  · obtain ⟨grid, tensor, rest, hgrid, houtputs⟩ := hpresent
    rw [decodedAlike_of_present hgrid houtputs]
    constructor
    · intro h grid' tensor' rest' hgrid' houtputs'
      obtain rfl := Option.some.inj (hgrid.symm.trans hgrid')
      obtain ⟨rfl, rfl⟩ := List.cons.inj (houtputs.symm.trans houtputs')
      exact h
    · exact fun h => h grid tensor rest hgrid houtputs
  · refine iff_of_true (decodedAlike_of_missing fun grid tensor rest hgrid houtputs => ?_)
      fun grid tensor rest hgrid houtputs => ?_
    all_goals exact absurd ⟨grid, tensor, rest, hgrid, houtputs⟩ hpresent

/-- A grid that is placed in WGS84, with one value for each cell, all of which can be packed: of one
channel only, and no logits. -/
theorem readsAlike_of_plain (hgrid : r.grid = some grid) (houtputs : r.outputs = tensor :: rest)
    (hplaced : grid.corners.isSome = true) (hcrs : grid.otherCrs = false)
    (hlength : (tensor.data.length : ℤ) = grid.height * grid.width) (hpacks : r.packs = true)
    (hchannels : r.channels.length ≤ 1)
    (hname : ¬ (tensor.name = "logits" ∨ tensor.name.endsWith "_logits" = true)) :
    r.ReadsAlike hazard samePlace := by
  intro grid' tensor' rest' hgrid' houtputs'
  obtain rfl := Option.some.inj (hgrid.symm.trans hgrid')
  obtain ⟨rfl, rfl⟩ := List.cons.inj (houtputs.symm.trans houtputs')
  have hvalues : r.channelValues hazard tensor = tensor.data := by
    have hcount : ¬ 1 < r.channelCount := by
      unfold PredictionResult.channelCount
      split <;> omega
    unfold PredictionResult.channelValues pickChannel
    split
    · exact if_neg hcount
    · rfl
  have hcells : r.cells = tensor.data := by
    simp only [PredictionResult.cells, hgrid, houtputs]
    rw [mul_comm, ← hlength, pySliceTo_natCast, List.take_length]
  refine .inl ⟨⟨fun _ => hcrs, hvalues ▸ hlength⟩, .inl hplaced, ?_⟩
  rw [PredictionResult.packs, hcells, List.all_eq_true] at hpacks
  rw [hcells, hvalues, List.forall₂_same]
  intro value hvalue
  obtain ⟨cell, hcell⟩ := Option.isSome_iff_exists.1 (hpacks value hvalue)
  refine ⟨cell, hcell, ?_⟩
  rw [TensorPayload.probability, if_neg hname, hcell]

/-- The rectangles that the two services assume are the same only for one size of the window, and
close to a pole. -/
theorem around_eq_bboxAround {lat lon sizeM lat' lon' : K} :
    (SpreadWindow.around lat lon sizeM).corners = bboxAround lat' lon' predictionRadiusM ↔
      lat' = lat ∧ lon' = lon ∧ sizeM = 12000 * (110574 / 111320) ∧
        MathLib.cos (radians lat) = 110574 / 111320 / 10 ^ 6 := by
  simp only [SpreadWindow.corners, SpreadWindow.around, bboxAround, predictionRadiusM,
    Bbox.mk.injEq]
  constructor
  · rintro ⟨hsouth, hwest, hnorth, heast⟩
    obtain rfl : lat' = lat := by linarith
    obtain rfl : lon' = lon := by linarith
    have hsize : sizeM = 12000 * (110574 / 111320) := by linarith
    have hwidth : sizeM / 2 / (111320 * MathLib.cos (radians lat')) =
        6000 / (111320 * max (MathLib.cos (radians lat')) (1 / 10 ^ 6)) := by linarith
    refine ⟨rfl, rfl, hsize, ?_⟩
    generalize MathLib.cos (radians lat') = c at hwidth
    subst hsize
    have hmax : 0 < max c (1 / 10 ^ 6) := lt_max_of_lt_right (by positivity)
    have hc : c ≠ 0 := by
      rintro rfl
      rw [mul_zero, div_zero] at hwidth
      exact absurd hwidth.symm (by positivity)
    rw [div_eq_div_iff (by positivity) (by positivity)] at hwidth
    rcases le_total c (1 / 10 ^ 6) with hle | hle
    · rw [max_eq_right hle] at hwidth
      linarith
    · -- elsewhere the two widths are in another ratio than the heights
      rw [max_eq_left hle] at hwidth
      exact absurd (by linarith) hc
  · rintro ⟨rfl, rfl, rfl, hcos⟩
    have hmax : max (110574 / 111320 / 10 ^ 6 : K) (1 / 10 ^ 6) = 1 / 10 ^ 6 :=
      max_eq_right (by norm_num)
    rw [hcos, hmax]
    norm_num

/-- A frame and a slice are decoded alike from a result, just if either a slice can be read and the
first values of the tensor are the probabilities of the channel, or neither can be made. -/
theorem decoded_alike_iff (r : PredictionResult K) (hazard : String) (horizon : ℤ)
    (lat lon sizeM lat' lon' : K) :
    r.DecodedAlike hazard horizon (.around lat lon sizeM) (bboxAround lat' lon' predictionRadiusM) ↔
      r.ReadsAlike hazard (lat' = lat ∧ lon' = lon ∧ sizeM = 12000 * (110574 / 111320) ∧
        MathLib.cos (radians lat) = 110574 / 111320 / 10 ^ 6) := by
  rw [decodedAlike_iff_readsAlike, around_eq_bboxAround]

end

/-- A probability in one cell is shown as it is read. -/
theorem probability_shown :
    (oneCell ⟨36, 129, 37, 130⟩ 1 .real).DecodedAlike "wildfire" 30 (.around 36 129 12000)
      (bboxAround 36 129 predictionRadiusM) := by
  refine (decoded_alike_iff _ "wildfire" 30 36 129 12000 36 129).2 ?_
  refine readsAlike_of_plain rfl rfl rfl ?_ rfl ?_ (Nat.zero_le 1) (by decide +kernel)
  · simp only [GridSpec.otherCrs, Option.getD_some]
    decide +kernel
  · simp [PredictionResult.packs, PredictionResult.cells, oneCell, pySliceTo, float32_one]

/-- A prediction of one cell, as a logit. -/
noncomputable def logitCell : PredictionResult ℝ where
  predictionId := "p"
  recipe := .wildfireSpread
  model := { name := "wildfire_spread" }
  grid := some ⟨1, 1, some "EPSG:4326", some [129, 36, 130, 37]⟩
  outputs := [⟨"logits", [0]⟩]
  featureMode := .real

/-- The map shows 0 where the route service reads the probability 1 / 2, and closes the road. -/
theorem logit_shown_raw :
    (∃ frame slice,
      frameFromResult logitCell (.around 36 129 12000) "wildfire" = .ok (some frame) ∧
      acceptedSlice "wildfire" (bboxAround 36 129 predictionRadiusM) 30 logitCell = some slice ∧
      frame.values = [0] ∧ slice.values = [1 / 2]) ∧
    ¬ logitCell.DecodedAlike "wildfire" 30 (.around 36 129 12000)
      (bboxAround 36 129 predictionRadiusM) := by
  have hlogits : TensorPayload.probability (K := ℝ) ⟨"logits", [0]⟩ 0 = 1 / 2 := by
    have hsigmoid : sigmoid (0 : ℝ) = 1 / (1 + Real.exp (-0)) := by
      rw [sigmoid, if_neg (by norm_num), if_neg (by norm_num)]
      rfl
    rw [TensorPayload.probability, if_pos (.inl rfl), hsigmoid, neg_zero, Real.exp_zero]
    norm_num
  have hvalues : logitCell.channelValues "wildfire" ⟨"logits", [0]⟩ = [0] := by
    simp [PredictionResult.channelValues, pickChannel, hazardChannel, logitCell]
  have hread : logitCell.Readable "wildfire" ⟨1, 1, some "EPSG:4326", some [129, 36, 130, 37]⟩
      ⟨"logits", [0]⟩ := by
    refine ⟨fun _ => ?_, by rw [hvalues]; rfl⟩
    simp only [GridSpec.otherCrs, Option.getD_some]
    decide +kernel
  have hslice := (acceptedSlice_iff (bboxAround 36 129 predictionRadiusM) 30 rfl rfl).2 ⟨hread, rfl⟩
  have hframe : ∃ frame, frameFromResult logitCell (.around 36 129 12000) "wildfire" =
      .ok (some frame) ∧ frame.values = [0] := by
    simp [frameFromResult, logitCell, pySliceTo, encodeValues, packFloat, float32_zero]
  rw [hvalues, List.map_singleton, hlogits] at hslice
  obtain ⟨frame, hframe, hzero⟩ := hframe
  refine ⟨⟨frame, _, hframe, hslice, hzero, rfl⟩, fun h => ?_⟩
  have hcells := (h.depicts frame _ hframe hslice).values
  rw [hzero] at hcells
  cases hcells with
  | cons hcell hcells =>
    rw [float32_half] at hcell
    norm_num at hcell

end Salgil
