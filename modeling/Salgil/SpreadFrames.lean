import Salgil.Geodesy
import Salgil.GuardedRun
import Salgil.SpreadRounds

namespace Salgil
set_option autoImplicit true
set_option linter.unusedSectionVars false

def SpreadEvent.frame? (event : SpreadEvent K) : Option (Frame K) :=
  match event.data with
  | .frame frame => some frame
  | .complete _ _ _ => none

section
variable {K : Type u} [Field K] [LinearOrder K] [IsStrictOrderedRing K] [FloorRing K] [MathLib K]

/-- The frames that the loop publishes, each with the horizon that it is for. -/
def spreadFrames (mode : String) (call : SpreadCall K) (recipe : Recipe) :
    SpreadState K → List (SpreadRound K) → List (ℤ × Frame K)
  | _, [] => []
  | state, round :: rounds =>
    match spreadRound mode call recipe state round with
    | (state', none) =>
      ((state'.published.drop state.published.length).filterMap (·.frame?)).map (round.1, ·) ++
        spreadFrames mode call recipe state' rounds
    | (_, some _) => []

variable {call : SpreadCall K} {recipe : Recipe} {committed : List (PredictionRun K)}
variable {done rounds : List (SpreadRound K)} {round : SpreadRound K} {state : SpreadState K}
variable {mode : String}

/-- No round of the rest raises an error. -/
def SpreadCall.NoneHalts (call : SpreadCall K) (recipe : Recipe)
    (committed : List (PredictionRun K)) : List (SpreadRound K) → List (SpreadRound K) → Prop :=
  AllAllowed (fun done round => done ++ [round])
    fun done round => ¬ call.Halts recipe committed done round

theorem SpreadCall.DrawsNew.tail
    (h : call.DrawsNew recipe committed (done ++ round :: rounds)) :
    call.DrawsNew recipe committed (done ++ [round]) ∧
      call.DrawsNew recipe committed ((done ++ [round]) ++ rounds) := by
  have hrest : call.DrawsNew recipe committed ((done ++ [round]) ++ rounds) := by simpa using h
  exact ⟨hrest.left, hrest⟩

namespace SpreadCall

theorem Shows.unique {frame frame' : Frame K} (h : call.Shows recipe committed done round frame)
    (h' : call.Shows recipe committed done round frame') : frame = frame' := by
  obtain ⟨r, hr, -, hframe⟩ := h
  obtain ⟨r', hr', -, hframe'⟩ := h'
  obtain rfl : r = r' := Option.some.inj (hr.symm.trans hr')
  simpa using hframe.symm.trans hframe'

theorem Shows.not_halts {frame : Frame K} (h : call.Shows recipe committed done round frame) :
    ¬ call.Halts recipe committed done round := by
  obtain ⟨r, hr, -, hframe⟩ := h
  rw [halts_iff hr]
  rintro ⟨-, -, hpacks⟩
  rw [(exists_frame_iff.1 ⟨frame, hframe⟩).2] at hpacks
  cases hpacks

end SpreadCall

/-- The loop publishes its frames one after the other, and ends well if no round raises. -/
theorem spreadLoop_spec (mode : String) (state : SpreadState K) (hcall : call.IncidentReadable)
    (hheld : call.Held recipe committed done state.store)
    (hdraws : call.DrawsNew recipe committed (done ++ rounds)) :
    ((spreadLoop mode call recipe state rounds).2 = none ↔
      call.NoneHalts recipe committed done rounds) ∧
    (spreadLoop mode call recipe state rounds).1.published = state.published ++
      (spreadFrames mode call recipe state rounds).map
        (fun x => ⟨.frame x.2, call.incidentId⟩) := by
  induction rounds generalizing done state with
  | nil => exact ⟨iff_of_true rfl allAllowed_nil, by simp [spreadLoop, spreadFrames]⟩
  | cons round rounds ih =>
    obtain ⟨hround, hrest⟩ := hdraws.tail
    have hends := spreadRound_ends mode hcall hheld hround
    rw [SpreadCall.NoneHalts, allAllowed_cons, spreadLoop, spreadFrames]
    generalize spreadRound mode call recipe state round = out at hends
    cases hends with
    | halted state' raised hhalts hpublished =>
      refine ⟨iff_of_false (by simp) fun h => h.1 hhalts, ?_⟩
      simp [hpublished]
    | shown state' frame hhalts hshows hheld' hpublished hsent =>
      obtain ⟨hnone, hframes⟩ := ih state' hheld' hrest
      refine ⟨?_, ?_⟩
      · simp only [hnone]
        exact (and_iff_right hhalts).symm
      · simp only [hframes, hpublished, List.drop_left]
        simp [SpreadEvent.frame?]
    | silent state' hhalts hshows hheld' hpublished hsent =>
      obtain ⟨hnone, hframes⟩ := ih state' hheld' hrest
      refine ⟨?_, ?_⟩
      · simp only [hnone]
        exact (and_iff_right hhalts).symm
      · simp only [hframes, hpublished, List.drop_length]
        simp

theorem mem_spreadFrames (mode : String) (hcall : call.IncidentReadable)
    (hheld : call.Held recipe committed done state.store)
    (hdraws : call.DrawsNew recipe committed (done ++ rounds)) {horizon : ℤ} {frame : Frame K} :
    (horizon, frame) ∈ spreadFrames mode call recipe state rounds ↔
      ∃ before round after, rounds = before ++ round :: after ∧ horizon = round.1 ∧
        call.NoneHalts recipe committed done before ∧
        call.Shows recipe committed (done ++ before) round frame := by
  induction rounds generalizing done state with
  | nil => simp [spreadFrames]
  | cons round rounds ih =>
    obtain ⟨hround, hrest⟩ := hdraws.tail
    have hends := spreadRound_ends mode hcall hheld hround
    -- the round itself comes first, or one of the rest does
    have hsplit : (∃ before x after, round :: rounds = before ++ x :: after ∧ horizon = x.1 ∧
        call.NoneHalts recipe committed done before ∧
        call.Shows recipe committed (done ++ before) x frame) ↔
        (horizon = round.1 ∧ call.Shows recipe committed done round frame) ∨
        ¬ call.Halts recipe committed done round ∧
          ∃ before x after, rounds = before ++ x :: after ∧ horizon = x.1 ∧
            call.NoneHalts recipe committed (done ++ [round]) before ∧
            call.Shows recipe committed ((done ++ [round]) ++ before) x frame := by
      constructor
      · rintro ⟨before, x, after, hrounds, hhorizon, hnone, hshows⟩
        cases before with
        | nil =>
          obtain ⟨rfl, -⟩ := List.cons.inj hrounds
          exact .inl ⟨hhorizon, by simpa using hshows⟩
        | cons y before =>
          obtain ⟨rfl, rfl⟩ := List.cons.inj hrounds
          obtain ⟨hhalts, hnone⟩ := allAllowed_cons.1 hnone
          exact .inr ⟨hhalts, before, x, after, rfl, hhorizon, hnone, by simpa using hshows⟩
      · rintro (⟨hhorizon, hshows⟩ | ⟨hhalts, before, x, after, rfl, hhorizon, hnone, hshows⟩)
        · exact ⟨[], round, rounds, rfl, hhorizon, allAllowed_nil, by simpa using hshows⟩
        · exact ⟨round :: before, x, after, rfl, hhorizon, allAllowed_cons.2 ⟨hhalts, hnone⟩,
            by simpa using hshows⟩
    rw [hsplit, spreadFrames]
    generalize spreadRound mode call recipe state round = out at hends
    cases hends with
    | halted state' raised hhalts hpublished =>
      refine iff_of_false List.not_mem_nil ?_
      rintro (⟨-, hshows⟩ | ⟨hnot, -⟩)
      · exact hshows.not_halts hhalts
      · exact hnot hhalts
    | shown state' shown hhalts hshows hheld' hpublished hsent =>
      have hframe : call.Shows recipe committed done round frame ↔ frame = shown :=
        ⟨fun h => h.unique hshows, fun h => h ▸ hshows⟩
      simp only [hpublished, List.drop_left, List.mem_append, ih hheld' hrest, hframe, hhalts,
        not_false_eq_true, true_and]
      simp [SpreadEvent.frame?]
    | silent state' hhalts hshows hheld' hpublished hsent =>
      simp only [hpublished, List.drop_length]
      rw [List.filterMap_nil, List.map_nil, List.nil_append, ih hheld' hrest]
      simp [hshows, hhalts]

namespace SpreadCall

/-- A run over these rounds shows this result for a horizon: nothing before it raises an error, the
rows up to it could be stored, and its grid can be packed. -/
def Delivers (call : SpreadCall K) (recipe : Recipe) (committed : List (PredictionRun K))
    (rounds : List (SpreadRound K)) (horizon : ℤ) (r : PredictionResult K) : Prop :=
  ∃ before round after, rounds = before ++ round :: after ∧ horizon = round.1 ∧
    call.NoneHalts recipe committed [] before ∧ call.resultOf recipe round = some r ∧
    call.Clean recipe committed (before ++ [round]) ∧ r.usableGrid = true ∧ r.packs = true

/-- The frames of a run from rows that are committed. -/
def frames (call : SpreadCall K) (mode : String) (recipe : Recipe)
    (committed : List (PredictionRun K)) (rounds : List (SpreadRound K)) : List (ℤ × Frame K) :=
  spreadFrames mode call recipe { store := { committed := committed } } rounds

theorem mem_frames (mode : String) (hcall : call.IncidentReadable)
    (hdraws : call.DrawsNew recipe committed rounds) {horizon : ℤ} {frame : Frame K} :
    (horizon, frame) ∈ call.frames mode recipe committed rounds ↔
      ∃ r, call.Delivers recipe committed rounds horizon r ∧
        frameFromResult r call.window call.hazard = .ok (some frame) := by
  rw [frames, mem_spreadFrames mode hcall Held.nil (by simpa using hdraws)]
  constructor
  · rintro ⟨before, round, after, hrounds, hhorizon, hnone, r, hr, hclean, hframe⟩
    obtain ⟨husable, hpacks⟩ := exists_frame_iff.1 ⟨frame, hframe⟩
    exact ⟨r, ⟨before, round, after, hrounds, hhorizon, hnone, hr, hclean, husable, hpacks⟩, hframe⟩
  · rintro ⟨r, ⟨before, round, after, hrounds, hhorizon, hnone, hr, hclean, -, -⟩, hframe⟩
    exact ⟨before, round, after, hrounds, hhorizon, hnone, r, hr, hclean, hframe⟩

theorem runSpread_published (mode : String) (hrecipe : recipeForHazard call.hazard = some recipe)
    (hcall : call.IncidentReadable) (hdraws : call.DrawsNew recipe committed rounds) :
    ∃ sent, (call.NoneHalts recipe committed [] rounds ∧
        (runSpread mode call { committed := committed } rounds).1.published =
          (call.frames mode recipe committed rounds).map
            (fun x => ⟨.frame x.2, call.incidentId⟩) ++
          [⟨.complete call.hazard sent (rounds.map (·.1)), call.incidentId⟩]) ∨
      ¬ call.NoneHalts recipe committed [] rounds ∧
        (runSpread mode call { committed := committed } rounds).1.published =
          (call.frames mode recipe committed rounds).map
            (fun x => ⟨.frame x.2, call.incidentId⟩) := by
  have hdraws' : call.DrawsNew recipe committed ([] ++ rounds) := by simpa using hdraws
  obtain ⟨hnone, hpublished⟩ := spreadLoop_spec mode
    { store := { committed := committed } } hcall Held.nil hdraws'
  rw [List.nil_append] at hpublished
  have hok : Predictions.recipeForHazard call.hazard = .ok recipe := by
    rw [Predictions.recipeForHazard, hrecipe]
  simp only [runSpread, hok]
  generalize spreadLoop mode call recipe { store := { committed := committed } } rounds = out
    at hnone hpublished
  obtain ⟨state, raised⟩ := out
  refine ⟨state.sent, ?_⟩
  cases raised with
  | none =>
    refine .inl ⟨hnone.1 rfl, ?_⟩
    simp only at hpublished
    simp only [hpublished, frames]
  | some raised =>
    refine .inr ⟨fun h => ?_, hpublished⟩
    have := hnone.2 h
    cases this

theorem filterMap_published (mode : String) (hrecipe : recipeForHazard call.hazard = some recipe)
    (hcall : call.IncidentReadable) (hdraws : call.DrawsNew recipe committed rounds) :
    (runSpread mode call { committed := committed } rounds).1.published.filterMap (·.frame?) =
      (call.frames mode recipe committed rounds).map (·.2) := by
  have hframes : ((call.frames mode recipe committed rounds).map
      (fun x => (⟨.frame x.2, call.incidentId⟩ : SpreadEvent K))).filterMap (·.frame?) =
      (call.frames mode recipe committed rounds).map (·.2) := by
    rw [List.filterMap_map, ← List.filterMap_eq_map]
    rfl
  obtain ⟨sent, ⟨-, hpublished⟩ | ⟨-, hpublished⟩⟩ :=
    runSpread_published mode hrecipe hcall hdraws
  · rw [hpublished, List.filterMap_append, hframes]
    simp [SpreadEvent.frame?]
  · rw [hpublished, hframes]

end SpreadCall

theorem SpreadRequest.incidentReadable (payload : SpreadRequest K) :
    payload.call.IncidentReadable := by
  intro text htext
  obtain ⟨value, -, rfl⟩ := Option.map_eq_some_iff.1 htext
  exact isUuid_iff.2 ⟨value, pyUuid_uuidText value⟩

/-- Two frames that can be laid over one another. -/
def Frame.SameGrid (x y : Frame K) : Prop :=
  x.width = y.width ∧ x.height = y.height ∧ x.bbox = y.bbox

/-- No cell of a frame is below the same cell in a frame for an earlier horizon: it is the greatest
of the values up to its horizon. -/
structure NeverUnburns (frames : List (ℤ × Frame K)) : Prop where
  rises : ∀ x ∈ frames, ∀ y ∈ frames, x.1 < y.1 → x.2.SameGrid y.2 →
    ∀ (k : ℕ) (a b : K), x.2.values[k]? = some a → y.2.values[k]? = some b → a ≤ b
  carriesMax : ∀ y ∈ frames, ∀ (k : ℕ) (b : K), y.2.values[k]? = some b →
    IsGreatest {a | ∃ x ∈ frames, (x.1 < y.1 ∧ x.2.SameGrid y.2 ∨ x = y) ∧
      x.2.values[k]? = some a} b

/-- Two results whose frames lie on the same grid. -/
def PredictionResult.SameGrid (r r' : PredictionResult K) (window : SpreadWindow K) : Prop :=
  ∃ grid grid', r.grid = some grid ∧ r'.grid = some grid' ∧ grid.width = grid'.width ∧
    grid.height = grid'.height ∧ grid.bboxOr window = grid'.bboxOr window

/-- Of the results that a run shows, the values themselves do not fall from a horizon to a later
one, as far as binary32 can tell. -/
def SpreadCall.ResultsRise (call : SpreadCall K) (recipe : Recipe)
    (committed : List (PredictionRun K)) (rounds : List (SpreadRound K)) : Prop :=
  ∀ h r h' r', call.Delivers recipe committed rounds h r →
    call.Delivers recipe committed rounds h' r' → h < h' → r.SameGrid r' call.window →
    ∀ (k : ℕ) (v v' a b : K), r.cells[k]? = some v → r'.cells[k]? = some v' → float32 v = some a →
      float32 v' = some b → a ≤ b

theorem NeverUnburns.of_rises {frames : List (ℤ × Frame K)}
    (h : ∀ x ∈ frames, ∀ y ∈ frames, x.1 < y.1 → x.2.SameGrid y.2 →
      ∀ (k : ℕ) (a b : K), x.2.values[k]? = some a → y.2.values[k]? = some b → a ≤ b) :
    NeverUnburns frames := by
  refine ⟨h, fun y hy k b hb => ⟨⟨y, hy, .inr rfl, hb⟩, ?_⟩⟩
  rintro a ⟨x, hx, ⟨hlt, hgrid⟩ | rfl, ha⟩
  · exact h x hx y hy hlt hgrid k a b ha hb
  · exact (Option.some.inj (ha.symm.trans hb)).le

theorem Frame.Of.sameGrid {frame frame' : Frame K} {r r' : PredictionResult K}
    {window : SpreadWindow K} {hazard : String} (h : frame.Of r window hazard)
    (h' : frame'.Of r' window hazard) : frame.SameGrid frame' ↔ r.SameGrid r' window := by
  obtain ⟨grid, hgrid, hwidth, hheight, hbbox⟩ := h.grid
  obtain ⟨grid', hgrid', hwidth', hheight', hbbox'⟩ := h'.grid
  simp [Frame.SameGrid, PredictionResult.SameGrid, hgrid, hgrid', hwidth, hwidth', hheight,
    hheight', hbbox, hbbox']

theorem Frame.Of.value {frame : Frame K} {r : PredictionResult K} {window : SpreadWindow K}
    {hazard : String} (h : frame.Of r window hazard) {k : ℕ} {v a : K} (hv : r.cells[k]? = some v)
    (ha : float32 v = some a) : frame.values[k]? = some a := by
  rcases forall₂_getElem? h.values k with ⟨hnone, -⟩ | ⟨v', cell, hv', hcell, hpacked⟩
  · rw [hv] at hnone
    cases hnone
  · obtain rfl : v = v' := Option.some.inj (hv.symm.trans hv')
    rw [hcell, ← hpacked, ha]

theorem Frame.Of.exists_cell {frame : Frame K} {r : PredictionResult K} {window : SpreadWindow K}
    {hazard : String} (h : frame.Of r window hazard) {k : ℕ} {a : K}
    (ha : frame.values[k]? = some a) : ∃ v, r.cells[k]? = some v ∧ float32 v = some a := by
  rcases forall₂_getElem? h.values k with ⟨-, hnone⟩ | ⟨v, cell, hv, hcell, hpacked⟩
  · rw [ha] at hnone
    cases hnone
  · obtain rfl : a = cell := Option.some.inj (ha.symm.trans hcell)
    exact ⟨v, hv, hpacked⟩

theorem SpreadCall.Delivers.exists_frame {r : PredictionResult K} {horizon : ℤ}
    (h : call.Delivers recipe committed rounds horizon r) :
    ∃ frame, frameFromResult r call.window call.hazard = .ok (some frame) := by
  obtain ⟨before, round, after, -, -, -, -, -, husable, hpacks⟩ := h
  exact exists_frame_iff.2 ⟨husable, hpacks⟩

/-- The frames of a run never un-burn a cell just if the results that it shows do not. -/
theorem never_unburns_iff (mode : String) (payload : SpreadRequest K) {recipe : Recipe}
    {committed : List (PredictionRun K)} {rounds : List (SpreadRound K)}
    (hrecipe : recipeForHazard payload.hazard = some recipe)
    (hdraws : payload.call.DrawsNew recipe committed rounds) :
    (runSpread mode payload.call { committed := committed } rounds).1.published.filterMap
        (·.frame?) = (payload.call.frames mode recipe committed rounds).map (·.2) ∧
      (NeverUnburns (payload.call.frames mode recipe committed rounds) ↔
        payload.call.ResultsRise recipe committed rounds) := by
  have hcall := payload.incidentReadable
  refine ⟨SpreadCall.filterMap_published mode hrecipe hcall hdraws, ?_, ?_⟩
  · intro hnever h r h' r' hr hr' hlt hgrid k v v' a b hv hv' ha hb
    obtain ⟨frame, hframe⟩ := hr.exists_frame
    obtain ⟨frame', hframe'⟩ := hr'.exists_frame
    obtain ⟨-, hof⟩ := frameFromResult_some hframe
    obtain ⟨-, hof'⟩ := frameFromResult_some hframe'
    have hx : (h, frame) ∈ payload.call.frames mode recipe committed rounds :=
      (SpreadCall.mem_frames mode hcall hdraws).2 ⟨r, hr, hframe⟩
    have hy : (h', frame') ∈ payload.call.frames mode recipe committed rounds :=
      (SpreadCall.mem_frames mode hcall hdraws).2 ⟨r', hr', hframe'⟩
    exact hnever.rises _ hx _ hy hlt ((hof.sameGrid hof').2 hgrid) k a b
      (hof.value hv ha) (hof'.value hv' hb)
  · intro hrise
    refine .of_rises ?_
    rintro ⟨h, frame⟩ hx ⟨h', frame'⟩ hy hlt hgrid k a b ha hb
    obtain ⟨r, hr, hframe⟩ := (SpreadCall.mem_frames mode hcall hdraws).1 hx
    obtain ⟨r', hr', hframe'⟩ := (SpreadCall.mem_frames mode hcall hdraws).1 hy
    obtain ⟨-, hof⟩ := frameFromResult_some hframe
    obtain ⟨-, hof'⟩ := frameFromResult_some hframe'
    obtain ⟨v, hv, hva⟩ := hof.exists_cell ha
    obtain ⟨v', hv', hvb⟩ := hof'.exists_cell hb
    exact hrise h r h' r' hr hr' hlt ((hof.sameGrid hof').1 hgrid) k v v' a b hv hv' hva hvb

end

/-- A prediction of one cell. -/
noncomputable def burning (value : ℝ) : PredictionResult ℝ where
  predictionId := "p"
  recipe := .wildfireSpread
  model := { name := "wildfire_spread" }
  grid := some ⟨1, 1, some "EPSG:4326", some [129, 36, 130, 37]⟩
  outputs := [⟨"risk", [value]⟩]
  featureMode := .real

noncomputable def burningFrame (value : ℝ) : Frame ℝ where
  predictionId := "p"
  recipe := "wildfire_spread"
  hazard := "wildfire"
  horizonMinutes := 0
  width := 1
  height := 1
  bbox := [129, 36, 130, 37]
  values := [value]
  isDerived := true
  isStub := false
  featureMode := "real"
  derivedNotice := derivedNotice

noncomputable def fireSpread : SpreadRequest ℝ where
  hazard := "wildfire"
  lat := 36
  lon := 129
  sizeM_ok := by norm_num

noncomputable def answered (horizon : ℤ) (drawnId : Uuid128) (r : PredictionResult ℝ) :
    SpreadRound ℝ :=
  (horizon, { answer := fun _ => .result r, drawnId := drawnId })

theorem frameFromResult_burning {value : ℝ} (h : float32 value = some value) :
    frameFromResult (burning value) fireSpread.call.window fireSpread.call.hazard =
      .ok (some (burningFrame value)) := by
  simp [frameFromResult, burning, pySliceTo, encodeValues, packFloat, h, burningFrame,
    GridSpec.bboxOr, Recipe.value, FeatureMode.value, fireSpread, SpreadRequest.call]

theorem pyUuid_p : pyUuid "p" = .error (.valueError "badly formed hexadecimal UUID string") := rfl

theorem givenId_burning (value : ℝ) : (burning value).givenId = none := by
  simp [PredictionResult.givenId, burning, pyUuid_p, Except.toOption]

/-- Two predictions, for now and for half an hour later. -/
noncomputable def twoRounds (now later : ℝ) : List (SpreadRound ℝ) :=
  [answered 0 1 (burning now), answered 30 2 (burning later)]

theorem frames_twoRounds {now later : ℝ} (hnow : float32 now = some now)
    (hlater : float32 later = some later) :
    fireSpread.call.frames "http" .wildfireSpread [] (twoRounds now later) =
      [(0, burningFrame now), (30, burningFrame later)] := by
  have hid : ∀ value : ℝ, (burning value).predictionId = "p" := fun _ => rfl
  have hincident : fireSpread.call.incidentId = none := rfl
  simp [SpreadCall.frames, twoRounds, spreadFrames, spreadRound, answered, SpreadCall.request,
    Predictions.run, Predictions.incidentUuid, hincident, RunStore.flush, RunStore.ids,
    Predictions.resultRow, hid, pyUuid_p, frameFromResult_burning hnow,
    frameFromResult_burning hlater, SpreadEvent.frame?]

theorem drawsNew_twoRounds (now later : ℝ) :
    fireSpread.call.DrawsNew .wildfireSpread [] (twoRounds now later) where
  nodup := by simp [twoRounds, answered]
  stored := by simp
  given := by
    have hgiven :
        (twoRounds now later).filterMap (fireSpread.call.givenTo .wildfireSpread) = [] := by
      simp [twoRounds, SpreadCall.givenTo, SpreadCall.resultOf, SpreadCall.answerTo, answered,
        SpreadCall.request, Except.toOption, givenId_burning]
    simp [hgiven]

/-- The cell burns now, and half an hour later it does not. -/
theorem burnt_cell_unburns :
    (runSpread "http" fireSpread.call { committed := [] } (twoRounds 1 0)).1.published.filterMap
        (·.frame?) = [burningFrame 1, burningFrame 0] ∧
      ¬ NeverUnburns (fireSpread.call.frames "http" .wildfireSpread [] (twoRounds 1 0)) := by
  have hframes := frames_twoRounds float32_one float32_zero
  refine ⟨?_, fun h => ?_⟩
  · rw [SpreadCall.filterMap_published "http" (by decide) fireSpread.incidentReadable
      (drawsNew_twoRounds 1 0), hframes]
    rfl
  · rw [hframes] at h
    have hle := h.rises (0, burningFrame 1) (by simp) (30, burningFrame 0) (by simp) (by decide)
      ⟨rfl, rfl, rfl⟩ 0 1 0 rfl rfl
    exact absurd hle (by norm_num)

theorem never_unburns_spreading_fire :
    NeverUnburns (fireSpread.call.frames "http" .wildfireSpread [] (twoRounds 0 1)) := by
  refine (never_unburns_iff "http" fireSpread (by decide) (drawsNew_twoRounds 0 1)).2.2 ?_
  have hcases : ∀ {h : ℤ} {r : PredictionResult ℝ},
      fireSpread.call.Delivers .wildfireSpread [] (twoRounds 0 1) h r →
      (h = 0 ∧ r = burning 0) ∨ (h = 30 ∧ r = burning 1) := by
    rintro h r ⟨before, round, after, hrounds, rfl, -, hr, -⟩
    have hround : round ∈ twoRounds 0 1 := by
      rw [hrounds]
      exact List.mem_append_right _ List.mem_cons_self
    simp only [twoRounds, List.mem_cons, List.not_mem_nil, or_false] at hround
    rcases hround with rfl | rfl
    · exact .inl ⟨rfl, (Option.some.inj hr).symm⟩
    · exact .inr ⟨rfl, (Option.some.inj hr).symm⟩
  have hcells : ∀ value : ℝ, (burning value).cells = [value] := by
    intro value
    simp [PredictionResult.cells, burning, pySliceTo]
  intro h r h' r' hr hr' hlt _ k v v' a b hv hv' ha hb
  rcases hcases hr with ⟨rfl, rfl⟩ | ⟨rfl, rfl⟩ <;> rcases hcases hr' with ⟨rfl, rfl⟩ | ⟨rfl, rfl⟩
  · exact absurd hlt (lt_irrefl _)
  · obtain rfl : 0 = v := by simpa [hcells] using (List.getElem?_eq_some_iff.1 hv).2
    obtain rfl : 1 = v' := by simpa [hcells] using (List.getElem?_eq_some_iff.1 hv').2
    obtain rfl : 0 = a := by simpa [float32_zero] using ha
    obtain rfl : 1 = b := by simpa [float32_one] using hb
    exact zero_le_one
  · exact absurd hlt (by decide)
  · exact absurd hlt (lt_irrefl _)

end Salgil
