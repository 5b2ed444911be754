import Salgil.Float32
import Salgil.PredictionRuns

namespace Salgil
set_option autoImplicit true

def defaultHorizons : List ℤ := [0, 15, 30, 60, 120]

def frameSize : ℤ := 512

structure SpreadWindow (K : Type u) where
  west : K
  south : K
  east : K
  north : K

def SpreadWindow.bbox (window : SpreadWindow K) : List K :=
  [window.west, window.south, window.east, window.north]

/-- `grid.bbox or [window.west, window.south, window.east, window.north]`. -/
def GridSpec.bboxOr (grid : GridSpec K) (window : SpreadWindow K) : List K :=
  match grid.bbox with
  | none | some [] => window.bbox
  | some bbox => bbox

/-- One frame of the map. `values` are the binary32 numbers that its base64 text packs. -/
structure Frame (K : Type u) where
  predictionId : String
  recipe : String
  hazard : String
  horizonMinutes : ℤ
  width : ℤ
  height : ℤ
  bbox : List K
  values : List K
  isDerived : Bool
  isStub : Bool
  featureMode : String
  derivedNotice : String

inductive SpreadData (K : Type u) where
  | frame (frame : Frame K)
  | complete (hazard : String) (frames : ℕ) (horizons : List ℤ)

def SpreadData.kind : SpreadData K → String
  | .frame _ => "prediction.frame"
  | .complete _ _ _ => "spread.complete"

structure SpreadEvent (K : Type u) where
  data : SpreadData K
  incidentId : Option String

/-- What `run_spread` is called with, but for the horizons. -/
structure SpreadCall (K : Type u) where
  hazard : String
  lat : K
  lon : K
  incidentId : Option String := none
  regionCode : Option String := none
  sizeM : K

/-- The bounds are the schema's. -/
structure SpreadRequest (K : Type u) [Field K] [LinearOrder K] where
  hazard : String
  lat : K
  lon : K
  incidentId : Option Uuid128 := none
  regionCode : Option String := none
  sizeM : K := 12000
  horizonsMinutes : Option (List ℤ) := none
  sizeM_ok : 2000 ≤ sizeM ∧ sizeM ≤ 60000

/-- The rows and the events so far. -/
structure SpreadState (K : Type u) where
  store : RunStore K
  published : List (SpreadEvent K) := []
  sent : ℕ := 0

/-- One horizon with what its prediction meets. -/
abbrev SpreadRound (K : Type u) := ℤ × Encounter K

section
variable {K : Type u} [Field K] [LinearOrder K] [IsStrictOrderedRing K] [FloorRing K]

/-- `struct.pack("<f", value)`. -/
def packFloat (value : K) : Except PyError K :=
  match float32 value with
  | some packed => .ok packed
  | none => .error (.overflowError "float too large to pack with f format")

def encodeValues (values : List K) : Except PyError (List K) := values.mapM packFloat

def frameFromResult (r : PredictionResult K) (window : SpreadWindow K) (hazard : String) :
    Except PyError (Option (Frame K)) :=
  match r.grid, r.outputs with
  | some grid, tensor :: _ =>
    let expected := grid.width * grid.height
    if tensor.data.length < expected then .ok none
    else do
      let values ← encodeValues (pySliceTo tensor.data expected)
      return some {
        predictionId := r.predictionId
        recipe := r.recipe.value
        hazard := hazard
        horizonMinutes := r.horizonMinutes.getD 0
        width := grid.width
        height := grid.height
        bbox := grid.bboxOr window
        values := values
        isDerived := true
        isStub := r.isStub
        featureMode := r.featureMode.value
        derivedNotice := r.derivedNotice }
  | _, _ => .ok none

variable [MathLib K]

def SpreadWindow.around (lat lon sizeM : K) : SpreadWindow K :=
  let dLat := sizeM / 2 / 110574
  let dLon := sizeM / 2 / (111320 * MathLib.cos (radians lat))
  ⟨lon - dLon, lat - dLat, lon + dLon, lat + dLat⟩

def SpreadCall.window (call : SpreadCall K) : SpreadWindow K := .around call.lat call.lon call.sizeM

/-- The request for one horizon, or the schema's refusal of the horizon. -/
def SpreadCall.request (call : SpreadCall K) (recipe : Recipe) (horizon : ℤ) :
    Except PyError (PredictionRequest K) :=
  if h : 0 ≤ horizon ∧ horizon ≤ 72 * 60 then
    .ok {
      recipe := recipe
      hazard := some call.hazard
      regionCode := call.regionCode
      horizonMinutes := some horizon
      incidentId := call.incidentId
      grid := some ⟨frameSize, frameSize, some "EPSG:4326", some call.window.bbox⟩
      horizon_ok := givenHorizon_ok h }
  else .error .pydantic

/-- One round of the loop over the horizons, and what it raises. -/
def spreadRound (mode : String) (call : SpreadCall K) (recipe : Recipe) (state : SpreadState K)
    (round : SpreadRound K) : SpreadState K × Option Raised :=
  match call.request recipe round.1 with
  | .error e => (state, some (.exception e))
  | .ok request =>
    let (result, store) := Predictions.run mode state.store request round.2
    let state := { state with store := store }
    match result with
    | .error .cancelled => (state, some .cancelled)
    | .error (.exception _) => (state, none)
    | .ok r =>
      match frameFromResult r call.window call.hazard with
      | .error e => (state, some (.exception e))
      | .ok none => (state, none)
      | .ok (some frame) =>
        ({ state with
          published := state.published ++ [⟨.frame frame, call.incidentId⟩]
          sent := state.sent + 1 }, none)

/-- The loop; what is raised ends it. -/
def spreadLoop (mode : String) (call : SpreadCall K) (recipe : Recipe) :
    SpreadState K → List (SpreadRound K) → SpreadState K × Option Raised
  | state, [] => (state, none)
  | state, round :: rounds =>
    match spreadRound mode call recipe state round with
    | (state, none) => spreadLoop mode call recipe state rounds
    | (state, some raised) => (state, some raised)

/-- `run_spread`: the state in which it ends, and how. -/
def runSpread (mode : String) (call : SpreadCall K) (store : RunStore K)
    (rounds : List (SpreadRound K)) : SpreadState K × Except Raised ℕ :=
  match Predictions.recipeForHazard call.hazard with
  | .error e => ({ store := store }, .error (.exception e))
  | .ok recipe =>
    match spreadLoop mode call recipe { store := store } rounds with
    | (state, some raised) => (state, .error raised)
    | (state, none) =>
      ({ state with
        published := state.published ++
          [⟨.complete call.hazard state.sent (rounds.map (·.1)), call.incidentId⟩] },
        .ok state.sent)

def SpreadRequest.call (payload : SpreadRequest K) : SpreadCall K where
  hazard := payload.hazard
  lat := payload.lat
  lon := payload.lon
  incidentId := payload.incidentId.map uuidText
  regionCode := payload.regionCode
  sizeM := payload.sizeM

/-- The horizons of the task that `POST /stream/spread` starts, if it starts one. -/
def startSpread (payload : SpreadRequest K) : Except PyError (List ℤ) := do
  let _ ← Predictions.recipeForHazard payload.hazard
  return match payload.horizonsMinutes with
    | none | some [] => defaultHorizons
    | some horizons => horizons

end

end Salgil
