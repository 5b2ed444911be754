import Salgil.Json
import Salgil.Prediction
import Salgil.UuidText

namespace Salgil
set_option autoImplicit true

/-- A row of `prediction_runs`. -/
structure PredictionRun (K : Type u) where
  id : Uuid128
  incidentId : Option Uuid128
  recipe : Recipe
  regionCode : String
  hazard : Option String
  horizonMinutes : Option ℤ
  status : String
  modelName : Option String := none
  modelVersion : Option String := none
  servedBy : String
  featureMode : Option FeatureMode := none
  isStub : Bool := false
  errorDetail : Option String := none
  requestPayload : PredictionRequest K

/-- The runs that are committed, and those that the session of a request has flushed. After a
failed flush the session refuses to work until it is rolled back. -/
structure RunStore (K : Type u) where
  committed : List (PredictionRun K) := []
  flushed : List (PredictionRun K) := []
  broken : Bool := false

/-- How the prediction server answers, or that the task is cancelled meanwhile. -/
inductive Answer (K : Type u) where
  | result (r : PredictionResult K)
  | error (e : PyError)
  | cancelled

/-- What a prediction meets outside: the answer of the server, the id that `uuid4` draws, and
whether the database refuses the row for another reason than its key. -/
structure Encounter (K : Type u) where
  answer : PredictionRequest K → Answer K
  drawnId : Uuid128
  refused : Bool := false

/-- `except Exception` does not stop a cancellation. -/
inductive Raised where
  | exception (e : PyError)
  | cancelled
  deriving DecidableEq

section
variable {K : Type u}

def RunStore.ids (store : RunStore K) : List Uuid128 :=
  store.committed.map (·.id) ++ store.flushed.map (·.id)

/-- `session.add` and `session.flush`. A flush that fails takes the open transaction with it. -/
def RunStore.flush (store : RunStore K) (row : PredictionRun K) (refused : Bool) :
    Except PyError Unit × RunStore K :=
  if store.broken then (.error .databaseError, store)
  else if refused then (.error .databaseError, { store with flushed := [], broken := true })
  else if row.id ∈ store.ids then
    (.error .integrityError, { store with flushed := [], broken := true })
  else (.ok (), { store with flushed := store.flushed ++ [row] })

def RunStore.commit (store : RunStore K) : RunStore K where
  committed := store.committed ++ store.flushed

def RunStore.rollback (store : RunStore K) : RunStore K where
  committed := store.committed

namespace Predictions

def recipeForHazard (hazard : String) : Except PyError Recipe :=
  match Salgil.recipeForHazard hazard with
  | some recipe => .ok recipe
  | none => .error (.salgil (.validation ("재난 '" ++ hazard ++ "' 에 대응하는 예측 모델이 없습니다 — " ++
      "지원: ['cold_wave', 'flood', 'heatwave', 'heavy_rain', 'landslide', 'typhoon', 'wildfire']")))

/-- `uuid.UUID(request.incident_id) if request.incident_id else None`. -/
def incidentUuid (request : PredictionRequest K) : Except PyError (Option Uuid128) :=
  match request.incidentId with
  | none => .ok none
  | some text => if text = "" then .ok none else (pyUuid text).map some

/-- The row of a result; an id that is no UUID is not kept. -/
def resultRow (mode : String) (request : PredictionRequest K) (incidentId : Option Uuid128)
    (drawnId : Uuid128) (r : PredictionResult K) : PredictionRun K where
  id := match pyUuid r.predictionId with
    | .ok id => id
    | .error _ => drawnId
  incidentId := incidentId
  recipe := r.recipe
  regionCode := ((r.regionCode.filter (· ≠ "")).or request.regionCode).getD ""
  hazard := (r.hazard.filter (· ≠ "")).or request.hazard
  horizonMinutes := r.horizonMinutes
  status := r.status
  modelName := some r.model.name
  modelVersion := r.model.version
  servedBy := (r.model.backend.filter (· ≠ "")).getD mode
  featureMode := some r.featureMode
  isStub := r.isStub
  requestPayload := request

def failureRow (mode : String) (request : PredictionRequest K) (incidentId : Option Uuid128)
    (drawnId : Uuid128) (detail : String) : PredictionRun K where
  id := drawnId
  incidentId := incidentId
  recipe := request.recipe
  regionCode := request.regionCode.getD ""
  hazard := request.hazard
  horizonMinutes := request.horizonMinutes
  status := "failed"
  servedBy := mode
  errorDetail := some (pyTake 2000 detail)
  requestPayload := request

/-- A failure is committed in a session of its own; the result is the error that is raised then. -/
def recordFailure (store : RunStore K) (row : PredictionRun K) (refused : Bool) (e : PyError) :
    PyError × RunStore K :=
  if refused then (.databaseError, store)
  else if row.id ∈ store.ids then (.integrityError, store)
  else (e, { store with committed := store.committed ++ [row] })

/-- `run`: the result or what is raised, and the store; `mode` is the client's. -/
def run (mode : String) (store : RunStore K) (request : PredictionRequest K) (met : Encounter K) :
    Except Raised (PredictionResult K) × RunStore K :=
  match incidentUuid request with
  | .error e => (.error (.exception e), store)
  | .ok incidentId =>
    let failed := fun e detail =>
      let (e, store) := recordFailure store
        (failureRow mode request incidentId met.drawnId detail) met.refused e
      (.error (.exception e), store)
    match met.answer request with
    | .cancelled => (.error .cancelled, store)
    | .error (.salgil (.upstream detail)) => failed (.salgil (.upstream detail)) detail
    | .error (.salgil (.validation detail)) => failed (.salgil (.validation detail)) detail
    | .error e => (.error (.exception e), store)
    | .result r =>
      match store.flush (resultRow mode request incidentId met.drawnId r) met.refused with
      | (.ok _, store) => (.ok r, store)
      | (.error e, store) => (.error (.exception e), store)

/-- `POST /predictions`, with the rows that are committed before and after: the route commits before
the response. -/
def createPrediction (mode : String) (committed : List (PredictionRun K))
    (request : PredictionRequest K) (met : Encounter K) :
    Except Raised (PredictionResult K) × List (PredictionRun K) :=
  match run mode { committed := committed } request met with
  | (.ok r, store) => (.ok r, store.commit.committed)
  | (.error e, store) => (.error e, store.rollback.committed)

end Predictions

end

end Salgil
