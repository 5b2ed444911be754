import Salgil.SpreadFrames
import Salgil.SyntheticGate

namespace Salgil
set_option autoImplicit true
set_option linter.unusedSectionVars false

/-- The requests that hand out ids of predictions, with what they meet outside. -/
inductive IdRequest (K : Type) [Field K] [LinearOrder K] where
  | createPrediction (mode : String) (request : PredictionRequest K) (met : Encounter K)
  | planEvacuation (fuel : ℕ) (services : Services K) (payload : RouteRequest K)
  | startSpread (mode : String) (payload : SpreadRequest K) (rounds : List (SpreadRound K))

namespace Predictions
variable {K : Type} {committed : List (PredictionRun K)} {store : RunStore K}
variable {request : PredictionRequest K} {met : Encounter K}

end Predictions

section
variable {K : Type} [Field K] [LinearOrder K] [IsStrictOrderedRing K] [FloorRing K] [MathLib K]

namespace IdRequest

end IdRequest

/-- The prediction that a plan cites: the last one accepted, if any are asked for and there is a
shelter to go to. -/
def RouteRequest.cited (payload : RouteRequest K) (services : Services K) :
    Option (PredictionResult K) :=
  match routeOrigin services.database payload with
  | .error _ => none
  | .ok origin =>
    match payload.usePrediction, candidateShelters services.database payload origin with
    | true, .ok (_ :: _) => (acceptedResults services.predict payload.hazard origin.lat origin.lon
        payload.horizonsMinutes origin.regionCode).getLast?.map (·.2)
    | _, _ => none

namespace IdRequest

/-- `uuid4` draws ids for the spread task that are nowhere else. -/
def DrawsNew (committed : List (PredictionRun K)) : IdRequest K → Prop
  | .startSpread _ payload rounds => ∀ recipe, recipeForHazard payload.hazard = some recipe →
      payload.call.DrawsNew recipe committed rounds
  | _ => True

variable {committed : List (PredictionRun K)}

end IdRequest

end

/-- A prediction that the server has given a UUID. -/
noncomputable def named : PredictionResult ℝ := { burning 1 with predictionId := uuidText 7 }

end Salgil
