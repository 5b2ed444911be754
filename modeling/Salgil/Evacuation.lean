import Salgil.Database
import Salgil.LoadGraph
import Salgil.Planner
import Salgil.Prediction

namespace Salgil
set_option autoImplicit true
set_option linter.unusedSectionVars false

/-- The bounds are the schema's. -/
structure RouteRequest (K : Type u) [Field K] [LinearOrder K] where
  communityId : Option Uuid := none
  lat : Option K := none
  lon : Option K := none
  hazard : String
  mode : TransportMode := .foot
  shelterId : Option Uuid := none
  maxShelters : ℕ := 3
  incidentId : Option Uuid := none
  usePrediction : Bool := true
  horizonsMinutes : List ℤ := [30, 60, 120]
  blockThreshold : K := 1 / 2
  avoidThreshold : K := 1 / 5
  departAfterMinutes : K := 0
  maxShelters_ok : 1 ≤ maxShelters ∧ maxShelters ≤ 10
  blockThreshold_ok : 0 ≤ blockThreshold ∧ blockThreshold ≤ 1
  avoidThreshold_ok : 0 ≤ avoidThreshold ∧ avoidThreshold ≤ 1
  departAfterMinutes_ok : 0 ≤ departAfterMinutes

theorem defaultMaxShelters_ok : 1 ≤ 3 ∧ 3 ≤ 10 := by decide

section
variable (K : Type u) [Field K] [LinearOrder K] [IsStrictOrderedRing K]

theorem defaultAvoidThreshold_ok : (0 : K) ≤ 1 / 5 ∧ (1 / 5 : K) ≤ 1 :=
  ⟨by positivity, (div_le_one (by positivity)).2 (by norm_num)⟩

theorem defaultDepartAfterMinutes_ok : (0 : K) ≤ 0 := le_rfl

end

structure RouteLeg (K : Type u) where
  shelterId : Uuid
  shelterName : String
  shelterCapacity : Option ℤ := none
  capacityBasis : Option String := none
  found : Bool
  reason : Option String := none
  geometry : List (K × K) := []
  distanceM : Option K := none
  durationMinutes : Option K := none
  straightLineKm : Option K := none
  maxRisk : Option K := none
  meanRisk : Option K := none
  avoidedEdges : ℕ := 0
  blockedByReports : List (BlockedPoint K) := []

/-- Where the evacuation starts. -/
structure RouteOrigin (K : Type u) where
  lat : K
  lon : K
  regionCode : Option String
  community : Option (Community K)

structure RoutePlan (K : Type u) where
  origin : RouteOrigin K
  hazard : String
  mode : TransportMode
  routes : List (RouteLeg K)
  recommended : Option Uuid
  shelterGuidanceAvailable : Bool
  hazardLimitation : Option String
  predictionUsed : Bool
  prediction : Option PredictionMeta
  horizonsMinutes : List ℤ
  fieldReportsApplied : ℕ
  roadNetwork : String
  warnings : List Warning

structure HazardCapability where
  koreanName : String
  canSayWhereToGo : Bool
  caveat : Option String

/-- What the service is given besides the request: the road file, the prediction server, the
catalogue of hazards and the database. -/
structure Services (K : Type u) where
  roadNetworkPath : String
  roadFile : String → Option (List (Feature K))
  order : SetOrder (NodeId K)
  predict : Predictor K
  capabilityFor : Option (String → Except PyError (Option HazardCapability))
  database : Database K

section
variable {K : Type} [Field K] [LinearOrder K] [IsStrictOrderedRing K] [FloorRing K]

def fieldBlockRadiusM : K := 120

/-- The places the field reports close; a constraint without coordinates closes none. -/
def fieldBlocks (database : Database K) (incidentId : Uuid) : List (BlockedPoint K) :=
  (database.reports.filter (·.incidentId = incidentId)).flatMap fun report =>
    report.accessConstraints.filterMap fun c =>
      match c.lat, c.lon with
      | some lat, some lon =>
        some ⟨lat, lon, fieldBlockRadiusM, c.kind.value,
          (c.detail.filter (· ≠ "")).or (some c.location)⟩
      | _, _ => none

def HazardPolicy.ofRequest (payload : RouteRequest K) : HazardPolicy K where
  blockThreshold := payload.blockThreshold
  avoidThreshold := min payload.avoidThreshold payload.blockThreshold
  avoidPenalty := HazardPolicy.default.avoidPenalty

def routeOrigin (database : Database K) (payload : RouteRequest K) :
    Except PyError (RouteOrigin K) :=
  match payload.communityId with
  | some id =>
    match database.communities.find? (·.id = id) with
    | none => .error (.salgil (.notFound ("마을 " ++ toString id ++ " 를 찾지 못했습니다")))
    | some community =>
      match community.lat, community.lon with
      | some lat, some lon => .ok ⟨lat, lon, some community.regionCode, some community⟩
      | _, _ => .error (.salgil (.validation
          ("마을 '" ++ community.name ++ "' 에 좌표가 없습니다 — 경로를 계산할 수 없습니다")))
  | none =>
    match payload.lat, payload.lon with
    | some lat, some lon => .ok ⟨lat, lon, none, none⟩
    | _, _ => .error (.salgil (.validation "community_id 또는 lat/lon 중 하나는 있어야 합니다"))

/-- The order in which the candidates of `find_shelters` are listed: those with a distance first,
by distance. -/
def nearerShelter (x y : Shelter K × Option K) : Prop :=
  match x.2, y.2 with
  | some d, some e => d ≤ e
  | some _, none => True
  | none, some _ => False
  | none, none => True

instance : DecidableRel (nearerShelter (K := K)) := fun x y => by
  unfold nearerShelter
  split <;> infer_instance

/-- `duration_minutes or float("inf")`: no duration, or a duration of zero, counts as infinite. -/
def RouteLeg.sortDuration (leg : RouteLeg K) : WithTop K :=
  match leg.durationMinutes with
  | some d => if d = 0 then ⊤ else d
  | none => ⊤

/-- The order of the legs: the found ones first, by duration. -/
def RouteLeg.before (x y : RouteLeg K) : Prop :=
  x.found = true ∧ y.found = false ∨ x.found = y.found ∧ x.sortDuration ≤ y.sortDuration

instance : DecidableRel (RouteLeg.before (K := K)) := fun x y => by
  unfold RouteLeg.before
  infer_instance

variable [MathLib K]

def haversineKm (lat1 lon1 lat2 lon2 : K) : K :=
  let dlat := radians (lat2 - lat1)
  let dlon := radians (lon2 - lon1)
  let a := MathLib.sin (dlat / 2) ^ 2 +
    MathLib.cos (radians lat1) * MathLib.cos (radians lat2) * MathLib.sin (dlon / 2) ^ 2
  2 * (63710088 / 10000) * MathLib.asin (MathLib.sqrt a)

/-- `find_shelters` from a place. -/
def findShelters (database : Database K) (hazard : String) (regionCode : Option String)
    (lat lon : K) (limit : ℕ) : List (Shelter K × Option K) :=
  let rows := match regionCode with
    | some region =>
      if region = "" then database.shelters
      else database.shelters.filter (·.regionCode = region)
    | none => database.shelters
  let scored := (rows.filter (hazard ∈ ·.hazards)).map fun shelter =>
    match shelter.lat, shelter.lon with
    | some lat', some lon' => (shelter, some (pyRound 3 (haversineKm lat lon lat' lon')))
    | _, _ => (shelter, none)
  (scored.insertionSort nearerShelter).take limit

def candidateShelters (database : Database K) (payload : RouteRequest K) (origin : RouteOrigin K) :
    Except PyError (List (Shelter K × Option K)) :=
  match payload.shelterId with
  | none => .ok (findShelters database payload.hazard origin.regionCode origin.lat origin.lon
      payload.maxShelters)
  | some id =>
    match database.shelters.find? (·.id = id) with
    | none => .error (.salgil (.notFound ("대피소 " ++ toString id ++ " 를 찾지 못했습니다")))
    | some shelter =>
      if payload.hazard ∉ shelter.hazards then
        .error (.salgil (.validation
          ("대피소 '" ++ shelter.name ++ "' 은 " ++ payload.hazard ++ " 를 담당하지 않습니다 — " ++
            "다른 재난의 대피소를 전용하면 안 됩니다")))
      else match shelter.lat, shelter.lon with
      | some lat, some lon =>
        .ok [(shelter, some (pyRound 3 (haversineM origin.lat origin.lon lat lon / 1000)))]
      | _, _ => .ok [(shelter, none)]

/-- The refusal of `get_graph` where no road file is configured. -/
def roadNetworkUnset : PyError := .salgil (.validation
  ("도로망이 설정되지 않았습니다 — SALGIL_ROAD_NETWORK_PATH 에 OSM 추출본을 " ++
    "지정하세요. 도로망 없이 경로를 만들면 지도 위에 그럴듯한 직선이 그려질 뿐입니다"))

/-- `get_graph`: the graph of the configured road file. -/
def getGraph (fuel : ℕ) (services : Services K) (mode : TransportMode) :
    Except PyError (RoadGraph K) :=
  if services.roadNetworkPath = "" then .error roadNetworkUnset
  else match services.roadFile services.roadNetworkPath with
  | none =>
    .error (.salgil (.validation ("도로망 파일이 없습니다: " ++ services.roadNetworkPath)))
  | some features =>
    loadRoadGraph services.order fuel services.roadNetworkPath (profileFor mode) features

/-- Why no shelter can be named for the hazard at all, if so. -/
def hazardLimitation (capabilityFor : Option (String → Except PyError (Option HazardCapability)))
    (hazard : String) : Except PyError (Option String × List Warning) :=
  match capabilityFor with
  | none => .ok (none, [])
  | some capabilityFor =>
    match capabilityFor hazard with
    | .error (.salgil (.upstream detail)) => .ok (none, [.capabilityUnknown detail])
    | .error e => .error e
    | .ok none => .ok (none, [])
    | .ok (some capability) =>
      if capability.canSayWhereToGo then .ok (none, [])
      else .ok (some ((capability.caveat.filter (· ≠ "")).getD
        (capability.koreanName ++ "은(는) 발생은 확인되지만 어느 대피소로 보낼지 " ++
          "말할 수 있는 공개 데이터가 없습니다 (가용성 partial)")), [])

/-- The hazard field of a request, with the closures of its incident. -/
def requestField (services : Services K) (payload : RouteRequest K) (origin : RouteOrigin K) :
    Except PyError (HazardField K × Option PredictionMeta × List Warning) := do
  let (field, accepted, warnings) ←
    if payload.usePrediction then
      hazardField services.predict payload.hazard origin.lat origin.lon payload.horizonsMinutes
        origin.regionCode
    else .ok (.build, none, [.predictionNotUsed])
  return (match payload.incidentId with
    | some incidentId => { field with blocked := fieldBlocks services.database incidentId }
    | none => field, accepted, warnings)

/-- The leg to one candidate. -/
def routeLeg (fuel : ℕ) (graph : RoadGraph K) (payload : RouteRequest K) (origin : RouteOrigin K)
    (field : HazardField K) (candidate : Shelter K × Option K) : Except PyError (RouteLeg K) :=
  let (shelter, straightKm) := candidate
  match shelter.lat, shelter.lon with
  | some lat, some lon => do
    let profile := profileFor payload.mode
    let result ← planRoute fuel graph profile field (.ofRequest payload) (origin.lat, origin.lon)
      (lat, lon) (payload.departAfterMinutes * 60) defaultMaxDurationS defaultSnapDistanceM
    return {
      shelterId := shelter.id
      shelterName := shelter.name
      shelterCapacity := shelter.capacity
      capacityBasis := shelter.capacityBasis
      found := result.found
      reason := result.reason.map (·.text profile.koreanName)
      geometry := result.coordinates
      distanceM := if result.found then some result.distanceM else none
      durationMinutes := if result.found then some result.durationMinutes else none
      straightLineKm := straightKm
      maxRisk := if result.found then some result.maxRisk else none
      meanRisk := if result.found then some result.meanRisk else none
      avoidedEdges := result.avoidedEdges
      blockedByReports := result.blockedByReports }
  | _, _ => .ok {
      shelterId := shelter.id
      shelterName := shelter.name
      found := false
      reason := some "대피소에 좌표가 없습니다" }

/-- The shelter of the first leg, if it is found. -/
def recommendedShelter (legs : List (RouteLeg K)) : Option Uuid :=
  match legs with
  | leg :: _ => if leg.found then some leg.shelterId else none
  | [] => none

/-- `plan_evacuation`; `fuel` bounds the loops of the graph loader and of the planner. -/
def planEvacuation (fuel : ℕ) (services : Services K) (payload : RouteRequest K) :
    Except PyError (RoutePlan K) := do
  let graph ← getGraph fuel services payload.mode
  let origin ← routeOrigin services.database payload
  let candidates ← candidateShelters services.database payload origin
  let (limitation, warnings) ← hazardLimitation services.capabilityFor payload.hazard
  if candidates = [] then
    match limitation with
    | some text => return {
        origin := origin
        hazard := payload.hazard
        mode := payload.mode
        routes := []
        recommended := none
        shelterGuidanceAvailable := false
        hazardLimitation := some text
        predictionUsed := false
        prediction := none
        horizonsMinutes := []
        fieldReportsApplied := 0
        roadNetwork := graph.source
        warnings := warnings ++ [.limitation text] }
    | none => .error (.salgil (.notFound (payload.hazard ++ " 에 쓸 수 있는 대피소가 없습니다 — " ++
        "대피소가 등록되지 않았거나 이 재난을 담당하는 시설이 없습니다")))
  else
    let (field, accepted, fieldWarnings) ← requestField services payload origin
    let legs ← candidates.mapM (routeLeg fuel graph payload origin field)
    let routes := legs.insertionSort RouteLeg.before
    let recommended := recommendedShelter routes
    let warnings := warnings ++ fieldWarnings
    return {
      origin := origin
      hazard := payload.hazard
      mode := payload.mode
      routes := routes
      recommended := recommended
      shelterGuidanceAvailable := limitation = none
      hazardLimitation := limitation
      predictionUsed := field.hasPrediction
      prediction := accepted
      horizonsMinutes := field.horizons
      fieldReportsApplied := field.blocked.length
      roadNetwork := graph.source
      warnings := if recommended = none then warnings ++ [.noRouteFound] else warnings }

/-- The plan names no shelter, only why none can be named. -/
structure RoutePlan.Limited (plan : RoutePlan K) (text : String) (warnings : List Warning) :
    Prop where
  routes : plan.routes = []
  recommended : plan.recommended = none
  predictionUsed : plan.predictionUsed = false
  prediction : plan.prediction = none
  fieldReportsApplied : plan.fieldReportsApplied = 0
  warnings : plan.warnings = warnings ++ [.limitation text]

/-- The plan ranks the legs to the candidates. -/
structure RoutePlan.Routed (plan : RoutePlan K) (field : HazardField K)
    (accepted : Option PredictionMeta) (legs : List (RouteLeg K)) (warnings : List Warning) :
    Prop where
  routes : plan.routes = legs.insertionSort RouteLeg.before
  recommended : plan.recommended = recommendedShelter plan.routes
  predictionUsed : plan.predictionUsed = field.hasPrediction
  prediction : plan.prediction = accepted
  fieldReportsApplied : plan.fieldReportsApplied = field.blocked.length
  warnings : plan.warnings =
    if plan.recommended = none then warnings ++ [.noRouteFound] else warnings

theorem requestField_ok {services : Services K} {payload : RouteRequest K} {origin : RouteOrigin K}
    {field : HazardField K} {accepted : Option PredictionMeta} {warnings : List Warning}
    (h : requestField services payload origin = .ok (field, accepted, warnings)) :
    ∃ predicted : HazardField K,
      (if payload.usePrediction = true then
        hazardField services.predict payload.hazard origin.lat origin.lon payload.horizonsMinutes
          origin.regionCode = .ok (predicted, accepted, warnings)
      else predicted = .build ∧ accepted = none) ∧
      field.slices = predicted.slices ∧
      ∀ incidentId, payload.incidentId = some incidentId →
        field.blocked = fieldBlocks services.database incidentId := by
  have hslices : ∀ predicted : HazardField K, HazardField.slices (match payload.incidentId with
      | some incidentId =>
        { predicted with blocked := fieldBlocks services.database incidentId }
      | none => predicted) = predicted.slices := by
    intro predicted
    cases payload.incidentId <;> rfl
  unfold requestField at h
  by_cases huse : payload.usePrediction = true
  · simp only [if_pos huse] at h ⊢
    obtain ⟨⟨predicted, accepted', warnings'⟩, hpredicted, h⟩ := bind_eq_ok.1 h
    cases h
    exact ⟨predicted, hpredicted, hslices predicted, fun incidentId hid => by simp only [hid]⟩
  · simp only [if_neg huse] at h ⊢
    cases h
    exact ⟨.build, ⟨rfl, rfl⟩, hslices _, fun incidentId hid => by simp only [hid]⟩

/-- The two ways in which the service comes to a plan. -/
theorem planEvacuation_ok {fuel : ℕ} {services : Services K} {payload : RouteRequest K}
    {plan : RoutePlan K} (h : planEvacuation fuel services payload = .ok plan) :
    ∃ graph origin candidates limitation warnings,
      getGraph fuel services payload.mode = .ok graph ∧
      routeOrigin services.database payload = .ok origin ∧
      candidateShelters services.database payload origin = .ok candidates ∧
      hazardLimitation services.capabilityFor payload.hazard = .ok (limitation, warnings) ∧
      ((∃ text, candidates = [] ∧ limitation = some text ∧ plan.Limited text warnings) ∨
        ∃ field accepted fieldWarnings legs, candidates ≠ [] ∧
          requestField services payload origin = .ok (field, accepted, fieldWarnings) ∧
          candidates.mapM (routeLeg fuel graph payload origin field) = .ok legs ∧
          plan.Routed field accepted legs (warnings ++ fieldWarnings)) := by
  unfold planEvacuation at h
  obtain ⟨graph, hgraph, h⟩ := bind_eq_ok.1 h
  obtain ⟨origin, horigin, h⟩ := bind_eq_ok.1 h
  obtain ⟨candidates, hcandidates, h⟩ := bind_eq_ok.1 h
  obtain ⟨⟨limitation, warnings⟩, hlimitation, h⟩ := bind_eq_ok.1 h
  refine ⟨graph, origin, candidates, limitation, warnings, hgraph, horigin, hcandidates,
    hlimitation, ?_⟩
  simp only at h
  split at h
  · next hnone =>
    cases limitation with
    | none => cases h
    | some text =>
      cases h
      exact .inl ⟨text, hnone, rfl, rfl, rfl, rfl, rfl, rfl, rfl⟩
  · next hsome =>
    obtain ⟨⟨field, accepted, fieldWarnings⟩, hfield, h⟩ := bind_eq_ok.1 h
    obtain ⟨legs, hlegs, h⟩ := bind_eq_ok.1 h
    cases h
    exact .inr ⟨field, accepted, fieldWarnings, legs, hsome, hfield, hlegs, rfl, rfl, rfl, rfl, rfl,
      rfl⟩

theorem planEvacuation_of_legs {fuel : ℕ} (services : Services K) {payload : RouteRequest K}
    {graph : RoadGraph K} {origin : RouteOrigin K} {candidates : List (Shelter K × Option K)}
    {limitation : Option String} {warnings fieldWarnings : List Warning} {field : HazardField K}
    {accepted : Option PredictionMeta} {legs : List (RouteLeg K)}
    (hgraph : getGraph fuel services payload.mode = .ok graph)
    (horigin : routeOrigin services.database payload = .ok origin)
    (hcandidates : candidateShelters services.database payload origin = .ok candidates)
    (hlimitation : hazardLimitation services.capabilityFor payload.hazard =
      .ok (limitation, warnings))
    (hsome : candidates ≠ [])
    (hfield : requestField services payload origin = .ok (field, accepted, fieldWarnings))
    (hlegs : candidates.mapM (routeLeg fuel graph payload origin field) = .ok legs) :
    ∃ plan, planEvacuation fuel services payload = .ok plan ∧
      plan.Routed field accepted legs (warnings ++ fieldWarnings) := by
  simp only [planEvacuation, hgraph, horigin, hcandidates, hlimitation, hsome, hfield, hlegs,
    ok_bind, ↓reduceIte]
  exact ⟨_, rfl, rfl, rfl, rfl, rfl, rfl, rfl⟩

end

end Salgil
