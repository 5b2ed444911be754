import Salgil.Hazard
import Salgil.Profiles

namespace Salgil
set_option autoImplicit true

/-- Why there is no route, with the values the text quotes. -/
inductive Reason (K : Type u) where
  | noRoadAtOrigin (snapDistanceM : K)
  | noRoadAtShelter (snapDistanceM : K)
  | originClosed (kind : String)
  | originInHazard (risk threshold : K)
  | hazardInTheWay (avoided closures : ℕ)
  | notConnected
  deriving DecidableEq

structure RouteResult (K : Type u) where
  found : Bool
  reason : Option (Reason K)
  coordinates : List (K × K)
  distanceM : K
  durationS : K
  maxRisk : K
  meanRisk : K
  avoidedEdges : ℕ
  blockedByReports : List (BlockedPoint K)
  exploredNodes : ℕ

/-- The variables of the search loop. -/
structure SearchState (K : Type u) where
  queue : List (K × NodeId K)
  best : NodeId K → Option K
  previous : NodeId K → Option (NodeId K)
  avoided : ℕ := 0
  blockedHits : List (BlockedPoint K) := []
  explored : ℕ := 0

/-- What one round of the search loop does. -/
inductive Round (K : Type u) where
  | exhausted
  | stale (st : SearchState K)
  | reached (arrival : K) (st : SearchState K)
  | expanded (node : NodeId K) (st : SearchState K)

inductive SearchOutcome (K : Type u) where
  | reached (arrival : K) (st : SearchState K)
  | exhausted (st : SearchState K)

section
variable {K : Type u} [Field K] [LinearOrder K] [IsStrictOrderedRing K] [FloorRing K]

def Reason.text (koreanName : String) : Reason K → String
  | .noRoadAtOrigin snap =>
    "출발지에서 " ++ formatFixed 0 snap ++ "m 안에 " ++ koreanName ++
      " 통행로가 없습니다 — 도로망 범위 밖이거나 이 수단이 지날 수 있는 길이 없습니다"
  | .noRoadAtShelter snap =>
    "대피소에서 " ++ formatFixed 0 snap ++ "m 안에 " ++ koreanName ++ " 통행로가 없습니다"
  | .originClosed kind => "출발 지점이 현장 통제 구간입니다 (" ++ kind ++ ")"
  | .originInHazard risk threshold =>
    "출발 지점이 이미 위험 구역입니다 (위험도 " ++ formatFixed 2 risk ++ " ≥ " ++
      formatFixed 2 threshold ++ ") — 경로를 계산할 수 있는 상태가 아닙니다"
  | .hazardInTheWay avoided closures =>
    "위험 구역을 피해서는 대피소에 닿는 길이 없습니다 (차단된 간선 " ++ toString avoided ++
      "개, 현장 통제 " ++ toString closures ++
      "건). 다른 대피소나 다른 이동수단을 확인하세요"
  | .notConnected =>
    "도로망에서 출발지와 대피소가 " ++ koreanName ++
      "로 이어지지 않습니다 — 위험 때문이 아니라 연결된 길이 없습니다"

def RouteResult.refused (reason : Reason K) : RouteResult K where
  found := false
  reason := some reason
  coordinates := []
  distanceM := 0
  durationS := 0
  maxRisk := 0
  meanRisk := 0
  avoidedEdges := 0
  blockedByReports := []
  exploredNodes := 0

/-- The rounded seconds are a double, and so is their quotient before it is rounded. -/
def RouteResult.durationMinutes (r : RouteResult K) : K :=
  pyRound 1 (double (double r.durationS / 60))

/-- Tuples compare lexicographically, so equal arrivals are popped in the order of the nodes. -/
def entryLe (x y : K × NodeId K) : Prop :=
  x.1 < y.1 ∨ x.1 = y.1 ∧ (x.2.lat < y.2.lat ∨ x.2.lat = y.2.lat ∧ x.2.lon ≤ y.2.lon)

instance : DecidableRel (entryLe (K := K)) := fun x y => by unfold entryLe; infer_instance

/-- The heap is kept as the sorted list of its entries. -/
def heappush (queue : List (K × NodeId K)) (entry : K × NodeId K) : List (K × NodeId K) :=
  queue.orderedInsert entryLe entry

variable [MathLib K]

/-- One round of the loop over the edges of the node being expanded. -/
def relaxEdge (profile : ModeProfile K) (hazard : HazardField K) (policy : HazardPolicy K)
    (arrival : K) (node : NodeId K) (st : SearchState K) (edge : Edge K) :
    Except PyError (SearchState K) :=
  let target := edge.target
  match hazard.blockedByFieldReport target.lat target.lon with
  | some report =>
    .ok (if report ∈ st.blockedHits then st
      else { st with blockedHits := st.blockedHits ++ [report] })
  | none => do
    let travelS := edge.lengthM / profile.speedMps
    let risk ← hazard.riskAt target.lat target.lon (arrival + travelS)
    match policy.edgeMultiplier risk with
    | none => pure { st with avoided := st.avoided + 1 }
    | some multiplier =>
      let candidate := arrival + travelS * multiplier
      if (st.best target).all (candidate < ·) then
        pure { st with
          best := Function.update st.best target (some candidate)
          previous := Function.update st.previous target (some node)
          queue := heappush st.queue (candidate, target) }
      else pure st

section Loop
variable (graph : RoadGraph K) (profile : ModeProfile K) (hazard : HazardField K)
variable (policy : HazardPolicy K) (goal : NodeId K) (departAfterS maxDurationS : K)

/-- One round of the `while queue` loop. -/
def searchRound (st : SearchState K) : Except PyError (Round K) :=
  match st.queue with
  | [] => .ok .exhausted
  | (arrival, node) :: queue =>
    let st := { st with queue := queue }
    if (st.best node).any (· < arrival) then .ok (.stale st)
    else
      let st := { st with explored := st.explored + 1 }
      if node = goal then .ok (.reached arrival st)
      else if maxDurationS < arrival - departAfterS then .ok (.expanded node st)
      else do
        let st ← (graph.neighbours node).foldlM (relaxEdge profile hazard policy arrival node) st
        return .expanded node st

def search : ℕ → SearchState K → Except PyError (SearchOutcome K)
  | 0, _ => .error .outOfFuel
  | fuel + 1, st => do
    match ← searchRound graph profile hazard policy goal departAfterS maxDurationS st with
    | .exhausted => return .exhausted st
    | .reached arrival st => return .reached arrival st
    | .stale st | .expanded _ st => search fuel st

/-- The nodes the loop counts as explored, in order. -/
def expansions : ℕ → SearchState K → List (NodeId K)
  | 0, _ => []
  | fuel + 1, st =>
    match searchRound graph profile hazard policy goal departAfterS maxDurationS st with
    | .ok (.stale st) => expansions fuel st
    | .ok (.expanded node st) => node :: expansions fuel st
    | .ok (.reached _ _) => [goal]
    | .ok .exhausted | .error _ => []

end Loop

/-- Follows `previous` back from the last node of the path, newest first. -/
def tracePath (previous : NodeId K → Option (NodeId K)) (start : NodeId K) :
    ℕ → NodeId K → Except PyError (List (NodeId K))
  | 0, _ => .error .outOfFuel
  | fuel + 1, node =>
    if node = start then .ok [node]
    else match previous node with
      | none => .error .keyError
      | some before => do return node :: (← tracePath previous start fuel before)

/-- The length charged for a step of the path: the shortest of the parallel edges. -/
def segmentLength (graph : RoadGraph K) (a b : NodeId K) : K :=
  match ((graph.neighbours a).filter (·.target = b)).map (·.lengthM) with
  | [] => a.distance b
  | x :: xs => xs.foldl min x

/-- The distance and the risks along the path, with the time counted from the first node. -/
def measurePath (graph : RoadGraph K) (hazard : HazardField K) (speed : K) :
    List (NodeId K) → (distance elapsed : K) → Except PyError (K × List K)
  | a :: b :: rest, distance, elapsed => do
    let segment := segmentLength graph a b
    let elapsed := elapsed + segment / max speed (1 / 10 ^ 6)
    let risk ← hazard.riskAt b.lat b.lon elapsed
    let (distance, risks) ← measurePath graph hazard speed (b :: rest) (distance + segment) elapsed
    return (distance, risk :: risks)
  | _, distance, _ => .ok (distance, [])

def buildResult (graph : RoadGraph K) (hazard : HazardField K) (fuel : ℕ)
    (previous : NodeId K → Option (NodeId K)) (start goal : NodeId K) (durationS : K)
    (avoided : ℕ) (blockedHits : List (BlockedPoint K)) (explored : ℕ) (profileSpeed : K) :
    Except PyError (RouteResult K) := do
  let path := (← tracePath previous start fuel goal).reverse
  let first ← hazard.riskAt start.lat start.lon 0
  let (distance, rest) ← measurePath graph hazard profileSpeed path 0 0
  let risks := first :: rest
  return {
    found := true
    reason := none
    coordinates := path.map fun node => (node.lon, node.lat)
    distanceM := pyRound 1 distance
    durationS := pyRound 1 durationS
    maxRisk := pyRound 5 (rest.foldl max first)
    meanRisk := pyRound 5 (risks.sum / risks.length)
    avoidedEdges := avoided
    blockedByReports := blockedHits
    exploredNodes := explored }

def SearchState.init (start : NodeId K) (departAfterS : K) : SearchState K where
  queue := [(departAfterS, start)]
  best := Function.update (fun _ => none) start (some departAfterS)
  previous := fun _ => none

/-- The search from two snapped nodes that passed the start checks. -/
def routeBetween (fuel : ℕ) (graph : RoadGraph K) (profile : ModeProfile K)
    (hazard : HazardField K) (policy : HazardPolicy K) (start goal : NodeId K)
    (departAfterS maxDurationS : K) : Except PyError (RouteResult K) := do
  match ← search graph profile hazard policy goal departAfterS maxDurationS fuel
    (SearchState.init start departAfterS) with
  | .reached arrival st =>
    buildResult graph hazard fuel st.previous start goal (arrival - departAfterS) st.avoided
      st.blockedHits st.explored profile.speedMps
  | .exhausted st =>
    if st.avoided ≠ 0 ∨ st.blockedHits ≠ [] then
      return { RouteResult.refused (.hazardInTheWay st.avoided st.blockedHits.length) with
        avoidedEdges := st.avoided
        blockedByReports := st.blockedHits
        exploredNodes := st.explored }
    else
      return { RouteResult.refused .notConnected with exploredNodes := st.explored }

/-- `plan_route`; the defaults of its keyword arguments are `defaultMaxDurationS` and
`defaultSnapDistanceM`. -/
def planRoute (fuel : ℕ) (graph : RoadGraph K) (profile : ModeProfile K)
    (hazard : HazardField K) (policy : HazardPolicy K) (origin destination : K × K)
    (departAfterS maxDurationS snapDistanceM : K) : Except PyError (RouteResult K) :=
  match graph.nearestNode origin.1 origin.2 snapDistanceM,
    graph.nearestNode destination.1 destination.2 snapDistanceM with
  | none, _ => .ok (.refused (.noRoadAtOrigin snapDistanceM))
  | some _, none => .ok (.refused (.noRoadAtShelter snapDistanceM))
  | some start, some goal =>
    match hazard.blockedByFieldReport start.lat start.lon with
    | some blockedStart =>
      .ok { RouteResult.refused (.originClosed blockedStart.kind) with
        blockedByReports := [blockedStart] }
    | none => do
      let startRisk ← hazard.riskAt start.lat start.lon departAfterS
      if policy.edgeMultiplier startRisk = none then
        return { RouteResult.refused (.originInHazard startRisk policy.blockThreshold) with
          maxRisk := pyRound 5 startRisk }
      else
        routeBetween fuel graph profile hazard policy start goal departAfterS maxDurationS

def defaultMaxDurationS : K := 4 * 3600

def defaultSnapDistanceM : K := 2000

end

end Salgil
