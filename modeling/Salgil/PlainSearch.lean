import Salgil.Evacuation
import Salgil.NearestNode
import Salgil.HazardFacts

namespace Salgil
set_option autoImplicit true
set_option linter.unusedSectionVars false

/-- The variables of a shortest-path search that knows of no hazard. -/
structure PlainState (K : Type u) where
  queue : List (K × NodeId K)
  best : NodeId K → Option K
  previous : NodeId K → Option (NodeId K)
  blockedHits : List (BlockedPoint K) := []
  explored : ℕ := 0

section
variable {K : Type} [Field K] [LinearOrder K] [IsStrictOrderedRing K] [FloorRing K] [MathLib K]

/-- The first closure a place lies in. -/
def closureAt (closures : List (BlockedPoint K)) (lat lon : K) : Option (BlockedPoint K) :=
  closures.find? fun point => haversineM lat lon point.lat point.lon ≤ point.radiusM

/-- An edge costs its length by the speed; only closed ends are skipped. -/
def plainRelax (profile : ModeProfile K) (closures : List (BlockedPoint K)) (arrival : K)
    (node : NodeId K) (st : PlainState K) (edge : Edge K) : PlainState K :=
  match closureAt closures edge.target.lat edge.target.lon with
  | some report =>
    if report ∈ st.blockedHits then st
    else { st with blockedHits := st.blockedHits ++ [report] }
  | none =>
    let candidate := arrival + edge.lengthM / profile.speedMps
    if (st.best edge.target).all (candidate < ·) then
      { st with
        best := Function.update st.best edge.target (some candidate)
        previous := Function.update st.previous edge.target (some node)
        queue := heappush st.queue (candidate, edge.target) }
    else st

section Loop
variable (graph : RoadGraph K) (profile : ModeProfile K) (closures : List (BlockedPoint K))
variable (goal : NodeId K) (departAfterS maxDurationS : K)

/-- Dijkstra's loop; it returns the arrival at the goal, if it gets there. -/
def plainSearch : ℕ → PlainState K → Except PyError (Option K × PlainState K)
  | 0, _ => .error .outOfFuel
  | fuel + 1, st =>
    match st.queue with
    | [] => .ok (none, st)
    | (arrival, node) :: queue =>
      let st := { st with queue := queue }
      if (st.best node).any (· < arrival) then plainSearch fuel st
      else
        let st := { st with explored := st.explored + 1 }
        if node = goal then .ok (some arrival, st)
        else if maxDurationS < arrival - departAfterS then plainSearch fuel st
        else plainSearch fuel
          ((graph.neighbours node).foldl (plainRelax profile closures arrival node) st)

end Loop

def plainDistance (graph : RoadGraph K) : List (NodeId K) → K → K
  | a :: b :: rest, distance => plainDistance graph (b :: rest) (distance + segmentLength graph a b)
  | _, distance => distance

def PlainState.init (start : NodeId K) (departAfterS : K) : PlainState K where
  queue := [(departAfterS, start)]
  best := Function.update (fun _ => none) start (some departAfterS)
  previous := fun _ => none

/-- The plain search between two nodes. -/
def plainBetween (fuel : ℕ) (graph : RoadGraph K) (profile : ModeProfile K)
    (closures : List (BlockedPoint K)) (start goal : NodeId K) (departAfterS maxDurationS : K) :
    Except PyError (RouteResult K) := do
  match ← plainSearch graph profile closures goal departAfterS maxDurationS fuel
    (.init start departAfterS) with
  | (some arrival, st) =>
    let path := (← tracePath st.previous start fuel goal).reverse
    return {
      found := true
      reason := none
      coordinates := path.map fun node => (node.lon, node.lat)
      distanceM := pyRound 1 (plainDistance graph path 0)
      durationS := pyRound 1 (arrival - departAfterS)
      maxRisk := 0
      meanRisk := 0
      avoidedEdges := 0
      blockedByReports := st.blockedHits
      exploredNodes := st.explored }
  | (none, st) =>
    if st.blockedHits ≠ [] then
      return { RouteResult.refused (.hazardInTheWay 0 st.blockedHits.length) with
        blockedByReports := st.blockedHits
        exploredNodes := st.explored }
    else return { RouteResult.refused .notConnected with exploredNodes := st.explored }

/-- The plain search from place to place. It has no thresholds. -/
def plainRoute (fuel : ℕ) (graph : RoadGraph K) (profile : ModeProfile K)
    (closures : List (BlockedPoint K)) (origin destination : K × K)
    (departAfterS maxDurationS snapDistanceM : K) : Except PyError (RouteResult K) :=
  match graph.nearestNode origin.1 origin.2 snapDistanceM,
    graph.nearestNode destination.1 destination.2 snapDistanceM with
  | none, _ => .ok (.refused (.noRoadAtOrigin snapDistanceM))
  | some _, none => .ok (.refused (.noRoadAtShelter snapDistanceM))
  | some start, some goal =>
    match closureAt closures start.lat start.lon with
    | some report =>
      .ok { RouteResult.refused (.originClosed report.kind) with blockedByReports := [report] }
    | none => plainBetween fuel graph profile closures start goal departAfterS maxDurationS

/-- The state of the planner's search that goes with a state of the plain one. -/
def PlainState.toSearch (st : PlainState K) : SearchState K where
  queue := st.queue
  best := st.best
  previous := st.previous
  blockedHits := st.blockedHits
  explored := st.explored

variable {graph : RoadGraph K} {profile : ModeProfile K} {hazard : HazardField K}
variable {policy : HazardPolicy K} {start goal node : NodeId K} {dep maxDur snap arrival : K}
variable {origin destination : K × K} {st : PlainState K}

theorem edgeMultiplier_zero (hblock : 0 < policy.blockThreshold)
    (havoid : 0 ≤ policy.avoidThreshold) : policy.edgeMultiplier 0 = some 1 := by
  simp [HazardPolicy.edgeMultiplier, hblock, havoid]

theorem relaxEdge_toSearch (hslices : hazard.slices = []) (hblock : 0 < policy.blockThreshold)
    (havoid : 0 ≤ policy.avoidThreshold) (e : Edge K) :
    relaxEdge profile hazard policy arrival node st.toSearch e =
      .ok (plainRelax profile hazard.blocked arrival node st e).toSearch := by
  have hclosed : hazard.blockedByFieldReport e.target.lat e.target.lon =
      closureAt hazard.blocked e.target.lat e.target.lon := rfl
  rw [relaxEdge, plainRelax, hclosed]
  cases closureAt hazard.blocked e.target.lat e.target.lon with
  | some report =>
    by_cases h : report ∈ st.blockedHits <;> simp [PlainState.toSearch, h]
  | none =>
    simp only [HazardField.riskAt_of_slices_eq_nil hslices, ok_bind,
      edgeMultiplier_zero hblock havoid, mul_one]
    by_cases h : (st.best e.target).all (arrival + e.lengthM / profile.speedMps < ·) <;>
      simp [PlainState.toSearch, h]

theorem foldlM_relaxEdge_toSearch (hslices : hazard.slices = [])
    (hblock : 0 < policy.blockThreshold) (havoid : 0 ≤ policy.avoidThreshold)
    (edges : List (Edge K)) (st : PlainState K) :
    edges.foldlM (relaxEdge profile hazard policy arrival node) st.toSearch =
      .ok (edges.foldl (plainRelax profile hazard.blocked arrival node) st).toSearch := by
  induction edges generalizing st with
  | nil => rfl
  | cons e edges ih =>
    rw [List.foldlM_cons, relaxEdge_toSearch hslices hblock havoid, ok_bind, ih, List.foldl_cons]

/-- What the planner's search returns where the plain one returns a given value. -/
def plainOutcome : Option K × PlainState K → SearchOutcome K
  | (some arrival, st) => .reached arrival st.toSearch
  | (none, st) => .exhausted st.toSearch

/-- Without slices the two loops run in step. -/
theorem search_toSearch (hslices : hazard.slices = []) (hblock : 0 < policy.blockThreshold)
    (havoid : 0 ≤ policy.avoidThreshold) (fuel : ℕ) (st : PlainState K) :
    search graph profile hazard policy goal dep maxDur fuel st.toSearch =
      (plainSearch graph profile hazard.blocked goal dep maxDur fuel st).map plainOutcome := by
  induction fuel generalizing st with
  | zero => rfl
  | succ fuel ih =>
    rw [search, plainSearch]
    cases hq : st.queue with
    | nil =>
      have hq' : st.toSearch.queue = [] := hq
      simp [searchRound, hq', Except.map, plainOutcome]
    | cons entry queue =>
      obtain ⟨arrival, node⟩ := entry
      have hq' : st.toSearch.queue = (arrival, node) :: queue := hq
      have hbest : st.toSearch.best = st.best := rfl
      simp only [searchRound, hq', hbest]
      split
      · next hstale => exact ih { st with queue := queue }
      · split
        · next hgoal => rfl
        · split
          · next hlate => exact ih { st with queue := queue, explored := st.explored + 1 }
          · have hfold : (graph.neighbours node).foldlM
                (relaxEdge profile hazard policy arrival node)
                { st.toSearch with queue := queue, explored := st.toSearch.explored + 1 } = _ :=
              foldlM_relaxEdge_toSearch hslices hblock havoid (graph.neighbours node)
                { st with queue := queue, explored := st.explored + 1 }
            rw [← hbest, hfold]
            exact ih _

theorem measurePath_plain (hslices : hazard.slices = []) (graph : RoadGraph K) (speed : K)
    (path : List (NodeId K)) (distance elapsed : K) :
    ∃ risks, measurePath graph hazard speed path distance elapsed =
        .ok (plainDistance graph path distance, risks) ∧ ∀ risk ∈ risks, risk = 0 := by
  induction path generalizing distance elapsed with
  | nil => exact ⟨[], rfl, by simp⟩
  | cons a rest ih =>
    cases rest with
    | nil => exact ⟨[], rfl, by simp⟩
    | cons b rest =>
      obtain ⟨risks, hrest, hzero⟩ := ih (distance + segmentLength graph a b)
        (elapsed + segmentLength graph a b / max speed (1 / 10 ^ 6))
      refine ⟨0 :: risks, ?_, List.forall_mem_cons.2 ⟨rfl, hzero⟩⟩
      rw [measurePath, HazardField.riskAt_of_slices_eq_nil hslices, ok_bind, hrest]
      rfl

theorem foldl_max_zero {risks : List K} (h : ∀ risk ∈ risks, risk = 0) :
    risks.foldl max 0 = 0 := by
  induction risks with
  | nil => rfl
  | cons risk risks ih =>
    obtain ⟨rfl, hrest⟩ := List.forall_mem_cons.1 h
    rw [List.foldl_cons, max_self, ih hrest]

theorem routeBetween_plain (hslices : hazard.slices = []) (hblock : 0 < policy.blockThreshold)
    (havoid : 0 ≤ policy.avoidThreshold) (fuel : ℕ) :
    routeBetween fuel graph profile hazard policy start goal dep maxDur =
      plainBetween fuel graph profile hazard.blocked start goal dep maxDur := by
  have hinit : SearchState.init start dep =
      (PlainState.init start dep : PlainState K).toSearch := rfl
  rw [routeBetween, plainBetween, hinit, search_toSearch hslices hblock havoid]
  cases plainSearch graph profile hazard.blocked goal dep maxDur fuel (.init start dep) with
  | error e => rfl
  | ok outcome =>
    obtain ⟨arrived, st⟩ := outcome
    cases arrived with
    | none => by_cases h : st.blockedHits = [] <;>
        simp [Except.map, plainOutcome, PlainState.toSearch, h, RouteResult.refused]
    | some arrival =>
      have hprevious : st.toSearch.previous = st.previous := rfl
      simp only [Except.map, plainOutcome, ok_bind, buildResult, hprevious]
      cases tracePath st.previous start fuel goal with
      | error e => rfl
      | ok path =>
        obtain ⟨risks, hmeasure, hzero⟩ := measurePath_plain hslices graph profile.speedMps
          path.reverse 0 0
        have hsum : risks.sum = 0 := List.sum_eq_zero hzero
        simp only [ok_bind, pure_eq_ok, HazardField.riskAt_of_slices_eq_nil hslices, hmeasure,
          foldl_max_zero hzero, List.sum_cons, hsum, add_zero, zero_div, pyRound_zero,
          PlainState.toSearch]

/-- The planner treats what is not predicted as no danger: its result is that of the plain search,
nothing is avoided, and no start is refused as a hazard area. -/
structure PlansPlainly (fuel : ℕ) (graph : RoadGraph K) (profile : ModeProfile K)
    (hazard : HazardField K) (policy : HazardPolicy K) (origin destination : K × K)
    (dep maxDur snap : K) : Prop where
  plain : planRoute fuel graph profile hazard policy origin destination dep maxDur snap =
    plainRoute fuel graph profile hazard.blocked origin destination dep maxDur snap
  nothing_avoided : ∀ r,
    planRoute fuel graph profile hazard policy origin destination dep maxDur snap = .ok r →
      r.avoidedEdges = 0 ∧ ∀ risk threshold, r.reason ≠ some (.originInHazard risk threshold)

theorem plainBetween_ok {fuel : ℕ} {closures : List (BlockedPoint K)} {r : RouteResult K}
    (h : plainBetween fuel graph profile closures start goal dep maxDur = .ok r) :
    r.avoidedEdges = 0 ∧ ∀ risk threshold, r.reason ≠ some (.originInHazard risk threshold) := by
  obtain ⟨⟨arrived, st⟩, -, h⟩ := bind_eq_ok.1 h
  cases arrived with
  | none =>
    simp only [pure_eq_ok] at h
    split at h <;> simp [← Except.ok.inj h, RouteResult.refused]
  | some arrival =>
    obtain ⟨path, -, h⟩ := bind_eq_ok.1 h
    simp [← Except.ok.inj h]

theorem plainRoute_ok {fuel : ℕ} {closures : List (BlockedPoint K)} {r : RouteResult K}
    (h : plainRoute fuel graph profile closures origin destination dep maxDur snap = .ok r) :
    r.avoidedEdges = 0 ∧ ∀ risk threshold, r.reason ≠ some (.originInHazard risk threshold) := by
  unfold plainRoute at h
  split at h
  · simp [← Except.ok.inj h, RouteResult.refused]
  · simp [← Except.ok.inj h, RouteResult.refused]
  · split at h
    · simp [← Except.ok.inj h, RouteResult.refused]
    · exact plainBetween_ok h

theorem HazardPolicy.ofRequest_avoidThreshold_nonneg (payload : RouteRequest K) :
    0 ≤ (HazardPolicy.ofRequest payload).avoidThreshold :=
  le_min payload.avoidThreshold_ok.1 payload.blockThreshold_ok.1

/-- At a place that is not closed, the planner goes on exactly when the request blocks at a
positive risk. -/
theorem planRoute_plain_iff {payload : RouteRequest K} (hslices : hazard.slices = []) (fuel : ℕ)
    (hstart : graph.nearestNode origin.1 origin.2 snap = some start)
    (hgoal : graph.nearestNode destination.1 destination.2 snap = some goal)
    (hopen : closureAt hazard.blocked start.lat start.lon = none) :
    planRoute fuel graph profile hazard (.ofRequest payload) origin destination dep maxDur snap =
        plainRoute fuel graph profile hazard.blocked origin destination dep maxDur snap ↔
      0 < payload.blockThreshold := by
  have hclosed : hazard.blockedByFieldReport start.lat start.lon = none := hopen
  have havoid := HazardPolicy.ofRequest_avoidThreshold_nonneg payload
  simp only [planRoute, plainRoute, hstart, hgoal, hclosed, hopen,
    HazardField.riskAt_of_slices_eq_nil hslices, ok_bind]
  constructor
  · intro h
    by_contra hblock
    have hblocked : (HazardPolicy.ofRequest payload).edgeMultiplier 0 = none :=
      HazardPolicy.edgeMultiplier_eq_none.2 hblock
    rw [if_pos hblocked] at h
    exact (plainBetween_ok h.symm).2 _ _ rfl
  · intro hblock
    rw [edgeMultiplier_zero hblock havoid, if_neg (Option.some_ne_none _)]
    exact routeBetween_plain hslices hblock havoid fuel

/-- Without slices the planner agrees with the plain search exactly when the request blocks at a
positive risk, or ends before the start is looked up in the hazard field. -/
theorem plain_iff {payload : RouteRequest K} (hslices : hazard.slices = []) (fuel : ℕ)
    (graph : RoadGraph K) (profile : ModeProfile K) (origin destination : K × K)
    (dep maxDur snap : K) :
    PlansPlainly fuel graph profile hazard (.ofRequest payload) origin destination dep maxDur
        snap ↔
      0 < payload.blockThreshold ∨ graph.nearestNode origin.1 origin.2 snap = none ∨
        graph.nearestNode destination.1 destination.2 snap = none ∨
        ∃ start report, graph.nearestNode origin.1 origin.2 snap = some start ∧
          closureAt hazard.blocked start.lat start.lon = some report := by
  have hplain : PlansPlainly fuel graph profile hazard (.ofRequest payload) origin destination dep
      maxDur snap ↔ planRoute fuel graph profile hazard (.ofRequest payload) origin destination dep
        maxDur snap = plainRoute fuel graph profile hazard.blocked origin destination dep maxDur
        snap :=
    ⟨fun h => h.plain, fun h => ⟨h, fun r hr => plainRoute_ok (h.symm.trans hr)⟩⟩
  have hclosed : ∀ lat lon, hazard.blockedByFieldReport lat lon =
    closureAt hazard.blocked lat lon := fun _ _ => rfl
  rw [hplain]
  cases hstart : graph.nearestNode origin.1 origin.2 snap with
  | none => simp [planRoute, plainRoute, hstart]
  | some start =>
    cases hgoal : graph.nearestNode destination.1 destination.2 snap with
    | none => simp [planRoute, plainRoute, hstart, hgoal]
    | some goal =>
      cases hopen : closureAt hazard.blocked start.lat start.lon with
      | some report => simp [planRoute, plainRoute, hstart, hgoal, hclosed, hopen]
      | none =>
        rw [planRoute_plain_iff hslices fuel hstart hgoal hopen]
        simp [hopen]

end

/-- A request that blocks from the given risk on. -/
noncomputable def blockingFrom (threshold : ℝ) (h : 0 ≤ threshold ∧ threshold ≤ 1) :
    RouteRequest ℝ where
  hazard := "wildfire"
  blockThreshold := threshold
  maxShelters_ok := defaultMaxShelters_ok
  blockThreshold_ok := h
  avoidThreshold_ok := defaultAvoidThreshold_ok ℝ
  departAfterMinutes_ok := defaultDepartAfterMinutes_ok ℝ

/-- With the lowest threshold the planner refuses a start of which nothing is predicted. -/
theorem unknown_start_refused :
    (∃ r, planRoute 10 (meridianRoads [(36, 36.001)]) (profileFor .foot) (.build : HazardField ℝ)
        (.ofRequest (blockingFrom 0 (by norm_num))) (36, 129) (36.001, 129) 0 defaultMaxDurationS
        defaultSnapDistanceM = .ok r ∧ r.reason = some (.originInHazard 0 0)) ∧
      ¬ PlansPlainly 10 (meridianRoads [(36, 36.001)]) (profileFor .foot) .build
        (.ofRequest (blockingFrom 0 (by norm_num))) (36, 129) (36.001, 129) 0 defaultMaxDurationS
        defaultSnapDistanceM := by
  have hsnap : (0 : ℝ) < defaultSnapDistanceM := by norm_num [defaultSnapDistanceM]
  have hspans : ∀ x y : ℝ, (x, y) ∈ [((36 : ℝ), (36.001 : ℝ))] → |x| < 90 ∧ |y| < 90 := by
    intro x y hxy
    obtain ⟨rfl, rfl⟩ := Prod.mk.inj (List.mem_singleton.1 hxy)
    norm_num [abs_lt]
  have hstart := nearestNode_meridianRoads hspans (.inl List.mem_cons_self) hsnap
  have hgoal := nearestNode_meridianRoads hspans (.inr List.mem_cons_self) hsnap
  have hopen : (.build : HazardField ℝ).blockedByFieldReport (onMeridian 36).lat
    (onMeridian 36).lon = none := rfl
  have hrefused : ∃ r, planRoute 10 (meridianRoads [(36, 36.001)]) (profileFor .foot)
      (.build : HazardField ℝ) (.ofRequest (blockingFrom 0 (by norm_num))) (36, 129) (36.001, 129) 0
      defaultMaxDurationS defaultSnapDistanceM = .ok r ∧ r.reason = some (.originInHazard 0 0) := by
    have hrisk : (.build : HazardField ℝ).riskAt (onMeridian 36).lat (onMeridian 36).lon
        0 = .ok 0 :=
      HazardField.riskAt_of_slices_eq_nil rfl _ _ _
    have hblocked : (HazardPolicy.ofRequest (blockingFrom 0 (by norm_num))).edgeMultiplier 0 =
        none := by
      simp [HazardPolicy.edgeMultiplier, HazardPolicy.ofRequest, blockingFrom]
    simp only [planRoute, hstart, hgoal, hopen, hrisk, ok_bind, hblocked, ↓reduceIte]
    exact ⟨_, rfl, rfl⟩
  refine ⟨hrefused, fun h => ?_⟩
  obtain ⟨r, hr, hreason⟩ := hrefused
  exact (h.nothing_avoided r hr).2 _ _ hreason

/-- With the default threshold it does not. -/
theorem plain_iff_default :
    PlansPlainly 10 (meridianRoads [(36, 36.001)]) (profileFor .foot) (.build : HazardField ℝ)
      (.ofRequest (blockingFrom (1 / 2) (by norm_num))) (36, 129) (36.001, 129) 0
      defaultMaxDurationS defaultSnapDistanceM :=
  (plain_iff rfl 10 (meridianRoads [(36, 36.001)]) (profileFor .foot) (36, 129) (36.001, 129) 0
    defaultMaxDurationS defaultSnapDistanceM).2 (.inl one_half_pos)

end Salgil
