import Salgil.ContractClosures
import Salgil.SyntheticGate

namespace Salgil
set_option autoImplicit true
set_option linter.unusedSectionVars false

/-- The warning tells that part of a route lies outside the predicted area; none does. -/
def Warning.StatesUncovered : Warning → Prop
  | .noModel _ | .predictionFailed _ _ | .noGrid _ | .otherCrs _ | .unreadableGrid _ _
  | .assumedGeoreference | .syntheticInput _ | .capabilityUnknown _ | .limitation _
  | .predictionNotUsed | .noRouteFound => False

section
variable {K : Type} [Field K] [LinearOrder K] [IsStrictOrderedRing K] [FloorRing K] [MathLib K]

/-- The time for which the planner asks the risk of a node, on the step that reaches it first. -/
inductive AskedAt (graph : RoadGraph K) (profile : ModeProfile K) (hazard : HazardField K)
    (policy : HazardPolicy K) (start : NodeId K) (departAfterS maxDurationS : K) :
    NodeId K → K → Prop where
  | start : AskedAt graph profile hazard policy start departAfterS maxDurationS start departAfterS
  | step {p : List (NodeId K)} {n : NodeId K} {t : K} {e : Edge K} {risk multiplier : K} :
      AdmissibleWalk graph profile hazard policy start departAfterS maxDurationS p n t →
      t ≤ departAfterS + maxDurationS →
      e ∈ graph.neighbours n →
      (∀ report ∈ hazard.blocked,
        report.radiusM < haversineM e.target.lat e.target.lon report.lat report.lon) →
      hazard.riskAt e.target.lat e.target.lon (t + e.lengthM / profile.speedMps) = .ok risk →
      policy.edgeMultiplier risk = some multiplier →
      (∀ p' t', AdmissibleWalk graph profile hazard policy start departAfterS maxDurationS p'
        e.target t' → t + e.lengthM / profile.speedMps * multiplier ≤ t') →
      AskedAt graph profile hazard policy start departAfterS maxDurationS e.target
        (t + e.lengthM / profile.speedMps)

/-- A slice that the planner looked into for the node contains it. -/
def Covered (graph : RoadGraph K) (profile : ModeProfile K) (hazard : HazardField K)
    (policy : HazardPolicy K) (start : NodeId K) (departAfterS maxDurationS : K)
    (n : NodeId K) : Prop :=
  ∃ asked, AskedAt graph profile hazard policy start departAfterS maxDurationS n asked ∧
    ∃ s ∈ hazard.consulted asked, s.bbox.contains n.lat n.lon = true

/-- The request gets as far as the search: its place is on the road, open and not in hazard. -/
structure SetsOut (fuel : ℕ) (services : Services K) (payload : RouteRequest K)
    (graph : RoadGraph K) (origin : RouteOrigin K) (field : HazardField K) (start : NodeId K) :
    Prop where
  graph_eq : getGraph fuel services payload.mode = .ok graph
  origin_eq : routeOrigin services.database payload = .ok origin
  limitation_eq : ∃ out, hazardLimitation services.capabilityFor payload.hazard = .ok out
  field_eq : ∃ accepted warnings,
    requestField services payload origin = .ok (field, accepted, warnings)
  snap : graph.nearestNode origin.lat origin.lon defaultSnapDistanceM = some start
  not_closed : field.blockedByFieldReport start.lat start.lon = none
  passable : ∃ risk,
    field.riskAt start.lat start.lon (payload.departAfterMinutes * 60) = .ok risk ∧
      risk < payload.blockThreshold

/-- A walk of the request's mode of transport that its policy allows, in time. -/
abbrev RouteRequest.Walk (payload : RouteRequest K) (graph : RoadGraph K) (field : HazardField K)
    (start : NodeId K) : List (NodeId K) → NodeId K → K → Prop :=
  AdmissibleWalk graph (profileFor payload.mode) field (.ofRequest payload) start
    (payload.departAfterMinutes * 60) defaultMaxDurationS

abbrev RouteRequest.Covers (payload : RouteRequest K) (graph : RoadGraph K) (field : HazardField K)
    (start : NodeId K) : NodeId K → Prop :=
  Covered graph (profileFor payload.mode) field (.ofRequest payload) start
    (payload.departAfterMinutes * 60) defaultMaxDurationS

/-- Every node that can be reached in time is covered. -/
def AreaCovered (fuel : ℕ) (services : Services K) (payload : RouteRequest K) : Prop :=
  ∀ graph origin field start, SetsOut fuel services payload graph origin field start →
    field.hasPrediction = true →
    ∀ p n t, payload.Walk graph field start p n t → payload.Covers graph field start n

def Services.withShelters (services : Services K) (shelters : List (Shelter K)) : Services K :=
  { services with database := { services.database with shelters := shelters } }

/-- Whatever shelters there are, a plan that used predictions says that they do not cover the
route, or every node of its found legs is covered. -/
def AreaKept (fuel : ℕ) (services : Services K) (payload : RouteRequest K) : Prop :=
  ∀ shelters plan, planEvacuation fuel (services.withShelters shelters) payload = .ok plan →
    plan.predictionUsed = true →
    (∃ w ∈ plan.warnings, w.StatesUncovered) ∨
      ∀ leg ∈ plan.routes, leg.found = true → ∀ point ∈ leg.geometry,
        ∃ graph origin field start, SetsOut fuel services payload graph origin field start ∧
          payload.Covers graph field start ⟨point.2, point.1⟩

/-- The fuel lasts for the contraction of the road graph and for the search in it. -/
def EnoughFuel (fuel : ℕ) (services : Services K) (mode : TransportMode) : Prop :=
  ∀ features, services.roadFile services.roadNetworkPath = some features →
    (rawGraph services.roadNetworkPath (profileFor mode) features).nodes.keys.length + 2 ≤ fuel ∧
    ∀ graph, getGraph fuel services mode = .ok graph → graph.searchBudget < fuel

variable {graph : RoadGraph K} {profile : ModeProfile K} {hazard field : HazardField K}
variable {policy : HazardPolicy K} {start goal m n : NodeId K} {dep maxDur t : K}
variable {p : List (NodeId K)} {fuel : ℕ} {services : Services K} {payload : RouteRequest K}
variable {origin : RouteOrigin K} {plan : RoutePlan K} {leg : RouteLeg K}
variable {candidate : Shelter K × Option K}

theorem Warning.not_statesUncovered (w : Warning) : ¬ w.StatesUncovered := by
  cases w <;> exact id

theorem AdmissibleWalk.reaches
    (h : AdmissibleWalk graph profile hazard policy start dep maxDur p n t) (hm : m ∈ n :: p) :
    ∃ p' t', AdmissibleWalk graph profile hazard policy start dep maxDur p' m t' := by
  induction h with
  | start =>
    obtain rfl := List.mem_singleton.1 hm
    exact ⟨_, _, .start⟩
  | step hw ht he hopen hrisk hlt hmul ih =>
    rcases List.mem_cons.1 hm with rfl | hm
    · exact ⟨_, _, .step hw ht he hopen hrisk hlt hmul⟩
    · exact ih hm

/-- Where the field can be read, a node that can be reached is reached first by some step. -/
theorem AdmissibleWalk.exists_askedAt (hm : Metric graph profile policy)
    (hread : ∀ s ∈ hazard.slices, s.Readable)
    (h : AdmissibleWalk graph profile hazard policy start dep maxDur p n t) :
    ∃ asked, AskedAt graph profile hazard policy start dep maxDur n asked := by
  have hfuel : graph.searchBudget < graph.searchBudget + 1 := Nat.lt_succ_self _
  have hsearch : Ends hazard.Unreadable (SearchOutcome.Spec graph profile hazard policy start n dep
      maxDur _ _)
      (search graph profile hazard policy n dep maxDur _ (SearchState.init start dep)) :=
    search_ends hm hfuel
  cases ho : search graph profile hazard policy n dep maxDur (graph.searchBudget + 1)
    (SearchState.init start dep) with
  | error e =>
    obtain ⟨s, hs, hbad⟩ := (hsearch.of_error ho).exists_slice
    exact absurd (hread s hs) hbad
  | ok o =>
    cases hsearch.of_ok ho with
    | exhausted hempty =>
      exact absurd (hempty ▸ ⟨p, admissibleWalk_iff.1 h⟩) (Set.notMem_empty t)
    | reached hleast _ htimed =>
      have hwalk := admissibleWalk_iff.2 htimed
      cases hwalk with
      | start => exact ⟨_, .start⟩
      | step hw ht he hopen hrisk _ hmul =>
        refine ⟨_, .step hw ht he hopen hrisk hmul ?_⟩
        intro p' t' hw'
        exact hleast.2 ⟨p', admissibleWalk_iff.1 hw'⟩

theorem planRoute_of_routeLeg (h : routeLeg fuel graph payload origin field candidate = .ok leg)
    (hfound : leg.found = true) :
    ∃ lat lon r, planRoute fuel graph (profileFor payload.mode) field (.ofRequest payload)
        (origin.lat, origin.lon) (lat, lon) (payload.departAfterMinutes * 60) defaultMaxDurationS
        defaultSnapDistanceM = .ok r ∧
      r.found = true ∧ leg.geometry = r.coordinates := by
  obtain ⟨shelter, straightKm⟩ := candidate
  simp only [routeLeg] at h
  split at h
  · next lat lon _ _ =>
    obtain ⟨r, hr, h⟩ := bind_eq_ok.1 h
    cases h
    exact ⟨lat, lon, r, hr, hfound, rfl⟩
  · cases h
    cases hfound

theorem planEvacuation_used (h : planEvacuation fuel services payload = .ok plan)
    (hused : plan.predictionUsed = true) :
    ∃ graph origin field, getGraph fuel services payload.mode = .ok graph ∧
      routeOrigin services.database payload = .ok origin ∧
      (∃ out, hazardLimitation services.capabilityFor payload.hazard = .ok out) ∧
      (∃ accepted warnings,
        requestField services payload origin = .ok (field, accepted, warnings)) ∧
      field.hasPrediction = true ∧
      ∀ leg ∈ plan.routes,
        ∃ candidate, routeLeg fuel graph payload origin field candidate = .ok leg := by
  obtain ⟨graph, origin, candidates, limitation, warnings, hgraph, horigin, -,
      hlimitation, hplan⟩ :=
    planEvacuation_ok h
  rcases hplan with ⟨text, -, -, hplan⟩ |
    ⟨field, accepted, fieldWarnings, legs, -, hfield, hlegs, hplan⟩
  · simp [hplan.predictionUsed] at hused
  · refine ⟨graph, origin, field, hgraph, horigin, ⟨_, hlimitation⟩, ⟨_, _, hfield⟩,
      hplan.predictionUsed ▸ hused, ?_⟩
    intro leg hleg
    rw [hplan.routes, List.mem_insertionSort] at hleg
    obtain ⟨candidate, -, hcandidate⟩ := mem_of_mapM_eq_ok hlegs hleg
    exact ⟨candidate, hcandidate⟩

@[simp] theorem getGraph_withShelters (shelters : List (Shelter K)) (mode : TransportMode) :
    getGraph fuel (services.withShelters shelters) mode = getGraph fuel services mode := rfl

@[simp] theorem routeOrigin_withShelters (shelters : List (Shelter K)) :
    routeOrigin (services.withShelters shelters).database payload =
      routeOrigin services.database payload := rfl

@[simp] theorem requestField_withShelters (shelters : List (Shelter K)) :
    requestField (services.withShelters shelters) payload origin =
      requestField services payload origin := rfl

theorem SetsOut.departs (h : SetsOut fuel services payload graph origin field start)
    {lat lon : K} (hsnap : graph.nearestNode lat lon defaultSnapDistanceM = some goal) :
    Departs graph field (.ofRequest payload) (origin.lat, origin.lon) (lat, lon)
      (payload.departAfterMinutes * 60) defaultSnapDistanceM start goal :=
  ⟨h.snap, hsnap, h.not_closed, h.passable⟩

theorem one_le_avoidPenalty_ofRequest : 1 ≤ (HazardPolicy.ofRequest payload).avoidPenalty := by
  norm_num [HazardPolicy.ofRequest, HazardPolicy.default]

end

section
variable {fuel : ℕ} {services : Services ℝ} {payload : RouteRequest ℝ} {mode : TransportMode}
variable {graph : RoadGraph ℝ} {origin : RouteOrigin ℝ} {field : HazardField ℝ}
variable {start n : NodeId ℝ} {p : List (NodeId ℝ)} {t : ℝ} {features : List (Feature ℝ)}

theorem getGraph_contracted (hfuel : EnoughFuel fuel services mode)
    (h : getGraph fuel services mode = .ok graph) :
    ∃ features junctions walked chains source wayCount attribution,
      services.roadFile services.roadNetworkPath = some features ∧
      Contracted (rawGraph services.roadNetworkPath (profileFor mode) features) geodesic junctions
        ⟨walked, chains⟩ ∧
      graph = contractedGraph source wayCount attribution chains := by
  simp only [getGraph] at h
  split at h
  · cases h
  · split at h
    · cases h
    · next features hfile =>
      obtain ⟨chains, junctions, walked, source, wayCount, attribution, -, hcontracted, hload⟩ :=
        loadRoadGraph_contracted services.order _ mode features (hfuel features hfile).1
      rw [hload] at h
      cases h
      exact ⟨features, junctions, walked, chains, source, wayCount, attribution, hfile,
        hcontracted, rfl⟩

theorem getGraph_searchable (hfuel : EnoughFuel fuel services mode)
    (h : getGraph fuel services mode = .ok graph) {policy : HazardPolicy ℝ}
    (hpenalty : 1 ≤ policy.avoidPenalty) :
    graph.searchBudget < fuel ∧ Metric graph (profileFor mode) policy := by
  obtain ⟨features, junctions, walked, chains, source, wayCount, attribution, hfile, hc, rfl⟩ :=
    getGraph_contracted hfuel h
  exact ⟨(hfuel features hfile).2 _ h, hc.metric mode hpenalty⟩

theorem AreaCovered.kept (h : AreaCovered fuel services payload)
    (hfuel : EnoughFuel fuel services payload.mode) : AreaKept fuel services payload := by
  intro shelters plan hplan hused
  right
  intro leg hleg hfound point hpoint
  obtain ⟨graph, origin, field, hgraph, horigin, hlimitation, hfield, hprediction, hlegs⟩ :=
    planEvacuation_used hplan hused
  obtain ⟨candidate, hcandidate⟩ := hlegs leg hleg
  obtain ⟨lat, lon, r, hr, hrfound, hgeometry⟩ := planRoute_of_routeLeg hcandidate hfound
  obtain ⟨start, goal, hd⟩ := departs_of_found hr hrfound
  have hset : SetsOut fuel services payload graph origin field start :=
    ⟨hgraph, horigin, hlimitation, hfield, hd.snap_origin, hd.not_closed, hd.passable⟩
  obtain ⟨hbudget, hm⟩ := getGraph_searchable hfuel hgraph one_le_avoidPenalty_ofRequest
  obtain ⟨p, t, hw, -, hcoords⟩ := ((hd.planRoute_ends hm _ hbudget).of_ok hr).simple hrfound
  rw [hgeometry, hcoords] at hpoint
  obtain ⟨n, hn, rfl⟩ := List.mem_map.1 hpoint
  obtain ⟨p', t', hw'⟩ := hw.reaches (List.mem_reverse.1 hn)
  exact ⟨graph, origin, field, start, hset, h _ _ _ _ hset hprediction _ _ _ hw'⟩

/-- The points of the road file lie on the map, away from the poles and the antimeridian. -/
def RoadsOnMap (services : Services ℝ) (mode : TransportMode) : Prop :=
  ∀ features, services.roadFile services.roadNetworkPath = some features →
    ∀ n ∈ (rawGraph services.roadNetworkPath (profileFor mode) features).nodes.keys, n.OnMap

/-- No grid that the request reads is empty. -/
def GridsReadable (services : Services ℝ) (payload : RouteRequest ℝ) : Prop :=
  ∀ origin field accepted warnings, routeOrigin services.database payload = .ok origin →
    requestField services payload origin = .ok (field, accepted, warnings) →
    ∀ s ∈ field.slices, s.Readable

/-- A shelter for the request at a node of the road graph. -/
def shelterAt (payload : RouteRequest ℝ) (origin : RouteOrigin ℝ) (n : NodeId ℝ) : Shelter ℝ where
  id := payload.shelterId.getD 0
  regionCode := origin.regionCode.getD ""
  name := ""
  lat := some n.lat
  lon := some n.lon
  capacity := none
  capacityBasis := none
  hazards := [payload.hazard]

theorem candidateShelters_shelterAt {payload : RouteRequest ℝ} {origin : RouteOrigin ℝ}
    (database : Database ℝ) (n : NodeId ℝ) (h : database.shelters = [shelterAt payload origin n]) :
    ∃ straightKm, candidateShelters database payload origin =
      .ok [(shelterAt payload origin n, straightKm)] := by
  obtain ⟨limit, hlimit⟩ := Nat.exists_eq_succ_of_ne_zero
    (Nat.one_le_iff_ne_zero.1 payload.maxShelters_ok.1)
  unfold candidateShelters
  cases hid : payload.shelterId with
  | none =>
    cases hregion : origin.regionCode with
    | none => exact ⟨_, by simp [findShelters, hlimit, h, shelterAt]; rfl⟩
    | some region => exact ⟨_, by simp [findShelters, hlimit, h, shelterAt, hregion]; rfl⟩
  | some id => exact ⟨_, by simp [h, shelterAt, hid]; rfl⟩

theorem SetsOut.unique {graph' : RoadGraph ℝ} {origin' : RouteOrigin ℝ} {field' : HazardField ℝ}
    {start' : NodeId ℝ} (h : SetsOut fuel services payload graph origin field start)
    (h' : SetsOut fuel services payload graph' origin' field' start') :
    graph' = graph ∧ origin' = origin ∧ field' = field ∧ start' = start := by
  obtain rfl := Except.ok.inj (h.graph_eq.symm.trans h'.graph_eq)
  obtain rfl := Except.ok.inj (h.origin_eq.symm.trans h'.origin_eq)
  obtain ⟨_, _, hfield⟩ := h.field_eq
  obtain ⟨_, _, hfield'⟩ := h'.field_eq
  obtain ⟨rfl, -⟩ := Prod.mk.inj (Except.ok.inj (hfield.symm.trans hfield'))
  exact ⟨rfl, rfl, rfl, Option.some.inj (h'.snap.symm.trans h.snap)⟩

theorem SetsOut.planEvacuation_shelterAt
    (h : SetsOut fuel services payload graph origin field start) {r : RouteResult ℝ}
    (hr : planRoute fuel graph (profileFor payload.mode) field (.ofRequest payload)
      (origin.lat, origin.lon) (n.lat, n.lon) (payload.departAfterMinutes * 60)
      defaultMaxDurationS defaultSnapDistanceM = .ok r) (hfound : r.found = true) :
    ∃ plan, planEvacuation fuel (services.withShelters [shelterAt payload origin n]) payload =
        .ok plan ∧
      plan.predictionUsed = field.hasPrediction ∧
      ∃ leg ∈ plan.routes, leg.found = true ∧ leg.geometry = r.coordinates := by
  obtain ⟨⟨limitation, warnings⟩, hlimitation⟩ := h.limitation_eq
  obtain ⟨accepted, fieldWarnings, hfield⟩ := h.field_eq
  obtain ⟨straightKm, hcandidates⟩ := candidateShelters_shelterAt
    (services.withShelters [shelterAt payload origin n]).database n rfl
  obtain ⟨leg, hleg, hlegfound, hgeometry⟩ : ∃ leg,
      routeLeg fuel graph payload origin field (shelterAt payload origin n, straightKm) = .ok leg ∧
        leg.found = true ∧ leg.geometry = r.coordinates := by
    simp only [routeLeg, shelterAt, hr, ok_bind, pure_eq_ok, Except.ok.injEq, exists_eq_left',
      hfound, and_self]
  obtain ⟨plan, hplan, hrouted⟩ := planEvacuation_of_legs
    (services.withShelters [shelterAt payload origin n]) h.graph_eq h.origin_eq
    hcandidates hlimitation (List.cons_ne_nil _ _) hfield
    (mapM_eq_ok.2 (.cons hleg .nil))
  refine ⟨plan, hplan, hrouted.predictionUsed, leg, ?_, hlegfound, hgeometry⟩
  rw [hrouted.routes]
  exact List.mem_cons_self

theorem SetsOut.mem_keys_reachable
    (h : SetsOut fuel services payload graph origin field start)
    (hfuel : EnoughFuel fuel services payload.mode)
    (hw : payload.Walk graph field start p n t) : n ∈ graph.nodes.keys := by
  obtain ⟨features, junctions, walked, chains, source, wayCount, attribution, hfile, hc, rfl⟩ :=
    getGraph_contracted hfuel h.graph_eq
  cases hw with
  | start => exact contractedGraph_indexed.nearestNode_mem h.snap
  | step _ _ he =>
    apply (mem_keys_contracted _ _ _).2
    obtain ⟨c, hchain, ⟨-, rfl⟩ | ⟨-, rfl⟩⟩ := mem_neighbours_contractedGraph.1 he
    · exact ⟨c, hchain, .inr rfl⟩
    · exact ⟨c, hchain, .inl rfl⟩

theorem SetsOut.nearestNode_reachable
    (h : SetsOut fuel services payload graph origin field start)
    (hfuel : EnoughFuel fuel services payload.mode) (hmap : RoadsOnMap services payload.mode)
    (hw : payload.Walk graph field start p n t) :
    graph.nearestNode n.lat n.lon defaultSnapDistanceM = some n := by
  have hkey := h.mem_keys_reachable hfuel hw
  obtain ⟨features, junctions, walked, chains, source, wayCount, attribution, hfile, hc, rfl⟩ :=
    getGraph_contracted hfuel h.graph_eq
  apply hc.nearestNode_self (hmap features hfile) _ (by norm_num [defaultSnapDistanceM])
  exact (mem_keys_contracted _ _ _).1 hkey

theorem SetsOut.planRoute_reachable
    (h : SetsOut fuel services payload graph origin field start)
    (hfuel : EnoughFuel fuel services payload.mode) (hmap : RoadsOnMap services payload.mode)
    (hread : GridsReadable services payload) (hw : payload.Walk graph field start p n t) :
    ∃ r, planRoute fuel graph (profileFor payload.mode) field (.ofRequest payload)
        (origin.lat, origin.lon) (n.lat, n.lon) (payload.departAfterMinutes * 60)
        defaultMaxDurationS defaultSnapDistanceM = .ok r ∧ r.found = true ∧
      r.Spec graph (profileFor payload.mode) field (.ofRequest payload) start n
        (payload.departAfterMinutes * 60) defaultMaxDurationS fuel := by
  obtain ⟨hbudget, hm⟩ := getGraph_searchable hfuel h.graph_eq one_le_avoidPenalty_ofRequest
  have hd := h.departs (h.nearestNode_reachable hfuel hmap hw)
  have hends := hd.planRoute_ends hm defaultMaxDurationS hbudget
  cases hr : planRoute fuel graph (profileFor payload.mode) field (.ofRequest payload)
    (origin.lat, origin.lon) (n.lat, n.lon) (payload.departAfterMinutes * 60)
    defaultMaxDurationS defaultSnapDistanceM with
  | error e =>
    obtain ⟨s, hs, hbad⟩ := (hends.of_error hr).exists_slice
    obtain ⟨_, _, hfield⟩ := h.field_eq
    exact absurd (hread _ _ _ _ h.origin_eq hfield s hs) hbad
  | ok r =>
    have hspec := hends.of_ok hr
    exact ⟨r, rfl, hspec.found_iff.2 ⟨p, t, hw⟩, hspec⟩

/-- Where every plan leads through covered nodes only, every node that can be reached is covered:
it could have a shelter. -/
theorem AreaKept.covered (h : AreaKept fuel services payload)
    (hfuel : EnoughFuel fuel services payload.mode) (hmap : RoadsOnMap services payload.mode)
    (hread : GridsReadable services payload) : AreaCovered fuel services payload := by
  intro graph origin field start hset hprediction p n t hw
  obtain ⟨r, hr, hfound, hspec⟩ := hset.planRoute_reachable hfuel hmap hread hw
  obtain ⟨q, s, -, -, hcoords⟩ := hspec.simple hfound
  obtain ⟨plan, hplan, hused, leg, hleg, hlegfound, hgeometry⟩ :=
    hset.planEvacuation_shelterAt hr hfound
  rcases h _ plan hplan (hused.trans hprediction) with ⟨w, -, hw⟩ | hcovers
  · exact absurd hw w.not_statesUncovered
  · have hpoint : (n.lon, n.lat) ∈ leg.geometry := by
      rw [hgeometry, hcoords]
      exact List.mem_map.2 ⟨n, by simp, rfl⟩
    obtain ⟨graph', origin', field', start', hset', hn⟩ := hcovers leg hleg hlegfound _ hpoint
    obtain ⟨rfl, rfl, rfl, rfl⟩ := hset.unique hset'
    exact hn

/-- No plan leads beyond the predictions it uses without saying so exactly when they cover all
that can be reached in time. -/
theorem areaKept_iff (services : Services ℝ) (payload : RouteRequest ℝ) {fuel : ℕ}
    (hfuel : EnoughFuel fuel services payload.mode) :
    (AreaCovered fuel services payload → AreaKept fuel services payload) ∧
      (RoadsOnMap services payload.mode → GridsReadable services payload →
        (AreaKept fuel services payload ↔ AreaCovered fuel services payload)) :=
  ⟨fun h => h.kept hfuel, fun hmap hread =>
    ⟨fun h => h.covered hfuel hmap hread, fun h => h.kept hfuel⟩⟩

theorem HazardField.head_mem_consulted {f : HazardField ℝ} {s : HazardSlice ℝ}
    {rest : List (HazardSlice ℝ)} (h : f.slices = s :: rest) (t : ℝ) : s ∈ f.consulted t := by
  have hpos : ∀ k : ℕ, (if k = 0 then 1 else k) ≠ 0 := by
    intro k
    split <;> omega
  obtain ⟨k, hk⟩ := Nat.exists_eq_succ_of_ne_zero (hpos (bisectRight f.horizons (t / 60)))
  rw [consulted, hk, h, List.take_succ_cons]
  exact List.mem_cons_self

theorem AreaCovered.of_first (hfuel : EnoughFuel fuel services payload.mode)
    (hread : GridsReadable services payload)
    (h : ∀ graph origin field start, SetsOut fuel services payload graph origin field start →
      ∃ s rest, field.slices = s :: rest ∧
        ∀ n ∈ graph.nodes.keys, s.bbox.contains n.lat n.lon = true) :
    AreaCovered fuel services payload := by
  intro graph origin field start hset _ p n t hw
  obtain ⟨s, rest, hslices, hcontains⟩ := h _ _ _ _ hset
  obtain ⟨_, _, hfield⟩ := hset.field_eq
  obtain ⟨asked, hasked⟩ := hw.exists_askedAt
    (getGraph_searchable hfuel hset.graph_eq one_le_avoidPenalty_ofRequest).2
    (hread _ _ _ _ hset.origin_eq hfield)
  exact ⟨asked, hasked, s, field.head_mem_consulted hslices asked,
    hcontains n (hset.mem_keys_reachable hfuel hw)⟩

end

/-- A country road of 9 km, drawn with its two ends. -/
noncomputable def longRoad : Feature ℝ where
  geometryType := some "LineString"
  coordinates := [(129, 36.4), (129, 36.48)]
  properties := [("highway", "residential")]
  featureId := none

/-- The server predicts no fire over the given area. -/
noncomputable def longRoadServices (area : Bbox ℝ) : Services ℝ where
  roadNetworkPath := "roads.geojsonseq"
  roadFile _ := some [longRoad]
  order := someOrder
  predict _ := .ok (oneCell area 0 .real)
  capabilityFor := none
  database := {}

/-- On foot, from the south end of the road. -/
noncomputable def longRoadRequest : RouteRequest ℝ where
  lat := some 36.4
  lon := some 129
  hazard := "wildfire"
  horizonsMinutes := [30]
  maxShelters_ok := defaultMaxShelters_ok
  blockThreshold_ok := by norm_num
  avoidThreshold_ok := defaultAvoidThreshold_ok ℝ
  departAfterMinutes_ok := defaultDepartAfterMinutes_ok ℝ

theorem contractedChains_segment {a b : NodeId ℝ} {source : String} {d : ℝ}
    {wayId : Option String} {tags : Tags} (hab : a ≠ b) {g : RoadGraph ℝ}
    (hg : g.nodes = (({ source } : RoadGraph ℝ).addSegment a b d wayId tags).nodes)
    (order : SetOrder (NodeId ℝ)) :
    ∃ c, contractedChains order 4 g minNodeSpacingM = .ok [c] ∧ c.lengthM = d ∧
      (c.anchor = a ∧ c.current = b ∨ c.anchor = b ∧ c.current = a) := by
  have hnodes : g.nodes.keys = [a, b] ∧ g.nodes.get? a = some [⟨b, d, wayId, tags⟩] ∧
      g.nodes.get? b = some [⟨a, d, wayId, tags⟩] := by
    rw [hg]
    simp [RoadGraph.addSegment, RoadGraph.addNode, RoadGraph.appendEdge, RoadGraph.neighbours,
      Dict.empty, Dict.set, Function.update, hab, hab.symm]
  obtain ⟨hkeys, ha, hb⟩ := hnodes
  have hbranching : branching g = {a, b} := by
    simp [branching, hkeys, RoadGraph.neighbours, ha, hb]
  have hjunctions : junctionsOf g 4 = .ok {a, b} := by
    simp [junctionsOf, hbranching, hkeys, ringRound, ringWalk, RoadGraph.edgesAt, hab, hab.symm]
  rcases order.list_pair hab with horder | horder
  · refine ⟨⟨a, [], b, d, wayId, tags⟩, ?_, rfl, .inl ⟨rfl, rfl⟩⟩
    simp [contractedChains, hjunctions, horder, walkJunction, RoadGraph.edgesAt, ha, hb,
      walkEdge, walkChain, chainRound, hab, hab.symm, ChainState.chain]
  · refine ⟨⟨b, [], a, d, wayId, tags⟩, ?_, rfl, .inr ⟨rfl, rfl⟩⟩
    simp [contractedChains, hjunctions, horder, walkJunction, RoadGraph.edgesAt, ha, hb,
      walkEdge, walkChain, chainRound, hab, hab.symm, ChainState.chain]

theorem longRoad_nodes (path : String) : (rawGraph path (profileFor .foot) [longRoad]).nodes =
    (({ source := path } : RoadGraph ℝ).addSegment (onMeridian 36.4) (onMeridian 36.48)
      ((onMeridian 36.4).distance (onMeridian 36.48)) none [("highway", "residential")]).nodes := by
  have hpassable : ((profileFor .foot : ModeProfile ℝ).passable
      [("highway", "residential")]).1 = true := by
    decide +kernel
  have hsouth : nodeId 129 (36.4 : ℝ) = onMeridian 36.4 :=
    nodeId_onMeridian (n := 364000000) (by norm_num)
  have hnorth : nodeId 129 (36.48 : ℝ) = onMeridian 36.48 :=
    nodeId_onMeridian (n := 364800000) (by norm_num)
  have hne : (36.48 : ℝ) ≠ 36.4 := by norm_num
  simp [rawGraph, addFeature, longRoad, hpassable, addPoint, hsouth, hnorth, onMeridian_inj, hne,
    Feature.wayId]

section LongRoad
variable {area : Bbox ℝ}

theorem longRoad_keys (path : String) : (rawGraph path (profileFor .foot) [longRoad]).nodes.keys =
    [onMeridian 36.4, onMeridian 36.48] := by
  have hne : onMeridian 36.4 ≠ onMeridian 36.48 := by norm_num [onMeridian_inj]
  rw [longRoad_nodes]
  simp [RoadGraph.addSegment, RoadGraph.addNode, RoadGraph.appendEdge, RoadGraph.neighbours,
    Dict.empty, Dict.set, Function.update, hne, hne.symm]

theorem searchBudget_contractedGraph_single {c : WalkedChain ℝ} {source attribution : String}
    {wayCount : ℕ} (hne : c.anchor ≠ c.current) :
    (contractedGraph source wayCount attribution [c]).searchBudget = 3 := by
  simp [RoadGraph.searchBudget, contractedGraph, addChain, RoadGraph.addSegment, RoadGraph.addNode,
    RoadGraph.appendEdge, RoadGraph.neighbours, Dict.empty, Dict.set,
      Function.update, hne, hne.symm]

theorem longRoad_graph : ∃ c source wayCount attribution junctions walked,
    c.lengthM = (onMeridian 36.4).distance (onMeridian 36.48) ∧
    (c.anchor = onMeridian 36.4 ∧ c.current = onMeridian 36.48 ∨
      c.anchor = onMeridian 36.48 ∧ c.current = onMeridian 36.4) ∧
    Contracted (rawGraph "roads.geojsonseq" (profileFor .foot) [longRoad]) geodesic junctions
      ⟨walked, [c]⟩ ∧
    ∀ area, getGraph 4 (longRoadServices area) .foot =
      .ok (contractedGraph source wayCount attribution [c]) := by
  have hne : onMeridian 36.4 ≠ onMeridian 36.48 := by norm_num [onMeridian_inj]
  obtain ⟨c, hchains, hlength, hends⟩ :=
    contractedChains_segment hne (longRoad_nodes "roads.geojsonseq") someOrder
  have hfuel :
      (rawGraph "roads.geojsonseq" (profileFor .foot) [longRoad]).nodes.keys.length + 2 ≤ 4 := by
    rw [longRoad_keys]
    exact le_rfl
  obtain ⟨junctions, walked, h⟩ := (contractedChains_ends someOrder
    (rawGraph_undirected _ _ _) minNodeSpacingM hfuel).of_ok hchains
  obtain ⟨source, wayCount, attribution, hload⟩ := loadRoadGraph_eq hchains
  refine ⟨c, source, wayCount, attribution, junctions, walked, hlength, hends, h, fun area => ?_⟩
  have hpath : "roads.geojsonseq" ≠ "" := by decide
  simp only [getGraph, longRoadServices, hpath, ↓reduceIte, hload]

theorem longRoad_enoughFuel (area : Bbox ℝ) : EnoughFuel 4 (longRoadServices area) .foot := by
  obtain ⟨c, source, wayCount, attribution, junctions, walked, -, hends, -, hgraph⟩ :=
    longRoad_graph
  intro features hfile
  obtain rfl : [longRoad] = features := Option.some.inj hfile
  constructor
  · show (rawGraph "roads.geojsonseq" (profileFor .foot) [longRoad]).nodes.keys.length + 2 ≤ 4
    rw [longRoad_keys]
    exact le_rfl
  · intro graph h
    rw [hgraph] at h
    cases h
    rw [searchBudget_contractedGraph_single]
    · exact Nat.lt_succ_self 3
    · rcases hends with ⟨ha, hb⟩ | ⟨ha, hb⟩ <;> rw [ha, hb] <;> norm_num [onMeridian_inj]

theorem longRoad_field (area : Bbox ℝ) : ∃ field accepted warnings,
    requestField (longRoadServices area) longRoadRequest ⟨36.4, 129, none, none⟩ =
      .ok (field, accepted, warnings) ∧
    field.slices = [⟨30, 1, 1, area, [0]⟩] ∧ field.blocked = [] := by
  have hrecipe : recipeForHazard "wildfire" = some .wildfireSpread := by decide
  have hsorted : sortedSet [30] = [30] := by decide
  have hgenuine : isSynthetic (some (oneCell area 0 .real).metadata) = false := by
    simp [isSynthetic, PredictionResult.metadata, oneCell]
  simp [requestField, longRoadRequest, longRoadServices, hazardField, hrecipe, hsorted,
    readHorizon, predictionRequest, Reading.add, readResult_oneCell, Reading.field, hgenuine,
    HazardField.build, sortByHorizon]

theorem longRoad_origin (area : Bbox ℝ) :
    routeOrigin (longRoadServices area).database longRoadRequest =
    .ok ⟨36.4, 129, none, none⟩ := rfl

theorem longRoad_slices {field : HazardField ℝ} {origin : RouteOrigin ℝ}
    {accepted : Option PredictionMeta} {warnings : List Warning}
    (horigin : routeOrigin (longRoadServices area).database longRoadRequest = .ok origin)
    (h : requestField (longRoadServices area) longRoadRequest origin =
      .ok (field, accepted, warnings)) :
    field.slices = [⟨30, 1, 1, area, [0]⟩] ∧ field.blocked = [] := by
  obtain ⟨field', _, _, hfield', hslices, hblocked⟩ := longRoad_field area
  obtain rfl := Except.ok.inj ((longRoad_origin area).symm.trans horigin)
  rw [hfield', Except.ok.injEq, Prod.mk.injEq] at h
  rw [← h.1]
  exact ⟨hslices, hblocked⟩

theorem longRoad_gridsReadable (area : Bbox ℝ) :
    GridsReadable (longRoadServices area) longRoadRequest := by
  intro origin field accepted warnings horigin hfield s hs
  rw [(longRoad_slices horigin hfield).1, List.mem_singleton] at hs
  subst hs
  exact ⟨by norm_num, by norm_num⟩

theorem longRoad_onMap (area : Bbox ℝ) : RoadsOnMap (longRoadServices area) .foot := by
  intro features hfile n hn
  obtain rfl : [longRoad] = features := Option.some.inj hfile
  rw [longRoad_keys] at hn
  simp only [List.mem_cons, List.not_mem_nil, or_false] at hn
  rcases hn with rfl | rfl <;> apply onMeridian_onMap <;> norm_num [abs_of_pos]

theorem riskAt_dry {field : HazardField ℝ} (h : field.slices = [⟨30, 1, 1, area, [0]⟩])
    (lat lon t : ℝ) : field.riskAt lat lon t = .ok 0 := by
  have hcell : (⟨30, 1, 1, area, [0]⟩ : HazardSlice ℝ).cellIndex lat lon = 0 := by
    simp [HazardSlice.cellIndex]
  rw [HazardField.riskAt, HazardField.consulted_singleton h, List.foldlM_cons, worstOf,
    HazardSlice.valueAt, hcell]
  split <;> simp [pyGetItem, Except.map]

theorem longRoad_reached (area : Bbox ℝ) : ∃ graph field p t,
    SetsOut 4 (longRoadServices area) longRoadRequest graph ⟨36.4, 129, none, none⟩ field
      (onMeridian 36.4) ∧
    field.slices = [⟨30, 1, 1, area, [0]⟩] ∧
    longRoadRequest.Walk graph field (onMeridian 36.4) p (onMeridian 36.48) t := by
  obtain ⟨c, source, wayCount, attribution, junctions, walked, -, hends, hc, hgraph⟩ :=
    longRoad_graph
  obtain ⟨field, accepted, warnings, hfield, hslices, hblocked⟩ := longRoad_field area
  have hkept : Kept [c] (onMeridian 36.4) := by
    rcases hends with ⟨ha, -⟩ | ⟨-, hb⟩
    · exact ⟨c, List.mem_cons_self, .inl ha.symm⟩
    · exact ⟨c, List.mem_cons_self, .inr hb.symm⟩
  have hblock : (0 : ℝ) < longRoadRequest.blockThreshold := by norm_num [longRoadRequest]
  have hopen : ∀ report ∈ field.blocked, report.radiusM <
      haversineM (onMeridian 36.48).lat (onMeridian 36.48).lon report.lat report.lon := by
    simp [hblocked]
  obtain ⟨m, hm⟩ := Option.isSome_iff_exists.1
    ((HazardPolicy.edgeMultiplier_isSome (p := .ofRequest longRoadRequest)).2 hblock)
  have hedge : ⟨onMeridian 36.48, c.lengthM, c.wayId, c.tags⟩ ∈
      (contractedGraph source wayCount attribution [c]).neighbours (onMeridian 36.4) := by
    rw [mem_neighbours_contractedGraph]
    rcases hends with ⟨ha, hb⟩ | ⟨ha, hb⟩
    · exact ⟨c, List.mem_cons_self, .inl ⟨ha.symm, by rw [hb]⟩⟩
    · exact ⟨c, List.mem_cons_self, .inr ⟨hb.symm, by rw [ha]⟩⟩
  refine ⟨_, field, _, _, ⟨hgraph area, rfl, ⟨_, rfl⟩, ⟨_, _, hfield⟩, ?_, ?_,
    0, ?_, hblock⟩, hslices,
    .step .start ?_ hedge hopen (riskAt_dry hslices _ _ _) hblock hm⟩
  · exact hc.nearestNode_self (longRoad_onMap area _ rfl) hkept (by norm_num [defaultSnapDistanceM])
  · simp [blockedByFieldReport_eq_none, hblocked]
  · exact riskAt_dry hslices _ _ _
  · norm_num [defaultMaxDurationS]

end LongRoad

/-- With the predictions that it asks for itself, the service leads a walker 3 km beyond them and
tells nothing about it. -/
theorem longRoad_beyond_predictions : ¬ AreaKept 4
    (longRoadServices (bboxAround 36.4 129 predictionRadiusM)) longRoadRequest := by
  intro hkept
  obtain ⟨graph, field, p, t, hset, hslices, hw⟩ := longRoad_reached
    (bboxAround 36.4 129 predictionRadiusM)
  have hprediction : field.hasPrediction = true := by simp [HazardField.hasPrediction, hslices]
  obtain ⟨asked, -, s, hs, hcontains⟩ := hkept.covered (longRoad_enoughFuel _) (longRoad_onMap _)
    (longRoad_gridsReadable _) _ _ _ _ hset hprediction _ _ _ hw
  have hmem := List.mem_of_mem_take hs
  rw [hslices, List.mem_singleton] at hmem
  subst hmem
  simp only [Bbox.contains, bboxAround, onMeridian, predictionRadiusM] at hcontains
  norm_num at hcontains

/-- Predictions for the whole road are kept. -/
theorem areaKept_iff_long_road :
    AreaKept 4 (longRoadServices ⟨36, 128, 37, 130⟩) longRoadRequest := by
  have hfuel : EnoughFuel 4 (longRoadServices ⟨36, 128, 37, 130⟩) longRoadRequest.mode :=
    longRoad_enoughFuel _
  apply (areaKept_iff _ _ hfuel).1
  apply AreaCovered.of_first hfuel (longRoad_gridsReadable _)
  intro graph origin field start hset
  obtain ⟨_, _, hfield⟩ := hset.field_eq
  refine ⟨_, [], (longRoad_slices hset.origin_eq hfield).1, fun n hn => ?_⟩
  obtain ⟨c, source, wayCount, attribution, junctions, walked, -, -, hc, hgraph⟩ := longRoad_graph
  obtain rfl := Except.ok.inj ((hgraph _).symm.trans hset.graph_eq)
  have hkey := hc.mem_keys ((mem_keys_contracted _ _ _).1 hn)
  rw [longRoad_keys] at hkey
  simp only [List.mem_cons, List.not_mem_nil, or_false] at hkey
  rcases hkey with rfl | rfl <;> norm_num [Bbox.contains, onMeridian]

end Salgil
