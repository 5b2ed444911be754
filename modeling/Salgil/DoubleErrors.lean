import Salgil.Evacuation
import Salgil.MlEngine
import Salgil.RiskLookups

namespace Salgil
set_option autoImplicit true
set_option linter.unusedSectionVars false

section
variable {K : Type} [Field K] [LinearOrder K] [IsStrictOrderedRing K] [FloorRing K] [MathLib K]

/-- `math.radians`, on doubles. -/
def radiansDouble (x : K) : K := double (x * double (double MathLib.pi / 180))

/-- The number under the root of both haversine functions as it is computed: every operation, and
every function of `math`, returns the double nearest to its result. -/
def haversineArgument (lat1 lon1 lat2 lon2 : K) : K :=
  let dlat := radiansDouble (double (lat2 - lat1))
  let dlon := radiansDouble (double (lon2 - lon1))
  let north := double (MathLib.sin (double (dlat / 2)))
  let east := double (MathLib.sin (double (dlon / 2)))
  let cosines := double (double (MathLib.cos (radiansDouble lat1)) *
    double (MathLib.cos (radiansDouble lat2)))
  double (double (north ^ 2) + double (cosines * double (east ^ 2)))

/-- What `math.sin`, `math.sqrt` and `math.asin` are given for two places lies in their domains. -/
def HasDistance (lat1 lon1 lat2 lon2 : K) : Prop :=
  (InDoubleRange (lat2 - lat1) ∧ InDoubleRange (lon2 - lon1)) ∧
    0 ≤ haversineArgument lat1 lon1 lat2 lon2 ∧
    double (MathLib.sqrt (haversineArgument lat1 lon1 lat2 lon2)) ≤ 1

/-- What `int` is given for a place is not infinite. -/
def HasCell (lat lon : K) : Prop := InDoubleRange (lat / cellDeg) ∧ InDoubleRange (lon / cellDeg)

instance (lat1 lon1 lat2 lon2 : K) : Decidable (HasDistance lat1 lon1 lat2 lon2) := by
  unfold HasDistance
  infer_instance

instance (lat lon : K) : Decidable (HasCell lat lon) := by
  unfold HasCell
  infer_instance

-- The calls that compute with coordinates raise where their exact counterparts return. Each of them
-- stands here without its value, as the check whether it returns.

def checkDistance (lat1 lon1 lat2 lon2 : K) : Except PyError Unit :=
  if HasDistance lat1 lon1 lat2 lon2 then .ok () else .error (.valueError "math domain error")

def checkCell (lat lon : K) : Except PyError Unit :=
  if HasCell lat lon then .ok ()
  else .error (.overflowError "cannot convert float infinity to integer")

/-- The rings of `nearest_node`, up to the one that ends its search. -/
def checkRings (g : RoadGraph K) (lat lon : K) :
    List ℕ → Option (NodeId K) × K → Except PyError Unit
  | [], _ => .ok ()
  | radius :: rest, found => do
    ((ringCells (cell lat lon) radius).flatMap fun c => (g.index.get? c).getD []).forM
      fun n => checkDistance lat lon n.lat n.lon
    let next := g.searchRing lat lon radius found
    if next.1.isSome ∧ ¬ next.2 < found.2 ∧ 0 < radius then .ok ()
    else checkRings g lat lon rest next

/-- `nearest_node` returns. -/
def checkNearest (g : RoadGraph K) (lat lon maxDistanceM : K) : Except PyError Unit := do
  let rings := max 1 (pyInt (double (maxDistanceM / cellM)) + 1)
  checkCell lat lon
  checkRings g lat lon (List.range (rings.toNat + 1)) (none, maxDistanceM)

/-- The closures are looked at up to the first that holds. -/
def checkPoints (lat lon : K) : List (BlockedPoint K) → Except PyError Unit
  | [] => .ok ()
  | point :: rest => do
    checkDistance lat lon point.lat point.lon
    if haversineM lat lon point.lat point.lon ≤ point.radiusM then .ok ()
    else checkPoints lat lon rest

/-- `blocked_by_field_report` returns. -/
def checkClosures (hazard : HazardField K) (lat lon : K) : Except PyError Unit :=
  checkPoints lat lon hazard.blocked

def relaxEdgeOnDoubles (profile : ModeProfile K) (hazard : HazardField K) (policy : HazardPolicy K)
    (arrival : K) (node : NodeId K) (st : SearchState K) (edge : Edge K) :
    Except PyError (SearchState K) := do
  checkClosures hazard edge.target.lat edge.target.lon
  relaxEdge profile hazard policy arrival node st edge

/-- The lengths of the steps of a path: the default of `min` is computed for each. -/
def checkPath : List (NodeId K) → Except PyError Unit
  | a :: b :: rest => do
    checkDistance a.lat a.lon b.lat b.lon
    checkPath (b :: rest)
  | _ => .ok ()

/-- The search for the goal returns, and so do the steps of the path it finds. -/
def checkSearch (fuel : ℕ) (graph : RoadGraph K) (profile : ModeProfile K)
    (hazard : HazardField K) (policy : HazardPolicy K) (start goal : NodeId K)
    (departAfterS maxDurationS : K) : Except PyError Unit := do
  match ← searchWith (relaxEdgeOnDoubles profile hazard policy) graph goal departAfterS maxDurationS
    fuel (SearchState.init start departAfterS) with
  | .reached _ st => checkPath (← tracePath st.previous start fuel goal).reverse
  | .exhausted _ => return ()

/-- `plan_route` returns. -/
def checkRoute (fuel : ℕ) (graph : RoadGraph K) (profile : ModeProfile K)
    (hazard : HazardField K) (policy : HazardPolicy K) (origin destination : K × K)
    (departAfterS maxDurationS snapDistanceM : K) : Except PyError Unit := do
  checkNearest graph origin.1 origin.2 snapDistanceM
  checkNearest graph destination.1 destination.2 snapDistanceM
  match graph.nearestNode origin.1 origin.2 snapDistanceM,
    graph.nearestNode destination.1 destination.2 snapDistanceM with
  | some start, some goal =>
    checkClosures hazard start.lat start.lon
    if hazard.blockedByFieldReport start.lat start.lon = none then
      let startRisk ← hazard.riskAt start.lat start.lon departAfterS
      if policy.edgeMultiplier startRisk = none then return ()
      else checkSearch fuel graph profile hazard policy start goal departAfterS maxDurationS
    else return ()
  | _, _ => return ()

/-- The segments of a line are measured, and their ends put into the index. -/
def checkFeature (profile : ModeProfile K) (f : Feature K) : Except PyError Unit :=
  if f.geometryType = some "LineString" ∧ (profile.passable f.properties).1 = true then
    let nodes := f.coordinates.map fun point => nodeId point.1 point.2
    (nodes.zip nodes.tail).forM fun (a, b) =>
      if a = b then .ok ()
      else do
        checkDistance a.lat a.lon b.lat b.lon
        checkCell a.lat a.lon
        checkCell b.lat b.lon
  else .ok ()

/-- `get_graph` returns, once it has a file to load. -/
def checkRoadFile (services : Services K) (mode : TransportMode) : Except PyError Unit :=
  if services.roadNetworkPath = "" then .ok ()
  else match services.roadFile services.roadNetworkPath with
  | none => .ok ()
  | some features => features.forM (checkFeature (profileFor mode))

/-- The shelter's distance from the origin, if it has coordinates. -/
def checkShelter (origin : RouteOrigin K) (shelter : Shelter K) : Except PyError Unit :=
  match shelter.lat, shelter.lon with
  | some lat, some lon => checkDistance origin.lat origin.lon lat lon
  | _, _ => .ok ()

/-- The shelters that `find_shelters` measures, before it sorts them. -/
def usableShelters (database : Database K) (hazard : String) (regionCode : Option String) :
    List (Shelter K) :=
  let rows := match regionCode with
    | some region =>
      if region = "" then database.shelters
      else database.shelters.filter (·.regionCode = region)
    | none => database.shelters
  rows.filter (hazard ∈ ·.hazards)

def checkLeg (fuel : ℕ) (graph : RoadGraph K) (payload : RouteRequest K) (origin : RouteOrigin K)
    (field : HazardField K) (candidate : Shelter K × Option K) : Except PyError Unit :=
  match candidate.1.lat, candidate.1.lon with
  | some lat, some lon =>
    checkRoute fuel graph (profileFor payload.mode) field (.ofRequest payload)
      (origin.lat, origin.lon) (lat, lon) (payload.departAfterMinutes * 60) defaultMaxDurationS
      defaultSnapDistanceM
  | _, _ => .ok ()

/-- `plan_evacuation` with the errors of its calls on doubles: the checks stand among its other
calls in the order of the source, and `planEvacuation` gives the plan where all return. -/
def planEvacuationOnDoubles (fuel : ℕ) (services : Services K) (payload : RouteRequest K) :
    Except PyError (RoutePlan K) := do
  checkRoadFile services payload.mode
  let graph ← getGraph fuel services payload.mode
  let origin ← routeOrigin services.database payload
  (usableShelters services.database payload.hazard origin.regionCode).forM (checkShelter origin)
  let candidates ← candidateShelters services.database payload origin
  -- the shelter that the request names; those of `find_shelters` are measured already
  candidates.forM fun candidate => checkShelter origin candidate.1
  let _ ← hazardLimitation services.capabilityFor payload.hazard
  if candidates = [] then planEvacuation fuel services payload
  else
    let (field, _, _) ← requestField services payload origin
    candidates.forM (checkLeg fuel graph payload origin field)
    planEvacuation fuel services payload

/-- The check passes if the condition holds, and otherwise raises an error that is not declared. -/
def Checks (P : Prop) (x : Except PyError Unit) : Prop :=
  Ends (fun e => MlEngineClient.Undeclared e ∧ ¬ P) (fun _ => P) x

namespace Checks
variable {P Q : Prop} {x y : Except PyError Unit} {α : Type}

theorem eq_ok (h : Checks P x) (hP : P) : x = .ok () := by
  cases x with
  | ok u => rfl
  | error e => exact absurd hP (h.of_error rfl).2

theorem undeclared (h : Checks P x) : Ends MlEngineClient.Undeclared (fun _ => True) x := by
  cases x with
  | ok u => trivial
  | error e => exact (h.of_error rfl).1

theorem of_ends (h : Ends MlEngineClient.Undeclared (fun _ => True) x) : Checks (x = .ok ()) x := by
  cases x with
  | ok u => rfl
  | error e => exact ⟨h, nofun⟩

theorem bind (hx : Checks P x) (hy : Checks Q y) : Checks (P ∧ Q) (x >>= fun _ => y) := by
  cases x with
  | ok u =>
    have hP : P := hx.of_ok rfl
    cases y with
    | ok v => exact ⟨hP, hy.of_ok rfl⟩
    | error e => exact ⟨(hy.of_error rfl).1, fun h => (hy.of_error rfl).2 h.2⟩
  | error e => exact ⟨(hx.of_error rfl).1, fun h => (hx.of_error rfl).2 h.1⟩

theorem forM {f : α → Except PyError Unit} {P : α → Prop} {l : List α}
    (h : ∀ a ∈ l, Checks (P a) (f a)) : Checks (∀ a ∈ l, P a) (l.forM f) := by
  induction l with
  | nil => exact fun a ha => absurd ha List.not_mem_nil
  | cons a l ih =>
    obtain ⟨ha, hl⟩ := List.forall_mem_cons.1 h
    have hall : Checks (P a ∧ ∀ b ∈ l, P b) (f a >>= fun _ => l.forM f) := ha.bind (ih hl)
    rw [← List.forall_mem_cons] at hall
    exact hall

end Checks

theorem checkDistance_checks (lat1 lon1 lat2 lon2 : K) :
    Checks (HasDistance lat1 lon1 lat2 lon2) (checkDistance lat1 lon1 lat2 lon2) := by
  unfold checkDistance
  split
  · next h => exact h
  · next h => exact ⟨nofun, h⟩

theorem checkCell_checks (lat lon : K) : Checks (HasCell lat lon) (checkCell lat lon) := by
  unfold checkCell
  split
  · next h => exact h
  · next h => exact ⟨nofun, h⟩

theorem checkRings_ends (g : RoadGraph K) (lat lon : K) (rings : List ℕ)
    (found : Option (NodeId K) × K) :
    Ends MlEngineClient.Undeclared (fun _ => True) (checkRings g lat lon rings found) := by
  induction rings generalizing found with
  | nil => trivial
  | cons radius rest ih =>
    rw [checkRings]
    refine (Checks.forM fun n _ => checkDistance_checks lat lon n.lat n.lon).undeclared.bind ?_
    intro _ _
    simp only
    split
    · trivial
    · exact ih _

theorem checkNearest_ends (g : RoadGraph K) (lat lon maxDistanceM : K) :
    Ends MlEngineClient.Undeclared (fun _ => True) (checkNearest g lat lon maxDistanceM) :=
  (checkCell_checks lat lon).undeclared.bind fun _ _ => checkRings_ends _ _ _ _ _

theorem checkPoints_ends (lat lon : K) (points : List (BlockedPoint K)) :
    Ends MlEngineClient.Undeclared (fun _ => True) (checkPoints lat lon points) := by
  induction points with
  | nil => trivial
  | cons point rest ih =>
    rw [checkPoints]
    refine (checkDistance_checks lat lon point.lat point.lon).undeclared.bind fun _ _ => ?_
    split
    · trivial
    · exact ih

theorem checkClosures_checks (hazard : HazardField K) (lat lon : K) :
    Checks (checkClosures hazard lat lon = .ok ()) (checkClosures hazard lat lon) :=
  .of_ends (checkPoints_ends lat lon hazard.blocked)

/-- What the search asks for at the end of a road can be had: whether it is closed, and if not, its
risk. -/
def EndRead (profile : ModeProfile K) (hazard : HazardField K) (t : K) (e : Edge K) : Prop :=
  checkClosures hazard e.target.lat e.target.lon = .ok () ∧ RiskRead profile hazard t e

theorem relaxEdgeOnDoubles_relaxes (profile : ModeProfile K) (hazard : HazardField K)
    (policy : HazardPolicy K) :
    Relaxes profile hazard policy MlEngineClient.Undeclared (EndRead profile hazard)
      (relaxEdgeOnDoubles profile hazard policy) := by
  intro t n st e
  have hclosures := checkClosures_checks hazard e.target.lat e.target.lon
  have hrelax := relaxEdge_relaxes profile hazard policy t n st e
  unfold relaxEdgeOnDoubles
  cases hc : checkClosures hazard e.target.lat e.target.lon with
  | error err =>
    obtain ⟨herr, hunread⟩ := hclosures.of_error hc
    exact ⟨herr, fun hread => hunread hread.1⟩
  | ok u =>
    rw [ok_bind]
    cases hr : relaxEdge profile hazard policy t n st e with
    | error err =>
      obtain ⟨rfl, hunread⟩ := hrelax.of_error hr
      exact ⟨nofun, fun hread => hunread hread.2⟩
    | ok st' => exact ⟨rfl, hc, (hrelax.of_ok hr).2⟩

/-- The ends of every road have a distance. -/
def RoadGraph.Measured (graph : RoadGraph K) : Prop :=
  ∀ n, ∀ e ∈ graph.neighbours n, HasDistance n.lat n.lon e.target.lat e.target.lon

/-- What the planner asks for can be had: the nodes next to the origin and the destination, whether
the start is closed, its risk if not, and, if the start is passable, what the search asks for. -/
structure RouteAnswered (graph : RoadGraph K) (profile : ModeProfile K) (hazard : HazardField K)
    (policy : HazardPolicy K) (origin destination : K × K) (dep maxDur snap : K) : Prop where
  snap_origin : checkNearest graph origin.1 origin.2 snap = .ok ()
  snap_destination : checkNearest graph destination.1 destination.2 snap = .ok ()
  closures : ∀ start goal, graph.nearestNode origin.1 origin.2 snap = some start →
    graph.nearestNode destination.1 destination.2 snap = some goal →
    checkClosures hazard start.lat start.lon = .ok ()
  risk : ∀ start goal, graph.nearestNode origin.1 origin.2 snap = some start →
    graph.nearestNode destination.1 destination.2 snap = some goal →
    hazard.blockedByFieldReport start.lat start.lon = none →
    hazard.Shows start.lat start.lon dep
  search : ∀ start goal,
    Departs graph hazard policy origin destination dep snap start goal →
    EdgesRead (EndRead profile hazard) graph profile hazard policy start goal dep maxDur

variable {graph : RoadGraph K} {profile : ModeProfile K} {hazard : HazardField K}
variable {policy : HazardPolicy K} {start goal n : NodeId K} {dep maxDur snap t : K}
variable {origin destination : K × K}

theorem RouteAnswered.reads
    (h : RouteAnswered graph profile hazard policy origin destination dep maxDur snap) :
    RouteReads graph profile hazard policy origin destination dep maxDur snap := by
  intro start goal hstart hgoal hclosed
  refine ⟨h.risk start goal hstart hgoal hclosed, fun risk hrisk hlt n t hleft e he => ?_⟩
  exact (h.search start goal ⟨hstart, hgoal, hclosed, risk, hrisk, hlt⟩ n t hleft e he).2

/-- Between two nodes next to the places, only they matter. -/
theorem RouteAnswered.of_snapped (hfrom : checkNearest graph origin.1 origin.2 snap = .ok ())
    (hto : checkNearest graph destination.1 destination.2 snap = .ok ())
    (hstart : graph.nearestNode origin.1 origin.2 snap = some start)
    (hgoal : graph.nearestNode destination.1 destination.2 snap = some goal)
    (hclosures : checkClosures hazard start.lat start.lon = .ok ())
    (hshows : hazard.blockedByFieldReport start.lat start.lon = none →
      hazard.Shows start.lat start.lon dep)
    (hsearch : Departs graph hazard policy origin destination dep snap start goal →
      EdgesRead (EndRead profile hazard) graph profile hazard policy start goal dep maxDur) :
    RouteAnswered graph profile hazard policy origin destination dep maxDur snap where
  snap_origin := hfrom
  snap_destination := hto
  closures start' _ hstart' _ := by
    obtain rfl := Option.some.inj (hstart.symm.trans hstart')
    exact hclosures
  risk start' _ hstart' _ := by
    obtain rfl := Option.some.inj (hstart.symm.trans hstart')
    exact hshows
  search start' goal' hd := by
    obtain rfl := Option.some.inj (hstart.symm.trans hd.snap_origin)
    obtain rfl := Option.some.inj (hgoal.symm.trans hd.snap_destination)
    exact hsearch hd

theorem checkPath_of_walk (hmeasured : graph.Measured) {p : List (NodeId K)}
    (hw : (roadTimes graph profile hazard policy).Walk (inTime dep maxDur) start dep p n t)
    {rest : List (NodeId K)} (hrest : checkPath (n :: rest) = .ok ()) :
    checkPath (p.reverse ++ n :: rest) = .ok () := by
  induction hw generalizing rest with
  | nil => exact hrest
  | @step p n t e t' _ _ he _ ih =>
    rw [List.reverse_cons, List.append_assoc]
    apply ih
    have hstep := (checkDistance_checks _ _ _ _).eq_ok (hmeasured n e he)
    show checkPath (n :: e.target :: rest) = .ok ()
    rw [checkPath, hstep, ok_bind]
    exact hrest

theorem checkSearch_ends (hm : Metric graph profile policy) (hmeasured : graph.Measured) {fuel : ℕ}
    (hfuel : graph.searchBudget < fuel) :
    Ends (fun e => MlEngineClient.Undeclared e ∧ ¬ EdgesRead (EndRead profile hazard) graph profile
        hazard policy start goal dep maxDur)
      (fun _ => graph.Positive → EdgesRead (EndRead profile hazard) graph profile hazard policy
        start goal dep maxDur)
      (checkSearch fuel graph profile hazard policy start goal dep maxDur) := by
  have hreads : Ends _ _ (searchWith (relaxEdgeOnDoubles profile hazard policy) graph goal dep
      maxDur fuel (SearchState.init start dep)) :=
    searchWith_reads hm (relaxEdgeOnDoubles_relaxes profile hazard policy) hfuel
  unfold checkSearch
  cases ho : searchWith (relaxEdgeOnDoubles profile hazard policy) graph goal dep maxDur fuel
    (SearchState.init start dep) with
  | error err => exact hreads.of_error ho
  | ok o =>
    obtain ⟨hsame, hread⟩ := hreads.of_ok ho
    rw [ok_bind]
    cases ((search_ends hm hfuel).of_ok hsame :
      SearchOutcome.Spec graph profile hazard policy start goal dep maxDur _ _ o) with
    | @reached t p st hleast hchain hwalk hnodup hp hcount =>
      have hpath : checkPath (p.reverse ++ [goal]) = .ok () := checkPath_of_walk hmeasured hwalk rfl
      simp only [tracePath_chain hchain hp, ok_bind, List.reverse_cons, hpath]
      exact hread
    | exhausted => exact hread

/-- The planner raises an undeclared error only if something that it asks for cannot be had; and if
every road has a length, it raises one then. -/
theorem checkRoute_ends (hm : Metric graph profile policy) (hmeasured : graph.Measured) {fuel : ℕ}
    (hfuel : graph.searchBudget < fuel) :
    Ends (fun e => MlEngineClient.Undeclared e ∧
        ¬ RouteAnswered graph profile hazard policy origin destination dep maxDur snap)
      (fun _ => graph.Positive →
        RouteAnswered graph profile hazard policy origin destination dep maxDur snap)
      (checkRoute fuel graph profile hazard policy origin destination dep maxDur snap) := by
  unfold checkRoute
  cases hfrom : checkNearest graph origin.1 origin.2 snap with
  | error e =>
    exact ⟨(checkNearest_ends _ _ _ _).of_error hfrom,
      fun h => absurd (hfrom.symm.trans h.snap_origin) nofun⟩
  | ok _ =>
  cases hto : checkNearest graph destination.1 destination.2 snap with
  | error e =>
    exact ⟨(checkNearest_ends _ _ _ _).of_error hto,
      fun h => absurd (hto.symm.trans h.snap_destination) nofun⟩
  | ok _ =>
  rw [ok_bind, ok_bind]
  split
  · next start goal hstart hgoal =>
    cases hclosures : checkClosures hazard start.lat start.lon with
    | error e =>
      exact ⟨(checkPoints_ends _ _ _).of_error hclosures,
        fun h => absurd (hclosures.symm.trans (h.closures start goal hstart hgoal)) nofun⟩
    | ok _ =>
    rw [ok_bind]
    split
    · next hopen =>
      have hends := hazard.riskAt_shows start.lat start.lon dep
      cases hrisk : hazard.riskAt start.lat start.lon dep with
      | error err =>
        obtain ⟨rfl, hunread⟩ := hends.of_error hrisk
        exact ⟨nofun, fun h => hunread (h.risk start goal hstart hgoal hopen)⟩
      | ok risk =>
        have hshows := hends.of_ok hrisk
        rw [ok_bind]
        by_cases hlt : risk < policy.blockThreshold
        · have hsome : policy.edgeMultiplier risk ≠ none :=
            fun hnone => HazardPolicy.edgeMultiplier_eq_none.1 hnone hlt
          have hd : Departs graph hazard policy origin destination dep snap start goal :=
            ⟨hstart, hgoal, hopen, risk, hrisk, hlt⟩
          rw [if_neg hsome]
          have hsearch : Ends _ _ (checkSearch fuel graph profile hazard policy start goal dep
            maxDur) := checkSearch_ends hm hmeasured hfuel
          cases hs : checkSearch fuel graph profile hazard policy start goal dep maxDur with
          | error err =>
            obtain ⟨herr, hunread⟩ := hsearch.of_error hs
            exact ⟨herr, fun h => hunread (h.search start goal hd)⟩
          | ok _ =>
            exact fun hpos => .of_snapped hfrom hto hstart hgoal hclosures (fun _ => hshows)
              fun _ => hsearch.of_ok hs hpos
        · rw [if_pos (HazardPolicy.edgeMultiplier_eq_none.2 hlt)]
          refine fun _ => .of_snapped hfrom hto hstart hgoal hclosures (fun _ => hshows)
            fun hd => ?_
          obtain ⟨risk', hrisk', hlt'⟩ := hd.passable
          exact absurd (Except.ok.inj (hrisk.symm.trans hrisk') ▸ hlt') hlt
    · next hclosed =>
      exact fun _ => .of_snapped hfrom hto hstart hgoal hclosures
        (fun hopen => absurd hopen hclosed) fun hd => absurd hd.not_closed hclosed
  · next hnone =>
    refine fun _ => ⟨hfrom, hto, fun start goal hstart hgoal => ?_,
      fun start goal hstart hgoal => ?_, fun start goal hd => ?_⟩
    · exact absurd hgoal (hnone start goal hstart)
    · exact absurd hgoal (hnone start goal hstart)
    · exact absurd hd.snap_destination (hnone start goal hd.snap_origin)

/-- The segments of a line that the mode can pass have lengths, and their ends cells. -/
def FeatureMeasured (profile : ModeProfile K) (f : Feature K) : Prop :=
  f.geometryType = some "LineString" ∧ (profile.passable f.properties).1 = true →
    let nodes := f.coordinates.map fun point => nodeId point.1 point.2
    ∀ step ∈ nodes.zip nodes.tail, step.1 ≠ step.2 →
      HasDistance step.1.lat step.1.lon step.2.lat step.2.lon ∧
        HasCell step.1.lat step.1.lon ∧ HasCell step.2.lat step.2.lon

def RoadsMeasured (services : Services K) (mode : TransportMode) : Prop :=
  ∀ features, services.roadNetworkPath ≠ "" →
    services.roadFile services.roadNetworkPath = some features →
    ∀ f ∈ features, FeatureMeasured (profileFor mode) f

/-- The shelter has a distance from the origin, if it has coordinates. -/
def ShelterMeasured (origin : RouteOrigin K) (shelter : Shelter K) : Prop :=
  ∀ lat lon, shelter.lat = some lat → shelter.lon = some lon →
    HasDistance origin.lat origin.lon lat lon

/-- What is asked for on the way to the candidate can be had. -/
def LegAnswered (graph : RoadGraph K) (payload : RouteRequest K) (origin : RouteOrigin K)
    (field : HazardField K) (candidate : Shelter K × Option K) : Prop :=
  ∀ lat lon, candidate.1.lat = some lat → candidate.1.lon = some lon →
    RouteAnswered graph (profileFor payload.mode) field (.ofRequest payload)
      (origin.lat, origin.lon) (lat, lon) (payload.departAfterMinutes * 60) defaultMaxDurationS
      defaultSnapDistanceM

theorem checkFeature_checks (profile : ModeProfile K) (f : Feature K) :
    Checks (FeatureMeasured profile f) (checkFeature profile f) := by
  unfold checkFeature FeatureMeasured
  split
  · next hline =>
    simp only [hline, and_self, true_implies]
    apply Checks.forM
    rintro ⟨a, b⟩ -
    simp only
    split
    · next heq => exact fun hne => absurd heq hne
    · next hne =>
      simp only [ne_eq, hne, not_false_eq_true, true_implies]
      exact (checkDistance_checks _ _ _ _).bind ((checkCell_checks _ _).bind (checkCell_checks _ _))
  · next hline => exact fun h => absurd h hline

theorem checkRoadFile_checks (services : Services K) (mode : TransportMode) :
    Checks (RoadsMeasured services mode) (checkRoadFile services mode) := by
  unfold checkRoadFile RoadsMeasured
  split
  · next hunset => exact fun _ hset => absurd hunset hset
  · next hset =>
    split
    · next hnone => exact fun _ _ hfile => absurd (hnone.symm.trans hfile) nofun
    · next features hfile =>
      simp only [hfile, ne_eq, hset, not_false_eq_true, true_implies, Option.some.injEq,
        forall_eq']
      exact Checks.forM fun f _ => checkFeature_checks _ f

theorem checkShelter_checks (origin : RouteOrigin K) (shelter : Shelter K) :
    Checks (ShelterMeasured origin shelter) (checkShelter origin shelter) := by
  unfold checkShelter ShelterMeasured
  split
  · next lat lon hlat hlon =>
    simp only [hlat, hlon, Option.some.injEq, forall_eq', forall_apply_eq_imp_iff]
    exact checkDistance_checks _ _ _ _
  · next hnone => exact fun lat lon hlat hlon => absurd hlon (hnone lat lon hlat)

theorem checkLeg_ends {payload : RouteRequest K} {origin : RouteOrigin K} {field : HazardField K}
    {candidate : Shelter K × Option K}
    (hm : Metric graph (profileFor payload.mode) (.ofRequest payload)) (hmeasured : graph.Measured)
    {fuel : ℕ} (hfuel : graph.searchBudget < fuel) :
    Ends (fun e => MlEngineClient.Undeclared e ∧ ¬ LegAnswered graph payload origin field candidate)
      (fun _ => graph.Positive → LegAnswered graph payload origin field candidate)
      (checkLeg fuel graph payload origin field candidate) := by
  unfold checkLeg LegAnswered
  split
  · next lat lon hlat hlon =>
    simp only [hlat, hlon, Option.some.injEq, forall_eq', forall_apply_eq_imp_iff]
    exact checkRoute_ends hm hmeasured hfuel
  · next hnone => exact fun _ lat lon hlat hlon => absurd hlon (hnone lat lon hlat)

end

end Salgil
