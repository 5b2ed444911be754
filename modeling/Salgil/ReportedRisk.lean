import Salgil.RouteOptimality
import Mathlib.Algebra.Order.BigOperators.Group.List

namespace Salgil
set_option autoImplicit true
set_option linter.unusedSectionVars false

section
variable {K : Type u} [Field K] [LinearOrder K] [IsStrictOrderedRing K] [FloorRing K]

theorem eq_of_forall₂_le {l l' : List K} (h : List.Forall₂ (· ≤ ·) l l') (hsum : l'.sum ≤ l.sum) :
    l = l' := by
  induction h with
  | nil => rfl
  | @cons a b l l' hab hrest ih =>
    have hle := hrest.sum_le_sum
    simp only [List.sum_cons] at hsum
    rw [ih (by linarith), le_antisymm hab (by linarith)]

/-- The slice has something to say of the place, and it is no more than the given risk, or it does
not cover the place. -/
def HazardSlice.ShowsAtMost (s : HazardSlice K) (lat lon risk : K) : Prop :=
  ∃ v, s.valueAt lat lon = .ok v ∧ ∀ x, v = some x → x ≤ risk

variable {hazard : HazardField K} {lat lon dep t risk worst : K} {slices : List (HazardSlice K)}

theorem foldlM_worstOf_shows (h : slices.foldlM (worstOf lat lon) worst = .ok risk) :
    ∀ s ∈ slices, s.ShowsAtMost lat lon risk := by
  induction slices generalizing worst with
  | nil => simp
  | cons s slices ih =>
    rw [List.foldlM_cons] at h
    obtain ⟨worst', hworst, hrest⟩ := bind_eq_ok.1 h
    obtain ⟨v, hv, hnew⟩ := bind_eq_ok.1 hworst
    refine List.forall_mem_cons.2 ⟨⟨v, hv, ?_⟩, ih hrest⟩
    rintro x rfl
    obtain rfl : max worst x = worst' := Except.ok.inj hnew
    exact (le_max_right _ _).trans (foldlM_worstOf_le hrest)

theorem foldlM_worstOf_eq (h : ∀ s ∈ slices, s.ShowsAtMost lat lon worst) :
    slices.foldlM (worstOf lat lon) worst = .ok worst := by
  induction slices with
  | nil => rfl
  | cons s slices ih =>
    obtain ⟨⟨v, hv, hle⟩, hrest⟩ := List.forall_mem_cons.1 h
    have hstep : worstOf lat lon worst s = .ok worst := by
      cases v with
      | none => simp [worstOf, hv]
      | some x => simp [worstOf, hv, hle x rfl]
    rw [List.foldlM_cons, hstep, ok_bind, ih hrest]

/-- The risk of a place is the same after a delay exactly when no slice looked into by then shows
more. -/
theorem riskAt_later_iff (hdep : 0 ≤ dep) (h : hazard.riskAt lat lon t = .ok risk) :
    hazard.riskAt lat lon (dep + t) = .ok risk ↔
      ∀ s ∈ hazard.consulted (dep + t), s.ShowsAtMost lat lon risk := by
  refine ⟨foldlM_worstOf_shows, fun hshows => ?_⟩
  obtain ⟨later, hlater⟩ := hazard.consulted_prefix (le_add_of_nonneg_left hdep : t ≤ dep + t)
  rw [HazardField.riskAt] at h ⊢
  rw [← hlater] at hshows ⊢
  rw [List.foldlM_append, h, ok_bind]
  exact foldlM_worstOf_eq fun s hs => hshows s (List.mem_append_right _ hs)

variable [MathLib K]

/-- The nodes of the path with the times they are passed at, which is the travel time at full
speed. -/
def pathTimes (graph : RoadGraph K) (speed : K) : List (NodeId K) → K → List (NodeId K × K)
  | a :: b :: rest, t =>
    (a, t) :: pathTimes graph speed (b :: rest) (t + segmentLength graph a b / speed)
  | [a], t => [(a, t)]
  | [], _ => []

def risksMet (hazard : HazardField K) (passed : List (NodeId K × K)) : Except PyError (List K) :=
  passed.mapM fun x => hazard.riskAt x.1.lat x.1.lon x.2

/-- At no node of the path does a slice that is looked into when the trip departs after the delay
show more than the risk without the delay. -/
def Unchanged (graph : RoadGraph K) (hazard : HazardField K) (speed dep : K)
    (path : List (NodeId K)) : Prop :=
  ∀ x ∈ pathTimes graph speed path 0, ∀ risk, hazard.riskAt x.1.lat x.1.lon x.2 = .ok risk →
    ∀ s ∈ hazard.consulted (dep + x.2), s.ShowsAtMost x.1.lat x.1.lon risk

/-- The nodes of the route. -/
def RouteResult.path (r : RouteResult K) : List (NodeId K) := r.coordinates.map fun c => ⟨c.2, c.1⟩

/-- The maximum and the mean the report is made of, before they are rounded. -/
def RouteResult.Reports (r : RouteResult K) (graph : RoadGraph K) (hazard : HazardField K)
    (speed top mean : K) : Prop :=
  ∃ start nodes first distance rest, r.path = start :: nodes ∧
    hazard.riskAt start.lat start.lon 0 = .ok first ∧
    measurePath graph hazard speed r.path 0 0 = .ok (distance, rest) ∧
    top = rest.foldl max first ∧ r.maxRisk = pyRound 5 top ∧
    mean = (first :: rest).sum / (first :: rest).length ∧ r.meanRisk = pyRound 5 mean

/-- The reported risks are the maximum and the mean of those met on the way. -/
def RouteResult.ReportsRiskMet (r : RouteResult K) (graph : RoadGraph K) (hazard : HazardField K)
    (speed dep : K) : Prop :=
  ∃ top mean risks, r.Reports graph hazard speed top mean ∧
    risksMet hazard (pathTimes graph speed r.path dep) = .ok risks ∧
    risks.max? = some top ∧ mean = risks.sum / risks.length

variable {graph : RoadGraph K} {profile : ModeProfile K} {policy : HazardPolicy K}
variable {start goal : NodeId K} {maxDur snap speed : K} {origin destination : K × K}
variable {r : RouteResult K} {fuel : ℕ} {path : List (NodeId K)}

theorem RouteResult.path_of_coordinates
    (h : r.coordinates = path.map fun node => (node.lon, node.lat)) : r.path = path := by
  rw [RouteResult.path, h, List.map_map]
  exact List.map_id path

theorem pathTimes_add (d t : K) :
    pathTimes graph speed path (d + t) =
      (pathTimes graph speed path t).map fun x => (x.1, d + x.2) := by
  induction path generalizing t with
  | nil => rfl
  | cons a rest ih =>
    cases rest with
    | nil => rfl
    | cons b rest =>
      rw [pathTimes, pathTimes, List.map_cons, ← ih, add_assoc]

theorem measurePath_risks {a : NodeId K} {nodes : List (NodeId K)} {distance distance' first : K}
    {rest : List K} (hspeed : 1 / 10 ^ 6 ≤ speed)
    (hfirst : hazard.riskAt a.lat a.lon t = .ok first)
    (h : measurePath graph hazard speed (a :: nodes) distance t = .ok (distance', rest)) :
    risksMet hazard (pathTimes graph speed (a :: nodes) t) = .ok (first :: rest) := by
  rw [risksMet, mapM_eq_ok]
  induction nodes generalizing a distance distance' t first rest with
  | nil =>
    obtain ⟨-, rfl⟩ := Prod.mk.inj (Except.ok.inj h)
    exact .cons hfirst .nil
  | cons b nodes ih =>
    rw [measurePath, max_eq_left hspeed] at h
    obtain ⟨risk, hrisk, h⟩ := bind_eq_ok.1 h
    obtain ⟨⟨d, risks⟩, hrest, h⟩ := bind_eq_ok.1 h
    obtain ⟨-, rfl⟩ := Prod.mk.inj (Except.ok.inj h)
    exact .cons hfirst (ih hrisk hrest)

theorem risksMet_later_iff {passed : List (NodeId K × K)} {risks : List K} (hdep : 0 ≤ dep)
    (h : risksMet hazard passed = .ok risks) :
    risksMet hazard (passed.map fun x => (x.1, dep + x.2)) = .ok risks ↔
      ∀ x ∈ passed, ∀ risk, hazard.riskAt x.1.lat x.1.lon x.2 = .ok risk →
        ∀ s ∈ hazard.consulted (dep + x.2), s.ShowsAtMost x.1.lat x.1.lon risk := by
  rw [risksMet, mapM_eq_ok] at h
  rw [risksMet, mapM_eq_ok, List.forall₂_map_left_iff]
  induction h with
  | nil => simp
  | @cons x risk passed risks hrisk hpassed ih =>
    rw [List.forall₂_cons, ih, riskAt_later_iff hdep hrisk, List.forall_mem_cons]
    refine and_congr_left fun _ => ⟨?_, fun h => h risk hrisk⟩
    intro h risk' hrisk'
    obtain rfl : risk = risk' := Except.ok.inj (hrisk.symm.trans hrisk')
    exact h

/-- A delay never lowers a risk, so it keeps the mean only if it keeps every risk. -/
theorem risksMet_eq_of_mean {passed : List (NodeId K × K)} {risks risks' : List K} (hdep : 0 ≤ dep)
    (h : risksMet hazard passed = .ok risks)
    (h' : risksMet hazard (passed.map fun x => (x.1, dep + x.2)) = .ok risks')
    (hmean : risks.sum / risks.length = risks'.sum / risks'.length) : risks = risks' := by
  rw [risksMet, mapM_eq_ok] at h
  rw [risksMet, mapM_eq_ok, List.forall₂_map_left_iff] at h'
  have hlength : risks.length = risks'.length := h.length_eq.symm.trans h'.length_eq
  have hle : List.Forall₂ (· ≤ ·) risks risks' := by
    clear hmean hlength
    induction h generalizing risks' with
    | nil =>
      cases h'
      exact .nil
    | cons hrisk _ ih =>
      cases h' with
      | cons hrisk' hrest =>
        obtain ⟨risk, hsoon, hle⟩ := HazardField.riskAt_mono (le_add_of_nonneg_left hdep) hrisk'
        obtain rfl := Except.ok.inj (hrisk.symm.trans hsoon)
        exact .cons hle (ih hrest)
  refine eq_of_forall₂_le hle ?_
  rcases Nat.eq_zero_or_pos risks.length with h0 | hpos
  · have h0' : risks'.length = 0 := hlength.symm.trans h0
    rw [List.length_eq_zero_iff.1 h0, List.length_eq_zero_iff.1 h0']
  · have hne : (risks.length : K) ≠ 0 := Nat.cast_ne_zero.2 hpos.ne'
    rw [← hlength, div_left_inj' hne] at hmean
    exact hmean.ge

theorem tracePath_ok {prev : NodeId K → Option (NodeId K)} {n : NodeId K}
    (h : tracePath prev start fuel n = .ok path) : ∃ nodes, path.reverse = start :: nodes := by
  induction fuel generalizing n path with
  | zero => simp [tracePath] at h
  | succ fuel ih =>
    simp only [tracePath] at h
    split at h
    · next hn =>
      rw [← Except.ok.inj h, hn]
      exact ⟨[], rfl⟩
    · cases hprev : prev n with
      | none => simp [hprev] at h
      | some before =>
        rw [hprev] at h
        obtain ⟨nodes, hnodes, h⟩ := bind_eq_ok.1 h
        obtain ⟨later, hlater⟩ := ih hnodes
        rw [← Except.ok.inj h, List.reverse_cons, hlater]
        exact ⟨later ++ [n], rfl⟩

theorem reports_of_found
    (h : planRoute fuel graph profile hazard policy origin destination dep maxDur snap = .ok r)
    (hr : r.found = true) :
    ∃ start goal nodes first distance rest,
      Departs graph hazard policy origin destination dep snap start goal ∧ r.path = start :: nodes ∧
      hazard.riskAt start.lat start.lon 0 = .ok first ∧
      measurePath graph hazard profile.speedMps r.path 0 0 = .ok (distance, rest) ∧
      r.maxRisk = pyRound 5 (rest.foldl max first) ∧
      r.meanRisk = pyRound 5 ((first :: rest).sum / (first :: rest).length) := by
  obtain ⟨start, goal, hd⟩ := departs_of_found h hr
  rw [hd.planRoute_eq] at h
  obtain ⟨t, st, -, hbuild⟩ := routeBetween_found h hr
  obtain ⟨path, first, distance, rest, htrace, hfirst, hmeasure, hresult⟩ := buildResult_ok hbuild
  obtain ⟨nodes, hnodes⟩ := tracePath_ok htrace
  have hpath : r.path = path.reverse := RouteResult.path_of_coordinates (by rw [hresult])
  rw [← hpath] at hnodes hmeasure
  exact ⟨start, goal, nodes, first, distance, rest, hd, hnodes, hfirst, hmeasure, by rw [hresult],
    by rw [hresult]⟩

theorem reportsRiskMet_iff (hspeed : 1 / 10 ^ 6 ≤ profile.speedMps) (hdep : 0 ≤ dep)
    (h : planRoute fuel graph profile hazard policy origin destination dep maxDur snap = .ok r)
    (hr : r.found = true) :
    r.ReportsRiskMet graph hazard profile.speedMps dep ↔
      Unchanged graph hazard profile.speedMps dep r.path := by
  obtain ⟨start, goal, nodes, first, distance, rest, -, hpath, hfirst, hmeasure, hmax, hmean⟩ :=
    reports_of_found h hr
  have hnow :
      risksMet hazard (pathTimes graph profile.speedMps r.path 0) = .ok (first :: rest) := by
    rw [hpath] at hmeasure ⊢
    exact measurePath_risks hspeed hfirst hmeasure
  have hshift : pathTimes graph profile.speedMps r.path (dep + 0) =
      (pathTimes graph profile.speedMps r.path 0).map fun x => (x.1, dep + x.2) :=
    pathTimes_add dep 0
  rw [add_zero] at hshift
  rw [Unchanged, ← risksMet_later_iff hdep hnow, ← hshift]
  constructor
  · rintro ⟨top, mean, risks, hreports, hmet, -, hrisks⟩
    obtain ⟨start', nodes', first', distance', rest', hpath', hfirst', hmeasure',
      -, -, hmean', -⟩ :=
      hreports
    obtain ⟨rfl, -⟩ := List.cons.inj (hpath.symm.trans hpath')
    obtain rfl := Except.ok.inj (hfirst.symm.trans hfirst')
    obtain ⟨-, rfl⟩ := Prod.mk.inj (Except.ok.inj (hmeasure.symm.trans hmeasure'))
    rw [hrisks] at hmean'
    rw [risksMet_eq_of_mean hdep hnow (hshift ▸ hmet) hmean'.symm]
    exact hmet
  · intro hmet
    exact ⟨rest.foldl max first, _, first :: rest, ⟨start, nodes, first, distance, rest, hpath,
      hfirst, hmeasure, rfl, hmax, rfl, hmean⟩, hmet, List.max?_cons', rfl⟩

/-- An admissible walk to the goal that no other one beats. -/
def FastestWalk (graph : RoadGraph K) (profile : ModeProfile K) (hazard : HazardField K)
    (policy : HazardPolicy K) (start goal : NodeId K) (dep maxDur : K) (p : List (NodeId K)) :
    Prop :=
  ∃ t, AdmissibleWalk graph profile hazard policy start dep maxDur p goal t ∧
    ∀ q s, AdmissibleWalk graph profile hazard policy start dep maxDur q goal s → t ≤ s

theorem RouteResult.Spec.fastest
    (h : r.Spec graph profile hazard policy start goal dep maxDur fuel) (hr : r.found = true) :
    ∃ p, FastestWalk graph profile hazard policy start goal dep maxDur p ∧
      r.path = (goal :: p).reverse := by
  obtain ⟨p, t, -, -, hw, hcoords, -, -, hleast⟩ := h.least hr
  refine ⟨p, ⟨t, hw, fun q s hq => ?_⟩, RouteResult.path_of_coordinates hcoords⟩
  have hle : t - dep ≤ s - dep := hleast ⟨q, s, hq, rfl⟩
  linarith

theorem profileFor_speed_ge (mode : TransportMode) :
    1 / 10 ^ 6 ≤ (profileFor mode : ModeProfile K).speedMps := by
  cases mode <;> norm_num [profileFor]

/-- The risks reported for a route are those met on the way exactly when the delay of the departure
changes none of them. The route is a fastest admissible walk, so when these agree on that, they
decide. -/
theorem reported_risk_iff (mode : TransportMode) (hdep : 0 ≤ dep) :
    (∀ r, planRoute fuel graph (profileFor mode) hazard policy origin destination dep maxDur snap =
        .ok r → r.found = true →
      (r.ReportsRiskMet graph hazard (profileFor mode : ModeProfile K).speedMps dep ↔
        Unchanged graph hazard (profileFor mode : ModeProfile K).speedMps dep r.path)) ∧
    (Metric graph (profileFor mode) policy → graph.searchBudget < fuel →
      ∀ start goal, Departs graph hazard policy origin destination dep snap start goal →
        Ends hazard.Unreadable (fun r => r.found = true →
            (∃ p, FastestWalk graph (profileFor mode) hazard policy start goal dep maxDur p ∧
              r.path = (goal :: p).reverse) ∧
            ((∀ p, FastestWalk graph (profileFor mode) hazard policy start goal dep maxDur p →
                Unchanged graph hazard (profileFor mode : ModeProfile K).speedMps dep
                  (goal :: p).reverse) →
              r.ReportsRiskMet graph hazard (profileFor mode : ModeProfile K).speedMps dep) ∧
            ((∀ p, FastestWalk graph (profileFor mode) hazard policy start goal dep maxDur p →
                ¬ Unchanged graph hazard (profileFor mode : ModeProfile K).speedMps dep
                  (goal :: p).reverse) →
              ¬ r.ReportsRiskMet graph hazard (profileFor mode : ModeProfile K).speedMps dep))
          (planRoute fuel graph (profileFor mode) hazard policy origin destination dep maxDur
            snap)) := by
  refine ⟨fun r h hr => reportsRiskMet_iff (profileFor_speed_ge mode) hdep h hr, ?_⟩
  intro hm hfuel start goal hd
  have hends := hd.planRoute_ends hm maxDur hfuel
  cases hplan : planRoute fuel graph (profileFor mode) hazard policy origin destination dep maxDur
    snap with
  | error e => exact hends.of_error hplan
  | ok r =>
    intro hr
    obtain ⟨p, hp, hpath⟩ := (hends.of_ok hplan).fastest hr
    have hiff := reportsRiskMet_iff (profileFor_speed_ge mode) hdep hplan hr
    rw [hpath] at hiff
    exact ⟨⟨p, hp, hpath⟩, fun h => hiff.2 (h p hp), fun h hmet => h p hp (hiff.1 hmet)⟩

theorem unchanged_zero (graph : RoadGraph K) (hazard : HazardField K) (speed : K)
    (path : List (NodeId K)) : Unchanged graph hazard speed 0 path := by
  intro x _ risk hrisk
  refine (riskAt_later_iff le_rfl hrisk).1 ?_
  rw [zero_add]
  exact hrisk

end

section Road
variable {dep risk : ℝ}

theorem found_on_road (hazard : HazardField ℝ) (hopen : hazard.blocked = [])
    (hread : ∀ s ∈ hazard.slices, s.Readable)
    (hstart : hazard.riskAt 36 129 dep = .ok risk)
    (hend : hazard.riskAt 36.001 129 (dep + (onMeridian 36).distance (onMeridian 36.001) /
      (profileFor .foot : ModeProfile ℝ).speedMps) = .ok risk) (hrisk : risk < 1 / 2) :
    ∃ r nodes, planRoute ((meridianRoads [(36, 36.001)]).searchBudget + 1)
        (meridianRoads [(36, 36.001)]) (profileFor .foot) hazard .default (36, 129)
        (36.001, 129) dep
        defaultMaxDurationS defaultSnapDistanceM = .ok r ∧ r.found = true ∧
      r.path = onMeridian 36 :: nodes := by
  have hsnap : (0 : ℝ) < defaultSnapDistanceM := by norm_num [defaultSnapDistanceM]
  have hspans : ∀ x y : ℝ, (x, y) ∈ [((36 : ℝ), (36.001 : ℝ))] → |x| < 90 ∧ |y| < 90 := by
    intro x y hxy
    obtain ⟨rfl, rfl⟩ := Prod.mk.inj (List.mem_singleton.1 hxy)
    norm_num [abs_lt]
  have hclear : ∀ lat lon : ℝ, hazard.blockedByFieldReport lat lon = none := by
    intro lat lon
    rw [blockedByFieldReport_eq_none, hopen]
    exact fun _ h => absurd h List.not_mem_nil
  have hm : Metric (meridianRoads [(36, 36.001)]) (profileFor .foot) .default :=
    meridianRoads_metric _ .foot (by norm_num [HazardPolicy.default])
  have hd : Departs (meridianRoads [(36, 36.001)]) hazard .default (36, 129) (36.001, 129) dep
      defaultSnapDistanceM (onMeridian 36) (onMeridian 36.001) :=
    ⟨nearestNode_meridianRoads hspans (.inl List.mem_cons_self) hsnap,
      nearestNode_meridianRoads hspans (.inr List.mem_cons_self) hsnap, hclear _ _, risk, hstart,
      hrisk⟩
  have hends := hd.planRoute_ends hm defaultMaxDurationS (Nat.lt_succ_self _)
  cases hplan : planRoute ((meridianRoads [(36, 36.001)]).searchBudget + 1)
    (meridianRoads [(36, 36.001)]) (profileFor .foot) hazard .default (36, 129) (36.001, 129) dep
    defaultMaxDurationS defaultSnapDistanceM with
  | error e =>
    obtain ⟨s, hs, hbad⟩ := (hends.of_error hplan).exists_slice
    exact absurd (hread s hs) hbad
  | ok r =>
    have hedge : ⟨onMeridian 36.001, (onMeridian 36).distance (onMeridian 36.001), none, []⟩ ∈
        (meridianRoads [(36, 36.001)]).neighbours (onMeridian 36) :=
      mem_neighbours_meridianRoads.2 ⟨36, 36.001, List.mem_cons_self, .inl ⟨rfl, rfl⟩⟩
    obtain ⟨m, hmul⟩ := Option.isSome_iff_exists.1
      (HazardPolicy.edgeMultiplier_isSome (p := .default).2 hrisk)
    have hfound := (hends.of_ok hplan).found_iff.2 ⟨_, _, .step .start
      (le_add_of_nonneg_right (by norm_num [defaultMaxDurationS])) hedge
      (blockedByFieldReport_eq_none.1 (hclear _ _)) hend hrisk hmul⟩
    obtain ⟨start, goal, nodes, -, -, -, hdeparts, hpath, -⟩ := reports_of_found hplan hfound
    obtain rfl : onMeridian 36 = start :=
      Option.some.inj (hd.snap_origin.symm.trans hdeparts.snap_origin)
    exact ⟨r, nodes, rfl, hfound, hpath⟩

end Road

/-- A fire that reaches the place between half an hour and an hour from now. -/
noncomputable def growingFire : HazardField ℝ :=
  .build [⟨30, 1, 1, ⟨35, 128, 38, 130⟩, [0]⟩, ⟨60, 1, 1, ⟨35, 128, 38, 130⟩, [3 / 10]⟩]

theorem growingFire_slices : growingFire.slices =
    [⟨30, 1, 1, ⟨35, 128, 38, 130⟩, [0]⟩, ⟨60, 1, 1, ⟨35, 128, 38, 130⟩, [3 / 10]⟩] := by
  simp [growingFire, HazardField.build, sortByHorizon]

theorem valueAt_single {b : Bbox ℝ} {lat lon : ℝ} (minutes : ℤ) (value : ℝ)
    (h : b.contains lat lon = true) :
    HazardSlice.valueAt ⟨minutes, 1, 1, b, [value]⟩ lat lon = .ok (some value) := by
  have hcell : HazardSlice.cellIndex (⟨minutes, 1, 1, b, [value]⟩ : HazardSlice ℝ) lat lon = 0 := by
    simp [HazardSlice.cellIndex]
  simp [HazardSlice.valueAt, h, hcell, pyGetItem, Except.map]

section
variable {lat t : ℝ}

theorem growingFire_consulted_early (h : t < 1800) :
    growingFire.consulted t = [⟨30, 1, 1, ⟨35, 128, 38, 130⟩, [0]⟩] := by
  have hlt : t / 60 < 30 := by linarith
  simp [HazardField.consulted, HazardField.horizons, growingFire_slices, bisectRight, not_le.2 hlt]

theorem growingFire_consulted_late (h : 3600 ≤ t) :
    growingFire.consulted t = growingFire.slices := by
  have h₁ : (30 : ℝ) ≤ t / 60 := by linarith
  have h₂ : (60 : ℝ) ≤ t / 60 := by linarith
  simp [HazardField.consulted, HazardField.horizons, growingFire_slices, bisectRight, h₁, h₂]

theorem growingFire_contains (hlat : 35 ≤ lat ∧ lat ≤ 38) :
    (⟨35, 128, 38, 130⟩ : Bbox ℝ).contains lat 129 = true := by
  simp only [Bbox.contains, decide_eq_true_eq]
  exact ⟨hlat.1, hlat.2, by norm_num, by norm_num⟩

theorem growingFire_riskAt_late (hlat : 35 ≤ lat ∧ lat ≤ 38) (h : 3600 ≤ t) :
    growingFire.riskAt lat 129 t = .ok (3 / 10) := by
  have hbox := growingFire_contains hlat
  rw [HazardField.riskAt, growingFire_consulted_late h, growingFire_slices]
  norm_num [worstOf, valueAt_single _ _ hbox]

theorem growingFire_changes (graph : RoadGraph ℝ) (speed : ℝ) (path : List (NodeId ℝ)) :
    ¬ Unchanged graph growingFire speed 3600 (onMeridian 36 :: path) := by
  have hbox : (⟨35, 128, 38, 130⟩ : Bbox ℝ).contains 36 129 = true :=
    growingFire_contains (by norm_num)
  have hnow : growingFire.riskAt 36 129 0 = .ok 0 := by
    rw [HazardField.riskAt, growingFire_consulted_early (by norm_num)]
    simp [worstOf, valueAt_single _ _ hbox]
  have hfirst : (onMeridian 36, 0) ∈ pathTimes graph speed (onMeridian 36 :: path) 0 := by
    cases path <;> simp [pathTimes]
  intro h
  have hshows := h _ hfirst 0 hnow ⟨60, 1, 1, ⟨35, 128, 38, 130⟩, [3 / 10]⟩ (by
    rw [growingFire_consulted_late (by norm_num), growingFire_slices]
    simp)
  obtain ⟨v, hv, hle⟩ := hshows
  obtain rfl := Except.ok.inj ((valueAt_single 60 (3 / 10) hbox).symm.trans hv)
  have := hle _ rfl
  norm_num at this

theorem growingFire_riskAt_early (hlat : 35 ≤ lat ∧ lat ≤ 38) (h : t < 1800) :
    growingFire.riskAt lat 129 t = .ok 0 := by
  have hbox := growingFire_contains hlat
  rw [HazardField.riskAt, growingFire_consulted_early h]
  simp [worstOf, valueAt_single _ _ hbox]

theorem growingFire_readable : ∀ s ∈ growingFire.slices, s.Readable := by
  rw [growingFire_slices]
  simp [HazardSlice.Readable]

end

/-- The report of a trip that departs after an hour leaves out the fire it starts in. -/
theorem late_start_unreported :
    ∃ r, planRoute ((meridianRoads [(36, 36.001)]).searchBudget + 1)
        (meridianRoads [(36, 36.001)]) (profileFor .foot) growingFire .default (36, 129)
        (36.001, 129) 3600 defaultMaxDurationS defaultSnapDistanceM = .ok r ∧ r.found = true ∧
      ¬ r.ReportsRiskMet (meridianRoads [(36, 36.001)]) growingFire
        (profileFor .foot : ModeProfile ℝ).speedMps 3600 := by
  have hend : 3600 ≤ 3600 + (onMeridian 36).distance (onMeridian 36.001) /
      (profileFor .foot : ModeProfile ℝ).speedMps :=
    le_add_of_nonneg_right (div_nonneg (haversineM_nonneg _ _ _ _) (profileFor_speed_pos _).le)
  obtain ⟨r, nodes, hplan, hfound, hpath⟩ := found_on_road growingFire rfl
    growingFire_readable (growingFire_riskAt_late (by norm_num) le_rfl)
    (growingFire_riskAt_late (by norm_num) hend) (by norm_num)
  refine ⟨r, hplan, hfound, ?_⟩
  rw [reportsRiskMet_iff (profileFor_speed_ge _) (by norm_num) hplan hfound, hpath]
  exact growingFire_changes _ _ nodes

/-- The report of a trip that departs at once is right. -/
theorem reported_risk_at_once :
    ∃ r, planRoute ((meridianRoads [(36, 36.001)]).searchBudget + 1)
        (meridianRoads [(36, 36.001)]) (profileFor .foot) growingFire .default (36, 129)
        (36.001, 129) 0 defaultMaxDurationS defaultSnapDistanceM = .ok r ∧ r.found = true ∧
      r.ReportsRiskMet (meridianRoads [(36, 36.001)]) growingFire
        (profileFor .foot : ModeProfile ℝ).speedMps 0 := by
  have hdist := (distance_onMeridian_bounds (x := 36) (y := 36.001) (by norm_num [abs_le])).2
  rw [abs_of_pos (by norm_num)] at hdist
  have hspeed : (profileFor .foot : ModeProfile ℝ).speedMps = 11 / 10 := rfl
  have hend : 0 + (onMeridian 36).distance (onMeridian 36.001) /
      (profileFor .foot : ModeProfile ℝ).speedMps < 1800 := by
    rw [hspeed]
    norm_num at hdist ⊢
    linarith
  obtain ⟨r, nodes, hplan, hfound, -⟩ := found_on_road growingFire rfl
    growingFire_readable (growingFire_riskAt_early (by norm_num) (by norm_num))
    (growingFire_riskAt_early (by norm_num) hend) (by norm_num)
  exact ⟨r, hplan, hfound,
    ((reported_risk_iff .foot le_rfl).1 r hplan hfound).2 (unchanged_zero _ _ _ _)⟩

end Salgil
