import Salgil.PlannerRun
import Salgil.NearestNode

namespace Salgil
set_option autoImplicit true
set_option linter.unusedSectionVars false

section
variable {K : Type u} [Field K] [LinearOrder K] [IsStrictOrderedRing K] [FloorRing K] [MathLib K]

/-- A walk in which every step may be taken at the time it is taken. It lists the nodes before
its last one, newest first, and its arrival time. -/
inductive AdmissibleWalk (graph : RoadGraph K) (profile : ModeProfile K) (hazard : HazardField K)
    (policy : HazardPolicy K) (start : NodeId K) (departAfterS maxDurationS : K) :
    List (NodeId K) → NodeId K → K → Prop where
  | start : AdmissibleWalk graph profile hazard policy start departAfterS maxDurationS [] start
      departAfterS
  | step {p : List (NodeId K)} {n : NodeId K} {t : K} {e : Edge K} {risk multiplier : K} :
      AdmissibleWalk graph profile hazard policy start departAfterS maxDurationS p n t →
      t ≤ departAfterS + maxDurationS →
      e ∈ graph.neighbours n →
      (∀ report ∈ hazard.blocked,
        report.radiusM < haversineM e.target.lat e.target.lon report.lat report.lon) →
      hazard.riskAt e.target.lat e.target.lon (t + e.lengthM / profile.speedMps) = .ok risk →
      risk < policy.blockThreshold →
      policy.edgeMultiplier risk = some multiplier →
      AdmissibleWalk graph profile hazard policy start departAfterS maxDurationS (n :: p) e.target
        (t + e.lengthM / profile.speedMps * multiplier)

/-- The request passes the snapping and start checks of the planner. -/
structure Departs (graph : RoadGraph K) (hazard : HazardField K) (policy : HazardPolicy K)
    (origin destination : K × K) (departAfterS snapDistanceM : K) (start goal : NodeId K) :
    Prop where
  snap_origin : graph.nearestNode origin.1 origin.2 snapDistanceM = some start
  snap_destination : graph.nearestNode destination.1 destination.2 snapDistanceM = some goal
  not_closed : hazard.blockedByFieldReport start.lat start.lon = none
  passable : ∃ risk, hazard.riskAt start.lat start.lon departAfterS = .ok risk ∧
    risk < policy.blockThreshold

variable {graph : RoadGraph K} {profile : ModeProfile K} {hazard : HazardField K}
variable {policy : HazardPolicy K} {start goal n : NodeId K} {dep maxDur snap t : K}
variable {origin destination : K × K} {p : List (NodeId K)}

theorem blockedByFieldReport_eq_none {lat lon : K} :
    hazard.blockedByFieldReport lat lon = none ↔
      ∀ report ∈ hazard.blocked, report.radiusM < haversineM lat lon report.lat report.lon := by
  simp [HazardField.blockedByFieldReport]

theorem admissibleWalk_iff :
    AdmissibleWalk graph profile hazard policy start dep maxDur p n t ↔
      (roadTimes graph profile hazard policy).Walk (inTime dep maxDur) start dep p n t := by
  constructor
  · intro h
    induction h with
    | start => exact .nil
    | step _ ht he hopen hrisk _ hmul ih =>
      exact .step ih (sub_le_iff_le_add'.2 ht) he
        (roadTimes_arrive.2 ⟨blockedByFieldReport_eq_none.2 hopen, _, _, hrisk, hmul, rfl⟩)
  · intro h
    induction h with
    | nil => exact .start
    | step _ ht he ha ih =>
      obtain ⟨hopen, risk, m, hrisk, hmul, rfl⟩ := roadTimes_arrive.1 ha
      exact .step ih (sub_le_iff_le_add'.1 ht) he (blockedByFieldReport_eq_none.1 hopen) hrisk
        (HazardPolicy.edgeMultiplier_isSome.1 (Option.isSome_iff_exists.2 ⟨m, hmul⟩)) hmul

theorem Departs.planRoute_eq
    (h : Departs graph hazard policy origin destination dep snap start goal) (fuel : ℕ) :
    planRoute fuel graph profile hazard policy origin destination dep maxDur snap =
      routeBetween fuel graph profile hazard policy start goal dep maxDur := by
  obtain ⟨risk, hrisk, hlt⟩ := h.passable
  have hpass : policy.edgeMultiplier risk ≠ none :=
    fun hnone => HazardPolicy.edgeMultiplier_eq_none.1 hnone hlt
  simp [planRoute, h.snap_origin, h.snap_destination, h.not_closed, hrisk, hpass]

theorem Departs.planRoute_ends
    (h : Departs graph hazard policy origin destination dep snap start goal)
    (hm : Metric graph profile policy) (maxDur : K) {fuel : ℕ} (hfuel : graph.searchBudget < fuel) :
    Ends hazard.Unreadable
      (RouteResult.Spec graph profile hazard policy start goal dep maxDur fuel)
      (planRoute fuel graph profile hazard policy origin destination dep maxDur snap) := by
  rw [h.planRoute_eq]
  exact routeBetween_ends hm hfuel

variable {r : RouteResult K} {fuel : ℕ}

theorem departs_of_found
    (h : planRoute fuel graph profile hazard policy origin destination dep maxDur snap = .ok r)
    (hr : r.found = true) :
    ∃ start goal, Departs graph hazard policy origin destination dep snap start goal := by
  unfold planRoute at h
  cases hstart : graph.nearestNode origin.1 origin.2 snap with
  | none =>
    simp only [hstart, Except.ok.injEq] at h
    simp [← h, RouteResult.refused] at hr
  | some start =>
    cases hgoal : graph.nearestNode destination.1 destination.2 snap with
    | none =>
      simp only [hstart, hgoal, Except.ok.injEq] at h
      simp [← h, RouteResult.refused] at hr
    | some goal =>
      cases hclosed : hazard.blockedByFieldReport start.lat start.lon with
      | some report =>
        simp only [hstart, hgoal, hclosed, Except.ok.injEq] at h
        simp [← h, RouteResult.refused] at hr
      | none =>
        simp only [hstart, hgoal, hclosed] at h
        obtain ⟨risk, hrisk, h⟩ := bind_eq_ok.1 h
        by_cases hpass : policy.edgeMultiplier risk = none
        · simp only [hpass, ↓reduceIte, pure_eq_ok, Except.ok.injEq] at h
          simp [← h, RouteResult.refused] at hr
        · refine ⟨start, goal, hstart, hgoal, hclosed, risk, hrisk, ?_⟩
          exact HazardPolicy.edgeMultiplier_isSome.1 (Option.isSome_iff_ne_none.2 hpass)

theorem RouteResult.Spec.found_iff
    (h : r.Spec graph profile hazard policy start goal dep maxDur fuel) :
    r.found = true ↔
      ∃ p t, AdmissibleWalk graph profile hazard policy start dep maxDur p goal t := by
  simp only [admissibleWalk_iff]
  cases h with
  | found hf _ _ _ hw _ _ _ _ => exact iff_of_true hf ⟨_, _, hw⟩
  | refused hf hempty =>
    refine iff_of_false (by simp [hf]) ?_
    rintro ⟨p, t, hw⟩
    exact Set.notMem_empty t (hempty ▸ ⟨p, hw⟩)

theorem RouteResult.Spec.least
    (h : r.Spec graph profile hazard policy start goal dep maxDur fuel) (hr : r.found = true) :
    ∃ p t st, search graph profile hazard policy goal dep maxDur fuel
        (SearchState.init start dep) = .ok (.reached t st) ∧
      AdmissibleWalk graph profile hazard policy start dep maxDur p goal t ∧
      r.coordinates = (goal :: p).reverse.map (fun node => (node.lon, node.lat)) ∧
      r.durationS = pyRound 1 (t - dep) ∧
      IsLeast {d | ∃ p t, AdmissibleWalk graph profile hazard policy start dep maxDur p goal t ∧
        d = t - dep} (t - dep) := by
  simp only [admissibleWalk_iff]
  cases h with
  | refused hf => simp [hf] at hr
  | found _ _ hsearch hleast hw _ hcoords hduration =>
    refine ⟨_, _, _, hsearch, hw, hcoords, hduration, ⟨_, _, hw, rfl⟩, ?_⟩
    rintro _ ⟨p, s, hws, rfl⟩
    exact sub_le_sub_right (hleast.2 ⟨p, hws⟩) dep

theorem RouteResult.Spec.simple
    (h : r.Spec graph profile hazard policy start goal dep maxDur fuel) (hr : r.found = true) :
    ∃ p t, AdmissibleWalk graph profile hazard policy start dep maxDur p goal t ∧
      (goal :: p).Nodup ∧
      r.coordinates = (goal :: p).reverse.map (fun node => (node.lon, node.lat)) := by
  simp only [admissibleWalk_iff]
  cases h with
  | refused hf => simp [hf] at hr
  | found _ _ _ _ hw hnodup hcoords => exact ⟨_, _, hw, hnodup, hcoords⟩

theorem RouteResult.Spec.explored
    (h : r.Spec graph profile hazard policy start goal dep maxDur fuel) :
    r.exploredNodes = (expansions graph profile hazard policy goal dep maxDur fuel
      (SearchState.init start dep)).length := by
  cases h with
  | found _ _ _ _ _ _ _ _ hc => exact hc
  | refused _ _ _ _ hc => exact hc

end

section Road
variable {hazard : HazardField ℝ} {policy : HazardPolicy ℝ} {profile : ModeProfile ℝ}
variable {x y dep maxDur snap : ℝ}

theorem meridianRoads_metric (spans : List (ℝ × ℝ)) (mode : TransportMode)
    (h : 1 ≤ policy.avoidPenalty) : Metric (meridianRoads spans) (profileFor mode) policy where
  length_nonneg _ _ he := meridianRoads_length_nonneg he
  speed_pos := profileFor_speed_pos mode
  one_le_penalty := h

theorem Departs.on_roads {spans : List (ℝ × ℝ)} {x y x' y' : ℝ} (dep snap : ℝ)
    (hslices : hazard.slices = []) (hblock : 0 < policy.blockThreshold)
    (hspans : ∀ x y, (x, y) ∈ spans → |x| < 90 ∧ |y| < 90) (hx : (x, x') ∈ spans ∨ (x', x) ∈ spans)
    (hy : (y, y') ∈ spans ∨ (y', y) ∈ spans) (hsnap : 0 < snap)
    (hopen : hazard.blockedByFieldReport x 129 = none) :
    Departs (meridianRoads spans) hazard policy (x, 129) (y, 129) dep snap (onMeridian x)
      (onMeridian y) :=
  ⟨nearestNode_meridianRoads hspans hx hsnap, nearestNode_meridianRoads hspans hy hsnap, hopen, 0,
    HazardField.riskAt_of_slices_eq_nil hslices _ _ _, hblock⟩

theorem Departs.on_road (x y dep snap : ℝ) (hslices : hazard.slices = [])
    (hblock : 0 < policy.blockThreshold) (hx : |x| < 90) (hy : |y| < 90) (hsnap : 0 < snap)
    (hopen : hazard.blockedByFieldReport x 129 = none) :
    Departs (meridianRoads [(x, y)]) hazard policy (x, 129) (y, 129) dep snap (onMeridian x)
      (onMeridian y) := by
  refine Departs.on_roads dep snap hslices hblock ?_ (.inl List.mem_cons_self)
    (.inr List.mem_cons_self) hsnap hopen
  intro x' y' hxy
  obtain ⟨rfl, rfl⟩ := Prod.mk.inj (List.mem_singleton.1 hxy)
  exact ⟨hx, hy⟩

theorem AdmissibleWalk.along_road (hslices : hazard.slices = [])
    (hblock : 0 < policy.blockThreshold)
    (hmax : 0 ≤ maxDur) (hopen : hazard.blockedByFieldReport y 129 = none) :
    ∃ p t, AdmissibleWalk (meridianRoads [(x, y)]) profile hazard policy (onMeridian x) dep maxDur
      p (onMeridian y) t := by
  obtain ⟨m, hm⟩ := Option.isSome_iff_exists.1 (HazardPolicy.edgeMultiplier_isSome.2 hblock)
  have hedge : ⟨onMeridian y, (onMeridian x).distance (onMeridian y), none, []⟩ ∈
      (meridianRoads [(x, y)]).neighbours (onMeridian x) :=
    mem_neighbours_meridianRoads.2 ⟨x, y, List.mem_cons_self, .inl ⟨rfl, rfl⟩⟩
  exact ⟨_, _, .step .start (le_add_of_nonneg_right hmax) hedge
    (blockedByFieldReport_eq_none.1 hopen)
    (HazardField.riskAt_of_slices_eq_nil hslices _ _ _) hblock hm⟩

end Road

end Salgil
