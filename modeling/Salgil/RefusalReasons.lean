import Salgil.RouteOptimality
import Mathlib.Logic.Relation
import Mathlib.Tactic.Tauto

namespace Salgil
set_option autoImplicit true
set_option linter.unusedSectionVars false

section
variable {K : Type u} [Field K] [LinearOrder K] [IsStrictOrderedRing K] [FloorRing K]

/-- Some path of the road graph, whatever the hazard, joins the two nodes. -/
def RoadGraph.Joined (graph : RoadGraph K) : NodeId K → NodeId K → Prop :=
  Relation.ReflTransGen graph.Adjacent

variable [MathLib K]

/-- An edge left at time `t` ends outside every closure, at a place passable on arrival. -/
def MayTake (profile : ModeProfile K) (hazard : HazardField K) (policy : HazardPolicy K)
    (e : Edge K) (t : K) : Prop :=
  (∀ report ∈ hazard.blocked,
    report.radiusM < haversineM e.target.lat e.target.lon report.lat report.lon) ∧
  ∃ risk, hazard.riskAt e.target.lat e.target.lon (t + e.lengthM / profile.speedMps) = .ok risk ∧
    risk < policy.blockThreshold

/-- The hazard or the closures exclude every path to the goal, however long it may take. -/
def Excluded (graph : RoadGraph K) (profile : ModeProfile K) (hazard : HazardField K)
    (policy : HazardPolicy K) (start goal : NodeId K) (dep : K) : Prop :=
  ∀ limit p t, ¬ AdmissibleWalk graph profile hazard policy start dep limit p goal t

/-- Leaving some node at its earliest arrival, which is in time, an edge may not be taken. -/
def HazardMet (graph : RoadGraph K) (profile : ModeProfile K) (hazard : HazardField K)
    (policy : HazardPolicy K) (start : NodeId K) (dep maxDur : K) : Prop :=
  ∃ n t, IsLeast {t | ∃ p, AdmissibleWalk graph profile hazard policy start dep maxDur p n t} t ∧
    t ≤ dep + maxDur ∧ ∃ e ∈ graph.neighbours n, ¬ MayTake profile hazard policy e t

/-- The reason says what it means: there is no road at all, or there is one and the hazard or the
closures exclude it. -/
def RouteResult.Truthful (r : RouteResult K) (graph : RoadGraph K) (profile : ModeProfile K)
    (hazard : HazardField K) (policy : HazardPolicy K) (start goal : NodeId K) (dep : K) : Prop :=
  (r.reason = some .notConnected ↔ ¬ graph.Joined start goal) ∧
  ((∃ avoided closures, r.reason = some (.hazardInTheWay avoided closures)) ↔
    graph.Joined start goal ∧ Excluded graph profile hazard policy start goal dep)

variable {graph : RoadGraph K} {profile : ModeProfile K} {hazard : HazardField K}
variable {policy : HazardPolicy K} {start goal n : NodeId K} {dep snap t : K}
variable {origin destination : K × K} {p : List (NodeId K)} {r : RouteResult K}

theorem AdmissibleWalk.joined {maxDur : K}
    (h : AdmissibleWalk graph profile hazard policy start dep maxDur p n t) :
    graph.Joined start n := by
  induction h with
  | start => exact .refl
  | step _ _ he _ _ _ _ ih => exact ih.tail ⟨_, he, rfl⟩

theorem roadTimes_eq_none {e : Edge K} :
    (roadTimes graph profile hazard policy).arrive e t = none ↔
      ¬ MayTake profile hazard policy e t := by
  rw [Option.eq_none_iff_forall_ne_some, MayTake, ← blockedByFieldReport_eq_none]
  simp only [ne_eq, roadTimes_arrive]
  constructor
  · rintro h ⟨hopen, risk, hrisk, hlt⟩
    obtain ⟨m, hm⟩ := Option.isSome_iff_exists.1 (HazardPolicy.edgeMultiplier_isSome.2 hlt)
    exact h _ ⟨hopen, risk, m, hrisk, hm, rfl⟩
  · rintro h t' ⟨hopen, risk, m, hrisk, hm, -⟩
    exact h ⟨hopen, risk, hrisk,
      HazardPolicy.edgeMultiplier_isSome.1 (Option.isSome_iff_exists.2 ⟨m, hm⟩)⟩

theorem metShut_iff {maxDur : K} :
    (MetShut graph profile hazard policy dep maxDur fun n t =>
        IsLeast ((roadTimes graph profile hazard policy).arrivals (inTime dep maxDur) start dep n)
          t) ↔
      HazardMet graph profile hazard policy start dep maxDur := by
  simp only [MetShut, HazardMet, roadTimes_eq_none, TimedGraph.arrivals, admissibleWalk_iff, inTime,
    sub_le_iff_le_add']

/-- What a refusal after the start checks says, in terms of the hazard met on the way. -/
theorem RouteResult.Spec.reason {maxDur : K} {fuel : ℕ}
    (h : r.Spec graph profile hazard policy start goal dep maxDur fuel) (hr : r.found = false) :
    ((∃ avoided closures, r.reason = some (.hazardInTheWay avoided closures)) ↔
      HazardMet graph profile hazard policy start dep maxDur) ∧
    (r.reason = some .notConnected ↔
      ¬ HazardMet graph profile hazard policy start dep maxDur) := by
  cases h with
  | found hf => simp [hf] at hr
  | refused _ _ hhazard hconn => exact ⟨hhazard.trans metShut_iff, hconn.trans metShut_iff.not⟩

/-- The refusal reasons mean what they say exactly when the search meets the hazard in time where
the nodes are joined, and only there, and no longer trip would get through. -/
theorem truthful_iff (hm : Metric graph profile policy)
    (hd : Departs graph hazard policy origin destination dep snap start goal)
    (maxDur : K) {fuel : ℕ}
    (hfuel : graph.searchBudget < fuel) :
    Ends hazard.Unreadable (fun r => r.found = false →
        (r.Truthful graph profile hazard policy start goal dep ↔
          (graph.Joined start goal → HazardMet graph profile hazard policy start dep maxDur ∧
            Excluded graph profile hazard policy start goal dep) ∧
          (¬ graph.Joined start goal →
            ¬ HazardMet graph profile hazard policy start dep maxDur)))
      (planRoute fuel graph profile hazard policy origin destination dep maxDur snap) := by
  refine (hd.planRoute_ends hm maxDur hfuel).mono fun r hspec hr => ?_
  obtain ⟨hhazard, hconn⟩ := hspec.reason hr
  rw [RouteResult.Truthful, hhazard, hconn]
  tauto

end

/-- Two roads that do not touch. -/
noncomputable def twoRoads : RoadGraph ℝ := meridianRoads [(36.4, 36.41), (36.5, 36.51)]

theorem twoRoads_joined {n : NodeId ℝ} (h : twoRoads.Joined (onMeridian 36.4) n) :
    n = onMeridian 36.4 ∨ n = onMeridian 36.41 := by
  induction h with
  | refl => exact .inl rfl
  | tail _ hstep ih =>
    obtain ⟨e, he, rfl⟩ := hstep
    obtain ⟨x, y, hxy, ⟨hn, rfl⟩ | ⟨hn, rfl⟩⟩ := mem_neighbours_meridianRoads.1 he <;>
      subst hn <;> simp only [List.mem_cons, Prod.mk.injEq, List.not_mem_nil, or_false] at hxy <;>
      rcases hxy with ⟨rfl, rfl⟩ | ⟨rfl, rfl⟩ <;> revert ih <;> norm_num [onMeridian_inj]

theorem twoRoads_not_joined : ¬ twoRoads.Joined (onMeridian 36.4) (onMeridian 36.5) := by
  intro h
  have hn := twoRoads_joined h
  norm_num [onMeridian_inj] at hn

theorem twoRoads_metric : Metric twoRoads (profileFor .foot) .default :=
  meridianRoads_metric _ .foot (by norm_num [HazardPolicy.default])

theorem twoRoads_departs {hazard : HazardField ℝ} (hslices : hazard.slices = [])
    (hopen : hazard.blockedByFieldReport 36.4 129 = none) :
    Departs twoRoads hazard .default (36.4, 129) (36.5, 129) 0 defaultSnapDistanceM
      (onMeridian 36.4) (onMeridian 36.5) := by
  refine Departs.on_roads 0 _ hslices (by norm_num [HazardPolicy.default]) ?_
    (.inl List.mem_cons_self) (.inl (List.mem_cons_of_mem _ List.mem_cons_self))
    (by norm_num [defaultSnapDistanceM]) hopen
  intro x y hxy
  simp only [List.mem_cons, Prod.mk.injEq, List.not_mem_nil, or_false] at hxy
  rcases hxy with ⟨rfl, rfl⟩ | ⟨rfl, rfl⟩ <;> norm_num [abs_lt]

theorem twoRoads_refused (hazard : HazardField ℝ) (hslices : hazard.slices = [])
    (hopen : hazard.blockedByFieldReport 36.4 129 = none) :
    ∃ r, planRoute (twoRoads.searchBudget + 1) twoRoads (profileFor .foot) hazard .default
        (36.4, 129) (36.5, 129) 0 defaultMaxDurationS defaultSnapDistanceM = .ok r ∧
      r.found = false ∧ r.Spec twoRoads (profileFor .foot) hazard .default (onMeridian 36.4)
        (onMeridian 36.5) 0 defaultMaxDurationS (twoRoads.searchBudget + 1) := by
  have hends := (twoRoads_departs hslices hopen).planRoute_ends twoRoads_metric
    defaultMaxDurationS (Nat.lt_succ_self _)
  cases hplan : planRoute (twoRoads.searchBudget + 1) twoRoads (profileFor .foot) hazard .default
    (36.4, 129) (36.5, 129) 0 defaultMaxDurationS defaultSnapDistanceM with
  | error e =>
    obtain ⟨s, hs, -⟩ := (hends.of_error hplan).exists_slice
    simp [hslices] at hs
  | ok r =>
    have hspec := hends.of_ok hplan
    refine ⟨r, rfl, ?_, hspec⟩
    rw [← Bool.not_eq_true, hspec.found_iff]
    rintro ⟨p, t, hw⟩
    exact twoRoads_not_joined hw.joined

/-- With a closure at the far end of the first road, the planner blames the hazard although no
road leads to the shelter. -/
theorem closure_blamed_for_missing_road :
    ∃ r, planRoute (twoRoads.searchBudget + 1) twoRoads (profileFor .foot)
        (.build [] [⟨36.41, 129, 120, "road_closed", none⟩]) .default (36.4, 129) (36.5, 129) 0
        defaultMaxDurationS defaultSnapDistanceM = .ok r ∧ r.found = false ∧
      ¬ twoRoads.Joined (onMeridian 36.4) (onMeridian 36.5) ∧
      (∃ avoided closures, r.reason = some (.hazardInTheWay avoided closures)) ∧
      ¬ r.Truthful twoRoads (profileFor .foot)
        (.build [] [⟨36.41, 129, 120, "road_closed", none⟩]) .default (onMeridian 36.4)
        (onMeridian 36.5) 0 := by
  set hazard : HazardField ℝ := .build [] [⟨36.41, 129, 120, "road_closed", none⟩] with hhazard
  have hclosure : hazard.blocked = [⟨36.41, 129, 120, "road_closed", none⟩] := rfl
  have hopen : hazard.blockedByFieldReport 36.4 129 = none := by
    rw [blockedByFieldReport_eq_none, hclosure]
    intro report hreport
    rw [List.mem_singleton.1 hreport]
    have hdist : 111000 * |(36.41 : ℝ) - 36.4| ≤ _ :=
      (distance_onMeridian_bounds (by norm_num [abs_le])).1
    refine lt_of_lt_of_le ?_ hdist
    norm_num [abs_of_pos]
  have hmet : HazardMet twoRoads (profileFor .foot) hazard .default (onMeridian 36.4) 0
      defaultMaxDurationS := by
    refine ⟨onMeridian 36.4, 0, ⟨⟨[], .start⟩, ?_⟩, by norm_num [defaultMaxDurationS],
      ⟨onMeridian 36.41, (onMeridian 36.4).distance (onMeridian 36.41), none, []⟩, ?_, ?_⟩
    · rintro t ⟨p, hw⟩
      exact (admissibleWalk_iff.1 hw).dep_le (roadTimes_fifo twoRoads_metric)
    · exact mem_neighbours_meridianRoads.2 ⟨_, _, List.mem_cons_self, .inl ⟨rfl, rfl⟩⟩
    · rintro ⟨hfar, -⟩
      have hnear := hfar _ (hclosure ▸ List.mem_cons_self)
      rw [show haversineM (onMeridian 36.41).lat (onMeridian 36.41).lon 36.41 129 = 0 from
        haversineM_self _ _] at hnear
      norm_num at hnear
  obtain ⟨r, hr, hfound, hspec⟩ := twoRoads_refused hazard rfl hopen
  have hreason := (hspec.reason hfound).1.2 hmet
  exact ⟨r, hr, hfound, twoRoads_not_joined, hreason,
    fun ht => twoRoads_not_joined (ht.2.1 hreason).1⟩

/-- Without the closure the planner says that no road leads there. -/
theorem truthful_iff_twoRoads :
    ∃ r, planRoute (twoRoads.searchBudget + 1) twoRoads (profileFor .foot) .build .default
        (36.4, 129) (36.5, 129) 0 defaultMaxDurationS defaultSnapDistanceM = .ok r ∧
      r.found = false ∧ r.Truthful twoRoads (profileFor .foot) .build .default (onMeridian 36.4)
        (onMeridian 36.5) 0 := by
  have hdeparts : Departs twoRoads .build .default (36.4, 129) (36.5, 129) 0 defaultSnapDistanceM
      (onMeridian 36.4) (onMeridian 36.5) := twoRoads_departs rfl rfl
  have hends := truthful_iff twoRoads_metric hdeparts
    defaultMaxDurationS (Nat.lt_succ_self _)
  obtain ⟨r, hr, hfound, -⟩ := twoRoads_refused .build rfl rfl
  refine ⟨r, hr, hfound, (hends.of_ok hr hfound).2 ⟨fun h => absurd h twoRoads_not_joined, ?_⟩⟩
  rintro - ⟨n, t, -, -, e, -, hshut⟩
  refine hshut ⟨fun _ h => absurd h List.not_mem_nil, 0,
    HazardField.riskAt_of_slices_eq_nil rfl _ _ _, ?_⟩
  norm_num [HazardPolicy.default]

end Salgil
