import Salgil.RouteOptimality

namespace Salgil
set_option autoImplicit true
set_option linter.unusedSectionVars false

section
variable {K : Type u} [Field K] [LinearOrder K] [IsStrictOrderedRing K] [FloorRing K] [MathLib K]
variable {graph : RoadGraph K} {profile : ModeProfile K} {hazard : HazardField K}
variable {policy : HazardPolicy K} {start goal n : NodeId K} {dep maxDur snap t : K}
variable {origin destination : K × K} {st : SearchState K} {r : RouteResult K} {fuel : ℕ}

/-- The request sets out from `start`, and `d` is the duration of its route, before it is rounded
for the report. -/
structure RouteResult.Lasts (r : RouteResult K) (graph : RoadGraph K) (profile : ModeProfile K)
    (hazard : HazardField K) (policy : HazardPolicy K) (origin destination : K × K)
    (dep maxDur snap : K) (fuel : ℕ) (start goal : NodeId K) (d : K) : Prop where
  departs : Departs graph hazard policy origin destination dep snap start goal
  reached : ∃ t st, search graph profile hazard policy goal dep maxDur fuel
    (SearchState.init start dep) = .ok (.reached t st) ∧ d = t - dep
  reported : r.durationS = pyRound 1 d

/-- Every entry of the queue is the arrival of an admissible walk. -/
def SearchState.Walked (graph : RoadGraph K) (profile : ModeProfile K) (hazard : HazardField K)
    (policy : HazardPolicy K) (start : NodeId K) (dep maxDur : K) (st : SearchState K) : Prop :=
  ∀ t n, (t, n) ∈ st.queue →
    ∃ p, AdmissibleWalk graph profile hazard policy start dep maxDur p n t

theorem SearchState.Walked.init :
    (SearchState.init start dep).Walked graph profile hazard policy start dep maxDur := by
  intro t n h
  obtain ⟨rfl, rfl⟩ := Prod.mk.inj (List.mem_singleton.1 h)
  exact ⟨[], .start⟩

theorem SearchState.Walked.relax {p : List (NodeId K)} {edges : List (Edge K)}
    {st' : SearchState K}
    (h : st.Walked graph profile hazard policy start dep maxDur)
    (hw : AdmissibleWalk graph profile hazard policy start dep maxDur p n t)
    (ht : t - dep ≤ maxDur) (hedges : ∀ e ∈ edges, e ∈ graph.neighbours n)
    (hst' : edges.foldlM (relaxEdge profile hazard policy t n) st = .ok st') :
    st'.Walked graph profile hazard policy start dep maxDur := by
  induction edges generalizing st with
  | nil => exact Except.ok.inj hst' ▸ h
  | cons e edges ih =>
    rw [List.foldlM_cons] at hst'
    obtain ⟨st₁, hst₁, hst'⟩ := bind_eq_ok.1 hst'
    obtain ⟨hrel, -⟩ := (relaxEdge_ends graph profile hazard policy t n st e).of_ok hst₁
    refine ih ?_ (fun e he => hedges e (List.mem_cons_of_mem _ he)) hst'
    intro s m hs
    rcases hrel.queued (Multiset.mem_coe.2 hs) with hs | ⟨c, hc, hx⟩
    · exact h s m (Multiset.mem_coe.1 hs)
    · obtain ⟨rfl, rfl⟩ := Prod.mk.inj hx
      exact ⟨n :: p, admissibleWalk_iff.2
        (.step (admissibleWalk_iff.1 hw) ht (hedges e List.mem_cons_self) hc)⟩

theorem SearchState.Walked.round {round : Round K}
    (h : st.Walked graph profile hazard policy start dep maxDur)
    (hround : searchRound graph profile hazard policy goal dep maxDur st = .ok round) :
    match round with
    | .exhausted => True
    | .stale st' | .expanded _ st' => st'.Walked graph profile hazard policy start dep maxDur
    | .reached t _ => ∃ p,
        AdmissibleWalk graph profile hazard policy start dep maxDur p goal t := by
  cases hq : st.queue with
  | nil =>
    simp only [searchRound, hq, Except.ok.injEq] at hround
    subst hround
    trivial
  | cons entry q =>
    obtain ⟨t, n⟩ := entry
    have hrest : ∀ s m, (s, m) ∈ q →
        ∃ p, AdmissibleWalk graph profile hazard policy start dep maxDur p m s := by
      intro s m hs
      exact h s m (hq ▸ List.mem_cons_of_mem _ hs)
    obtain ⟨p, hw⟩ := h t n (hq ▸ List.mem_cons_self)
    simp only [searchRound, hq] at hround
    split at hround
    · cases hround
      exact hrest
    · split at hround
      · next hgoal =>
        cases hround
        exact ⟨p, hgoal ▸ hw⟩
      · split at hround
        · cases hround
          exact hrest
        · next hlate =>
          obtain ⟨st', hst', hround⟩ := bind_eq_ok.1 hround
          cases hround
          have hpopped : SearchState.Walked graph profile hazard policy start dep maxDur
              { st with queue := q, explored := st.explored + 1 } := hrest
          exact hpopped.relax hw (not_lt.1 hlate) (fun _ he => he) hst'

/-- Whatever the numbers of the graph, the search reaches the goal by an admissible walk. -/
theorem SearchState.Walked.run {st' : SearchState K}
    (h : st.Walked graph profile hazard policy start dep maxDur)
    (hrun : search graph profile hazard policy goal dep maxDur fuel st = .ok (.reached t st')) :
    ∃ p, AdmissibleWalk graph profile hazard policy start dep maxDur p goal t := by
  induction fuel generalizing st with
  | zero => simp [search] at hrun
  | succ fuel ih =>
    obtain ⟨round, hround, hrun⟩ := bind_eq_ok.1 hrun
    have hkeeps := h.round hround
    cases round with
    | exhausted => simp at hrun
    | stale st₁ => exact ih hkeeps hrun
    | reached s st₁ =>
      obtain ⟨rfl, -⟩ := SearchOutcome.reached.inj (Except.ok.inj hrun)
      exact hkeeps
    | expanded m st₁ => exact ih hkeeps hrun

theorem lasts_of_found
    (h : planRoute fuel graph profile hazard policy origin destination dep maxDur snap = .ok r)
    (hr : r.found = true) :
    ∃ start goal d, r.Lasts graph profile hazard policy origin destination dep maxDur snap fuel
      start goal d := by
  obtain ⟨start, goal, hd⟩ := departs_of_found h hr
  rw [hd.planRoute_eq] at h
  obtain ⟨t, st, hsearch, hbuild⟩ := routeBetween_found h hr
  obtain ⟨path, first, distance, rest, -, -, -, rfl⟩ := buildResult_ok hbuild
  exact ⟨start, goal, t - dep, hd, ⟨t, st, hsearch, rfl⟩, rfl⟩

theorem RouteResult.Lasts.walk {d : K}
    (h : r.Lasts graph profile hazard policy origin destination dep maxDur snap fuel start goal d) :
    ∃ p t, AdmissibleWalk graph profile hazard policy start dep maxDur p goal t ∧ d = t - dep := by
  obtain ⟨t, st, hsearch, rfl⟩ := h.reached
  obtain ⟨p, hw⟩ := SearchState.Walked.init.run hsearch
  exact ⟨p, t, hw, rfl⟩

theorem AdmissibleWalk.edge_le {p : List (NodeId K)} {length : K}
    (hm : Metric graph profile policy) (hne : start ≠ n)
    (hlength : ∀ m, ∀ e ∈ graph.neighbours m, length ≤ e.lengthM)
    (h : AdmissibleWalk graph profile hazard policy start dep maxDur p n t) :
    dep + length / profile.speedMps ≤ t := by
  cases h with
  | start => exact absurd rfl hne
  | @step p m s e risk multiplier hw _ he _ _ _ hmul =>
    have hs := (admissibleWalk_iff.1 hw).dep_le (roadTimes_fifo hm)
    have hone := HazardPolicy.one_le_edgeMultiplier hm.one_le_penalty hmul
    have hedge := div_le_div_of_nonneg_right (hlength m e he) hm.speed_pos.le
    have htravel := le_mul_of_one_le_right (hm.travel_nonneg he) hone
    linarith

/-- On a metric graph no admissible walk to the goal is faster than the route. -/
theorem RouteResult.Lasts.le {d : K} {p : List (NodeId K)} (hm : Metric graph profile policy)
    (hfuel : graph.searchBudget < fuel)
    (h : r.Lasts graph profile hazard policy origin destination dep maxDur snap fuel start goal d)
    (hw : AdmissibleWalk graph profile hazard policy start dep maxDur p goal t) : d ≤ t - dep := by
  obtain ⟨s, st, hsearch, rfl⟩ := h.reached
  have hends : Ends hazard.Unreadable
      (SearchOutcome.Spec graph profile hazard policy start goal dep maxDur _ fuel)
      (search graph profile hazard policy goal dep maxDur fuel (SearchState.init start dep)) :=
    search_ends hm hfuel
  cases hends.of_ok hsearch with
  | reached hleast => exact sub_le_sub_right (hleast.2 ⟨p, admissibleWalk_iff.1 hw⟩) dep

/-- A found route keeps the limit when every admissible walk to the goal does, and on a metric
graph exactly when some admissible walk does. -/
theorem duration_limit_iff (graph : RoadGraph K) (profile : ModeProfile K) (hazard : HazardField K)
    (policy : HazardPolicy K) (origin destination : K × K) (dep maxDur snap : K) (fuel : ℕ) :
    (∀ r, planRoute fuel graph profile hazard policy origin destination dep maxDur snap = .ok r →
      r.found = true →
      ∃ start goal d, r.Lasts graph profile hazard policy origin destination dep maxDur snap fuel
          start goal d ∧
        (d ≤ maxDur →
          ∃ p t, AdmissibleWalk graph profile hazard policy start dep maxDur p goal t ∧
            t - dep ≤ maxDur) ∧
        ((∀ p t, AdmissibleWalk graph profile hazard policy start dep maxDur p goal t →
          t - dep ≤ maxDur) → d ≤ maxDur)) ∧
    (Metric graph profile policy → graph.searchBudget < fuel →
      ∀ start goal, Departs graph hazard policy origin destination dep snap start goal →
        Ends hazard.Unreadable (fun r => r.found = true →
            ∃ d, r.Lasts graph profile hazard policy origin destination dep maxDur snap fuel start
                goal d ∧
              (d ≤ maxDur ↔
                ∃ p t, AdmissibleWalk graph profile hazard policy start dep maxDur p goal t ∧
                  t - dep ≤ maxDur))
          (planRoute fuel graph profile hazard policy origin destination dep maxDur snap)) := by
  constructor
  · intro r h hr
    obtain ⟨start, goal, d, hlasts⟩ := lasts_of_found h hr
    obtain ⟨p, t, hw, rfl⟩ := hlasts.walk
    exact ⟨start, goal, t - dep, hlasts, fun hle => ⟨p, t, hw, hle⟩, fun hall => hall p t hw⟩
  · intro hm hfuel start goal hd
    refine (hd.planRoute_ends hm maxDur hfuel).mono fun r hspec hr => ?_
    obtain ⟨p, t, st, hsearch, hw, -, hround, -⟩ := hspec.least hr
    have hlasts : r.Lasts graph profile hazard policy origin destination dep maxDur snap fuel start
        goal (t - dep) := ⟨hd, ⟨t, st, hsearch, rfl⟩, hround⟩
    refine ⟨t - dep, hlasts, fun hle => ⟨p, t, hw, hle⟩, ?_⟩
    rintro ⟨q, s, hwalk, hle⟩
    exact (hlasts.le hm hfuel hwalk).trans hle

end

section Road
variable {x y : ℝ}

theorem road_found (hxy : |x| < 90 ∧ |y| < 90) :
    ∃ r, planRoute ((meridianRoads [(x, y)]).searchBudget + 1) (meridianRoads [(x, y)])
        (profileFor .foot) .build .default (x, 129) (y, 129) 0 defaultMaxDurationS
        defaultSnapDistanceM = .ok r ∧ r.found = true ∧
      Departs (meridianRoads [(x, y)]) .build .default (x, 129) (y, 129) 0 defaultSnapDistanceM
        (onMeridian x) (onMeridian y) ∧
      Metric (meridianRoads [(x, y)]) (profileFor .foot) .default := by
  have hblock : (0 : ℝ) < (HazardPolicy.default : HazardPolicy ℝ).blockThreshold := by
    norm_num [HazardPolicy.default]
  have hm : Metric (meridianRoads [(x, y)]) (profileFor .foot) .default :=
    meridianRoads_metric _ .foot (by norm_num [HazardPolicy.default])
  have hd : Departs (meridianRoads [(x, y)]) .build .default (x, 129) (y, 129) 0
      defaultSnapDistanceM (onMeridian x) (onMeridian y) :=
    .on_road x y 0 _ rfl hblock hxy.1 hxy.2 (by norm_num [defaultSnapDistanceM]) rfl
  have hends := hd.planRoute_ends hm defaultMaxDurationS (Nat.lt_succ_self _)
  cases hplan : planRoute ((meridianRoads [(x, y)]).searchBudget + 1) (meridianRoads [(x, y)])
    (profileFor .foot) (.build : HazardField ℝ) .default (x, 129) (y, 129) 0 defaultMaxDurationS
    defaultSnapDistanceM with
  | error e =>
    obtain ⟨s, hs, -⟩ := (hends.of_error hplan).exists_slice
    cases hs
  | ok r =>
    refine ⟨r, rfl, (hends.of_ok hplan).found_iff.2 ?_, hd, hm⟩
    exact AdmissibleWalk.along_road rfl hblock (by norm_num [defaultMaxDurationS]) rfl

end Road

/-- A single road of about 22 km takes a walker more than five hours, and is found under the limit
of four. -/
theorem day_walk_over_limit :
    ∃ r d, planRoute ((meridianRoads [(36, 36.2)]).searchBudget + 1) (meridianRoads [(36, 36.2)])
        (profileFor .foot) .build .default (36, 129) (36.2, 129) 0 defaultMaxDurationS
        defaultSnapDistanceM = .ok r ∧ r.found = true ∧
      r.Lasts (meridianRoads [(36, 36.2)]) (profileFor .foot) .build .default (36, 129) (36.2, 129)
        0 defaultMaxDurationS defaultSnapDistanceM
        ((meridianRoads [(36, 36.2)]).searchBudget + 1) (onMeridian 36) (onMeridian 36.2) d ∧
      defaultMaxDurationS < d := by
  obtain ⟨r, hplan, hr, hd, hm⟩ := road_found (x := 36) (y := 36.2) (by norm_num [abs_lt])
  obtain ⟨start, goal, d, hlasts⟩ := lasts_of_found hplan hr
  obtain rfl : onMeridian 36 = start :=
    Option.some.inj (hd.snap_origin.symm.trans hlasts.departs.snap_origin)
  obtain rfl : onMeridian 36.2 = goal :=
    Option.some.inj (hd.snap_destination.symm.trans hlasts.departs.snap_destination)
  obtain ⟨p, t, hw, rfl⟩ := hlasts.walk
  refine ⟨r, _, hplan, hr, hlasts, ?_⟩
  have hroad : ∀ m, ∀ e ∈ (meridianRoads [(36, 36.2)]).neighbours m,
      (onMeridian 36).distance (onMeridian 36.2) ≤ e.lengthM := by
    intro m e he
    obtain ⟨a, b, hab, ⟨-, rfl⟩ | ⟨-, rfl⟩⟩ := mem_neighbours_meridianRoads.1 he <;>
      (obtain ⟨rfl, rfl⟩ := Prod.mk.inj (List.mem_singleton.1 hab); exact le_rfl)
  have hle := hw.edge_le hm (by norm_num [onMeridian_inj]) hroad
  have hdist := (distance_onMeridian_bounds (x := 36) (y := 36.2) (by norm_num [abs_le])).1
  rw [abs_of_pos (by norm_num)] at hdist
  have hspeed : (profileFor .foot : ModeProfile ℝ).speedMps = 11 / 10 := rfl
  rw [hspeed] at hle
  norm_num [defaultMaxDurationS] at hle hdist ⊢
  linarith

/-- A short road is walked within the limit. -/
theorem duration_limit_short_road :
    ∃ r d, planRoute ((meridianRoads [(36, 36.001)]).searchBudget + 1)
        (meridianRoads [(36, 36.001)]) (profileFor .foot) .build .default (36, 129) (36.001, 129) 0
        defaultMaxDurationS defaultSnapDistanceM = .ok r ∧ r.found = true ∧
      r.Lasts (meridianRoads [(36, 36.001)]) (profileFor .foot) .build .default (36, 129)
        (36.001, 129) 0 defaultMaxDurationS defaultSnapDistanceM
        ((meridianRoads [(36, 36.001)]).searchBudget + 1) (onMeridian 36) (onMeridian 36.001) d ∧
      d ≤ defaultMaxDurationS := by
  obtain ⟨r, hplan, hr, hd, hm⟩ := road_found (x := 36) (y := 36.001) (by norm_num [abs_lt])
  have hlimit := (duration_limit_iff (meridianRoads [(36, 36.001)]) (profileFor .foot) .build
    .default (36, 129) (36.001, 129) 0 defaultMaxDurationS defaultSnapDistanceM
    ((meridianRoads [(36, 36.001)]).searchBudget + 1)).2 hm (Nat.lt_succ_self _) _ _ hd
  obtain ⟨d, hlasts, hiff⟩ := hlimit.of_ok hplan hr
  refine ⟨r, d, hplan, hr, hlasts, hiff.2 ?_⟩
  have hedge : ⟨onMeridian 36.001, (onMeridian 36).distance (onMeridian 36.001), none, []⟩ ∈
      (meridianRoads [(36, 36.001)]).neighbours (onMeridian 36) :=
    mem_neighbours_meridianRoads.2 ⟨36, 36.001, List.mem_cons_self, .inl ⟨rfl, rfl⟩⟩
  have hdist := (distance_onMeridian_bounds (x := 36) (y := 36.001) (by norm_num [abs_le])).2
  rw [abs_of_pos (by norm_num)] at hdist
  have hmul : (HazardPolicy.default : HazardPolicy ℝ).edgeMultiplier 0 = some 1 := by
    norm_num [HazardPolicy.edgeMultiplier, HazardPolicy.default]
  have hspeed : (profileFor .foot : ModeProfile ℝ).speedMps = 11 / 10 := rfl
  refine ⟨_, _, .step .start (by norm_num [defaultMaxDurationS]) hedge
    (fun _ h => absurd h List.not_mem_nil) (HazardField.riskAt_of_slices_eq_nil rfl _ _ _)
    (by norm_num [HazardPolicy.default]) hmul, ?_⟩
  rw [hspeed]
  norm_num [defaultMaxDurationS] at hdist ⊢
  linarith

end Salgil
