import Salgil.RouteOptimality

namespace Salgil
set_option autoImplicit true
set_option linter.unusedSectionVars false

section
variable {K : Type u} [Field K] [LinearOrder K] [IsStrictOrderedRing K] [FloorRing K] [MathLib K]

/-- The second request departs no earlier, under a riskier field with more closures and a policy
that blocks no later and penalises no less. -/
structure Harder (hazard₁ hazard₂ : HazardField K) (policy₁ policy₂ : HazardPolicy K)
    (dep₁ dep₂ : K) : Prop where
  departs_later : dep₁ ≤ dep₂
  riskier : ∀ lat lon t risk₂, hazard₂.riskAt lat lon t = .ok risk₂ →
    ∃ risk₁, hazard₁.riskAt lat lon t = .ok risk₁ ∧ risk₁ ≤ risk₂
  more_closures : ∀ report ∈ hazard₁.blocked, report ∈ hazard₂.blocked
  block_le : policy₂.blockThreshold ≤ policy₁.blockThreshold
  avoid_eq : policy₁.avoidThreshold = policy₂.avoidThreshold
  penalty_le : policy₁.avoidPenalty ≤ policy₂.avoidPenalty

variable {graph : RoadGraph K} {profile : ModeProfile K} {hazard₁ hazard₂ : HazardField K}
variable {policy₁ policy₂ : HazardPolicy K} {start goal n : NodeId K} {dep₁ dep₂ maxDur snap : K}
variable {origin destination : K × K} {p : List (NodeId K)} {t : K}

theorem Harder.earlier_risk (h : Harder hazard₁ hazard₂ policy₁ policy₂ dep₁ dep₂)
    {lat lon s t risk₂ : K} (hst : s ≤ t) (hr : hazard₂.riskAt lat lon t = .ok risk₂) :
    ∃ risk₁, hazard₁.riskAt lat lon s = .ok risk₁ ∧ risk₁ ≤ risk₂ := by
  obtain ⟨risk, hrisk, hle⟩ := h.riskier _ _ _ _ hr
  obtain ⟨risk₁, hrisk₁, hle₁⟩ := HazardField.riskAt_mono hst hrisk
  exact ⟨risk₁, hrisk₁, hle₁.trans hle⟩

theorem Harder.open_of_open (h : Harder hazard₁ hazard₂ policy₁ policy₂ dep₁ dep₂) {lat lon : K}
    (hopen : hazard₂.blockedByFieldReport lat lon = none) :
    hazard₁.blockedByFieldReport lat lon = none := by
  rw [blockedByFieldReport_eq_none] at hopen ⊢
  exact fun report hr => hopen report (h.more_closures report hr)

theorem Harder.departs (h : Harder hazard₁ hazard₂ policy₁ policy₂ dep₁ dep₂)
    (hd : Departs graph hazard₂ policy₂ origin destination dep₂ snap start goal) :
    Departs graph hazard₁ policy₁ origin destination dep₁ snap start goal where
  snap_origin := hd.snap_origin
  snap_destination := hd.snap_destination
  not_closed := h.open_of_open hd.not_closed
  passable := by
    obtain ⟨risk, hrisk, hlt⟩ := hd.passable
    obtain ⟨risk₁, hrisk₁, hle⟩ := h.earlier_risk h.departs_later hrisk
    exact ⟨risk₁, hrisk₁, (hle.trans_lt hlt).trans_le h.block_le⟩

/-- Whatever the harder request can walk, the easier one can walk in no more time. -/
theorem Harder.walk (h : Harder hazard₁ hazard₂ policy₁ policy₂ dep₁ dep₂)
    (hm : Metric graph profile policy₁)
    (hw : AdmissibleWalk graph profile hazard₂ policy₂ start dep₂ maxDur p n t) :
    ∃ s, AdmissibleWalk graph profile hazard₁ policy₁ start dep₁ maxDur p n s ∧
      s - dep₁ ≤ t - dep₂ := by
  rw [admissibleWalk_iff] at hw
  obtain ⟨s, hs, hle⟩ : ∃ s, (roadTimes graph profile hazard₁ policy₁).Walk (inTime dep₁ maxDur)
      start dep₁ p n s ∧ s - dep₁ ≤ t - dep₂ :=
    hw.simulate (fun s t => s - dep₁ ≤ t - dep₂) (by simp) rfl rfl
      (fun _ _ hst ht => hst.trans ht) (by
      intro n e s t t' he hst ha
      have hdep := h.departs_later
      obtain ⟨s', hs', hle⟩ := roadTimes_mono hm h.block_le h.avoid_eq h.penalty_le
        (fun _ _ => h.open_of_open) (fun _ _ _ _ _ => h.earlier_risk) he
        (show s ≤ t by linarith) ha
      exact ⟨s', hs', by linarith⟩)
  exact ⟨s, admissibleWalk_iff.2 hs, hle⟩

/-- Waiting, more hazard, more closures or a stricter threshold never open a route and never make
one faster. The earlier call may end with the `IndexError` of a field that cannot be read, but not
where it has a risk for every place and time. -/
theorem planRoute_monotone {fuel : ℕ} {r₂ : RouteResult K}
    (h : Harder hazard₁ hazard₂ policy₁ policy₂ dep₁ dep₂) (hm₁ : Metric graph profile policy₁)
    (hm₂ : Metric graph profile policy₂) (hfuel : graph.searchBudget < fuel)
    (hr₂ : planRoute fuel graph profile hazard₂ policy₂ origin destination dep₂ maxDur snap =
      .ok r₂)
    (hfound : r₂.found = true) :
    Ends hazard₁.Unreadable (fun r₁ => r₁.found = true ∧
        ∃ start goal t₁ st₁ t₂ st₂,
          search graph profile hazard₁ policy₁ goal dep₁ maxDur fuel
            (SearchState.init start dep₁) = .ok (.reached t₁ st₁) ∧
          search graph profile hazard₂ policy₂ goal dep₂ maxDur fuel
            (SearchState.init start dep₂) = .ok (.reached t₂ st₂) ∧
          r₁.durationS = pyRound 1 (t₁ - dep₁) ∧ r₂.durationS = pyRound 1 (t₂ - dep₂) ∧
          t₁ - dep₁ ≤ t₂ - dep₂)
      (planRoute fuel graph profile hazard₁ policy₁ origin destination dep₁ maxDur snap) ∧
    ((∀ lat lon t, ∃ risk, hazard₁.riskAt lat lon t = .ok risk) →
      ∃ r₁, planRoute fuel graph profile hazard₁ policy₁ origin destination dep₁ maxDur snap =
        .ok r₁ ∧ r₁.found = true) := by
  obtain ⟨start, goal, hd₂⟩ := departs_of_found hr₂ hfound
  have hspec₂ := (hd₂.planRoute_ends hm₂ maxDur hfuel).of_ok hr₂
  obtain ⟨p₂, t₂, st₂, hsearch₂, hw₂, -, hdur₂, -⟩ := hspec₂.least hfound
  have hends₁ := (h.departs hd₂).planRoute_ends hm₁ maxDur hfuel
  obtain ⟨s, hw, hle⟩ := h.walk hm₁ hw₂
  constructor
  · refine hends₁.mono fun r₁ hspec₁ => ?_
    have hfound₁ := hspec₁.found_iff.2 ⟨p₂, s, hw⟩
    obtain ⟨p₁, t₁, st₁, hsearch₁, -, -, hdur₁, hleast⟩ := hspec₁.least hfound₁
    exact ⟨hfound₁, start, goal, t₁, st₁, t₂, st₂, hsearch₁, hsearch₂, hdur₁, hdur₂,
      (hleast.2 ⟨p₂, s, hw, rfl⟩).trans hle⟩
  · intro hread
    cases hr₁ :
      planRoute fuel graph profile hazard₁ policy₁ origin destination dep₁ maxDur snap with
    | ok r₁ => exact ⟨r₁, rfl, (hends₁.of_ok hr₁).found_iff.2 ⟨p₂, s, hw⟩⟩
    | error e =>
      obtain ⟨-, lat, lon, t, hrisk⟩ := hends₁.of_error hr₁
      obtain ⟨risk, hrisk'⟩ := hread lat lon t
      exact absurd (hrisk.symm.trans hrisk') nofun

end

/-- A route found after ten minutes of waiting, with a road far away closed and a stricter
threshold, was there from the start. -/
theorem planRoute_monotone_meridian :
    ∃ r, planRoute ((meridianRoads [(36, 36.001)]).searchBudget + 1)
        (meridianRoads [(36, 36.001)]) (profileFor .foot) .build .default (36, 129) (36.001, 129) 0
        defaultMaxDurationS defaultSnapDistanceM = .ok r ∧ r.found = true := by
  let hazard₂ : HazardField ℝ := .build [] [⟨37, 129, 120, "road_closed", none⟩]
  let policy₂ : HazardPolicy ℝ := { HazardPolicy.default with blockThreshold := 2 / 5 }
  have hfar : ∀ x : ℝ, |37 - x| ≤ 1 → 1 / 2 ≤ |37 - x| →
      hazard₂.blockedByFieldReport x 129 = none := by
    intro x hle hge
    rw [blockedByFieldReport_eq_none]
    intro report hreport
    rw [List.mem_singleton.1 hreport]
    have hdist := (distance_onMeridian_bounds (hle.trans (by norm_num))).1
    exact lt_of_lt_of_le (by linarith) hdist
  have hopenX : hazard₂.blockedByFieldReport 36 129 = none := hfar _ (by norm_num) (by norm_num)
  have hopenY : hazard₂.blockedByFieldReport 36.001 129 = none :=
    hfar _ (by norm_num [abs_le]) (by norm_num [le_abs])
  have hblock : (0 : ℝ) < policy₂.blockThreshold := by norm_num [policy₂]
  have hpenalty : (1 : ℝ) ≤ policy₂.avoidPenalty := by norm_num [policy₂, HazardPolicy.default]
  have hmetric := meridianRoads_metric [(36, 36.001)] .foot hpenalty
  have hdeparts : Departs (meridianRoads [(36, 36.001)]) hazard₂ policy₂ (36, 129) (36.001, 129)
      600 defaultSnapDistanceM (onMeridian 36) (onMeridian 36.001) :=
    Departs.on_road _ _ _ _ rfl hblock (by norm_num [abs_lt]) (by norm_num [abs_lt])
      (by norm_num [defaultSnapDistanceM]) hopenX
  have hends := hdeparts.planRoute_ends hmetric defaultMaxDurationS (Nat.lt_succ_self _)
  cases hr₂ : planRoute ((meridianRoads [(36, 36.001)]).searchBudget + 1)
    (meridianRoads [(36, 36.001)]) (profileFor .foot) hazard₂ policy₂ (36, 129) (36.001, 129) 600
    defaultMaxDurationS defaultSnapDistanceM with
  | error e =>
    obtain ⟨s, hs, -⟩ := (hends.of_error hr₂).exists_slice
    cases hs
  | ok r₂ =>
    have hfound : r₂.found = true := (hends.of_ok hr₂).found_iff.2
      (AdmissibleWalk.along_road rfl hblock (by norm_num [defaultMaxDurationS]) hopenY)
    have hharder : Harder .build hazard₂ .default policy₂ 0 600 :=
      ⟨by norm_num, fun lat lon t risk₂ h => ⟨risk₂, h, le_rfl⟩,
        fun _ h => absurd h List.not_mem_nil, by norm_num [policy₂, HazardPolicy.default], rfl,
        le_rfl⟩
    have hmono := planRoute_monotone hharder
      (meridianRoads_metric [(36, 36.001)] .foot hpenalty) hmetric (Nat.lt_succ_self _) hr₂ hfound
    exact hmono.2 fun lat lon t => ⟨0, HazardField.riskAt_of_slices_eq_nil rfl lat lon t⟩

end Salgil
