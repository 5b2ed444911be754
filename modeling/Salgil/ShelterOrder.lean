import Salgil.DurationLimit
import Salgil.PredictedArea

namespace Salgil
set_option autoImplicit true
set_option linter.unusedSectionVars false

theorem pairwise_or {R : α → α → Prop} {l : List α} (h : l.Pairwise R) (ha : a ∈ l) (hb : b ∈ l)
    (hne : a ≠ b) : R a b ∨ R b a := by
  have hsymm : Std.Symm fun a b => R a b ∨ R b a := ⟨fun _ _ => Or.symm⟩
  have hor : l.Pairwise fun a b => R a b ∨ R b a := h.imp fun h => .inl h
  exact hor.forall ha hb hne

section
variable {K : Type} [Field K] [LinearOrder K] [IsStrictOrderedRing K] [FloorRing K]

/-- The leg is found and takes the given number of minutes. -/
def RouteLeg.Takes (leg : RouteLeg K) (minutes : K) : Prop :=
  leg.found = true ∧ leg.durationMinutes = some minutes

/-- The legs of the plan are listed fastest first, and the fastest is recommended. -/
structure RoutePlan.FastestFirst (plan : RoutePlan K) : Prop where
  found_first : plan.routes.Pairwise fun x y => y.found = true → x.found = true
  fastest_first : plan.routes.Pairwise fun x y => ∀ d e, x.Takes d → y.Takes e → d ≤ e
  recommended_fastest : ∀ id, plan.recommended = some id → ∃ x ∈ plan.routes, x.shelterId = id ∧
    x.found = true ∧ ∀ d, x.Takes d → ∀ y ∈ plan.routes, ∀ e, y.Takes e → d ≤ e
  recommended_none : plan.recommended = none ↔ ∀ x ∈ plan.routes, x.found = false

variable {x y : RouteLeg K} {legs : List (RouteLeg K)} {d e : K}

instance : Std.Total (RouteLeg.before (K := K)) where
  total x y := by
    unfold RouteLeg.before
    cases x.found <;> cases y.found <;> simp [le_total]

instance : IsTrans (RouteLeg K) RouteLeg.before where
  trans x y z hxy hyz := by
    unfold RouteLeg.before at *
    rcases hxy with ⟨hx, hy⟩ | ⟨hxy, hle⟩ <;> rcases hyz with ⟨hy', hz⟩ | ⟨hyz, hle'⟩
    · exact .inl ⟨hx, hz⟩
    · exact .inl ⟨hx, hyz ▸ hy⟩
    · exact .inl ⟨hxy ▸ hy', hz⟩
    · exact .inr ⟨hxy.trans hyz, hle.trans hle'⟩

theorem RouteLeg.before.found (h : x.before y) (hy : y.found = true) : x.found = true := by
  rcases h with ⟨hx, -⟩ | ⟨hxy, -⟩
  · exact hx
  · exact hxy.trans hy

theorem RouteLeg.Takes.sortDuration (h : x.Takes d) :
    x.sortDuration = if d = 0 then ⊤ else (d : WithTop K) := by
  rw [RouteLeg.sortDuration, h.2]

/-- Found legs are ranked by their duration, but those of no duration come last. -/
theorem RouteLeg.Takes.before_iff (hx : x.Takes d) (hy : y.Takes e) :
    x.before y ↔ e = 0 ∨ d ≠ 0 ∧ d ≤ e := by
  rw [RouteLeg.before, hx.1, hy.1, hx.sortDuration, hy.sortDuration]
  by_cases he : e = 0
  · simp [he]
  · by_cases hd : d = 0 <;> simp [he, hd]

/-- No leg takes no time while another takes some. -/
def NoneInNoTime (legs : List (RouteLeg K)) : Prop :=
  ∀ x ∈ legs, ∀ y ∈ legs, ∀ e, x.Takes 0 → y.Takes e → e ≤ 0

theorem RouteLeg.before.le (h : x.before y) (hlegs : NoneInNoTime legs) (hxl : x ∈ legs)
    (hyl : y ∈ legs) (hx : x.Takes d) (hy : y.Takes e) : d ≤ e := by
  rcases (hx.before_iff hy).1 h with rfl | ⟨-, hle⟩
  · exact hlegs y hyl x hxl d hy hx
  · exact hle

theorem recommendedShelter_eq_some {id : Uuid} (h : recommendedShelter legs = some id) :
    ∃ x rest, legs = x :: rest ∧ x.shelterId = id ∧ x.found = true := by
  cases legs with
  | nil => cases h
  | cons x rest =>
    simp only [recommendedShelter] at h
    split at h
    · next hx => exact ⟨x, rest, rfl, Option.some.inj h, hx⟩
    · cases h

theorem recommendedShelter_eq_none_iff
    (hfound : legs.Pairwise fun x y => y.found = true → x.found = true) :
    recommendedShelter legs = none ↔ ∀ x ∈ legs, x.found = false := by
  cases legs with
  | nil => simp [recommendedShelter]
  | cons x rest =>
    have hrest : x.found = false → ∀ y ∈ rest, y.found = false := by
      intro hx y hy
      rw [← Bool.not_eq_true] at hx ⊢
      exact fun hyf => hx (List.rel_of_pairwise_cons hfound hy hyf)
    cases hx : x.found <;> simp [recommendedShelter, hx]
    exact hrest hx

/-- The plan over the legs lists the fastest first exactly when none takes no time while another
takes some. -/
theorem RoutePlan.Routed.fastestFirst_iff {plan : RoutePlan K} {field : HazardField K}
    {accepted : Option PredictionMeta} {warnings : List Warning}
    (h : plan.Routed field accepted legs warnings) : plan.FastestFirst ↔ NoneInNoTime legs := by
  have hsorted : plan.routes.Pairwise RouteLeg.before := by
    rw [h.routes]
    exact List.pairwise_insertionSort _ _
  have hmem : ∀ z, z ∈ plan.routes ↔ z ∈ legs := by
    intro z
    rw [h.routes, List.mem_insertionSort]
  constructor
  · intro hplan x hx y hy e hxd hye
    by_contra hlt
    have hne : x ≠ y := by
      rintro rfl
      have he := Option.some.inj (hxd.2.symm.trans hye.2)
      exact hlt he.ge
    -- whichever comes first, the order of the sort and that of the durations disagree
    rcases pairwise_or (hsorted.and hplan.fastest_first) ((hmem x).2 hx) ((hmem y).2 hy) hne with
      ⟨hbefore, -⟩ | ⟨-, hle⟩
    · rcases (hxd.before_iff hye).1 hbefore with rfl | ⟨h0, -⟩
      · exact hlt le_rfl
      · exact h0 rfl
    · exact hlt (hle _ _ hye hxd)
  · intro hlegs
    have hle : ∀ x ∈ plan.routes, ∀ y ∈ plan.routes, x.before y →
        ∀ d e, x.Takes d → y.Takes e → d ≤ e := by
      intro x hx y hy hbefore d e
      exact hbefore.le hlegs ((hmem x).1 hx) ((hmem y).1 hy)
    have hfound : plan.routes.Pairwise fun x y => y.found = true → x.found = true :=
      hsorted.imp RouteLeg.before.found
    refine ⟨hfound, hsorted.imp_of_mem fun hx hy => hle _ hx _ hy, ?_, ?_⟩
    · intro id hid
      rw [h.recommended] at hid
      obtain ⟨x, rest, hroutes, hxid, hx⟩ := recommendedShelter_eq_some hid
      rw [hroutes] at hsorted hle ⊢
      refine ⟨x, List.mem_cons_self, hxid, hx, fun d hxd y hy e hye => ?_⟩
      rcases List.mem_cons.1 hy with rfl | hrest
      · exact (Option.some.inj (hxd.2.symm.trans hye.2)).le
      · have hbefore := List.rel_of_pairwise_cons hsorted hrest
        exact hle x List.mem_cons_self y hy hbefore d e hxd hye
    · rw [h.recommended]
      exact recommendedShelter_eq_none_iff hfound

variable [MathLib K]

/-- The planner finds a route to a candidate of the request that takes the given number of
minutes. -/
def LeadsIn (fuel : ℕ) (services : Services K) (payload : RouteRequest K) (minutes : K) : Prop :=
  ∃ graph origin candidates field accepted warnings,
    getGraph fuel services payload.mode = .ok graph ∧
    routeOrigin services.database payload = .ok origin ∧
    candidateShelters services.database payload origin = .ok candidates ∧
    requestField services payload origin = .ok (field, accepted, warnings) ∧
    ∃ candidate ∈ candidates, ∃ lat lon r,
      candidate.1.lat = some lat ∧ candidate.1.lon = some lon ∧
      planRoute fuel graph (profileFor payload.mode) field (.ofRequest payload)
        (origin.lat, origin.lon) (lat, lon) (payload.departAfterMinutes * 60) defaultMaxDurationS
        defaultSnapDistanceM = .ok r ∧
      r.found = true ∧ r.durationMinutes = minutes

variable {fuel : ℕ} {services : Services K} {payload : RouteRequest K} {graph : RoadGraph K}
variable {origin : RouteOrigin K} {field : HazardField K} {candidate : Shelter K × Option K}

theorem routeLeg_takes_iff {leg : RouteLeg K} {minutes : K}
    (h : routeLeg fuel graph payload origin field candidate = .ok leg) :
    leg.Takes minutes ↔ ∃ lat lon r, candidate.1.lat = some lat ∧ candidate.1.lon = some lon ∧
      planRoute fuel graph (profileFor payload.mode) field (.ofRequest payload)
        (origin.lat, origin.lon) (lat, lon) (payload.departAfterMinutes * 60) defaultMaxDurationS
        defaultSnapDistanceM = .ok r ∧
      r.found = true ∧ r.durationMinutes = minutes := by
  obtain ⟨shelter, straightKm⟩ := candidate
  simp only [routeLeg] at h
  split at h
  · next lat lon hlat hlon =>
    obtain ⟨r, hr, h⟩ := bind_eq_ok.1 h
    rw [← Except.ok.inj h]
    cases hfound : r.found <;> simp [RouteLeg.Takes, hlat, hlon, hr, hfound]
  · next hnone =>
    rw [← Except.ok.inj h]
    simp only [RouteLeg.Takes, Bool.false_eq_true, false_and, false_iff]
    rintro ⟨lat, lon, r, hlat, hlon, -⟩
    exact hnone lat lon hlat hlon

theorem takes_iff_leadsIn {candidates : List (Shelter K × Option K)} {legs : List (RouteLeg K)}
    {accepted : Option PredictionMeta} {warnings : List Warning} {minutes : K}
    (hgraph : getGraph fuel services payload.mode = .ok graph)
    (horigin : routeOrigin services.database payload = .ok origin)
    (hcandidates : candidateShelters services.database payload origin = .ok candidates)
    (hfield : requestField services payload origin = .ok (field, accepted, warnings))
    (hlegs : candidates.mapM (routeLeg fuel graph payload origin field) = .ok legs) :
    (∃ leg ∈ legs, leg.Takes minutes) ↔ LeadsIn fuel services payload minutes := by
  constructor
  · rintro ⟨leg, hleg, htakes⟩
    obtain ⟨candidate, hcandidate, hrouted⟩ := mem_of_mapM_eq_ok hlegs hleg
    exact ⟨graph, origin, candidates, field, accepted, warnings, hgraph, horigin, hcandidates,
      hfield, candidate, hcandidate, (routeLeg_takes_iff hrouted).1 htakes⟩
  · rintro ⟨graph', origin', candidates', field', accepted', warnings', hgraph', horigin',
      hcandidates', hfield', candidate, hcandidate, hroute⟩
    obtain rfl := Except.ok.inj (hgraph.symm.trans hgraph')
    obtain rfl := Except.ok.inj (horigin.symm.trans horigin')
    obtain rfl := Except.ok.inj (hcandidates.symm.trans hcandidates')
    obtain ⟨rfl, -⟩ := Prod.mk.inj (Except.ok.inj (hfield.symm.trans hfield'))
    obtain ⟨leg, hleg, hrouted⟩ := exists_mem_of_mapM_eq_ok hlegs hcandidate
    exact ⟨leg, hleg, (routeLeg_takes_iff hrouted).2 hroute⟩

theorem LeadsIn.unique {minutes minutes' : K}
    (horigin : routeOrigin services.database payload = .ok origin)
    (hcandidates : candidateShelters services.database payload origin = .ok [candidate])
    (h : LeadsIn fuel services payload minutes) (h' : LeadsIn fuel services payload minutes') :
    minutes = minutes' := by
  obtain ⟨graph, origin₁, candidates, field, accepted, warnings, hgraph, horigin₁, hcandidates₁,
    hfield, candidate₁, hmem, lat, lon, r, hlat, hlon, hr, -, rfl⟩ := h
  obtain ⟨graph', origin₂, candidates', field', accepted', warnings', hgraph', horigin₂,
    hcandidates₂, hfield', candidate₂, hmem', lat', lon', r', hlat', hlon', hr', -, rfl⟩ := h'
  obtain rfl := Except.ok.inj (horigin.symm.trans horigin₁)
  obtain rfl := Except.ok.inj (horigin.symm.trans horigin₂)
  obtain rfl := Except.ok.inj (hcandidates.symm.trans hcandidates₁)
  obtain rfl := Except.ok.inj (hcandidates.symm.trans hcandidates₂)
  obtain rfl := Except.ok.inj (hgraph.symm.trans hgraph')
  obtain ⟨rfl, -⟩ := Prod.mk.inj (Except.ok.inj (hfield.symm.trans hfield'))
  obtain rfl := List.mem_singleton.1 hmem
  obtain rfl := List.mem_singleton.1 hmem'
  obtain rfl := Option.some.inj (hlat.symm.trans hlat')
  obtain rfl := Option.some.inj (hlon.symm.trans hlon')
  obtain rfl := Except.ok.inj (hr.symm.trans hr')
  rfl

/-- A plan lists the fastest shelter first and recommends it exactly when the planner does not lead
to one candidate in no time and to another in some. -/
theorem shelter_order_iff {plan : RoutePlan K}
    (h : planEvacuation fuel services payload = .ok plan) :
    plan.FastestFirst ↔
      ¬ (LeadsIn fuel services payload 0 ∧ ∃ minutes, 0 < minutes ∧
        LeadsIn fuel services payload minutes) := by
  obtain ⟨graph, origin, candidates, limitation, warnings, hgraph, horigin, hcandidates,
      -, hplan⟩ :=
    planEvacuation_ok h
  rcases hplan with ⟨text, rfl, -, hplan⟩ |
    ⟨field, accepted, fieldWarnings, legs, -, hfield, hlegs, hplan⟩
  · refine iff_of_true ?_ ?_
    · constructor <;> simp [hplan.routes, hplan.recommended]
    · rintro ⟨⟨_, origin', candidates', _, _, _, _, horigin', hcandidates',
        _, candidate, hmem, -⟩, -⟩
      obtain rfl := Except.ok.inj (horigin.symm.trans horigin')
      obtain rfl := Except.ok.inj (hcandidates.symm.trans hcandidates')
      exact absurd hmem List.not_mem_nil
  · have hleads : ∀ minutes, (∃ leg ∈ legs, leg.Takes minutes) ↔
        LeadsIn fuel services payload minutes :=
      fun _ => takes_iff_leadsIn hgraph horigin hcandidates hfield hlegs
    rw [hplan.fastestFirst_iff]
    constructor
    · rintro hnone ⟨h0, minutes, hpos, hminutes⟩
      obtain ⟨x, hx, hx0⟩ := (hleads 0).2 h0
      obtain ⟨y, hy, hyt⟩ := (hleads minutes).2 hminutes
      exact hpos.not_ge (hnone x hx y hy minutes hx0 hyt)
    · intro hnone x hx y hy e hx0 hye
      by_contra hpos
      exact hnone ⟨(hleads 0).1 ⟨x, hx, hx0⟩, e, not_le.1 hpos, (hleads e).1 ⟨y, hy, hye⟩⟩

end

section LongRoad
variable {area : Bbox ℝ} {graph : RoadGraph ℝ} {field : HazardField ℝ} {origin : RouteOrigin ℝ}
variable {start n : NodeId ℝ} {p : List (NodeId ℝ)} {t : ℝ}

/-- A shelter at a node of the long road. -/
noncomputable def roadShelter (id : Uuid) (n : NodeId ℝ) : Shelter ℝ :=
  { shelterAt longRoadRequest ⟨36.4, 129, none, none⟩ n with id := id }

theorem longRoad_far_le
    (h : SetsOut 4 (longRoadServices area) longRoadRequest graph origin field (onMeridian 36.4))
    (hw : longRoadRequest.Walk graph field (onMeridian 36.4) p (onMeridian 36.48) t) :
    8000 ≤ t := by
  obtain ⟨c, source, wayCount, attribution, junctions, walked, hlength, -, -, hgraph⟩ :=
    longRoad_graph
  obtain rfl := Except.ok.inj ((hgraph area).symm.trans h.graph_eq)
  have hpenalty : 1 ≤ (HazardPolicy.ofRequest longRoadRequest).avoidPenalty :=
    one_le_avoidPenalty_ofRequest
  have hm := (getGraph_searchable (longRoad_enoughFuel area) h.graph_eq hpenalty).2
  have hroad : ∀ m, ∀ e ∈ (contractedGraph source wayCount attribution [c]).neighbours m,
      (onMeridian 36.4).distance (onMeridian 36.48) ≤ e.lengthM := by
    intro m e he
    obtain ⟨c', hc', ⟨-, rfl⟩ | ⟨-, rfl⟩⟩ := mem_neighbours_contractedGraph.1 he <;>
      exact (hlength.ge.trans_eq (by rw [List.mem_singleton.1 hc']))
  have hle := hw.edge_le hm (by norm_num [onMeridian_inj]) hroad
  have hdist := (distance_onMeridian_bounds (x := 36.4) (y := 36.48) (by norm_num [abs_le])).1
  rw [abs_of_pos (by norm_num)] at hdist
  have hspeed : (profileFor .foot : ModeProfile ℝ).speedMps = 11 / 10 := rfl
  have hdepart : longRoadRequest.departAfterMinutes = 0 := rfl
  rw [hspeed, hdepart] at hle
  norm_num at hle hdist
  linarith

theorem longRoad_leg {id : Uuid} {straightKm : Option ℝ}
    (h : SetsOut 4 (longRoadServices area) longRoadRequest graph ⟨36.4, 129, none, none⟩ field
      (onMeridian 36.4))
    (hw : longRoadRequest.Walk graph field (onMeridian 36.4) p n t) :
    ∃ leg q s, routeLeg 4 graph longRoadRequest ⟨36.4, 129, none, none⟩ field
        (roadShelter id n, straightKm) = .ok leg ∧
      longRoadRequest.Walk graph field (onMeridian 36.4) q n s ∧ 0 ≤ s ∧ s ≤ t ∧
      leg.Takes (pyRound 1 (double (double (pyRound 1 s) / 60))) := by
  have hpenalty : 1 ≤ (HazardPolicy.ofRequest longRoadRequest).avoidPenalty :=
    one_le_avoidPenalty_ofRequest
  have hm := (getGraph_searchable (longRoad_enoughFuel area) h.graph_eq hpenalty).2
  obtain ⟨r, hr, hfound, hspec⟩ := h.planRoute_reachable (longRoad_enoughFuel area)
    (longRoad_onMap area) (longRoad_gridsReadable area) hw
  obtain ⟨q, s, -, -, hwalk, -, hduration, hleast⟩ := hspec.least hfound
  have hle : s - longRoadRequest.departAfterMinutes * 60 ≤
      t - longRoadRequest.departAfterMinutes * 60 := hleast.2 ⟨p, t, hw, rfl⟩
  have hsince := (admissibleWalk_iff.1 hwalk).dep_le (roadTimes_fifo hm)
  have hdepart : longRoadRequest.departAfterMinutes * 60 = 0 := zero_mul _
  rw [hdepart, sub_zero] at hduration
  rw [hdepart] at hsince
  have hminutes : r.durationMinutes = pyRound 1 (double (double (pyRound 1 s) / 60)) := by
    rw [RouteResult.durationMinutes, hduration]
  obtain ⟨leg, hleg⟩ : ∃ leg, routeLeg 4 graph longRoadRequest ⟨36.4, 129, none, none⟩ field
      (roadShelter id n, straightKm) = .ok leg := by
    simp only [routeLeg, roadShelter, shelterAt, hr, ok_bind, pure_eq_ok, Except.ok.injEq,
      exists_eq']
  refine ⟨leg, q, s, hleg, hwalk, hsince, by linarith, (routeLeg_takes_iff hleg).2 ?_⟩
  exact ⟨n.lat, n.lon, r, rfl, rfl, hr, hfound, hminutes⟩

theorem longRoad_candidates (services : Services ℝ) {shelters : List (Shelter ℝ)}
    (hhazard : ∀ shelter ∈ shelters, longRoadRequest.hazard ∈ shelter.hazards)
    (hthree : shelters.length ≤ 3) :
    ∃ candidates, candidateShelters (services.withShelters shelters).database longRoadRequest
        ⟨36.4, 129, none, none⟩ = .ok candidates ∧
      ∀ shelter, shelter ∈ shelters ↔ ∃ km, (shelter, km) ∈ candidates := by
  have hserve : shelters.filter (longRoadRequest.hazard ∈ ·.hazards) = shelters :=
    List.filter_eq_self.2 (by simpa using hhazard)
  refine ⟨_, rfl, fun shelter => ?_⟩
  simp only [findShelters, Services.withShelters, hserve]
  rw [List.take_of_length_le (by rwa [List.length_insertionSort, List.length_map])]
  simp only [List.mem_insertionSort, List.mem_map]
  constructor
  · intro h
    refine ⟨_, shelter, h, Prod.ext_iff.2 ⟨?_, rfl⟩⟩
    split <;> rfl
  · rintro ⟨km, shelter', h, heq⟩
    split at heq <;> (obtain ⟨rfl, -⟩ := Prod.mk.inj heq; exact h)

theorem longRoad_plan {shelters : List (Shelter ℝ)}
    (h : SetsOut 4 (longRoadServices area) longRoadRequest graph ⟨36.4, 129, none, none⟩ field
      (onMeridian 36.4))
    (hshelters : ∀ shelter ∈ shelters, ∃ id n p t, shelter = roadShelter id n ∧
      longRoadRequest.Walk graph field (onMeridian 36.4) p n t)
    (hsome : shelters ≠ []) (hthree : shelters.length ≤ 3) :
    ∃ plan accepted legs warnings, planEvacuation 4
        ((longRoadServices area).withShelters shelters) longRoadRequest = .ok plan ∧
      plan.Routed field accepted legs warnings ∧
      ∀ shelter ∈ shelters, ∃ leg ∈ legs, ∃ km, routeLeg 4 graph longRoadRequest
        ⟨36.4, 129, none, none⟩ field (shelter, km) = .ok leg := by
  obtain ⟨⟨limitation, warnings⟩, hlimitation⟩ := h.limitation_eq
  obtain ⟨accepted, fieldWarnings, hfield⟩ := h.field_eq
  have hhazard : ∀ shelter ∈ shelters, longRoadRequest.hazard ∈ shelter.hazards := by
    intro shelter hshelter
    obtain ⟨id, n, -, -, rfl, -⟩ := hshelters shelter hshelter
    exact List.mem_cons_self
  obtain ⟨candidates, hcandidates, hmem⟩ :=
    longRoad_candidates (longRoadServices area) hhazard hthree
  have hrouted : ∀ candidate ∈ candidates, ∃ leg, routeLeg 4 graph longRoadRequest
      ⟨36.4, 129, none, none⟩ field candidate = .ok leg := by
    rintro ⟨shelter, km⟩ hcandidate
    obtain ⟨id, n, p, t, rfl, hw⟩ := hshelters shelter ((hmem shelter).2 ⟨km, hcandidate⟩)
    obtain ⟨leg, q, s, hleg, -⟩ := longRoad_leg h hw
    exact ⟨leg, hleg⟩
  obtain ⟨legs, hlegs⟩ := exists_mapM_eq_ok hrouted
  have hcandidate : candidates ≠ [] := by
    obtain ⟨shelter, hshelter⟩ := List.exists_mem_of_ne_nil _ hsome
    obtain ⟨km, hkm⟩ := (hmem shelter).1 hshelter
    exact List.ne_nil_of_mem hkm
  obtain ⟨plan, hplan, hranked⟩ := planEvacuation_of_legs
    ((longRoadServices area).withShelters shelters) h.graph_eq h.origin_eq hcandidates hlimitation
    hcandidate hfield hlegs
  refine ⟨plan, _, legs, _, hplan, hranked, fun shelter hshelter => ?_⟩
  obtain ⟨km, hkm⟩ := (hmem shelter).1 hshelter
  obtain ⟨leg, hleg, hleg'⟩ := exists_mem_of_mapM_eq_ok hlegs hkm
  exact ⟨leg, hleg, km, hleg'⟩

end LongRoad

/-- With a shelter at each end of the long road, the one at the place itself is ranked last. -/
theorem near_shelter_ranked_last :
    ∃ plan, planEvacuation 4 ((longRoadServices ⟨36, 128, 37, 130⟩).withShelters
        [roadShelter 1 (onMeridian 36.4), roadShelter 2 (onMeridian 36.48)]) longRoadRequest =
        .ok plan ∧ ¬ plan.FastestFirst := by
  obtain ⟨graph, field, p, t, hset, -, hfar⟩ := longRoad_reached ⟨36, 128, 37, 130⟩
  have hshelters : ∀ shelter ∈ [roadShelter 1 (onMeridian 36.4), roadShelter 2 (onMeridian 36.48)],
      ∃ id n p t, shelter = roadShelter id n ∧
        longRoadRequest.Walk graph field (onMeridian 36.4) p n t := by
    simp only [List.mem_cons, List.not_mem_nil, or_false, forall_eq_or_imp, forall_eq]
    exact ⟨⟨1, _, _, _, rfl, .start⟩, ⟨2, _, _, _, rfl, hfar⟩⟩
  obtain ⟨plan, accepted, legs, warnings, hplan, hranked, hlegs⟩ :=
    longRoad_plan hset hshelters (List.cons_ne_nil _ _) (by simp)
  refine ⟨plan, hplan, ?_⟩
  rw [hranked.fastestFirst_iff]
  intro hnone
  obtain ⟨near, hnear, km, hrouted⟩ := hlegs _ List.mem_cons_self
  obtain ⟨near', -, s, hrouted', -, hs, hs', hnow⟩ := longRoad_leg hset .start
  obtain rfl := Except.ok.inj (hrouted.symm.trans hrouted')
  have hdepart : longRoadRequest.departAfterMinutes * 60 = 0 := zero_mul _
  obtain rfl : 0 = s := le_antisymm hs (hs'.trans_eq hdepart)
  rw [pyRound_zero, double_zero, zero_div, double_zero, pyRound_zero] at hnow
  obtain ⟨far, hfarLeg, km', hfarRouted⟩ := hlegs _ (List.mem_cons_of_mem _ List.mem_cons_self)
  obtain ⟨far', q, d, hfarRouted', hwalk, -, -, hlater⟩ := longRoad_leg hset hfar
  obtain rfl := Except.ok.inj (hfarRouted.symm.trans hfarRouted')
  have hd := longRoad_far_le hset hwalk
  have hround : (80000 : ℤ) / 10 ^ 1 ≤ pyRound 1 d := le_pyRound (by norm_num; linarith)
  have hseconds : (7999 : ℝ) ≤ double (pyRound 1 d) := by
    have hround' : (8000 : ℝ) ≤ pyRound 1 d := by norm_num at hround ⊢; exact hround
    linarith [le_double_of_le (by norm_num) hround']
  have hminutes : (1000 : ℤ) / 10 ^ 1 ≤ pyRound 1 (double (double (pyRound 1 d) / 60)) := by
    have hquotient : (133 : ℝ) ≤ double (pyRound 1 d) / 60 := by linarith
    apply le_pyRound
    norm_num
    linarith [le_double_of_le (by norm_num) hquotient]
  have hle := hnone near hnear far hfarLeg _ hnow hlater
  norm_num at hminutes hle
  linarith

/-- A single shelter is recommended. -/
theorem shelter_order_one_shelter :
    ∃ plan, planEvacuation 4 ((longRoadServices ⟨36, 128, 37, 130⟩).withShelters
        [shelterAt longRoadRequest ⟨36.4, 129, none, none⟩ (onMeridian 36.48)]) longRoadRequest =
        .ok plan ∧ plan.FastestFirst := by
  obtain ⟨graph, field, p, t, hset, -, hfar⟩ := longRoad_reached ⟨36, 128, 37, 130⟩
  obtain ⟨r, hr, hfound, -⟩ := hset.planRoute_reachable (longRoad_enoughFuel _) (longRoad_onMap _)
    (longRoad_gridsReadable _) hfar
  obtain ⟨plan, hplan, -⟩ := hset.planEvacuation_shelterAt hr hfound
  refine ⟨plan, hplan, (shelter_order_iff hplan).2 ?_⟩
  rintro ⟨hnone, minutes, hpos, hlead⟩
  obtain ⟨km, hcandidates⟩ : ∃ km,
      candidateShelters ((longRoadServices ⟨36, 128, 37, 130⟩).withShelters
      [shelterAt longRoadRequest ⟨36.4, 129, none, none⟩ (onMeridian 36.48)]).database
      longRoadRequest ⟨36.4, 129, none, none⟩ = .ok [(_, km)] :=
    candidateShelters_shelterAt _ _ rfl
  exact hpos.ne (hnone.unique rfl hcandidates hlead)

end Salgil
