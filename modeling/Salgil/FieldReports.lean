import Salgil.PredictedArea

namespace Salgil
set_option autoImplicit true
set_option linter.unusedSectionVars false

section
variable {K : Type}

/-- The constraint has both coordinates. -/
def AccessConstraint.located (c : AccessConstraint K) : Bool := c.lat.isSome && c.lon.isSome

/-- What the field reports of an incident say is closed. -/
def Database.constraintsOf (database : Database K) (incidentId : Uuid) :
    List (AccessConstraint K) :=
  (database.reports.filter (·.incidentId = incidentId)).flatMap (·.accessConstraints)

/-- As if nobody had reported a constraint without coordinates. -/
def FieldReport.keepLocated (report : FieldReport K) : FieldReport K :=
  { report with accessConstraints := report.accessConstraints.filter (·.located) }

def Services.keepLocated (services : Services K) : Services K :=
  { services with
    database := { services.database with
      reports := services.database.reports.map FieldReport.keepLocated } }

variable [Field K] [LinearOrder K] [IsStrictOrderedRing K] [FloorRing K]

/-- The point is where the constraint is, and tells of what kind it is. -/
structure AccessConstraint.Closes (c : AccessConstraint K) (point : BlockedPoint K) : Prop where
  lat : c.lat = some point.lat
  lon : c.lon = some point.lon
  radiusM : point.radiusM = fieldBlockRadiusM
  kind : point.kind = c.kind.value
  detail : point.detail = (c.detail.filter (· ≠ "")).or (some c.location)

/-- The point that a constraint becomes, if any. -/
def AccessConstraint.point (c : AccessConstraint K) : Option (BlockedPoint K) :=
  match c.lat, c.lon with
  | some lat, some lon =>
    some ⟨lat, lon, fieldBlockRadiusM, c.kind.value,
      (c.detail.filter (· ≠ "")).or (some c.location)⟩
  | _, _ => none

theorem AccessConstraint.point_eq_none {c : AccessConstraint K} :
    c.point = none ↔ c.located = false := by
  obtain ⟨kind, location, detail, lat, lon⟩ := c
  cases lat <;> cases lon <;> simp [point, located]

theorem AccessConstraint.Closes.of_point {c : AccessConstraint K} {point : BlockedPoint K}
    (h : c.point = some point) : c.Closes point := by
  obtain ⟨kind, location, detail, lat, lon⟩ := c
  cases lat with
  | none => cases h
  | some lat =>
    cases lon with
    | none => cases h
    | some lon => exact Option.some.inj h ▸ ⟨rfl, rfl, rfl, rfl, rfl⟩

theorem forall₂_closes (constraints : List (AccessConstraint K)) :
    List.Forall₂ AccessConstraint.Closes (constraints.filter (·.located))
      (constraints.filterMap AccessConstraint.point) := by
  induction constraints with
  | nil => exact .nil
  | cons c constraints ih =>
    cases hpoint : c.point with
    | none => simpa [hpoint, AccessConstraint.point_eq_none.1 hpoint] using ih
    | some point =>
      have hlocated : c.located = true := by
        rw [← Bool.not_eq_false, ← AccessConstraint.point_eq_none, hpoint]
        exact Option.some_ne_none _
      rw [List.filter_cons_of_pos hlocated, List.filterMap_cons_some hpoint]
      exact .cons (.of_point hpoint) ih

theorem fieldBlocks_eq (database : Database K) (incidentId : Uuid) :
    fieldBlocks database incidentId =
      (database.constraintsOf incidentId).filterMap AccessConstraint.point := by
  rw [Database.constraintsOf, List.filterMap_flatMap]
  rfl

theorem filterMap_point_located (constraints : List (AccessConstraint K)) :
    (constraints.filter (·.located)).filterMap AccessConstraint.point =
      constraints.filterMap AccessConstraint.point := by
  rw [List.filterMap_filter]
  congr 1
  funext c
  cases h : c.located with
  | true => rfl
  | false => exact (AccessConstraint.point_eq_none.2 h).symm

theorem constraintsOf_keepLocated (services : Services K) (incidentId : Uuid) :
    services.keepLocated.database.constraintsOf incidentId =
      (services.database.constraintsOf incidentId).filter (·.located) := by
  simp only [Database.constraintsOf, Services.keepLocated, List.filter_map, List.flatMap_map,
    List.filter_flatMap]
  rfl

theorem fieldBlocks_keepLocated (services : Services K) (incidentId : Uuid) :
    fieldBlocks services.keepLocated.database incidentId =
      fieldBlocks services.database incidentId := by
  rw [fieldBlocks_eq, fieldBlocks_eq, constraintsOf_keepLocated, filterMap_point_located]

variable [MathLib K] {services : Services K} {payload : RouteRequest K} {incidentId : Uuid}
variable {plan : RoutePlan K} {fuel : ℕ}

/-- Every constraint with coordinates closes one point of the search. -/
def LocatedClosed (services : Services K) (payload : RouteRequest K) (incidentId : Uuid) : Prop :=
  ∀ origin field accepted warnings, routeOrigin services.database payload = .ok origin →
    requestField services payload origin = .ok (field, accepted, warnings) →
    List.Forall₂ AccessConstraint.Closes
      ((services.database.constraintsOf incidentId).filter (·.located)) field.blocked

/-- The constraints with coordinates are closed, and about every other one the plan has a warning,
which it would not have if nobody had reported such constraints. -/
structure ReportsKept (fuel : ℕ) (services : Services K) (payload : RouteRequest K)
    (incidentId : Uuid) (plan : RoutePlan K) : Prop where
  closed : LocatedClosed services payload incidentId
  told : ∀ c ∈ services.database.constraintsOf incidentId, c.located = false →
    ∃ w ∈ plan.warnings, ∀ plan', planEvacuation fuel services.keepLocated payload = .ok plan' →
      w ∉ plan'.warnings

/-- The service does not notice the constraints without coordinates. -/
theorem planEvacuation_keepLocated :
    planEvacuation fuel services.keepLocated payload = planEvacuation fuel services payload := by
  have hfield : ∀ origin, requestField services.keepLocated payload origin =
      requestField services payload origin := by
    intro origin
    simp only [requestField, fieldBlocks_keepLocated]
    rfl
  simp only [planEvacuation, hfield]
  rfl

theorem locatedClosed (hincident : payload.incidentId = some incidentId) :
    LocatedClosed services payload incidentId := by
  intro origin field accepted warnings _ hfield
  obtain ⟨predicted, -, -, hblocked⟩ := requestField_ok hfield
  rw [hblocked incidentId hincident, fieldBlocks_eq]
  exact forall₂_closes _

/-- The constraints with coordinates are always closed; the plan keeps its promise about the others
exactly when there are none. -/
theorem field_reports_iff (hincident : payload.incidentId = some incidentId)
    (h : planEvacuation fuel services payload = .ok plan) :
    LocatedClosed services payload incidentId ∧
      (ReportsKept fuel services payload incidentId plan ↔
        ∀ c ∈ services.database.constraintsOf incidentId, c.located = true) := by
  refine ⟨locatedClosed hincident, fun hkept c hc => ?_, fun hlocated => ?_⟩
  · by_contra hnone
    obtain ⟨w, hw, hnew⟩ := hkept.told c hc (Bool.eq_false_iff.2 hnone)
    exact hnew plan (planEvacuation_keepLocated.trans h) hw
  · refine ⟨locatedClosed hincident, fun c hc hnone => ?_⟩
    rw [hlocated c hc] at hnone
    cases hnone

end

section LongRoad

/-- One report on the incident, with one constraint. -/
noncomputable def reportedServices (c : AccessConstraint ℝ) : Services ℝ :=
  { longRoadServices ⟨36, 128, 37, 130⟩ with
    database := { reports := [⟨3, 2, 1, "", .routeBlocked, [c], none, "", 0, false⟩] } }

/-- A request about the incident, without a prediction. -/
noncomputable def reportedRequest : RouteRequest ℝ :=
  { longRoadRequest with incidentId := some 1, usePrediction := false }

variable {c : AccessConstraint ℝ}

theorem reported_field : requestField (reportedServices c) reportedRequest ⟨36.4, 129, none, none⟩ =
    .ok ({ (.build : HazardField ℝ) with blocked := fieldBlocks (reportedServices c).database 1 },
      none, [.predictionNotUsed]) := rfl

theorem reported_setsOut
    (hopen : ∀ point ∈ fieldBlocks (reportedServices c).database 1,
      point.radiusM < haversineM 36.4 129 point.lat point.lon) :
    ∃ graph field, SetsOut 4 (reportedServices c) reportedRequest graph ⟨36.4, 129, none, none⟩
      field (onMeridian 36.4) := by
  obtain ⟨graph, field, p, t, hset, -⟩ := longRoad_reached ⟨36, 128, 37, 130⟩
  refine ⟨graph, _, hset.graph_eq, rfl, ⟨_, rfl⟩, ⟨_, _, reported_field⟩, hset.snap, ?_, 0, ?_, ?_⟩
  · exact blockedByFieldReport_eq_none.2 hopen
  · exact HazardField.riskAt_of_slices_eq_nil rfl _ _ _
  · norm_num [reportedRequest, longRoadRequest]

theorem reported_plan
    (hopen : ∀ point ∈ fieldBlocks (reportedServices c).database 1,
      point.radiusM < haversineM 36.4 129 point.lat point.lon) :
    ∃ plan, planEvacuation 4 ((reportedServices c).withShelters
      [shelterAt reportedRequest ⟨36.4, 129, none, none⟩ (onMeridian 36.4)]) reportedRequest =
      .ok plan := by
  obtain ⟨graph, field, hset⟩ := reported_setsOut hopen
  have hread : GridsReadable (reportedServices c) reportedRequest := by
    intro origin field accepted warnings horigin hfield s hs
    obtain rfl := Except.ok.inj (horigin.symm.trans hset.origin_eq)
    rw [reported_field, Except.ok.injEq, Prod.mk.injEq] at hfield
    rw [← hfield.1] at hs
    cases hs
  obtain ⟨r, hr, hfound, -⟩ := hset.planRoute_reachable (longRoad_enoughFuel ⟨36, 128, 37, 130⟩)
    (longRoad_onMap ⟨36, 128, 37, 130⟩) hread .start
  obtain ⟨plan, hplan, -⟩ := hset.planEvacuation_shelterAt hr hfound
  exact ⟨plan, hplan⟩

end LongRoad

/-- A bridge that is reported unsafe without its coordinates is dropped without a word. -/
theorem unlocated_bridge_dropped :
    ∃ plan, planEvacuation 4 ((reportedServices ⟨.bridgeUnsafe, "다리",
        none, none, none⟩).withShelters
        [shelterAt reportedRequest ⟨36.4, 129, none, none⟩ (onMeridian 36.4)]) reportedRequest =
        .ok plan ∧
      ¬ ReportsKept 4 ((reportedServices ⟨.bridgeUnsafe, "다리", none, none, none⟩).withShelters
        [shelterAt reportedRequest ⟨36.4, 129, none, none⟩ (onMeridian 36.4)]) reportedRequest 1
        plan := by
  obtain ⟨plan, hplan⟩ := reported_plan (c := ⟨.bridgeUnsafe, "다리", none, none, none⟩)
    fun point hpoint => absurd hpoint List.not_mem_nil
  refine ⟨plan, hplan, fun hkept => ?_⟩
  obtain ⟨w, hw, hnew⟩ := hkept.told ⟨.bridgeUnsafe, "다리", none, none, none⟩ List.mem_cons_self rfl
  exact hnew plan (planEvacuation_keepLocated.trans hplan) hw

/-- A road that is reported closed with its coordinates is closed. -/
theorem field_reports_located :
    ∃ plan, planEvacuation 4
        ((reportedServices ⟨.roadClosed, "북단", none, some 36.48, some 129⟩).withShelters
          [shelterAt reportedRequest ⟨36.4, 129, none, none⟩ (onMeridian 36.4)]) reportedRequest =
        .ok plan ∧
      ReportsKept 4 ((reportedServices ⟨.roadClosed, "북단", none, some 36.48, some 129⟩).withShelters
        [shelterAt reportedRequest ⟨36.4, 129, none, none⟩ (onMeridian 36.4)]) reportedRequest 1
        plan := by
  have hdist := (distance_onMeridian_bounds (x := 36.4) (y := 36.48) (by norm_num [abs_le])).1
  rw [abs_of_pos (by norm_num)] at hdist
  obtain ⟨plan, hplan⟩ := reported_plan
    (c := ⟨.roadClosed, "북단", none, some 36.48, some 129⟩) (by
      intro point hpoint
      obtain rfl := List.mem_singleton.1 hpoint
      refine lt_of_lt_of_le ?_ hdist
      norm_num [fieldBlockRadiusM])
  refine ⟨plan, hplan, (field_reports_iff rfl hplan).2.2 fun c hc => ?_⟩
  obtain rfl := List.mem_singleton.1 hc
  rfl

end Salgil
