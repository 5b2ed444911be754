import Salgil.DoubleErrors
import Salgil.PredictedArea

namespace Salgil
set_option autoImplicit true
set_option linter.unusedSectionVars false

/-- A call returns a value or raises an error of the service's own. -/
def Declares (x : Except PyError α) : Prop := ∀ e, x = .error e → ∃ s, e = .salgil s

section
variable {α β : Type} {x : Except PyError α}

@[simp] theorem declares_ok (a : α) : Declares (.ok a : Except PyError α) := nofun

@[simp] theorem declares_salgil (s : SalgilError) :
    Declares (.error (.salgil s) : Except PyError α) := by
  rintro _ ⟨⟩
  exact ⟨s, rfl⟩

theorem declares_bind {f : α → Except PyError β} :
    Declares (x >>= f) ↔ Declares x ∧ ∀ a, x = .ok a → Declares (f a) := by
  cases x with
  | ok a => simp
  | error e =>
    simp only [error_bind, reduceCtorEq, false_implies, implies_true, and_true]
    exact ⟨fun h e he => h e (congrArg _ (Except.error.inj he)),
      fun h e he => h e (congrArg _ (Except.error.inj he))⟩

theorem Declares.exists_ok (h : Declares x) {P : α → Prop}
    (hx : Ends MlEngineClient.Undeclared P x) : ∃ a, x = .ok a ∧ P a := by
  cases x with
  | ok a => exact ⟨a, rfl, hx⟩
  | error e =>
    obtain ⟨s, rfl⟩ := h e rfl
    exact absurd rfl (hx s)

theorem declares_mapM {f : α → Except PyError β} {l : List α} (h : ∀ a ∈ l, Declares (f a)) :
    Declares (l.mapM f) := by
  induction l with
  | nil => simp
  | cons a l ih =>
    obtain ⟨ha, hl⟩ := List.forall_mem_cons.1 h
    rw [List.mapM_cons, declares_bind]
    refine ⟨ha, fun b _ => declares_bind.2 ⟨ih hl, fun bs _ => declares_ok _⟩⟩

theorem declares_forM {f : α → Except PyError Unit} {l : List α} (h : ∀ a ∈ l, Declares (f a)) :
    Declares (l.forM f) := by
  induction l with
  | nil => exact declares_ok ()
  | cons a l ih =>
    obtain ⟨ha, hl⟩ := List.forall_mem_cons.1 h
    have hall : Declares (f a >>= fun _ => l.forM f) := declares_bind.2 ⟨ha, fun _ _ => ih hl⟩
    exact hall

end

/-- The warning tells that the horizon has not been taken into account. -/
def Warning.Misses (horizon : ℤ) : Warning → Prop
  | .predictionFailed h _ | .noGrid h | .unreadableGrid h _ => h = horizon
  | .noModel _ | .otherCrs _ => True
  | _ => False

section
variable {K : Type} [Field K] [LinearOrder K] [IsStrictOrderedRing K] [FloorRing K] [MathLib K]

def Services.withClient (services : Services K) (client : MlEngineClient K) : Services K :=
  { services with predict := client.predict }

/-- There is no usable prediction for the horizon. -/
def Unpredicted (predict : Predictor K) (hazard : String) (regionCode : Option String)
    (bbox : Bbox K) (horizon : ℤ) : Prop :=
  ∀ recipe, recipeForHazard hazard = some recipe →
    acceptedAt predict recipe hazard regionCode bbox horizon = none

/-- The schema accepts the horizon, and the server's reply to its request can be read. -/
def HorizonReads (client : MlEngineClient K) (recipe : Recipe) (hazard : String)
    (regionCode : Option String) (bbox : Bbox K) (horizon : ℤ) : Prop :=
  (0 ≤ horizon ∧ horizon ≤ 72 * 60) ∧
    ∀ request, predictionRequest recipe hazard regionCode bbox horizon = .ok request →
      client.Reads (client.server request)

/-- The request has a road graph, a place to start from and a list of candidates. -/
structure Prepared (fuel : ℕ) (services : Services K) (payload : RouteRequest K)
    (graph : RoadGraph K) (origin : RouteOrigin K) (candidates : List (Shelter K × Option K)) :
    Prop where
  graph_eq : getGraph fuel services payload.mode = .ok graph
  origin_eq : routeOrigin services.database payload = .ok origin
  candidates_eq : candidateShelters services.database payload origin = .ok candidates

/-- The request also gets past the catalogue of hazards, with a candidate to lead to. -/
structure Consults (fuel : ℕ) (services : Services K) (payload : RouteRequest K)
    (graph : RoadGraph K) (origin : RouteOrigin K) (candidates : List (Shelter K × Option K)) :
    Prop extends Prepared fuel services payload graph origin candidates where
  limitation_eq : ∃ out, hazardLimitation services.capabilityFor payload.hazard = .ok out
  some_candidate : candidates ≠ []

/-- Nothing the request asks for is out of bounds, unreadable or empty, and every distance and every
cell can be computed. -/
structure Answerable (fuel : ℕ) (client : MlEngineClient K) (services : Services K)
    (payload : RouteRequest K) : Prop where
  roads : RoadsMeasured services payload.mode
  ends : ∀ {graph}, getGraph fuel services payload.mode = .ok graph → graph.Measured
  shelters : ∀ {graph origin}, getGraph fuel services payload.mode = .ok graph →
    routeOrigin services.database payload = .ok origin →
    ∀ shelter ∈ usableShelters services.database payload.hazard origin.regionCode,
      ShelterMeasured origin shelter
  named : ∀ {graph origin candidates}, Prepared fuel services payload graph origin candidates →
    ∀ candidate ∈ candidates, ShelterMeasured origin candidate.1
  catalogue : ∀ {graph origin candidates}, Prepared fuel services payload graph origin candidates →
    Declares (hazardLimitation services.capabilityFor payload.hazard)
  horizons : ∀ {graph origin candidates recipe},
    Consults fuel services payload graph origin candidates → payload.usePrediction = true →
    recipeForHazard payload.hazard = some recipe → ∀ horizon ∈ payload.horizonsMinutes,
      HorizonReads client recipe payload.hazard origin.regionCode
        (bboxAround origin.lat origin.lon predictionRadiusM) horizon
  legs : ∀ {graph origin candidates field accepted warnings},
    Consults fuel services payload graph origin candidates →
    requestField (services.withClient client) payload origin = .ok (field, accepted, warnings) →
    ∀ candidate ∈ candidates, LegAnswered graph payload origin field candidate

variable {client : MlEngineClient K} {services : Services K} {payload : RouteRequest K}
variable {fuel : ℕ} {recipe : Recipe} {hazard : String} {regionCode : Option String}
variable {bbox : Bbox K} {horizon : ℤ} {predict : Predictor K} {field : HazardField K}
variable {origin : RouteOrigin K}

theorem routeOrigin_declares (database : Database K) (payload : RouteRequest K) :
    Declares (routeOrigin database payload) := by
  unfold routeOrigin
  split
  · split
    · exact declares_salgil _
    · split
      · exact declares_ok _
      · exact declares_salgil _
  · split
    · exact declares_ok _
    · exact declares_salgil _

theorem candidateShelters_declares (database : Database K) (payload : RouteRequest K)
    (origin : RouteOrigin K) : Declares (candidateShelters database payload origin) := by
  unfold candidateShelters
  split
  · exact declares_ok _
  · split
    · exact declares_salgil _
    · split
      · exact declares_salgil _
      · split
        · exact declares_ok _
        · exact declares_ok _

theorem declares_planEvacuation (hgraph : Declares (getGraph fuel services payload.mode))
    (hcatalogue : ∀ graph origin candidates,
      Prepared fuel services payload graph origin candidates →
      Declares (hazardLimitation services.capabilityFor payload.hazard))
    (hasked : ∀ graph origin candidates, Consults fuel services payload graph origin candidates →
      Declares (requestField services payload origin) ∧
      ∀ field accepted warnings,
        requestField services payload origin = .ok (field, accepted, warnings) →
        Declares (candidates.mapM (routeLeg fuel graph payload origin field))) :
    Declares (planEvacuation fuel services payload) := by
  unfold planEvacuation
  simp only [declares_bind]
  refine ⟨hgraph, fun graph hg => ⟨routeOrigin_declares _ _, fun origin ho =>
    ⟨candidateShelters_declares _ _ _, fun candidates hc =>
      ⟨hcatalogue _ _ _ ⟨hg, ho, hc⟩, ?_⟩⟩⟩⟩
  rintro ⟨limitation, warnings⟩ hl
  simp only
  split
  · cases limitation with
    | none => exact declares_salgil _
    | some text => exact declares_ok _
  · next hsome =>
    obtain ⟨hfield, hlegs⟩ := hasked graph origin candidates ⟨⟨hg, ho, hc⟩, ⟨_, hl⟩, hsome⟩
    simp only [declares_bind]
    refine ⟨hfield, ?_⟩
    rintro ⟨field, accepted, warnings⟩ hf
    exact ⟨hlegs field accepted warnings hf, fun _ _ => declares_ok _⟩

theorem readHorizon_reads (client : MlEngineClient K) (acc : Reading K) :
    Ends (fun e => MlEngineClient.Undeclared e ∧
        ¬ HorizonReads client recipe hazard regionCode bbox horizon)
      (fun _ => HorizonReads client recipe hazard regionCode bbox horizon)
      (readHorizon client.predict recipe hazard regionCode bbox acc horizon) := by
  by_cases hbounds : 0 ≤ horizon ∧ horizon ≤ 72 * 60
  · obtain ⟨request, hrequest⟩ : ∃ request,
        predictionRequest recipe hazard regionCode bbox horizon = .ok request := by
      rw [predictionRequest, dif_pos hbounds]
      exact ⟨_, rfl⟩
    have hiff : HorizonReads client recipe hazard regionCode bbox horizon ↔
        client.Reads (client.server request) := by
      simp only [HorizonReads, hrequest, Except.ok.injEq, forall_eq']
      exact and_iff_right hbounds
    have hpredict := client.predict_ends request
    rw [readHorizon, hrequest, ok_bind, hiff]
    cases hp : client.predict request with
    | ok r => exact hpredict.of_ok hp
    | error e =>
      rcases hpredict.of_error hp with ⟨hread, ⟨detail, rfl⟩ | ⟨detail, rfl⟩⟩ | ⟨hread, hforeign⟩
      · exact hread
      · exact hread
      · cases e with
        | salgil s => exact absurd rfl (hforeign s)
        | _ => exact ⟨hforeign, hread⟩
  · rw [readHorizon, predictionRequest, dif_neg hbounds]
    exact ⟨(fun s hs => by cases hs), fun h => hbounds h.1⟩

theorem hazardField_reads (client : MlEngineClient K) (hazard : String) (lat lon : K)
    (horizons : List ℤ) (regionCode : Option String) :
    Ends (fun e => MlEngineClient.Undeclared e ∧ ¬ ∀ recipe, recipeForHazard hazard = some recipe →
        ∀ horizon ∈ horizons, HorizonReads client recipe hazard regionCode
          (bboxAround lat lon predictionRadiusM) horizon)
      (fun _ => ∀ recipe, recipeForHazard hazard = some recipe →
        ∀ horizon ∈ horizons, HorizonReads client recipe hazard regionCode
          (bboxAround lat lon predictionRadiusM) horizon)
      (hazardField client.predict hazard lat lon horizons regionCode) := by
  unfold hazardField
  cases hrecipe : recipeForHazard hazard with
  | none => simp
  | some recipe =>
    have hfold := Ends.foldlM (b := ({} : Reading K)) (l := sortedSet horizons)
      (E := fun e => MlEngineClient.Undeclared e ∧ ¬ ∀ recipe', some recipe = some recipe' →
        ∀ horizon ∈ horizons, HorizonReads client recipe' hazard regionCode
          (bboxAround lat lon predictionRadiusM) horizon)
      (f := readHorizon client.predict recipe hazard regionCode
        (bboxAround lat lon predictionRadiusM))
      (R := fun done _ => ∀ horizon ∈ done, HorizonReads client recipe hazard regionCode
        (bboxAround lat lon predictionRadiusM) horizon) (by simp) (by
        intro done horizon acc hmem hdone
        have hround : Ends _ (fun _ => HorizonReads client recipe hazard regionCode
          (bboxAround lat lon predictionRadiusM) horizon) _ := readHorizon_reads client acc
        cases hr : readHorizon client.predict recipe hazard regionCode
          (bboxAround lat lon predictionRadiusM) acc horizon with
        | error e =>
          obtain ⟨hforeign, hread⟩ := hround.of_error hr
          exact ⟨hforeign, fun hall => hread (hall recipe rfl horizon (mem_sortedSet.1 hmem))⟩
        | ok next =>
          rw [Ends.ok_iff, List.forall_mem_append]
          exact ⟨hdone, by simpa using hround.of_ok hr⟩)
    refine hfold.bind fun reading hreading => ?_
    rintro _ ⟨⟩ horizon hhorizon
    exact hreading horizon (mem_sortedSet.2 hhorizon)

theorem requestField_reads (client : MlEngineClient K) (services : Services K)
    (payload : RouteRequest K) (origin : RouteOrigin K) :
    Ends (fun e => MlEngineClient.Undeclared e ∧ ¬ (payload.usePrediction = true →
        ∀ recipe, recipeForHazard payload.hazard = some recipe →
          ∀ horizon ∈ payload.horizonsMinutes, HorizonReads client recipe payload.hazard
            origin.regionCode (bboxAround origin.lat origin.lon predictionRadiusM) horizon))
      (fun _ => payload.usePrediction = true →
        ∀ recipe, recipeForHazard payload.hazard = some recipe →
          ∀ horizon ∈ payload.horizonsMinutes, HorizonReads client recipe payload.hazard
            origin.regionCode (bboxAround origin.lat origin.lon predictionRadiusM) horizon)
      (requestField (services.withClient client) payload origin) := by
  have hfield := hazardField_reads client payload.hazard origin.lat origin.lon
    payload.horizonsMinutes origin.regionCode
  unfold requestField
  cases huse : payload.usePrediction with
  | false => simp
  | true =>
    simp only [↓reduceIte, true_implies]
    refine Ends.bind hfield ?_
    rintro ⟨field, accepted, warnings⟩ hread
    exact hread

theorem Reading.add_warns (acc : Reading K) (hazard : String) (bbox : Bbox K) (horizon : ℤ)
    (r : PredictionResult K) :
    acc.warnings ⊆ (acc.add hazard bbox horizon r).warnings ∧
      (acceptedSlice hazard bbox horizon r = none →
        ∃ w ∈ (acc.add hazard bbox horizon r).warnings, w.Misses horizon) := by
  have hmiss : ∀ w, (readResult hazard bbox horizon r).2 = .error w → w.Misses horizon := by
    intro w hw
    unfold readResult readGrid at hw
    split at hw
    · split at hw
      · next warning hplaced =>
        unfold gridBbox at hplaced
        split at hplaced
        · simp only at hplaced
          split at hplaced
          · cases hplaced
            cases hw
            trivial
          · cases hplaced
        · cases hplaced
      · cases hslice : sliceFromGrid _ _ _ _ _ _ _ with
        | error message =>
          rw [hslice] at hw
          cases hw
          rfl
        | ok slice =>
          rw [hslice] at hw
          cases hw
    · cases hw
      rfl
  unfold Reading.add acceptedSlice
  simp only
  split
  · next w hw =>
    refine ⟨List.subset_append_left _ _, fun _ => ⟨w, ?_, hmiss w hw⟩⟩
    simp [Reading.warn]
  · next slice hslice => simp [hslice, Except.toOption]

theorem readHorizon_warns (acc : Reading K) :
    Ends (fun _ => True) (fun next => acc.warnings ⊆ next.warnings ∧
        (acceptedAt predict recipe hazard regionCode bbox horizon = none →
          ∃ w ∈ next.warnings, w.Misses horizon))
      (readHorizon predict recipe hazard regionCode bbox acc horizon) := by
  cases hrequest : predictionRequest recipe hazard regionCode bbox horizon with
  | error e =>
    rw [readHorizon, hrequest]
    trivial
  | ok request =>
    rw [readHorizon, hrequest, ok_bind]
    split
    · next r hr =>
      obtain ⟨hsub, hmiss⟩ := acc.add_warns hazard bbox horizon r
      refine ⟨hsub, fun hnone => hmiss ?_⟩
      simpa [acceptedAt, answer, hrequest, hr, Except.toOption] using hnone
    · exact ⟨List.subset_append_left _ _, fun _ =>
        ⟨_, List.mem_append_right _ (List.mem_singleton_self _), rfl⟩⟩
    · exact ⟨List.subset_append_left _ _, fun _ =>
        ⟨_, List.mem_append_right _ (List.mem_singleton_self _), rfl⟩⟩
    · trivial

theorem hazardField_warns {lat lon : K} {horizons : List ℤ} {accepted : Option PredictionMeta}
    {warnings : List Warning}
    (h : hazardField predict hazard lat lon horizons regionCode = .ok (field, accepted, warnings))
    (hmem : horizon ∈ horizons)
    (hnone : Unpredicted predict hazard regionCode (bboxAround lat lon predictionRadiusM) horizon) :
    ∃ w ∈ warnings, w.Misses horizon := by
  unfold hazardField at h
  cases hrecipe : recipeForHazard hazard with
  | none =>
    rw [hrecipe] at h
    cases h
    exact ⟨.noModel hazard, List.mem_singleton_self _, trivial⟩
  | some recipe =>
    rw [hrecipe] at h
    obtain ⟨reading, hreading, h⟩ := bind_eq_ok.1 h
    have hwarned := (Ends.foldlM (E := fun _ => True)
      (R := fun done (acc : Reading K) => ∀ horizon ∈ done, acceptedAt predict recipe hazard
        regionCode (bboxAround lat lon predictionRadiusM) horizon = none →
        ∃ w ∈ acc.warnings, w.Misses horizon) (by simp) (by
        intro done horizon acc _ hdone
        refine (readHorizon_warns acc).mono ?_
        rintro next ⟨hsub, hmiss⟩
        rw [List.forall_mem_append]
        refine ⟨fun horizon' hmem' hnone' => ?_, by simpa using hmiss⟩
        obtain ⟨w, hw, hw'⟩ := hdone horizon' hmem' hnone'
        exact ⟨w, hsub hw, hw'⟩)).of_ok hreading
    obtain ⟨w, hw, hw'⟩ := hwarned horizon (mem_sortedSet.2 hmem) (hnone recipe hrecipe)
    refine ⟨w, ?_, hw'⟩
    simp only [pure_eq_ok, Except.ok.injEq, Reading.field, Prod.mk.injEq] at h
    rw [← h.2.2]
    split <;> split <;> simp [hw]

theorem LegAnswered.declares {graph : RoadGraph K} {candidate : Shelter K × Option K}
    (h : LegAnswered graph payload origin field candidate)
    (hm : Metric graph (profileFor payload.mode) (.ofRequest payload))
    (hfuel : graph.searchBudget < fuel) :
    Declares (routeLeg fuel graph payload origin field candidate) := by
  obtain ⟨shelter, straightKm⟩ := candidate
  unfold routeLeg
  simp only
  split
  · next lat lon hlat hlon =>
    have hreads : Ends _ _ (planRoute fuel graph (profileFor payload.mode) field
        (.ofRequest payload) (origin.lat, origin.lon) (lat, lon) (payload.departAfterMinutes * 60)
        defaultMaxDurationS defaultSnapDistanceM) :=
      planRoute_reads hm (mul_nonneg payload.departAfterMinutes_ok (by norm_num)) hfuel
    refine declares_bind.2 ⟨fun e he => ?_, fun _ _ => declares_ok _⟩
    exact absurd (h lat lon hlat hlon).reads (hreads.of_error he).2
  · exact declares_ok _

end

section
variable {fuel : ℕ} {client : MlEngineClient ℝ} {services : Services ℝ} {payload : RouteRequest ℝ}
variable {mode : TransportMode} {graph : RoadGraph ℝ}

theorem getGraph_declares (hfuel : EnoughFuel fuel services mode) :
    Declares (getGraph fuel services mode) := by
  unfold getGraph
  split
  · exact declares_salgil _
  · split
    · exact declares_salgil _
    · next features hfile =>
      obtain ⟨chains, _, _, source, wayCount, attribution, -, -, hload⟩ :=
        loadRoadGraph_contracted services.order _ mode features (hfuel features hfile).1
      rw [hload]
      exact declares_ok _

theorem Consults.metric {origin : RouteOrigin ℝ} {candidates : List (Shelter ℝ × Option ℝ)}
    (h : Consults fuel services payload graph origin candidates)
    (hfuel : EnoughFuel fuel services payload.mode) :
    graph.searchBudget < fuel ∧ Metric graph (profileFor payload.mode) (.ofRequest payload) :=
  getGraph_searchable hfuel h.graph_eq one_le_avoidPenalty_ofRequest

theorem Answerable.declares (h : Answerable fuel client services payload)
    (hfuel : EnoughFuel fuel services payload.mode) :
    Declares (planEvacuationOnDoubles fuel (services.withClient client) payload) := by
  have hgraph : Declares (getGraph fuel (services.withClient client) payload.mode) :=
    getGraph_declares hfuel
  have hpasses : ∀ {P : Prop} {x : Except PyError Unit}, Checks P x → P → Declares x := by
    intro P x hx hP
    rw [hx.eq_ok hP]
    exact declares_ok ()
  have hfield : ∀ graph origin candidates,
      Consults fuel services payload graph origin candidates →
      Declares (requestField (services.withClient client) payload origin) := by
    intro graph origin candidates hasked e he
    obtain ⟨-, hread⟩ := (requestField_reads client services payload origin).of_error he
    exact absurd (fun huse recipe hrecipe => h.horizons hasked huse hrecipe) hread
  have hplan : Declares (planEvacuation fuel (services.withClient client) payload) := by
    refine declares_planEvacuation hgraph ?_ ?_
    · rintro graph origin candidates ⟨hgraph, horigin, hcandidates⟩
      exact h.catalogue ⟨hgraph, horigin, hcandidates⟩
    · rintro graph origin candidates ⟨⟨hgraph, horigin, hcandidates⟩, hlimitation, hsome⟩
      have hasked : Consults fuel services payload graph origin candidates :=
        ⟨⟨hgraph, horigin, hcandidates⟩, hlimitation, hsome⟩
      obtain ⟨hbudget, hm⟩ := hasked.metric hfuel
      refine ⟨hfield _ _ _ hasked, fun field accepted warnings hf => ?_⟩
      exact declares_mapM fun c hc => (h.legs hasked hf c hc).declares hm hbudget
  unfold planEvacuationOnDoubles
  simp only [declares_bind]
  refine ⟨hpasses (checkRoadFile_checks _ _) h.roads, fun _ _ => ⟨hgraph, fun graph hg =>
    ⟨routeOrigin_declares _ _, fun origin ho => ⟨?_, fun _ _ =>
      ⟨candidateShelters_declares _ _ _, fun candidates hc => ⟨?_, fun _ _ => ⟨?_, ?_⟩⟩⟩⟩⟩⟩⟩
  · exact hpasses (Checks.forM fun s _ => checkShelter_checks origin s) (h.shelters hg ho)
  · exact hpasses (Checks.forM fun c _ => checkShelter_checks origin c.1) (h.named ⟨hg, ho, hc⟩)
  · exact h.catalogue ⟨hg, ho, hc⟩
  · intro limitation hl
    split
    · exact hplan
    · next hsome =>
      have hasked : Consults fuel services payload graph origin candidates :=
        ⟨⟨hg, ho, hc⟩, ⟨_, hl⟩, hsome⟩
      obtain ⟨hbudget, hm⟩ := hasked.metric hfuel
      refine declares_bind.2 ⟨hfield _ _ _ hasked, ?_⟩
      rintro ⟨field, accepted, warnings⟩ hf
      refine declares_bind.2 ⟨declares_forM fun c hc e he => ?_, fun _ _ => hplan⟩
      have hends : Ends _ _ (checkLeg fuel graph payload origin field c) :=
        checkLeg_ends hm (h.ends hg) hbudget
      exact absurd (h.legs hasked hf c hc) (hends.of_error he).2

end

/-- The long road, with a shelter at its south end. -/
noncomputable def shelteredRoad (payload : RouteRequest ℝ) : Services ℝ :=
  (longRoadServices ⟨36, 128, 37, 130⟩).withShelters
    [shelterAt payload ⟨36.4, 129, none, none⟩ (onMeridian 36.4)]

section
variable {payload : RouteRequest ℝ}

end

end Salgil
