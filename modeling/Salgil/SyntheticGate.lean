import Salgil.Evacuation

namespace Salgil
set_option autoImplicit true
set_option linter.unusedSectionVars false

/-- Made from observations, by a model. -/
def PredictionResult.Genuine (r : PredictionResult K) : Prop :=
  r.featureMode ≠ .synthetic ∧ r.isStub = false

instance (r : PredictionResult K) : Decidable r.Genuine := by
  unfold PredictionResult.Genuine
  infer_instance

/-- Names and lengths of the tensors, without their values. -/
def PredictionResult.shapes (r : PredictionResult K) : List (String × ℕ) :=
  r.outputs.map fun tensor => (tensor.name, tensor.data.length)

/-- The second result is the first, up to the tensor values if it is synthetic or a stub. -/
inductive PredictionResult.SameSave : PredictionResult K → PredictionResult K → Prop where
  | same (r : PredictionResult K) : r.SameSave r
  | values {r : PredictionResult K} (outputs : List (TensorPayload K)) : ¬ r.Genuine →
      ({ r with outputs := outputs } : PredictionResult K).shapes = r.shapes →
      r.SameSave { r with outputs := outputs }

/-- Two servers whose answers differ at most in tensor values of synthetic or stub results. -/
def SameSaveValues (predict predict' : Predictor K) : Prop :=
  ∀ request, Together PredictionResult.SameSave (predict request) (predict' request)

/-- The errors that end the reading of the predictions: the schema refuses a horizon, or the
server's answer fails in a way that is not caught. -/
def Uncaught (predict : Predictor K) (e : PyError) : Prop :=
  e = .pydantic ∨ ∃ request, predict request = .error e

section
variable {K : Type} [Field K] [LinearOrder K] [IsStrictOrderedRing K] [FloorRing K] [MathLib K]

/-- The slice of a result the service accepts. -/
def acceptedSlice (hazard : String) (bbox : Bbox K) (horizon : ℤ) (r : PredictionResult K) :
    Option (HazardSlice K) :=
  (readResult hazard bbox horizon r).2.toOption

/-- The server's answer for one horizon, unless it fails. -/
def answer (predict : Predictor K) (recipe : Recipe) (hazard : String) (regionCode : Option String)
    (bbox : Bbox K) (horizon : ℤ) : Option (PredictionResult K) :=
  (predictionRequest recipe hazard regionCode bbox horizon >>= predict).toOption

def acceptedAt (predict : Predictor K) (recipe : Recipe) (hazard : String)
    (regionCode : Option String) (bbox : Bbox K) (horizon : ℤ) :
    Option (HazardSlice K × PredictionResult K) :=
  (answer predict recipe hazard regionCode bbox horizon).bind fun r =>
    (acceptedSlice hazard bbox horizon r).map fun slice => (slice, r)

/-- All accepted results with their slices, by horizon. -/
def acceptedResults (predict : Predictor K) (hazard : String) (lat lon : K) (horizons : List ℤ)
    (regionCode : Option String) : List (HazardSlice K × PredictionResult K) :=
  match recipeForHazard hazard with
  | none => []
  | some recipe => (sortedSet horizons).filterMap
      (acceptedAt predict recipe hazard regionCode (bboxAround lat lon predictionRadiusM))

/-- The slices of the accepted results that are neither synthetic nor from a stub. -/
def genuineSlices (predict : Predictor K) (hazard : String) (lat lon : K) (horizons : List ℤ)
    (regionCode : Option String) : List (HazardSlice K) :=
  ((acceptedResults predict hazard lat lon horizons regionCode).filter (·.2.Genuine)).map (·.1)

/-- Either all accepted results are genuine or none is. -/
def AcceptedAlike (predict : Predictor K) (hazard : String) (lat lon : K) (horizons : List ℤ)
    (regionCode : Option String) : Prop :=
  ∀ x ∈ acceptedResults predict hazard lat lon horizons regionCode,
    ∀ y ∈ acceptedResults predict hazard lat lon horizons regionCode, x.2.Genuine → y.2.Genuine

/-- Other tensor values in synthetic or stub results never change a leg of a plan that asks for
these predictions. -/
def LegsIndependent (predict : Predictor K) (hazard : String) (lat lon : K) (horizons : List ℤ)
    (regionCode : Option String) : Prop :=
  ∀ (fuel : ℕ) (services : Services K) (payload : RouteRequest K)
    (community : Option (Community K)),
    payload.hazard = hazard → payload.horizonsMinutes = horizons →
    routeOrigin services.database payload = .ok ⟨lat, lon, regionCode, community⟩ →
    ∀ predict', SameSaveValues predict predict' →
      (planEvacuation fuel { services with predict := predict' } payload).map (·.routes) =
        (planEvacuation fuel { services with predict := predict } payload).map (·.routes)

variable {predict predict' : Predictor K} {hazard : String} {lat lon : K} {horizons : List ℤ}
variable {regionCode : Option String} {recipe : Recipe} {bbox : Bbox K} {horizon : ℤ}
variable {acc acc' reading : Reading K} {r r' : PredictionResult K} {slice : HazardSlice K}

theorem isSynthetic_metadata : isSynthetic (some r.metadata) = true ↔ ¬ r.Genuine := by
  by_cases h : r.featureMode = .synthetic <;>
    simp [isSynthetic, PredictionResult.metadata, PredictionResult.Genuine, h]

theorem acceptedSlice_eq_some (h : acceptedSlice hazard bbox horizon r = some slice) :
    ∃ tensor rest grid placed, r.outputs = tensor :: rest ∧ r.grid = some grid ∧
      gridBbox grid bbox = .ok placed ∧
      sliceFromGrid horizon grid.height grid.width placed.1
        (toProbability tensor.name tensor.data) (hazardChannel hazard r) r.channelCount =
          .ok slice := by
  unfold acceptedSlice readResult at h
  split at h
  · next tensor rest grid houtputs hgrid =>
    cases hplaced : gridBbox grid bbox with
    | error w => simp [readGrid, hplaced, Except.toOption] at h
    | ok placed =>
      refine ⟨tensor, rest, grid, placed, houtputs, hgrid, hplaced, ?_⟩
      simp only [readGrid, hplaced] at h
      cases hslice : sliceFromGrid horizon grid.height grid.width placed.1
        (toProbability tensor.name tensor.data) (hazardChannel hazard r) r.channelCount with
      | ok slice' =>
        rw [hslice] at h
        exact congrArg _ (Option.some.inj h)
      | error e =>
        rw [hslice] at h
        cases h
  · cases h

theorem acceptedSlice_horizon (h : acceptedSlice hazard bbox horizon r = some slice) :
    slice.horizonMinutes = horizon := by
  obtain ⟨_, _, _, _, -, -, -, hslice⟩ := acceptedSlice_eq_some h
  obtain ⟨-, rfl⟩ := sliceFromGrid_ok.1 hslice
  rfl

theorem Reading.add_eq (acc : Reading K) (hazard : String) (bbox : Bbox K) (horizon : ℤ)
    (r : PredictionResult K) :
    (acc.add hazard bbox horizon r).slices =
        acc.slices ++ (acceptedSlice hazard bbox horizon r).toList ∧
      (acc.add hazard bbox horizon r).accepted =
        ((acceptedSlice hazard bbox horizon r).map fun _ => r.metadata).or acc.accepted := by
  simp only [Reading.add, acceptedSlice]
  cases (readResult hazard bbox horizon r).2 with
  | error w => simp [Except.toOption, Reading.warn]
  | ok slice => simp [Except.toOption]

theorem predictionRequest_error {e : PyError}
    (h : predictionRequest recipe hazard regionCode bbox horizon = .error e) : e = .pydantic := by
  unfold predictionRequest at h
  split at h
  · cases h
  · exact (Except.error.inj h).symm

theorem readHorizon_ends (acc : Reading K) :
    Ends (Uncaught predict) (fun next =>
        next.slices = acc.slices ++
          ((acceptedAt predict recipe hazard regionCode bbox horizon).map (·.1)).toList ∧
        next.accepted = ((acceptedAt predict recipe hazard regionCode bbox horizon).map
          (·.2.metadata)).or acc.accepted)
      (readHorizon predict recipe hazard regionCode bbox acc horizon) := by
  cases hreq : predictionRequest recipe hazard regionCode bbox horizon with
  | error e =>
    rw [readHorizon, hreq]
    exact .inl (predictionRequest_error hreq)
  | ok request =>
    cases hanswer : predict request with
    | ok r =>
      have hat : acceptedAt predict recipe hazard regionCode bbox horizon =
          (acceptedSlice hazard bbox horizon r).map fun slice => (slice, r) := by
        simp [acceptedAt, answer, hreq, hanswer, Except.toOption]
      obtain ⟨hslices, hmeta⟩ := acc.add_eq hazard bbox horizon r
      simp [readHorizon, hreq, hanswer, hat, hslices, hmeta, Option.map_map, Function.comp_def]
    | error e =>
      have hat : acceptedAt predict recipe hazard regionCode bbox horizon = none := by
        simp [acceptedAt, answer, hreq, hanswer, Except.toOption]
      have huncaught : Uncaught predict e := .inr ⟨request, hanswer⟩
      rw [hat]
      -- only the service's own upstream and validation errors are caught
      cases e with
      | salgil e =>
        cases e with
        | upstream detail => simp [readHorizon, hreq, hanswer, Reading.warn]
        | validation detail => simp [readHorizon, hreq, hanswer, Reading.warn]
        | notFound detail => simpa [readHorizon, hreq, hanswer] using huncaught
        | conflict detail => simpa [readHorizon, hreq, hanswer] using huncaught
      | _ => simpa [readHorizon, hreq, hanswer] using huncaught

theorem readings_ends (predict : Predictor K) (recipe : Recipe) (hazard : String)
    (regionCode : Option String) (bbox : Bbox K) (horizons : List ℤ) :
    Ends (Uncaught predict) (fun reading =>
        reading.slices =
          (horizons.filterMap (acceptedAt predict recipe hazard regionCode bbox)).map (·.1) ∧
        reading.accepted = (horizons.filterMap
          (acceptedAt predict recipe hazard regionCode bbox)).getLast?.map (·.2.metadata))
      (horizons.foldlM (readHorizon predict recipe hazard regionCode bbox) {}) := by
  refine Ends.foldlM (R := fun done (reading : Reading K) => reading.slices =
        (done.filterMap (acceptedAt predict recipe hazard regionCode bbox)).map (·.1) ∧
      reading.accepted = (done.filterMap
        (acceptedAt predict recipe hazard regionCode bbox)).getLast?.map (·.2.metadata))
    ⟨rfl, rfl⟩ ?_
  rintro done horizon reading - ⟨hslices, haccepted⟩
  refine (readHorizon_ends reading).mono ?_
  rintro next ⟨hslices', haccepted'⟩
  have hone : [horizon].filterMap (acceptedAt predict recipe hazard regionCode bbox) =
      (acceptedAt predict recipe hazard regionCode bbox horizon).toList := by
    cases h : acceptedAt predict recipe hazard regionCode bbox horizon <;> simp [h]
  rw [hslices', haccepted', hslices, haccepted, List.filterMap_append, hone, List.map_append]
  cases acceptedAt predict recipe hazard regionCode bbox horizon with
  | none => simp
  | some accepted => simp

/-- What the gate lets through of the accepted results: all of them if the last one is genuine,
and none of them else. -/
def gated (accepted : List (HazardSlice K × PredictionResult K)) : List (HazardSlice K) :=
  match accepted.getLast? with
  | some last => if last.2.Genuine then accepted.map (·.1) else []
  | none => []

theorem Reading.field_slices {accepted : List (HazardSlice K × PredictionResult K)}
    (hslices : reading.slices = accepted.map (·.1))
    (haccepted : reading.accepted = accepted.getLast?.map (·.2.metadata))
    (hsorted : (accepted.map (·.1)).Pairwise (·.horizonMinutes ≤ ·.horizonMinutes)) :
    (reading.field hazard).1.slices = gated accepted := by
  have hsort : sortByHorizon (accepted.map (·.1)) = accepted.map (·.1) := hsorted.insertionSort_eq
  cases hlast : accepted.getLast? with
  | none =>
    rw [List.getLast?_eq_none_iff] at hlast
    subst hlast
    simp [Reading.field, HazardField.build, hslices, gated, sortByHorizon_nil]
  | some last =>
    have hne : accepted ≠ [] := by
      rintro rfl
      simp at hlast
    have hgate : isSynthetic reading.accepted = true ↔ ¬ last.2.Genuine := by
      rw [haccepted, hlast]
      exact isSynthetic_metadata
    by_cases hgenuine : last.2.Genuine <;>
      simp [Reading.field, HazardField.build, hslices, gated, hlast, hne, hgate, hgenuine, hsort,
        sortByHorizon_nil]

theorem mem_sortedSet {horizons : List ℤ} : horizon ∈ sortedSet horizons ↔ horizon ∈ horizons := by
  rw [sortedSet, List.mem_insertionSort, List.mem_dedup]

theorem sortedSet_sorted (horizons : List ℤ) : (sortedSet horizons).Pairwise (· ≤ ·) :=
  List.pairwise_insertionSort _ _

theorem acceptedAt_sorted (horizons : List ℤ) :
    (((sortedSet horizons).filterMap (acceptedAt predict recipe hazard regionCode bbox)).map
      (·.1)).Pairwise (·.horizonMinutes ≤ ·.horizonMinutes) := by
  have hhorizon : ∀ {h x}, acceptedAt predict recipe hazard regionCode bbox h = some x →
      x.1.horizonMinutes = h := by
    intro h x hx
    obtain ⟨r, -, hr⟩ := Option.bind_eq_some_iff.1 hx
    obtain ⟨slice, hslice, rfl⟩ := Option.map_eq_some_iff.1 hr
    exact acceptedSlice_horizon hslice
  rw [List.pairwise_map]
  apply (sortedSet_sorted horizons).filterMap
  intro h h' hle x hx y hy
  rw [hhorizon hx, hhorizon hy]
  exact hle

theorem hazardField_ends (predict : Predictor K) (hazard : String) (lat lon : K)
    (horizons : List ℤ) (regionCode : Option String) :
    Ends (Uncaught predict)
      (fun out => out.1.slices = gated (acceptedResults predict hazard lat lon horizons regionCode))
      (hazardField predict hazard lat lon horizons regionCode) := by
  unfold hazardField acceptedResults
  cases recipeForHazard hazard with
  | none => simp [HazardField.build, sortByHorizon_nil, gated]
  | some recipe =>
    refine (readings_ends predict recipe hazard regionCode _ _).bind ?_
    rintro reading ⟨hslices, haccepted⟩
    exact Reading.field_slices hslices haccepted (acceptedAt_sorted horizons)

/-- The gate lets through just the genuine results exactly when they are alike. -/
theorem gated_eq_iff {accepted : List (HazardSlice K × PredictionResult K)} :
    gated accepted = (accepted.filter (·.2.Genuine)).map (·.1) ↔
      ∀ x ∈ accepted, ∀ y ∈ accepted, x.2.Genuine → y.2.Genuine := by
  cases hlast : accepted.getLast? with
  | none =>
    rw [List.getLast?_eq_none_iff] at hlast
    subst hlast
    simp [gated]
  | some last =>
    have hmem : last ∈ accepted := List.mem_of_getLast? hlast
    by_cases hgenuine : last.2.Genuine
    · simp only [gated, hlast, hgenuine, ↓reduceIte]
      constructor
      · intro heq x _ y hy _
        have hlen := congrArg List.length heq
        rw [List.length_map, List.length_map, eq_comm, List.length_filter_eq_length_iff] at hlen
        simpa using hlen y hy
      · intro halike
        rw [List.filter_eq_self.2]
        intro y hy
        simpa using halike last hmem y hy hgenuine
    · simp only [gated, hlast, hgenuine, ↓reduceIte]
      constructor
      · intro heq x hx y _ hxg
        have hnil := List.map_eq_nil_iff.1 heq.symm
        rw [List.filter_eq_nil_iff] at hnil
        exact absurd (by simpa using hxg) (hnil x hx)
      · intro halike
        rw [List.filter_eq_nil_iff.2, List.map_nil]
        intro x hx hxg
        exact hgenuine (halike x hx last hmem (by simpa using hxg))

theorem length_toProbability (name : String) (values : List K) :
    (toProbability name values).length = values.length := by
  unfold toProbability
  split
  · exact List.length_map _
  · rfl

theorem readGrid_congr {grid : GridSpec K} {tensor tensor' : TensorPayload K}
    (hlen : tensor'.data.length = tensor.data.length) :
    (readGrid hazard bbox horizon r grid tensor').1 =
        (readGrid hazard bbox horizon r grid tensor).1 ∧
      Together (fun _ _ => True) (readGrid hazard bbox horizon r grid tensor).2
        (readGrid hazard bbox horizon r grid tensor').2 := by
  have hvalues : (toProbability tensor.name tensor.data).length =
      (toProbability tensor'.name tensor'.data).length := by
    rw [length_toProbability, length_toProbability, hlen]
  cases hplaced : gridBbox grid bbox with
  | error w => simp [readGrid, hplaced, Together]
  | ok placed =>
    simp only [readGrid, hplaced, true_and]
    exact (sliceFromGrid_congr hvalues _ _ _ _ _ _).mapError _

theorem PredictionResult.SameSave.readResult (h : r.SameSave r') (hazard : String) (bbox : Bbox K)
    (horizon : ℤ) :
    r'.metadata = r.metadata ∧
      (readResult hazard bbox horizon r').1 = (readResult hazard bbox horizon r).1 ∧
      Together (fun _ _ => True) (readResult hazard bbox horizon r).2
        (readResult hazard bbox horizon r').2 := by
  cases h with
  | same => exact ⟨rfl, rfl, .refl (fun _ => trivial) _⟩
  | values outputs hr hshapes =>
    refine ⟨rfl, ?_⟩
    obtain ⟨_, _, _, _, _, _, _, grid, outputs', _, _, _, _⟩ := r
    cases outputs' with
    | nil =>
      obtain rfl : outputs = [] := List.map_eq_nil_iff.1 hshapes
      exact ⟨rfl, rfl⟩
    | cons tensor rest =>
      cases outputs with
      | nil => cases hshapes
      | cons tensor' rest' =>
        simp only [shapes, List.map_cons, List.cons.injEq, Prod.mk.injEq] at hshapes
        cases grid with
        | none => exact ⟨rfl, rfl⟩
        | some grid => exact readGrid_congr hshapes.1.2

/-- Two readings that differ at most in the slices, and have as many of them. -/
structure Reading.Same (acc acc' : Reading K) : Prop where
  accepted : acc'.accepted = acc.accepted
  assumed : acc'.assumedGeoreference = acc.assumedGeoreference
  warnings : acc'.warnings = acc.warnings
  slices : acc'.slices.length = acc.slices.length

theorem Reading.Same.warn (h : acc.Same acc') (w : Warning) : (acc.warn w).Same (acc'.warn w) :=
  ⟨h.accepted, h.assumed, congrArg (· ++ [w]) h.warnings, h.slices⟩

theorem Reading.Same.add (h : acc.Same acc') (hr : r.SameSave r') :
    (acc.add hazard bbox horizon r).Same (acc'.add hazard bbox horizon r') := by
  obtain ⟨hmeta, hassumed, hslice⟩ := hr.readResult hazard bbox horizon
  simp only [Reading.add, hassumed]
  revert hslice
  cases (Salgil.readResult hazard bbox horizon r).2 with
  | error w =>
    cases (Salgil.readResult hazard bbox horizon r').2 with
    | error w' =>
      rintro rfl
      exact ⟨h.accepted, congrArg (· || _) h.assumed, congrArg (· ++ [w]) h.warnings, h.slices⟩
    | ok slice' => exact False.elim
  | ok slice =>
    cases (Salgil.readResult hazard bbox horizon r').2 with
    | error w' => exact False.elim
    | ok slice' =>
      intro _
      refine ⟨congrArg some hmeta, congrArg (· || _) h.assumed, h.warnings, ?_⟩
      simp [h.slices]

theorem Reading.Same.readHorizon (h : acc.Same acc') (hsame : SameSaveValues predict predict')
    (horizon : ℤ) :
    Together Reading.Same (readHorizon predict recipe hazard regionCode bbox acc horizon)
      (readHorizon predict' recipe hazard regionCode bbox acc' horizon) := by
  unfold Salgil.readHorizon
  refine (Together.refl (S := fun a b => a = b) (fun _ => rfl) _).bind ?_
  rintro request _ rfl
  have hanswer := hsame request
  revert hanswer
  cases predict request with
  | ok r =>
    cases predict' request with
    | ok r' => exact fun hr => h.add hr
    | error e => exact False.elim
  | error e =>
    cases predict' request with
    | ok r' => exact False.elim
    | error e' =>
      rintro rfl
      cases e with
      | salgil e =>
        cases e with
        | upstream detail => exact h.warn _
        | validation detail => exact h.warn _
        | notFound detail => rfl
        | conflict detail => rfl
      | _ => rfl

theorem SameSaveValues.acceptedAt (hsame : SameSaveValues predict predict')
    (hgenuine : ∀ x, acceptedAt predict recipe hazard regionCode bbox horizon = some x →
      x.2.Genuine) :
    acceptedAt predict' recipe hazard regionCode bbox horizon =
      acceptedAt predict recipe hazard regionCode bbox horizon := by
  cases hreq : predictionRequest recipe hazard regionCode bbox horizon with
  | error e => simp [Salgil.acceptedAt, answer, hreq, Except.toOption]
  | ok request =>
    have hanswer := hsame request
    revert hanswer
    cases hp : predict request with
    | error e =>
      cases hp' : predict' request with
      | ok r' => exact False.elim
      | error e' => simp [Salgil.acceptedAt, answer, hreq, hp, hp', Except.toOption]
    | ok r =>
      cases hp' : predict' request with
      | error e' => exact False.elim
      | ok r' =>
        have hat : Salgil.acceptedAt predict recipe hazard regionCode bbox horizon =
            (acceptedSlice hazard bbox horizon r).map fun slice => (slice, r) := by
          simp [Salgil.acceptedAt, answer, hreq, hp, Except.toOption]
        have hat' : Salgil.acceptedAt predict' recipe hazard regionCode bbox horizon =
            (acceptedSlice hazard bbox horizon r').map fun slice => (slice, r') := by
          simp [Salgil.acceptedAt, answer, hreq, hp', Except.toOption]
        intro hr
        obtain ⟨-, -, hslice⟩ := PredictionResult.SameSave.readResult hr hazard bbox horizon
        cases hr with
        | same => rw [hat, hat']
        | values outputs hnot _ =>
          have hnone : acceptedSlice hazard bbox horizon r = none := by
            rw [Option.eq_none_iff_forall_ne_some]
            intro slice hsome
            exact hnot (hgenuine _ (by rw [hat, hsome]; rfl))
          rw [hat, hat', hnone]
          unfold acceptedSlice at hnone ⊢
          revert hslice hnone
          cases (Salgil.readResult hazard bbox horizon r).2 with
          | ok slice => exact fun _ h => nomatch h
          | error w =>
            cases (Salgil.readResult hazard bbox horizon { r with outputs := outputs }).2 with
            | ok slice => exact False.elim
            | error w' => exact fun _ _ => rfl

theorem Reading.Same.eq (h : acc.Same acc') (hslices : acc'.slices = acc.slices) : acc' = acc := by
  obtain ⟨haccepted, hassumed, hwarnings, -⟩ := h
  cases acc
  cases acc'
  simp_all

/-- Behind the gate two such readings cannot be told apart. -/
theorem Reading.Same.field_gated (h : acc.Same acc') (hne : acc.slices ≠ [])
    (hgate : isSynthetic acc.accepted = true) : acc'.field hazard = acc.field hazard := by
  have hne' : acc'.slices ≠ [] := by
    rwa [ne_eq, ← List.length_eq_zero_iff, h.slices, List.length_eq_zero_iff]
  simp [Reading.field, h.accepted, h.assumed, h.warnings, hne, hne', hgate]

theorem AcceptedAlike.hazardField_eq
    (halike : AcceptedAlike predict hazard lat lon horizons regionCode)
    (hsame : SameSaveValues predict predict') :
    hazardField predict' hazard lat lon horizons regionCode =
      hazardField predict hazard lat lon horizons regionCode := by
  unfold AcceptedAlike acceptedResults at halike
  unfold hazardField
  cases hrecipe : recipeForHazard hazard with
  | none => rfl
  | some recipe =>
    simp only [hrecipe] at halike ⊢
    set bbox := bboxAround lat lon predictionRadiusM
    have htogether : Together Reading.Same
        ((sortedSet horizons).foldlM (readHorizon predict recipe hazard regionCode bbox) {})
        ((sortedSet horizons).foldlM (readHorizon predict' recipe hazard regionCode bbox) {}) :=
      Together.foldlM ⟨rfl, rfl, rfl, rfl⟩ fun horizon a b hab => hab.readHorizon hsame horizon
    have hread := readings_ends predict recipe hazard regionCode bbox (sortedSet horizons)
    have hread' := readings_ends predict' recipe hazard regionCode bbox (sortedSet horizons)
    revert htogether hread hread'
    cases (sortedSet horizons).foldlM (readHorizon predict recipe hazard regionCode bbox) {} with
    | error e =>
      cases (sortedSet horizons).foldlM (readHorizon predict' recipe hazard regionCode bbox) {} with
      | error e' =>
        rintro rfl - -
        rfl
      | ok reading' => exact False.elim
    | ok reading =>
      cases (sortedSet horizons).foldlM (readHorizon predict' recipe hazard regionCode bbox) {} with
      | error e' => exact False.elim
      | ok reading' =>
        rintro (h : reading.Same reading') ⟨hslices, haccepted⟩ ⟨hslices', -⟩
        simp only [ok_bind, pure_eq_ok, Except.ok.injEq]
        generalize hall : (sortedSet horizons).filterMap
          (acceptedAt predict recipe hazard regionCode bbox) = accepted at *
        cases hlast : accepted.getLast? with
        | none =>
          rw [List.getLast?_eq_none_iff] at hlast
          subst hlast
          have hnil : reading.slices = [] := by simpa using hslices
          have hnil' : reading'.slices = [] := by
            rw [← List.length_eq_zero_iff, h.slices, hnil, List.length_nil]
          rw [h.eq (hnil'.trans hnil.symm)]
        | some last =>
          have hmem : last ∈ accepted := List.mem_of_getLast? hlast
          by_cases hgenuine : last.2.Genuine
          · have heq : (sortedSet horizons).filterMap
                (acceptedAt predict' recipe hazard regionCode bbox) = accepted := by
              rw [← hall]
              apply List.filterMap_congr
              intro horizon hhorizon
              apply hsame.acceptedAt
              intro x hx
              refine halike last hmem x ?_ hgenuine
              rw [← hall, List.mem_filterMap]
              exact ⟨horizon, hhorizon, hx⟩
            rw [h.eq (by rw [hslices, hslices', heq])]
          · apply h.field_gated
            · rw [hslices, ne_eq, List.map_eq_nil_iff]
              rintro rfl
              cases hmem
            · rw [haccepted, hlast]
              exact isSynthetic_metadata.2 hgenuine

theorem AcceptedAlike.legsIndependent
    (halike : AcceptedAlike predict hazard lat lon horizons regionCode) :
    LegsIndependent predict hazard lat lon horizons regionCode := by
  rintro fuel services payload community rfl rfl horigin predict' hsame
  have hfield : requestField { services with predict := predict' } payload
        ⟨lat, lon, regionCode, community⟩ =
      requestField { services with predict := predict } payload
        ⟨lat, lon, regionCode, community⟩ := by
    simp only [requestField, halike.hazardField_eq hsame]
  simp only [planEvacuation, horigin, ok_bind, hfield]
  rfl

/-- Only genuine predictions count, and all of them, exactly when the accepted results of the
request are all genuine or all synthetic. -/
theorem genuineSlices_iff (predict : Predictor K) (hazard : String) (lat lon : K)
    (horizons : List ℤ) (regionCode : Option String) :
    Ends (Uncaught predict) (fun out =>
        (out.1.slices = genuineSlices predict hazard lat lon horizons regionCode ∧
          LegsIndependent predict hazard lat lon horizons regionCode) ↔
        AcceptedAlike predict hazard lat lon horizons regionCode)
      (hazardField predict hazard lat lon horizons regionCode) := by
  refine (hazardField_ends predict hazard lat lon horizons regionCode).mono fun out hout => ?_
  rw [hout]
  constructor
  · rintro ⟨hslices, -⟩
    exact gated_eq_iff.1 hslices
  · intro halike
    exact ⟨gated_eq_iff.2 halike, halike.legsIndependent⟩

end

/-- A prediction of one value over an area, by a model that runs. -/
noncomputable def oneCell (area : Bbox ℝ) (value : ℝ) (featureMode : FeatureMode) :
    PredictionResult ℝ where
  predictionId := "p"
  recipe := .wildfireSpread
  model := { name := "wildfire_spread", version := some "1" }
  grid := some ⟨1, 1, some "EPSG:4326", some [area.minLon, area.minLat, area.maxLon, area.maxLat]⟩
  outputs := [⟨"risk", [value]⟩]
  featureMode := featureMode

theorem readResult_oneCell (area : Bbox ℝ) (value : ℝ) (featureMode : FeatureMode)
    (hazard : String) (bbox : Bbox ℝ) (horizon : ℤ) :
    readResult hazard bbox horizon (oneCell area value featureMode) =
      (false, .ok ⟨horizon, 1, 1, area, [value]⟩) := by
  have hcrs : String.ofList ((pyUpper "EPSG:4326").toList.filter (· ≠ ' ')) = "EPSG:4326" := by
    decide +kernel
  have hname : ¬ ("EPSG:4326" ≠ "" ∧ "EPSG:4326" ∉ wgs84Names) := by decide
  have hgrid : gridBbox ⟨1, 1, some "EPSG:4326",
      some [area.minLon, area.minLat, area.maxLon, area.maxLat]⟩ bbox = .ok (area, false) := by
    simp only [gridBbox, Option.getD_some, hcrs, hname, ↓reduceIte]
  have hprobability : toProbability "risk" [value] = [value] := by
    have hlogits : ¬ ("risk" = "logits" ∨ "risk".endsWith "_logits") := by decide +kernel
    simp only [toProbability, hlogits, ↓reduceIte]
  simp [readResult, oneCell, readGrid, hgrid, hprobability, sliceFromGrid, pickChannel,
    hazardChannel, Except.mapError]

/-- The answer for 30 minutes is synthetic and all others are real. -/
noncomputable def mixedResult (horizon : ℤ) : PredictionResult ℝ :=
  oneCell ⟨36, 129, 37, 130⟩ (9 / 10) (if horizon = 30 then .synthetic else .real)

noncomputable def mixedServer : Predictor ℝ := fun request =>
  .ok (mixedResult (request.horizonMinutes.getD 0))

theorem readResult_mixedResult (hazard : String) (bbox : Bbox ℝ) (horizon : ℤ) :
    readResult hazard bbox horizon (mixedResult horizon) =
      (false, .ok ⟨horizon, 1, 1, ⟨36, 129, 37, 130⟩, [9 / 10]⟩) :=
  readResult_oneCell _ _ _ _ _ _

/-- The synthetic slice for 30 minutes counts because the one for 60 minutes is real. -/
theorem synthetic_slice_counts :
    ∃ out, hazardField mixedServer "wildfire" 36.4 129.1 [30, 60] none = .ok out ∧
      out.1.slices ≠ genuineSlices mixedServer "wildfire" 36.4 129.1 [30, 60] none := by
  have hrecipe : recipeForHazard "wildfire" = some .wildfireSpread := by decide
  have hsorted : sortedSet [30, 60] = [30, 60] := by decide
  have hends := hazardField_ends mixedServer "wildfire" 36.4 129.1 [30, 60] none
  have haccepted : acceptedResults mixedServer "wildfire" 36.4 129.1 [30, 60] none =
      [(⟨30, 1, 1, ⟨36, 129, 37, 130⟩, [9 / 10]⟩, mixedResult 30),
        (⟨60, 1, 1, ⟨36, 129, 37, 130⟩, [9 / 10]⟩, mixedResult 60)] := by
    simp [acceptedResults, hrecipe, hsorted, acceptedAt, answer, predictionRequest, mixedServer,
      acceptedSlice, readResult_mixedResult, Except.toOption]
  have hok : ∃ out, hazardField mixedServer "wildfire" 36.4 129.1 [30, 60] none = .ok out := by
    simp [hazardField, hrecipe, hsorted, readHorizon, predictionRequest, mixedServer]
  obtain ⟨out, hout⟩ := hok
  refine ⟨out, hout, ?_⟩
  rw [hends.of_ok hout, ne_eq, genuineSlices, gated_eq_iff, haccepted]
  intro h
  have h60 : (mixedResult 60).Genuine := by simp [mixedResult, oneCell, PredictionResult.Genuine]
  have h30 : (mixedResult 30).Genuine :=
    h _ (List.mem_cons_of_mem _ List.mem_cons_self) _ List.mem_cons_self h60
  simp [mixedResult, oneCell, PredictionResult.Genuine] at h30

noncomputable def realServer : Predictor ℝ := fun _ =>
  .ok (oneCell ⟨36, 129, 37, 130⟩ (9 / 10) .real)

/-- Where every prediction is real, all of them count. -/
theorem genuineSlices_iff_real_server :
    ∃ out, hazardField realServer "wildfire" 36.4 129.1 [30, 60] none = .ok out ∧
      out.1.slices = genuineSlices realServer "wildfire" 36.4 129.1 [30, 60] none ∧
      LegsIndependent realServer "wildfire" 36.4 129.1 [30, 60] none := by
  have hrecipe : recipeForHazard "wildfire" = some .wildfireSpread := by decide
  have hsorted : sortedSet [30, 60] = [30, 60] := by decide
  have hok : ∃ out, hazardField realServer "wildfire" 36.4 129.1 [30, 60] none = .ok out := by
    simp [hazardField, hrecipe, hsorted, readHorizon, predictionRequest, realServer]
  have haccepted : acceptedResults realServer "wildfire" 36.4 129.1 [30, 60] none =
      [(⟨30, 1, 1, ⟨36, 129, 37, 130⟩, [9 / 10]⟩, oneCell ⟨36, 129, 37, 130⟩ (9 / 10) .real),
        (⟨60, 1, 1, ⟨36, 129, 37, 130⟩, [9 / 10]⟩, oneCell ⟨36, 129, 37, 130⟩ (9 / 10) .real)] := by
    simp [acceptedResults, hrecipe, hsorted, acceptedAt, answer, predictionRequest, realServer,
      acceptedSlice, readResult_oneCell, Except.toOption]
  obtain ⟨out, hout⟩ := hok
  have hends := genuineSlices_iff realServer "wildfire" 36.4 129.1 [30, 60] none
  refine ⟨out, hout, (hends.of_ok hout).2 ?_⟩
  intro x _ y hy _
  rw [haccepted] at hy
  have hreal : y.2 = oneCell ⟨36, 129, 37, 130⟩ (9 / 10) .real := by
    simp only [List.mem_cons, List.not_mem_nil, or_false] at hy
    rcases hy with rfl | rfl <;> rfl
  simp [hreal, oneCell, PredictionResult.Genuine]

end Salgil
