import Salgil.Spread

namespace Salgil
set_option autoImplicit true
set_option linter.unusedSectionVars false

/-- The grid is there with a value for each of its cells. -/
def PredictionResult.usableGrid (r : PredictionResult K) : Bool :=
  match r.grid, r.outputs with
  | some grid, tensor :: _ => grid.width * grid.height ≤ tensor.data.length
  | _, _ => false

/-- The values that a frame shows. -/
def PredictionResult.cells (r : PredictionResult K) : List K :=
  match r.grid, r.outputs with
  | some grid, tensor :: _ => pySliceTo tensor.data (grid.width * grid.height)
  | _, _ => []

/-- The id that the server gave a result, if it is one. -/
def PredictionResult.givenId (r : PredictionResult K) : Option Uuid128 :=
  (pyUuid r.predictionId).toOption

section
variable {K : Type u} [Field K] [LinearOrder K] [IsStrictOrderedRing K] [FloorRing K]

/-- No cell is beyond the range of binary32. -/
def PredictionResult.packs (r : PredictionResult K) : Bool :=
  r.cells.all fun value => (float32 value).isSome

variable {r : PredictionResult K} {window : SpreadWindow K} {hazard : String} {frame : Frame K}
variable {values : List K}

theorem packFloat_eq_ok {value cell : K} :
    packFloat value = .ok cell ↔ float32 value = some cell := by
  unfold packFloat
  cases float32 value <;> simp

theorem encodeValues_eq_ok {packed : List K} : encodeValues values = .ok packed ↔
    List.Forall₂ (fun value cell => float32 value = some cell) values packed := by
  simp only [encodeValues, mapM_eq_ok, packFloat_eq_ok]

theorem exists_encodeValues : (∃ packed, encodeValues values = .ok packed) ↔
    values.all (fun value => (float32 value).isSome) = true := by
  simp only [encodeValues_eq_ok]
  induction values with
  | nil => exact iff_of_true ⟨[], .nil⟩ rfl
  | cons value values ih =>
    rw [List.all_cons, Bool.and_eq_true, ← ih, Option.isSome_iff_exists]
    constructor
    · rintro ⟨packed, h⟩
      cases h with
      | cons hcell hcells => exact ⟨⟨_, hcell⟩, _, hcells⟩
    · rintro ⟨⟨cell, hcell⟩, packed, hcells⟩
      exact ⟨cell :: packed, .cons hcell hcells⟩

/-- What a frame shows of a result. -/
structure Frame.Of (frame : Frame K) (r : PredictionResult K) (window : SpreadWindow K)
    (hazard : String) : Prop where
  predictionId : frame.predictionId = r.predictionId
  hazard : frame.hazard = hazard
  horizonMinutes : frame.horizonMinutes = r.horizonMinutes.getD 0
  grid : ∃ grid, r.grid = some grid ∧ frame.width = grid.width ∧ frame.height = grid.height ∧
    frame.bbox = grid.bboxOr window
  values : List.Forall₂ (fun value cell => float32 value = some cell) r.cells frame.values

theorem frameFromResult_some (h : frameFromResult r window hazard = .ok (some frame)) :
    r.usableGrid = true ∧ frame.Of r window hazard := by
  unfold frameFromResult at h
  split at h
  · next grid tensor rest hgrid houtputs =>
    simp only at h
    split at h
    · cases h
    · next hlength =>
      obtain ⟨values, hvalues, h⟩ := bind_eq_ok.1 h
      cases h
      refine ⟨by simpa [PredictionResult.usableGrid, hgrid, houtputs] using hlength, rfl, rfl, rfl,
        ⟨grid, hgrid, rfl, rfl, rfl⟩, ?_⟩
      simp only [PredictionResult.cells, hgrid, houtputs]
      exact encodeValues_eq_ok.1 hvalues
  · cases h

/-- A result without a usable grid gives no frame, one with a usable grid gives a frame if its
cells can be packed. -/
theorem frameFromResult_eq (r : PredictionResult K) (window : SpreadWindow K) (hazard : String) :
    (r.usableGrid = false ∧ frameFromResult r window hazard = .ok none) ∨
    (r.usableGrid = true ∧ r.packs = true ∧
      ∃ frame, frameFromResult r window hazard = .ok (some frame)) ∨
    (r.usableGrid = true ∧ r.packs = false ∧
      ∃ e, frameFromResult r window hazard = .error e) := by
  unfold frameFromResult
  split
  · next grid tensor rest hgrid houtputs =>
    simp only [PredictionResult.usableGrid, PredictionResult.packs, PredictionResult.cells, hgrid,
      houtputs]
    split
    · next hlength => exact .inl ⟨by simpa using hlength, rfl⟩
    · next hlength =>
      right
      have husable : decide (grid.width * grid.height ≤ tensor.data.length) = true := by
        simpa using hlength
      cases hvalues : encodeValues (pySliceTo tensor.data (grid.width * grid.height)) with
      | ok values =>
        exact .inl ⟨husable, exists_encodeValues.1 ⟨values, hvalues⟩, _, rfl⟩
      | error e =>
        refine .inr ⟨husable, ?_, e, rfl⟩
        rw [← Bool.not_eq_true, ← exists_encodeValues, hvalues]
        simp
  · next hnone =>
    refine .inl ⟨?_, rfl⟩
    unfold PredictionResult.usableGrid
    split
    · next grid tensor rest hgrid houtputs => exact (hnone grid tensor rest hgrid houtputs).elim
    · rfl

theorem exists_frame_iff : (∃ frame, frameFromResult r window hazard = .ok (some frame)) ↔
    r.usableGrid = true ∧ r.packs = true := by
  rcases frameFromResult_eq r window hazard with
    ⟨husable, hframe⟩ | ⟨husable, hpacks, hframe⟩ | ⟨husable, hpacks, e, hframe⟩
  · simp [hframe, husable]
  · exact iff_of_true hframe ⟨husable, hpacks⟩
  · simp [hframe, hpacks]

end

namespace Predictions
variable {K : Type u} {store : RunStore K} {request : PredictionRequest K} {met : Encounter K}
variable {incidentId : Option Uuid128} {r : PredictionResult K} {e : PyError}

theorem id_resultRow (mode : String) (request : PredictionRequest K)
    (incidentId : Option Uuid128) (drawnId : Uuid128) (r : PredictionResult K) :
    (resultRow mode request incidentId drawnId r).id = r.givenId.getD drawnId := by
  unfold resultRow PredictionResult.givenId
  cases pyUuid r.predictionId <;> rfl

theorem run_cancelled (mode : String) (hincident : incidentUuid request = .ok incidentId)
    (hanswer : met.answer request = .cancelled) :
    run mode store request met = (.error .cancelled, store) := by
  simp only [run, hincident, hanswer]

theorem recordFailure_store (store : RunStore K) (row : PredictionRun K) (refused : Bool)
    (e : PyError) :
    (recordFailure store row refused e).2.broken = store.broken ∧
      (recordFailure store row refused e).2.flushed = store.flushed ∧
      ((recordFailure store row refused e).2.committed = store.committed ∨
        (recordFailure store row refused e).2.committed = store.committed ++ [row]) := by
  unfold recordFailure
  split
  · exact ⟨rfl, rfl, .inl rfl⟩
  · split
    · exact ⟨rfl, rfl, .inl rfl⟩
    · exact ⟨rfl, rfl, .inr rfl⟩

theorem run_error (mode : String) (store : RunStore K)
    (hincident : incidentUuid request = .ok incidentId)
    (hanswer : met.answer request = .error e) :
    ∃ e' store', run mode store request met = (.error (.exception e'), store') ∧
      store'.broken = store.broken ∧ store'.flushed = store.flushed ∧
      (store'.committed = store.committed ∨
        ∃ row, row.id = met.drawnId ∧ store'.committed = store.committed ++ [row]) := by
  have hfailed : ∀ detail e, ∃ e' store',
      (let failed := recordFailure store
        (failureRow mode request incidentId met.drawnId detail) met.refused e
      ((.error (.exception failed.1), failed.2) :
        Except Raised (PredictionResult K) × RunStore K)) = (.error (.exception e'), store') ∧
      store'.broken = store.broken ∧ store'.flushed = store.flushed ∧
      (store'.committed = store.committed ∨
        ∃ row, row.id = met.drawnId ∧ store'.committed = store.committed ++ [row]) := by
    intro detail e
    obtain ⟨hbroken, hflushed, hcommitted⟩ := recordFailure_store store
      (failureRow mode request incidentId met.drawnId detail) met.refused e
    exact ⟨_, _, rfl, hbroken, hflushed, hcommitted.imp_right fun h => ⟨_, rfl, h⟩⟩
  simp only [run, hincident, hanswer]
  split
  · next heq => cases heq
  · exact hfailed _ _
  · exact hfailed _ _
  · exact ⟨_, _, rfl, rfl, rfl, .inl rfl⟩
  · next heq => cases heq

theorem run_result (mode : String) (store : RunStore K)
    (hincident : incidentUuid request = .ok incidentId)
    (hanswer : met.answer request = .result r) :
    (store.broken = false ∧ met.refused = false ∧ r.givenId.getD met.drawnId ∉ store.ids ∧
      ∃ row, row.id = r.givenId.getD met.drawnId ∧
        run mode store request met = (.ok r, { store with flushed := store.flushed ++ [row] })) ∨
    ((store.broken = true ∨ met.refused = true ∨ r.givenId.getD met.drawnId ∈ store.ids) ∧
      ∃ e store', run mode store request met = (.error (.exception e), store') ∧
        store'.broken = true ∧ store'.committed = store.committed ∧
        ∀ row ∈ store'.flushed, row ∈ store.flushed) := by
  rw [← id_resultRow mode request incidentId met.drawnId r]
  simp only [run, hincident, hanswer, RunStore.flush]
  by_cases hbroken : store.broken = true
  · simp only [if_pos hbroken]
    exact .inr ⟨.inl hbroken, _, _, rfl, hbroken, rfl, fun row hrow => hrow⟩
  · by_cases hrefused : met.refused = true
    · simp only [if_neg hbroken, if_pos hrefused]
      exact .inr ⟨.inr (.inl hrefused), _, _, rfl, rfl, rfl, by simp⟩
    · by_cases hid : (resultRow mode request incidentId met.drawnId r).id ∈ store.ids
      · simp only [if_neg hbroken, if_neg hrefused, if_pos hid]
        exact .inr ⟨.inr (.inr hid), _, _, rfl, rfl, rfl, by simp⟩
      · simp only [if_neg hbroken, if_neg hrefused, if_neg hid]
        exact .inl ⟨by simpa using hbroken, by simpa using hrefused, hid, _, rfl, rfl⟩

end Predictions

section
variable {K : Type u} [Field K] [LinearOrder K] [IsStrictOrderedRing K] [FloorRing K] [MathLib K]

namespace SpreadCall

/-- The answer for a horizon, if the schema accepts it. -/
def answerTo (call : SpreadCall K) (recipe : Recipe) (round : SpreadRound K) : Option (Answer K) :=
  (call.request recipe round.1).toOption.map round.2.answer

def resultOf (call : SpreadCall K) (recipe : Recipe) (round : SpreadRound K) :
    Option (PredictionResult K) :=
  match call.answerTo recipe round with
  | some (.result r) => some r
  | _ => none

/-- The id that the server gave the result of a horizon, if it is one. -/
def givenTo (call : SpreadCall K) (recipe : Recipe) (round : SpreadRound K) : Option Uuid128 :=
  (call.resultOf recipe round).bind (·.givenId)

/-- The row of every result could be stored: the database refused none, and no id came twice. -/
structure Clean (call : SpreadCall K) (recipe : Recipe) (committed : List (PredictionRun K))
    (rounds : List (SpreadRound K)) : Prop where
  accepted : ∀ round ∈ rounds, (call.resultOf recipe round).isSome → round.2.refused = false
  new : ∀ id ∈ rounds.filterMap (call.givenTo recipe), id ∉ committed.map (·.id)
  distinct : (rounds.filterMap (call.givenTo recipe)).Nodup

/-- `uuid4` draws ids that are nowhere else. -/
structure DrawsNew (call : SpreadCall K) (recipe : Recipe) (committed : List (PredictionRun K))
    (rounds : List (SpreadRound K)) : Prop where
  nodup : (rounds.map (·.2.drawnId)).Nodup
  stored : ∀ round ∈ rounds, round.2.drawnId ∉ committed.map (·.id)
  given : ∀ round ∈ rounds, round.2.drawnId ∉ rounds.filterMap (call.givenTo recipe)

/-- The incident id is none or readable, as the endpoint passes it. -/
def IncidentReadable (call : SpreadCall K) : Prop := ∀ text ∈ call.incidentId, isUuid text = true

/-- The round raises an error that the loop does not catch. -/
def Halts (call : SpreadCall K) (recipe : Recipe) (committed : List (PredictionRun K))
    (done : List (SpreadRound K)) (round : SpreadRound K) : Prop :=
  match call.answerTo recipe round with
  | none | some .cancelled => True
  | some (.error _) => False
  | some (.result r) => call.Clean recipe committed (done ++ [round]) ∧ r.usableGrid = true ∧
      r.packs = false

/-- The round publishes a frame. -/
def Shows (call : SpreadCall K) (recipe : Recipe) (committed : List (PredictionRun K))
    (done : List (SpreadRound K)) (round : SpreadRound K) (frame : Frame K) : Prop :=
  ∃ r, call.resultOf recipe round = some r ∧ call.Clean recipe committed (done ++ [round]) ∧
    frameFromResult r call.window call.hazard = .ok (some frame)

/-- What the store holds after some rounds: the ids of their results, and perhaps drawn ones. -/
structure Held (call : SpreadCall K) (recipe : Recipe) (committed : List (PredictionRun K))
    (done : List (SpreadRound K)) (store : RunStore K) : Prop where
  broken : store.broken = true ↔ ¬ call.Clean recipe committed done
  ids : ∀ id ∈ store.ids, id ∈ committed.map (·.id) ∨ id ∈ done.map (·.2.drawnId) ∨
    id ∈ done.filterMap (call.givenTo recipe)
  kept : store.broken = false → ∀ id, id ∈ committed.map (·.id) ∨
    id ∈ done.filterMap (call.givenTo recipe) → id ∈ store.ids

end SpreadCall

end

section
variable {K : Type u} [Field K] [LinearOrder K] [IsStrictOrderedRing K] [FloorRing K] [MathLib K]
variable {call : SpreadCall K} {recipe : Recipe} {committed : List (PredictionRun K)}
variable {done rounds : List (SpreadRound K)} {round : SpreadRound K} {store store' : RunStore K}
variable {request : PredictionRequest K} {r : PredictionResult K} {mode : String}

namespace SpreadCall

theorem clean_nil : call.Clean recipe committed [] where
  accepted := by simp
  new := by simp
  distinct := by simp

theorem clean_append : call.Clean recipe committed (done ++ [round]) ↔
    call.Clean recipe committed done ∧
      ((call.resultOf recipe round).isSome → round.2.refused = false) ∧
      ∀ id ∈ call.givenTo recipe round, id ∉ committed.map (·.id) ∧
        id ∉ done.filterMap (call.givenTo recipe) := by
  have hfilter : (done ++ [round]).filterMap (call.givenTo recipe) =
      done.filterMap (call.givenTo recipe) ++ (call.givenTo recipe round).toList := by
    rw [List.filterMap_append]
    cases h : call.givenTo recipe round <;> simp [h]
  constructor
  · rintro ⟨haccepted, hnew, hdistinct⟩
    rw [hfilter] at hnew hdistinct
    obtain ⟨hdone, -, hdisjoint⟩ := List.nodup_append.1 hdistinct
    refine ⟨⟨fun x hx => haccepted x (List.mem_append_left _ hx),
      fun id hid => hnew id (List.mem_append_left _ hid), hdone⟩,
      haccepted round (by simp), fun id hid => ⟨hnew id ?_, fun hmem => ?_⟩⟩
    · exact List.mem_append_right _ (Option.mem_toList.2 hid)
    · exact hdisjoint id hmem id (Option.mem_toList.2 hid) rfl
  · rintro ⟨⟨haccepted, hnew, hdistinct⟩, hround, hgiven⟩
    refine ⟨fun x hx => ?_, ?_, ?_⟩
    · rcases List.mem_append.1 hx with hx | hx
      · exact haccepted x hx
      · rw [List.mem_singleton.1 hx]
        exact hround
    · rw [hfilter]
      intro id hid
      rcases List.mem_append.1 hid with hid | hid
      · exact hnew id hid
      · exact (hgiven id (Option.mem_toList.1 hid)).1
    · rw [hfilter, List.nodup_append]
      refine ⟨hdistinct, ?_, fun id hid id' hid' heq => ?_⟩
      · cases call.givenTo recipe round <;> simp
      · subst heq
        exact (hgiven id (Option.mem_toList.1 hid')).2 hid

theorem clean_append_of_none (h : call.resultOf recipe round = none) :
    call.Clean recipe committed (done ++ [round]) ↔ call.Clean recipe committed done := by
  rw [clean_append]
  simp [givenTo, h]

theorem answerTo_eq (h : call.request recipe round.1 = .ok request) :
    call.answerTo recipe round = some (round.2.answer request) := by
  simp [answerTo, h, Except.toOption]

theorem incidentUuid_request (hcall : call.IncidentReadable)
    (h : call.request recipe round.1 = .ok request) :
    ∃ incidentId, Predictions.incidentUuid request = .ok incidentId := by
  unfold SpreadCall.request at h
  split at h
  · cases h
    simp only [Predictions.incidentUuid]
    split
    · exact ⟨_, rfl⟩
    · next text htext =>
      split
      · exact ⟨_, rfl⟩
      · obtain ⟨value, hvalue⟩ := isUuid_iff.1 (hcall text htext)
        exact ⟨some value, by rw [hvalue]; rfl⟩
  · cases h

theorem DrawsNew.left (h : call.DrawsNew recipe committed (done ++ rounds)) :
    call.DrawsNew recipe committed done := by
  obtain ⟨hnodup, hstored, hgiven⟩ := h
  rw [List.map_append] at hnodup
  refine ⟨(List.nodup_append.1 hnodup).1, fun x hx => hstored x (List.mem_append_left _ hx),
    fun x hx hmem => hgiven x (List.mem_append_left _ hx) ?_⟩
  rw [List.filterMap_append]
  exact List.mem_append_left _ hmem

namespace Held

theorem nil : call.Held recipe committed [] { committed := committed } where
  broken := by simp [clean_nil]
  ids := by simp [RunStore.ids]
  kept := by simp [RunStore.ids]

theorem error (h : call.Held recipe committed done store)
    (hresult : call.resultOf recipe round = none) (hbroken : store'.broken = store.broken)
    (hflushed : store'.flushed = store.flushed)
    (hcommitted : store'.committed = store.committed ∨
      ∃ row, row.id = round.2.drawnId ∧ store'.committed = store.committed ++ [row]) :
    call.Held recipe committed (done ++ [round]) store' := by
  have hgiven : (done ++ [round]).filterMap (call.givenTo recipe) =
      done.filterMap (call.givenTo recipe) := by
    simp [List.filterMap_append, givenTo, hresult]
  have hids : ∀ id, id ∈ store'.ids → id ∈ store.ids ∨ id = round.2.drawnId := by
    intro id hid
    rw [RunStore.ids, hflushed] at hid
    rcases hcommitted with hsame | ⟨row, hrow, hnew⟩
    · rw [hsame] at hid
      exact .inl hid
    · rw [hnew] at hid
      simp only [List.map_append, List.mem_append, List.map_cons, List.map_nil,
        List.mem_singleton] at hid
      rcases hid with (hid | hid) | hid
      · exact .inl (List.mem_append_left _ hid)
      · exact .inr (hid.trans hrow)
      · exact .inl (List.mem_append_right _ hid)
  have hkept : ∀ id, id ∈ store.ids → id ∈ store'.ids := by
    intro id hid
    rw [RunStore.ids, hflushed]
    rcases List.mem_append.1 hid with hid | hid
    · refine List.mem_append_left _ ?_
      rcases hcommitted with hsame | ⟨row, -, hnew⟩
      · rwa [hsame]
      · rw [hnew, List.map_append]
        exact List.mem_append_left _ hid
    · exact List.mem_append_right _ hid
  refine ⟨?_, fun id hid => ?_, fun hok id hid => ?_⟩
  · rw [hbroken, h.broken, clean_append_of_none hresult]
  · rw [hgiven, List.map_append, List.mem_append]
    rcases hids id hid with hid | hid
    · rcases h.ids id hid with hid | hid | hid
      · exact .inl hid
      · exact .inr (.inl (.inl hid))
      · exact .inr (.inr hid)
    · exact .inr (.inl (.inr (List.mem_singleton.2 hid)))
  · rw [hgiven] at hid
    exact hkept id (h.kept (hbroken ▸ hok) id hid)

theorem flushed {row : PredictionRun K} (h : call.Held recipe committed done store)
    (hresult : call.resultOf recipe round = some r)
    (hclean : call.Clean recipe committed (done ++ [round])) (hbroken : store.broken = false)
    (hrow : row.id = r.givenId.getD round.2.drawnId) :
    call.Held recipe committed (done ++ [round])
      { store with flushed := store.flushed ++ [row] } := by
  have hgiven : (done ++ [round]).filterMap (call.givenTo recipe) =
      done.filterMap (call.givenTo recipe) ++ r.givenId.toList := by
    cases hid : r.givenId <;> simp [List.filterMap_append, givenTo, hresult, hid]
  have hids : ∀ id, id ∈ RunStore.ids { store with flushed := store.flushed ++ [row] } ↔
      id ∈ store.ids ∨ id = r.givenId.getD round.2.drawnId := by
    intro id
    simp only [RunStore.ids, List.map_append, List.mem_append, List.map_cons, List.map_nil,
      List.mem_singleton, hrow, or_assoc]
  refine ⟨iff_of_false ?_ (not_not.2 hclean), fun id hid => ?_, fun _ id hid => ?_⟩
  · simp [hbroken]
  · rw [hgiven, List.map_append, List.mem_append, List.mem_append]
    rcases (hids id).1 hid with hid | hid
    · rcases h.ids id hid with hid | hid | hid
      · exact .inl hid
      · exact .inr (.inl (.inl hid))
      · exact .inr (.inr (.inl hid))
    · cases hr : r.givenId with
      | none =>
        rw [hr] at hid
        exact .inr (.inl (.inr (List.mem_singleton.2 hid)))
      | some given =>
        rw [hr] at hid
        exact .inr (.inr (.inr (by simpa using hid)))
  · rw [hids]
    rw [hgiven, List.mem_append] at hid
    rcases hid with hid | hid | hid
    · exact .inl (h.kept hbroken id (.inl hid))
    · exact .inl (h.kept hbroken id (.inr hid))
    · right
      rw [Option.mem_toList.1 hid]
      rfl

theorem lost (h : call.Held recipe committed done store)
    (hnot : ¬ call.Clean recipe committed (done ++ [round])) (hbroken : store'.broken = true)
    (hcommitted : store'.committed = store.committed)
    (hflushed : ∀ row ∈ store'.flushed, row ∈ store.flushed) :
    call.Held recipe committed (done ++ [round]) store' := by
  refine ⟨iff_of_true hbroken hnot, fun id hid => ?_, fun hok => ?_⟩
  · have hold : id ∈ store.ids := by
      rw [RunStore.ids, hcommitted] at hid
      rcases List.mem_append.1 hid with hid | hid
      · exact List.mem_append_left _ hid
      · obtain ⟨row, hrow, rfl⟩ := List.mem_map.1 hid
        exact List.mem_append_right _ (List.mem_map_of_mem (hflushed row hrow))
    rw [List.map_append, List.mem_append, List.filterMap_append, List.mem_append]
    rcases h.ids id hold with hid | hid | hid
    · exact .inl hid
    · exact .inr (.inl (.inl hid))
    · exact .inr (.inr (.inl hid))
  · rw [hbroken] at hok
    cases hok

theorem storable_iff (h : call.Held recipe committed done store)
    (hdraws : call.DrawsNew recipe committed (done ++ [round]))
    (hresult : call.resultOf recipe round = some r) :
    (store.broken = false ∧ round.2.refused = false ∧
      r.givenId.getD round.2.drawnId ∉ store.ids) ↔
      call.Clean recipe committed (done ++ [round]) := by
  have hgiven : call.givenTo recipe round = r.givenId := by simp [givenTo, hresult]
  have hfilter : (done ++ [round]).filterMap (call.givenTo recipe) =
      done.filterMap (call.givenTo recipe) ++ r.givenId.toList := by
    cases hid : r.givenId <;> simp [List.filterMap_append, hgiven, hid]
  have hround : round ∈ done ++ [round] := List.mem_append_right _ (List.mem_singleton_self _)
  have hdone : round.2.drawnId ∉ done.map (·.2.drawnId) := by
    have hnodup := hdraws.nodup
    rw [List.map_append, List.nodup_append] at hnodup
    intro hmem
    exact hnodup.2.2 _ hmem _ (List.mem_singleton_self _) rfl
  rw [clean_append, hgiven, hresult]
  constructor
  · rintro ⟨hbroken, hrefused, hnew⟩
    refine ⟨?_, fun _ => hrefused, fun id hid => ?_⟩
    · by_contra hnot
      rw [h.broken.2 hnot] at hbroken
      cases hbroken
    · rw [Option.mem_def.1 hid] at hnew
      exact ⟨fun hmem => hnew (h.kept hbroken id (.inl hmem)),
        fun hmem => hnew (h.kept hbroken id (.inr hmem))⟩
  · rintro ⟨hclean, hrefused, hids⟩
    refine ⟨?_, hrefused rfl, fun hmem => ?_⟩
    · cases hbroken : store.broken with
      | false => rfl
      | true => exact absurd hclean (h.broken.1 hbroken)
    · cases hr : r.givenId with
      | none =>
        rw [hr] at hmem
        rcases h.ids _ hmem with hmem | hmem | hmem
        · exact hdraws.stored round hround hmem
        · exact hdone hmem
        · refine hdraws.given round hround ?_
          rw [hfilter]
          exact List.mem_append_left _ hmem
      | some id =>
        rw [hr] at hmem hids
        obtain ⟨hstored, hearlier⟩ := hids id rfl
        rcases h.ids _ hmem with hmem | hmem | hmem
        · exact hstored hmem
        · obtain ⟨x, hx, hxid⟩ := List.mem_map.1 hmem
          refine hdraws.given x (List.mem_append_left _ hx) ?_
          rw [hfilter, hr, hxid]
          exact List.mem_append_right _ (by simp)
        · exact hearlier hmem

end Held

end SpreadCall

/-- How a round may end, by what it meets and what the rounds before it met. -/
inductive RoundEnds (call : SpreadCall K) (recipe : Recipe) (committed : List (PredictionRun K))
    (done : List (SpreadRound K)) (state : SpreadState K) (round : SpreadRound K) :
    SpreadState K × Option Raised → Prop where
  | halted (state' : SpreadState K) (raised : Raised) : call.Halts recipe committed done round →
      state'.published = state.published →
      RoundEnds call recipe committed done state round (state', some raised)
  | shown (state' : SpreadState K) (frame : Frame K) : ¬ call.Halts recipe committed done round →
      call.Shows recipe committed done round frame →
      call.Held recipe committed (done ++ [round]) state'.store →
      state'.published = state.published ++ [⟨.frame frame, call.incidentId⟩] →
      state'.sent = state.sent + 1 →
      RoundEnds call recipe committed done state round (state', none)
  | silent (state' : SpreadState K) : ¬ call.Halts recipe committed done round →
      (∀ frame, ¬ call.Shows recipe committed done round frame) →
      call.Held recipe committed (done ++ [round]) state'.store →
      state'.published = state.published → state'.sent = state.sent →
      RoundEnds call recipe committed done state round (state', none)

namespace SpreadCall

theorem answerTo_of_resultOf {r : PredictionResult K} (h : call.resultOf recipe round = some r) :
    call.answerTo recipe round = some (.result r) := by
  unfold resultOf at h
  split at h
  · next heq =>
    obtain rfl := Option.some.inj h
    exact heq
  · cases h

theorem halts_iff (h : call.resultOf recipe round = some r) :
    call.Halts recipe committed done round ↔ call.Clean recipe committed (done ++ [round]) ∧
      r.usableGrid = true ∧ r.packs = false := by
  rw [Halts, answerTo_of_resultOf h]

theorem shows_iff (h : call.resultOf recipe round = some r) {frame : Frame K} :
    call.Shows recipe committed done round frame ↔
      call.Clean recipe committed (done ++ [round]) ∧
        frameFromResult r call.window call.hazard = .ok (some frame) := by
  simp only [Shows, h, Option.some.injEq, exists_eq_left']

theorem not_shows_of_none (h : call.resultOf recipe round = none) (frame : Frame K) :
    ¬ call.Shows recipe committed done round frame := by
  rintro ⟨r, hr, -⟩
  rw [h] at hr
  cases hr

end SpreadCall

theorem spreadRound_ends_result (mode : String) {state : SpreadState K}
    {incidentId : Option Uuid128} (hheld : call.Held recipe committed done state.store)
    (hdraws : call.DrawsNew recipe committed (done ++ [round]))
    (hrequest : call.request recipe round.1 = .ok request)
    (hincident : Predictions.incidentUuid request = .ok incidentId)
    (hanswer : round.2.answer request = .result r) :
    RoundEnds call recipe committed done state round
      (spreadRound mode call recipe state round) := by
  have hresult : call.resultOf recipe round = some r := by
    simp [SpreadCall.resultOf, SpreadCall.answerTo_eq hrequest, hanswer]
  have hstorable := hheld.storable_iff hdraws hresult
  have hhalts : call.Halts recipe committed done round ↔ _ := SpreadCall.halts_iff hresult
  simp only [spreadRound, hrequest]
  rcases Predictions.run_result mode state.store hincident hanswer with
    ⟨hbroken, hrefused, hid, row, hrow, hrun⟩ |
    ⟨hnot, e, store', hrun, hbroken, hcommitted, hflushed⟩
  · have hclean := hstorable.1 ⟨hbroken, hrefused, hid⟩
    have hheld' := hheld.flushed hresult hclean hbroken hrow
    rw [hrun]
    simp only
    rcases frameFromResult_eq r call.window call.hazard with
      ⟨husable, hframe⟩ | ⟨husable, hpacks, frame, hframe⟩ | ⟨husable, hpacks, e, hframe⟩
    · rw [hframe]
      refine .silent _ ?_ (fun frame => ?_) hheld' rfl rfl
      · simp [hhalts, husable]
      · simp [SpreadCall.shows_iff hresult, hframe]
    · rw [hframe]
      refine .shown _ frame ?_ ?_ hheld' rfl rfl
      · simp [hhalts, hpacks]
      · exact (SpreadCall.shows_iff hresult).2 ⟨hclean, hframe⟩
    · rw [hframe]
      exact .halted _ _ (hhalts.2 ⟨hclean, husable, hpacks⟩) rfl
  · have hdirty : ¬ call.Clean recipe committed (done ++ [round]) := by
      rw [← hstorable]
      rintro ⟨hok, hrefused, hid⟩
      rcases hnot with hnot | hnot | hnot
      · rw [hok] at hnot
        cases hnot
      · rw [hrefused] at hnot
        cases hnot
      · exact hid hnot
    rw [hrun]
    refine .silent _ ?_ (fun frame => ?_) (hheld.lost hdirty hbroken hcommitted hflushed) rfl rfl
    · simp [hhalts, hdirty]
    · simp [SpreadCall.shows_iff hresult, hdirty]

theorem spreadRound_ends (mode : String) {state : SpreadState K} (hcall : call.IncidentReadable)
    (hheld : call.Held recipe committed done state.store)
    (hdraws : call.DrawsNew recipe committed (done ++ [round])) :
    RoundEnds call recipe committed done state round
      (spreadRound mode call recipe state round) := by
  cases hrequest : call.request recipe round.1 with
  | error e =>
    have hround : spreadRound mode call recipe state round = (state, some (.exception e)) := by
      rw [spreadRound, hrequest]
    rw [hround]
    refine .halted _ _ ?_ rfl
    simp [SpreadCall.Halts, SpreadCall.answerTo, hrequest, Except.toOption]
  | ok request =>
    obtain ⟨incidentId, hincident⟩ := SpreadCall.incidentUuid_request hcall hrequest
    have hanswerTo := SpreadCall.answerTo_eq hrequest
    cases hanswer : round.2.answer request with
    | cancelled =>
      rw [hanswer] at hanswerTo
      simp only [spreadRound, hrequest, Predictions.run_cancelled mode hincident hanswer]
      refine .halted _ _ ?_ rfl
      simp [SpreadCall.Halts, hanswerTo]
    | error e =>
      rw [hanswer] at hanswerTo
      obtain ⟨e', store', hrun, hbroken, hflushed, hcommitted⟩ :=
        Predictions.run_error mode state.store hincident hanswer
      simp only [spreadRound, hrequest, hrun]
      have hresult : call.resultOf recipe round = none := by
        simp [SpreadCall.resultOf, hanswerTo]
      refine .silent _ ?_ (SpreadCall.not_shows_of_none hresult)
        (hheld.error hresult hbroken hflushed hcommitted) rfl rfl
      simp [SpreadCall.Halts, hanswerTo]
    | result r => exact spreadRound_ends_result mode hheld hdraws hrequest hincident hanswer

end

end Salgil
