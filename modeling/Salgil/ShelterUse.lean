import Salgil.AuditReplay
import Salgil.Evacuation
import Salgil.GuardedRun

namespace Salgil
set_option autoImplicit true
set_option linter.unusedSectionVars false

section
variable {K : Type} [Field K] [LinearOrder K] [IsStrictOrderedRing K] [FloorRing K] [MathLib K]

namespace Communities

/-- The shelters of a region, or all where none is given. -/
def sheltersIn (database : Database K) (regionCode : Option String) : List (Shelter K) :=
  match regionCode with
  | some region =>
    if region = "" then database.shelters
    else database.shelters.filter (·.regionCode = region)
  | none => database.shelters

/-- A shelter with its distance from a place, where both have coordinates. -/
def scored (lat lon : Option K) (shelter : Shelter K) : Shelter K × Option K :=
  match lat, lon, shelter.lat, shelter.lon with
  | some lat, some lon, some lat', some lon' =>
    (shelter, some (pyRound 3 (haversineKm lat lon lat' lon')))
  | _, _, _, _ => (shelter, none)

/-- `find_shelters`: without a place the shelters come by name. -/
def findShelters (database : Database K) (hazard : String) (regionCode : Option String)
    (lat lon : Option K) (limit : ℤ) : List (Shelter K × Option K) :=
  let usable := (sheltersIn database regionCode).filter (hazard ∈ ·.hazards)
  let scored := usable.map (scored lat lon)
  let sorted := match lat, lon with
    | some _, some _ => scored.insertionSort nearerShelter
    | _, _ => scored.insertionSort (·.1.name ≤ ·.1.name)
  pySliceTo sorted limit

variable {database : Database K} {hazard : String} {regionCode : Option String}
variable {lat lon : Option K} {limit : ℤ} {shelter : Shelter K} {found : Shelter K × Option K}

theorem mem_of_mem_sheltersIn (h : shelter ∈ sheltersIn database regionCode) :
    shelter ∈ database.shelters := by
  unfold sheltersIn at h
  split at h
  · split at h
    · exact h
    · exact List.mem_of_mem_filter h
  · exact h

theorem scored_fst (lat lon : Option K) (shelter : Shelter K) :
    (scored lat lon shelter).1 = shelter := by
  unfold scored
  split <;> rfl

theorem findShelters_lists (h : found ∈ findShelters database hazard regionCode lat lon limit) :
    found.1 ∈ database.shelters ∧ hazard ∈ found.1.hazards := by
  have hscored : found ∈
      ((sheltersIn database regionCode).filter (hazard ∈ ·.hazards)).map (scored lat lon) := by
    have hsorted := mem_of_mem_pySliceTo h
    split at hsorted <;> exact (List.mem_insertionSort _).1 hsorted
  obtain ⟨shelter, hshelter, rfl⟩ := List.mem_map.1 hscored
  obtain ⟨hmem, hlists⟩ := List.mem_filter.1 hshelter
  rw [scored_fst]
  exact ⟨mem_of_mem_sheltersIn hmem, by simpa using hlists⟩

end Communities

theorem findShelters_eq (database : Database K) (hazard : String) (regionCode : Option String)
    (lat lon : K) (limit : ℕ) : findShelters database hazard regionCode lat lon limit =
      Communities.findShelters database hazard regionCode (some lat) (some lon) limit := by
  rw [Communities.findShelters, pySliceTo_natCast]
  have hscored : Communities.scored (some lat) (some lon) = fun shelter : Shelter K =>
      match shelter.lat, shelter.lon with
      | some lat', some lon' => (shelter, some (pyRound 3 (haversineKm lat lon lat' lon')))
      | _, _ => (shelter, none) := by
    funext shelter
    unfold Communities.scored
    cases shelter.lat <;> cases shelter.lon <;> rfl
  rw [hscored]
  rfl

theorem candidateShelters_lists {database : Database K} {payload : RouteRequest K}
    {origin : RouteOrigin K} {candidates : List (Shelter K × Option K)}
    {candidate : Shelter K × Option K}
    (h : candidateShelters database payload origin = .ok candidates)
    (hcandidate : candidate ∈ candidates) :
    candidate.1 ∈ database.shelters ∧ payload.hazard ∈ candidate.1.hazards := by
  unfold candidateShelters at h
  split at h
  · cases h
    rw [findShelters_eq] at hcandidate
    exact Communities.findShelters_lists hcandidate
  · split at h
    · cases h
    · next shelter hfind =>
      split at h
      · cases h
      · next hlists =>
        have hshelter := List.mem_of_find?_eq_some hfind
        rw [not_not] at hlists
        split at h <;>
        · cases h
          rw [List.mem_singleton.1 hcandidate]
          exact ⟨hshelter, hlists⟩

theorem routeLeg_shelterId {fuel : ℕ} {graph : RoadGraph K} {payload : RouteRequest K}
    {origin : RouteOrigin K} {field : HazardField K} {candidate : Shelter K × Option K}
    {leg : RouteLeg K} (h : routeLeg fuel graph payload origin field candidate = .ok leg) :
    leg.shelterId = candidate.1.id := by
  obtain ⟨shelter, straightKm⟩ := candidate
  simp only [routeLeg] at h
  split at h
  · obtain ⟨result, -, h⟩ := bind_eq_ok.1 h
    cases h
    rfl
  · cases h
    rfl

theorem planEvacuation_candidates {fuel : ℕ} {services : Services K} {payload : RouteRequest K}
    {plan : RoutePlan K} (h : planEvacuation fuel services payload = .ok plan) :
    (∀ leg ∈ plan.routes, ∃ origin candidates candidate,
      candidateShelters services.database payload origin = .ok candidates ∧
        candidate ∈ candidates ∧ leg.shelterId = candidate.1.id) ∧
    ∀ id, plan.recommended = some id → ∃ leg ∈ plan.routes, leg.shelterId = id := by
  obtain ⟨graph, origin, candidates, limitation, warnings, -, -, hcandidates, -, hplan⟩ :=
    planEvacuation_ok h
  rcases hplan with ⟨text, -, -, hplan⟩ |
    ⟨field, accepted, fieldWarnings, legs, -, -, hlegs, hplan⟩
  · rw [hplan.routes, hplan.recommended]
    simp
  · constructor
    · intro leg hleg
      rw [hplan.routes, List.mem_insertionSort] at hleg
      obtain ⟨candidate, hcandidate, hrouted⟩ := mem_of_mapM_eq_ok hlegs hleg
      exact ⟨origin, candidates, candidate, hcandidates, hcandidate, routeLeg_shelterId hrouted⟩
    · intro id hid
      rw [hplan.recommended] at hid
      cases hroutes : plan.routes with
      | nil => simp [hroutes, recommendedShelter] at hid
      | cons leg routes =>
        refine ⟨leg, List.mem_cons_self, ?_⟩
        simp only [hroutes, recommendedShelter] at hid
        split at hid
        · exact Option.some.inj hid
        · cases hid

end

section
variable {K : Type} {db db' : Database K} {entry : Entry K} {entries : List (Entry K)}

/-- The shelter of an id lists the hazard. -/
def Database.serves (db : Database K) (shelterId : Uuid) (hazard : String) : Bool :=
  (db.shelters.find? (·.id = shelterId)).any (hazard ∈ ·.hazards)

/-- The shelters that plan items cite list the hazard of the incident. -/
def Database.Suited (db : Database K) : Prop :=
  ∀ item ∈ db.items, ∀ shelterId ∈ item.shelterId, ∀ plan ∈ db.plans, plan.id = item.planId →
    ∀ incident ∈ db.incidents, incident.id = plan.incidentId →
      db.serves shelterId incident.hazard = true

/-- A draft that is accepted cites only shelters that list the hazard of its incident. -/
def Fitting (db : Database K) (entry : Entry K) : Prop :=
  ∀ incidentId payload incident, entry.operation = .workflow (.createPlan incidentId payload) →
    Incidents.get db incidentId = .ok incident → Planning.validateItems db payload = .ok () →
    ∀ item ∈ payload.items, ∀ shelterId ∈ item.shelterId,
      db.serves shelterId incident.hazard = true

/-- The rows hang together, those of the shelters too. -/
structure Database.Sheltered (db : Database K) : Prop extends db.Linked where
  shelter_ids : (db.shelters.map (·.id)).Nodup
  shelter_lt : ∀ shelter ∈ db.shelters, shelter.id < db.nextId

/-- New shelters take new ids. -/
def SheltersGrow (db db' : Database K) : Prop :=
  db.nextId ≤ db'.nextId ∧ (db'.shelters = db.shelters ∨
    ∃ shelter, db'.shelters = db.shelters ++ [shelter] ∧ shelter.id = db.nextId ∧
      db.nextId < db'.nextId)

theorem Database.serves_iff {shelterId : Uuid} {hazard : String} :
    db.serves shelterId hazard = true ↔
      ∃ shelter, db.shelters.find? (·.id = shelterId) = some shelter ∧
        hazard ∈ shelter.hazards := by
  simp [serves, Option.any_eq_true]

theorem Database.Sheltered.serves (h : db.Sheltered) {shelter : Shelter K} {hazard : String}
    (hshelter : shelter ∈ db.shelters) (hlists : hazard ∈ shelter.hazards) :
    db.serves shelter.id hazard = true :=
  Database.serves_iff.2 ⟨shelter, find?_key h.shelter_ids hshelter, hlists⟩

theorem SheltersGrow.serves (h : SheltersGrow db db') {shelterId : Uuid} {hazard : String}
    (hserves : db.serves shelterId hazard = true) : db'.serves shelterId hazard = true := by
  obtain ⟨shelter, hfind, hlists⟩ := Database.serves_iff.1 hserves
  rw [Database.serves_iff]
  rcases h.2 with hsame | ⟨new, hnew, -⟩
  · rw [hsame]
    exact ⟨shelter, hfind, hlists⟩
  · rw [hnew, List.find?_append, hfind]
    exact ⟨shelter, rfl, hlists⟩

theorem SheltersGrow.sheltered (h : SheltersGrow db db') (hdb : db.Sheltered)
    (hlinked : db'.Linked) : db'.Sheltered := by
  obtain ⟨hnext, hsame | ⟨new, hnew, hid, hlt⟩⟩ := h
  · refine ⟨hlinked, hsame.symm ▸ hdb.shelter_ids, fun shelter hshelter => ?_⟩
    exact (hdb.shelter_lt shelter (hsame ▸ hshelter)).trans_le hnext
  · refine ⟨hlinked, ?_, fun shelter hshelter => ?_⟩
    · rw [hnew, List.map_append, List.nodup_append]
      refine ⟨hdb.shelter_ids, List.nodup_singleton _, ?_⟩
      intro id hold id' hid' heq
      obtain ⟨shelter, hshelter, rfl⟩ := List.mem_map.1 hold
      rw [List.map_singleton, List.mem_singleton, hid] at hid'
      exact (hdb.shelter_lt shelter hshelter).ne (heq.trans hid')
    · rw [hnew, List.mem_append, List.mem_singleton] at hshelter
      rcases hshelter with hshelter | rfl
      · exact (hdb.shelter_lt shelter hshelter).trans hlt
      · rwa [hid]

theorem Call.handle_shelters {call : Call K} (h : call.handle db = .ok db') :
    db'.shelters = db.shelters := by
  cases Call.handled h with
  | createPlan _ _ _ _ _ hcreate => rw [(Planning.create_eq_ok hcreate).2.1]
  | approvePlan _ _ _ _ happrove =>
    obtain ⟨plan, summary, -, -, -, rfl⟩ := Planning.approve_eq_ok happrove
    rfl
  | startContacts _ _ _ _ _ hstart =>
    obtain ⟨plan, summary, -, -, -, rfl⟩ := Contacts.startRound_eq_ok hstart
    rfl
  | updateContact _ _ _ _ hupdate =>
    obtain ⟨row, summary, -, rfl⟩ := Contacts.update_eq_ok hupdate
    rfl
  | createTask _ _ _ _ _ hcreate =>
    obtain ⟨summary, -, rfl⟩ := Tasks.create_eq_ok hcreate
    rfl
  | generateTasks incident _ _ hdb' =>
    subst hdb'
    rcases Tasks.createFromUnreachable_cases db call.now call.actor incident with
      heq | ⟨tasks, summary, -, heq⟩
    · rw [heq]
    · rw [heq]
      rfl
  | updateTask _ _ _ _ hupdate =>
    obtain ⟨task, summary, -, rfl | rfl⟩ := Tasks.update_eq_ok hupdate
    · rfl
    · rfl
  | submitReport _ _ _ _ hsubmit =>
    obtain ⟨task, row, reason, summary, replan, -, -, -, -, hkeeps, -, rfl⟩ :=
      Tasks.submitReport_eq_ok hsubmit
    have hshelters : replan.2.shelters = db.shelters := by
      rw [hkeeps]
      rfl
    exact hshelters

theorem Entry.handle_sheltersGrow (h : entry.handle db = .ok db') : SheltersGrow db db' := by
  refine ⟨Entry.handle_le_nextId h, ?_⟩
  cases Entry.handled h with
  | workflow _ _ hok => exact .inl (Call.handle_shelters hok)
  | declared _ _ _ _ _ _ hcreate =>
    obtain ⟨-, -, -, -, -, -, hdb, -⟩ := Incidents.create_eq_ok hcreate
    rw [hdb]
    exact .inl rfl
  | updated _ _ _ _ hupdate =>
    obtain ⟨target, summary, -, rfl | rfl⟩ := Incidents.update_eq_ok hupdate
    · exact .inl rfl
    · exact .inl rfl
  | declined _ hdb =>
    subst hdb
    exact .inl rfl
  | community payload _ hdb =>
    subst hdb
    exact .inl rfl
  | shelter payload _ hdb =>
    subst hdb
    exact .inr ⟨_, rfl, rfl, Nat.lt_succ_self _⟩

/-- The request drafts a plan, with these items. -/
def Entry.Drafts (entry : Entry K) (incidentId : Uuid) (payload : PlanCreate) : Prop :=
  entry.operation = .workflow (.createPlan incidentId payload)

theorem Effect.item_origin {request : Request K} (h : Effect db request db') {item : PlanItem}
    (hitem : item ∈ db'.items) : item ∈ db.items ∨ ∃ incidentId payload,
      request = .createPlan incidentId payload ∧ item.planId = db.nextId ∧
        ∃ given ∈ payload.items, item.shelterId = given.shelterId := by
  cases h with
  | drafted actor incident payload hrequest _ _ hitems =>
    rw [hitems, List.mem_append] at hitem
    rcases hitem with hold | hnew
    · exact .inl hold
    · obtain ⟨i, hi, rfl⟩ := List.mem_mapIdx.1 hnew
      exact .inr ⟨incident.id, payload, hrequest, rfl, _, List.getElem_mem hi, rfl⟩
  | approved _ _ _ _ _ _ _ _ hitems => exact .inl (hitems ▸ hitem)
  | invalidated _ _ _ _ _ hitems => exact .inl (hitems ▸ hitem)
  | contacted _ _ _ _ _ _ _ hitems => exact .inl (hitems ▸ hitem)
  | recorded _ _ _ _ hitems => exact .inl (hitems ▸ hitem)
  | unrelated _ hitems => exact .inl (hitems ▸ hitem)

/-- Where the plans, their items and the incidents of an operation come from. -/
structure Origins (db : Database K) (entry : Entry K) (db' : Database K) : Prop where
  plans : ∀ plan ∈ db'.plans,
    (∃ old ∈ db.plans, plan.id = old.id ∧ plan.incidentId = old.incidentId) ∨
      plan.id = db.nextId ∧ ∃ payload, entry.Drafts plan.incidentId payload
  items : ∀ item ∈ db'.items, item ∈ db.items ∨ ∃ incidentId payload,
    entry.Drafts incidentId payload ∧ item.planId = db.nextId ∧
      ∃ given ∈ payload.items, item.shelterId = given.shelterId
  incidents : ∀ incident ∈ db'.incidents,
    (∃ old ∈ db.incidents, incident.id = old.id ∧ incident.hazard = old.hazard) ∨
      incident.id = db.nextId

theorem Origins.of_same (hplans : db'.plans = db.plans) (hitems : db'.items = db.items)
    (hincidents : ∀ incident ∈ db'.incidents,
      (∃ old ∈ db.incidents, incident.id = old.id ∧ incident.hazard = old.hazard) ∨
        incident.id = db.nextId) : Origins db entry db' where
  plans plan hplan := .inl ⟨plan, hplans ▸ hplan, rfl, rfl⟩
  items _ hitem := .inl (hitems ▸ hitem)
  incidents := hincidents

theorem Entry.handle_origins (hdb : db.Sound) (h : entry.handle db = .ok db') :
    Origins db entry db' := by
  have hsame : ∀ incident ∈ db.incidents,
      (∃ old ∈ db.incidents, incident.id = old.id ∧ incident.hazard = old.hazard) ∨
        incident.id = db.nextId := fun incident hincident => .inl ⟨incident, hincident, rfl, rfl⟩
  cases Entry.handled h with
  | workflow request hoperation hok =>
    have heffect := Call.handle_effect hok
    refine ⟨fun plan hplan => ?_, fun item hitem => ?_, fun incident hincident => ?_⟩
    · rcases heffect.plan_origin hdb hplan with
        ⟨old, hold, hid, hi, -⟩ | ⟨payload, hrequest, hid, -⟩
      · exact .inl ⟨old, hold, hid, hi⟩
      · exact .inr ⟨hid, payload, hoperation.trans (congrArg _ hrequest)⟩
    · rcases heffect.item_origin hitem with hold | ⟨incidentId, payload, hrequest, hgiven⟩
      · exact .inl hold
      · exact .inr ⟨incidentId, payload, hoperation.trans (congrArg _ hrequest), hgiven⟩
    · rw [(Call.handle_logged hdb hok).incidents] at hincident
      exact hsame incident hincident
  | declared _ _ _ incident _ _ hcreate =>
    obtain ⟨hid, -, -, -, -, -, hdb', -⟩ := Incidents.create_eq_ok hcreate
    rw [hdb']
    refine .of_same rfl rfl fun row hrow => ?_
    rcases List.mem_append.1 hrow with hrow | hrow
    · exact hsame row hrow
    · rw [List.mem_singleton.1 hrow]
      exact .inr hid
  | updated _ _ _ _ hupdate =>
    obtain ⟨target, summary, -, rfl | rfl⟩ := Incidents.update_eq_ok hupdate
    · exact .of_same rfl rfl hsame
    · refine .of_same rfl rfl fun row hrow => ?_
      obtain ⟨old, hold, rfl⟩ := List.mem_map.1 hrow
      refine .inl ⟨old, hold, ?_⟩
      split <;> exact ⟨rfl, rfl⟩
  | declined _ hdb' =>
    subst hdb'
    exact .of_same rfl rfl hsame
  | community payload _ hdb' =>
    subst hdb'
    exact .of_same rfl rfl hsame
  | shelter payload _ hdb' =>
    subst hdb'
    exact .of_same rfl rfl hsame

theorem Entry.Drafts.handle_eq_ok {incidentId : Uuid} {payload : PlanCreate}
    (hdrafts : entry.Drafts incidentId payload) : entry.handle db = .ok db' ↔
      ∃ incident plan, Incidents.get db incidentId = .ok incident ∧
        Planning.create db entry.now entry.actor incident payload = .ok (plan, db') := by
  have hhandle : entry.handle db = (do
      let incident ← Incidents.get db incidentId
      return (← Planning.create db entry.now entry.actor incident payload).2) := by
    rw [Entry.handle, hdrafts]
    rfl
  rw [hhandle]
  constructor
  · intro h
    obtain ⟨incident, hget, h⟩ := bind_eq_ok.1 h
    obtain ⟨⟨plan, _⟩, hcreate, h⟩ := bind_eq_ok.1 h
    cases h
    exact ⟨incident, plan, hget, hcreate⟩
  · rintro ⟨incident, plan, hget, hcreate⟩
    rw [hget, ok_bind, hcreate]
    rfl

theorem Database.Suited.handle (hdb : db.Linked) (hsuited : db.Suited) (hfitting : Fitting db entry)
    (h : entry.handle db = .ok db') : db'.Suited := by
  have horigins := Entry.handle_origins hdb.sound h
  have hgrow := Entry.handle_sheltersGrow h
  intro item hitem shelterId hshelter plan hplan hof incident hincident hi
  rcases horigins.items item hitem with hold |
    ⟨incidentId, payload, hdrafts, hnew, given, hgiven, hgives⟩
  · -- the plan of an old item is old, and so is its incident
    have hlt : plan.id < db.nextId := hof ▸ hdb.sound.item_lt item hold
    rcases horigins.plans plan hplan with ⟨oldPlan, holdPlan, hid, hincidentId⟩ | ⟨hid, -⟩
    · rcases horigins.incidents incident hincident with ⟨row, hrow, hrowId, hhazard⟩ | hid'
      · rw [hhazard]
        exact hgrow.serves (hsuited item hold shelterId hshelter oldPlan holdPlan
          (hid.symm.trans hof) row hrow (hrowId.symm.trans (hi.trans hincidentId)))
      · obtain ⟨row, hrow, hrowId⟩ := hdb.plan_of oldPlan holdPlan
        have hne := (hdb.incident_lt row hrow).ne
        exact absurd (hrowId.trans (hincidentId.symm.trans (hi.symm.trans hid'))) hne
    · exact absurd hid hlt.ne
  · rcases horigins.plans plan hplan with ⟨oldPlan, holdPlan, hid, -⟩ | ⟨-, payload', hdrafts'⟩
    · have hne := (hdb.sound.plan_lt oldPlan holdPlan).ne
      exact absurd (hid.symm.trans (hof.trans hnew)) hne
    · obtain ⟨row, drafted, hget, hcreate⟩ := hdrafts.handle_eq_ok.1 h
      obtain ⟨hrow, hrowId⟩ := Incidents.get_mem hget
      have hsame : incidentId = plan.incidentId := by
        have heq := hdrafts.symm.trans hdrafts'
        simp only [Operation.workflow.injEq, Request.createPlan.injEq] at heq
        exact heq.1
      have hhazard : incident.hazard = row.hazard := by
        have hid : incident.id = row.id := hi.trans (hsame.symm.trans hrowId.symm)
        rcases horigins.incidents incident hincident with ⟨old, hold, holdId, hhazard⟩ | hid'
        · rw [hhazard, List.inj_on_of_nodup_map hdb.incident_ids hold hrow (holdId.symm.trans hid)]
        · exact absurd (hid.symm.trans hid') (hdb.incident_lt row hrow).ne
      rw [hhazard]
      rw [hgives] at hshelter
      exact hgrow.serves (hfitting incidentId payload row hdrafts hget
        (Planning.create_eq_ok hcreate).1 given hgiven shelterId hshelter)

theorem Database.Suited.fitting (hsuited : (perform db entry).Suited) : Fitting db entry := by
  intro incidentId payload incident hdrafts hget hvalid item hitem shelterId hshelter
  obtain ⟨plan, db', hcreate⟩ : ∃ plan db',
      Planning.create db entry.now entry.actor incident payload = .ok (plan, db') := by
    rw [Planning.create, hvalid]
    exact ⟨_, _, rfl⟩
  have hhandle : entry.handle db = .ok db' :=
    (Entry.Drafts.handle_eq_ok hdrafts).2 ⟨incident, plan, hget, hcreate⟩
  have hperform : perform db entry = db' := by rw [perform, hhandle]
  rw [hperform] at hsuited
  obtain ⟨hincident, -⟩ := Incidents.get_mem hget
  obtain ⟨-, hdb', -⟩ := Planning.create_eq_ok hcreate
  obtain ⟨index, hindex, rfl⟩ := List.getElem_of_mem hitem
  have hrow : payload.items[index].row (db.nextId + 1 + index) db.nextId index ∈ db'.items := by
    rw [hdb']
    exact List.mem_append_right _ (List.mem_mapIdx.2 ⟨index, hindex, rfl⟩)
  have hplan : superseding db incident.id db.nextId
      (Planning.draft db entry.actor incident payload) ∈ db'.plans := by
    rw [hdb']
    exact List.mem_map_of_mem (List.mem_append_right _ (List.mem_singleton_self _))
  obtain ⟨hplanId, hplanOf, -⟩ := superseding_key db incident.id db.nextId
    (Planning.draft db entry.actor incident payload)
  have hserves := hsuited _ hrow shelterId hshelter _ hplan hplanId incident
    (by rw [hdb']; exact hincident) hplanOf.symm
  rw [hdb'] at hserves
  exact hserves

/-- The steps that keep the shelters suited are just the fitting ones. -/
theorem suited_perform_iff (hdb : db.Linked) (hsuited : db.Suited) :
    (perform db entry).Suited ↔ Fitting db entry := by
  refine ⟨Database.Suited.fitting, fun hfitting => ?_⟩
  unfold perform
  split
  · next db' hhandle => exact hsuited.handle hdb hfitting hhandle
  · exact hsuited

theorem Database.Sheltered.perform (h : db.Sheltered) (entry : Entry K) :
    (perform db entry).Sheltered := by
  unfold Salgil.perform
  split
  · next db' hhandle =>
    exact (Entry.handle_sheltersGrow hhandle).sheltered h
      (Entry.handle_tells h.toLinked hhandle).1
  · exact h

end

section
variable {K : Type} [Field K] [LinearOrder K] [IsStrictOrderedRing K] [FloorRing K] [MathLib K]
variable {db : Database K}

/-- No part of the system pairs a shelter with a hazard that it does not list. -/
structure Database.NeverRepurposed (db : Database K) : Prop where
  found : ∀ hazard regionCode lat lon limit,
    ∀ result ∈ Communities.findShelters db hazard regionCode lat lon limit,
      result.1 ∈ db.shelters ∧ hazard ∈ result.1.hazards
  routed : ∀ fuel services payload plan, services.database = db →
    planEvacuation fuel services payload = .ok plan →
    (∀ leg ∈ plan.routes, db.serves leg.shelterId payload.hazard = true) ∧
      ∀ id, plan.recommended = some id → db.serves id payload.hazard = true
  drafted : db.Suited

theorem Database.Sheltered.neverRepurposed_iff (h : db.Sheltered) :
    db.NeverRepurposed ↔ db.Suited := by
  refine ⟨fun hnever => hnever.drafted, fun hsuited => ⟨?_, ?_, hsuited⟩⟩
  · intro hazard regionCode lat lon limit result hresult
    exact Communities.findShelters_lists hresult
  · rintro fuel services payload plan rfl hplan
    obtain ⟨hlegs, hrecommended⟩ := planEvacuation_candidates hplan
    have hserves : ∀ leg ∈ plan.routes,
        services.database.serves leg.shelterId payload.hazard = true := by
      intro leg hleg
      obtain ⟨origin, candidates, candidate, hcandidates, hcandidate, hid⟩ := hlegs leg hleg
      obtain ⟨hshelter, hlists⟩ := candidateShelters_lists hcandidates hcandidate
      rw [hid]
      exact h.serves hshelter hlists
    refine ⟨hserves, fun id hid => ?_⟩
    obtain ⟨leg, hleg, rfl⟩ := hrecommended id hid
    exact hserves leg hleg

/-- Villages and shelters are known, nothing has been declared yet. -/
structure Database.Seeded (db : Database K) : Prop extends db.Empty where
  shelter_ids : (db.shelters.map (·.id)).Nodup
  shelter_lt : ∀ shelter ∈ db.shelters, shelter.id < db.nextId

theorem Database.Seeded.sheltered (h : db.Seeded) : db.Sheltered where
  toLinked := .of_empty h.toEmpty
  shelter_ids := h.shelter_ids
  shelter_lt := h.shelter_lt

theorem Database.Empty.suited (h : db.Empty) : db.Suited := by
  intro item hitem
  rw [h.items] at hitem
  cases hitem

/-- In a run of operations no shelter is ever repurposed, if and only if no accepted draft of a
plan cites a shelter that does not list the hazard of the incident. -/
theorem never_repurposed_iff (h : db.Seeded) (entries : List (Entry K)) :
    Throughout perform Database.NeverRepurposed db entries ↔
      AllAllowed perform Fitting db entries := by
  refine throughout_iff_allAllowed (fun db entry (hdb : db.Sheltered) => hdb.perform entry)
    (fun db entry hdb hnever => ?_) h.sheltered
    (h.sheltered.neverRepurposed_iff.2 h.toEmpty.suited)
  rw [(hdb.perform entry).neverRepurposed_iff]
  exact suited_perform_iff hdb.toLinked hnever.drafted

end

theorem seeded_nil : ({} : Database ℝ).Seeded :=
  ⟨⟨⟨rfl, rfl, rfl, rfl, rfl⟩, rfl, rfl⟩, List.nodup_nil, by simp⟩

/-- A village, a shelter for these hazards, a wildfire and a plan that sends the village there. -/
def sheltering (hazards : List String) : List (Entry ℝ) :=
  [⟨"operator", 0, .createCommunity { regionCode := "47750", name := "상촌리" }⟩,
    ⟨"operator", 1, .createShelter { regionCode := "47750", name := "상촌초", hazards := hazards }⟩,
    ⟨"operator", 10, .declareIncident none fire⟩,
    ⟨"operator", 20, .workflow (.createPlan 2
      { items := [{ communityId := 0, shelterId := some 1 }], items_ok := by simp })⟩]

/-- The plan is drafted, although the shelter is not one for wildfires. -/
theorem earthquake_shelter_repurposed :
    ¬ Throughout perform Database.NeverRepurposed {} (sheltering ["earthquake"]) := by
  intro h
  have hsuited : (runEntries {} (sheltering ["earthquake"])).Suited :=
    (h _ [] (List.append_nil _).symm).drafted
  have hcited : ∃ item ∈ (runEntries {} (sheltering ["earthquake"])).items,
      ∃ plan ∈ (runEntries {} (sheltering ["earthquake"])).plans,
      ∃ incident ∈ (runEntries {} (sheltering ["earthquake"])).incidents,
        item.shelterId = some 1 ∧ plan.id = item.planId ∧ incident.id = plan.incidentId ∧
          (runEntries {} (sheltering ["earthquake"])).serves 1 incident.hazard = false := by
    decide
  obtain ⟨item, hitem, plan, hplan, incident, hincident, hshelter, hof, hi, hserves⟩ := hcited
  have hlists := hsuited item hitem 1 hshelter plan hplan hof incident hincident hi
  rw [hserves] at hlists
  cases hlists

theorem never_repurposed_wildfire_shelter :
    Throughout perform Database.NeverRepurposed {} (sheltering ["earthquake", "wildfire"]) ∧
      (runEntries {} (sheltering ["earthquake", "wildfire"])).items.map (·.shelterId) =
        [some 1] := by
  refine ⟨(never_repurposed_iff seeded_nil _).2 ?_, by decide⟩
  refine allAllowed_cons.2 ⟨?_, allAllowed_cons.2 ⟨?_, allAllowed_cons.2 ⟨?_, allAllowed_cons.2
    ⟨?_, allAllowed_nil⟩⟩⟩⟩
  · intro _ _ _ h
    cases h
  · intro _ _ _ h
    cases h
  · intro _ _ _ h
    cases h
  · intro _ _ incident h hget _ item hitem shelterId hshelter
    cases h
    cases hget
    obtain rfl := List.mem_singleton.1 hitem
    cases hshelter
    decide

end Salgil
