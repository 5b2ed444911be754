import Salgil.PlanVersions

namespace Salgil
set_option autoImplicit true

/-- What the request gave for an item. -/
def PlanItem.given (item : PlanItem) : PlanItemIn where
  communityId := item.communityId
  shelterId := item.shelterId
  residents := item.residents
  transport := item.transport
  action := item.action
  rationale := item.rationale

section
variable {K : Type} {db db' : Database K} {calls : List (Call K)} {call : Call K}
variable {p p' : EvacuationPlan} {row row' : ContactAttempt}

/-- The versions of an incident are 1 to n, each superseded by the next, and the last is the
current plan. -/
def Database.VersionsInOrder (db : Database K) (incidentId : Uuid) : Prop :=
  ∃ n, (db.plansOf incidentId).map (·.version) = List.range' 1 n ∧
    (∀ p ∈ db.plansOf incidentId, p.version < n → p.status = .superseded ∧
      ∃ q ∈ db.plansOf incidentId, q.version = p.version + 1 ∧ p.supersededBy = some q.id) ∧
    ∀ p ∈ db.plansOf incidentId, p.version = n → p.status ≠ .superseded ∧
      Planning.currentPlan db incidentId = some p

/-- A request of the run drafted the plan, and the plan carries its items in their order. -/
def Drafted (db : Database K) (calls : List (Call K)) (p : EvacuationPlan) : Prop :=
  ∃ before call after payload, calls = before ++ call :: after ∧
    call.request = .createPlan p.incidentId payload ∧
    (∀ q ∈ (runCalls db before).plans, q.id ≠ p.id) ∧
    (∃ q ∈ (runCalls db (before ++ [call])).plans, q.id = p.id) ∧
    (payload.items.map (·.communityId)).Nodup ∧
    ((runCalls db calls).planItems p.id).map (·.orderIndex) = List.range payload.items.length ∧
    ((runCalls db calls).planItems p.id).map (·.given) = payload.items

/-- A request of the run made the contact while its plan was the current one and approved. -/
def Contacted (db : Database K) (calls : List (Call K)) (row : ContactAttempt) : Prop :=
  ∃ before call after payload plan, calls = before ++ call :: after ∧
    call.request = .startContacts row.incidentId payload ∧
    Planning.currentPlan (runCalls db before) row.incidentId = some plan ∧
    plan.status = .approved ∧ row.planId = some plan.id ∧
    (∀ r ∈ (runCalls db before).contacts, r.id ≠ row.id) ∧
    ∃ r ∈ (runCalls db (before ++ [call])).contacts, r.id = row.id

theorem runCalls_append (db : Database K) (calls : List (Call K)) (call : Call K) :
    runCalls db (calls ++ [call]) = execute (runCalls db calls) call := by
  simp [runCalls, List.foldl_append]

theorem Database.Sound.run (h : db.Sound) (calls : List (Call K)) : (runCalls db calls).Sound := by
  induction calls generalizing db with
  | nil => exact h
  | cons call calls ih => exact ih (h.effect (execute_effect db call))

theorem Database.Versioned.inOrder (h : db.Versioned) (incidentId : Uuid) :
    db.VersionsInOrder incidentId := by
  refine ⟨(db.plansOf incidentId).length, h.versions incidentId, ?_, ?_⟩
  · intro p hp hlt
    obtain ⟨hmem, rfl⟩ := mem_plansOf.1 hp
    obtain ⟨q, hq, hi, hv⟩ := h.exists_version (i := p.incidentId) (v := p.version + 1)
      (by omega) (by omega)
    obtain ⟨hstatus, hby⟩ := h.succeeded p hmem q hq hi hv
    exact ⟨hstatus, q, mem_plansOf.2 ⟨hq, hi⟩, hv, hby⟩
  · intro p hp hlast
    obtain ⟨hmem, rfl⟩ := mem_plansOf.1 hp
    exact ⟨h.live p hmem hlast, h.currentPlan_eq_some.2 ⟨hmem, rfl, hlast⟩⟩

theorem map_given (items : List PlanItemIn) (m n : ℕ) :
    (items.mapIdx fun index item => item.row (m + index) n index).map (·.given) = items := by
  apply List.ext_getElem <;> simp [PlanItemIn.row, PlanItem.given]

theorem Effect.plan_origin {request : Request K} (h : Effect db request db') (hdb : db.Sound)
    (hp : p' ∈ db'.plans) :
    (∃ p ∈ db.plans, p'.id = p.id ∧ p'.incidentId = p.incidentId ∧
      db'.planItems p.id = db.planItems p.id) ∨
    ∃ payload, request = .createPlan p'.incidentId payload ∧ p'.id = db.nextId ∧
      (payload.items.map (·.communityId)).Nodup ∧
      db'.planItems p'.id = payload.items.mapIdx fun index item =>
        item.row (db.nextId + 1 + index) db.nextId index := by
  have hkept : ∀ {id : Uuid} {write : EvacuationPlan → EvacuationPlan},
      db'.plans = (db.updatePlan id write).plans →
      (∀ p, (write p).id = p.id ∧ (write p).incidentId = p.incidentId) → db'.items = db.items →
      ∃ p ∈ db.plans, p'.id = p.id ∧ p'.incidentId = p.incidentId ∧
        db'.planItems p.id = db.planItems p.id := by
    intro id write hplans hkey hitems
    rw [hplans] at hp
    obtain ⟨p, hmem, rfl⟩ := List.mem_map.1 hp
    refine ⟨p, hmem, ?_, ?_, Database.planItems_congr hitems _⟩
    · split
      · exact (hkey p).1
      · rfl
    · split
      · exact (hkey p).2
      · rfl
  cases h with
  | drafted actor incident payload hrequest hnodup hplans hitems =>
    have hnew := hdb.versioned.nextVersion hdb.plan_lt actor incident payload
    rw [hdb.versioned.plans_draft hnew.fresh hplans, List.mem_append, List.mem_map,
      List.mem_singleton] at hp
    rcases hp with ⟨p, hmem, rfl⟩ | rfl
    · obtain ⟨hid, hi, -⟩ := superseding_key db incident.id db.nextId p
      refine .inl ⟨p, hmem, hid, hi, ?_⟩
      rw [planItems_draft hdb.item_ne hitems, if_neg (hdb.plan_lt p hmem).ne]
    · refine .inr ⟨payload, hrequest, rfl, hnodup, ?_⟩
      rw [planItems_draft hdb.item_ne hitems]
      exact if_pos rfl
  | approved plan payload now _ _ _ _ hplans hitems =>
    exact .inl (hkept hplans (fun _ => ⟨rfl, rfl⟩) hitems)
  | invalidated incidentId plan _ _ hplans hitems =>
    exact .inl (hkept hplans (fun _ => ⟨rfl, rfl⟩) hitems)
  | contacted _ _ _ _ _ _ hplans hitems =>
    exact .inl ⟨p', hplans ▸ hp, rfl, rfl, Database.planItems_congr hitems _⟩
  | recorded _ _ _ hplans hitems =>
    exact .inl ⟨p', hplans ▸ hp, rfl, rfl, Database.planItems_congr hitems _⟩
  | unrelated hplans hitems =>
    exact .inl ⟨p', hplans ▸ hp, rfl, rfl, Database.planItems_congr hitems _⟩

theorem Effect.contact_origin {request : Request K} (h : Effect db request db') (hdb : db.Sound)
    (hrow : row' ∈ db'.contacts) :
    (∃ row ∈ db.contacts, row'.id = row.id ∧ row'.incidentId = row.incidentId ∧
      row'.planId = row.planId) ∨
    ∃ payload plan, request = .startContacts row'.incidentId payload ∧
      Planning.currentPlan db row'.incidentId = some plan ∧ plan.status = .approved ∧
      row'.planId = some plan.id ∧ ∀ row ∈ db.contacts, row.id ≠ row'.id := by
  have hkept : db'.contacts = db.contacts → ∃ row ∈ db.contacts, row'.id = row.id ∧
      row'.incidentId = row.incidentId ∧ row'.planId = row.planId := by
    intro hcontacts
    exact ⟨row', hcontacts ▸ hrow, rfl, rfl, rfl⟩
  cases h with
  | drafted _ _ _ _ _ _ _ hcontacts => exact .inl (hkept hcontacts)
  | approved _ _ _ _ _ _ _ _ _ hcontacts => exact .inl (hkept hcontacts)
  | invalidated _ _ _ _ _ _ hcontacts => exact .inl (hkept hcontacts)
  | contacted incident payload plan hrequest hcurrent happroved _ _ hcontacts =>
    rw [hcontacts, List.mem_append] at hrow
    rcases hrow with hrow | hrow
    · exact .inl ⟨row', hrow, rfl, rfl, rfl⟩
    · obtain ⟨i, hi, rfl⟩ := List.mem_mapIdx.1 hrow
      refine .inr ⟨payload, plan, hrequest, hcurrent, happroved, rfl, fun row hrow => ?_⟩
      exact ((hdb.contact_lt row hrow).trans_le (Nat.le_add_right _ i)).ne
  | recorded id write hwrite _ _ hcontacts =>
    rw [hcontacts] at hrow
    obtain ⟨row, hmem, rfl⟩ := List.mem_map.1 hrow
    obtain ⟨hid, hi, hplan, -⟩ := hwrite row
    left
    split
    · exact ⟨row, hmem, hid, hi, hplan⟩
    · exact ⟨row, hmem, rfl, rfl, rfl⟩
  | unrelated _ _ hcontacts => exact .inl (hkept hcontacts)

theorem Drafted.append (h : Drafted db calls p) (hid : p'.id = p.id)
    (hincident : p'.incidentId = p.incidentId)
    (hitems : (runCalls db (calls ++ [call])).planItems p.id = (runCalls db calls).planItems p.id) :
    Drafted db (calls ++ [call]) p' := by
  obtain ⟨before, c, after, payload, rfl, hrequest, hnew, hmade, hnodup, horder, hgiven⟩ := h
  refine ⟨before, c, after ++ [call], payload, by simp, hincident ▸ hrequest, hid ▸ hnew,
    hid ▸ hmade, hnodup, ?_, ?_⟩
  · rw [hid, hitems]
    exact horder
  · rw [hid, hitems]
    exact hgiven

theorem drafted_run (h : db.Fresh) (calls : List (Call K)) :
    ∀ p ∈ (runCalls db calls).plans, Drafted db calls p := by
  induction calls using List.reverseRecOn with
  | nil =>
    intro p hp
    have hplans : (runCalls db []).plans = [] := h.plans
    rw [hplans] at hp
    cases hp
  | append_singleton calls call ih =>
    intro p' hp'
    have hsound := h.sound.run calls
    have heffect := execute_effect (runCalls db calls) call
    rw [← runCalls_append] at heffect
    rcases heffect.plan_origin hsound hp' with
      ⟨p, hp, hid, hincident, hitems⟩ | ⟨payload, hrequest, hid, hnodup, hitems⟩
    · exact (ih p hp).append hid hincident hitems
    · refine ⟨calls, call, [], payload, rfl, hrequest, ?_, ⟨p', hp', rfl⟩, hnodup, ?_, ?_⟩
      · intro q hq
        rw [hid]
        exact (hsound.plan_lt q hq).ne
      · rw [hitems]
        exact (map_itemRows _ _ _).1
      · rw [hitems]
        exact map_given _ _ _

/-- Every contact of a run was made in it for the plan that was current and approved then. -/
theorem contacted_run (h : db.Fresh) (calls : List (Call K)) :
    ∀ row ∈ (runCalls db calls).contacts, Contacted db calls row := by
  induction calls using List.reverseRecOn with
  | nil =>
    intro row hrow
    have hcontacts : (runCalls db []).contacts = [] := h.contacts
    rw [hcontacts] at hrow
    cases hrow
  | append_singleton calls call ih =>
    intro row' hrow'
    have heffect := execute_effect (runCalls db calls) call
    rw [← runCalls_append] at heffect
    rcases heffect.contact_origin (h.sound.run calls) hrow' with
      ⟨row, hrow, hid, hincident, hplan⟩ |
      ⟨payload, plan, hrequest, hcurrent, happroved, hplan, hnew⟩
    · obtain ⟨before, c, after, payload, plan, rfl, hrequest, hcurrent, happroved, hcites, hnew,
        hmade⟩ := ih row hrow
      refine ⟨before, c, after ++ [call], payload, plan, by simp, hincident ▸ hrequest,
        hincident ▸ hcurrent, happroved, hplan.trans hcites, hid ▸ hnew, hid ▸ hmade⟩
    · exact ⟨calls, call, [], payload, plan, rfl, hrequest, hcurrent, happroved, hplan, hnew, row',
        hrow', rfl⟩

/-- What holds of plans, items and contacts after any run of requests. -/
theorem workflow_invariant (h : db.Fresh) (calls : List (Call K)) :
    (∀ incidentId, (runCalls db calls).VersionsInOrder incidentId) ∧
    (∀ p ∈ (runCalls db calls).plans, Drafted db calls p) ∧
    (∀ row ∈ (runCalls db calls).contacts, Contacted db calls row ∧
      ∃ p ∈ (runCalls db calls).plans, row.planId = some p.id ∧ row.incidentId = p.incidentId ∧
        ∃ item ∈ (runCalls db calls).planItems p.id, item.communityId = row.communityId) ∧
    ((runCalls db calls).contacts.map fun row => (row.planId, row.communityId)).Nodup ∧
    ∀ (call : Call K) (e : SalgilError), call.handle (runCalls db calls) = .error (.salgil e) →
      runCalls db (calls ++ [call]) = runCalls db calls := by
  have hsound := h.sound.run calls
  refine ⟨fun i => hsound.versioned.inOrder i, drafted_run h calls, ?_, hsound.once, ?_⟩
  · intro row hrow
    exact ⟨contacted_run h calls row hrow, hsound.cites row hrow⟩
  · intro call e hrefused
    rw [runCalls_append, execute, hrefused]

end

/-- One incident and one village. -/
def villageDatabase : Database ℚ where
  communities := [⟨0, "47", "상촌", some 12, none, none, "live"⟩]
  incidents := [⟨1, "2026-0822-01", "산불", "47750", "청송군", "wildfire", 1, .open, none, "operator",
    0, none, none, none⟩]
  nextId := 2

def villagePlan : PlanCreate where
  items := [{ communityId := 0 }]
  items_ok := by simp

def headsApproval : PlanApprove where
  approver := "군수"
  approver_ok := by decide

def patrol : TaskCreate where
  title := "순찰"
  title_ok := by decide
  priority_ok := defaultPriority_ok

def bridgeOut : ReportCreate ℚ where
  body := "교량 유실"
  requestReplan := true
  body_ok := by decide

/-- A plan for the village is drafted and approved, and its people are called. -/
def firstRound : List (Call ℚ) :=
  [⟨"operator", 10, .createPlan 1 villagePlan⟩,
    ⟨"approver", 20, .approvePlan 2 headsApproval⟩,
    ⟨"operator", 30, .startContacts 1 {}⟩]

theorem villageDatabase_fresh : villageDatabase.Fresh := ⟨rfl, rfl, rfl, rfl, rfl⟩

theorem workflow_invariant_first_round :
    (runCalls villageDatabase firstRound).contacts.length = 1 ∧
      ∀ row ∈ (runCalls villageDatabase firstRound).contacts,
        Contacted villageDatabase firstRound row := by
  refine ⟨by decide, fun row hrow => ?_⟩
  exact ((workflow_invariant villageDatabase_fresh firstRound).2.2.1 row hrow).1

end Salgil
