import Salgil.Operations
import Salgil.WorkflowHistory

namespace Salgil
set_option autoImplicit true

/-- Between two states of a store, its log tells what has become of what it decides. -/
def Told (log : D → List E) (decided : D → S) (tell : S → E → S) (d d' : D) : Prop :=
  ∃ new, log d' = log d ++ new ∧ decided d' = new.foldl tell (decided d)

namespace Told
variable {log : D → List E} {decided : D → S} {tell : S → E → S} {d d₁ d' : D}

theorem silent (hlog : log d' = log d) (hdecided : decided d' = decided d) :
    Told log decided tell d d' :=
  ⟨[], by simp [hlog], hdecided⟩

theorem one {event : E} (hlog : log d' = log d ++ [event])
    (hdecided : decided d' = tell (decided d) event) : Told log decided tell d d' :=
  ⟨[event], hlog, hdecided⟩

theorem trans (h : Told log decided tell d d₁) (h' : Told log decided tell d₁ d') :
    Told log decided tell d d' := by
  obtain ⟨new, hlog, hdecided⟩ := h
  obtain ⟨new', hlog', hdecided'⟩ := h'
  refine ⟨new ++ new', ?_, ?_⟩
  · rw [hlog', hlog, List.append_assoc]
  · rw [hdecided', hdecided, List.foldl_append]

theorem replay {start : S} (h : Told log decided tell d d')
    (hd : (log d).foldl tell start = decided d) : (log d').foldl tell start = decided d' := by
  obtain ⟨new, hlog, hdecided⟩ := h
  rw [hlog, List.foldl_append, hd, hdecided]

end Told

/-- What the audit events of an incident say was decided: its status and level, the status of each
version of its plan, and the answers of its contacts. -/
structure Decisions where
  status : IncidentStatus
  level : ℕ
  plans : List (ℕ × PlanStatus)
  responses : Uuid → ContactResponse

namespace Decisions

def declared (level : ℕ) : Decisions := ⟨.open, level, [], fun _ => .pending⟩

def update (changes : IncidentChanges) (d : Decisions) : Decisions :=
  { d with status := changes.status.getD d.status, level := changes.level.getD d.level }

/-- A new version takes the place of what was live. -/
def draft (version : ℕ) (d : Decisions) : Decisions :=
  { d with plans := d.plans.map (fun plan => (plan.1, .superseded)) ++ [(version, .draft)] }

def setStatus (version : ℕ) (status : PlanStatus) (d : Decisions) : Decisions :=
  { d with plans := d.plans.map fun plan => if plan.1 = version then (plan.1, status) else plan }

def record (contactId : Option Uuid) (response : ContactResponse) (d : Decisions) : Decisions :=
  { d with responses := fun id => if contactId = some id then response else d.responses id }

/-- What one event adds; nothing is known of an incident before it is declared. -/
def tell (d : Option Decisions) (event : AuditEvent) : Option Decisions :=
  match event.action with
  | .incidentDeclared _ level => some (declared level)
  | .incidentUpdated changes => d.map (update changes)
  | .planDrafted version _ => d.map (draft version)
  | .planApproved version _ _ _ => d.map (setStatus version .approved)
  | .planReapprovalRequired version _ => d.map (setStatus version .reapprovalRequired)
  | .contactRecorded response _ => d.map (record event.entityId response)
  | _ => d

def replay (events : List AuditEvent) : Option Decisions := events.foldl tell none

end Decisions

section
variable {K : Type} {db db₁ db' : Database K} {entries : List (Entry K)} {entry : Entry K}
variable {incident : Incident}

/-- The audit events of an incident, in the order of insertion. -/
def Database.eventsOf (db : Database K) (incidentId : Uuid) : List AuditEvent :=
  db.events.filter (·.incidentId = some incidentId)

/-- The answer that is stored for a contact of the incident. -/
def Database.response (db : Database K) (incidentId contactId : Uuid) : ContactResponse :=
  (((db.contacts.find? (·.id = contactId)).filter (·.incidentId = incidentId)).map
    (·.response)).getD .pending

def Database.decisions (db : Database K) (incident : Incident) : Decisions where
  status := incident.status
  level := incident.level
  plans := (db.plansOf incident.id).map fun plan => (plan.version, plan.status)
  responses := db.response incident.id

/-- What the tables say was decided in an incident, if there is one. -/
def Database.decided (db : Database K) (incidentId : Uuid) : Option Decisions :=
  (db.incidents.find? (·.id = incidentId)).map db.decisions

/-- Nothing has been declared yet. -/
structure Database.Empty (db : Database K) : Prop extends db.Fresh where
  incidents : db.incidents = []
  events : db.events = []

/-- The rows hang together: rows of one table have different ids, plans belong to incidents, and
an incident has a closing if and only if it is closed. -/
structure Database.Linked (db : Database K) : Prop where
  sound : db.Sound
  incident_ids : (db.incidents.map (·.id)).Nodup
  incident_lt : ∀ incident ∈ db.incidents, incident.id < db.nextId
  contact_ids : (db.contacts.map (·.id)).Nodup
  plan_of : ∀ p ∈ db.plans, ∃ incident ∈ db.incidents, incident.id = p.incidentId
  closing : ∀ incident ∈ db.incidents, (incident.closedAt.isSome ↔ incident.status = .closed) ∧
    (incident.closedBy.isSome ↔ incident.status = .closed)

/-- The new events of each incident tell what has become of its decisions. -/
def Tells (db db' : Database K) : Prop :=
  ∀ i, Told (fun db : Database K => db.eventsOf i) (fun db => db.decided i) Decisions.tell db db'

/-- The incidents stay as they are, and the new events tell what was decided in them. -/
structure Logged (db db' : Database K) : Prop where
  incidents : db'.incidents = db.incidents
  tells : Tells db db'

theorem Logged.trans (h : Logged db db₁) (h' : Logged db₁ db') : Logged db db' :=
  ⟨h'.incidents.trans h.incidents, fun i => (h.tells i).trans (h'.tells i)⟩

theorem Database.decided_congr {i : Uuid} (hincidents : db'.incidents = db.incidents)
    (hplans : (db'.plansOf i).map (fun p => (p.version, p.status)) =
      (db.plansOf i).map fun p => (p.version, p.status))
    (hresponse : db'.response i = db.response i) : db'.decided i = db.decided i := by
  rw [decided, decided, hincidents]
  apply Option.map_congr
  intro incident hincident
  obtain rfl : incident.id = i := by simpa using List.find?_some hincident
  simp only [decisions, hplans, hresponse]

theorem Logged.silent (hincidents : db'.incidents = db.incidents) (hplans : db'.plans = db.plans)
    (hcontacts : db'.contacts = db.contacts) (hevents : db'.events = db.events) :
    Logged db db' := by
  refine ⟨hincidents, fun i => ?_⟩
  apply Told.silent
  · simp only [Database.eventsOf, hevents]
  · apply Database.decided_congr hincidents
    · simp only [Database.plansOf, hplans]
    · funext id
      simp only [Database.response, hcontacts]

theorem Tells.one {i : Uuid} {event : AuditEvent} (hevent : event.incidentId = some i)
    (hevents : db'.events = db.events ++ [event])
    (hself : db'.decided i = Decisions.tell (db.decided i) event)
    (hother : ∀ j, j ≠ i → db'.decided j = db.decided j) : Tells db db' := by
  intro j
  by_cases hj : j = i
  · subst hj
    apply Told.one
    · simp [Database.eventsOf, hevents, hevent]
      rfl
    · exact hself
  · apply Told.silent
    · have hne : event.incidentId ≠ some j := by
        rw [hevent]
        exact fun h => hj (Option.some.inj h).symm
      simp [Database.eventsOf, hevents, hne]
    · exact hother j hj

theorem Database.decided_map {i : Uuid} {f : Decisions → Decisions}
    (hincidents : db'.incidents = db.incidents)
    (hf : ∀ incident : Incident, incident.id = i →
      db'.decisions incident = f (db.decisions incident)) :
    db'.decided i = (db.decided i).map f := by
  rw [decided, decided, hincidents, Option.map_map]
  apply Option.map_congr
  intro incident hincident
  exact hf incident (by simpa using List.find?_some hincident)

theorem Logged.inert {i : Uuid} {event : AuditEvent} (hevent : event.incidentId = some i)
    (htell : ∀ d, Decisions.tell d event = d) (hevents : db'.events = db.events ++ [event])
    (hincidents : db'.incidents = db.incidents) (hplans : db'.plans = db.plans)
    (hresponse : ∀ j, db'.response j = db.response j) : Logged db db' := by
  have hsame : ∀ j, db'.decided j = db.decided j := by
    intro j
    apply Database.decided_congr hincidents _ (hresponse j)
    simp only [Database.plansOf, hplans]
  refine ⟨hincidents, Tells.one hevent hevents ?_ ?_⟩
  · rw [htell, hsame]
  · exact fun j _ => hsame j

theorem Database.response_congr (hcontacts : db'.contacts = db.contacts) (i : Uuid) :
    db'.response i = db.response i := by
  funext id
  simp only [response, hcontacts]

namespace Planning

/-- Drafting supersedes what was live: the last version. -/
theorem create_logged {now : Timestamp} {actor : String} {payload : PlanCreate}
    {plan : EvacuationPlan} (h : db.Sound)
    (hok : Planning.create db now actor incident payload = .ok (plan, db')) : Logged db db' := by
  obtain ⟨-, hdb, event, hevents, hevent, haction⟩ := create_eq_ok hok
  have hincidents : db'.incidents = db.incidents := by rw [hdb]
  have hcontacts : db'.contacts = db.contacts := by rw [hdb]
  have hresponse := Database.response_congr hcontacts
  have hnew := h.versioned.nextVersion h.plan_lt actor incident payload
  have hwritten : db'.plans = (db.plans ++ [draft db actor incident payload]).map
      (superseding db incident.id db.nextId) := by rw [hdb]
  have hplans := Database.Versioned.plansOf_draft (h.versioned.plans_draft hnew.fresh hwritten)
  have hkey := superseding_key db incident.id db.nextId
  refine ⟨hincidents, Tells.one hevent hevents ?_ ?_⟩
  · have htell : ∀ d, Decisions.tell d event =
        d.map (Decisions.draft (draft db actor incident payload).version) := by
      intro d
      simp only [Decisions.tell, haction]
    rw [htell]
    apply Database.decided_map hincidents
    intro row hrow
    have hold : ((db.plansOf incident.id).map (superseding db incident.id db.nextId)).map
        (fun p => (p.version, p.status)) =
        ((db.plansOf incident.id).map fun p => (p.version, p.status)).map
          fun plan => (plan.1, PlanStatus.superseded) := by
      rw [List.map_map, List.map_map]
      apply List.map_congr_left
      intro p hp
      obtain ⟨hp, hi⟩ := Database.mem_plansOf.1 hp
      have hstatus : (superseding db incident.id db.nextId p).status = .superseded := by
        rcases h.versioned.superseding_eq (i := incident.id) hp db.nextId with
          ⟨-, -, heq⟩ | ⟨hlast, heq⟩
        · rw [heq]
          rfl
        · rw [heq]
          by_contra hlive
          exact hlast ⟨hi, hi ▸ h.versioned.last_of_live hp hlive⟩
      exact Prod.ext (hkey p).2.2 hstatus
    simp only [Database.decisions, Decisions.draft, hrow, hplans, List.map_append, hold, hresponse]
    simp [draft]
  · intro j hj
    apply Database.decided_congr hincidents _ (hresponse j)
    have hold : (db.plansOf j).map (superseding db incident.id db.nextId) = db.plansOf j := by
      refine (List.map_congr_left fun p hp => ?_).trans (List.map_id _)
      obtain ⟨hp, hi⟩ := Database.mem_plansOf.1 hp
      rcases h.versioned.superseding_eq (i := incident.id) hp db.nextId with ⟨hi', -⟩ | ⟨-, heq⟩
      · exact absurd (hi.symm.trans hi') hj
      · exact heq
    have hne : (draft db actor incident payload).incidentId ≠ j := Ne.symm hj
    rw [hplans, hold, if_neg hne, List.append_nil]

end Planning

theorem Logged.setStatus {p : EvacuationPlan} {write : EvacuationPlan → EvacuationPlan}
    {status : PlanStatus} {event : AuditEvent} (h : db.Versioned) (hp : p ∈ db.plans)
    (hplans : db'.plans = (db.updatePlan p.id write).plans)
    (hwrite : ∀ q, (write q).incidentId = q.incidentId ∧ (write q).version = q.version ∧
      (write q).status = status)
    (hincidents : db'.incidents = db.incidents) (hcontacts : db'.contacts = db.contacts)
    (hevents : db'.events = db.events ++ [event]) (hevent : event.incidentId = some p.incidentId)
    (htell : ∀ d, Decisions.tell d event = d.map (Decisions.setStatus p.version status)) :
    Logged db db' := by
  have hresponse := Database.response_congr hcontacts
  have hof := Database.plansOf_map hplans (by
    intro q
    split
    · exact (hwrite q).1
    · rfl)
  refine ⟨hincidents, Tells.one hevent hevents ?_ ?_⟩
  · rw [htell]
    apply Database.decided_map hincidents
    intro row hrow
    have hrows : ((db.plansOf p.incidentId).map fun q => if q.id = p.id then write q else q).map
        (fun q => (q.version, q.status)) =
        ((db.plansOf p.incidentId).map fun q => (q.version, q.status)).map
          fun plan => if plan.1 = p.version then (plan.1, status) else plan := by
      rw [List.map_map, List.map_map]
      apply List.map_congr_left
      intro q hq
      obtain ⟨hq, hi⟩ := Database.mem_plansOf.1 hq
      -- among the plans of an incident the version says which one it is
      have hsame : q.id = p.id ↔ q.version = p.version :=
        ⟨fun hid => congrArg _ (h.eq_of_id hq hp hid),
          fun hv => congrArg _ (h.eq_of_version hq hp hi hv)⟩
      by_cases hid : q.id = p.id
      · simp [hid, hsame.1 hid, hwrite]
      · simp [hid, hsame.not.1 hid]
    simp only [Database.decisions, Decisions.setStatus, hrow, hof, hrows, hresponse]
  · intro j hj
    apply Database.decided_congr hincidents _ (hresponse j)
    have hkept : (db.plansOf j).map (fun q => if q.id = p.id then write q else q) =
        db.plansOf j := by
      refine (List.map_congr_left fun q hq => ?_).trans (List.map_id _)
      obtain ⟨hq, hi⟩ := Database.mem_plansOf.1 hq
      apply if_neg
      intro hid
      exact hj (hi.symm.trans (congrArg _ (h.eq_of_id hq hp hid)))
    rw [hof, hkept]

namespace Planning

theorem approve_logged {now : Timestamp} {actor : String} {planId : Uuid} {payload : PlanApprove}
    {plan : EvacuationPlan} (h : db.Versioned)
    (hok : Planning.approve db now actor planId payload = .ok (plan, db')) : Logged db db' := by
  obtain ⟨p, summary, hget, -, -, rfl⟩ := approve_eq_ok hok
  have hp := List.mem_of_find?_eq_some (get_eq_ok.1 hget)
  exact Logged.setStatus h hp rfl (fun _ => ⟨rfl, rfl, rfl⟩) rfl rfl rfl rfl fun _ => rfl

theorem markNeedsReapproval_logged (h : db.Versioned) (now : Timestamp) (actor : String)
    (incidentId : Uuid) (reason : String) :
    Logged db (markNeedsReapproval db now actor incidentId reason).2 := by
  rcases markNeedsReapproval_cases db now actor incidentId reason with
    ⟨heq, -⟩ | ⟨plan, summary, hplan, -, heq⟩
  · rw [heq]
    exact .silent rfl rfl rfl rfl
  · obtain ⟨hp, rfl, -⟩ := h.currentPlan_eq_some.1 hplan
    rw [heq]
    exact Logged.setStatus h hp rfl (fun _ => ⟨rfl, rfl, rfl⟩) rfl rfl rfl rfl fun _ => rfl

end Planning

namespace Contacts

theorem get_eq_ok {contactId : Uuid} {row : ContactAttempt} :
    Contacts.get db contactId = .ok row ↔
      db.contacts.find? (·.id = row.id) = some row ∧ row.id = contactId := by
  unfold get
  cases hfind : db.contacts.find? (·.id = contactId) with
  | none =>
    constructor
    · intro h
      cases h
    · rintro ⟨hrow, rfl⟩
      rw [hfind] at hrow
      cases hrow
  | some r =>
    have hr : r.id = contactId := by simpa using List.find?_some hfind
    constructor
    · intro h
      cases h
      exact ⟨hr ▸ hfind, hr⟩
    · rintro ⟨hrow, rfl⟩
      rw [hfind] at hrow
      exact congrArg _ (Option.some.inj hrow)

theorem response_startRound {created : List ContactAttempt}
    (hcontacts : db'.contacts = db.contacts ++ created)
    (hcreated : ∀ row ∈ created, row.response = .pending) (i : Uuid) :
    db'.response i = db.response i := by
  funext id
  rw [Database.response, Database.response, hcontacts, List.find?_append]
  cases db.contacts.find? (·.id = id) with
  | some row => rfl
  | none =>
    cases hfind : created.find? (·.id = id) with
    | none => rfl
    | some row =>
      have hpending := hcreated row (List.mem_of_find?_eq_some hfind)
      by_cases hi : row.incidentId = i <;> simp [Option.filter, hi, hpending]

theorem startRound_logged {now : Timestamp} {actor : String} {payload : ContactStart}
    {created : List ContactAttempt}
    (hok : Contacts.startRound db now actor incident payload = .ok (created, db')) :
    Logged db db' := by
  obtain ⟨plan, summary, -, -, rfl, rfl⟩ := startRound_eq_ok hok
  refine Logged.inert (i := incident.id) rfl (fun _ => rfl) rfl rfl rfl ?_
  apply response_startRound rfl
  intro row hrow
  obtain ⟨i, hi, rfl⟩ := List.mem_mapIdx.1 hrow
  rfl

theorem response_update {row : ContactAttempt} {write : ContactAttempt → ContactAttempt}
    (hrow : db.contacts.find? (·.id = row.id) = some row)
    (hcontacts : db'.contacts = (db.updateContact row.id write).contacts)
    (hwrite : ∀ r, (write r).id = r.id ∧ (write r).incidentId = r.incidentId) (i id : Uuid) :
    db'.response i id = if row.incidentId = i ∧ row.id = id then (write row).response
      else db.response i id := by
  have hkey : ∀ r : ContactAttempt, (if r.id = row.id then write r else r).id = r.id := by
    intro r
    split
    · exact (hwrite r).1
    · rfl
  rw [Database.response, hcontacts, Database.updateContact, find?_map_key hkey]
  by_cases hid : row.id = id
  · subst hid
    by_cases hi : row.incidentId = i <;>
      simp [Database.response, hrow, hi, hwrite, Option.filter]
  · rw [if_neg fun h => hid h.2, Database.response]
    cases hfind : db.contacts.find? (·.id = id) with
    | none => rfl
    | some r =>
      have hr : r.id = id := by simpa using List.find?_some hfind
      simp [hr, Ne.symm hid]

theorem update_logged {now : Timestamp} {actor : String} {contactId : Uuid}
    {payload : ContactUpdate} {updated : ContactAttempt}
    (hok : Contacts.update db now actor contactId payload = .ok (updated, db')) :
    Logged db db' := by
  obtain ⟨row, summary, hget, rfl⟩ := update_eq_ok hok
  obtain ⟨hrow, -⟩ := get_eq_ok.1 hget
  have hresponse : ∀ i id, (db.updateContact row.id (recorded now actor payload)).response i id =
      if row.incidentId = i ∧ row.id = id then payload.response else db.response i id :=
    response_update hrow rfl fun _ => ⟨rfl, rfl⟩
  refine ⟨rfl, Tells.one (i := row.incidentId) rfl rfl ?_ ?_⟩
  · refine Database.decided_map rfl (f := Decisions.record (some row.id) payload.response) ?_
    intro incident hincident
    have hself : (db.updateContact row.id (recorded now actor payload)).response incident.id =
        fun id =>
          if some row.id = some id then payload.response else db.response incident.id id := by
      funext id
      rw [hresponse]
      simp [hincident]
    simp only [Database.decisions, Decisions.record, ← hself]
    rfl
  · intro j hj
    refine Database.decided_congr rfl rfl ?_
    funext id
    exact (hresponse j id).trans (if_neg fun h => hj h.1.symm)

end Contacts

namespace Tasks

theorem create_logged {now : Timestamp} {actor : String} {payload : TaskCreate} {task : FieldTask}
    (hok : Tasks.create db now actor incident payload = .ok (task, db')) : Logged db db' := by
  obtain ⟨summary, -, rfl⟩ := create_eq_ok hok
  exact Logged.inert (i := incident.id) rfl (fun _ => rfl) rfl rfl rfl fun _ => rfl

theorem createFromUnreachable_logged (db : Database K) (now : Timestamp) (actor : String)
    (incident : Incident) : Logged db (Tasks.createFromUnreachable db now actor incident).2 := by
  rcases createFromUnreachable_cases db now actor incident with heq | ⟨tasks, summary, -, heq⟩
  · rw [heq]
    exact .silent rfl rfl rfl rfl
  · rw [heq]
    exact Logged.inert (i := incident.id) rfl (fun _ => rfl) rfl rfl rfl fun _ => rfl

theorem update_logged {now : Timestamp} {actor : String} {taskId : Uuid} {payload : TaskUpdate}
    {updated : FieldTask} (hok : Tasks.update db now actor taskId payload = .ok (updated, db')) :
    Logged db db' := by
  obtain ⟨task, summary, -, rfl | rfl⟩ := update_eq_ok hok
  · exact .silent rfl rfl rfl rfl
  · exact Logged.inert (i := task.incidentId) rfl (fun _ => rfl) rfl rfl rfl fun _ => rfl

theorem submitReport_logged {now : Timestamp} {actor : String} {taskId : Uuid}
    {payload : ReportCreate K} {report : FieldReport K} (hdb : db.Versioned)
    (hok : Tasks.submitReport db now actor taskId payload = .ok (report, db')) :
    Logged db db' := by
  obtain ⟨task, row, reason, summary, replan, -, -, -, hreplan, -, -, rfl⟩ :=
    submitReport_eq_ok hok
  -- the first flush decides nothing
  have hplans : (db.addReport task row).plans = db.plans := rfl
  have hsilent : Logged db (db.addReport task row) := .silent rfl rfl rfl rfl
  have hsecond : Logged db replan.2 := by
    rw [hreplan]
    split
    · exact hsilent.trans
        (Planning.markNeedsReapproval_logged (hdb.of_plans_eq hplans) now actor _ reason)
    · exact hsilent
  exact hsecond.trans
    (Logged.inert (i := task.incidentId) rfl (fun _ => rfl) rfl rfl rfl fun _ => rfl)

end Tasks

theorem Call.handle_logged {call : Call K} (hdb : db.Sound) (h : call.handle db = .ok db') :
    Logged db db' := by
  cases Call.handled h with
  | createPlan _ _ _ _ _ hcreate => exact Planning.create_logged hdb hcreate
  | approvePlan _ _ _ _ happrove => exact Planning.approve_logged hdb.versioned happrove
  | startContacts _ _ _ _ _ hstart => exact Contacts.startRound_logged hstart
  | updateContact _ _ _ _ hupdate => exact Contacts.update_logged hupdate
  | createTask _ _ _ _ _ hcreate => exact Tasks.create_logged hcreate
  | generateTasks _ _ _ hdb' =>
    subst hdb'
    exact Tasks.createFromUnreachable_logged _ _ _ _
  | updateTask _ _ _ _ hupdate => exact Tasks.update_logged hupdate
  | submitReport _ _ _ _ hsubmit => exact Tasks.submitReport_logged hdb.versioned hsubmit

theorem Effect.le_nextId {request : Request K} (h : Effect db request db') :
    db.nextId ≤ db'.nextId := by
  cases h with
  | drafted _ _ _ _ _ _ _ _ hnext => exact hnext.le
  | approved _ _ _ _ _ _ _ _ _ _ hnext => exact hnext
  | invalidated _ _ _ _ _ _ _ hnext => exact hnext
  | contacted _ _ _ _ _ _ _ _ _ hnext => exact (Nat.le_add_right _ _).trans hnext
  | recorded _ _ _ _ _ _ hnext => exact hnext
  | unrelated _ _ _ hnext => exact hnext

theorem Effect.contact_ids {request : Request K} (h : Effect db request db') (hdb : db.Sound)
    (hids : (db.contacts.map (·.id)).Nodup) : (db'.contacts.map (·.id)).Nodup := by
  cases h with
  | drafted _ _ _ _ _ _ _ hcontacts => rwa [hcontacts]
  | approved _ _ _ _ _ _ _ _ _ hcontacts => rwa [hcontacts]
  | invalidated _ _ _ _ _ _ hcontacts => rwa [hcontacts]
  | contacted incident payload plan _ _ _ _ _ hcontacts =>
    rw [hcontacts, List.map_append, List.nodup_append]
    refine ⟨hids, ?_, ?_⟩
    · apply List.nodup_iff_injective_getElem.2
      intro m n hmn
      apply Fin.ext
      simpa [Contacts.attempt] using hmn
    · intro id hid id' hid' heq
      obtain ⟨row, hrow, rfl⟩ := List.mem_map.1 hid
      obtain ⟨row', hrow', rfl⟩ := List.mem_map.1 hid'
      obtain ⟨n, hn, rfl⟩ := List.mem_mapIdx.1 hrow'
      exact ((hdb.contact_lt row hrow).trans_le (Nat.le_add_right _ n)).ne heq
  | recorded id write hwrite _ _ hcontacts =>
    rw [hcontacts, Database.updateContact, List.map_map]
    have hkeep : (fun row : ContactAttempt => row.id) ∘
        (fun row => if row.id = id then write row else row) = fun row => row.id := by
      funext row
      simp only [Function.comp_apply]
      split
      · exact (hwrite row).1
      · rfl
    rwa [hkeep]
  | unrelated _ _ hcontacts => rwa [hcontacts]

namespace Database.Linked

theorem of_empty (h : db.Empty) : db.Linked where
  sound := h.toFresh.sound
  incident_ids := by simp [h.incidents]
  incident_lt := by simp [h.incidents]
  contact_ids := by simp [h.contacts]
  plan_of := by simp [h.plans]
  closing := by simp [h.incidents]

theorem handle {call : Call K} (h : db.Linked) (hok : call.handle db = .ok db') : db'.Linked := by
  have heffect := Call.handle_effect hok
  have hincidents := (Call.handle_logged h.sound hok).incidents
  refine ⟨h.sound.effect heffect, ?_, ?_, heffect.contact_ids h.sound h.contact_ids, ?_, ?_⟩
  · rw [hincidents]
    exact h.incident_ids
  · intro incident hincident
    exact (h.incident_lt incident (hincidents ▸ hincident)).trans_le heffect.le_nextId
  · intro p hp
    rw [hincidents]
    rcases heffect.plan_origin h.sound hp with ⟨q, hq, -, hi, -⟩ | ⟨payload, hrequest, -⟩
    · rw [hi]
      exact h.plan_of q hq
    · rw [Call.handle, hrequest] at hok
      obtain ⟨incident, hget, -⟩ := bind_eq_ok.1 hok
      obtain ⟨hmem, hid⟩ := Incidents.get_mem hget
      exact ⟨incident, hmem, hid⟩
  · intro incident hincident
    exact h.closing incident (hincidents ▸ hincident)

end Database.Linked

/-- The tables of the workflow stay; new rows elsewhere take new ids. -/
structure Database.SameWorkflow (db db' : Database K) : Prop where
  plans : db'.plans = db.plans
  items : db'.items = db.items
  contacts : db'.contacts = db.contacts
  next : db.nextId ≤ db'.nextId

theorem Database.SameWorkflow.sound (h : db.SameWorkflow db') (hdb : db.Sound) : db'.Sound :=
  hdb.keep (hdb.versioned.of_plans_eq h.plans) (h.plans.trans (List.map_id _).symm)
    (fun _ => ⟨rfl, rfl⟩) h.items h.contacts h.next

namespace Incidents

theorem create_tells {now : Timestamp} {actor regionName : String} {payload : IncidentCreate}
    {event : Event} (hdb : db.Linked)
    (h : create db now actor regionName payload = .ok (incident, event, db')) : Tells db db' := by
  obtain ⟨hid, hlevel, hopen, -, -, -, hdb', e, hevents, hevent, haction⟩ := create_eq_ok h
  have hnew : ∀ row ∈ db.incidents, row.id ≠ incident.id := by
    intro row hrow
    rw [hid]
    exact (hdb.incident_lt row hrow).ne
  have hnone : db.incidents.find? (·.id = incident.id) = none := by
    simpa using hnew
  have hdecided : ∀ j, db'.decided j =
      ((db.incidents ++ [incident]).find? (·.id = j)).map db.decisions := by
    intro j
    rw [hdb']
    rfl
  apply Tells.one hevent hevents
  · -- nothing was stored of an incident that is new
    have hplans : db.plansOf incident.id = [] := by
      apply List.eq_nil_iff_forall_not_mem.2
      intro p hp
      obtain ⟨hp, hi⟩ := Database.mem_plansOf.1 hp
      obtain ⟨row, hrow, hrowId⟩ := hdb.plan_of p hp
      exact hnew row hrow (hrowId.trans hi)
    have hresponse : db.response incident.id = fun _ => .pending := by
      funext id
      rw [Database.response]
      cases hfind : db.contacts.find? (·.id = id) with
      | none => rfl
      | some contact =>
        obtain ⟨p, hp, -, hi, -⟩ := hdb.sound.cites contact (List.mem_of_find?_eq_some hfind)
        obtain ⟨row, hrow, hrowId⟩ := hdb.plan_of p hp
        have hne : contact.incidentId ≠ incident.id := by
          rw [hi, ← hrowId]
          exact hnew row hrow
        simp [Option.filter, hne]
    rw [hdecided, List.find?_append, hnone]
    simp [Decisions.tell, haction, Database.decisions, Decisions.declared, hplans, hresponse, hopen,
      hlevel]
  · intro j hj
    rw [hdecided, List.find?_append, Database.decided]
    simp [Ne.symm hj]

theorem update_tells {now : Timestamp} {actor : String} {incidentId : Uuid}
    {payload : IncidentUpdate} {updated : Incident}
    (hok : update db now actor incidentId payload = .ok (updated, db')) : Tells db db' := by
  obtain ⟨incident, summary, hget, rfl | rfl⟩ := update_eq_ok hok
  · exact (Logged.silent rfl rfl rfl rfl).tells
  · obtain ⟨-, hid⟩ := get_mem hget
    subst hid
    rw [get_eq_ok] at hget
    have hkey : ∀ row : Incident, (if row.id = incident.id then
        changed (changes payload incident) now actor row else row).id = row.id := by
      intro row
      split <;> rfl
    refine Tells.one (i := incident.id) rfl rfl ?_ ?_
    · simp only [Database.decided, Audit.record, Database.updateIncident, find?_map_key hkey, hget]
      simp [Decisions.tell]
      rfl
    · intro j hj
      simp only [Database.decided, Audit.record, Database.updateIncident, find?_map_key hkey]
      cases hfind : db.incidents.find? (·.id = j) with
      | none => rfl
      | some row =>
        have hrow : row.id = j := by simpa using List.find?_some hfind
        simp [hrow, hj]
        rfl

end Incidents

namespace Database.Linked

theorem declare {now : Timestamp} {actor regionName : String} {payload : IncidentCreate}
    {event : Event} (h : db.Linked)
    (hok : Incidents.create db now actor regionName payload = .ok (incident, event, db')) :
    db'.Linked := by
  obtain ⟨hid, -, hopen, hat, hby, -, hdb, -⟩ := Incidents.create_eq_ok hok
  have hincidents : db'.incidents = db.incidents ++ [incident] := by rw [hdb]
  have hsame : db.SameWorkflow db' := by
    rw [hdb]
    exact ⟨rfl, rfl, rfl, (Nat.le_succ _).trans (Nat.le_succ _)⟩
  have hlt : db.nextId < db'.nextId := by
    rw [hdb]
    exact (Nat.lt_succ_self _).trans (Nat.lt_succ_self _)
  refine ⟨hsame.sound h.sound, ?_, ?_, ?_, ?_, ?_⟩
  · rw [hincidents, List.map_append, List.nodup_append]
    refine ⟨h.incident_ids, List.nodup_singleton _, ?_⟩
    intro id hold id' hnew heq
    obtain ⟨row, hrow, rfl⟩ := List.mem_map.1 hold
    rw [List.map_singleton, List.mem_singleton, hid] at hnew
    exact (h.incident_lt row hrow).ne (heq.trans hnew)
  · intro row hrow
    rw [hincidents, List.mem_append, List.mem_singleton] at hrow
    rcases hrow with hrow | rfl
    · exact (h.incident_lt row hrow).trans hlt
    · rwa [hid]
  · rw [hsame.contacts]
    exact h.contact_ids
  · intro p hp
    obtain ⟨row, hrow, hrowId⟩ := h.plan_of p (hsame.plans ▸ hp)
    refine ⟨row, ?_, hrowId⟩
    rw [hincidents]
    exact List.mem_append_left _ hrow
  · intro row hrow
    rw [hincidents, List.mem_append, List.mem_singleton] at hrow
    rcases hrow with hrow | rfl
    · exact h.closing row hrow
    · simp [hat, hby, hopen]

theorem closing_changed (changes : IncidentChanges) (now : Timestamp) (actor : String)
    (hincident : (incident.closedAt.isSome ↔ incident.status = .closed) ∧
      (incident.closedBy.isSome ↔ incident.status = .closed)) :
    ((Incidents.changed changes now actor incident).closedAt.isSome ↔
      (Incidents.changed changes now actor incident).status = .closed) ∧
    ((Incidents.changed changes now actor incident).closedBy.isSome ↔
      (Incidents.changed changes now actor incident).status = .closed) := by
  cases hstatus : changes.status with
  | none => simpa [Incidents.changed, hstatus] using hincident
  | some status => cases status <;> simp [Incidents.changed, hstatus]

theorem rewrite {id : Uuid} {write : Incident → Incident} (h : db.Linked)
    (hincidents : db'.incidents = (db.updateIncident id write).incidents)
    (hsame : db.SameWorkflow db')
    (hwrite : ∀ row ∈ db.incidents, (write row).id = row.id ∧
      ((write row).closedAt.isSome ↔ (write row).status = .closed) ∧
      ((write row).closedBy.isSome ↔ (write row).status = .closed)) : db'.Linked := by
  have hrow : ∀ row ∈ db.incidents, (if row.id = id then write row else row).id = row.id := by
    intro row hrow
    split
    · exact (hwrite row hrow).1
    · rfl
  have hids : db'.incidents.map (·.id) = db.incidents.map (·.id) := by
    rw [hincidents, Database.updateIncident, List.map_map]
    exact List.map_congr_left hrow
  refine ⟨hsame.sound h.sound, hids.symm ▸ h.incident_ids, ?_, hsame.contacts.symm ▸ h.contact_ids,
    ?_, ?_⟩
  · intro row' hrow'
    obtain ⟨row, hmem, rfl⟩ := List.mem_map.1 (hincidents ▸ hrow')
    rw [hrow row hmem]
    exact (h.incident_lt row hmem).trans_le hsame.next
  · intro p hp
    obtain ⟨row, hmem, hid⟩ := h.plan_of p (hsame.plans ▸ hp)
    have hmem' : row.id ∈ db'.incidents.map (·.id) := by
      rw [hids]
      exact List.mem_map_of_mem hmem
    obtain ⟨row', hmem', hid'⟩ := List.mem_map.1 hmem'
    exact ⟨row', hmem', hid'.trans hid⟩
  · intro row' hrow'
    obtain ⟨row, hmem, rfl⟩ := List.mem_map.1 (hincidents ▸ hrow')
    split
    · exact (hwrite row hmem).2
    · exact h.closing row hmem

theorem update {now : Timestamp} {actor : String} {incidentId : Uuid} {payload : IncidentUpdate}
    {updated : Incident} (h : db.Linked)
    (hok : Incidents.update db now actor incidentId payload = .ok (updated, db')) :
    db'.Linked := by
  obtain ⟨target, summary, -, rfl | rfl⟩ := Incidents.update_eq_ok hok
  · exact h
  · exact h.rewrite rfl ⟨rfl, rfl, rfl, Nat.le_succ _⟩
      fun row hrow => ⟨rfl, closing_changed _ _ _ (h.closing row hrow)⟩

theorem keep (h : db.Linked) (hincidents : db'.incidents = db.incidents)
    (hsame : db.SameWorkflow db') : db'.Linked := by
  refine ⟨hsame.sound h.sound, hincidents.symm ▸ h.incident_ids, ?_,
    hsame.contacts.symm ▸ h.contact_ids, ?_, hincidents.symm ▸ h.closing⟩
  · intro row hrow
    exact (h.incident_lt row (hincidents ▸ hrow)).trans_le hsame.next
  · rw [hsame.plans, hincidents]
    exact h.plan_of

end Database.Linked

theorem Entry.handle_tells (h : db.Linked) (hok : entry.handle db = .ok db') :
    db'.Linked ∧ Tells db db' := by
  cases Entry.handled hok with
  | workflow _ _ hok => exact ⟨h.handle hok, (Call.handle_logged h.sound hok).tells⟩
  | declared _ _ _ _ _ _ hcreate => exact ⟨h.declare hcreate, Incidents.create_tells h hcreate⟩
  | updated _ _ _ _ hupdate => exact ⟨h.update hupdate, Incidents.update_tells hupdate⟩
  | declined _ hdb =>
    subst hdb
    exact ⟨h, (Logged.silent rfl rfl rfl rfl).tells⟩
  | community payload _ hdb =>
    subst hdb
    exact ⟨h.keep rfl ⟨rfl, rfl, rfl, Nat.le_succ _⟩, (Logged.silent rfl rfl rfl rfl).tells⟩
  | shelter payload _ hdb =>
    subst hdb
    exact ⟨h.keep rfl ⟨rfl, rfl, rfl, Nat.le_succ _⟩, (Logged.silent rfl rfl rfl rfl).tells⟩

theorem Entry.handle_le_nextId (h : entry.handle db = .ok db') : db.nextId ≤ db'.nextId := by
  cases Entry.handled h with
  | workflow _ _ hok => exact (Call.handle_effect hok).le_nextId
  | declared _ _ _ _ _ _ hcreate =>
    obtain ⟨-, -, -, -, -, -, hdb, -⟩ := Incidents.create_eq_ok hcreate
    rw [hdb]
    exact (Nat.le_succ _).trans (Nat.le_succ _)
  | updated _ _ _ _ hupdate =>
    obtain ⟨target, summary, -, rfl | rfl⟩ := Incidents.update_eq_ok hupdate
    · exact le_rfl
    · exact Nat.le_succ _
  | declined _ hdb => exact (congrArg _ hdb).ge
  | community payload _ hdb =>
    subst hdb
    exact Nat.le_succ _
  | shelter payload _ hdb =>
    subst hdb
    exact Nat.le_succ _

theorem perform_le_nextId (db : Database K) (entry : Entry K) :
    db.nextId ≤ (perform db entry).nextId := by
  unfold perform
  split
  · next h => exact Entry.handle_le_nextId h
  · exact le_rfl

theorem Database.Linked.perform (h : db.Linked) (entry : Entry K) :
    (perform db entry).Linked := by
  unfold Salgil.perform
  split
  · next hok => exact (Entry.handle_tells h hok).1
  · exact h

/-- The audit events of every incident replay to what the tables say was decided. -/
theorem replay_run (h : db.Empty) (entries : List (Entry K)) :
    (runEntries db entries).Linked ∧ ∀ i, Decisions.replay ((runEntries db entries).eventsOf i) =
      (runEntries db entries).decided i := by
  have hstart : ∀ i, Decisions.replay (db.eventsOf i) = db.decided i := by
    intro i
    simp [Database.eventsOf, Database.decided, h.events, h.incidents, Decisions.replay]
  have hlinked := Database.Linked.of_empty h
  clear h
  induction entries generalizing db with
  | nil => exact ⟨hlinked, hstart⟩
  | cons entry entries ih =>
    cases hhandle : entry.handle db with
    | error e =>
      have hperform : perform db entry = db := by rw [perform, hhandle]
      rw [runEntries, List.foldl_cons, hperform]
      exact ih hstart hlinked
    | ok db' =>
      have hperform : perform db entry = db' := by rw [perform, hhandle]
      rw [runEntries, List.foldl_cons, hperform]
      obtain ⟨hlinked', htells⟩ := Entry.handle_tells hlinked hhandle
      exact ih (fun i => (htells i).replay (hstart i)) hlinked'

/-- What the audit log says of each incident is what the tables hold. -/
structure Database.AuditDecides (db : Database K) : Prop where
  incidents : ∀ incident ∈ db.incidents, ∃ d, Decisions.replay (db.eventsOf incident.id) = some d ∧
    incident.status = d.status ∧ incident.level = d.level ∧
    (db.plansOf incident.id).map (fun p => (p.version, p.status)) = d.plans ∧
    (∀ row ∈ db.contacts, row.incidentId = incident.id → row.response = d.responses row.id) ∧
    (incident.closedAt.isSome ↔ d.status = .closed) ∧
    (incident.closedBy.isSome ↔ d.status = .closed)
  plans : ∀ p ∈ db.plans, ∃ incident ∈ db.incidents, incident.id = p.incidentId
  contacts : ∀ row ∈ db.contacts, ∃ incident ∈ db.incidents, incident.id = row.incidentId

theorem Database.Linked.auditDecides (h : db.Linked)
    (hreplay : ∀ i, Decisions.replay (db.eventsOf i) = db.decided i) : db.AuditDecides := by
  refine ⟨?_, h.plan_of, ?_⟩
  · intro incident hincident
    have hfind : db.incidents.find? (·.id = incident.id) = some incident :=
      find?_key h.incident_ids hincident
    refine ⟨db.decisions incident, ?_, rfl, rfl, rfl, ?_, h.closing incident hincident⟩
    · rw [hreplay, decided, hfind]
      rfl
    · intro row hrow hi
      have hrowFind : db.contacts.find? (·.id = row.id) = some row := find?_key h.contact_ids hrow
      simp [decisions, response, hrowFind, Option.filter, hi]
  · intro row hrow
    obtain ⟨p, hp, -, hi, -⟩ := h.sound.cites row hrow
    rw [hi]
    exact h.plan_of p hp

/-- After any run of operations the audit log says what was decided. -/
theorem audit_decides (h : db.Empty) (entries : List (Entry K)) :
    (runEntries db entries).AuditDecides := by
  obtain ⟨hlinked, hreplay⟩ := replay_run h entries
  exact hlinked.auditDecides hreplay

end

/-- One village, and nothing declared. -/
def quietVillage : Database ℚ where
  communities := [⟨0, "47750", "상촌리", some 12, none, none, "live"⟩]
  nextId := 1

def fire : IncidentCreate where
  title := "산불"
  regionCode := "47750"
  hazard := .wildfire
  level := 2
  title_ok := by decide
  level_ok := by decide

/-- A fire is declared, its plan approved, the village called, and the incident closed. -/
def closedFire : List (Entry ℚ) :=
  [⟨"operator", 0, .declareIncident none fire⟩,
    ⟨"operator", 10, .workflow (.createPlan 1 villagePlan)⟩,
    ⟨"approver", 20, .workflow (.approvePlan 3 headsApproval)⟩,
    ⟨"operator", 30, .workflow (.startContacts 1 {})⟩,
    ⟨"operator", 40, .workflow (.updateContact 7 { response := .evacuating })⟩,
    ⟨"operator", 50, .updateIncident 1 { status := some .closed, level_ok := by simp }⟩]

theorem quietVillage_empty : quietVillage.Empty := ⟨⟨rfl, rfl, rfl, rfl, rfl⟩, rfl, rfl⟩

theorem audit_decides_closed_fire : (runEntries quietVillage closedFire).AuditDecides ∧
    (runEntries quietVillage closedFire).incidents.map (·.status) = [.closed] ∧
    (runEntries quietVillage closedFire).contacts.map (·.response) = [.evacuating] :=
  ⟨audit_decides quietVillage_empty closedFire, by decide, by decide⟩

end Salgil
