import Salgil.FieldWork

namespace Salgil
set_option autoImplicit true

/-- The requests that change plans, contacts, tasks and reports. -/
inductive Request (K : Type) where
  | createPlan (incidentId : Uuid) (payload : PlanCreate)
  | approvePlan (planId : Uuid) (payload : PlanApprove)
  | startContacts (incidentId : Uuid) (payload : ContactStart)
  | updateContact (contactId : Uuid) (payload : ContactUpdate)
  | createTask (incidentId : Uuid) (payload : TaskCreate)
  | generateTasks (incidentId : Uuid)
  | updateTask (taskId : Uuid) (payload : TaskUpdate)
  | submitReport (taskId : Uuid) (payload : ReportCreate K)

/-- A request with the name of the caller and the time of the call. -/
structure Call (K : Type) where
  actor : String
  now : Timestamp
  request : Request K

section
variable {K : Type}

/-- What the routes do with a request, up to the response. -/
def Call.handle (call : Call K) (db : Database K) : Except PyError (Database K) := do
  match call.request with
  | .createPlan incidentId payload =>
    let incident ← Incidents.get db incidentId
    return (← Planning.create db call.now call.actor incident payload).2
  | .approvePlan planId payload =>
    return (← Planning.approve db call.now call.actor planId payload).2
  | .startContacts incidentId payload =>
    let incident ← Incidents.get db incidentId
    return (← Contacts.startRound db call.now call.actor incident payload).2
  | .updateContact contactId payload =>
    return (← Contacts.update db call.now call.actor contactId payload).2
  | .createTask incidentId payload =>
    let incident ← Incidents.get db incidentId
    return (← Tasks.create db call.now call.actor incident payload).2
  | .generateTasks incidentId =>
    let incident ← Incidents.get db incidentId
    return (Tasks.createFromUnreachable db call.now call.actor incident).2
  | .updateTask taskId payload =>
    return (← Tasks.update db call.now call.actor taskId payload).2
  | .submitReport taskId payload =>
    return (← Tasks.submitReport db call.now call.actor taskId payload).2

/-- One request is one transaction: it is committed before the response, or rolled back. -/
def execute (db : Database K) (call : Call K) : Database K :=
  match call.handle db with
  | .ok db => db
  | .error _ => db

def runCalls (db : Database K) (calls : List (Call K)) : Database K := calls.foldl execute db

/-- No plan, contact, task or report has been made yet. -/
structure Database.Fresh (db : Database K) : Prop where
  plans : db.plans = []
  items : db.items = []
  contacts : db.contacts = []
  tasks : db.tasks = []
  reports : db.reports = []

variable {db db' : Database K} {call : Call K}

/-- What drafting a plan does to the rows of the others. -/
def superseding (db : Database K) (incidentId successor : Uuid) (row : EvacuationPlan) :
    EvacuationPlan :=
  if (Planning.currentPlan db incidentId).any (·.id = row.id) then row.supersede successor else row

theorem superseding_key (db : Database K) (incidentId successor : Uuid) (row : EvacuationPlan) :
    (superseding db incidentId successor row).id = row.id ∧
      (superseding db incidentId successor row).incidentId = row.incidentId ∧
      (superseding db incidentId successor row).version = row.version := by
  unfold superseding
  split <;> exact ⟨rfl, rfl, rfl⟩

/-- What a request does to the plans, their items and the contacts. -/
inductive Effect (db : Database K) (request : Request K) (db' : Database K) : Prop where
  | drafted (actor : String) (incident : Incident) (payload : PlanCreate) :
      request = .createPlan incident.id payload →
      (payload.items.map (·.communityId)).Nodup →
      db'.plans = (db.plans ++ [Planning.draft db actor incident payload]).map
        (superseding db incident.id db.nextId) →
      db'.items = db.items ++ payload.items.mapIdx (fun index item =>
        item.row (db.nextId + 1 + index) db.nextId index) →
      db'.contacts = db.contacts → db.nextId < db'.nextId →
      Effect db request db'
  | approved (plan : EvacuationPlan) (payload : PlanApprove) (now : Timestamp) :
      request = .approvePlan plan.id payload → Planning.get db plan.id = .ok plan →
      plan.status ≠ .approved → plan.status ≠ .superseded →
      db'.plans = (db.updatePlan plan.id (.approve payload.approver now)).plans →
      db'.items = db.items → db'.contacts = db.contacts → db.nextId ≤ db'.nextId →
      Effect db request db'
  | invalidated (incidentId : Uuid) (plan : EvacuationPlan) :
      Planning.currentPlan db incidentId = some plan → plan.status = .approved →
      db'.plans = (db.updatePlan plan.id EvacuationPlan.requireReapproval).plans →
      db'.items = db.items → db'.contacts = db.contacts → db.nextId ≤ db'.nextId →
      Effect db request db'
  | contacted (incident : Incident) (payload : ContactStart) (plan : EvacuationPlan) :
      request = .startContacts incident.id payload →
      Planning.currentPlan db incident.id = some plan → plan.status = .approved →
      db'.plans = db.plans → db'.items = db.items →
      db'.contacts = db.contacts ++ ((db.planItems plan.id).filter (·.communityId ∉
        (db.contacts.filter fun row => row.incidentId = incident.id ∧
          row.planId = some plan.id).map (·.communityId))).mapIdx (fun index item =>
        Contacts.attempt db incident plan payload (db.nextId + index) item) →
      db.nextId + (db'.contacts.length - db.contacts.length) ≤ db'.nextId →
      Effect db request db'
  | recorded (id : Uuid) (write : ContactAttempt → ContactAttempt) :
      (∀ row, (write row).id = row.id ∧ (write row).incidentId = row.incidentId ∧
        (write row).planId = row.planId ∧ (write row).communityId = row.communityId) →
      db'.plans = db.plans → db'.items = db.items →
      db'.contacts = (db.updateContact id write).contacts → db.nextId ≤ db'.nextId →
      Effect db request db'
  | unrelated : db'.plans = db.plans → db'.items = db.items → db'.contacts = db.contacts →
      db.nextId ≤ db'.nextId → Effect db request db'

theorem Incidents.get_eq_ok {incidentId : Uuid} {incident : Incident} :
    Incidents.get db incidentId = .ok incident ↔
      db.incidents.find? (·.id = incidentId) = some incident := by
  unfold Incidents.get
  split
  · next hfind => simp [hfind]
  · next hfind => simp [hfind]

theorem Incidents.get_mem {incidentId : Uuid} {incident : Incident}
    (h : Incidents.get db incidentId = .ok incident) :
    incident ∈ db.incidents ∧ incident.id = incidentId := by
  rw [Incidents.get_eq_ok] at h
  exact ⟨List.mem_of_find?_eq_some h, by simpa using List.find?_some h⟩

theorem Planning.get_eq_ok {planId : Uuid} {plan : EvacuationPlan} :
    Planning.get db planId = .ok plan ↔ db.plans.find? (·.id = planId) = some plan := by
  unfold Planning.get
  split
  · next hfind => simp [hfind]
  · next hfind => simp [hfind]

theorem Planning.create_eq_ok {now : Timestamp} {actor : String} {incident : Incident}
    {payload : PlanCreate} {plan : EvacuationPlan}
    (h : Planning.create db now actor incident payload = .ok (plan, db')) :
    validateItems db payload = .ok () ∧
      db' = { db with
        plans := (db.plans ++ [draft db actor incident payload]).map
          (superseding db incident.id db.nextId)
        items := db.items ++ payload.items.mapIdx fun index item =>
          item.row (db.nextId + 1 + index) db.nextId index
        events := db'.events
        nextId := db.nextId + 1 + payload.items.length + 1 } ∧
      ∃ event, db'.events = db.events ++ [event] ∧ event.incidentId = some incident.id ∧
        event.action =
          .planDrafted (draft db actor incident payload).version payload.items.length := by
  obtain ⟨_, hvalid, h⟩ := bind_eq_ok.1 h
  refine ⟨hvalid, ?_⟩
  cases h
  cases hprevious : currentPlan db incident.id with
  | none =>
    have hkeep : superseding db incident.id db.nextId = id := by
      funext row
      simp [superseding, hprevious]
    exact ⟨by simp [hkeep, Audit.record, Database.addItems, Database.addPlan, draft], _, rfl, rfl,
      rfl⟩
  | some previous =>
    have hwrite : superseding db incident.id db.nextId = fun row =>
        if row.id = previous.id then row.supersede db.nextId else row := by
      funext row
      simp [superseding, hprevious, eq_comm]
    exact ⟨by simp [hwrite, Audit.record, Database.addItems, Database.addPlan,
      Database.updatePlan, draft], _, rfl, rfl, rfl⟩

theorem Planning.approve_eq_ok {now : Timestamp} {actor : String} {planId : Uuid}
    {payload : PlanApprove} {approved : EvacuationPlan}
    (h : Planning.approve db now actor planId payload = .ok (approved, db')) :
    ∃ plan summary, get db planId = .ok plan ∧ plan.status ≠ .approved ∧
      plan.status ≠ .superseded ∧
      db' = Audit.record (db.updatePlan plan.id (.approve payload.approver now)) now actor
        (.planApproved plan.version payload.approver payload.note payload.acknowledgeCaveats)
        (some plan.incidentId) (some plan.id) summary := by
  obtain ⟨plan, hget, h⟩ := bind_eq_ok.1 h
  split at h
  · cases h
  · next happroved =>
    split at h
    · cases h
    · next hsuperseded =>
      cases h
      exact ⟨plan, _, hget, happroved, hsuperseded, rfl⟩

theorem Contacts.startRound_eq_ok {now : Timestamp} {actor : String} {incident : Incident}
    {payload : ContactStart} {created : List ContactAttempt}
    (h : Contacts.startRound db now actor incident payload = .ok (created, db')) :
    ∃ plan summary, Planning.currentPlan db incident.id = some plan ∧ plan.status = .approved ∧
      created = ((db.planItems plan.id).filter (·.communityId ∉
        (db.contacts.filter fun row => row.incidentId = incident.id ∧
          row.planId = some plan.id).map (·.communityId))).mapIdx (fun index item =>
        attempt db incident plan payload (db.nextId + index) item) ∧
      db' = Audit.record (db.addContacts created) now actor
        (.contactStarted plan.version payload.channel created.length) (some incident.id)
        (some plan.id) summary := by
  simp only [startRound] at h
  split at h
  · cases h
  · next plan hplan =>
    split at h
    · cases h
    · next happroved =>
      cases h
      exact ⟨plan, _, hplan, not_not.1 happroved, rfl, rfl⟩

theorem Contacts.update_eq_ok {now : Timestamp} {actor : String} {contactId : Uuid}
    {payload : ContactUpdate} {updated : ContactAttempt}
    (h : Contacts.update db now actor contactId payload = .ok (updated, db')) :
    ∃ row summary, get db contactId = .ok row ∧
      db' = Audit.record (db.updateContact row.id (recorded now actor payload)) now actor
        (.contactRecorded payload.response payload.followUp) (some row.incidentId) (some row.id)
        summary := by
  obtain ⟨row, hget, h⟩ := bind_eq_ok.1 h
  cases h
  exact ⟨row, _, hget, rfl⟩

theorem Tasks.create_eq_ok {now : Timestamp} {actor : String} {incident : Incident}
    {payload : TaskCreate} {task : FieldTask}
    (h : Tasks.create db now actor incident payload = .ok (task, db')) :
    ∃ summary, task.id = db.nextId ∧
      db' = Audit.record (db.addTasks [task]) now actor
        (.taskCreated payload.kind payload.priority) (some incident.id) (some task.id)
        summary := by
  simp only [create] at h
  split at h
  · cases h
    exact ⟨_, rfl, rfl⟩
  · cases h

theorem Tasks.createFromUnreachable_cases (db : Database K) (now : Timestamp) (actor : String)
    (incident : Incident) :
    (Tasks.createFromUnreachable db now actor incident).2 = db ∨
      ∃ tasks summary, tasks.map (·.id) = List.range' db.nextId tasks.length ∧
        (Tasks.createFromUnreachable db now actor incident).2 =
          Audit.record (db.addTasks tasks) now actor (.taskGenerated tasks.length)
            (some incident.id) none summary := by
  simp only [createFromUnreachable]
  split
  · exact .inl rfl
  · refine .inr ⟨_, _, ?_, rfl⟩
    apply List.ext_getElem <;> simp [verification]

theorem Tasks.update_eq_ok {now : Timestamp} {actor : String} {taskId : Uuid}
    {payload : TaskUpdate} {updated : FieldTask}
    (h : Tasks.update db now actor taskId payload = .ok (updated, db')) :
    ∃ task summary, get db taskId = .ok task ∧ (db' = db ∨
      db' = Audit.record (db.updateTask task.id fun _ => (applyUpdate payload task).1) now actor
        (.taskUpdated (applyUpdate payload task).2) (some task.incidentId) (some task.id)
        summary) := by
  obtain ⟨task, hget, h⟩ := bind_eq_ok.1 h
  simp only at h
  split at h
  · cases h
    exact ⟨updated, "", hget, .inl rfl⟩
  · cases h
    exact ⟨task, _, hget, .inr rfl⟩

theorem Planning.markNeedsReapproval_cases (db : Database K) (now : Timestamp) (actor : String)
    (incidentId : Uuid) (reason : String) :
    markNeedsReapproval db now actor incidentId reason = (currentPlan db incidentId, db) ∧
        (∀ plan, currentPlan db incidentId = some plan → plan.status ≠ .approved) ∨
      ∃ plan summary, currentPlan db incidentId = some plan ∧ plan.status = .approved ∧
        markNeedsReapproval db now actor incidentId reason = (some plan.requireReapproval,
          Audit.record (db.updatePlan plan.id EvacuationPlan.requireReapproval) now actor
            (.planReapprovalRequired plan.version reason) (some incidentId) (some plan.id)
            summary) := by
  unfold markNeedsReapproval
  cases hplan : currentPlan db incidentId with
  | none => exact .inl ⟨rfl, nofun⟩
  | some plan =>
    by_cases happroved : plan.status = .approved
    · exact .inr ⟨plan, _, rfl, happroved, if_neg (not_not.2 happroved)⟩
    · refine .inl ⟨if_pos happroved, fun other hother => ?_⟩
      rwa [← Option.some.inj hother]

theorem Planning.markNeedsReapproval_keeps (db : Database K) (now : Timestamp) (actor : String)
    (incidentId : Uuid) (reason : String) :
    (markNeedsReapproval db now actor incidentId reason).2 =
      { db with
        plans := (markNeedsReapproval db now actor incidentId reason).2.plans
        events := (markNeedsReapproval db now actor incidentId reason).2.events
        nextId := (markNeedsReapproval db now actor incidentId reason).2.nextId } := by
  rcases markNeedsReapproval_cases db now actor incidentId reason with
    ⟨heq, -⟩ | ⟨plan, summary, -, -, heq⟩
  · rw [heq]
  · rw [heq]
    rfl

/-- The first flush of a report: its row, and the task in review. -/
def Database.addReport (db : Database K) (task : FieldTask) (row : FieldReport K) : Database K :=
  { db with
    reports := db.reports ++ [row]
    tasks := (if task.status ∈ [.done, .cancelled] then db
      else db.updateTask task.id fun row => { row with status := .inReview }).tasks
    nextId := db.nextId + 1 }

/-- A report is written, then the plan is looked at, and last the report is marked and told. -/
theorem Tasks.submitReport_eq_ok {now : Timestamp} {actor : String} {taskId : Uuid}
    {payload : ReportCreate K} {report : FieldReport K}
    (h : Tasks.submitReport db now actor taskId payload = .ok (report, db')) :
    ∃ task row reason summary replan, get db taskId = .ok task ∧ row.id = db.nextId ∧
      row.incidentId = task.incidentId ∧
      replan = (if payload.requestReplan = true ∨ payload.accessConstraints ≠ [] then
        ((Planning.markNeedsReapproval (db.addReport task row) now actor task.incidentId
            reason).1.any (·.status = .reapprovalRequired),
          (Planning.markNeedsReapproval (db.addReport task row) now actor task.incidentId
            reason).2)
        else (false, db.addReport task row)) ∧
      replan.2 = { db.addReport task row with
        plans := replan.2.plans
        events := replan.2.events
        nextId := replan.2.nextId } ∧
      report = { row with triggeredReplan := replan.1 } ∧
      db' = Audit.record { replan.2 with
          reports := replan.2.reports.map fun r =>
            if r.id = row.id then { r with triggeredReplan := replan.1 } else r } now actor
        (.reportSubmitted payload.observation payload.accessConstraints.length replan.1)
        (some task.incidentId) (some row.id) summary := by
  obtain ⟨task, hget, h⟩ := bind_eq_ok.1 h
  simp only [pure_eq_ok, Except.ok.injEq, Prod.mk.injEq] at h
  obtain ⟨hreport, hdb'⟩ := h
  have hfirst (row : FieldReport K) : (if task.status ∈ [TaskStatus.done, .cancelled] then
      { db with reports := db.reports ++ [row], nextId := db.nextId + 1 }
      else Database.updateTask { db with reports := db.reports ++ [row], nextId := db.nextId + 1 }
        task.id fun row => { row with status := .inReview }) = db.addReport task row := by
    rw [Database.addReport]
    split <;> rfl
  rw [hfirst] at hreport hdb'
  refine ⟨task, _, _, _, _, hget, rfl, rfl, rfl, ?_, hreport.symm, hdb'.symm⟩
  split
  · exact Planning.markNeedsReapproval_keeps _ _ _ _ _
  · rfl

theorem Planning.create_effect {now : Timestamp} {actor : String} {incident : Incident}
    {payload : PlanCreate} {plan : EvacuationPlan}
    (h : Planning.create db now actor incident payload = .ok (plan, db')) :
    Effect db (.createPlan incident.id payload) db' := by
  obtain ⟨hvalid, hdb, -⟩ := Planning.create_eq_ok h
  have hnodup : (payload.items.map (·.communityId)).Nodup := by
    unfold validateItems at hvalid
    by_contra hnot
    simp [hnot] at hvalid
  have hnext : db.nextId < db.nextId + 1 + payload.items.length + 1 := by omega
  rw [hdb]
  exact .drafted actor incident payload rfl hnodup rfl rfl rfl hnext

theorem Planning.approve_effect {now : Timestamp} {actor : String} {planId : Uuid}
    {payload : PlanApprove} {plan : EvacuationPlan}
    (hok : Planning.approve db now actor planId payload = .ok (plan, db')) :
    Effect db (.approvePlan planId payload) db' := by
  obtain ⟨plan, summary, hget, happroved, hsuperseded, rfl⟩ := Planning.approve_eq_ok hok
  have hid : plan.id = planId := by simpa using List.find?_some (Planning.get_eq_ok.1 hget)
  subst hid
  exact .approved plan payload now rfl hget happroved hsuperseded rfl rfl rfl (Nat.le_succ _)

theorem Contacts.startRound_effect {now : Timestamp} {actor : String} {incident : Incident}
    {payload : ContactStart} {created : List ContactAttempt}
    (h : Contacts.startRound db now actor incident payload = .ok (created, db')) :
    Effect db (.startContacts incident.id payload) db' := by
  obtain ⟨plan, summary, hplan, happroved, rfl, rfl⟩ := startRound_eq_ok h
  refine .contacted incident payload plan rfl hplan happroved rfl rfl rfl ?_
  simp only [Audit.record, Database.addContacts, List.length_append, Nat.add_sub_cancel_left]
  exact Nat.le_succ _

theorem Contacts.update_effect {now : Timestamp} {actor : String} {contactId : Uuid}
    {payload : ContactUpdate} {row : ContactAttempt}
    (h : Contacts.update db now actor contactId payload = .ok (row, db')) :
    Effect db (.updateContact contactId payload) db' := by
  obtain ⟨row, summary, -, rfl⟩ := update_eq_ok h
  exact .recorded row.id (recorded now actor payload) (fun _ => ⟨rfl, rfl, rfl, rfl⟩) rfl rfl rfl
    (Nat.le_succ _)

theorem Effect.frame {request : Request K} {db₁ : Database K} (h : Effect db request db₁)
    (hplans : db'.plans = db₁.plans) (hitems : db'.items = db₁.items)
    (hcontacts : db'.contacts = db₁.contacts) (hnext : db₁.nextId ≤ db'.nextId) :
    Effect db request db' := by
  cases h with
  | drafted actor incident payload hrequest hnodup hp hi hc hn =>
    exact .drafted actor incident payload hrequest hnodup (hplans.trans hp) (hitems.trans hi)
      (hcontacts.trans hc) (hn.trans_le hnext)
  | approved plan payload now hrequest hget ha hs hp hi hc hn =>
    exact .approved plan payload now hrequest hget ha hs (hplans.trans hp) (hitems.trans hi)
      (hcontacts.trans hc) (hn.trans hnext)
  | invalidated incidentId plan hcurrent ha hp hi hc hn =>
    exact .invalidated incidentId plan hcurrent ha (hplans.trans hp) (hitems.trans hi)
      (hcontacts.trans hc) (hn.trans hnext)
  | contacted incident payload plan hrequest hcurrent ha hp hi hc hn =>
    exact .contacted incident payload plan hrequest hcurrent ha (hplans.trans hp) (hitems.trans hi)
      (hcontacts.trans hc) (hcontacts ▸ hn.trans hnext)
  | recorded id write hwrite hp hi hc hn =>
    exact .recorded id write hwrite (hplans.trans hp) (hitems.trans hi) (hcontacts.trans hc)
      (hn.trans hnext)
  | unrelated hp hi hc hn =>
    exact .unrelated (hplans.trans hp) (hitems.trans hi) (hcontacts.trans hc) (hn.trans hnext)

/-- A report only ever touches the current plan of its incident, and only if it is approved. -/
theorem Planning.markNeedsReapproval_effect {db₁ : Database K} (hplans : db₁.plans = db.plans)
    (hitems : db₁.items = db.items) (hcontacts : db₁.contacts = db.contacts)
    (hnext : db.nextId ≤ db₁.nextId) (now : Timestamp) (actor : String) (incidentId : Uuid)
    (reason : String) (request : Request K) :
    Effect db request (Planning.markNeedsReapproval db₁ now actor incidentId reason).2 := by
  have hcurrent : currentPlan db₁ incidentId = currentPlan db incidentId := by
    rw [currentPlan, currentPlan, hplans]
  rcases markNeedsReapproval_cases db₁ now actor incidentId reason with
    ⟨heq, -⟩ | ⟨plan, summary, hplan, happroved, heq⟩
  · rw [heq]
    exact .unrelated hplans hitems hcontacts hnext
  · rw [heq]
    refine .invalidated incidentId plan (hcurrent.symm.trans hplan) happroved ?_ hitems hcontacts
      (hnext.trans (Nat.le_succ _))
    simp only [Audit.record, Database.updatePlan, hplans]

theorem Tasks.create_effect {now : Timestamp} {actor : String} {incident : Incident}
    {payload : TaskCreate} {task : FieldTask} {request : Request K}
    (h : Tasks.create db now actor incident payload = .ok (task, db')) :
    Effect db request db' := by
  obtain ⟨summary, -, rfl⟩ := create_eq_ok h
  exact .unrelated rfl rfl rfl (Nat.le_add_right _ 2)

theorem Tasks.createFromUnreachable_effect (db : Database K) (now : Timestamp) (actor : String)
    (incident : Incident) (request : Request K) :
    Effect db request (Tasks.createFromUnreachable db now actor incident).2 := by
  rcases createFromUnreachable_cases db now actor incident with hdb | ⟨tasks, summary, -, hdb⟩
  · rw [hdb]
    exact .unrelated rfl rfl rfl le_rfl
  · rw [hdb]
    exact .unrelated rfl rfl rfl ((Nat.le_add_right _ _).trans (Nat.le_succ _))

theorem Tasks.update_effect {now : Timestamp} {actor : String} {taskId : Uuid}
    {payload : TaskUpdate} {task : FieldTask} {request : Request K}
    (hok : Tasks.update db now actor taskId payload = .ok (task, db')) :
    Effect db request db' := by
  obtain ⟨task, summary, -, rfl | rfl⟩ := update_eq_ok hok
  · exact .unrelated rfl rfl rfl le_rfl
  · exact .unrelated rfl rfl rfl (Nat.le_succ _)

theorem Tasks.submitReport_effect {now : Timestamp} {actor : String} {taskId : Uuid}
    {payload : ReportCreate K} {report : FieldReport K} {request : Request K}
    (hok : Tasks.submitReport db now actor taskId payload = .ok (report, db')) :
    Effect db request db' := by
  obtain ⟨task, row, reason, summary, replan, -, -, -, hreplan, -, -, rfl⟩ :=
    submitReport_eq_ok hok
  -- the first flush touches neither plans nor items nor contacts
  have hplans : (db.addReport task row).plans = db.plans := rfl
  have hnext : db.nextId ≤ (db.addReport task row).nextId := Nat.le_succ _
  have hsecond : Effect db request replan.2 := by
    rw [hreplan]
    split
    · exact Planning.markNeedsReapproval_effect hplans rfl rfl hnext now actor _ _ _
    · exact .unrelated hplans rfl rfl hnext
  exact hsecond.frame rfl rfl rfl (Nat.le_succ _)

/-- What a request that is not refused was handled by. -/
inductive Call.Handled (call : Call K) (db db' : Database K) : Prop where
  | createPlan (incident : Incident) (payload : PlanCreate) (plan : EvacuationPlan) :
      call.request = .createPlan incident.id payload →
      Incidents.get db incident.id = .ok incident →
      Planning.create db call.now call.actor incident payload = .ok (plan, db') →
      Call.Handled call db db'
  | approvePlan (planId : Uuid) (payload : PlanApprove) (plan : EvacuationPlan) :
      call.request = .approvePlan planId payload →
      Planning.approve db call.now call.actor planId payload = .ok (plan, db') →
      Call.Handled call db db'
  | startContacts (incident : Incident) (payload : ContactStart) (created : List ContactAttempt) :
      call.request = .startContacts incident.id payload →
      Incidents.get db incident.id = .ok incident →
      Contacts.startRound db call.now call.actor incident payload = .ok (created, db') →
      Call.Handled call db db'
  | updateContact (contactId : Uuid) (payload : ContactUpdate) (row : ContactAttempt) :
      call.request = .updateContact contactId payload →
      Contacts.update db call.now call.actor contactId payload = .ok (row, db') →
      Call.Handled call db db'
  | createTask (incident : Incident) (payload : TaskCreate) (task : FieldTask) :
      call.request = .createTask incident.id payload →
      Incidents.get db incident.id = .ok incident →
      Tasks.create db call.now call.actor incident payload = .ok (task, db') →
      Call.Handled call db db'
  | generateTasks (incident : Incident) :
      call.request = .generateTasks incident.id →
      Incidents.get db incident.id = .ok incident →
      (Tasks.createFromUnreachable db call.now call.actor incident).2 = db' →
      Call.Handled call db db'
  | updateTask (taskId : Uuid) (payload : TaskUpdate) (task : FieldTask) :
      call.request = .updateTask taskId payload →
      Tasks.update db call.now call.actor taskId payload = .ok (task, db') →
      Call.Handled call db db'
  | submitReport (taskId : Uuid) (payload : ReportCreate K) (report : FieldReport K) :
      call.request = .submitReport taskId payload →
      Tasks.submitReport db call.now call.actor taskId payload = .ok (report, db') →
      Call.Handled call db db'

theorem Call.handled (h : call.handle db = .ok db') : Call.Handled call db db' := by
  unfold handle at h
  split at h
  · next incidentId payload hrequest =>
    obtain ⟨incident, hget, h⟩ := bind_eq_ok.1 h
    obtain ⟨⟨plan, _⟩, hcreate, h⟩ := bind_eq_ok.1 h
    cases h
    obtain rfl := (Incidents.get_mem hget).2
    exact .createPlan incident payload plan hrequest hget hcreate
  · next planId payload hrequest =>
    obtain ⟨⟨plan, _⟩, happrove, h⟩ := bind_eq_ok.1 h
    cases h
    exact .approvePlan planId payload plan hrequest happrove
  · next incidentId payload hrequest =>
    obtain ⟨incident, hget, h⟩ := bind_eq_ok.1 h
    obtain ⟨⟨created, _⟩, hstart, h⟩ := bind_eq_ok.1 h
    cases h
    obtain rfl := (Incidents.get_mem hget).2
    exact .startContacts incident payload created hrequest hget hstart
  · next contactId payload hrequest =>
    obtain ⟨⟨row, _⟩, hupdate, h⟩ := bind_eq_ok.1 h
    cases h
    exact .updateContact contactId payload row hrequest hupdate
  · next incidentId payload hrequest =>
    obtain ⟨incident, hget, h⟩ := bind_eq_ok.1 h
    obtain ⟨⟨task, _⟩, hcreate, h⟩ := bind_eq_ok.1 h
    cases h
    obtain rfl := (Incidents.get_mem hget).2
    exact .createTask incident payload task hrequest hget hcreate
  · next incidentId hrequest =>
    obtain ⟨incident, hget, h⟩ := bind_eq_ok.1 h
    cases h
    obtain rfl := (Incidents.get_mem hget).2
    exact .generateTasks incident hrequest hget rfl
  · next taskId payload hrequest =>
    obtain ⟨⟨task, _⟩, hupdate, h⟩ := bind_eq_ok.1 h
    cases h
    exact .updateTask taskId payload task hrequest hupdate
  · next taskId payload hrequest =>
    obtain ⟨⟨report, _⟩, hsubmit, h⟩ := bind_eq_ok.1 h
    cases h
    exact .submitReport taskId payload report hrequest hsubmit

theorem Call.handle_effect (h : call.handle db = .ok db') : Effect db call.request db' := by
  cases Call.handled h with
  | createPlan incident payload plan hrequest _ hcreate =>
    rw [hrequest]
    exact Planning.create_effect hcreate
  | approvePlan planId payload plan hrequest happrove =>
    rw [hrequest]
    exact Planning.approve_effect happrove
  | startContacts incident payload created hrequest _ hstart =>
    rw [hrequest]
    exact Contacts.startRound_effect hstart
  | updateContact contactId payload row hrequest hupdate =>
    rw [hrequest]
    exact Contacts.update_effect hupdate
  | createTask _ _ _ _ _ hcreate => exact Tasks.create_effect hcreate
  | generateTasks _ _ _ hdb' =>
    subst hdb'
    exact Tasks.createFromUnreachable_effect _ _ _ _ _
  | updateTask _ _ _ _ hupdate => exact Tasks.update_effect hupdate
  | submitReport _ _ _ _ hsubmit => exact Tasks.submitReport_effect hsubmit

theorem execute_effect (db : Database K) (call : Call K) :
    Effect db call.request (execute db call) := by
  unfold execute
  split
  · next h => exact Call.handle_effect h
  · exact .unrelated rfl rfl rfl le_rfl

end

end Salgil
