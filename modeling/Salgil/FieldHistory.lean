import Salgil.AuditReplay

namespace Salgil
set_option autoImplicit true

section
variable {K : Type} {db db' : Database K} {entry : Entry K}

/-- What an operation that is not refused does to the contacts, the tasks and the reports. -/
inductive FieldEffect (db : Database K) (entry : Entry K) (db' : Database K) : Prop where
  | round (incident : Incident) (payload : ContactStart) (plan : EvacuationPlan) :
      entry.operation = .workflow (.startContacts incident.id payload) →
      Planning.currentPlan db incident.id = some plan → plan.status = .approved →
      db'.contacts = db.contacts ++ ((db.planItems plan.id).filter (·.communityId ∉
        (db.contacts.filter fun row => row.incidentId = incident.id ∧
          row.planId = some plan.id).map (·.communityId))).mapIdx (fun index item =>
        Contacts.attempt db incident plan payload (db.nextId + index) item) →
      db'.tasks = db.tasks → db'.reports = db.reports → FieldEffect db entry db'
  | result (contactId : Uuid) (payload : ContactUpdate) (row : ContactAttempt) :
      entry.operation = .workflow (.updateContact contactId payload) →
      Contacts.get db contactId = .ok row →
      db'.contacts =
        (db.updateContact row.id (Contacts.recorded entry.now entry.actor payload)).contacts →
      db'.tasks = db.tasks → db'.reports = db.reports → FieldEffect db entry db'
  | added (rows : List FieldTask) : db'.contacts = db.contacts → db'.tasks = db.tasks ++ rows →
      rows.map (·.id) = List.range' db.nextId rows.length →
      db.nextId + rows.length ≤ db'.nextId → db'.reports = db.reports → FieldEffect db entry db'
  | edited (taskId : Uuid) (payload : TaskUpdate) (task : FieldTask) :
      entry.operation = .workflow (.updateTask taskId payload) → Tasks.get db taskId = .ok task →
      db'.contacts = db.contacts →
      db'.tasks = (db.updateTask task.id fun _ => (Tasks.applyUpdate payload task).1).tasks →
      db'.reports = db.reports → FieldEffect db entry db'
  | reported (taskId : Uuid) (payload : ReportCreate K) (task : FieldTask)
      (report : FieldReport K) :
      entry.operation = .workflow (.submitReport taskId payload) →
      Tasks.get db taskId = .ok task →
      Tasks.submitReport db entry.now entry.actor taskId payload = .ok (report, db') →
      db'.contacts = db.contacts →
      db'.tasks = (if task.status ∈ [.done, .cancelled] then db
        else db.updateTask task.id fun row => { row with status := .inReview }).tasks →
      FieldEffect db entry db'
  | unrelated : db'.contacts = db.contacts → db'.tasks = db.tasks → db'.reports = db.reports →
      FieldEffect db entry db'

namespace Tasks

theorem get_eq_ok {taskId : Uuid} {task : FieldTask} :
    get db taskId = .ok task ↔ db.tasks.find? (·.id = taskId) = some task := by
  unfold get
  split
  · next hfind => simp [hfind]
  · next hfind => simp [hfind]

theorem get_mem {taskId : Uuid} {task : FieldTask} (h : get db taskId = .ok task) :
    task ∈ db.tasks ∧ task.id = taskId := by
  rw [get_eq_ok] at h
  exact ⟨List.mem_of_find?_eq_some h, by simpa using List.find?_some h⟩

theorem submitReport_rows {now : Timestamp} {actor : String} {taskId : Uuid}
    {payload : ReportCreate K} {report : FieldReport K}
    (h : submitReport db now actor taskId payload = .ok (report, db')) :
    ∃ task, get db taskId = .ok task ∧ db'.contacts = db.contacts ∧
      db'.tasks = (if task.status ∈ [.done, .cancelled] then db
        else db.updateTask task.id fun row => { row with status := .inReview }).tasks := by
  obtain ⟨task, row, reason, summary, replan, hget, -, -, -, hkeeps, -, rfl⟩ :=
    submitReport_eq_ok h
  have hcontacts : replan.2.contacts = db.contacts := by
    rw [hkeeps]
    rfl
  have htasks : replan.2.tasks = (db.addReport task row).tasks := by rw [hkeeps]
  exact ⟨task, hget, hcontacts, htasks⟩

end Tasks

theorem Call.handle_fieldEffect {request : Request K}
    (hoperation : entry.operation = .workflow request)
    (hok : Call.handle ⟨entry.actor, entry.now, request⟩ db = .ok db') :
    FieldEffect db entry db' := by
  cases Call.handled hok with
  | createPlan _ _ _ _ _ hcreate =>
    rw [(Planning.create_eq_ok hcreate).2.1]
    exact .unrelated rfl rfl rfl
  | approvePlan _ _ _ _ happrove =>
    obtain ⟨plan, summary, -, -, -, rfl⟩ := Planning.approve_eq_ok happrove
    exact .unrelated rfl rfl rfl
  | startContacts incident payload created hrequest _ hstart =>
    obtain ⟨plan, summary, hplan, happroved, rfl, rfl⟩ := Contacts.startRound_eq_ok hstart
    exact .round incident payload plan (hoperation.trans (congrArg _ hrequest)) hplan happroved
      rfl rfl rfl
  | updateContact contactId payload _ hrequest hupdate =>
    obtain ⟨row, summary, hget, rfl⟩ := Contacts.update_eq_ok hupdate
    exact .result contactId payload row (hoperation.trans (congrArg _ hrequest)) hget rfl rfl rfl
  | createTask _ _ task _ _ hcreate =>
    obtain ⟨summary, hid, rfl⟩ := Tasks.create_eq_ok hcreate
    exact .added [task] rfl rfl (congrArg (fun id => [id]) hid) (Nat.le_succ _) rfl
  | generateTasks incident _ _ hdb' =>
    subst hdb'
    rcases Tasks.createFromUnreachable_cases db entry.now entry.actor incident with
      heq | ⟨tasks, summary, hids, heq⟩
    · rw [heq]
      exact .unrelated rfl rfl rfl
    · rw [heq]
      exact .added tasks rfl rfl hids (Nat.le_succ _) rfl
  | updateTask taskId payload _ hrequest hupdate =>
    obtain ⟨task, summary, hget, rfl | rfl⟩ := Tasks.update_eq_ok hupdate
    · exact .unrelated rfl rfl rfl
    · exact .edited taskId payload task (hoperation.trans (congrArg _ hrequest)) hget rfl rfl rfl
  | submitReport taskId payload report hrequest hsubmit =>
    obtain ⟨task, hget, hcontacts, htasks⟩ := Tasks.submitReport_rows hsubmit
    exact .reported taskId payload task report (hoperation.trans (congrArg _ hrequest)) hget
      hsubmit hcontacts htasks

theorem Entry.handle_fieldEffect (h : entry.handle db = .ok db') : FieldEffect db entry db' := by
  cases Entry.handled h with
  | workflow request hoperation hok => exact Call.handle_fieldEffect hoperation hok
  | declared _ _ _ _ _ _ hcreate =>
    obtain ⟨-, -, -, -, -, -, hdb, -⟩ := Incidents.create_eq_ok hcreate
    rw [hdb]
    exact .unrelated rfl rfl rfl
  | updated _ _ _ _ hupdate =>
    obtain ⟨target, summary, -, rfl | rfl⟩ := Incidents.update_eq_ok hupdate
    · exact .unrelated rfl rfl rfl
    · exact .unrelated rfl rfl rfl
  | declined _ hdb => exact .unrelated (hdb ▸ rfl) (hdb ▸ rfl) (hdb ▸ rfl)
  | community payload _ hdb =>
    subst hdb
    exact .unrelated rfl rfl rfl
  | shelter payload _ hdb =>
    subst hdb
    exact .unrelated rfl rfl rfl

theorem perform_fieldEffect (db : Database K) (entry : Entry K) :
    FieldEffect db entry (perform db entry) := by
  unfold perform
  split
  · next h => exact Entry.handle_fieldEffect h
  · exact .unrelated rfl rfl rfl

theorem perform_updateContact {contactId : Uuid} {payload : ContactUpdate} {row : ContactAttempt}
    (hoperation : entry.operation = .workflow (.updateContact contactId payload))
    (hget : Contacts.get db contactId = .ok row) :
    (perform db entry).contacts =
        (db.updateContact row.id (Contacts.recorded entry.now entry.actor payload)).contacts ∧
      (perform db entry).tasks = db.tasks := by
  rw [perform, Entry.handle, hoperation]
  simp only [Call.handle, Contacts.update, hget, ok_bind]
  exact ⟨rfl, rfl⟩

namespace Tasks

theorem applyUpdate_keeps (payload : TaskUpdate) (task : FieldTask) :
    (applyUpdate payload task).1.id = task.id ∧
      (applyUpdate payload task).1.incidentId = task.incidentId ∧
      (applyUpdate payload task).1.communityId = task.communityId ∧
      (applyUpdate payload task).1.kind = task.kind := by
  unfold applyUpdate
  dsimp only
  split <;> exact ⟨rfl, rfl, rfl, rfl⟩

/-- The status is the one asked for; else an assignee makes an unassigned task assigned. -/
theorem applyUpdate_status (payload : TaskUpdate) (task : FieldTask) :
    (applyUpdate payload task).1.status = payload.status.getD
      (if isGiven payload.assignee ∧ task.status = .unassigned then .assigned
        else task.status) := by
  cases hstatus : payload.status with
  | none =>
    simp only [applyUpdate, changed, hstatus, true_and, Option.getD_none]
    split <;> rfl
  | some status =>
    simp only [applyUpdate, changed, hstatus, reduceCtorEq, false_and, and_false, if_false,
      Option.getD_some]
    split
    · next heq => exact heq.symm
    · rfl

end Tasks

/-- The rows hang together, and no two tasks have one id. -/
structure Database.Tasked (db : Database K) : Prop extends db.Linked where
  task_ids : (db.tasks.map (·.id)).Nodup
  task_lt : ∀ task ∈ db.tasks, task.id < db.nextId

theorem Database.Tasked.of_empty (h : db.Empty) : db.Tasked where
  toLinked := .of_empty h
  task_ids := by simp [h.tasks]
  task_lt := by simp [h.tasks]

theorem Database.updateTask_ids {id : Uuid} {write : FieldTask → FieldTask}
    (hwrite : ∀ task ∈ db.tasks, task.id = id → (write task).id = task.id) :
    (db.updateTask id write).tasks.map (·.id) = db.tasks.map (·.id) := by
  rw [Database.updateTask, List.map_map]
  apply List.map_congr_left
  intro task htask
  simp only [Function.comp_apply]
  split
  · next hid => exact hwrite task htask hid
  · rfl

theorem FieldEffect.task_ids (h : FieldEffect db entry db') :
    db'.tasks.map (·.id) = db.tasks.map (·.id) ∨ ∃ n, db.nextId + n ≤ db'.nextId ∧
      db'.tasks.map (·.id) = db.tasks.map (·.id) ++ List.range' db.nextId n := by
  cases h with
  | round _ _ _ _ _ _ _ htasks => exact .inl (htasks ▸ rfl)
  | result _ _ _ _ _ _ htasks => exact .inl (htasks ▸ rfl)
  | added rows _ htasks hids hnext =>
    refine .inr ⟨rows.length, hnext, ?_⟩
    rw [htasks, List.map_append, hids]
  | edited taskId payload task _ _ _ htasks =>
    rw [htasks]
    refine .inl (Database.updateTask_ids fun other _ hid => ?_)
    exact (Tasks.applyUpdate_keeps payload task).1.trans hid.symm
  | reported _ _ task _ _ _ _ _ htasks =>
    rw [htasks]
    split
    · exact .inl rfl
    · exact .inl (Database.updateTask_ids fun _ _ _ => rfl)
  | unrelated _ htasks => exact .inl (htasks ▸ rfl)

theorem Database.Tasked.perform (h : db.Tasked) (entry : Entry K) :
    (perform db entry).Tasked := by
  have hnext := perform_le_nextId db entry
  have hlt : ∀ id ∈ db.tasks.map (·.id), id < db.nextId := by
    intro id hid
    obtain ⟨task, htask, rfl⟩ := List.mem_map.1 hid
    exact h.task_lt task htask
  refine ⟨h.toLinked.perform entry, ?_, fun task htask => ?_⟩
  · rcases (perform_fieldEffect db entry).task_ids with hids | ⟨n, -, hids⟩
    · rw [hids]
      exact h.task_ids
    · rw [hids, List.nodup_append]
      refine ⟨h.task_ids, List.nodup_range', fun id hid id' hid' heq => ?_⟩
      have hge := (List.mem_range'_1.1 hid').1
      exact absurd (heq ▸ hlt id hid) hge.not_gt
  · have hmem := List.mem_map_of_mem (f := (·.id)) htask
    rcases (perform_fieldEffect db entry).task_ids with hids | ⟨n, hn, hids⟩
    · exact (hlt task.id (hids ▸ hmem)).trans_le hnext
    · rw [hids, List.mem_append] at hmem
      rcases hmem with hold | hnew
      · exact (hlt task.id hold).trans_le hnext
      · exact (List.mem_range'_1.1 hnew).2.trans_le hn

end

end Salgil
