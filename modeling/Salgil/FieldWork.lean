import Salgil.Planning

namespace Salgil
set_option autoImplicit true

structure ContactStart where
  channel : ContactChannel := .callSms
  note : Option String := none

structure ContactUpdate where
  response : ContactResponse
  householdsConfirmed : Option ℕ := none
  followUp : Option String := none

structure TaskCreate where
  title : String
  detail : Option String := none
  communityId : Option Uuid := none
  kind : TaskKind := .verify
  priority : ℕ := 2
  assignee : Option String := none
  dueAt : Option Timestamp := none
  title_ok : title.length ≤ 200
  priority_ok : 1 ≤ priority ∧ priority ≤ 3

theorem defaultPriority_ok : 1 ≤ 2 ∧ 2 ≤ 3 := by decide

structure TaskUpdate where
  status : Option TaskStatus := none
  assignee : Option String := none
  priority : Option ℕ := none
  detail : Option String := none
  dueAt : Option Timestamp := none
  priority_ok : ∀ n ∈ priority, 1 ≤ n ∧ n ≤ 3

structure ReportCreate (K : Type u) where
  body : String
  observation : Observation := .other
  householdsVerified : Option ℕ := none
  accessConstraints : List (AccessConstraint K) := []
  requestReplan : Bool := false
  body_ok : 1 ≤ body.length

/-- A text counts as given if there is one and it is not empty. -/
def isGiven (text : Option String) : Bool := text.any (· ≠ "")

section
variable {K : Type}

def Database.addContacts (db : Database K) (rows : List ContactAttempt) : Database K :=
  { db with contacts := db.contacts ++ rows, nextId := db.nextId + rows.length }

def Database.addTasks (db : Database K) (rows : List FieldTask) : Database K :=
  { db with tasks := db.tasks ++ rows, nextId := db.nextId + rows.length }

def Database.updateContact (db : Database K) (id : Uuid)
    (write : ContactAttempt → ContactAttempt) : Database K :=
  { db with contacts := db.contacts.map fun row => if row.id = id then write row else row }

def Database.updateTask (db : Database K) (id : Uuid) (write : FieldTask → FieldTask) :
    Database K :=
  { db with tasks := db.tasks.map fun row => if row.id = id then write row else row }

namespace Contacts

/-- The row for one item of the plan. -/
def attempt (db : Database K) (incident : Incident) (plan : EvacuationPlan)
    (payload : ContactStart) (id : Uuid) (item : PlanItem) : ContactAttempt :=
  let community := db.communities.find? (·.id = item.communityId)
  { id := id
    incidentId := incident.id
    planId := some plan.id
    communityId := item.communityId
    households := (community.bind (·.households)).getD 0
    householdsConfirmed := 0
    channel := payload.channel
    response := .pending
    followUp := payload.note
    attemptedAt := none
    recordedBy := none
    dataMode := (community.map (·.dataMode)).getD "synthetic" }

def startRound (db : Database K) (now : Timestamp) (actor : String) (incident : Incident)
    (payload : ContactStart) : Except PyError (List ContactAttempt × Database K) :=
  match Planning.currentPlan db incident.id with
  | none => .error (.salgil (.conflict "대피계획이 없습니다 — 계획을 먼저 기안하세요"))
  | some plan =>
    if plan.status ≠ .approved then
      .error (.salgil (.conflict ("계획 v" ++ toString plan.version ++ " 상태가 " ++
        plan.status.value ++ " 입니다 — 승인 후에 연락을 개시할 수 있습니다")))
    else
      let existing := (db.contacts.filter fun row =>
        row.incidentId = incident.id ∧ row.planId = some plan.id).map (·.communityId)
      let created := ((db.planItems plan.id).filter (·.communityId ∉ existing)).mapIdx
        fun index item => attempt db incident plan payload (db.nextId + index) item
      .ok (created, Audit.record (db.addContacts created) now actor
        (.contactStarted plan.version payload.channel created.length) (some incident.id)
        (some plan.id) ("주민 연락 개시 — 계획 v" ++ toString plan.version ++ ", 대상 " ++
          toString created.length ++ "개 마을"))

def get (db : Database K) (contactId : Uuid) : Except PyError ContactAttempt :=
  match db.contacts.find? (·.id = contactId) with
  | some row => .ok row
  | none => .error (.salgil (.notFound ("연락 기록 " ++ toString contactId ++ " 를 찾지 못했습니다")))

/-- The row with the result of the call. -/
def recorded (now : Timestamp) (actor : String) (payload : ContactUpdate) (row : ContactAttempt) :
    ContactAttempt :=
  { row with
    response := payload.response
    householdsConfirmed := payload.householdsConfirmed.getD row.householdsConfirmed
    followUp := payload.followUp.or row.followUp
    attemptedAt := some now
    recordedBy := some actor }

def update (db : Database K) (now : Timestamp) (actor : String) (contactId : Uuid)
    (payload : ContactUpdate) : Except PyError (ContactAttempt × Database K) := do
  let row ← get db contactId
  let write := recorded now actor payload
  return (write row, Audit.record (db.updateContact row.id write) now actor
    (.contactRecorded payload.response payload.followUp) (some row.incidentId) (some row.id)
    ("연락 결과 기록: " ++ payload.response.value))

end Contacts

namespace Tasks

/-- A task may only name a community that exists. -/
def create (db : Database K) (now : Timestamp) (actor : String) (incident : Incident)
    (payload : TaskCreate) : Except PyError (FieldTask × Database K) :=
  let task : FieldTask := {
    id := db.nextId
    incidentId := incident.id
    communityId := payload.communityId
    title := payload.title
    detail := payload.detail
    kind := payload.kind
    priority := payload.priority
    status := if isGiven payload.assignee then .assigned else .unassigned
    assignee := payload.assignee
    dueAt := payload.dueAt
    createdBy := actor }
  if payload.communityId.all (· ∈ db.communities.map (·.id)) then
    .ok (task, Audit.record (db.addTasks [task]) now actor
      (.taskCreated payload.kind payload.priority) (some incident.id) (some task.id)
      ("현장 임무 등록: " ++ payload.title))
  else .error .integrityError

/-- The task for one unreachable village. -/
def verification (db : Database K) (actor : String) (incident : Incident) (id : Uuid)
    (row : ContactAttempt) : FieldTask :=
  let name := ((db.communities.find? (·.id = row.communityId)).map (·.name)).getD
    (toString row.communityId)
  { id := id
    incidentId := incident.id
    communityId := some row.communityId
    title := "미연락 세대 확인 — " ++ name
    detail := some (toString row.households ++ "세대 중 확인 " ++
      toString row.householdsConfirmed ++ "세대. 현장 확인 필요")
    kind := .verifyHousehold
    priority := 1
    status := .unassigned
    assignee := none
    dueAt := none
    createdBy := actor }

def createFromUnreachable (db : Database K) (now : Timestamp) (actor : String)
    (incident : Incident) : List FieldTask × Database K :=
  let unreachable := db.contacts.filter fun row =>
    row.incidentId = incident.id ∧ row.response = .unreachable
  let existing := (db.tasks.filter fun task => task.incidentId = incident.id ∧
    task.kind = .verifyHousehold ∧ task.status ∉ [.done, .cancelled]).map (·.communityId)
  let created := (unreachable.filter fun row => some row.communityId ∉ existing).mapIdx
    fun index row => verification db actor incident (db.nextId + index) row
  if created = [] then ([], db)
  else (created, Audit.record (db.addTasks created) now actor (.taskGenerated created.length)
    (some incident.id) none ("미연락 마을 " ++ toString created.length ++
      "곳을 현장 확인 임무로 전환"))

def get (db : Database K) (taskId : Uuid) : Except PyError FieldTask :=
  match db.tasks.find? (·.id = taskId) with
  | some task => .ok task
  | none => .error (.salgil (.notFound ("임무 " ++ toString taskId ++ " 를 찾지 못했습니다")))

/-- One round of the loop over the fields: the new value, and its text if it changes. -/
def changed [DecidableEq α] (field : String) (text : α → String) (value : Option α) (current : α) :
    α × List (String × String) :=
  match value with
  | some value => if value = current then (current, []) else (value, [(field, text value)])
  | none => (current, [])

/-- The task after an update, with the changes in order. -/
def applyUpdate (payload : TaskUpdate) (task : FieldTask) : FieldTask × List (String × String) :=
  let (status, statusChange) := changed "status" TaskStatus.value payload.status task.status
  let (assignee, assigneeChange) :=
    changed "assignee" (·.getD "None") (payload.assignee.map some) task.assignee
  let (priority, priorityChange) := changed "priority" toString payload.priority task.priority
  let (detail, detailChange) :=
    changed "detail" (·.getD "None") (payload.detail.map some) task.detail
  let (dueAt, dueAtChange) :=
    changed "due_at" (fun due => (due.map toString).getD "None") (payload.dueAt.map some) task.dueAt
  let changes := statusChange ++ assigneeChange ++ priorityChange ++ detailChange ++ dueAtChange
  let task := { task with status, assignee, priority, detail, dueAt }
  if isGiven payload.assignee ∧ payload.status = none ∧ task.status = .unassigned then
    ({ task with status := .assigned }, changes ++ [("status", "assigned")])
  else (task, changes)

def update (db : Database K) (now : Timestamp) (actor : String) (taskId : Uuid)
    (payload : TaskUpdate) : Except PyError (FieldTask × Database K) := do
  let task ← get db taskId
  let (updated, changes) := applyUpdate payload task
  if changes = [] then return (task, db)
  else return (updated, Audit.record (db.updateTask task.id fun _ => updated) now actor
    (.taskUpdated changes) (some task.incidentId) (some task.id)
    ("임무 변경: " ++ updated.title ++ " (" ++ ", ".intercalate (changes.map (·.1)) ++ ")"))

def submitReport (db : Database K) (now : Timestamp) (actor : String) (taskId : Uuid)
    (payload : ReportCreate K) : Except PyError (FieldReport K × Database K) := do
  let task ← get db taskId
  let report : FieldReport K := {
    id := db.nextId
    taskId := task.id
    incidentId := task.incidentId
    body := payload.body
    observation := payload.observation
    accessConstraints := payload.accessConstraints
    householdsVerified := payload.householdsVerified
    submittedBy := actor
    submittedAt := now
    triggeredReplan := false }
  let db := { db with reports := db.reports ++ [report], nextId := db.nextId + 1 }
  let db := if task.status ∈ [.done, .cancelled] then db
    else db.updateTask task.id fun row => { row with status := .inReview }
  let needsReplan := payload.requestReplan ∨ payload.accessConstraints ≠ []
  let reason := if payload.requestReplan then "현장 재계획 요청"
    else "접근 제약 " ++ toString payload.accessConstraints.length ++ "건 확인"
  let (triggered, db) : Bool × Database K :=
    if needsReplan then
      let (plan, db) := Planning.markNeedsReapproval db now actor task.incidentId reason
      (plan.any (·.status = .reapprovalRequired), db)
    else (false, db)
  let write (row : FieldReport K) : FieldReport K := { row with triggeredReplan := triggered }
  let db := { db with
    reports := db.reports.map fun row => if row.id = report.id then write row else row }
  return (write report, Audit.record db now actor
    (.reportSubmitted payload.observation payload.accessConstraints.length triggered)
    (some task.incidentId) (some report.id) ("현장 보고 접수: " ++ task.title))

end Tasks

end

end Salgil
