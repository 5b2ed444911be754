import Salgil.PlanVersions
import Salgil.ReadCommitted

namespace Salgil
set_option autoImplicit true

/-- The requests that write plans, or go by the status of one. -/
inductive PlanRequest (K : Type) where
  | createPlan (incidentId : Uuid) (payload : PlanCreate)
  | approvePlan (planId : Uuid) (payload : PlanApprove)
  | startContacts (incidentId : Uuid) (payload : ContactStart)
  | submitReport (taskId : Uuid) (payload : ReportCreate K)

structure PlanCall (K : Type) where
  actor : String
  now : Timestamp
  request : PlanRequest K

def PlanRequest.toRequest : PlanRequest K → Request K
  | .createPlan incidentId payload => .createPlan incidentId payload
  | .approvePlan planId payload => .approvePlan planId payload
  | .startContacts incidentId payload => .startContacts incidentId payload
  | .submitReport taskId payload => .submitReport taskId payload

def PlanCall.toCall (call : PlanCall K) : Call K := ⟨call.actor, call.now, call.request.toRequest⟩

/-- A flush leaves a column alone unless the object has another value than the row had when it
was loaded. -/
def flushColumn [DecidableEq α] (loaded object row : α) : α :=
  if object = loaded then row else object

def EvacuationPlan.flush (loaded object row : EvacuationPlan) : EvacuationPlan :=
  { row with
    status := flushColumn loaded.status object.status row.status
    approvedBy := flushColumn loaded.approvedBy object.approvedBy row.approvedBy
    approvedAt := flushColumn loaded.approvedAt object.approvedAt row.approvedAt
    supersededBy := flushColumn loaded.supersededBy object.supersededBy row.supersededBy }

/-- A statement that changes rows. -/
inductive RowWrite (K : Type) where
  | insertPlan (plan : EvacuationPlan)
  | insertItems (rows : List PlanItem)
  | updatePlan (loaded object : EvacuationPlan)
  | insertContacts (rows : List ContactAttempt)
  | insertReport (report : FieldReport K)
  | updateReport (id : Uuid) (triggeredReplan : Bool)
  | updateTask (id : Uuid) (status : TaskStatus)
  | insertEvent (event : AuditEvent)

namespace RowWrite
variable {K : Type}

def apply (db : Database K) : RowWrite K → Database K
  | .insertPlan plan => { db with plans := db.plans ++ [plan] }
  | .insertItems rows => { db with items := db.items ++ rows }
  | .updatePlan loaded object => db.updatePlan loaded.id (loaded.flush object)
  | .insertContacts rows => { db with contacts := db.contacts ++ rows }
  | .insertReport report => { db with reports := db.reports ++ [report] }
  | .updateReport id triggeredReplan =>
    { db with
      reports := db.reports.map fun row =>
        if row.id = id then { row with triggeredReplan } else row }
  | .updateTask id status => db.updateTask id fun row => { row with status }
  | .insertEvent event => { db with events := db.events ++ [event] }

/-- Two plans with the same value of a unique key. -/
def sameKey (p q : EvacuationPlan) : Bool :=
  p.id = q.id ∨ p.incidentId = q.incidentId ∧ p.version = q.version

/-- A row is locked by the transaction that updates it, and a new value of a unique key by the
one that inserts it. -/
def clash : RowWrite K → RowWrite K → Bool
  | .insertPlan p, .insertPlan q => sameKey p q
  | .updatePlan p _, .updatePlan q _ => p.id = q.id
  | .updateReport id _, .updateReport id' _ => id = id'
  | .updateTask id _, .updateTask id' _ => id = id'
  | _, _ => false

/-- The unique constraints on plans. -/
def admits (db : Database K) : RowWrite K → Bool
  | .insertPlan plan => db.plans.all fun row => !sameKey plan row
  | _ => true

theorem clash_comm (w w' : RowWrite K) : clash w w' = clash w' w := by
  cases w <;> cases w' <;> simp [clash, sameKey, eq_comm]

end RowWrite

section
variable {K : Type}

abbrev Transaction (K : Type) := Script (Database K) (RowWrite K)

/-- A query whose error refuses the request. -/
def Script.require (query : Database K → Except PyError α) (next : α → Transaction K) :
    Transaction K :=
  .read fun db => match query db with
    | .ok a => next a
    | .error _ => .rollback

/-- The last statement before the commit writes the event. -/
def Script.record (now : Timestamp) (actor : String) (action : AuditAction)
    (incidentId entityId : Option Uuid) (summary : String) (next : Transaction K) : Transaction K :=
  .write 1 (fun id => .insertEvent ⟨id, incidentId, actor, action, entityId, summary, now⟩) fun _ =>
    next

/-- A loaded object is written at the next flush. -/
def Script.updatePlan (loaded object : EvacuationPlan) (next : Transaction K) : Transaction K :=
  .write 0 (fun _ => .updatePlan loaded object) fun _ => next

namespace Planning

/-- The row of a new version. -/
def newVersion (id version : ℕ) (actor : String) (incident : Incident) (payload : PlanCreate) :
    EvacuationPlan where
  id := id
  incidentId := incident.id
  version := version
  status := .draft
  rationale := payload.rationale
  createdBy := actor
  approvedBy := none
  approvedAt := none
  supersededBy := none

/-- The second flush and the event. -/
def finishCreate (now : Timestamp) (actor : String) (incident : Incident) (payload : PlanCreate)
    (id version : ℕ) : Transaction K :=
  .write payload.items.length (fun first => .insertItems (payload.items.mapIdx fun index item =>
    item.row (first + index) id index)) fun _ =>
  .record now actor (.planDrafted version payload.items.length) (some incident.id) (some id)
    ("대피계획 v" ++ toString version ++ " 기안 (" ++ toString payload.items.length ++ "개 마을)")
  .commit

/-- The flushes: the new plan first, then the change of the previous one and the items. -/
def insertVersion (now : Timestamp) (actor : String) (incident : Incident) (payload : PlanCreate)
    (version : ℕ) (previous : Option EvacuationPlan) : Transaction K :=
  .write 1 (fun id => .insertPlan (newVersion id version actor incident payload)) fun id =>
    match previous with
    | some previous => .updatePlan previous (previous.supersede id)
      (finishCreate now actor incident payload id version)
    | none => finishCreate now actor incident payload id version

/-- The version and the previous plan are read by two queries. -/
def createScript (now : Timestamp) (actor : String) (incidentId : Uuid) (payload : PlanCreate) :
    Transaction K :=
  .require (Incidents.get · incidentId) fun incident =>
  .require (validateItems · payload) fun _ =>
  .read fun db => .read fun db' =>
    insertVersion now actor incident payload (latestVersion db incident.id + 1)
      (currentPlan db' incident.id)

def approveScript (now : Timestamp) (actor : String) (planId : Uuid) (payload : PlanApprove) :
    Transaction K :=
  .require (get · planId) fun plan =>
    if plan.status = .approved ∨ plan.status = .superseded then .rollback
    else
      .updatePlan plan (plan.approve payload.approver now) <|
      .record now actor
        (.planApproved plan.version payload.approver payload.note payload.acknowledgeCaveats)
        (some plan.incidentId) (some plan.id)
        ("대피계획 v" ++ toString plan.version ++ " 승인 — 승인자 " ++ payload.approver)
      .commit

/-- What comes next learns whether the current plan waits for a new approval. -/
def reapprovalScript (now : Timestamp) (actor : String) (incidentId : Uuid) (reason : String)
    (next : Bool → Transaction K) : Transaction K :=
  .read fun db =>
    match currentPlan db incidentId with
    | none => next false
    | some plan =>
      if plan.status = .approved then
        .updatePlan plan plan.requireReapproval <|
        .record now actor (.planReapprovalRequired plan.version reason) (some incidentId)
          (some plan.id) ("계획 v" ++ toString plan.version ++ " 재승인 필요 — " ++ reason)
        (next true)
      else next (plan.status = .reapprovalRequired)

end Planning

/-- The plan comes with its items, which are read by a query of their own. -/
def Contacts.startRoundScript (now : Timestamp) (actor : String) (incidentId : Uuid)
    (payload : ContactStart) : Transaction K :=
  .require (Incidents.get · incidentId) fun incident =>
  .read fun db =>
    match Planning.currentPlan db incident.id with
    | none => .rollback
    | some plan =>
      .read fun db =>
        let items := db.planItems plan.id
        if plan.status ≠ .approved then .rollback
        else
          .read fun db =>
            let existing := (db.contacts.filter fun row =>
              row.incidentId = incident.id ∧ row.planId = some plan.id).map (·.communityId)
            let missing := items.filter (·.communityId ∉ existing)
            .read fun db =>
              .write missing.length (fun first => .insertContacts (missing.mapIdx fun index item =>
                attempt db incident plan payload (first + index) item)) fun _ =>
              .record now actor (.contactStarted plan.version payload.channel missing.length)
                (some incident.id) (some plan.id) ("주민 연락 개시 — 계획 v" ++
                  toString plan.version ++ ", 대상 " ++ toString missing.length ++ "개 마을")
              .commit

namespace Tasks

/-- The row of a new report. -/
def newReport (id : Uuid) (now : Timestamp) (actor : String) (task : FieldTask)
    (payload : ReportCreate K) : FieldReport K where
  id := id
  taskId := task.id
  incidentId := task.incidentId
  body := payload.body
  observation := payload.observation
  accessConstraints := payload.accessConstraints
  householdsVerified := payload.householdsVerified
  submittedBy := actor
  submittedAt := now
  triggeredReplan := false

/-- The last flush and the event. -/
def finishReport (now : Timestamp) (actor : String) (task : FieldTask) (payload : ReportCreate K)
    (id : Uuid) (triggered : Bool) : Transaction K :=
  let last : Transaction K := .record now actor
    (.reportSubmitted payload.observation payload.accessConstraints.length triggered)
    (some task.incidentId) (some id) ("현장 보고 접수: " ++ task.title) .commit
  if triggered then .write 0 (fun _ => .updateReport id true) fun _ => last else last

/-- The report is inserted, and the current plan is only looked at after that. -/
def insertReport (now : Timestamp) (actor : String) (task : FieldTask) (payload : ReportCreate K) :
    Transaction K :=
  .write 1 (fun id => .insertReport (newReport id now actor task payload)) fun id =>
    if payload.requestReplan ∨ payload.accessConstraints ≠ [] then
      Planning.reapprovalScript now actor task.incidentId
        (if payload.requestReplan then "현장 재계획 요청"
          else "접근 제약 " ++ toString payload.accessConstraints.length ++ "건 확인")
        (finishReport now actor task payload id)
    else finishReport now actor task payload id false

def submitReportScript (now : Timestamp) (actor : String) (taskId : Uuid)
    (payload : ReportCreate K) : Transaction K :=
  .require (get · taskId) fun task =>
    if task.status ∈ [.done, .cancelled, .inReview] then insertReport now actor task payload
    else .write 0 (fun _ => .updateTask task.id .inReview) fun _ =>
      insertReport now actor task payload

end Tasks

/-- The statements of a request, in the order in which they are issued. -/
def PlanCall.script (call : PlanCall K) : Transaction K :=
  match call.request with
  | .createPlan incidentId payload =>
    Planning.createScript call.now call.actor incidentId payload
  | .approvePlan planId payload => Planning.approveScript call.now call.actor planId payload
  | .startContacts incidentId payload =>
    Contacts.startRoundScript call.now call.actor incidentId payload
  | .submitReport taskId payload => Tasks.submitReportScript call.now call.actor taskId payload

def planEngine (K : Type) : Engine (PlanCall K) (Database K) (RowWrite K) where
  script := PlanCall.script
  apply := RowWrite.apply
  clash := RowWrite.clash
  admits := RowWrite.admits
  clash_comm := RowWrite.clash_comm

end

end Salgil
