import Salgil.Database
import Mathlib.Data.List.Dedup
import Mathlib.Data.List.MinMax
import Mathlib.Data.List.Sort

namespace Salgil
set_option autoImplicit true

structure PlanItemIn where
  communityId : Uuid
  shelterId : Option Uuid := none
  residents : ℕ := 0
  transport : Option String := none
  action : PlanAction := .prepare
  rationale : Option String := none

/-- The order of the items is the order of evacuation. -/
structure PlanCreate where
  items : List PlanItemIn
  rationale : Option String := none
  items_ok : items ≠ []

structure PlanApprove where
  approver : String
  note : Option String := none
  acknowledgeCaveats : Bool := false
  approver_ok : 1 ≤ approver.length ∧ approver.length ≤ 64

/-- The text Python shows for a list of texts. -/
def pyReprTexts (texts : List String) : String :=
  "[" ++ ", ".intercalate (texts.map fun text => "'" ++ text ++ "'") ++ "]"

/-- `sorted(str(m) for m in set(ids) - set(found))`. -/
def missingIds (ids found : List Uuid) : List String :=
  ((ids.dedup.filter (· ∉ found)).map toString).insertionSort (· ≤ ·)

namespace EvacuationPlan

def supersede (successor : Uuid) (row : EvacuationPlan) : EvacuationPlan :=
  { row with status := .superseded, supersededBy := some successor }

def approve (approver : String) (now : Timestamp) (row : EvacuationPlan) : EvacuationPlan :=
  { row with status := .approved, approvedBy := some approver, approvedAt := some now }

def requireReapproval (row : EvacuationPlan) : EvacuationPlan :=
  { row with status := .reapprovalRequired }

end EvacuationPlan

section
variable {K : Type}

def Database.addPlan (db : Database K) (plan : EvacuationPlan) : Database K :=
  { db with plans := db.plans ++ [plan], nextId := db.nextId + 1 }

/-- A write by primary key of the columns that `write` changes. -/
def Database.updatePlan (db : Database K) (id : Uuid) (write : EvacuationPlan → EvacuationPlan) :
    Database K :=
  { db with plans := db.plans.map fun plan => if plan.id = id then write plan else plan }

def PlanItemIn.row (item : PlanItemIn) (id planId : Uuid) (orderIndex : ℕ) : PlanItem where
  id := id
  planId := planId
  orderIndex := orderIndex
  communityId := item.communityId
  shelterId := item.shelterId
  residents := item.residents
  transport := item.transport
  action := item.action
  rationale := item.rationale

def Database.addItems (db : Database K) (planId : Uuid) (items : List PlanItemIn) : Database K :=
  { db with
    items := db.items ++ items.mapIdx fun index item => item.row (db.nextId + index) planId index
    nextId := db.nextId + items.length }

/-- `plan.items`, which the mapper loads in the order of `order_index`. -/
def Database.planItems (db : Database K) (planId : Uuid) : List PlanItem :=
  (db.items.filter (·.planId = planId)).insertionSort (·.orderIndex ≤ ·.orderIndex)

def Audit.record (db : Database K) (now : Timestamp) (actor : String) (action : AuditAction)
    (incidentId entityId : Option Uuid) (summary : String) : Database K :=
  { db with
    events := db.events ++ [⟨db.nextId, incidentId, actor, action, entityId, summary, now⟩]
    nextId := db.nextId + 1 }

def Incidents.get (db : Database K) (incidentId : Uuid) : Except PyError Incident :=
  match db.incidents.find? (·.id = incidentId) with
  | some incident => .ok incident
  | none => .error (.salgil (.notFound ("상황 " ++ toString incidentId ++ " 를 찾지 못했습니다")))

namespace Planning

def validateItems (db : Database K) (payload : PlanCreate) : Except PyError Unit :=
  let communityIds := payload.items.map (·.communityId)
  let missing := missingIds communityIds (db.communities.map (·.id))
  let shelterIds := payload.items.filterMap (·.shelterId)
  let missingShelters := missingIds shelterIds (db.shelters.map (·.id))
  if ¬ communityIds.Nodup then
    .error (.salgil (.validation "같은 마을이 계획에 두 번 들어 있습니다"))
  else if missing ≠ [] then
    .error (.salgil (.validation ("존재하지 않는 마을: " ++ pyReprTexts missing)))
  else if missingShelters ≠ [] then
    .error (.salgil (.validation ("존재하지 않는 대피소: " ++ pyReprTexts missingShelters)))
  else .ok ()

/-- `coalesce(max(version), 0)` over the plans of an incident. -/
def latestVersion (db : Database K) (incidentId : Uuid) : ℕ :=
  ((db.plans.filter (·.incidentId = incidentId)).map (·.version)).foldl max 0

/-- The plan of the highest version among those not superseded. -/
def currentPlan (db : Database K) (incidentId : Uuid) : Option EvacuationPlan :=
  (db.plans.filter fun plan => plan.incidentId = incidentId ∧ plan.status ≠ .superseded).argmax
    (·.version)

/-- The row of the next version. -/
def draft (db : Database K) (actor : String) (incident : Incident) (payload : PlanCreate) :
    EvacuationPlan where
  id := db.nextId
  incidentId := incident.id
  version := latestVersion db incident.id + 1
  status := .draft
  rationale := payload.rationale
  createdBy := actor
  approvedBy := none
  approvedAt := none
  supersededBy := none

def create (db : Database K) (now : Timestamp) (actor : String) (incident : Incident)
    (payload : PlanCreate) : Except PyError (EvacuationPlan × Database K) := do
  validateItems db payload
  let plan := draft db actor incident payload
  let previous := currentPlan db incident.id
  let db := (db.addPlan plan).addItems plan.id payload.items
  let db := match previous with
    | some previous => db.updatePlan previous.id (·.supersede plan.id)
    | none => db
  return (plan, Audit.record db now actor (.planDrafted plan.version payload.items.length)
    (some incident.id) (some plan.id) ("대피계획 v" ++ toString plan.version ++ " 기안 (" ++
      toString payload.items.length ++ "개 마을)"))

def get (db : Database K) (planId : Uuid) : Except PyError EvacuationPlan :=
  match db.plans.find? (·.id = planId) with
  | some plan => .ok plan
  | none => .error (.salgil (.notFound ("계획 " ++ toString planId ++ " 를 찾지 못했습니다")))

def approve (db : Database K) (now : Timestamp) (actor : String) (planId : Uuid)
    (payload : PlanApprove) : Except PyError (EvacuationPlan × Database K) := do
  let plan ← get db planId
  if plan.status = .approved then
    .error (.salgil (.conflict ("계획 v" ++ toString plan.version ++ " 는 이미 승인되었습니다")))
  else if plan.status = .superseded then
    .error (.salgil (.conflict ("계획 v" ++ toString plan.version ++ " 는 v" ++
      (plan.supersededBy.map toString).getD "None" ++ " 로 대체되었습니다 — " ++
      "최신 버전을 승인하세요")))
  else
    let write := EvacuationPlan.approve payload.approver now
    return (write plan, Audit.record (db.updatePlan plan.id write) now actor
      (.planApproved plan.version payload.approver payload.note payload.acknowledgeCaveats)
      (some plan.incidentId) (some plan.id)
      ("대피계획 v" ++ toString plan.version ++ " 승인 — 승인자 " ++ payload.approver))

/-- The plan as the caller sees it afterwards, and the database. -/
def markNeedsReapproval (db : Database K) (now : Timestamp) (actor : String) (incidentId : Uuid)
    (reason : String) : Option EvacuationPlan × Database K :=
  match currentPlan db incidentId with
  | none => (none, db)
  | some plan =>
    if plan.status ≠ .approved then (some plan, db)
    else
      (some plan.requireReapproval,
        Audit.record (db.updatePlan plan.id EvacuationPlan.requireReapproval) now actor
          (.planReapprovalRequired plan.version reason) (some incidentId) (some plan.id)
          ("계획 v" ++ toString plan.version ++ " 재승인 필요 — " ++ reason))

end Planning

end

end Salgil
