import Salgil.Json
import Mathlib.Data.List.Nodup

namespace Salgil
set_option autoImplicit true

/-- Row ids are random in the source; here each new row takes the next number. -/
abbrev Uuid := ℕ

/-- Seconds since some fixed moment. -/
abbrev Timestamp := ℕ

structure Community (K : Type u) where
  id : Uuid
  regionCode : String
  name : String
  households : Option ℤ
  lat : Option K
  lon : Option K
  dataMode : String

structure Shelter (K : Type u) where
  id : Uuid
  regionCode : String
  name : String
  lat : Option K
  lon : Option K
  capacity : Option ℤ
  capacityBasis : Option String
  hazards : List String

inductive IncidentStatus where
  | «open»
  | monitoring
  | closed
  deriving DecidableEq, Repr

def IncidentStatus.value : IncidentStatus → String
  | .open => "open"
  | .monitoring => "monitoring"
  | .closed => "closed"

structure Incident where
  id : Uuid
  code : String
  title : String
  regionCode : String
  regionName : String
  hazard : String
  level : ℕ
  status : IncidentStatus
  summary : Option String
  declaredBy : String
  declaredAt : Timestamp
  closedAt : Option Timestamp
  closedBy : Option String
  openingEvidence : Option JsonObject

inductive PlanStatus where
  | draft
  | approved
  | reapprovalRequired
  | superseded
  deriving DecidableEq, Repr

def PlanStatus.value : PlanStatus → String
  | .draft => "draft"
  | .approved => "approved"
  | .reapprovalRequired => "reapproval_required"
  | .superseded => "superseded"

structure EvacuationPlan where
  id : Uuid
  incidentId : Uuid
  version : ℕ
  status : PlanStatus
  rationale : Option String
  createdBy : String
  approvedBy : Option String
  approvedAt : Option Timestamp
  supersededBy : Option Uuid
  deriving DecidableEq

inductive PlanAction where
  | evacuateNow
  | prepare
  | monitor
  | shelterInPlace
  deriving DecidableEq, Repr

structure PlanItem where
  id : Uuid
  planId : Uuid
  orderIndex : ℕ
  communityId : Uuid
  shelterId : Option Uuid
  residents : ℕ
  transport : Option String
  action : PlanAction
  rationale : Option String
  deriving DecidableEq

inductive ContactChannel where
  | call
  | sms
  | callSms
  | radio
  | door
  deriving DecidableEq, Repr

def ContactChannel.value : ContactChannel → String
  | .call => "call"
  | .sms => "sms"
  | .callSms => "call_sms"
  | .radio => "radio"
  | .door => "door"

inductive ContactResponse where
  | pending
  | evacuating
  | supportRequested
  | refused
  | unreachable
  deriving DecidableEq, Repr

def ContactResponse.value : ContactResponse → String
  | .pending => "pending"
  | .evacuating => "evacuating"
  | .supportRequested => "support_requested"
  | .refused => "refused"
  | .unreachable => "unreachable"

structure ContactAttempt where
  id : Uuid
  incidentId : Uuid
  planId : Option Uuid
  communityId : Uuid
  households : ℤ
  householdsConfirmed : ℕ
  channel : ContactChannel
  response : ContactResponse
  followUp : Option String
  attemptedAt : Option Timestamp
  recordedBy : Option String
  dataMode : String
  deriving DecidableEq

inductive TaskStatus where
  | unassigned
  | assigned
  | inProgress
  | inReview
  | done
  | cancelled
  deriving DecidableEq, Repr

def TaskStatus.value : TaskStatus → String
  | .unassigned => "unassigned"
  | .assigned => "assigned"
  | .inProgress => "in_progress"
  | .inReview => "in_review"
  | .done => "done"
  | .cancelled => "cancelled"

inductive TaskKind where
  | verifyHousehold
  | verifyRoute
  | assistTransport
  | verify
  | other
  deriving DecidableEq, Repr

def TaskKind.value : TaskKind → String
  | .verifyHousehold => "verify_household"
  | .verifyRoute => "verify_route"
  | .assistTransport => "assist_transport"
  | .verify => "verify"
  | .other => "other"

structure FieldTask where
  id : Uuid
  incidentId : Uuid
  communityId : Option Uuid
  title : String
  detail : Option String
  kind : TaskKind
  priority : ℕ
  status : TaskStatus
  assignee : Option String
  dueAt : Option Timestamp
  createdBy : String
  deriving DecidableEq

inductive ConstraintKind where
  | roadClosed
  | bridgeUnsafe
  | slopeFailure
  | flooded
  | other
  deriving DecidableEq, Repr

def ConstraintKind.value : ConstraintKind → String
  | .roadClosed => "road_closed"
  | .bridgeUnsafe => "bridge_unsafe"
  | .slopeFailure => "slope_failure"
  | .flooded => "flooded"
  | .other => "other"

/-- A place the field found hard or impossible to pass. -/
structure AccessConstraint (K : Type u) where
  kind : ConstraintKind
  location : String
  detail : Option String
  lat : Option K
  lon : Option K

inductive Observation where
  | householdsVerified
  | routeBlocked
  | routeOpen
  | hazardObserved
  | other
  deriving DecidableEq, Repr

def Observation.value : Observation → String
  | .householdsVerified => "households_verified"
  | .routeBlocked => "route_blocked"
  | .routeOpen => "route_open"
  | .hazardObserved => "hazard_observed"
  | .other => "other"

structure FieldReport (K : Type u) where
  id : Uuid
  taskId : Uuid
  incidentId : Uuid
  body : String
  observation : Observation
  accessConstraints : List (AccessConstraint K)
  householdsVerified : Option ℕ
  submittedBy : String
  submittedAt : Timestamp
  triggeredReplan : Bool

/-- What a change of an incident set: its payload in the audit event. -/
structure IncidentChanges where
  title : Option String
  summary : Option String
  level : Option ℕ
  status : Option IncidentStatus
  deriving DecidableEq

/-- The action of an audit event, with its payload. -/
inductive AuditAction where
  | incidentDeclared (code : String) (level : ℕ)
  | incidentUpdated (changes : IncidentChanges)
  | planDrafted (version items : ℕ)
  | planApproved (version : ℕ) (approver : String) (note : Option String)
      (acknowledgedCaveats : Bool)
  | planReapprovalRequired (version : ℕ) (reason : String)
  | contactStarted (planVersion : ℕ) (channel : ContactChannel) (created : ℕ)
  | contactRecorded (response : ContactResponse) (followUp : Option String)
  | taskCreated (kind : TaskKind) (priority : ℕ)
  | taskGenerated (count : ℕ)
  | taskUpdated (changes : List (String × String))
  | reportSubmitted (observation : Observation) (constraints : ℕ) (triggeredReplan : Bool)
  deriving DecidableEq

structure AuditEvent where
  id : Uuid
  incidentId : Option Uuid
  actor : String
  action : AuditAction
  entityId : Option Uuid
  summary : String
  createdAt : Timestamp
  deriving DecidableEq

/-- The tables, each in the order of insertion. -/
structure Database (K : Type u) where
  communities : List (Community K) := []
  shelters : List (Shelter K) := []
  incidents : List Incident := []
  plans : List EvacuationPlan := []
  items : List PlanItem := []
  contacts : List ContactAttempt := []
  tasks : List FieldTask := []
  reports : List (FieldReport K) := []
  events : List AuditEvent := []
  nextId : ℕ := 0

theorem find?_map_key {key : α → Uuid} {write : α → α} (hkey : ∀ row, key (write row) = key row)
    (rows : List α) (id : Uuid) :
    (rows.map write).find? (key · = id) = (rows.find? (key · = id)).map write := by
  rw [List.find?_map]
  congr 2
  funext row
  simp [hkey]

theorem find?_key {key : α → Uuid} {rows : List α} (hkeys : (rows.map key).Nodup) {row : α}
    (hrow : row ∈ rows) : rows.find? (key · = key row) = some row := by
  cases hfind : rows.find? (key · = key row) with
  | none =>
    have hne := List.find?_eq_none.1 hfind row hrow
    simp at hne
  | some other =>
    have hkey : key other = key row := by simpa using List.find?_some hfind
    exact congrArg _ (List.inj_on_of_nodup_map hkeys (List.mem_of_find?_eq_some hfind) hrow hkey)

theorem split_at_key {key : α → Uuid} {rows : List α} (hkeys : (rows.map key).Nodup) {row : α}
    (hrow : row ∈ rows) :
    ∃ before after, rows = before ++ row :: after ∧ (∀ r ∈ before ++ after, key r ≠ key row) ∧
      ∀ write : α → α, (rows.map fun r => if key r = key row then write r else r) =
        before ++ write row :: after := by
  obtain ⟨before, after, rfl⟩ := List.append_of_mem hrow
  have hne : ∀ r ∈ before ++ after, key r ≠ key row := by
    intro r hr heq
    rw [List.map_append, List.map_cons, List.nodup_middle, List.nodup_cons, ← List.map_append]
      at hkeys
    exact hkeys.1 (List.mem_map.2 ⟨r, hr, heq⟩)
  refine ⟨before, after, rfl, hne, fun write => ?_⟩
  have hkeep : ∀ l : List α, (∀ r ∈ l, key r ≠ key row) →
      (l.map fun r => if key r = key row then write r else r) = l := by
    intro l hl
    exact (List.map_congr_left fun r hr => if_neg (hl r hr)).trans (List.map_id' l)
  rw [List.map_append, List.map_cons, if_pos rfl,
    hkeep before fun r hr => hne r (List.mem_append_left _ hr),
    hkeep after fun r hr => hne r (List.mem_append_right _ hr)]

end Salgil
