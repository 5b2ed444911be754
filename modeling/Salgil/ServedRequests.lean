import Salgil.ActorName
import Salgil.FieldHistory
import Salgil.GuardedRun
import Salgil.RoundInterleavings

namespace Salgil
set_option autoImplicit true

section
variable {K : Type}

/-- The role that the route of a request asks for. -/
def Request.asksFor : Request K → String
  | .createPlan .. => "operator"
  | .approvePlan .. => "approver"
  | .startContacts .. => "operator"
  | .updateContact .. => "operator"
  | .createTask .. => "operator"
  | .generateTasks .. => "operator"
  | .updateTask .. => "field"
  | .submitReport .. => "field"

/-- The role that the route of an operation asks for; a drill comes over the route of the chat. -/
def Operation.asksFor : Operation K → String
  | .workflow request => request.asksFor
  | .declareIncident .. => "operator"
  | .updateIncident .. => "operator"
  | .startDrill .. => "operator"
  | .createCommunity .. => "operator"
  | .createShelter .. => "operator"

end

/-- A request with the headers that it carries and the time at which it comes. -/
structure HttpRequest (K : Type) where
  headers : AuthHeaders
  xActor : Option String
  now : Timestamp
  operation : Operation K

section
variable {K : Type}

/-- Where the route lets the caller in, the operation is performed under the caller's name. -/
def serve (settings : Settings) (db : Database K) (r : HttpRequest K) : Database K :=
  match roleDep r.operation.asksFor r.headers settings with
  | .ok current => perform db ⟨actorName r.xActor current, r.now, r.operation⟩
  | .error _ => db

def serveAll (settings : Settings) (db : Database K) (requests : List (HttpRequest K)) :
    Database K :=
  requests.foldl (serve settings) db

namespace HttpRequest

/-- The caller is let in with a key of the settings that does not stand in the repository. -/
def LetIn (settings : Settings) (r : HttpRequest K) (current : Principal) : Prop :=
  ∃ token ∉ devApiKeys, Admitted settings r.headers r.operation.asksFor current token

/-- An approver has approved the plan as it stands. -/
structure Approves (settings : Settings) (r : HttpRequest K) (plan : EvacuationPlan) : Prop where
  caller : ∃ current, r.LetIn settings current ∧
    (current.role = "approver" ∨ current.role = "admin")
  asked : ∃ payload, r.operation = .workflow (.approvePlan plan.id payload) ∧
    plan.approvedBy = some payload.approver
  time : plan.approvedAt = some r.now

/-- Somebody above the field has started to contact the villages of the incident. -/
structure StartsRound (settings : Settings) (r : HttpRequest K) (incidentId : Uuid) : Prop where
  caller : ∃ current, r.LetIn settings current ∧ current.role ≠ "field"
  asked : ∃ payload, r.operation = .workflow (.startContacts incidentId payload)

end HttpRequest

variable {db db' : Database K} {entry : Entry K} {r : HttpRequest K}

theorem serve_performs (settings : Settings) (db : Database K) (r : HttpRequest K) :
    serve settings db r = db ∨ ∃ current,
      roleDep r.operation.asksFor r.headers settings = .ok current ∧
      serve settings db r = perform db ⟨actorName r.xActor current, r.now, r.operation⟩ := by
  unfold serve
  cases hdep : roleDep r.operation.asksFor r.headers settings with
  | error raised => exact .inl rfl
  | ok current => exact .inr ⟨current, rfl, rfl⟩

theorem perform_handled (db : Database K) (entry : Entry K) :
    perform db entry = db ∨ entry.handle db = .ok (perform db entry) := by
  unfold perform
  cases hhandle : entry.handle db with
  | error raised => exact .inl rfl
  | ok db' => exact .inr rfl

theorem serve_handled (settings : Settings) (db : Database K) (r : HttpRequest K) :
    serve settings db r = db ∨ ∃ current,
      roleDep r.operation.asksFor r.headers settings = .ok current ∧
      Entry.handle ⟨actorName r.xActor current, r.now, r.operation⟩ db =
        .ok (serve settings db r) := by
  rcases serve_performs settings db r with hsame | ⟨current, hdep, hperform⟩
  · exact .inl hsame
  · rw [hperform]
    rcases perform_handled db ⟨actorName r.xActor current, r.now, r.operation⟩ with hsame | hhandle
    · exact .inl hsame
    · exact .inr ⟨current, hdep, hhandle⟩

theorem AppSettings.Safe.letIn {settings : AppSettings} (hsafe : settings.Safe)
    {current : Principal}
    (h : roleDep r.operation.asksFor r.headers settings.toSettings = .ok current) :
    r.LetIn settings.toSettings current := by
  obtain ⟨token, hadmitted⟩ := (admitted_iff hsafe).1 h
  exact ⟨token, hsafe.keys token current.role hadmitted.configured, hadmitted⟩

theorem mayActAs_approver {given : String} (h : MayActAs given "approver") :
    given = "approver" ∨ given = "admin" := by
  simpa [MayActAs] using h

theorem mayActAs_operator {given : String} (h : MayActAs given "operator") : given ≠ "field" := by
  rintro rfl
  revert h
  decide

theorem Effect.approved_before {request : Request K} (h : Effect db request db')
    (hrequest : ∀ planId payload, request ≠ .approvePlan planId payload) {plan : EvacuationPlan}
    (hplan : plan ∈ db'.plans) (happroved : plan.status = .approved) : plan ∈ db.plans := by
  cases h with
  | drafted actor incident payload _ _ hplans =>
    rw [hplans] at hplan
    obtain ⟨row, hrow, rfl⟩ := List.mem_map.1 hplan
    unfold superseding at happroved ⊢
    split at happroved
    · cases happroved
    · next hkept =>
      rw [if_neg hkept]
      rcases List.mem_append.1 hrow with hrow | hrow
      · exact hrow
      · rw [List.mem_singleton.1 hrow] at happroved
        cases happroved
  | approved plan payload _ happrove => exact absurd happrove (hrequest _ _)
  | invalidated incidentId current _ _ hplans =>
    rw [hplans] at hplan
    obtain ⟨row, hrow, rfl⟩ := List.mem_map.1 hplan
    split at happroved
    · cases happroved
    · next hkept => rwa [if_neg hkept]
  | contacted _ _ _ _ _ _ hplans => rwa [hplans] at hplan
  | recorded _ _ _ hplans => rwa [hplans] at hplan
  | unrelated hplans => rwa [hplans] at hplan

/-- An operation leaves no other plans approved than those that were, and the one it approves. -/
theorem Entry.approves (h : entry.handle db = .ok db') {plan : EvacuationPlan}
    (hplan : plan ∈ db'.plans) (happroved : plan.status = .approved) :
    plan ∈ db.plans ∨ ∃ payload, entry.operation = .workflow (.approvePlan plan.id payload) ∧
      plan.approvedBy = some payload.approver ∧ plan.approvedAt = some entry.now := by
  cases Entry.handled h with
  | workflow request hoperation hok =>
    by_cases hrequest : ∃ planId payload, request = .approvePlan planId payload
    · obtain ⟨planId, payload, rfl⟩ := hrequest
      obtain ⟨⟨row, _⟩, happrove, hdb⟩ := bind_eq_ok.1 hok
      cases hdb
      obtain ⟨row, summary, hget, -, -, rfl⟩ := Planning.approve_eq_ok happrove
      have hid : row.id = planId := by simpa using List.find?_some (Planning.get_eq_ok.1 hget)
      obtain ⟨other, hother, rfl⟩ := List.mem_map.1 hplan
      split
      · next heq =>
        refine .inr ⟨payload, ?_, rfl, rfl⟩
        rw [hoperation, EvacuationPlan.approve, heq, hid]
      · exact .inl hother
    · have heffect := Call.handle_effect hok
      exact .inl (heffect.approved_before
        (fun planId payload heq => hrequest ⟨planId, payload, heq⟩) hplan happroved)
  | declared _ _ _ _ _ _ hcreate =>
    obtain ⟨-, -, -, -, -, -, hdb, -⟩ := Incidents.create_eq_ok hcreate
    rw [hdb] at hplan
    exact .inl hplan
  | updated _ _ _ _ hupdate =>
    obtain ⟨incident, summary, -, rfl | rfl⟩ := Incidents.update_eq_ok hupdate
    · exact .inl hplan
    · exact .inl hplan
  | declined _ hdb =>
    rw [hdb] at hplan
    exact .inl hplan
  | community payload _ hdb =>
    rw [hdb] at hplan
    exact .inl hplan
  | shelter payload _ hdb =>
    rw [hdb] at hplan
    exact .inl hplan

/-- The row of a contact, whatever has become of its result. -/
def Database.Contacted (db : Database K) (contact : ContactAttempt) : Prop :=
  ∃ row ∈ db.contacts, row.id = contact.id ∧ row.incidentId = contact.incidentId ∧
    row.planId = contact.planId ∧ row.communityId = contact.communityId

/-- A contact comes up with the round of an incident whose current plan is approved. -/
theorem Entry.starts_round (h : entry.handle db = .ok db') {contact : ContactAttempt}
    (hbefore : ¬ db.Contacted contact) (hafter : db'.Contacted contact) :
    (∃ payload, entry.operation = .workflow (.startContacts contact.incidentId payload)) ∧
      ∃ plan ∈ db.plans, plan.incidentId = contact.incidentId ∧ contact.planId = some plan.id ∧
        plan.status = .approved := by
  obtain ⟨row, hrow, hid, hincident, hplanId, hcommunity⟩ := hafter
  have hkept : row ∉ db.contacts := fun hold =>
    hbefore ⟨row, hold, hid, hincident, hplanId, hcommunity⟩
  cases Entry.handle_fieldEffect h with
  | round incident payload plan hoperation hcurrent happroved hcontacts =>
    rw [hcontacts, List.mem_append] at hrow
    obtain ⟨i, hi, rfl⟩ := List.mem_mapIdx.1 (hrow.resolve_left hkept)
    obtain ⟨hplan, hof⟩ := currentPlan_mem hcurrent
    rw [← hincident, ← hplanId]
    exact ⟨⟨payload, hoperation⟩, plan, hplan, hof, rfl, happroved⟩
  | result contactId payload old _ _ hcontacts =>
    rw [hcontacts] at hrow
    obtain ⟨other, hother, rfl⟩ := List.mem_map.1 hrow
    by_cases hkey : other.id = old.id
    · rw [if_pos hkey] at hid hincident hplanId hcommunity
      exact absurd ⟨other, hother, hid, hincident, hplanId, hcommunity⟩ hbefore
    · rw [if_neg hkey] at hkept
      exact absurd hother hkept
  | added _ hcontacts => exact absurd (hcontacts ▸ hrow) hkept
  | edited _ _ _ _ _ hcontacts => exact absurd (hcontacts ▸ hrow) hkept
  | reported _ _ _ _ _ _ _ hcontacts => exact absurd (hcontacts ▸ hrow) hkept
  | unrelated hcontacts => exact absurd (hcontacts ▸ hrow) hkept

section
variable {settings : AppSettings} {requests : List (HttpRequest K)}

theorem serve_approves (hsafe : settings.Safe) {plan : EvacuationPlan}
    (hbefore : ¬ (plan ∈ db.plans ∧ plan.status = .approved))
    (hafter : plan ∈ (serve settings.toSettings db r).plans ∧ plan.status = .approved) :
    r.Approves settings.toSettings plan := by
  rcases serve_handled settings.toSettings db r with hsame | ⟨current, hdep, hhandle⟩
  · rw [hsame] at hafter
    exact absurd hafter hbefore
  · rcases Entry.approves hhandle hafter.1 hafter.2 with hold | ⟨payload, hoperation, hby, htime⟩
    · exact absurd ⟨hold, hafter.2⟩ hbefore
    · obtain ⟨token, hown, hadmitted⟩ := hsafe.letIn hdep
      have hrole : MayActAs current.role "approver" := by
        have hallowed := hadmitted.allowed
        rwa [show r.operation = _ from hoperation] at hallowed
      exact ⟨⟨current, ⟨token, hown, hadmitted⟩, mayActAs_approver hrole⟩,
        ⟨payload, hoperation, hby⟩, htime⟩

theorem serveAll_approves (hsafe : settings.Safe) {plan : EvacuationPlan}
    (hplan : plan ∈ (serveAll settings.toSettings db requests).plans)
    (happroved : plan.status = .approved) :
    plan ∈ db.plans ∨ ∃ r ∈ requests, r.Approves settings.toSettings plan := by
  rcases foldl_arises (P := fun db : Database K => plan ∈ db.plans ∧ plan.status = .approved)
    ⟨hplan, happroved⟩ with hold | ⟨before, r, after, rfl, hbefore, hafter⟩
  · exact .inl hold.1
  · exact .inr ⟨r, by simp, serve_approves hsafe hbefore hafter⟩

theorem serve_starts (hsafe : settings.Safe) {contact : ContactAttempt}
    (hbefore : ¬ db.Contacted contact)
    (hafter : (serve settings.toSettings db r).Contacted contact) :
    r.StartsRound settings.toSettings contact.incidentId ∧
      ∃ plan ∈ db.plans, plan.incidentId = contact.incidentId ∧ contact.planId = some plan.id ∧
        plan.status = .approved := by
  rcases serve_handled settings.toSettings db r with hsame | ⟨current, hdep, hhandle⟩
  · rw [hsame] at hafter
    exact absurd hafter hbefore
  · obtain ⟨⟨payload, hoperation⟩, hplan⟩ := Entry.starts_round hhandle hbefore hafter
    obtain ⟨token, hown, hadmitted⟩ := hsafe.letIn hdep
    have hrole : MayActAs current.role "operator" := by
      have hallowed := hadmitted.allowed
      rwa [show r.operation = _ from hoperation] at hallowed
    exact ⟨⟨⟨current, ⟨token, hown, hadmitted⟩, mayActAs_operator hrole⟩, payload, hoperation⟩,
      hplan⟩

/-- Whatever requests a service in production gets, a plan stands approved by an approver, and
villages are contacted by its operators, on plans that an approver had approved by then. -/
theorem decisions_authorized {warnings : List String} (hlive : settings.isProductionLike)
    (hstart : settings.lifespan = .ok warnings) (db : Database K)
    (requests : List (HttpRequest K)) :
    (∀ plan ∈ (serveAll settings.toSettings db requests).plans, plan.status = .approved →
      plan ∈ db.plans ∨ ∃ r ∈ requests, r.Approves settings.toSettings plan) ∧
    ∀ contact ∈ (serveAll settings.toSettings db requests).contacts,
      db.Contacted contact ∨ ∃ before r after, requests = before ++ r :: after ∧
        r.StartsRound settings.toSettings contact.incidentId ∧
        ∃ plan ∈ (serveAll settings.toSettings db before).plans,
          plan.incidentId = contact.incidentId ∧ contact.planId = some plan.id ∧
          plan.status = .approved ∧
          (plan ∈ db.plans ∨ ∃ r' ∈ before, r'.Approves settings.toSettings plan) := by
  have hsafe := ((AppSettings.lifespan_ok hlive).1 hstart).1
  refine ⟨fun plan hplan happroved => serveAll_approves hsafe hplan happroved, ?_⟩
  intro contact hcontact
  have hend : (serveAll settings.toSettings db requests).Contacted contact :=
    ⟨contact, hcontact, rfl, rfl, rfl, rfl⟩
  rcases foldl_arises (P := fun db : Database K => db.Contacted contact) hend with
    hold | ⟨before, r, after, hrequests, hbefore, hafter⟩
  · exact .inl hold
  · obtain ⟨hround, plan, hplan, hof, hid, happroved⟩ := serve_starts hsafe hbefore hafter
    exact .inr ⟨before, r, after, hrequests, hround, plan, hplan, hof, hid, happroved,
      serveAll_approves hsafe hplan happroved⟩

/-- A village is contacted: the desk drafts, the head approves, and the desk starts. -/
def servedRound : List (HttpRequest ℚ) :=
  [⟨{ xApiKey := some "desk-21" }, none, 10, .workflow (.createPlan 1 villagePlan)⟩,
    ⟨{ xApiKey := some "gate-7f" }, none, 20, .workflow (.approvePlan 2 headsApproval)⟩,
    ⟨{ xApiKey := some "desk-21" }, none, 30, .workflow (.startContacts 1 {})⟩]

theorem decisions_authorized_round :
    liveSettings.lifespan = .ok [] ∧
    (serveAll liveSettings.toSettings villageDatabase servedRound).contacts ≠ [] ∧
    ∀ contact ∈ (serveAll liveSettings.toSettings villageDatabase servedRound).contacts,
      ∃ before r after, servedRound = before ++ r :: after ∧
        r.StartsRound liveSettings.toSettings contact.incidentId ∧
        ∃ plan ∈ (serveAll liveSettings.toSettings villageDatabase before).plans,
          plan.incidentId = contact.incidentId ∧ contact.planId = some plan.id ∧
          plan.status = .approved ∧ ∃ r' ∈ before, r'.Approves liveSettings.toSettings plan := by
  have hstart : liveSettings.lifespan = .ok [] := by decide +kernel
  refine ⟨hstart, by decide +kernel, fun contact hcontact => ?_⟩
  have hrun := (decisions_authorized (by decide) hstart villageDatabase servedRound).2
  rcases hrun contact hcontact with
    ⟨row, hrow, -⟩ |
      ⟨before, r, after, hsplit, hround, plan, hplan, hof, hid, happroved, hold | hby⟩
  · cases hrow
  · cases hold
  · exact ⟨before, r, after, hsplit, hround, plan, hplan, hof, hid, happroved, hby⟩

end

end

end Salgil
