import Salgil.ServedRequests

namespace Salgil
set_option autoImplicit true

section
variable {K : Type} {db db' : Database K} {entry : Entry K}

/-- The name under which the records of an operation go. -/
def Entry.signature (entry : Entry K) : String :=
  match entry.operation with
  | .workflow _ => entry.actor
  | .declareIncident .. => entry.actor
  | .updateIncident .. => entry.actor
  | .startDrill _ => "assistant"
  | .createCommunity _ => entry.actor
  | .createShelter _ => entry.actor

/-- The tables whose changes are recorded are alike. -/
structure Database.SameRecorded (db db' : Database K) : Prop where
  incidents : db'.incidents = db.incidents
  plans : db'.plans = db.plans
  items : db'.items = db.items
  contacts : db'.contacts = db.contacts
  tasks : db'.tasks = db.tasks
  reports : db'.reports = db.reports

/-- The records that are added are of one caller and one time; without one nothing that is recorded
has changed. -/
def Recorded (actor : String) (now : Timestamp) (db db' : Database K) : Prop :=
  ∃ added, db'.events = db.events ++ added ∧
    (∀ event ∈ added, event.actor = actor ∧ event.createdAt = now) ∧
    (added = [] → db.SameRecorded db')

namespace HttpRequest

/-- The record is of the time of the request and of a caller who is let in. -/
structure Signs (settings : Settings) (r : HttpRequest K) (event : AuditEvent) : Prop where
  caller : ∃ current, r.LetIn settings current ∧
    event.actor = Entry.signature ⟨actorName r.xActor current, r.now, r.operation⟩
  time : event.createdAt = r.now
  column : event.actor ≠ "" ∧ event.actor.length ≤ 64

end HttpRequest

theorem Entry.signature_fits (h : entry.actor ≠ "" ∧ entry.actor.length ≤ 64) :
    entry.signature ≠ "" ∧ entry.signature.length ≤ 64 := by
  have hassistant : "assistant" ≠ "" ∧ "assistant".length ≤ 64 := by decide
  obtain ⟨actor, now, operation⟩ := entry
  cases operation with
  | startDrill arguments => exact hassistant
  | _ => exact h

theorem Database.SameRecorded.refl (db : Database K) : db.SameRecorded db :=
  ⟨rfl, rfl, rfl, rfl, rfl, rfl⟩

theorem Database.SameRecorded.trans {db₁ : Database K} (h : db.SameRecorded db₁)
    (h' : db₁.SameRecorded db') : db.SameRecorded db' where
  incidents := h'.incidents.trans h.incidents
  plans := h'.plans.trans h.plans
  items := h'.items.trans h.items
  contacts := h'.contacts.trans h.contacts
  tasks := h'.tasks.trans h.tasks
  reports := h'.reports.trans h.reports

section
variable {actor : String} {now : Timestamp} {action : AuditAction}
variable {incidentId entityId : Option Uuid} {summary : String}

theorem Recorded.silent (hevents : db'.events = db.events) (hsame : db.SameRecorded db') :
    Recorded actor now db db' :=
  ⟨[], by rw [hevents, List.append_nil], by simp, fun _ => hsame⟩

theorem Recorded.record {db₁ : Database K} {added : List AuditEvent}
    (hevents : db₁.events = db.events ++ added)
    (hadded : ∀ event ∈ added, event.actor = actor ∧ event.createdAt = now) :
    Recorded actor now db
      (Audit.record db₁ now actor action incidentId entityId summary) := by
  refine ⟨added ++ [⟨db₁.nextId, incidentId, actor, action, entityId, summary, now⟩], ?_, ?_, ?_⟩
  · rw [← List.append_assoc, ← hevents]
    rfl
  · intro event hevent
    rcases List.mem_append.1 hevent with hevent | hevent
    · exact hadded event hevent
    · rw [List.mem_singleton.1 hevent]
      exact ⟨rfl, rfl⟩
  · intro hnil
    simp at hnil

theorem Recorded.single {db₁ : Database K} (hevents : db₁.events = db.events) :
    Recorded actor now db
      (Audit.record db₁ now actor action incidentId entityId summary) :=
  .record (hevents.trans (List.append_nil _).symm) (by simp)

theorem Planning.create_recorded {incident : Incident} {payload : PlanCreate}
    {plan : EvacuationPlan} (h : create db now actor incident payload = .ok (plan, db')) :
    Recorded actor now db db' := by
  obtain ⟨_, -, h⟩ := bind_eq_ok.1 h
  cases h
  cases currentPlan db incident.id with
  | none => exact .single rfl
  | some previous => exact .single rfl

theorem Incidents.create_recorded {regionName : String} {payload : IncidentCreate}
    {incident : Incident} {event : Event}
    (h : create db now actor regionName payload = .ok (incident, event, db')) :
    Recorded actor now db db' := by
  simp only [create] at h
  split at h
  · cases h
  · cases h
    exact .single rfl

/-- A report may have a second record, of the plan that it calls into question. -/
theorem Tasks.submitReport_recorded {taskId : Uuid} {payload : ReportCreate K}
    {report : FieldReport K} (h : submitReport db now actor taskId payload = .ok (report, db')) :
    Recorded actor now db db' := by
  obtain ⟨task, row, reason, summary, replan, -, -, -, hreplan, -, -, rfl⟩ := submitReport_eq_ok h
  have hfirst : (db.addReport task row).events = db.events := rfl
  have hsecond : ∃ added, replan.2.events = db.events ++ added ∧
      ∀ event ∈ added, event.actor = actor ∧ event.createdAt = now := by
    rw [hreplan]
    split
    · rcases Planning.markNeedsReapproval_cases (db.addReport task row) now actor task.incidentId
        reason with ⟨heq, -⟩ | ⟨plan, summary, -, -, heq⟩
      · rw [heq]
        exact ⟨[], by rw [hfirst, List.append_nil], by simp⟩
      · rw [heq]
        exact ⟨[_], rfl, by simp⟩
    · exact ⟨[], by rw [hfirst, List.append_nil], by simp⟩
  obtain ⟨added, hevents, hadded⟩ := hsecond
  exact .record hevents hadded

end

theorem Call.recorded {call : Call K} (hok : call.handle db = .ok db') :
    Recorded call.actor call.now db db' := by
  cases Call.handled hok with
  | createPlan _ _ _ _ _ hcreate => exact Planning.create_recorded hcreate
  | approvePlan _ _ _ _ happrove =>
    obtain ⟨plan, summary, -, -, -, rfl⟩ := Planning.approve_eq_ok happrove
    exact .single rfl
  | startContacts _ _ _ _ _ hstart =>
    obtain ⟨plan, summary, -, -, -, rfl⟩ := Contacts.startRound_eq_ok hstart
    exact .single rfl
  | updateContact _ _ _ _ hupdate =>
    obtain ⟨row, summary, -, rfl⟩ := Contacts.update_eq_ok hupdate
    exact .single rfl
  | createTask _ _ _ _ _ hcreate =>
    obtain ⟨summary, -, rfl⟩ := Tasks.create_eq_ok hcreate
    exact .single rfl
  | generateTasks incident _ _ hdb' =>
    subst hdb'
    rcases Tasks.createFromUnreachable_cases db call.now call.actor incident with
      heq | ⟨tasks, summary, -, heq⟩
    · rw [heq]
      exact .silent rfl (.refl db)
    · rw [heq]
      exact .single rfl
  | updateTask _ _ _ _ hupdate =>
    obtain ⟨task, summary, -, rfl | rfl⟩ := Tasks.update_eq_ok hupdate
    · exact .silent rfl (.refl db')
    · exact .single rfl
  | submitReport _ _ _ _ hsubmit => exact Tasks.submitReport_recorded hsubmit

theorem Entry.recorded (h : entry.handle db = .ok db') :
    Recorded entry.signature entry.now db db' := by
  obtain ⟨actor, now, operation⟩ := entry
  cases operation with
  | workflow request => exact Call.recorded h
  | declareIncident resolved payload =>
    obtain ⟨⟨incident, event, _⟩, hcreate, h⟩ := bind_eq_ok.1 h
    cases h
    exact Incidents.create_recorded hcreate
  | updateIncident incidentId payload =>
    obtain ⟨⟨incident, _⟩, hupdate, h⟩ := bind_eq_ok.1 h
    cases h
    obtain ⟨incident, summary, -, rfl | rfl⟩ := Incidents.update_eq_ok hupdate
    · exact .silent rfl (.refl _)
    · exact .single rfl
  | startDrill arguments =>
    obtain ⟨⟨reply, opened⟩, hstart, h⟩ := bind_eq_ok.1 h
    cases h
    obtain ⟨request, -, hstart⟩ := bind_eq_ok.1 hstart
    cases request with
    | error reply =>
      cases hstart
      exact .silent rfl (.refl db)
    | ok request =>
      obtain ⟨⟨reply, event, _⟩, hopened, hstart⟩ := bind_eq_ok.1 hstart
      cases hstart
      obtain ⟨⟨incident, event, _⟩, hcreate, hopened⟩ := bind_eq_ok.1 hopened
      cases hopened
      exact Incidents.create_recorded hcreate
  | createCommunity payload =>
    cases h
    exact .silent rfl ⟨rfl, rfl, rfl, rfl, rfl, rfl⟩
  | createShelter payload =>
    cases h
    exact .silent rfl ⟨rfl, rfl, rfl, rfl, rfl, rfl⟩

section
variable {settings : AppSettings} {r : HttpRequest K} {requests : List (HttpRequest K)}

theorem serve_recorded (hsafe : settings.Safe) (db : Database K) (r : HttpRequest K) :
    ∃ added, (serve settings.toSettings db r).events = db.events ++ added ∧
      (∀ event ∈ added, r.Signs settings.toSettings event) ∧
      (added = [] → db.SameRecorded (serve settings.toSettings db r)) := by
  rcases serve_handled settings.toSettings db r with hsame | ⟨current, hdep, hhandle⟩
  · rw [hsame]
    exact ⟨[], (List.append_nil _).symm, by simp, fun _ => .refl db⟩
  · obtain ⟨added, hevents, hadded, hsame⟩ := Entry.recorded hhandle
    refine ⟨added, hevents, fun event hevent => ?_, hsame⟩
    obtain ⟨hactor, htime⟩ := hadded event hevent
    refine ⟨⟨current, hsafe.letIn hdep, hactor⟩, htime, ?_⟩
    rw [hactor]
    exact Entry.signature_fits (actorName_fits (roleDep_ok.1 hdep).1 r.xActor)

/-- The records of a service in production are only added to, for each request in its turn and in
the name of a caller whom it lets in; where nothing is added nothing has been decided. -/
theorem records_signed {warnings : List String} (hlive : settings.isProductionLike)
    (hstart : settings.lifespan = .ok warnings) (db : Database K)
    (requests : List (HttpRequest K)) :
    ∃ chunks, (serveAll settings.toSettings db requests).events = db.events ++ chunks.flatten ∧
      List.Forall₂ (fun r chunk => ∀ event ∈ chunk, r.Signs settings.toSettings event) requests
        chunks ∧
      (chunks.flatten = [] → db.SameRecorded (serveAll settings.toSettings db requests)) := by
  have hsafe := ((AppSettings.lifespan_ok hlive).1 hstart).1
  induction requests generalizing db with
  | nil => exact ⟨[], (List.append_nil _).symm, .nil, fun _ => .refl db⟩
  | cons r requests ih =>
    obtain ⟨added, hevents, hadded, hsame⟩ := serve_recorded hsafe db r
    obtain ⟨chunks, hrest, hsigned, hkeeps⟩ := ih (serve settings.toSettings db r)
    refine ⟨added :: chunks, ?_, .cons hadded hsigned, ?_⟩
    · rw [List.flatten_cons, ← List.append_assoc, ← hevents]
      exact hrest
    · intro hnil
      obtain ⟨hfirst, hlater⟩ := List.append_eq_nil_iff.1 hnil
      exact (hsame hfirst).trans (hkeeps hlater)

end

end

/-- The three records of a round. -/
theorem records_signed_round :
    liveSettings.lifespan = .ok [] ∧
    (serveAll liveSettings.toSettings villageDatabase servedRound).events.length = 3 ∧
    ∃ chunks, (serveAll liveSettings.toSettings villageDatabase servedRound).events =
        villageDatabase.events ++ chunks.flatten ∧
      List.Forall₂ (fun r chunk => ∀ event ∈ chunk, r.Signs liveSettings.toSettings event)
        servedRound chunks ∧
      (chunks.flatten = [] →
        villageDatabase.SameRecorded
          (serveAll liveSettings.toSettings villageDatabase servedRound)) := by
  have hstart : liveSettings.lifespan = .ok [] := by decide +kernel
  exact ⟨hstart, by decide +kernel, records_signed (by decide) hstart villageDatabase servedRound⟩

end Salgil
