import Salgil.ReplanCause
import Salgil.ServedRequests

namespace Salgil
set_option autoImplicit true

/-- The task is the same one, whoever works on it by now and however far it has come. -/
def FieldTask.Reworked (task task' : FieldTask) : Prop :=
  task' = { task with
    status := task'.status
    assignee := task'.assignee
    priority := task'.priority
    detail := task'.detail
    dueAt := task'.dueAt }

/-- The plan is the same one, or it was approved and has to be approved again. -/
def EvacuationPlan.Questioned (plan plan' : EvacuationPlan) : Prop :=
  plan' = plan ∨ plan.status = .approved ∧ plan' = plan.requireReapproval

section
variable {K : Type}

/-- What the field can do: work on the tasks there are, report, and ask for another approval. -/
structure Database.FieldOnly (db db' : Database K) : Prop where
  communities : db'.communities = db.communities
  shelters : db'.shelters = db.shelters
  incidents : db'.incidents = db.incidents
  items : db'.items = db.items
  contacts : db'.contacts = db.contacts
  plans : List.Forall₂ EvacuationPlan.Questioned db.plans db'.plans
  tasks : List.Forall₂ FieldTask.Reworked db.tasks db'.tasks
  reports : db.reports <+: db'.reports

variable {db db₁ db' : Database K} {r : HttpRequest K}

theorem FieldTask.Reworked.trans {task task' task'' : FieldTask} (h : task.Reworked task')
    (h' : task'.Reworked task'') : task.Reworked task'' := by
  rw [Reworked] at h h' ⊢
  rw [h] at h'
  exact h'

theorem EvacuationPlan.Questioned.trans {plan plan' plan'' : EvacuationPlan}
    (h : plan.Questioned plan') (h' : plan'.Questioned plan'') : plan.Questioned plan'' := by
  rcases h' with rfl | ⟨happroved, rfl⟩
  · exact h
  · rcases h with rfl | ⟨-, rfl⟩
    · exact .inr ⟨happroved, rfl⟩
    · cases happroved

theorem forall₂_trans {R : α → α → Prop} (hR : ∀ {a b c}, R a b → R b c → R a c)
    {l l' l'' : List α} (h : List.Forall₂ R l l') (h' : List.Forall₂ R l' l'') :
    List.Forall₂ R l l'' := by
  induction h generalizing l'' with
  | nil => exact h'
  | cons hab _ ih =>
    cases h' with
    | cons hbc hrest => exact .cons (hR hab hbc) (ih hrest)

namespace Database.FieldOnly

theorem refl (db : Database K) : db.FieldOnly db where
  communities := rfl
  shelters := rfl
  incidents := rfl
  items := rfl
  contacts := rfl
  plans := List.forall₂_same.2 fun _ _ => .inl rfl
  tasks := List.forall₂_same.2 fun _ _ => rfl
  reports := List.prefix_rfl

theorem trans (h : db.FieldOnly db₁) (h' : db₁.FieldOnly db') : db.FieldOnly db' where
  communities := h'.communities.trans h.communities
  shelters := h'.shelters.trans h.shelters
  incidents := h'.incidents.trans h.incidents
  items := h'.items.trans h.items
  contacts := h'.contacts.trans h.contacts
  plans := forall₂_trans .trans h.plans h'.plans
  tasks := forall₂_trans .trans h.tasks h'.tasks
  reports := h.reports.trans h'.reports

end Database.FieldOnly

theorem Planning.markNeedsReapproval_questions (hids : (db.plans.map (·.id)).Nodup)
    (now : Timestamp) (actor : String) (incidentId : Uuid) (reason : String) :
    List.Forall₂ EvacuationPlan.Questioned db.plans
      (markNeedsReapproval db now actor incidentId reason).2.plans := by
  rcases markNeedsReapproval_cases db now actor incidentId reason with
    ⟨heq, -⟩ | ⟨current, summary, hcurrent, happroved, heq⟩
  · rw [heq]
    exact List.forall₂_same.2 fun _ _ => .inl rfl
  · rw [heq]
    refine List.forall₂_map_right_iff.2 (List.forall₂_same.2 fun plan hplan => ?_)
    by_cases hid : plan.id = current.id
    · rw [List.inj_on_of_nodup_map hids hplan (currentPlan_mem hcurrent).1 hid, if_pos rfl]
      exact .inr ⟨happroved, rfl⟩
    · exact .inl (if_neg hid)

namespace Tasks

theorem applyUpdate_reworked (payload : TaskUpdate) (task : FieldTask) :
    task.Reworked (applyUpdate payload task).1 := by
  unfold applyUpdate
  dsimp only
  split <;> rfl

theorem updateTask_reworked (hids : (db.tasks.map (·.id)).Nodup) {task : FieldTask}
    (htask : task ∈ db.tasks) {write : FieldTask → FieldTask}
    (hwrite : task.Reworked (write task)) :
    List.Forall₂ FieldTask.Reworked db.tasks (db.updateTask task.id write).tasks := by
  refine List.forall₂_map_right_iff.2 (List.forall₂_same.2 fun row hrow => ?_)
  by_cases hid : row.id = task.id
  · rw [List.inj_on_of_nodup_map hids hrow htask hid, if_pos rfl]
    exact hwrite
  · rw [if_neg hid]
    rfl

theorem update_fieldOnly (hids : (db.tasks.map (·.id)).Nodup) {now : Timestamp} {actor : String}
    {taskId : Uuid} {payload : TaskUpdate} {updated : FieldTask}
    (h : update db now actor taskId payload = .ok (updated, db')) : db.FieldOnly db' := by
  obtain ⟨task, summary, hget, rfl | rfl⟩ := update_eq_ok h
  · exact .refl _
  · exact { Database.FieldOnly.refl db with
      tasks := updateTask_reworked hids (get_mem hget).1 (applyUpdate_reworked payload task) }

theorem submitReport_fieldOnly (hplans : (db.plans.map (·.id)).Nodup)
    (htasks : (db.tasks.map (·.id)).Nodup) {now : Timestamp} {actor : String} {taskId : Uuid}
    {payload : ReportCreate K} {report : FieldReport K} (hreports : db.reports <+: db'.reports)
    (h : submitReport db now actor taskId payload = .ok (report, db')) : db.FieldOnly db' := by
  obtain ⟨task, row, reason, summary, replan, hget, -, -, hreplan, hkeeps, -, rfl⟩ :=
    submitReport_eq_ok h
  have hquestioned : List.Forall₂ EvacuationPlan.Questioned db.plans replan.2.plans := by
    have hflush : ((db.addReport task row).plans.map (·.id)).Nodup := hplans
    rw [hreplan]
    split
    · exact Planning.markNeedsReapproval_questions hflush _ _ _ _
    · exact List.forall₂_same.2 fun _ _ => .inl rfl
  have hreworked : List.Forall₂ FieldTask.Reworked db.tasks replan.2.tasks := by
    have hflush : replan.2.tasks = (db.addReport task row).tasks := by rw [hkeeps]
    rw [hflush]
    simp only [Database.addReport]
    split
    · exact List.forall₂_same.2 fun _ _ => rfl
    · exact updateTask_reworked htasks (get_mem hget).1 rfl
  have hsame : replan.2.communities = db.communities ∧ replan.2.shelters = db.shelters ∧
      replan.2.incidents = db.incidents ∧ replan.2.items = db.items ∧
      replan.2.contacts = db.contacts := by
    rw [hkeeps]
    exact ⟨rfl, rfl, rfl, rfl, rfl⟩
  obtain ⟨hcommunities, hshelters, hincidents, hitems, hcontacts⟩ := hsame
  exact ⟨hcommunities, hshelters, hincidents, hitems, hcontacts, hquestioned, hreworked, hreports⟩

end Tasks

/-- The rows of plans, tasks and reports have keys of their own. -/
structure Database.FieldReady (db : Database K) : Prop where
  reported : db.Reported
  tasked : db.Tasked

theorem Database.FieldReady.of_empty (h : db.Empty) : db.FieldReady := ⟨.of_empty h, .of_empty h⟩

theorem Database.FieldReady.perform (h : db.FieldReady) (entry : Entry K) :
    (perform db entry).FieldReady :=
  ⟨h.reported.perform entry, h.tasked.perform entry⟩

theorem Database.FieldReady.serve (h : db.FieldReady) (settings : Settings) (r : HttpRequest K) :
    (serve settings db r).FieldReady := by
  rcases serve_performs settings db r with hsame | ⟨current, -, hperform⟩
  · rw [hsame]
    exact h
  · rw [hperform]
    exact h.perform _

theorem Database.FieldReady.serveAll (h : db.FieldReady) (settings : Settings)
    (requests : List (HttpRequest K)) : (serveAll settings db requests).FieldReady := by
  induction requests generalizing db with
  | nil => exact h
  | cons r requests ih => exact ih (h.serve settings r)

theorem Operation.asksFor_field {operation : Operation K} (h : operation.asksFor = "field") :
    (∃ taskId payload, operation = .workflow (.updateTask taskId payload)) ∨
      ∃ taskId payload, operation = .workflow (.submitReport taskId payload) := by
  have hoperator : "operator" ≠ "field" := by decide
  have happrover : "approver" ≠ "field" := by decide
  cases operation with
  | workflow request =>
    cases request with
    | updateTask taskId payload => exact .inl ⟨taskId, payload, rfl⟩
    | submitReport taskId payload => exact .inr ⟨taskId, payload, rfl⟩
    | approvePlan => exact absurd h happrover
    | _ => exact absurd h hoperator
  | _ => exact absurd h hoperator

theorem Operation.asksFor_mem (operation : Operation K) :
    operation.asksFor ∈ ["field", "operator", "approver"] := by
  cases operation with
  | workflow request => cases request <;> simp [asksFor, Request.asksFor]
  | _ => simp [asksFor]

theorem Operation.asksFor_of_field {operation : Operation K} {current : Principal}
    (hrole : current.role = "field") (hleast : current.hasAtLeast operation.asksFor) :
    operation.asksFor = "field" := by
  have hranks : ∀ asked ∈ ["field", "operator", "approver"],
      (roleRank.lookup asked).getD 99 ≤ (roleRank.lookup "field").getD 0 → asked = "field" := by
    decide
  rw [Principal.hasAtLeast, hrole] at hleast
  exact hranks _ operation.asksFor_mem (of_decide_eq_true hleast)

theorem perform_fieldOnly (h : db.FieldReady) {entry : Entry K}
    (hask : entry.operation.asksFor = "field") : db.FieldOnly (perform db entry) := by
  have hids := h.reported.sound.versioned.ids
  have hreports := reports_extend h.reported [entry]
  simp only [runEntries, List.foldl_cons, List.foldl_nil, Salgil.perform] at hreports ⊢
  cases hhandle : entry.handle db with
  | error raised => exact .refl db
  | ok db' =>
    rw [hhandle] at hreports
    obtain ⟨actor, now, operation⟩ := entry
    rcases Operation.asksFor_field hask with ⟨taskId, payload, rfl⟩ | ⟨taskId, payload, rfl⟩
    · obtain ⟨⟨updated, _⟩, hupdate, hdb⟩ := bind_eq_ok.1 hhandle
      cases hdb
      exact Tasks.update_fieldOnly h.tasked.task_ids hupdate
    · obtain ⟨⟨report, _⟩, hsubmit, hdb⟩ := bind_eq_ok.1 hhandle
      cases hdb
      exact Tasks.submitReport_fieldOnly hids h.tasked.task_ids hreports hsubmit

/-- Whatever has gone before, those who have field keys only leave the incidents, the order of
evacuation and the contacts as they are: they take no plan into force, and add no task. -/
theorem field_keys_confined (h : db.Empty) (settings : Settings)
    (before requests : List (HttpRequest K))
    (hfield : ∀ r ∈ requests, ∀ current, authenticate r.headers settings = .ok current →
      current.role = "field") :
    (serveAll settings db before).FieldOnly (serveAll settings db (before ++ requests)) := by
  have hready := (Database.FieldReady.of_empty h).serveAll settings before
  rw [serveAll, serveAll, List.foldl_append]
  rw [serveAll] at hready
  generalize before.foldl (serve settings) db = db₁ at hready
  induction requests generalizing db₁ with
  | nil => exact .refl db₁
  | cons r requests ih =>
    rw [List.forall_mem_cons] at hfield
    refine Database.FieldOnly.trans ?_ (ih hfield.2 _ (hready.serve settings r))
    rcases serve_performs settings db₁ r with hsame | ⟨current, hdep, hperform⟩
    · rw [hsame]
      exact .refl db₁
    · obtain ⟨hauth, hleast⟩ := roleDep_ok.1 hdep
      rw [hperform]
      exact perform_fieldOnly hready
        (Operation.asksFor_of_field (hfield.1 current hauth) hleast)

end

/-- A fire is declared, its plan approved, and a patrol sent out. -/
def patrolledFire : List (HttpRequest ℚ) :=
  [⟨{ xApiKey := some "dev-operator" }, none, 0, .declareIncident none fire⟩,
    ⟨{ xApiKey := some "dev-operator" }, none, 10, .workflow (.createPlan 1 villagePlan)⟩,
    ⟨{ xApiKey := some "dev-approver" }, none, 20, .workflow (.approvePlan 3 headsApproval)⟩,
    ⟨{ xApiKey := some "dev-operator" }, none, 30, .workflow (.createTask 1 patrol)⟩]

/-- The patrol reports, and then would approve the plan itself. -/
def patrolReports : List (HttpRequest ℚ) :=
  [⟨{ xApiKey := some "dev-field" }, none, 40, .workflow (.submitReport 7 bridgeOut)⟩,
    ⟨{ xApiKey := some "dev-field" }, none, 50, .workflow (.approvePlan 3 headsApproval)⟩]

theorem field_keys_confined_patrol :
    (serveAll devSettings quietVillage patrolledFire).plans.map (·.status) = [.approved] ∧
    (serveAll devSettings quietVillage (patrolledFire ++ patrolReports)).plans.map (·.status) =
      [.reapprovalRequired] ∧
    (serveAll devSettings quietVillage patrolledFire).FieldOnly
      (serveAll devSettings quietVillage (patrolledFire ++ patrolReports)) := by
  have hpatrol : authenticate { xApiKey := some "dev-field" } devSettings =
      .ok ⟨"dev-…", "field"⟩ := by decide +kernel
  refine ⟨by decide +kernel, by decide +kernel,
    field_keys_confined quietVillage_empty devSettings patrolledFire patrolReports ?_⟩
  intro r hr current hauth
  have hheaders : r.headers = { xApiKey := some "dev-field" } := by
    simp only [patrolReports, List.mem_cons, List.not_mem_nil, or_false] at hr
    rcases hr with rfl | rfl <;> rfl
  rw [hheaders, hpatrol] at hauth
  cases hauth
  rfl

end Salgil
