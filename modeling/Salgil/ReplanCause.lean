import Salgil.FieldHistory
import Salgil.GuardedRun

namespace Salgil
set_option autoImplicit true

/-- The event tells that a plan has to be approved again. -/
def AuditAction.asksReapproval : AuditAction → Bool
  | .planReapprovalRequired _ _ => true
  | _ => false

section
variable {K : Type} {db db' : Database K} {entry : Entry K} {entries : List (Entry K)}
variable {i : Uuid}

def Database.reapprovals (db : Database K) (incidentId : Uuid) : List AuditEvent :=
  (db.eventsOf incidentId).filter (·.action.asksReapproval)

/-- The reports of an incident that are marked as the cause of a new plan. -/
def Database.replanReports (db : Database K) (incidentId : Uuid) : List (FieldReport K) :=
  db.reports.filter fun report => report.incidentId = incidentId ∧ report.triggeredReplan

/-- The current plan of the incident goes from approved to waiting for a new approval. -/
def SentBack (db db' : Database K) (incidentId : Uuid) : Prop :=
  ∃ p q, Planning.currentPlan db incidentId = some p ∧
    Planning.currentPlan db' incidentId = some q ∧ q.id = p.id ∧ p.status = .approved ∧
      q.status = .reapprovalRequired

/-- A report of the run is marked just if submitting it sent the plan back, and there are as many
such reports as events. -/
structure TellsCause (db : Database K) (entries : List (Entry K)) : Prop where
  flags : ∀ before entry after, entries = before ++ entry :: after →
    ∀ report ∈ (runEntries db entries).reports,
      (∀ r ∈ (runEntries db before).reports, r.id ≠ report.id) →
      (∃ r ∈ (runEntries db (before ++ [entry])).reports, r.id = report.id) →
      (report.triggeredReplan = true ↔
        SentBack (runEntries db before) (runEntries db (before ++ [entry])) report.incidentId)
  counts : ∀ i, ((runEntries db entries).replanReports i).length =
    ((runEntries db entries).reapprovals i).length

/-- No report that asks for a new plan comes in while the current plan already waits for its new
approval. -/
def ReportsOnce (db : Database K) (entry : Entry K) : Prop :=
  ∀ taskId payload task plan, entry.operation = .workflow (.submitReport taskId payload) →
    Tasks.get db taskId = .ok task → payload.requestReplan ∨ payload.accessConstraints ≠ [] →
    Planning.currentPlan db task.incidentId = some plan → plan.status ≠ .reapprovalRequired

/-- The rows hang together, and no two reports have one id. -/
structure Database.Reported (db : Database K) : Prop extends db.Linked where
  report_ids : (db.reports.map (·.id)).Nodup
  report_lt : ∀ report ∈ db.reports, report.id < db.nextId

/-- Nothing is reported, and no plan is sent back. -/
structure NothingReported (db db' : Database K) : Prop where
  reports : db'.reports = db.reports
  reapprovals : ∀ i, db'.reapprovals i = db.reapprovals i

/-- The row of a new report. -/
structure NewReport (db : Database K) (task : FieldTask) (report : FieldReport K)
    (db' : Database K) : Prop where
  reports : db'.reports = db.reports ++ [report]
  id : report.id = db.nextId
  incident : report.incidentId = task.incidentId
  next : db.nextId < db'.nextId

/-- The report asks for a new plan, or tells where nobody can pass. -/
def ReportCreate.AsksReplan (payload : ReportCreate K) : Prop :=
  payload.requestReplan = true ∨ payload.accessConstraints ≠ []

/-- What a new report does to the current plan of its incident. -/
inductive ReportOutcome (db : Database K) (payload : ReportCreate K) (task : FieldTask)
    (report : FieldReport K) (db' : Database K) : Prop where
  | noted : (payload.AsksReplan → ∀ plan, Planning.currentPlan db task.incidentId = some plan →
        plan.status ≠ .reapprovalRequired) →
      report.triggeredReplan = false → ¬ SentBack db db' task.incidentId →
      (∀ i, db'.reapprovals i = db.reapprovals i) → ReportOutcome db payload task report db'
  | waiting (plan : EvacuationPlan) : payload.AsksReplan →
      Planning.currentPlan db task.incidentId = some plan → plan.status = .reapprovalRequired →
      report.triggeredReplan = true → ¬ SentBack db db' task.incidentId →
      ReportOutcome db payload task report db'
  | sentBack : report.triggeredReplan = true → SentBack db db' task.incidentId →
      (∀ i, (db'.reapprovals i).length =
        (db.reapprovals i).length + if task.incidentId = i then 1 else 0) →
      ReportOutcome db payload task report db'

theorem Database.reapprovals_congr (h : db'.events = db.events) (i : Uuid) :
    db'.reapprovals i = db.reapprovals i := by
  rw [reapprovals, reapprovals, eventsOf, eventsOf, h]

theorem Database.reapprovals_append {event : AuditEvent} (h : db'.events = db.events ++ [event])
    (i : Uuid) : db'.reapprovals i = db.reapprovals i ++
      if event.incidentId = some i ∧ event.action.asksReapproval then [event] else [] := by
  rw [reapprovals, reapprovals, eventsOf, eventsOf, h, List.filter_append, List.filter_append]
  congr 1
  by_cases hi : event.incidentId = some i
  · cases haction : event.action.asksReapproval <;> simp [hi, haction]
  · simp [hi]

theorem NothingReported.of_event {event : AuditEvent} (hreports : db'.reports = db.reports)
    (hevents : db'.events = db.events ++ [event]) (haction : event.action.asksReapproval = false) :
    NothingReported db db' := by
  refine ⟨hreports, fun i => ?_⟩
  rw [Database.reapprovals_append hevents, haction]
  simp

theorem NothingReported.of_eq (hreports : db'.reports = db.reports)
    (hevents : db'.events = db.events) : NothingReported db db' :=
  ⟨hreports, Database.reapprovals_congr hevents⟩

theorem not_sentBack (hplans : db'.plans = db.plans) : ¬ SentBack db db' i := by
  rintro ⟨p, q, hp, hq, -, happroved, hwaiting⟩
  have hsame : Planning.currentPlan db' i = Planning.currentPlan db i := by
    rw [Planning.currentPlan, Planning.currentPlan, hplans]
  obtain rfl := Option.some.inj (hq.symm.trans (hsame.trans hp))
  rw [happroved] at hwaiting
  cases hwaiting

theorem sentBack_updatePlan {plan : EvacuationPlan} (hdb : db.Versioned) (hdb' : db'.Versioned)
    (hplan : Planning.currentPlan db i = some plan) (happroved : plan.status = .approved)
    (hplans : db'.plans = (db.updatePlan plan.id EvacuationPlan.requireReapproval).plans) :
    SentBack db db' i := by
  refine ⟨plan, plan.requireReapproval, hplan, ?_, rfl, happroved, rfl⟩
  obtain ⟨hmem, hi, hversion⟩ := hdb.currentPlan_eq_some.1 hplan
  have hlength : (db'.plansOf i).length = (db.plansOf i).length := by
    rw [Database.plansOf_map hplans, List.length_map]
    intro p
    split <;> rfl
  rw [hdb'.currentPlan_eq_some, hlength]
  refine ⟨?_, hi, hversion⟩
  rw [hplans]
  exact List.mem_map.2 ⟨plan, hmem, if_pos rfl⟩

/-- What a report leaves of the database that its row is in. -/
inductive ReplanOutcome (db : Database K) (payload : ReportCreate K) (i : Uuid) :
    Bool × Database K → Prop where
  | noted : (payload.AsksReplan → ∀ plan, Planning.currentPlan db i = some plan →
      plan.status ≠ .reapprovalRequired) → ReplanOutcome db payload i (false, db)
  | waiting (plan : EvacuationPlan) : payload.AsksReplan →
      Planning.currentPlan db i = some plan → plan.status = .reapprovalRequired →
      ReplanOutcome db payload i (true, db)
  | sentBack (plan : EvacuationPlan) (event : AuditEvent) :
      Planning.currentPlan db i = some plan → plan.status = .approved →
      event.incidentId = some i → event.action.asksReapproval = true →
      ReplanOutcome db payload i (true,
        { db.updatePlan plan.id EvacuationPlan.requireReapproval with
          events := db.events ++ [event]
          nextId := db.nextId + 1 })

theorem replanOutcome (db : Database K) (now : Timestamp) (actor : String)
    (payload : ReportCreate K) (i : Uuid) (reason : String) :
    ReplanOutcome db payload i
      (if payload.requestReplan = true ∨ payload.accessConstraints ≠ [] then
        ((Planning.markNeedsReapproval db now actor i reason).1.any
          (·.status = .reapprovalRequired), (Planning.markNeedsReapproval db now actor i reason).2)
      else (false, db)) := by
  split
  · next hasks =>
    rcases Planning.markNeedsReapproval_cases db now actor i reason with
      ⟨heq, -⟩ | ⟨plan, summary, hplan, happroved, heq⟩
    · rw [heq]
      cases hcurrent : Planning.currentPlan db i with
      | none => exact .noted (by simp [hcurrent])
      | some plan =>
        by_cases hwaiting : plan.status = .reapprovalRequired
        · simpa [hwaiting] using ReplanOutcome.waiting plan hasks hcurrent hwaiting
        · have hnoted : ReplanOutcome db payload i (false, db) := by
            apply ReplanOutcome.noted
            intro _ other hother
            obtain rfl := Option.some.inj (hcurrent.symm.trans hother)
            exact hwaiting
          simpa [hwaiting] using hnoted
    · rw [heq]
      exact .sentBack plan _ hplan happroved rfl rfl
  · next hquiet => exact .noted fun hasks => absurd hasks hquiet

theorem Tasks.submitReport_outcome {now : Timestamp} {actor : String} {taskId : Uuid}
    {payload : ReportCreate K} {task : FieldTask} {report : FieldReport K}
    (hdb : db.Reported) (hdb' : db'.Versioned) (hget : Tasks.get db taskId = .ok task)
    (h : Tasks.submitReport db now actor taskId payload = .ok (report, db')) :
    NewReport db task report db' ∧ ReportOutcome db payload task report db' := by
  obtain ⟨task', row, reason, summary, replan, hget', hid, hincident, hreplan, hkeeps, hreport,
    hfinal⟩ := submitReport_eq_ok h
  obtain rfl := Except.ok.inj (hget'.symm.trans hget)
  have houtcome := replanOutcome (db.addReport task' row) now actor payload task'.incidentId reason
  rw [← hreplan] at houtcome
  have hreports : replan.2.reports = db.reports ++ [row] := by
    rw [hkeeps]
    rfl
  -- the reports that were there before are not the marked one
  have hkeep : (db.reports.map fun r => if r.id = row.id then
      { r with triggeredReplan := replan.1 } else r) = db.reports := by
    refine (List.map_congr_left fun r hr => ?_).trans (List.map_id' _)
    rw [hid]
    exact if_neg (hdb.report_lt r hr).ne
  have hnext : db.nextId + 1 ≤ replan.2.nextId := by
    cases houtcome with
    | noted => exact le_rfl
    | waiting => exact le_rfl
    | sentBack => exact Nat.le_succ _
  have hmark : report.triggeredReplan = replan.1 := by rw [hreport]
  have hother : ∀ i, db'.reapprovals i = replan.2.reapprovals i := by
    intro i
    rw [Database.reapprovals_append (congrArg Database.events hfinal)]
    simp [AuditAction.asksReapproval, Database.reapprovals, Database.eventsOf]
  have hplans : db'.plans = replan.2.plans := by
    rw [hfinal]
    rfl
  refine ⟨⟨?_, ?_, ?_, ?_⟩, ?_⟩
  · rw [hfinal, Audit.record]
    simp only [hreports, List.map_append, hkeep, List.map_singleton, if_true, hreport]
  · rw [hreport]
    exact hid
  · rw [hreport]
    exact hincident
  · rw [hfinal]
    exact Nat.lt_succ_of_lt hnext
  · cases houtcome with
    | noted hasks =>
      refine .noted hasks hmark (not_sentBack hplans) fun i => ?_
      rw [hother]
      rfl
    | waiting plan hasks hplan hwaiting =>
      exact .waiting plan hasks hplan hwaiting hmark (not_sentBack hplans)
    | sentBack plan sent hplan happroved hi hasks =>
      refine .sentBack hmark (sentBack_updatePlan hdb.sound.versioned hdb' hplan happroved hplans)
        fun i => ?_
      have hfirst : (db.addReport task' row).reapprovals i = db.reapprovals i := rfl
      rw [hother, Database.reapprovals_append rfl, hfirst, hi, hasks, List.length_append]
      by_cases heq : task'.incidentId = i
      · simp [heq]
      · simp [heq]

theorem perform_submitReport {taskId : Uuid} {payload : ReportCreate K} {task : FieldTask}
    (hdb : db.Reported) (hoperation : entry.operation = .workflow (.submitReport taskId payload))
    (hget : Tasks.get db taskId = .ok task) :
    ∃ report, NewReport db task report (perform db entry) ∧
      ReportOutcome db payload task report (perform db entry) := by
  obtain ⟨report, db', hsubmit⟩ : ∃ report db',
      Tasks.submitReport db entry.now entry.actor taskId payload = .ok (report, db') := by
    rw [Tasks.submitReport, hget]
    exact ⟨_, _, rfl⟩
  have hperform : perform db entry = db' := by
    rw [perform, Entry.handle, hoperation]
    simp only [Call.handle, hsubmit, ok_bind]
    rfl
  have hlinked := hdb.toLinked.perform entry
  rw [hperform] at hlinked ⊢
  exact ⟨report, Tasks.submitReport_outcome hdb hlinked.sound.versioned hget hsubmit⟩

theorem Call.handle_nothingReported {call : Call K}
    (hother : ∀ taskId payload, call.request ≠ .submitReport taskId payload)
    (hok : call.handle db = .ok db') : NothingReported db db' := by
  cases Call.handled hok with
  | createPlan _ _ _ _ _ hcreate =>
    obtain ⟨-, hdb', event, hevents, -, haction⟩ := Planning.create_eq_ok hcreate
    refine .of_event (by rw [hdb']) hevents ?_
    rw [haction]
    rfl
  | approvePlan _ _ _ _ happrove =>
    obtain ⟨plan, summary, -, -, -, rfl⟩ := Planning.approve_eq_ok happrove
    exact .of_event rfl rfl rfl
  | startContacts _ _ _ _ _ hstart =>
    obtain ⟨plan, summary, -, -, -, rfl⟩ := Contacts.startRound_eq_ok hstart
    exact .of_event rfl rfl rfl
  | updateContact _ _ _ _ hupdate =>
    obtain ⟨row, summary, -, rfl⟩ := Contacts.update_eq_ok hupdate
    exact .of_event rfl rfl rfl
  | createTask _ _ _ _ _ hcreate =>
    obtain ⟨summary, -, rfl⟩ := Tasks.create_eq_ok hcreate
    exact .of_event rfl rfl rfl
  | generateTasks incident _ _ hdb' =>
    subst hdb'
    rcases Tasks.createFromUnreachable_cases db call.now call.actor incident with
      heq | ⟨tasks, summary, -, heq⟩
    · rw [heq]
      exact .of_eq rfl rfl
    · rw [heq]
      exact .of_event rfl rfl rfl
  | updateTask _ _ _ _ hupdate =>
    obtain ⟨task, summary, -, rfl | rfl⟩ := Tasks.update_eq_ok hupdate
    · exact .of_eq rfl rfl
    · exact .of_event rfl rfl rfl
  | submitReport taskId payload _ hrequest => exact absurd hrequest (hother taskId payload)

theorem Entry.handle_nothingReported
    (hother : ∀ taskId payload, entry.operation ≠ .workflow (.submitReport taskId payload))
    (h : entry.handle db = .ok db') : NothingReported db db' := by
  cases Entry.handled h with
  | workflow request hoperation hok =>
    refine Call.handle_nothingReported (fun taskId payload heq => ?_) hok
    exact hother taskId payload (heq ▸ hoperation)
  | declared _ _ _ _ _ _ hcreate =>
    obtain ⟨-, -, -, -, -, -, hdb', event, hevents, -, haction⟩ := Incidents.create_eq_ok hcreate
    refine .of_event (by rw [hdb']) hevents ?_
    rw [haction]
    rfl
  | updated _ _ _ _ hupdate =>
    obtain ⟨target, summary, -, rfl | rfl⟩ := Incidents.update_eq_ok hupdate
    · exact .of_eq rfl rfl
    · exact .of_event rfl rfl rfl
  | declined _ hdb' => exact .of_eq (hdb' ▸ rfl) (hdb' ▸ rfl)
  | community payload _ hdb' =>
    subst hdb'
    exact .of_eq rfl rfl
  | shelter payload _ hdb' =>
    subst hdb'
    exact .of_eq rfl rfl

theorem perform_reports (hdb : db.Reported) (entry : Entry K) :
    NothingReported db (perform db entry) ∨ ∃ taskId payload task report,
      entry.operation = .workflow (.submitReport taskId payload) ∧
        Tasks.get db taskId = .ok task ∧ NewReport db task report (perform db entry) ∧
        ReportOutcome db payload task report (perform db entry) := by
  by_cases hsubmits : ∃ taskId payload, entry.operation = .workflow (.submitReport taskId payload)
  · obtain ⟨taskId, payload, hoperation⟩ := hsubmits
    cases hget : Tasks.get db taskId with
    | ok task =>
      obtain ⟨report, hnew, houtcome⟩ := perform_submitReport hdb hoperation hget
      exact .inr ⟨taskId, payload, task, report, hoperation, hget, hnew, houtcome⟩
    | error e =>
      left
      have hperform : perform db entry = db := by
        rw [perform, Entry.handle, hoperation]
        simp only [Call.handle, Tasks.submitReport, hget]
        rfl
      rw [hperform]
      exact .of_eq rfl rfl
  · left
    push Not at hsubmits
    unfold perform
    split
    · next h => exact Entry.handle_nothingReported hsubmits h
    · exact .of_eq rfl rfl

theorem Database.Reported.of_empty (h : db.Empty) : db.Reported where
  toLinked := .of_empty h
  report_ids := by simp [h.reports]
  report_lt := by simp [h.reports]

theorem Database.Reported.perform (h : db.Reported) (entry : Entry K) :
    (perform db entry).Reported := by
  rcases perform_reports h entry with hnothing | ⟨_, _, task, report, -, -, hnew, -⟩
  · refine ⟨h.toLinked.perform entry, ?_, fun r hr => ?_⟩
    · rw [hnothing.reports]
      exact h.report_ids
    · rw [hnothing.reports] at hr
      exact (h.report_lt r hr).trans_le (perform_le_nextId db entry)
  · refine ⟨h.toLinked.perform entry, ?_, fun r hr => ?_⟩
    · rw [hnew.reports, List.map_append, List.nodup_append]
      refine ⟨h.report_ids, List.nodup_singleton _, fun id hid id' hid' heq => ?_⟩
      obtain ⟨r, hr, rfl⟩ := List.mem_map.1 hid
      rw [List.map_singleton, List.mem_singleton, hnew.id] at hid'
      exact (h.report_lt r hr).ne (heq.trans hid')
    · rw [hnew.reports, List.mem_append, List.mem_singleton] at hr
      rcases hr with hr | rfl
      · exact (h.report_lt r hr).trans hnew.next
      · rw [hnew.id]
        exact hnew.next

theorem Database.Reported.run (h : db.Reported) (entries : List (Entry K)) :
    (runEntries db entries).Reported := by
  induction entries generalizing db with
  | nil => exact h
  | cons entry entries ih => exact ih (h.perform entry)

theorem runEntries_append (db : Database K) (before after : List (Entry K)) :
    runEntries db (before ++ after) = runEntries (runEntries db before) after :=
  List.foldl_append

theorem reports_extend (h : db.Reported) (entries : List (Entry K)) :
    db.reports <+: (runEntries db entries).reports := by
  induction entries generalizing db with
  | nil => exact List.prefix_rfl
  | cons entry entries ih =>
    refine List.IsPrefix.trans ?_ (ih (h.perform entry))
    rcases perform_reports h entry with hnothing | ⟨_, _, _, report, -, -, hnew, -⟩
    · exact hnothing.reports ▸ List.prefix_rfl
    · exact hnew.reports ▸ List.prefix_append _ _

theorem Database.Reported.new_report (h : db.Reported) {report : FieldReport K}
    (hmem : report ∈ (Salgil.perform db entry).reports)
    (hnot : ∀ r ∈ db.reports, r.id ≠ report.id) :
    ∃ taskId payload task, entry.operation = .workflow (.submitReport taskId payload) ∧
      Tasks.get db taskId = .ok task ∧ NewReport db task report (Salgil.perform db entry) ∧
      ReportOutcome db payload task report (Salgil.perform db entry) := by
  rcases perform_reports h entry with
    hnothing | ⟨taskId, payload, task, report', hoperation, hget, hnew, houtcome⟩
  · exact absurd rfl (hnot report (hnothing.reports ▸ hmem))
  · rw [hnew.reports, List.mem_append, List.mem_singleton] at hmem
    rcases hmem with hold | rfl
    · exact absurd rfl (hnot report hold)
    · exact ⟨taskId, payload, task, hoperation, hget, hnew, houtcome⟩

/-- Where no report comes in while the plan waits, one that is filed is marked just if it sends
the plan back. -/
theorem ReportsOnce.flag {report : FieldReport K} {payload : ReportCreate K} {task : FieldTask}
    {taskId : Uuid} (hallowed : ReportsOnce db entry)
    (hoperation : entry.operation = .workflow (.submitReport taskId payload))
    (hget : Tasks.get db taskId = .ok task)
    (houtcome : ReportOutcome db payload task report db') :
    report.triggeredReplan = true ↔ SentBack db db' task.incidentId := by
  cases houtcome with
  | noted _ hmark hnot =>
    rw [hmark]
    exact iff_of_false Bool.false_ne_true hnot
  | waiting plan hasks hplan hwaiting =>
    exact absurd hwaiting (hallowed taskId payload task plan hoperation hget hasks hplan)
  | sentBack hmark hsent => exact iff_of_true hmark hsent

theorem ReportsOnce.counts (hdb : db.Reported) (hallowed : ReportsOnce db entry)
    (hcounts : ∀ i, (db.replanReports i).length = (db.reapprovals i).length) (i : Uuid) :
    ((perform db entry).replanReports i).length = ((perform db entry).reapprovals i).length := by
  rcases perform_reports hdb entry with
    hnothing | ⟨taskId, payload, task, report, hoperation, hget, hnew, houtcome⟩
  · rw [Database.replanReports, hnothing.reports, hnothing.reapprovals]
    exact hcounts i
  · have hreports : ((perform db entry).replanReports i).length = (db.replanReports i).length +
        if task.incidentId = i ∧ report.triggeredReplan then 1 else 0 := by
      rw [Database.replanReports, hnew.reports, List.filter_append, List.length_append,
        List.filter_singleton, hnew.incident]
      congr 1
      by_cases hi : task.incidentId = i
      · cases report.triggeredReplan <;> simp [hi]
      · simp [hi]
    rw [hreports, hcounts i]
    cases houtcome with
    | noted _ hmark _ hevents =>
      rw [hevents, hmark]
      simp
    | waiting plan hasks hplan hwaiting =>
      exact absurd hwaiting (hallowed taskId payload task plan hoperation hget hasks hplan)
    | sentBack hmark _ hevents =>
      rw [hevents, hmark]
      simp

theorem allAllowed_counts (h : db.Reported) (hallowed : AllAllowed perform ReportsOnce db entries)
    (hcounts : ∀ i, (db.replanReports i).length = (db.reapprovals i).length) (i : Uuid) :
    ((runEntries db entries).replanReports i).length =
      ((runEntries db entries).reapprovals i).length := by
  induction entries generalizing db with
  | nil => exact hcounts i
  | cons entry entries ih =>
    obtain ⟨hfirst, hrest⟩ := allAllowed_cons.1 hallowed
    exact ih (h.perform entry) hrest (hfirst.counts h hcounts)

/-- In a run the mark of a report tells what sent the plan back, if and only if no report that asks
for a new plan comes in while the current one already waits for its approval. -/
theorem tells_cause_iff (h : db.Empty) (entries : List (Entry K)) :
    TellsCause db entries ↔ AllAllowed perform ReportsOnce db entries := by
  have hdb := Database.Reported.of_empty h
  have hstep : ∀ before entry, runEntries db (before ++ [entry]) =
      perform (runEntries db before) entry :=
    fun before entry => runEntries_append db before [entry]
  constructor
  · rintro htells before entry after rfl
    intro taskId payload task plan hoperation hget hasks hplan hwaiting
    have hbefore := hdb.run before
    obtain ⟨report, hnew, houtcome⟩ := perform_submitReport hbefore hoperation hget
    rw [← hstep] at hnew houtcome
    have hmem : report ∈ (runEntries db (before ++ [entry])).reports := by
      rw [hnew.reports]
      exact List.mem_append_right _ (List.mem_singleton_self _)
    have hlast : report ∈ (runEntries db (before ++ entry :: after)).reports := by
      rw [List.append_cons, runEntries_append]
      exact (reports_extend (hdb.run _) after).subset hmem
    have hflag := htells.flags before entry after rfl report hlast
      (fun r hr => hnew.id ▸ (hbefore.report_lt r hr).ne) ⟨report, hmem, rfl⟩
    rw [hnew.incident] at hflag
    cases houtcome with
    | noted hquiet => exact hquiet hasks plan hplan hwaiting
    | waiting _ _ _ _ hmark hnot => exact hnot (hflag.1 hmark)
    | sentBack _ hsent =>
      obtain ⟨p, q, hp, -, -, happroved, -⟩ := hsent
      obtain rfl := Option.some.inj (hp.symm.trans hplan)
      rw [happroved] at hwaiting
      cases hwaiting
  · intro hallowed
    refine ⟨?_, allAllowed_counts hdb hallowed fun i => ?_⟩
    · rintro before entry after rfl report hreport hnot ⟨r, hr, hid⟩
      -- ids are never used twice, so the report is the row that the step has left
      have hids := (hdb.run (before ++ entry :: after)).report_ids
      have hextend : (runEntries db (before ++ [entry])).reports <+:
          (runEntries db (before ++ entry :: after)).reports := by
        rw [List.append_cons before entry after, runEntries_append db (before ++ [entry]) after]
        exact reports_extend (hdb.run _) after
      obtain rfl := List.inj_on_of_nodup_map hids (hextend.subset hr) hreport hid
      rw [hstep] at hr ⊢
      obtain ⟨taskId, payload, task, hoperation, hget, hnew, houtcome⟩ :=
        (hdb.run before).new_report hr hnot
      rw [hnew.incident]
      exact (hallowed before entry after rfl).flag hoperation hget houtcome
    · simp [Database.replanReports, Database.reapprovals, Database.eventsOf, h.reports, h.events]

end

/-- A plan is approved, and two reports ask for another one. -/
def reportedTwice : List (Entry ℚ) :=
  [⟨"operator", 0, .declareIncident none fire⟩,
    ⟨"operator", 10, .workflow (.createPlan 1 villagePlan)⟩,
    ⟨"approver", 20, .workflow (.approvePlan 3 headsApproval)⟩,
    ⟨"operator", 30, .workflow (.createTask 1 patrol)⟩,
    ⟨"field", 40, .workflow (.submitReport 7 bridgeOut)⟩,
    ⟨"field", 50, .workflow (.submitReport 7
      { body := "도로 침수", requestReplan := true, body_ok := by decide })⟩]

/-- Both reports are marked, but only the first one sent the plan back. -/
theorem second_report_marked : ¬ TellsCause quietVillage reportedTwice := by
  intro h
  have hcounts := h.counts 1
  have hreports : ((runEntries quietVillage reportedTwice).replanReports 1).length = 2 := by decide
  have hevents : ((runEntries quietVillage reportedTwice).reapprovals 1).length = 1 := by decide
  rw [hreports, hevents] at hcounts
  cases hcounts

theorem tells_cause_iff_one_report : TellsCause quietVillage (reportedTwice.take 5) ∧
    ((runEntries quietVillage (reportedTwice.take 5)).replanReports 1).length = 1 := by
  refine ⟨(tells_cause_iff quietVillage_empty _).2 ?_, by decide⟩
  refine allAllowed_cons.2 ⟨?_, allAllowed_cons.2 ⟨?_, allAllowed_cons.2 ⟨?_, allAllowed_cons.2
    ⟨?_, allAllowed_cons.2 ⟨?_, allAllowed_nil⟩⟩⟩⟩⟩
  · intros _ _ _ _ h
    cases h
  · intros _ _ _ _ h
    cases h
  · intros _ _ _ _ h
    cases h
  · intros _ _ _ _ h
    cases h
  · intro taskId payload task plan hoperation hget _ hplan
    cases hoperation
    cases hget
    have hstatus : (Planning.currentPlan (runEntries quietVillage (reportedTwice.take 4)) 1).map
        (·.status) = some .approved := by decide
    have hplan' : Planning.currentPlan (runEntries quietVillage (reportedTwice.take 4)) 1 =
        some plan := hplan
    rw [hplan'] at hstatus
    have happroved : plan.status = .approved := Option.some.inj hstatus
    rw [happroved]
    exact PlanStatus.noConfusion

end Salgil
