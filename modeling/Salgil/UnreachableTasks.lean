import Salgil.FieldHistory
import Salgil.GuardedRun

namespace Salgil
set_option autoImplicit true

section
variable {K : Type} {db db' : Database K} {entry : Entry K} {incident : Incident}
variable {incidentId communityId : Uuid} {now : Timestamp} {actor : String}

/-- The contacts of a community in an incident that nobody answered. -/
def Database.unreachable (db : Database K) (incidentId communityId : Uuid) :
    List ContactAttempt :=
  db.contacts.filter fun row => row.incidentId = incidentId ∧ row.response = .unreachable ∧
    row.communityId = communityId

/-- The task is to verify the households of the community, and it is still open. -/
def FieldTask.Verifies (task : FieldTask) (incidentId communityId : Uuid) : Prop :=
  task.incidentId = incidentId ∧ task.communityId = some communityId ∧
    task.kind = .verifyHousehold ∧ task.status ∉ [.done, .cancelled]

instance (task : FieldTask) : Decidable (task.Verifies incidentId communityId) :=
  inferInstanceAs (Decidable (_ ∧ _ ∧ _ ∧ _))

def Database.Verifies (db : Database K) (incidentId communityId : Uuid) : Prop :=
  ∃ task ∈ db.tasks, task.Verifies incidentId communityId

instance : Decidable (db.Verifies incidentId communityId) :=
  inferInstanceAs (Decidable (∃ task ∈ db.tasks, _))

/-- Every community that nobody reached and nobody is sent to gets one task, no other community
gets any, and a second call finds nothing to do. -/
structure OneTaskEach (db : Database K) (now : Timestamp) (actor : String) (incident : Incident) :
    Prop where
  each : ∀ c, ((Tasks.createFromUnreachable db now actor incident).1.filter
    (·.communityId = some c)).length =
      if db.unreachable incident.id c ≠ [] ∧ ¬ db.Verifies incident.id c then 1 else 0
  verify : ∀ task ∈ (Tasks.createFromUnreachable db now actor incident).1,
    ∃ c, task.Verifies incident.id c
  stored : (Tasks.createFromUnreachable db now actor incident).2.tasks =
    db.tasks ++ (Tasks.createFromUnreachable db now actor incident).1
  again : ∀ now' actor', Tasks.createFromUnreachable
    (Tasks.createFromUnreachable db now actor incident).2 now' actor' incident =
      ([], (Tasks.createFromUnreachable db now actor incident).2)

/-- Where nobody is sent yet, at most one contact of the community went unanswered. -/
def Database.MissedOnce (db : Database K) : Prop :=
  ∀ incidentId communityId, ¬ db.Verifies incidentId communityId →
    (db.unreachable incidentId communityId).length ≤ 1

namespace Tasks

theorem createFromUnreachable_contacts :
    (createFromUnreachable db now actor incident).2.contacts = db.contacts := by
  simp only [createFromUnreachable]
  split <;> rfl

theorem createFromUnreachable_tasks :
    (createFromUnreachable db now actor incident).2.tasks =
      db.tasks ++ (createFromUnreachable db now actor incident).1 := by
  simp only [createFromUnreachable]
  split
  · simp
  · rfl

theorem createFromUnreachable_eq_nil (h : (createFromUnreachable db now actor incident).1 = []) :
    createFromUnreachable db now actor incident = ([], db) := by
  simp only [createFromUnreachable] at h ⊢
  split
  · rfl
  · next hne =>
    rw [if_neg hne] at h
    exact absurd h hne

theorem createFromUnreachable_communities :
    (createFromUnreachable db now actor incident).1.map (·.communityId) =
      (db.contacts.filter fun row => (row.incidentId = incident.id ∧
        row.response = .unreachable) ∧ ¬ db.Verifies incident.id row.communityId).map
          fun row => some row.communityId := by
  have hexisting : ∀ row : ContactAttempt, some row.communityId ∈ (db.tasks.filter fun task =>
      task.incidentId = incident.id ∧ task.kind = .verifyHousehold ∧
        task.status ∉ [.done, .cancelled]).map (·.communityId) ↔
      db.Verifies incident.id row.communityId := by
    intro row
    simp only [List.mem_map, List.mem_filter, decide_eq_true_eq, Database.Verifies,
      FieldTask.Verifies]
    constructor
    · rintro ⟨task, ⟨htask, hi, hkind, hopen⟩, hc⟩
      exact ⟨task, htask, hi, hc, hkind, hopen⟩
    · rintro ⟨task, htask, hi, hc, hkind, hopen⟩
      exact ⟨task, ⟨htask, hi, hkind, hopen⟩, hc⟩
  have hcreated : (createFromUnreachable db now actor incident).1 =
      ((db.contacts.filter fun row => row.incidentId = incident.id ∧
        row.response = .unreachable).filter fun row =>
          ¬ db.Verifies incident.id row.communityId).mapIdx fun index row =>
            verification db actor incident (db.nextId + index) row := by
    simp only [createFromUnreachable, hexisting]
    split
    · next hnil => exact hnil.symm
    · rfl
  rw [hcreated, List.filter_filter]
  have hrows : ∀ rows : List ContactAttempt, (rows.mapIdx fun index row =>
      verification db actor incident (db.nextId + index) row).map (·.communityId) =
        rows.map fun row => some row.communityId := by
    intro rows
    apply List.ext_getElem <;> simp [verification]
  rw [hrows]
  congr 2
  funext row
  simp [Bool.and_comm]

theorem length_createFromUnreachable (c : Uuid) :
    ((createFromUnreachable db now actor incident).1.filter (·.communityId = some c)).length =
      if db.Verifies incident.id c then 0 else (db.unreachable incident.id c).length := by
  have hcount : ((createFromUnreachable db now actor incident).1.filter
      (·.communityId = some c)).length =
      ((createFromUnreachable db now actor incident).1.map (·.communityId)).count (some c) := by
    rw [List.count, List.countP_map, List.countP_eq_length_filter]
    congr 2
    funext task
    simp [beq_eq_decide]
  rw [hcount, createFromUnreachable_communities, List.count, List.countP_map,
    List.countP_filter, List.countP_eq_length_filter]
  split
  · next hverifies =>
    rw [List.length_eq_zero_iff, List.filter_eq_nil_iff]
    intro row _ hrow
    simp only [Function.comp_apply, beq_iff_eq, Option.some.injEq, Bool.and_eq_true,
      decide_eq_true_eq] at hrow
    obtain ⟨hc, -, hnot⟩ := hrow
    exact hnot (hc ▸ hverifies)
  · next hverifies =>
    rw [Database.unreachable]
    congr 2
    funext row
    by_cases hc : row.communityId = c
    · simp [hc, hverifies]
    · simp [hc]

theorem createFromUnreachable_verify {task : FieldTask}
    (h : task ∈ (createFromUnreachable db now actor incident).1) :
    ∃ c, task.Verifies incident.id c := by
  simp only [createFromUnreachable] at h
  split at h
  · cases h
  · obtain ⟨index, hindex, rfl⟩ := List.mem_mapIdx.1 h
    exact ⟨_, rfl, rfl, rfl, by simp [verification]⟩

theorem createFromUnreachable_again (now' : Timestamp) (actor' : String) :
    createFromUnreachable (createFromUnreachable db now actor incident).2 now' actor' incident =
      ([], (createFromUnreachable db now actor incident).2) := by
  apply createFromUnreachable_eq_nil
  rw [← List.map_eq_nil_iff (f := (·.communityId)), createFromUnreachable_communities,
    List.map_eq_nil_iff, List.filter_eq_nil_iff, createFromUnreachable_contacts]
  intro row hrow hmissed
  obtain ⟨⟨hi, hunreachable⟩, hnot⟩ := of_decide_eq_true hmissed
  apply hnot
  by_cases hverifies : db.Verifies incident.id row.communityId
  · obtain ⟨task, htask, hopen⟩ := hverifies
    refine ⟨task, ?_, hopen⟩
    rw [createFromUnreachable_tasks]
    exact List.mem_append_left _ htask
  · have hpos : 0 < (db.unreachable incident.id row.communityId).length := by
      apply List.length_pos_of_mem (a := row)
      simp [Database.unreachable, hrow, hi, hunreachable]
    have hlength : ((createFromUnreachable db now actor incident).1.filter
        (·.communityId = some row.communityId)).length =
        (db.unreachable incident.id row.communityId).length := by
      rw [length_createFromUnreachable, if_neg hverifies]
    obtain ⟨task, htask⟩ := List.exists_mem_of_length_pos (hlength ▸ hpos)
    obtain ⟨htask, hc⟩ := List.mem_filter.1 htask
    obtain ⟨c, hopen⟩ := createFromUnreachable_verify htask
    refine ⟨task, ?_, ?_⟩
    · rw [createFromUnreachable_tasks]
      exact List.mem_append_right _ htask
    · obtain rfl : c = row.communityId :=
        Option.some.inj (hopen.2.1.symm.trans (of_decide_eq_true hc))
      exact hopen

end Tasks

theorem oneTaskEach_iff_missed : OneTaskEach db now actor incident ↔
    ∀ c, ¬ db.Verifies incident.id c → (db.unreachable incident.id c).length ≤ 1 := by
  constructor
  · intro h c hverifies
    have heach := h.each c
    rw [Tasks.length_createFromUnreachable, if_neg hverifies] at heach
    rw [heach]
    split <;> simp
  · intro h
    refine ⟨fun c => ?_, fun _ => Tasks.createFromUnreachable_verify,
      Tasks.createFromUnreachable_tasks, Tasks.createFromUnreachable_again⟩
    rw [Tasks.length_createFromUnreachable]
    by_cases hverifies : db.Verifies incident.id c
    · simp [hverifies]
    · have hle := h c hverifies
      rw [if_neg hverifies]
      by_cases hnil : db.unreachable incident.id c = []
      · simp [hnil]
      · have hpos := List.length_pos_iff.2 hnil
        rw [if_pos ⟨hnil, hverifies⟩]
        omega

/-- The operation neither records a second unanswered contact of a community to which nobody is
sent, nor closes the last verification of a community that has two. -/
structure SendsFirst (db : Database K) (entry : Entry K) : Prop where
  recorded : ∀ contactId payload row,
    entry.operation = .workflow (.updateContact contactId payload) →
    payload.response = .unreachable → Contacts.get db contactId = .ok row →
    ¬ db.Verifies row.incidentId row.communityId →
    ∀ other ∈ db.unreachable row.incidentId row.communityId, other.id = row.id
  closed : ∀ taskId payload task c, entry.operation = .workflow (.updateTask taskId payload) →
    payload.status ∈ [some .done, some .cancelled] → Tasks.get db taskId = .ok task →
    task.Verifies task.incidentId c →
    (∀ other ∈ db.tasks, other.Verifies task.incidentId c → other.id = task.id) →
    (db.unreachable task.incidentId c).length ≤ 1

theorem Database.unreachable_congr (h : db'.contacts = db.contacts) :
    db'.unreachable incidentId communityId = db.unreachable incidentId communityId := by
  rw [unreachable, unreachable, h]

theorem unreachable_append (before after : List ContactAttempt) (incidentId communityId : Uuid) :
    ∃ others : List ContactAttempt, (∀ other, other ∈ others ↔ other ∈ before ++ after ∧
      other.incidentId = incidentId ∧ other.response = .unreachable ∧
        other.communityId = communityId) ∧
      ∀ (db : Database K) row, db.contacts = before ++ row :: after →
        (db.unreachable incidentId communityId).length = others.length +
          if row.incidentId = incidentId ∧ row.response = .unreachable ∧
            row.communityId = communityId then 1 else 0 := by
  refine ⟨(before ++ after).filter fun row => row.incidentId = incidentId ∧
    row.response = .unreachable ∧ row.communityId = communityId, fun other => ?_,
    fun db row h => ?_⟩
  · rw [List.mem_filter, decide_eq_true_eq]
  · rw [Database.unreachable, h, List.filter_append, List.filter_append, List.filter_cons]
    split
    · next hrow =>
      rw [if_pos (of_decide_eq_true hrow)]
      simp only [List.length_append, List.length_cons]
      omega
    · next hrow =>
      rw [if_neg fun hpos => hrow (decide_eq_true hpos)]
      simp

theorem perform_updateTask {taskId : Uuid} {payload : TaskUpdate} {task : FieldTask}
    {status : TaskStatus} (hoperation : entry.operation = .workflow (.updateTask taskId payload))
    (hget : Tasks.get db taskId = .ok task) (hstatus : payload.status = some status)
    (hne : status ≠ task.status) :
    (perform db entry).contacts = db.contacts ∧ (perform db entry).tasks =
      (db.updateTask task.id fun _ => (Tasks.applyUpdate payload task).1).tasks := by
  have hchanges : (Tasks.applyUpdate payload task).2 ≠ [] := by
    simp [Tasks.applyUpdate, Tasks.changed, hstatus, hne]
  rw [perform, Entry.handle, hoperation]
  simp only [Call.handle, Tasks.update, hget, ok_bind, if_neg hchanges]
  exact ⟨rfl, rfl⟩

namespace Database.MissedOnce

/-- Where nobody is called back and everyone sent stays sent, nothing is missed twice. -/
theorem of_mono (h : db.MissedOnce)
    (hcontacts : ∀ i c, (db'.unreachable i c).length ≤ (db.unreachable i c).length)
    (htasks : ∀ i c, db.Verifies i c → db'.Verifies i c) : db'.MissedOnce :=
  fun i c hverifies => (hcontacts i c).trans (h i c fun hold => hverifies (htasks i c hold))

theorem result {contactId : Uuid} {payload : ContactUpdate} {row : ContactAttempt}
    (h : db.MissedOnce) (hdb : db.Linked) (hallowed : SendsFirst db entry)
    (hoperation : entry.operation = .workflow (.updateContact contactId payload))
    (hget : Contacts.get db contactId = .ok row)
    (hcontacts : db'.contacts =
      (db.updateContact row.id (Contacts.recorded entry.now entry.actor payload)).contacts)
    (htasks : db'.tasks = db.tasks) : db'.MissedOnce := by
  intro i c hverifies
  rw [Database.Verifies, htasks] at hverifies
  have hrow := List.mem_of_find?_eq_some (Contacts.get_eq_ok.1 hget).1
  obtain ⟨before, after, hsplit, hne, hwrite⟩ := split_at_key hdb.contact_ids hrow
  obtain ⟨others, hothers, hlength⟩ := unreachable_append (K := K) before after i c
  rw [hlength db' _ (hcontacts.trans (hwrite _))]
  have hold := hlength db row hsplit
  split
  · next hmissed =>
    obtain ⟨rfl, hresponse, rfl⟩ := hmissed
    -- every other unanswered contact of the community would have the id of this one
    have hnil : others = [] := by
      apply List.eq_nil_iff_forall_not_mem.2
      intro other hother
      obtain ⟨hmem, hi, hunreachable, hc⟩ := (hothers other).1 hother
      apply hne other hmem
      apply hallowed.recorded contactId payload row hoperation hresponse hget hverifies
      rw [unreachable, List.mem_filter, decide_eq_true_eq, hsplit]
      refine ⟨?_, hi, hunreachable, hc⟩
      rcases List.mem_append.1 hmem with hmem | hmem
      · exact List.mem_append_left _ hmem
      · exact List.mem_append_right _ (List.mem_cons_of_mem _ hmem)
    simp [hnil]
  · have hle := h i c hverifies
    omega

theorem edited {taskId : Uuid} {payload : TaskUpdate} {task : FieldTask}
    (h : db.MissedOnce) (hdb : db.Tasked) (hallowed : SendsFirst db entry)
    (hoperation : entry.operation = .workflow (.updateTask taskId payload))
    (hget : Tasks.get db taskId = .ok task) (hcontacts : db'.contacts = db.contacts)
    (htasks : db'.tasks =
      (db.updateTask task.id fun _ => (Tasks.applyUpdate payload task).1).tasks) :
    db'.MissedOnce := by
  intro i c hverifies
  rw [unreachable_congr hcontacts]
  by_cases hold : db.Verifies i c
  · obtain ⟨htask, -⟩ := Tasks.get_mem hget
    obtain ⟨before, after, hsplit, -, hwrite⟩ := split_at_key hdb.task_ids htask
    rw [Database.Verifies, htasks, Database.updateTask, hwrite] at hverifies
    push Not at hverifies
    -- whoever is sent there was sent with this task
    have honly : ∀ other ∈ db.tasks, other.Verifies i c → other = task := by
      intro other hother hopen
      rw [hsplit, List.mem_append, List.mem_cons] at hother
      rcases hother with hother | rfl | hother
      · exact absurd hopen (hverifies other (List.mem_append_left _ hother))
      · rfl
      · exact absurd hopen (hverifies other
          (List.mem_append_right _ (List.mem_cons_of_mem _ hother)))
    obtain ⟨other, hother, hopen⟩ := hold
    obtain rfl := honly other hother hopen
    obtain ⟨rfl, hc, hkind, hstatus⟩ := hopen
    obtain ⟨-, hi', hc', hkind'⟩ := Tasks.applyUpdate_keeps payload other
    have hclosed : (Tasks.applyUpdate payload other).1.status ∈ [.done, .cancelled] := by
      by_contra hopen
      exact hverifies _ (List.mem_append_right _ List.mem_cons_self)
        ⟨hi', hc'.trans hc, hkind'.trans hkind, hopen⟩
    have hpayload : payload.status ∈ [some .done, some .cancelled] := by
      rw [Tasks.applyUpdate_status] at hclosed
      cases hgiven : payload.status with
      | none =>
        rw [hgiven, Option.getD_none] at hclosed
        split at hclosed
        · simp at hclosed
        · exact absurd hclosed hstatus
      | some status =>
        rw [hgiven, Option.getD_some] at hclosed
        simpa using hclosed
    exact hallowed.closed taskId payload other c hoperation hpayload hget
      ⟨rfl, hc, hkind, hstatus⟩ fun t ht hopen => congrArg _ (honly t ht hopen)
  · exact h i c hold

theorem perform (h : db.MissedOnce) (hdb : db.Tasked) (hallowed : SendsFirst db entry) :
    (perform db entry).MissedOnce := by
  cases perform_fieldEffect db entry with
  | round incident payload plan _ _ _ hcontacts htasks =>
    refine h.of_mono (fun i c => ?_) fun i c hverifies => ?_
    · -- the contacts of a new round are pending
      generalize hcreated : List.mapIdx _ _ = created at hcontacts
      have hnone : (created.filter fun row => row.incidentId = i ∧ row.response = .unreachable ∧
          row.communityId = c) = [] := by
        apply List.filter_eq_nil_iff.2
        intro row hrow hmissed
        rw [← hcreated] at hrow
        obtain ⟨index, hindex, rfl⟩ := List.mem_mapIdx.1 hrow
        simp [Contacts.attempt] at hmissed
      rw [unreachable, hcontacts, List.filter_append, hnone, List.append_nil]
      exact le_rfl
    · rwa [Database.Verifies, htasks]
  | result contactId payload row hoperation hget hcontacts htasks =>
    exact h.result hdb.toLinked hallowed hoperation hget hcontacts htasks
  | added rows hcontacts htasks =>
    refine h.of_mono (fun i c => (congrArg _ (unreachable_congr hcontacts)).le) ?_
    rintro i c ⟨task, htask, hopen⟩
    exact ⟨task, htasks ▸ List.mem_append_left _ htask, hopen⟩
  | edited taskId payload task hoperation hget hcontacts htasks =>
    exact h.edited hdb hallowed hoperation hget hcontacts htasks
  | reported _ _ task _ _ _ _ hcontacts htasks =>
    refine h.of_mono (fun i c => (congrArg _ (unreachable_congr hcontacts)).le) ?_
    rintro i c ⟨other, hother, hopen⟩
    split at htasks
    · exact ⟨other, htasks ▸ hother, hopen⟩
    · rw [Database.Verifies, htasks]
      refine ⟨_, List.mem_map_of_mem hother, ?_⟩
      split
      · exact ⟨hopen.1, hopen.2.1, hopen.2.2.1, by simp⟩
      · exact hopen
  | unrelated hcontacts htasks =>
    refine h.of_mono (fun i c => (congrArg _ (unreachable_congr hcontacts)).le) ?_
    intro i c hverifies
    rwa [Database.Verifies, htasks]

/-- What was missed twice shows that the step came too late. -/
theorem sendsFirst (h : (Salgil.perform db entry).MissedOnce) (hdb : db.Tasked) :
    SendsFirst db entry := by
  constructor
  · intro contactId payload row hoperation hresponse hget hverifies other hother
    obtain ⟨hcontacts, htasks⟩ := perform_updateContact hoperation hget
    have hrow := List.mem_of_find?_eq_some (Contacts.get_eq_ok.1 hget).1
    obtain ⟨before, after, hsplit, -, hwrite⟩ := split_at_key hdb.contact_ids hrow
    obtain ⟨others, hothers, hlength⟩ :=
      unreachable_append (K := K) before after row.incidentId row.communityId
    have hle := h row.incidentId row.communityId (by rwa [Database.Verifies, htasks])
    rw [hlength _ _ (hcontacts.trans (hwrite _)), if_pos ⟨rfl, hresponse, rfl⟩] at hle
    have hnil : others = [] := List.length_eq_zero_iff.1 (by omega)
    rw [unreachable, List.mem_filter, decide_eq_true_eq, hsplit, List.mem_append,
      List.mem_cons] at hother
    obtain ⟨hmem, hmissed⟩ := hother
    have hnone : other ∉ before ++ after := by
      intro hmem
      have hmem' := (hothers other).2 ⟨hmem, hmissed⟩
      rw [hnil] at hmem'
      cases hmem'
    rcases hmem with hmem | rfl | hmem
    · exact absurd (List.mem_append_left _ hmem) hnone
    · rfl
    · exact absurd (List.mem_append_right _ hmem) hnone
  · intro taskId payload task c hoperation hpayload hget hopen honly
    obtain ⟨status, hstatus, hclosed⟩ :
        ∃ status, payload.status = some status ∧ status ∈ [TaskStatus.done, .cancelled] := by
      simp only [List.mem_cons, List.not_mem_nil, or_false] at hpayload
      rcases hpayload with hpayload | hpayload
      · exact ⟨_, hpayload, by simp⟩
      · exact ⟨_, hpayload, by simp⟩
    have hne : status ≠ task.status := by
      rintro rfl
      exact hopen.2.2.2 hclosed
    obtain ⟨hcontacts, htasks⟩ := perform_updateTask hoperation hget hstatus hne
    rw [← unreachable_congr hcontacts]
    apply h
    rintro ⟨other', hother', hopen'⟩
    obtain ⟨other, hother, rfl⟩ := List.mem_map.1 (htasks ▸ hother')
    split at hopen'
    · apply hopen'.2.2.2
      rw [Tasks.applyUpdate_status, hstatus]
      exact hclosed
    · next hid => exact hid (honly other hother hopen')

end Database.MissedOnce

theorem Database.Empty.missedOnce (h : db.Empty) : db.MissedOnce := by
  intro i c _
  simp [Database.unreachable, h.contacts]

/-- In a run of operations the unreachable villages can become one task each at any time, if and
only if someone is always sent to a village before nobody answers there a second time. -/
theorem one_task_each_iff (h : db.Empty) (entries : List (Entry K)) :
    Throughout perform (fun db => ∀ now actor incident, OneTaskEach db now actor incident) db
      entries ↔ AllAllowed perform SendsFirst db entries := by
  have hiff : ∀ db : Database K, (∀ now actor incident, OneTaskEach db now actor incident) ↔
      db.MissedOnce := by
    intro db
    constructor
    · intro heach i c
      -- only the id of the incident counts
      exact oneTaskEach_iff_missed.1 (heach 0 ""
        ⟨i, "", "", "", "", "", 1, .open, none, "", 0, none, none, none⟩) c
    · intro hmissed now actor incident
      exact oneTaskEach_iff_missed.2 fun c => hmissed incident.id c
  refine throughout_iff_allAllowed (fun db entry (hdb : db.Tasked) => hdb.perform entry)
    (fun db entry hdb heach => ?_) (Database.Tasked.of_empty h) ((hiff db).2 h.missedOnce)
  rw [hiff]
  constructor
  · intro hmissed
    exact hmissed.sendsFirst hdb
  · intro hallowed
    exact ((hiff db).1 heach).perform hdb hallowed

end

/-- A fire is declared and its plan approved; nobody answers in the village. The plan is drafted
anew, approved again, and again nobody answers. -/
def missedTwice : List (Entry ℚ) :=
  [⟨"operator", 0, .declareIncident none fire⟩,
    ⟨"operator", 10, .workflow (.createPlan 1 villagePlan)⟩,
    ⟨"approver", 20, .workflow (.approvePlan 3 headsApproval)⟩,
    ⟨"operator", 30, .workflow (.startContacts 1 {})⟩,
    ⟨"operator", 40, .workflow (.updateContact 7 { response := .unreachable })⟩,
    ⟨"operator", 50, .workflow (.createPlan 1 villagePlan)⟩,
    ⟨"approver", 60, .workflow (.approvePlan 10 headsApproval)⟩,
    ⟨"operator", 70, .workflow (.startContacts 1 {})⟩,
    ⟨"operator", 80, .workflow (.updateContact 14 { response := .unreachable })⟩]

/-- The village would get two tasks. -/
theorem two_tasks_for_village : ¬ Throughout perform
    (fun db => ∀ now actor incident, OneTaskEach db now actor incident) quietVillage
      missedTwice := by
  intro h
  obtain ⟨incident, -, hid⟩ : ∃ incident ∈ (runEntries quietVillage missedTwice).incidents,
      incident.id = 1 := by decide
  have heach := h missedTwice [] (List.append_nil _).symm 90 "operator" incident
  have hle := oneTaskEach_iff_missed.1 heach 0
  rw [hid] at hle
  have hmissed : ((runEntries quietVillage missedTwice).unreachable 1 0).length = 2 := by decide
  have hnobody : ¬ (runEntries quietVillage missedTwice).Verifies 1 0 := by decide
  exact absurd (hle hnobody) (by rw [← runEntries, hmissed]; decide)

/-- After the first round it would get one. -/
theorem one_task_each_iff_first_round :
    Throughout perform (fun db => ∀ now actor incident, OneTaskEach db now actor incident)
      quietVillage (missedTwice.take 5) ∧
      ((runEntries quietVillage (missedTwice.take 5)).unreachable 1 0).length = 1 := by
  refine ⟨(one_task_each_iff quietVillage_empty _).2 ?_, by decide⟩
  refine allAllowed_cons.2 ⟨?_, allAllowed_cons.2 ⟨?_, allAllowed_cons.2 ⟨?_, allAllowed_cons.2
    ⟨?_, allAllowed_cons.2 ⟨?_, allAllowed_nil⟩⟩⟩⟩⟩
  · constructor <;> (intros; contradiction)
  · constructor <;> (intros; contradiction)
  · constructor <;> (intros; contradiction)
  · constructor <;> (intros; contradiction)
  · constructor
    · intro contactId payload row hoperation _ hget _ other hother
      cases hoperation
      cases hget
      have hnone : (runEntries quietVillage (missedTwice.take 4)).unreachable 1 0 = [] := by decide
      exact absurd (hnone ▸ hother) List.not_mem_nil
    · intros
      contradiction

end Salgil
