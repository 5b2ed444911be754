import Salgil.FieldHistory
import Salgil.GuardedRun

namespace Salgil
set_option autoImplicit true

structure ContactRollup where
  total : ℕ := 0
  pending : ℕ := 0
  evacuating : ℕ := 0
  supportRequested : ℕ := 0
  refused : ℕ := 0
  unreachable : ℕ := 0
  householdsTotal : ℤ := 0
  householdsConfirmed : ℕ := 0
  needsFieldVerification : ℕ := 0
  deriving DecidableEq

namespace Contacts

def listForIncident (db : Database K) (incidentId : Uuid) : List ContactAttempt :=
  db.contacts.filter (·.incidentId = incidentId)

/-- One round of the loop over the contacts. -/
def count (result : ContactRollup) (attempt : ContactAttempt) : ContactRollup :=
  let result := { result with
    householdsTotal := result.householdsTotal + attempt.households
    householdsConfirmed := result.householdsConfirmed + attempt.householdsConfirmed }
  match attempt.response with
  | .pending => { result with pending := result.pending + 1 }
  | .evacuating => { result with evacuating := result.evacuating + 1 }
  | .supportRequested => { result with supportRequested := result.supportRequested + 1 }
  | .refused => { result with refused := result.refused + 1 }
  | .unreachable => { result with unreachable := result.unreachable + 1 }

def rollup (attempts : List ContactAttempt) : ContactRollup :=
  let result := attempts.foldl count { total := attempts.length }
  { result with needsFieldVerification := result.unreachable }

end Contacts

/-- A rollup counts every contact under one answer, and the households of each community once. A
contact with no households to count may stand beside another of its community. -/
structure TrueCount (attempts : List ContactAttempt) (result : ContactRollup) : Prop where
  responses : result.pending + result.evacuating + result.supportRequested + result.refused +
    result.unreachable = result.total
  field : result.needsFieldVerification = result.unreachable
  total : result.householdsTotal = (attempts.map (·.households)).sum
  once : ((attempts.filter (·.households ≠ 0)).map (·.communityId)).Nodup
  confirmed : (result.householdsConfirmed : ℤ) ≤ result.householdsTotal

/-- No community has its households on the list twice, and no more are confirmed than there
are. -/
structure CountedOnce (attempts : List ContactAttempt) : Prop where
  communities : ((attempts.filter (·.households ≠ 0)).map (·.communityId)).Nodup
  confirmed :
    ((attempts.map (·.householdsConfirmed)).sum : ℕ) ≤ (attempts.map (·.households)).sum

namespace Contacts

theorem foldl_count_responses (attempts : List ContactAttempt) (result : ContactRollup) :
    let counted := attempts.foldl count result
    counted.total = result.total ∧
      counted.pending + counted.evacuating + counted.supportRequested + counted.refused +
        counted.unreachable = result.pending + result.evacuating + result.supportRequested +
          result.refused + result.unreachable + attempts.length := by
  induction attempts generalizing result with
  | nil => exact ⟨rfl, rfl⟩
  | cons attempt attempts ih =>
    obtain ⟨htotal, hresponses⟩ := ih (count result attempt)
    refine ⟨htotal.trans ?_, hresponses.trans ?_⟩
    · simp only [count]
      split <;> rfl
    · simp only [count, List.length_cons]
      split <;> (simp only; omega)

theorem foldl_count_households (attempts : List ContactAttempt) (result : ContactRollup) :
    (attempts.foldl count result).householdsTotal =
        result.householdsTotal + (attempts.map (·.households)).sum ∧
      (attempts.foldl count result).householdsConfirmed =
        result.householdsConfirmed + (attempts.map (·.householdsConfirmed)).sum := by
  induction attempts generalizing result with
  | nil => exact ⟨(add_zero _).symm, rfl⟩
  | cons attempt attempts ih =>
    obtain ⟨htotal, hconfirmed⟩ := ih (count result attempt)
    have hcount : (count result attempt).householdsTotal =
          result.householdsTotal + attempt.households ∧
        (count result attempt).householdsConfirmed =
          result.householdsConfirmed + attempt.householdsConfirmed := by
      simp only [count]
      split <;> exact ⟨rfl, rfl⟩
    rw [List.foldl_cons, htotal, hconfirmed, hcount.1, hcount.2]
    simp only [List.map_cons, List.sum_cons]
    exact ⟨add_assoc _ _ _, add_assoc _ _ _⟩

theorem rollup_households (attempts : List ContactAttempt) :
    (rollup attempts).householdsTotal = (attempts.map (·.households)).sum ∧
      (rollup attempts).householdsConfirmed = (attempts.map (·.householdsConfirmed)).sum := by
  obtain ⟨htotal, hconfirmed⟩ := foldl_count_households attempts { total := attempts.length }
  exact ⟨htotal.trans (zero_add _), hconfirmed.trans (Nat.zero_add _)⟩

end Contacts

theorem trueCount_rollup_iff {attempts : List ContactAttempt} :
    TrueCount attempts (Contacts.rollup attempts) ↔ CountedOnce attempts := by
  obtain ⟨htotal, hconfirmed⟩ := Contacts.rollup_households attempts
  constructor
  · intro h
    refine ⟨h.once, ?_⟩
    rw [← htotal, ← hconfirmed]
    exact h.confirmed
  · intro h
    refine ⟨?_, rfl, htotal, h.communities, ?_⟩
    · obtain ⟨hsame, hresponses⟩ :=
        Contacts.foldl_count_responses attempts { total := attempts.length }
      have hlength : attempts.length = (Contacts.rollup attempts).total := hsame.symm
      rw [← hlength, ← Nat.zero_add attempts.length]
      exact hresponses
    · rw [htotal, hconfirmed]
      exact h.confirmed

theorem CountedOnce.append_iff {old new : List ContactAttempt} (hold : CountedOnce old)
    (hnew : (new.map (·.communityId)).Nodup)
    (hconfirmed : ∀ row ∈ new, row.householdsConfirmed = 0) :
    CountedOnce (old ++ new) ↔
      (∀ row ∈ new, row.households ≠ 0 → ∀ r ∈ old,
        r.communityId = row.communityId → r.households = 0) ∧
      ((old.map (·.householdsConfirmed)).sum : ℕ) ≤
        (old.map (·.households)).sum + (new.map (·.households)).sum := by
  have hzero : (new.map (·.householdsConfirmed)).sum = 0 := by
    rw [List.sum_eq_zero_iff_forall_eq_nat]
    intro n hn
    obtain ⟨row, hrow, rfl⟩ := List.mem_map.1 hn
    exact hconfirmed row hrow
  have hsums : (((old ++ new).map (·.householdsConfirmed)).sum : ℕ) ≤
        ((old ++ new).map (·.households)).sum ↔
      ((old.map (·.householdsConfirmed)).sum : ℕ) ≤
        (old.map (·.households)).sum + (new.map (·.households)).sum := by
    rw [List.map_append, List.sum_append, hzero, Nat.add_zero, List.map_append, List.sum_append]
  constructor
  · intro h
    refine ⟨fun row hrow hne r hr heq => ?_, hsums.1 h.confirmed⟩
    by_contra hcounts
    have hnodup := h.communities
    rw [List.filter_append, List.map_append, List.nodup_append] at hnodup
    refine hnodup.2.2 r.communityId (List.mem_map_of_mem ?_) row.communityId
      (List.mem_map_of_mem ?_) heq
    · simpa [hr] using hcounts
    · simpa [hrow] using hne
  · intro h
    refine ⟨?_, hsums.2 h.2⟩
    rw [List.filter_append, List.map_append, List.nodup_append]
    refine ⟨hold.communities, hnew.sublist (List.filter_sublist.map _), ?_⟩
    intro c hc c' hc' heq
    obtain ⟨r, hr, rfl⟩ := List.mem_map.1 hc
    obtain ⟨row, hrow, rfl⟩ := List.mem_map.1 hc'
    simp only [List.mem_filter, decide_eq_true_eq] at hr hrow
    exact hr.2 (h.1 row hrow.1 hrow.2 r hr.1 heq)

theorem CountedOnce.update_iff {before after : List ContactAttempt} {row row' : ContactAttempt}
    (hold : CountedOnce (before ++ row :: after)) (hc : row'.communityId = row.communityId)
    (hh : row'.households = row.households) :
    CountedOnce (before ++ row' :: after) ↔
      (row'.householdsConfirmed + ((before ++ after).map (·.householdsConfirmed)).sum : ℕ) ≤
        ((before ++ row :: after).map (·.households)).sum := by
  have hcommunities : ((before ++ row' :: after).filter (·.households ≠ 0)).map (·.communityId) =
      ((before ++ row :: after).filter (·.households ≠ 0)).map (·.communityId) := by
    simp only [List.filter_append, List.filter_cons, hh, List.map_append]
    congr 1
    split
    · simp only [List.map_cons, hc]
    · rfl
  constructor
  · intro h
    have hle := h.confirmed
    simp only [List.map_append, List.map_cons, List.sum_append, List.sum_cons, hh] at hle ⊢
    omega
  · intro hle
    refine ⟨?_, ?_⟩
    · rw [hcommunities]
      exact hold.communities
    · simp only [List.map_append, List.map_cons, List.sum_append, List.sum_cons, hh] at hle ⊢
      omega

section
variable {K : Type} {db db' : Database K} {entry : Entry K}

/-- What a new contact takes as the number of households. -/
def Database.householdsOf (db : Database K) (communityId : Uuid) : ℤ :=
  ((db.communities.find? (·.id = communityId)).bind (·.households)).getD 0

def Database.TrueCounts (db : Database K) : Prop :=
  ∀ i, TrueCount (Contacts.listForIncident db i)
    (Contacts.rollup (Contacts.listForIncident db i))

/-- The items of a plan of which the incident has no contact under that plan. -/
def Contacts.unlisted (db : Database K) (incidentId : Uuid) (plan : EvacuationPlan) :
    List PlanItem :=
  (db.planItems plan.id).filter (·.communityId ∉
    (db.contacts.filter fun row => row.incidentId = incidentId ∧
      row.planId = some plan.id).map (·.communityId))

/-- No contact is made of a community whose households another plan has on the list already, the
households of a round do not take the list below what is confirmed (a community may have been
given a number below 0), and no result confirms more households than the others leave. -/
structure CountsOn (db : Database K) (entry : Entry K) : Prop where
  rounds : ∀ incidentId payload plan,
    entry.operation = .workflow (.startContacts incidentId payload) →
    Planning.currentPlan db incidentId = some plan → plan.status = .approved →
    (∀ item ∈ Contacts.unlisted db incidentId plan, db.householdsOf item.communityId ≠ 0 →
      ∀ row ∈ Contacts.listForIncident db incidentId, row.communityId = item.communityId →
        row.households = 0) ∧
    (((Contacts.listForIncident db incidentId).map (·.householdsConfirmed)).sum : ℕ) ≤
      ((Contacts.listForIncident db incidentId).map (·.households)).sum +
        ((Contacts.unlisted db incidentId plan).map (db.householdsOf ·.communityId)).sum
  results : ∀ contactId payload row n,
    entry.operation = .workflow (.updateContact contactId payload) →
    Contacts.get db contactId = .ok row → payload.householdsConfirmed = some n →
    (n + (((Contacts.listForIncident db row.incidentId).filter (·.id ≠ row.id)).map
        (·.householdsConfirmed)).sum : ℕ) ≤
      ((Contacts.listForIncident db row.incidentId).map (·.households)).sum

theorem Database.trueCounts_iff :
    db.TrueCounts ↔ ∀ i, CountedOnce (Contacts.listForIncident db i) :=
  forall_congr' fun _ => trueCount_rollup_iff

namespace Contacts

theorem listForIncident_congr (h : db'.contacts = db.contacts) (i : Uuid) :
    listForIncident db' i = listForIncident db i := by
  rw [listForIncident, listForIncident, h]

theorem listForIncident_split {before after : List ContactAttempt} {row : ContactAttempt} {i : Uuid}
    (h : db.contacts = before ++ row :: after) (hrow : row.incidentId = i) :
    listForIncident db i = before.filter (·.incidentId = i) ++
      row :: after.filter (·.incidentId = i) := by
  simp only [listForIncident, h, List.filter_append, List.filter_cons, hrow, decide_true, if_true]

/-- The rows that a round adds, one for each item of the plan that has none yet. -/
def roundRows (db : Database K) (incident : Incident) (plan : EvacuationPlan)
    (payload : ContactStart) : List ContactAttempt :=
  (unlisted db incident.id plan).mapIdx fun index item =>
    attempt db incident plan payload (db.nextId + index) item

variable {incident : Incident} {plan : EvacuationPlan} {payload : ContactStart}

theorem roundRows_unconfirmed {row : ContactAttempt}
    (h : row ∈ roundRows db incident plan payload) :
    row.incidentId = incident.id ∧ row.householdsConfirmed = 0 := by
  obtain ⟨index, hindex, rfl⟩ := List.mem_mapIdx.1 h
  exact ⟨rfl, rfl⟩

theorem map_roundRows {f : ContactAttempt → α} {g : PlanItem → α}
    (h : ∀ id item, f (attempt db incident plan payload id item) = g item) :
    (roundRows db incident plan payload).map f = (unlisted db incident.id plan).map g := by
  apply List.ext_getElem <;> simp [roundRows, h]

theorem roundRows_communities (hdb : db.Sound) :
    ((roundRows db incident plan payload).map (·.communityId)).Nodup := by
  rw [map_roundRows (fun _ _ => rfl)]
  exact (hdb.distinct plan.id).sublist (List.filter_sublist.map _)

theorem forall_roundRows {p : Uuid → ℤ → Prop} :
    (∀ row ∈ roundRows db incident plan payload, p row.communityId row.households) ↔
      ∀ item ∈ unlisted db incident.id plan,
        p item.communityId (db.householdsOf item.communityId) := by
  constructor
  · intro h item hitem
    obtain ⟨index, hindex, rfl⟩ := List.getElem_of_mem hitem
    exact h _ (List.mem_mapIdx.2 ⟨index, hindex, rfl⟩)
  · intro h row hrow
    obtain ⟨index, hindex, rfl⟩ := List.mem_mapIdx.1 hrow
    exact h _ (List.getElem_mem hindex)

end Contacts

theorem startRound_counts {incident : Incident} {payload : ContactStart} {plan : EvacuationPlan}
    (hdb : db.Sound) (hold : CountedOnce (Contacts.listForIncident db incident.id))
    (hcontacts : db'.contacts = db.contacts ++ Contacts.roundRows db incident plan payload) :
    (∀ i, i ≠ incident.id → Contacts.listForIncident db' i = Contacts.listForIncident db i) ∧
      (CountedOnce (Contacts.listForIncident db' incident.id) ↔
        (∀ item ∈ Contacts.unlisted db incident.id plan, db.householdsOf item.communityId ≠ 0 →
          ∀ row ∈ Contacts.listForIncident db incident.id, row.communityId = item.communityId →
            row.households = 0) ∧
        (((Contacts.listForIncident db incident.id).map (·.householdsConfirmed)).sum : ℕ) ≤
          ((Contacts.listForIncident db incident.id).map (·.households)).sum +
            ((Contacts.unlisted db incident.id plan).map
              (db.householdsOf ·.communityId)).sum) := by
  have hlist : ∀ i, Contacts.listForIncident db' i = Contacts.listForIncident db i ++
      (Contacts.roundRows db incident plan payload).filter (·.incidentId = i) := by
    intro i
    rw [Contacts.listForIncident, hcontacts, List.filter_append]
    rfl
  refine ⟨fun i hi => ?_, ?_⟩
  · have hnone : (Contacts.roundRows db incident plan payload).filter (·.incidentId = i) = [] := by
      apply List.filter_eq_nil_iff.2
      intro row hrow heq
      exact hi ((of_decide_eq_true heq).symm.trans (Contacts.roundRows_unconfirmed hrow).1)
    rw [hlist, hnone, List.append_nil]
  · have hall : (Contacts.roundRows db incident plan payload).filter
        (·.incidentId = incident.id) = Contacts.roundRows db incident plan payload := by
      apply List.filter_eq_self.2
      intro row hrow
      exact decide_eq_true (Contacts.roundRows_unconfirmed hrow).1
    have hconfirmed : ∀ row ∈ Contacts.roundRows db incident plan payload,
        row.householdsConfirmed = 0 := fun row hrow => (Contacts.roundRows_unconfirmed hrow).2
    have hhouseholds : (Contacts.roundRows db incident plan payload).map (·.households) =
        (Contacts.unlisted db incident.id plan).map (db.householdsOf ·.communityId) :=
      Contacts.map_roundRows fun _ _ => rfl
    rw [hlist, hall, hold.append_iff (Contacts.roundRows_communities hdb) hconfirmed, hhouseholds]
    exact and_congr (Contacts.forall_roundRows (p := fun c n => n ≠ 0 →
      ∀ r ∈ Contacts.listForIncident db incident.id, r.communityId = c → r.households = 0)) Iff.rfl

theorem update_counts {contactId : Uuid} {payload : ContactUpdate} {row : ContactAttempt}
    {now : Timestamp} {actor : String} (hdb : db.Linked)
    (hget : Contacts.get db contactId = .ok row)
    (hold : CountedOnce (Contacts.listForIncident db row.incidentId))
    (hcontacts : db'.contacts =
      (db.updateContact row.id (Contacts.recorded now actor payload)).contacts) :
    (∀ i, i ≠ row.incidentId → Contacts.listForIncident db' i = Contacts.listForIncident db i) ∧
      (CountedOnce (Contacts.listForIncident db' row.incidentId) ↔
        ∀ n, payload.householdsConfirmed = some n →
          (n + (((Contacts.listForIncident db row.incidentId).filter (·.id ≠ row.id)).map
              (·.householdsConfirmed)).sum : ℕ) ≤
            ((Contacts.listForIncident db row.incidentId).map (·.households)).sum) := by
  have hrow := List.mem_of_find?_eq_some (Contacts.get_eq_ok.1 hget).1
  obtain ⟨before, after, hsplit, hne, hwrite⟩ := split_at_key hdb.contact_ids hrow
  rw [Database.updateContact, hwrite] at hcontacts
  generalize hrow' : Contacts.recorded now actor payload row = row' at hcontacts
  have hkept : row'.incidentId = row.incidentId ∧ row'.communityId = row.communityId ∧
      row'.households = row.households := hrow' ▸ ⟨rfl, rfl, rfl⟩
  refine ⟨fun i hi => ?_, ?_⟩
  · simp only [Contacts.listForIncident, hcontacts, hsplit, List.filter_append, List.filter_cons,
      hkept.1, decide_eq_true_eq, if_neg (Ne.symm hi)]
  · have hothers : (Contacts.listForIncident db row.incidentId).filter (·.id ≠ row.id) =
        before.filter (·.incidentId = row.incidentId) ++
          after.filter (·.incidentId = row.incidentId) := by
      rw [Contacts.listForIncident_split hsplit rfl, List.filter_append,
        List.filter_cons_of_neg (by simp), ← List.filter_append]
      apply List.filter_eq_self.2
      intro r hr
      apply decide_eq_true
      apply hne r
      rcases List.mem_append.1 hr with hr | hr
      · exact List.mem_append_left _ (List.mem_of_mem_filter hr)
      · exact List.mem_append_right _ (List.mem_of_mem_filter hr)
    rw [hothers, Contacts.listForIncident_split hcontacts hkept.1]
    rw [Contacts.listForIncident_split hsplit rfl] at hold ⊢
    rw [hold.update_iff hkept.2.1 hkept.2.2]
    cases hgiven : payload.householdsConfirmed with
    | none =>
      have hsame : row'.householdsConfirmed = row.householdsConfirmed := by
        rw [← hrow', Contacts.recorded, hgiven]
        rfl
      have hle := hold.confirmed
      simp only [List.map_append, List.map_cons, List.sum_append, List.sum_cons, hsame,
        reduceCtorEq, false_implies, implies_true, iff_true] at hle ⊢
      omega
    | some n =>
      have hsame : row'.householdsConfirmed = n := by
        rw [← hrow', Contacts.recorded, hgiven]
        rfl
      simp [hsame]

theorem perform_startContacts {incidentId : Uuid} {payload : ContactStart} {incident : Incident}
    {plan : EvacuationPlan}
    (hoperation : entry.operation = .workflow (.startContacts incidentId payload))
    (hincident : Incidents.get db incidentId = .ok incident)
    (hplan : Planning.currentPlan db incident.id = some plan)
    (happroved : plan.status = .approved) :
    (perform db entry).contacts =
      db.contacts ++ Contacts.roundRows db incident plan payload := by
  rw [perform, Entry.handle, hoperation]
  simp only [Call.handle, hincident, ok_bind, Contacts.startRound, hplan, happroved, ne_eq,
    not_true_eq_false, if_false]
  rfl

theorem Database.TrueCounts.perform (h : db.TrueCounts) (hdb : db.Linked)
    (hallowed : CountsOn db entry) : (perform db entry).TrueCounts := by
  rw [Database.trueCounts_iff] at h ⊢
  intro i
  have hkept : (Salgil.perform db entry).contacts = db.contacts →
      CountedOnce (Contacts.listForIncident (Salgil.perform db entry) i) := by
    intro hcontacts
    rw [Contacts.listForIncident_congr hcontacts]
    exact h i
  cases perform_fieldEffect db entry with
  | round incident payload plan hoperation hplan happroved hcontacts =>
    obtain ⟨hother, hself⟩ := startRound_counts hdb.sound (h incident.id) hcontacts
    by_cases hi : i = incident.id
    · rw [hi, hself]
      exact hallowed.rounds incident.id payload plan hoperation hplan happroved
    · rw [hother i hi]
      exact h i
  | result contactId payload row hoperation hget hcontacts =>
    obtain ⟨hother, hself⟩ := update_counts hdb hget (h row.incidentId) hcontacts
    by_cases hi : i = row.incidentId
    · rw [hi, hself]
      exact fun n => hallowed.results contactId payload row n hoperation hget
    · rw [hother i hi]
      exact h i
  | added _ hcontacts => exact hkept hcontacts
  | edited _ _ _ _ _ hcontacts => exact hkept hcontacts
  | reported _ _ _ _ _ _ _ hcontacts => exact hkept hcontacts
  | unrelated hcontacts => exact hkept hcontacts

theorem Database.TrueCounts.countsOn (h : db.TrueCounts) (hdb : db.Linked)
    (h' : (Salgil.perform db entry).TrueCounts) : CountsOn db entry := by
  rw [Database.trueCounts_iff] at h h'
  constructor
  · intro incidentId payload plan hoperation hplan happroved
    obtain ⟨hmem, hof, -⟩ := hdb.sound.versioned.currentPlan_eq_some.1 hplan
    obtain ⟨incident, hincident, hid⟩ := hdb.plan_of plan hmem
    obtain rfl : incident.id = incidentId := hid.trans hof
    have hget : Incidents.get db incident.id = .ok incident :=
      Incidents.get_eq_ok.2 (find?_key hdb.incident_ids hincident)
    have hcontacts := perform_startContacts hoperation hget hplan happroved
    exact (startRound_counts hdb.sound (h incident.id) hcontacts).2.1 (h' incident.id)
  · intro contactId payload row n hoperation hget
    have hcontacts := (perform_updateContact hoperation hget).1
    exact (update_counts hdb hget (h row.incidentId) hcontacts).2.1 (h' row.incidentId) n

theorem Database.Empty.trueCounts (h : db.Empty) : db.TrueCounts := by
  rw [Database.trueCounts_iff]
  intro i
  rw [Contacts.listForIncident, h.contacts]
  exact ⟨List.nodup_nil, le_rfl⟩

/-- In a run of operations the rollups stay true counts, if and only if no community is put on the
list again for a new plan, no round takes the list below what is confirmed, and no result
confirms more households than the list has left. -/
theorem true_counts_iff (h : db.Empty) (entries : List (Entry K)) :
    Throughout perform Database.TrueCounts db entries ↔ AllAllowed perform CountsOn db entries := by
  refine throughout_iff_allAllowed (fun db entry (hdb : db.Linked) => hdb.perform entry)
    (fun db entry hdb htrue => ?_) (Database.Linked.of_empty h) h.trueCounts
  constructor
  · exact htrue.countsOn hdb
  · exact htrue.perform hdb

end

/-- A plan is approved and the village called; a second plan is, too. -/
def calledTwice : List (Entry ℚ) :=
  [⟨"operator", 0, .declareIncident none fire⟩,
    ⟨"operator", 10, .workflow (.createPlan 1 villagePlan)⟩,
    ⟨"approver", 20, .workflow (.approvePlan 3 headsApproval)⟩,
    ⟨"operator", 30, .workflow (.startContacts 1 {})⟩,
    ⟨"operator", 40, .workflow (.createPlan 1 villagePlan)⟩,
    ⟨"approver", 50, .workflow (.approvePlan 9 headsApproval)⟩,
    ⟨"operator", 60, .workflow (.startContacts 1 {})⟩]

/-- The village is called, and a number of households is confirmed. -/
def confirming (n : ℕ) : List (Entry ℚ) :=
  calledTwice.take 4 ++ [⟨"operator", 40, .workflow (.updateContact 7
    { response := .evacuating, householdsConfirmed := some n })⟩]

/-- A village is registered with five households below none, and called. -/
def underCounted : List (Entry ℚ) :=
  [⟨"operator", 0, .createCommunity
      { regionCode := "47750", name := "하촌리", households := some (-5) }⟩,
    ⟨"operator", 10, .declareIncident none fire⟩,
    ⟨"operator", 20, .workflow (.createPlan 2
      { items := [{ communityId := 1 }], items_ok := by simp })⟩,
    ⟨"approver", 30, .workflow (.approvePlan 4 headsApproval)⟩,
    ⟨"operator", 40, .workflow (.startContacts 2 {})⟩]

/-- The twelve households of the village count twice, and of twelve, forty can be confirmed; and
with a number below 0, less than none. -/
theorem households_miscounted :
    ¬ Throughout perform Database.TrueCounts quietVillage calledTwice ∧
      ¬ Throughout perform Database.TrueCounts quietVillage (confirming 40) ∧
      ¬ Throughout perform Database.TrueCounts quietVillage underCounted := by
  refine ⟨fun h => ?_, fun h => ?_, fun h => ?_⟩
  · have htrue : (runEntries quietVillage calledTwice).TrueCounts :=
      h calledTwice [] (List.append_nil _).symm
    have htwice := (Database.trueCounts_iff.1 htrue 1).communities
    exact absurd htwice (by decide)
  · have htrue : (runEntries quietVillage (confirming 40)).TrueCounts :=
      h (confirming 40) [] (List.append_nil _).symm
    have hmore := (Database.trueCounts_iff.1 htrue 1).confirmed
    exact absurd hmore (by decide)
  · have htrue : (runEntries quietVillage underCounted).TrueCounts :=
      h underCounted [] (List.append_nil _).symm
    have hbelow := (Database.trueCounts_iff.1 htrue 2).confirmed
    exact absurd hbelow (by decide)

theorem true_counts_iff_first_round :
    Throughout perform Database.TrueCounts quietVillage (confirming 12) ∧
      (Contacts.rollup (Contacts.listForIncident
        (runEntries quietVillage (confirming 12)) 1)).householdsConfirmed = 12 := by
  refine ⟨(true_counts_iff quietVillage_empty _).2 ?_, by decide⟩
  refine allAllowed_cons.2 ⟨?_, allAllowed_cons.2 ⟨?_, allAllowed_cons.2 ⟨?_, allAllowed_cons.2
    ⟨?_, allAllowed_cons.2 ⟨?_, allAllowed_nil⟩⟩⟩⟩⟩
  · constructor <;> (intros; contradiction)
  · constructor <;> (intros; contradiction)
  · constructor
    · intro _ _ _ hoperation
      cases hoperation
    · intros
      contradiction
  · constructor
    · intro incidentId payload plan hoperation hplan _
      cases hoperation
      have hnone :
          Contacts.listForIncident (runEntries quietVillage (calledTwice.take 3)) 1 = [] := by
        decide
      refine ⟨fun item _ _ row hrow => absurd (hnone ▸ hrow) List.not_mem_nil, ?_⟩
      cases hplan
      decide
    · intros
      contradiction
  · constructor
    · intro _ _ _ hoperation
      cases hoperation
    · intro contactId payload row n hoperation hget hn
      cases hoperation
      cases hget
      cases hn
      decide

end Salgil
