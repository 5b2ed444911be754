import Salgil.CommitSchedule
import Salgil.PlanInterleavings

namespace Salgil
set_option autoImplicit true

section
variable {K : Type}

namespace Contacts

/-- The insert of a round, for the communities as they were read. -/
def insertRound (db : Database K) (now : Timestamp) (actor : String) (incident : Incident)
    (payload : ContactStart) (plan : EvacuationPlan) (missing : List PlanItem) : Transaction K :=
  .write missing.length (fun first => .insertContacts (missing.mapIdx fun index item =>
    attempt db incident plan payload (first + index) item)) fun _ =>
  .record now actor (.contactStarted plan.version payload.channel missing.length)
    (some incident.id) (some plan.id) ("주민 연락 개시 — 계획 v" ++ toString plan.version ++
      ", 대상 " ++ toString missing.length ++ "개 마을")
  .commit

def readCommunities (now : Timestamp) (actor : String) (incident : Incident)
    (payload : ContactStart) (plan : EvacuationPlan) (missing : List PlanItem) : Transaction K :=
  .read fun db => insertRound db now actor incident payload plan missing

def readContacted (now : Timestamp) (actor : String) (incident : Incident)
    (payload : ContactStart) (plan : EvacuationPlan) (items : List PlanItem) : Transaction K :=
  .read fun db => readCommunities now actor incident payload plan <|
    items.filter (·.communityId ∉ (db.contacts.filter fun row =>
      row.incidentId = incident.id ∧ row.planId = some plan.id).map (·.communityId))

/-- What is left of a round that has read its plan. -/
def readItems (now : Timestamp) (actor : String) (incident : Incident) (payload : ContactStart)
    (plan : EvacuationPlan) : Transaction K :=
  .read fun db => if plan.status ≠ .approved then .rollback
    else readContacted now actor incident payload plan (db.planItems plan.id)

theorem startRoundScript_eq (now : Timestamp) (actor : String) (incidentId : Uuid)
    (payload : ContactStart) : (startRoundScript now actor incidentId payload : Transaction K) =
      .require (Incidents.get · incidentId) fun incident =>
      .read fun db =>
        match Planning.currentPlan db incident.id with
        | none => .rollback
        | some plan => readItems now actor incident payload plan := rfl

end Contacts

/-- The contacts that are inserted by the writes. -/
def insertedContacts (pending : List (RowWrite K)) : List ContactAttempt :=
  pending.flatMap fun
    | .insertContacts rows => rows
    | _ => []

/-- The transaction is in a round on the plan: it has read the plan, and its commit is to come. -/
inductive OnPlan (planId : Uuid) : Txn (Database K) (RowWrite K) → Prop where
  | items : plan.id = planId →
      OnPlan planId ⟨Contacts.readItems now actor incident payload plan, pending⟩
  | contacted : plan.id = planId →
      OnPlan planId ⟨Contacts.readContacted now actor incident payload plan items, pending⟩
  | communities : plan.id = planId →
      OnPlan planId ⟨Contacts.readCommunities now actor incident payload plan missing, pending⟩
  | insert : plan.id = planId →
      OnPlan planId ⟨Contacts.insertRound db now actor incident payload plan missing, pending⟩
  | inserted : row ∈ insertedContacts pending → row.planId = some planId →
      OnPlan planId ⟨script, pending⟩

/-- The transaction is in a round that has found no contact of the community for the plan. -/
inductive OnContact (planId communityId : Uuid) : Txn (Database K) (RowWrite K) → Prop where
  | communities : plan.id = planId → item ∈ missing → item.communityId = communityId →
      OnContact planId communityId
        ⟨Contacts.readCommunities now actor incident payload plan missing, pending⟩
  | insert : plan.id = planId → item ∈ missing → item.communityId = communityId →
      OnContact planId communityId
        ⟨Contacts.insertRound db now actor incident payload plan missing, pending⟩
  | inserted : row ∈ insertedContacts pending → row.planId = some planId →
      row.communityId = communityId → OnContact planId communityId ⟨script, pending⟩

/-- The writes neither end the approval of a plan that the open transaction is in a round on, nor
make a contact that it is about to make. -/
structure Considerate (pending : List (RowWrite K)) (txn : Txn (Database K) (RowWrite K)) :
    Prop where
  plan : ∀ loaded object, .updatePlan loaded object ∈ pending → object.status ≠ .approved →
    ¬ OnPlan loaded.id txn
  contact : ∀ row ∈ insertedContacts pending, ∀ planId ∈ row.planId,
    ¬ OnContact planId row.communityId txn

/-- Every commit of the run is considerate of all other open transactions. -/
def AllConsiderate (w : World (Database K) (RowWrite K)) (actions : List (Action (PlanCall K))) :
    Prop :=
  ∀ before t after pending s other, actions = before ++ .advance t :: after →
    ((planEngine K).run w before).txns[t]? = some ⟨.commit, pending⟩ → s ≠ t →
    ((planEngine K).run w before).txns[s]? = some other → Considerate pending other

/-- The contacts that a step commits cite plans that are approved in the committed rows. -/
def ContactsApproved (w : World (Database K) (RowWrite K)) (actions : List (Action (PlanCall K))) :
    Prop :=
  ∀ before a after, actions = before ++ a :: after → ∃ new,
    ((planEngine K).run w (before ++ [a])).committed.contacts =
      ((planEngine K).run w before).committed.contacts ++ new ∧
    ∀ row ∈ new, ∃ p ∈ ((planEngine K).run w before).committed.plans,
      row.planId = some p.id ∧ p.status = .approved

/-- No two committed contacts are for the same plan and community. -/
def ContactedOnce (w : World (Database K) (RowWrite K)) (actions : List (Action (PlanCall K))) :
    Prop :=
  ∀ before after, actions = before ++ after →
    (((planEngine K).run w before).committed.contacts.map
      fun row => (row.planId, row.communityId)).Nodup

/-- The references between plans, items and contacts, and one contact of a community for a plan. -/
structure Database.RoundsKept (db : Database K) : Prop where
  ids : (db.plans.map (·.id)).Nodup
  cited : ∀ item ∈ db.items, ∃ p ∈ db.plans, p.id = item.planId
  distinct : ∀ planId, ((db.planItems planId).map (·.communityId)).Nodup
  cites : ∀ row ∈ db.contacts, ∃ p ∈ db.plans, row.planId = some p.id ∧
    row.incidentId = p.incidentId
  once : (db.contacts.map fun row => (row.planId, row.communityId)).Nodup

def Database.ApprovedNow (db : Database K) (planId : Uuid) : Prop :=
  ∃ p ∈ db.plans, p.id = planId ∧ p.status = .approved

def Database.Uncontacted (db : Database K) (planId communityId : Uuid) : Prop :=
  ∀ row ∈ db.contacts, (row.planId, row.communityId) ≠ (some planId, communityId)

/-- What a transaction goes by while others commit. -/
structure RoundRely (txn : Txn (Database K) (RowWrite K)) (db db' : Database K) : Prop where
  inv : db'.RoundsKept
  plans : ∀ p ∈ db.plans, ∃ p' ∈ db'.plans, p'.id = p.id ∧ p'.incidentId = p.incidentId
  approved : ∀ planId, OnPlan planId txn → db.ApprovedNow planId → db'.ApprovedNow planId
  uncontacted : ∀ planId communityId, OnContact planId communityId txn →
    db.Uncontacted planId communityId → db'.Uncontacted planId communityId
  fresh : ∀ plan, .insertPlan plan ∈ txn.pending → (∀ p ∈ db.plans, p.id ≠ plan.id) →
    ∀ p ∈ db'.plans, p.id ≠ plan.id

variable {db db' db'' : Database K} {txn : Txn (Database K) (RowWrite K)}
variable {pending : List (RowWrite K)} {p q : EvacuationPlan}

theorem RoundRely.refl (h : db.RoundsKept) : RoundRely txn db db where
  inv := h
  plans p hp := ⟨p, hp, rfl, rfl⟩
  approved _ _ h := h
  uncontacted _ _ _ h := h
  fresh _ _ h := h

theorem RoundRely.trans (h : RoundRely txn db db') (h' : RoundRely txn db' db'') :
    RoundRely txn db db'' where
  inv := h'.inv
  plans p hp := by
    obtain ⟨p', hp', hid, hi⟩ := h.plans p hp
    obtain ⟨p'', hp'', hid', hi'⟩ := h'.plans p' hp'
    exact ⟨p'', hp'', hid'.trans hid, hi'.trans hi⟩
  approved planId hon happroved := h'.approved planId hon (h.approved planId hon happroved)
  uncontacted planId communityId hon hun :=
    h'.uncontacted planId communityId hon (h.uncontacted planId communityId hon hun)
  fresh plan hplan hfresh := h'.fresh plan hplan (h.fresh plan hplan hfresh)

theorem view_contacts (db : Database K) (pending : List (RowWrite K)) :
    ((planEngine K).view db pending).contacts = db.contacts ++ insertedContacts pending := by
  induction pending generalizing db with
  | nil => exact (List.append_nil _).symm
  | cons write pending ih =>
    have hwrite : (write.apply db).contacts = db.contacts ++ insertedContacts [write] := by
      cases write <;>
        simp [RowWrite.apply, insertedContacts, Database.updatePlan, Database.updateTask]
    have hcons : insertedContacts (write :: pending) =
        insertedContacts [write] ++ insertedContacts pending := by
      simp [insertedContacts]
    rw [hcons, ← List.append_assoc, ← hwrite]
    exact ih (write.apply db)

theorem view_plans (db : Database K) (pending : List (RowWrite K)) :
    (∀ p ∈ db.plans, ∃ p' ∈ ((planEngine K).view db pending).plans, p'.id = p.id ∧
      p'.incidentId = p.incidentId) ∧
    ∀ p' ∈ ((planEngine K).view db pending).plans, (∃ p ∈ db.plans, p'.id = p.id) ∨
      ∃ plan, .insertPlan plan ∈ pending ∧ p'.id = plan.id := by
  induction pending generalizing db with
  | nil => exact ⟨fun p hp => ⟨p, hp, rfl, rfl⟩, fun p hp => .inl ⟨p, hp, rfl⟩⟩
  | cons write pending ih =>
    obtain ⟨hold, hnew⟩ := ih (write.apply db)
    have hkept : ∀ p ∈ db.plans, ∃ p' ∈ (write.apply db).plans, p'.id = p.id ∧
        p'.incidentId = p.incidentId := by
      intro p hp
      cases write with
      | insertPlan plan => exact ⟨p, List.mem_append_left _ hp, rfl, rfl⟩
      | updatePlan loaded object =>
        refine ⟨_, List.mem_map_of_mem hp, ?_⟩
        split <;> exact ⟨rfl, rfl⟩
      | _ => exact ⟨p, hp, rfl, rfl⟩
    have hadded : ∀ p' ∈ (write.apply db).plans, (∃ p ∈ db.plans, p'.id = p.id) ∨
        ∃ plan, write = .insertPlan plan ∧ p'.id = plan.id := by
      intro p' hp'
      cases write with
      | insertPlan plan =>
        rcases List.mem_append.1 hp' with hmem | hmem
        · exact .inl ⟨p', hmem, rfl⟩
        · exact .inr ⟨plan, rfl, by rw [List.mem_singleton.1 hmem]⟩
      | updatePlan loaded object =>
        obtain ⟨p, hp, rfl⟩ := List.mem_map.1 hp'
        refine .inl ⟨p, hp, ?_⟩
        split <;> rfl
      | _ => exact .inl ⟨p', hp', rfl⟩
    constructor
    · intro p hp
      obtain ⟨p', hp', hid, hi⟩ := hkept p hp
      obtain ⟨p'', hp'', hid', hi'⟩ := hold p' hp'
      exact ⟨p'', hp'', hid'.trans hid, hi'.trans hi⟩
    · intro p'' hp''
      rcases hnew p'' hp'' with ⟨p', hp', hid⟩ | ⟨plan, hplan, hid⟩
      · rcases hadded p' hp' with ⟨p, hp, hid'⟩ | ⟨plan, rfl, hid'⟩
        · exact .inl ⟨p, hp, hid.trans hid'⟩
        · exact .inr ⟨plan, List.mem_cons_self, hid.trans hid'⟩
      · exact .inr ⟨plan, List.mem_cons_of_mem _ hplan, hid⟩

theorem view_approved {planId : Uuid} (happroved : db.ApprovedNow planId)
    (hwrites : ∀ loaded object, .updatePlan loaded object ∈ pending → loaded.id = planId →
      object.status = .approved) : ((planEngine K).view db pending).ApprovedNow planId := by
  induction pending generalizing db with
  | nil => exact happroved
  | cons write pending ih =>
    apply ih _ fun loaded object hmem => hwrites loaded object (List.mem_cons_of_mem _ hmem)
    obtain ⟨p, hp, hid, hstatus⟩ := happroved
    cases write with
    | insertPlan plan => exact ⟨p, List.mem_append_left _ hp, hid, hstatus⟩
    | updatePlan loaded object =>
      refine ⟨_, List.mem_map_of_mem hp, ?_⟩
      split
      · next hloaded =>
        have hobject := hwrites loaded object List.mem_cons_self (hloaded.symm.trans hid)
        refine ⟨hid, ?_⟩
        simp only [EvacuationPlan.flush, flushColumn, hobject, hstatus, ite_self]
      · exact ⟨hid, hstatus⟩
    | _ => exact ⟨p, hp, hid, hstatus⟩

/-- A considerate commit keeps what an open transaction goes by. -/
theorem Considerate.rely (h : Considerate pending txn)
    (hinv : ((planEngine K).view db pending).RoundsKept)
    (hapart : (planEngine K).Apart txn.pending pending) :
    RoundRely txn db ((planEngine K).view db pending) where
  inv := hinv
  plans := (view_plans db pending).1
  approved planId hon happroved := by
    apply view_approved happroved
    rintro loaded object hmem rfl
    by_contra hend
    exact h.plan loaded object hmem hend hon
  uncontacted planId communityId hon hun row hrow heq := by
    rw [view_contacts, List.mem_append] at hrow
    obtain ⟨hplan, rfl⟩ := Prod.mk.inj heq
    rcases hrow with hrow | hrow
    · exact hun row hrow heq
    · exact h.contact row hrow planId hplan hon
  fresh plan hplan hfresh p hp hid := by
    rcases (view_plans db pending).2 p hp with ⟨q, hq, hid'⟩ | ⟨new, hnew, hid'⟩
    · exact hfresh q hq (hid'.symm.trans hid)
    · have hclash := hapart _ hplan _ hnew
      simp [planEngine, RowWrite.clash, RowWrite.sameKey, hid.symm.trans hid'] at hclash

section
variable (K)

/-- The contacts that are committed are for plans that are approved then. -/
def roundSchedule : Schedule (planEngine K) where
  inv := Database.RoundsKept
  post pending db := ∀ row ∈ insertedContacts pending,
    ∃ p ∈ db.plans, row.planId = some p.id ∧ p.status = .approved
  rely := RoundRely
  considerate := Considerate
  refl _ _ h := RoundRely.refl h
  trans _ _ _ _ h h' := h.trans h'
  kept _ _ _ hinv hapart h := h.rely hinv hapart

end

/-- The writes that make neither plans nor items nor contacts. -/
def RowWrite.Plain : RowWrite K → Prop
  | .insertPlan _ => False
  | .insertItems _ => False
  | .insertContacts _ => False
  | _ => True

theorem insertedContacts_plain (h : ∀ write ∈ pending, RowWrite.Plain write) :
    insertedContacts pending = [] := by
  simp only [insertedContacts, List.flatMap_eq_nil_iff]
  intro write hwrite
  have hplain := h write hwrite
  cases write with
  | insertContacts rows => cases hplain
  | _ => rfl

theorem view_plain (h : ∀ write ∈ pending, RowWrite.Plain write) (db : Database K) :
    ((planEngine K).view db pending).items = db.items ∧
      ((planEngine K).view db pending).plans.map (·.id) = db.plans.map (·.id) := by
  induction pending generalizing db with
  | nil => exact ⟨rfl, rfl⟩
  | cons write pending ih =>
    obtain ⟨hitems, hids⟩ := ih (fun w hw => h w (List.mem_cons_of_mem _ hw)) (write.apply db)
    have hwrite : (write.apply db).items = db.items ∧
        (write.apply db).plans.map (·.id) = db.plans.map (·.id) := by
      have hplain := h write List.mem_cons_self
      cases write with
      | insertPlan plan => cases hplain
      | insertItems rows => cases hplain
      | updatePlan loaded object =>
        refine ⟨rfl, ?_⟩
        simp only [RowWrite.apply, Database.updatePlan, List.map_map]
        apply List.map_congr_left
        intro p _
        dsimp only [Function.comp]
        split <;> rfl
      | _ => exact ⟨rfl, rfl⟩
    exact ⟨hitems.trans hwrite.1, hids.trans hwrite.2⟩

theorem Database.RoundsKept.congr (h : db.RoundsKept)
    (hids : db'.plans.map (·.id) = db.plans.map (·.id))
    (hplans : ∀ p ∈ db.plans, ∃ p' ∈ db'.plans, p'.id = p.id ∧ p'.incidentId = p.incidentId)
    (hitems : db'.items = db.items) (hcontacts : db'.contacts = db.contacts) :
    db'.RoundsKept where
  ids := hids ▸ h.ids
  cited item hitem := by
    obtain ⟨p, hp, hid⟩ := h.cited item (hitems ▸ hitem)
    obtain ⟨p', hp', hid', -⟩ := hplans p hp
    exact ⟨p', hp', hid'.trans hid⟩
  distinct planId := by
    rw [planItems_congr hitems]
    exact h.distinct planId
  cites row hrow := by
    obtain ⟨p, hp, hplan, hincident⟩ := h.cites row (hcontacts ▸ hrow)
    obtain ⟨p', hp', hid, hi⟩ := hplans p hp
    exact ⟨p', hp', hid ▸ hplan, hi ▸ hincident⟩
  once := hcontacts ▸ h.once

theorem roundSafe_of_plain {script : Transaction K} (hscript : script.Writes RowWrite.Plain)
    (hpending : ∀ write ∈ pending, RowWrite.Plain write) :
    (roundSchedule K).Safe script pending db := by
  induction script generalizing pending db with
  | read next ih =>
    intro db₁ _
    exact ih _ (hscript _) hpending
  | write ids make next ih =>
    intro db₁ id _ _
    obtain ⟨hwrite, hnext⟩ := hscript id
    apply ih id hnext
    intro write hmem
    rcases List.mem_append.1 hmem with hmem | hmem
    · exact hpending write hmem
    · obtain rfl := List.mem_singleton.1 hmem
      exact hwrite
  | commit =>
    intro db₁ hrely
    have hcontacts := insertedContacts_plain hpending
    obtain ⟨hitems, hids⟩ := view_plain hpending db₁
    constructor
    · apply hrely.inv.congr hids (view_plans db₁ pending).1 hitems
      rw [view_contacts, hcontacts, List.append_nil]
    · intro row hrow
      rw [hcontacts] at hrow
      cases hrow
  | rollback => trivial

theorem Database.RoundsKept.draft (h : db.RoundsKept) {payload : PlanCreate} {id first : ℕ}
    (hfresh : ∀ p ∈ db.plans, p.id ≠ id) (hnodup : (payload.items.map (·.communityId)).Nodup)
    (hids : db'.plans.map (·.id) = db.plans.map (·.id) ++ [id])
    (hplans : ∀ p ∈ db.plans, ∃ p' ∈ db'.plans, p'.id = p.id ∧ p'.incidentId = p.incidentId)
    (hitems : db'.items = db.items ++ payload.items.mapIdx fun index item =>
      item.row (first + index) id index)
    (hcontacts : db'.contacts = db.contacts) : db'.RoundsKept where
  ids := by
    rw [hids, List.nodup_append]
    refine ⟨h.ids, List.nodup_singleton _, ?_⟩
    intro a ha b hb
    obtain ⟨p, hp, rfl⟩ := List.mem_map.1 ha
    rw [List.mem_singleton.1 hb]
    exact hfresh p hp
  cited item hitem := by
    rw [hitems, List.mem_append] at hitem
    rcases hitem with hitem | hitem
    · obtain ⟨p, hp, hid⟩ := h.cited item hitem
      obtain ⟨p', hp', hid', -⟩ := hplans p hp
      exact ⟨p', hp', hid'.trans hid⟩
    · obtain ⟨i, hi, rfl⟩ := List.mem_mapIdx.1 hitem
      have hnew : id ∈ db'.plans.map (·.id) := by
        rw [hids]
        exact List.mem_append_right _ (List.mem_singleton_self _)
      exact List.mem_map.1 hnew
  distinct planId := by
    have hne : ∀ item ∈ db.items, item.planId ≠ id := by
      intro item hitem heq
      obtain ⟨p, hp, hid⟩ := h.cited item hitem
      exact hfresh p hp (hid.trans heq)
    rw [planItems_draft hne hitems]
    split
    · rw [(map_itemRows _ _ _).2]
      exact hnodup
    · exact h.distinct planId
  cites row hrow := by
    obtain ⟨p, hp, hplan, hincident⟩ := h.cites row (hcontacts ▸ hrow)
    obtain ⟨p', hp', hid, hi⟩ := hplans p hp
    exact ⟨p', hp', hid ▸ hplan, hi ▸ hincident⟩
  once := hcontacts ▸ h.once

theorem validateItems_nodup {payload : PlanCreate} {u : Unit}
    (h : Planning.validateItems db payload = .ok u) :
    (payload.items.map (·.communityId)).Nodup := by
  unfold Planning.validateItems at h
  by_contra hnot
  simp [hnot] at h

variable {now : Timestamp} {actor : String} {incident : Incident}

theorem roundSafe_require {query : Database K → Except PyError α} {next : α → Transaction K}
    (h : ∀ a db', RoundRely ⟨.require query next, []⟩ db db' → query db' = .ok a →
      (roundSchedule K).Safe (next a) [] db') :
    (roundSchedule K).Safe (.require query next) [] db := by
  intro db' hrely
  dsimp only
  split
  · next a hquery => exact h a db' hrely hquery
  · trivial

theorem view_draft (hpending : ∀ write ∈ pending, RowWrite.Plain write) (db : Database K)
    (new : EvacuationPlan) (rows : List PlanItem) (event : AuditEvent) :
    ((planEngine K).view db (.insertPlan new :: pending ++ [.insertItems rows] ++
      [.insertEvent event])).items = db.items ++ rows ∧
    ((planEngine K).view db (.insertPlan new :: pending ++ [.insertItems rows] ++
      [.insertEvent event])).plans.map (·.id) = db.plans.map (·.id) ++ [new.id] ∧
    insertedContacts (.insertPlan new :: pending ++ [.insertItems rows] ++ [.insertEvent event]) =
      [] := by
  obtain ⟨hitems, hids⟩ := view_plain hpending (RowWrite.apply db (.insertPlan new))
  have hplan : (RowWrite.apply db (.insertPlan new)).plans.map (·.id) =
      db.plans.map (·.id) ++ [new.id] := List.map_append
  rw [view_append, view_append]
  refine ⟨?_, hids.trans hplan, ?_⟩
  · exact congrArg (· ++ rows) hitems
  · have hnone := insertedContacts_plain hpending
    simp only [insertedContacts, List.flatMap_append, List.flatMap_cons] at hnone ⊢
    rw [hnone]
    rfl

theorem roundSafe_finishCreate {payload : PlanCreate} (new : EvacuationPlan) {version : ℕ}
    (hnodup : (payload.items.map (·.communityId)).Nodup)
    (hpending : ∀ write ∈ pending, RowWrite.Plain write)
    (hfresh : ∀ p ∈ db.plans, p.id ≠ new.id) :
    (roundSchedule K).Safe (Planning.finishCreate now actor incident payload new.id version)
      (.insertPlan new :: pending) db := by
  intro db₁ first h₁ _ db₂ _ h₂ _ db₃ h₃
  have hfresh₃ := h₃.fresh new (by simp) (h₂.fresh new (by simp) (h₁.fresh new (by simp) hfresh))
  obtain ⟨hitems, hids, hnone⟩ := view_draft hpending db₃ new
    (payload.items.mapIdx fun index item => item.row (first + index) new.id index) _
  constructor
  · apply h₃.inv.draft hfresh₃ hnodup hids (view_plans db₃ _).1 hitems
    exact (view_contacts db₃ _).trans (by rw [hnone, List.append_nil])
  · intro row hrow
    exact absurd (hnone ▸ hrow) List.not_mem_nil

theorem roundSafe_createScript (incidentId : Uuid) (payload : PlanCreate) :
    (roundSchedule K).Safe (Planning.createScript now actor incidentId payload) [] db := by
  apply roundSafe_require
  intro incident _ _ _
  apply roundSafe_require
  intro _ _ _ hvalid db₁ _ db₂ _ db₃ id h₃ hadmits
  have hnodup := validateItems_nodup hvalid
  have hfresh : ∀ p ∈ db₃.plans, p.id ≠ id := by
    intro p hp heq
    have hkey := List.all_eq_true.1 hadmits p hp
    simp [Planning.newVersion, RowWrite.sameKey, heq] at hkey
  dsimp only
  split
  · intro db₄ _ h₄ _
    have hfresh₄ := h₄.fresh _ (List.mem_singleton_self _) hfresh
    exact roundSafe_finishCreate (Planning.newVersion id _ actor incident payload) hnodup
      (by simp [RowWrite.Plain]) hfresh₄
  · exact roundSafe_finishCreate (Planning.newVersion id _ actor incident payload) hnodup
      (by simp) hfresh

theorem approveScript_plain (planId : Uuid) (payload : PlanApprove) :
    (Planning.approveScript now actor planId payload : Transaction K).Writes RowWrite.Plain := by
  intro db
  dsimp only
  split
  · split
    · trivial
    · exact fun _ => ⟨trivial, fun _ => ⟨trivial, trivial⟩⟩
  · trivial

theorem reapprovalScript_plain (incidentId : Uuid) (reason : String) {next : Bool → Transaction K}
    (hnext : ∀ triggered, (next triggered).Writes RowWrite.Plain) :
    (Planning.reapprovalScript now actor incidentId reason next).Writes RowWrite.Plain := by
  intro db
  dsimp only
  split
  · exact hnext false
  · split
    · exact fun _ => ⟨trivial, fun _ => ⟨trivial, hnext true⟩⟩
    · exact hnext _

theorem submitReportScript_plain (taskId : Uuid) (payload : ReportCreate K) :
    (Tasks.submitReportScript now actor taskId payload).Writes RowWrite.Plain := by
  have hfinish : ∀ task id triggered,
      (Tasks.finishReport now actor task payload id triggered).Writes RowWrite.Plain := by
    intro task id triggered
    unfold Tasks.finishReport
    split
    · exact fun _ => ⟨trivial, fun _ => ⟨trivial, trivial⟩⟩
    · exact fun _ => ⟨trivial, trivial⟩
  have hinsert : ∀ task, (Tasks.insertReport now actor task payload).Writes RowWrite.Plain := by
    intro task id
    refine ⟨trivial, ?_⟩
    split
    · exact reapprovalScript_plain _ _ (hfinish task id)
    · exact hfinish task id false
  intro db
  dsimp only
  split
  · split
    · exact hinsert _
    · exact fun _ => ⟨trivial, hinsert _⟩
  · trivial

/-- The plan of a round is there, and approved where a contact is about to be made for it. -/
structure RoundStands (incident : Incident) (planId : Uuid) (missing : List PlanItem)
    (db : Database K) : Prop where
  known : ∃ p ∈ db.plans, p.id = planId ∧ p.incidentId = incident.id
  stands : ∀ item ∈ missing, db.ApprovedNow planId ∧ db.Uncontacted planId item.communityId

theorem RoundStands.of_rely {planId : Uuid} {missing : List PlanItem}
    (h : RoundStands incident planId missing db) (hrely : RoundRely txn db db')
    (hon : ∀ item ∈ missing, OnPlan planId txn ∧ OnContact planId item.communityId txn) :
    RoundStands incident planId missing db' where
  known := by
    obtain ⟨p, hp, hid, hi⟩ := h.known
    obtain ⟨p', hp', hid', hi'⟩ := hrely.plans p hp
    exact ⟨p', hp', hid'.trans hid, hi'.trans hi⟩
  stands item hitem := by
    obtain ⟨happroved, hun⟩ := h.stands item hitem
    obtain ⟨hplan, hcontact⟩ := hon item hitem
    exact ⟨hrely.approved _ hplan happroved, hrely.uncontacted _ _ hcontact hun⟩

/-- The contacts of a round are new, as long as its plan's contacts are those that were read. -/
theorem Database.RoundsKept.round (h : db.RoundsKept) {plan : EvacuationPlan}
    {missing : List PlanItem} {payload : ContactStart} {db₀ : Database K} {first : ℕ}
    (hstands : RoundStands incident plan.id missing db)
    (hdistinct : (missing.map (·.communityId)).Nodup)
    (hplans : db'.plans = db.plans) (hitems : db'.items = db.items)
    (hcontacts : db'.contacts = db.contacts ++ missing.mapIdx fun index item =>
      Contacts.attempt db₀ incident plan payload (first + index) item) : db'.RoundsKept where
  ids := hplans ▸ h.ids
  cited item hitem := hplans ▸ h.cited item (hitems ▸ hitem)
  distinct planId := by
    rw [planItems_congr hitems]
    exact h.distinct planId
  cites row hrow := by
    rw [hplans]
    rw [hcontacts, List.mem_append] at hrow
    rcases hrow with hrow | hrow
    · exact h.cites row hrow
    · obtain ⟨i, hi, rfl⟩ := List.mem_mapIdx.1 hrow
      obtain ⟨p, hp, hid, hincident⟩ := hstands.known
      exact ⟨p, hp, congrArg some hid.symm, hincident.symm⟩
  once := once_attempts h.once hdistinct (fun item hitem => (hstands.stands item hitem).2) hcontacts

theorem currentPlan_mem {incidentId : Uuid} (h : Planning.currentPlan db incidentId = some p) :
    p ∈ db.plans ∧ p.incidentId = incidentId := by
  have hmem := List.argmax_mem (Option.mem_def.2 h)
  simp only [List.mem_filter, decide_eq_true_eq] at hmem
  exact ⟨hmem.1, hmem.2.1⟩

theorem Database.RoundsKept.missing (h : db.RoundsKept) {planId : Uuid} {item : PlanItem}
    (hknown : ∃ p ∈ db.plans, p.id = planId ∧ p.incidentId = incident.id)
    (hitem : item.communityId ∉ (db.contacts.filter fun row =>
      row.incidentId = incident.id ∧ row.planId = some planId).map (·.communityId)) :
    db.Uncontacted planId item.communityId := by
  intro row hrow heq
  obtain ⟨hplan, hcommunity⟩ := Prod.mk.inj heq
  obtain ⟨p, hp, hid, hincident⟩ := h.cites row hrow
  obtain ⟨q, hq, hqid, hqi⟩ := hknown
  have hpq : p = q := by
    apply List.inj_on_of_nodup_map h.ids hp hq
    rw [hqid]
    exact Option.some.inj (hid.symm.trans hplan)
  apply hitem
  rw [List.mem_map]
  refine ⟨row, ?_, hcommunity⟩
  simp [hrow, hplan, hincident, hpq, hqi]

theorem onPlan_inserted {plan : EvacuationPlan} {missing : List PlanItem} {payload : ContactStart}
    {first : ℕ} {item : PlanItem} {script : Transaction K} (hitem : item ∈ missing)
    (hpending : insertedContacts pending = missing.mapIdx fun index item =>
      Contacts.attempt db incident plan payload (first + index) item) :
    OnPlan plan.id ⟨script, pending⟩ ∧ OnContact plan.id item.communityId ⟨script, pending⟩ := by
  obtain ⟨i, hi, rfl⟩ := List.mem_iff_getElem.1 hitem
  have hrow : Contacts.attempt db incident plan payload (first + i) missing[i] ∈
      insertedContacts pending := by
    rw [hpending]
    exact List.mem_mapIdx.2 ⟨i, hi, rfl⟩
  exact ⟨.inserted hrow rfl, .inserted hrow rfl rfl⟩

theorem roundSafe_startRoundScript (incidentId : Uuid) (payload : ContactStart) :
    (roundSchedule K).Safe (Contacts.startRoundScript now actor incidentId payload) [] db := by
  rw [Contacts.startRoundScript_eq]
  apply roundSafe_require
  intro incident _ _ _ db₁ _
  dsimp only
  split
  · trivial
  · next plan hplan =>
    obtain ⟨hmem, hincident⟩ := currentPlan_mem hplan
    have hstands₁ : RoundStands incident plan.id [] db₁ :=
      ⟨⟨plan, hmem, rfl, hincident⟩, fun _ hitem => nomatch hitem⟩
    intro db₂ h₂
    dsimp only
    split
    · trivial
    · next hstatus =>
      have happroved := h₂.approved plan.id (.items rfl) ⟨plan, hmem, rfl, not_not.1 hstatus⟩
      have hdistinct := h₂.inv.distinct plan.id
      intro db₃ h₃
      dsimp only
      generalize hmissing : List.filter _ _ = missing
      have hknown := ((hstands₁.of_rely h₂ fun _ h => nomatch h).of_rely
        h₃ fun _ h => nomatch h).known
      have hstands₃ : RoundStands incident plan.id missing db₃ := by
        refine ⟨hknown, fun item hitem => ⟨h₃.approved plan.id (.contacted rfl) happroved, ?_⟩⟩
        rw [← hmissing, List.mem_filter, decide_eq_true_eq] at hitem
        exact h₃.inv.missing hknown hitem.2
      have hdistinct' : (missing.map (·.communityId)).Nodup := by
        rw [← hmissing]
        exact hdistinct.sublist (List.filter_sublist.map _)
      intro db₄ h₄ db₅ first h₅ _ db₆ _ h₆ _ db₇ h₇
      have hstands₄ := hstands₃.of_rely h₄ fun item hitem =>
        ⟨.communities rfl, .communities rfl hitem rfl⟩
      have hstands₅ := hstands₄.of_rely h₅ fun item hitem => ⟨.insert rfl, .insert rfl hitem rfl⟩
      have hstands₆ := hstands₅.of_rely h₆ fun item hitem =>
        onPlan_inserted hitem (List.append_nil _)
      have hstands₇ := hstands₆.of_rely h₇ fun item hitem =>
        onPlan_inserted hitem (List.append_nil _)
      constructor
      · exact h₇.inv.round hstands₇ hdistinct' rfl rfl rfl
      · intro row hrow
        have hrow : row ∈ missing.mapIdx fun index item =>
            Contacts.attempt db₄ incident plan payload (first + index) item := by
          rw [← List.append_nil (missing.mapIdx _)]
          exact hrow
        obtain ⟨i, hi, rfl⟩ := List.mem_mapIdx.1 hrow
        obtain ⟨⟨p, hp, hid, happroved⟩, -⟩ := hstands₇.stands _ (List.getElem_mem hi)
        exact ⟨p, hp, congrArg some hid.symm, happroved⟩

theorem planCall_roundSafe (call : PlanCall K) :
    (roundSchedule K).Safe call.script [] db := by
  unfold PlanCall.script
  split
  · exact roundSafe_createScript _ _
  · exact roundSafe_of_plain (approveScript_plain _ _) (by simp)
  · exact roundSafe_startRoundScript _ _
  · exact roundSafe_of_plain (submitReportScript_plain _ _) (by simp)

theorem Effect.cited {request : Request K} (h : Effect db request db')
    (hcited : ∀ item ∈ db.items, item.planId ∈ db.plans.map (·.id)) :
    ∀ item ∈ db'.items, item.planId ∈ db'.plans.map (·.id) := by
  have hkept : ∀ {write : EvacuationPlan → EvacuationPlan}, (∀ p, (write p).id = p.id) →
      db'.plans = db.plans.map write → db'.items = db.items →
      ∀ item ∈ db'.items, item.planId ∈ db'.plans.map (·.id) := by
    intro write hkey hplans hitems item hitem
    rw [hplans, List.map_map]
    simpa [Function.comp_def, hkey] using hcited item (hitems ▸ hitem)
  have hupdate : ∀ {id : Uuid} {write : EvacuationPlan → EvacuationPlan},
      db'.plans = (db.updatePlan id write).plans → (∀ p, (write p).id = p.id) →
      db'.items = db.items → ∀ item ∈ db'.items, item.planId ∈ db'.plans.map (·.id) := by
    intro id write hplans hkey
    apply hkept _ hplans
    intro p
    split
    · exact hkey p
    · rfl
  cases h with
  | drafted actor incident payload _ _ hplans hitems =>
    intro item hitem
    rw [hplans, List.map_map, List.map_append]
    rw [hitems, List.mem_append] at hitem
    rcases hitem with hitem | hitem
    · apply List.mem_append_left
      simpa [Function.comp_def, superseding_key] using hcited item hitem
    · obtain ⟨i, hi, rfl⟩ := List.mem_mapIdx.1 hitem
      apply List.mem_append_right
      simp [superseding_key, Planning.draft, PlanItemIn.row]
  | approved _ _ _ _ _ _ _ hplans hitems => exact hupdate hplans (fun _ => rfl) hitems
  | invalidated _ _ _ _ hplans hitems => exact hupdate hplans (fun _ => rfl) hitems
  | contacted _ _ _ _ _ _ hplans hitems =>
    exact hkept (fun _ => rfl) (hplans.trans (List.map_id _).symm) hitems
  | recorded _ _ _ hplans hitems =>
    exact hkept (fun _ => rfl) (hplans.trans (List.map_id _).symm) hitems
  | unrelated hplans hitems =>
    exact hkept (fun _ => rfl) (hplans.trans (List.map_id _).symm) hitems

theorem Database.Fresh.roundsKept (h : db.Fresh) (calls : List (Call K)) :
    (runCalls db calls).RoundsKept := by
  have hsound := h.sound.run calls
  refine ⟨hsound.versioned.ids, ?_, hsound.distinct, ?_, hsound.once⟩
  · have hcited : ∀ item ∈ (runCalls db calls).items,
        item.planId ∈ (runCalls db calls).plans.map (·.id) := by
      induction calls using List.reverseRecOn with
      | nil =>
        intro item hitem
        rw [show (runCalls db []).items = [] from h.items] at hitem
        cases hitem
      | append_singleton calls call ih =>
        rw [runCalls_append]
        exact (execute_effect _ call).cited (ih (h.sound.run calls))
    exact fun item hitem => List.mem_map.1 (hcited item hitem)
  · intro row hrow
    obtain ⟨p, hp, hplan, hincident, -⟩ := hsound.cites row hrow
    exact ⟨p, hp, hplan, hincident⟩

/-- However the transactions interleave, contacts are only committed for plans that are approved
at that moment, and at most one for each plan and community, as long as every commit is
considerate of the rounds that are open. -/
theorem rounds_kept (h : db.Fresh) (calls : List (Call K)) (actions : List (Action (PlanCall K)))
    (hactions : AllConsiderate (opened (runCalls db calls)) actions) :
    ContactsApproved (opened (runCalls db calls)) actions ∧
      ContactedOnce (opened (runCalls db calls)) actions := by
  have hstart : (roundSchedule K).Holds (opened (runCalls db calls)) :=
    .begin (h.roundsKept calls) _
  have hholds : ∀ before after, actions = before ++ after →
      (roundSchedule K).Holds ((planEngine K).run (opened (runCalls db calls)) before) := by
    rintro before after rfl
    apply hstart.run (fun call _ _ => planCall_roundSafe call)
    exact Schedule.Considerate.left (p := roundSchedule K) hactions
  constructor
  · intro before a after hsplit
    rw [Engine.run_append]
    rcases Engine.step_committed ((planEngine K).run (opened (runCalls db calls)) before) a with
      hsame | ⟨t, pending, rfl, hget, hcommit⟩
    · exact ⟨[], by rw [hsame, List.append_nil], fun _ hrow => nomatch hrow⟩
    · refine ⟨insertedContacts pending, by rw [hcommit, view_contacts], ?_⟩
      exact ((hholds before _ hsplit).commits hget).2
  · intro before after hsplit
    exact (hholds before after hsplit).inv.once

end

/-- The plan is approved, and a field task is there to report on. -/
def approvedPlan : List (Call ℚ) := firstRound.take 2 ++
  [⟨"operator", 25, .createTask 1 patrol⟩]

def round (now : Timestamp) : Action (PlanCall ℚ) := .start ⟨"operator", now, .startContacts 1 {}⟩

def bridgeReport : Action (PlanCall ℚ) :=
  .start ⟨"field", 40, .submitReport 6 bridgeOut⟩

/-- Two rounds find the village missing. While the first waits for its insert, the second one
and a report are committed. -/
def overlappingRounds : List (Action (PlanCall ℚ)) :=
  round 30 :: List.replicate 5 (.advance 0) ++ round 35 :: List.replicate 8 (.advance 1) ++
    bridgeReport :: List.replicate 9 (.advance 2) ++ List.replicate 3 (.advance 0)

/-- The village is contacted twice, and for the second time when the plan is approved no more. -/
theorem overlapping_rounds_repeat :
    ¬ ContactsApproved (opened (runCalls villageDatabase approvedPlan)) overlappingRounds ∧
      ¬ ContactedOnce (opened (runCalls villageDatabase approvedPlan)) overlappingRounds := by
  constructor
  · intro h
    obtain ⟨new, hnew, happroved⟩ := h overlappingRounds.dropLast (.advance 0) [] rfl
    have hplans : ∀ p ∈ ((planEngine ℚ).run (opened (runCalls villageDatabase approvedPlan))
        overlappingRounds.dropLast).committed.plans, p.status ≠ .approved := by decide
    match new with
    | [] =>
      have hlength := congrArg List.length hnew
      revert hlength
      decide
    | row :: _ =>
      obtain ⟨p, hp, -, hstatus⟩ := happroved row List.mem_cons_self
      exact hplans p hp hstatus
  · intro h
    have honce := h overlappingRounds [] (List.append_nil _).symm
    revert honce
    decide

section
variable {K : Type} {planId communityId : Uuid} {pending : List (RowWrite K)}
variable {other : Txn (Database K) (RowWrite K)}

/-- The writes that the next step of a transaction commits. -/
def World.committing (w : World D W) (t : ℕ) : List W :=
  match w.txns[t]? with
  | some ⟨.commit, pending⟩ => pending
  | _ => []

theorem World.committing_eq {w : World D W} {pending : List W} {t : ℕ}
    (h : w.txns[t]? = some ⟨.commit, pending⟩) : w.committing t = pending := by
  rw [committing, h]

/-- A round that has made no write yet, and has found a contact missing, is about to insert. -/
theorem OnContact.inserts {next : Database K → Transaction K}
    (h : OnContact planId communityId ⟨.read next, []⟩) (db : Database K) :
    ∃ ids make rest, next db = .write ids make rest := by
  generalize htxn : (⟨.read next, []⟩ : Txn (Database K) (RowWrite K)) = txn at h
  cases h with
  | communities =>
    cases htxn
    exact ⟨_, _, _, rfl⟩
  | insert => cases htxn
  | inserted hrow =>
    cases htxn
    cases hrow

theorem Considerate.of_keepsPlans (hplans : ∀ write ∈ pending, RowWrite.KeepsPlans write)
    (hcontacts : ∀ row ∈ insertedContacts pending, ∀ planId ∈ row.planId,
      ¬ OnContact planId row.communityId other) : Considerate pending other where
  plan _ _ hmem := absurd (hplans _ hmem) id
  contact := hcontacts

end

/-- The second round has read its plan when the first one is committed, and finds its contacts. -/
def roundsInTurn : List (Action (PlanCall ℚ)) :=
  round 30 :: List.replicate 5 (.advance 0) ++ round 35 :: List.replicate 3 (.advance 1) ++
    List.replicate 3 (.advance 0) ++ List.replicate 5 (.advance 1)

theorem rounds_kept_in_turn :
    ((planEngine ℚ).run (opened (runCalls villageDatabase approvedPlan))
      roundsInTurn).committed.contacts.length = 1 ∧
    ((planEngine ℚ).run (opened (runCalls villageDatabase approvedPlan))
      roundsInTurn).committed.events.length = 5 ∧
    ContactsApproved (opened (runCalls villageDatabase approvedPlan)) roundsInTurn ∧
    ContactedOnce (opened (runCalls villageDatabase approvedPlan)) roundsInTurn := by
  refine ⟨by decide, by decide, rounds_kept villageDatabase_fresh approvedPlan _ ?_⟩
  have hplans : ∀ k < 18, ∀ t < 2, ∀ write ∈ ((planEngine ℚ).run
      (opened (runCalls villageDatabase approvedPlan)) (roundsInTurn.take k)).committing t,
      write.KeepsPlans := by decide
  have hcontacts : ∀ k < 18, ∀ t < 2, k ≠ 12 → (insertedContacts (((planEngine ℚ).run
      (opened (runCalls villageDatabase approvedPlan)) (roundsInTurn.take k)).committing
        t)).length = 0 := by decide
  have htxns : ∀ k < 18, ((planEngine ℚ).run (opened (runCalls villageDatabase approvedPlan))
      (roundsInTurn.take k)).txns.length ≤ 2 := by decide
  -- the second round has looked for the contacts of its plan no sooner than the first is committed
  have hround : ∃ next, ((planEngine ℚ).run (opened (runCalls villageDatabase approvedPlan))
      (roundsInTurn.take 12)).txns[1]? = some ⟨.read next, []⟩ ∧
      ∀ db, ∃ next', next db = .read next' := ⟨_, rfl, fun _ => ⟨_, rfl⟩⟩
  intro before t after pending s other hactions hget hne hs
  have htake : roundsInTurn.take before.length = before := by
    rw [hactions, List.take_left]
  have hlength := congrArg List.length hactions
  simp only [roundsInTurn, List.length_append, List.length_cons, List.length_replicate] at hlength
  have hk : before.length < 18 := by omega
  have htwo := htxns before.length hk
  rw [htake] at htwo
  obtain ⟨ht, -⟩ := List.getElem?_eq_some_iff.1 hget
  obtain ⟨hs', -⟩ := List.getElem?_eq_some_iff.1 hs
  have hkeeps := hplans before.length hk t (by omega)
  rw [htake, World.committing_eq hget] at hkeeps
  apply Considerate.of_keepsPlans hkeeps
  by_cases h12 : before.length = 12
  · rw [h12] at htake
    subst htake
    obtain rfl : t = 0 := by
      cases List.append_cancel_left ((List.take_append_drop 12 roundsInTurn).trans hactions)
      rfl
    obtain rfl : s = 1 := by omega
    obtain ⟨next, hnext, hreads⟩ := hround
    obtain rfl := Option.some.inj (hs.symm.trans hnext)
    intro row _ planId _ hon
    obtain ⟨_, _, _, hwrite⟩ := hon.inserts villageDatabase
    obtain ⟨_, hread⟩ := hreads villageDatabase
    cases hread.symm.trans hwrite
  · have hnone := hcontacts before.length hk t (by omega) h12
    rw [htake, World.committing_eq hget, List.length_eq_zero_iff] at hnone
    rw [hnone]
    exact fun _ hrow => nomatch hrow

end Salgil
