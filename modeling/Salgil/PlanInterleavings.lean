import Salgil.PlanTransactions
import Salgil.WorkflowHistory

namespace Salgil
set_option autoImplicit true

section
variable {K : Type} {db db' db'' : Database K} {p q new : EvacuationPlan} {i : Uuid}
variable {previous : Option EvacuationPlan} {pending post : List (RowWrite K)}

/-- At most one plan of an incident is live, and only superseded plans name a successor. -/
def Database.OneLive (db : Database K) : Prop :=
  (∀ incidentId, ((db.plansOf incidentId).filter (·.status ≠ .superseded)).length ≤ 1) ∧
    ∀ p ∈ db.plans, p.supersededBy ≠ none → p.status = .superseded

/-- None of the writes sets another status of a plan that is superseded by now. -/
def NoLateWrite (pending : List (RowWrite K)) (db : Database K) : Prop :=
  ∀ loaded object, .updatePlan loaded object ∈ pending → object.status ≠ .superseded →
    ∀ row ∈ db.plans, row.id = loaded.id → row.status ≠ .superseded

def SameVersion (p q : EvacuationPlan) : Prop :=
  q.id = p.id ∧ q.incidentId = p.incidentId ∧ q.version = p.version

/-- Others may rewrite plans and add new ones, but none with a key of a plan that is pending. -/
structure Rely (pending : List (RowWrite K)) (db db' : Database K) : Prop where
  versioned : db'.Versioned
  kept : ∀ p ∈ db.plans, ∃ q ∈ db'.plans, SameVersion p q
  added : ∀ q ∈ db'.plans, (∃ p ∈ db.plans, SameVersion p q) ∨
    ∀ plan, .insertPlan plan ∈ pending → RowWrite.sameKey plan q = false

theorem SameVersion.refl (p : EvacuationPlan) : SameVersion p p := ⟨rfl, rfl, rfl⟩

theorem SameVersion.trans {r : EvacuationPlan} (hpq : SameVersion p q) (hqr : SameVersion q r) :
    SameVersion p r :=
  ⟨hqr.1.trans hpq.1, hqr.2.1.trans hpq.2.1, hqr.2.2.trans hpq.2.2⟩

theorem SameVersion.sameKey (h : SameVersion p q) (plan : EvacuationPlan) :
    RowWrite.sameKey plan q = RowWrite.sameKey plan p := by
  obtain ⟨hid, hi, hv⟩ := h
  simp only [RowWrite.sameKey, hid, hi, hv]

theorem Rely.refl (h : db.Versioned) : Rely pending db db where
  versioned := h
  kept p hp := ⟨p, hp, .refl p⟩
  added p hp := .inl ⟨p, hp, .refl p⟩

theorem Rely.trans (h : Rely pending db db') (h' : Rely pending db' db'') :
    Rely pending db db'' where
  versioned := h'.versioned
  kept p hp := by
    obtain ⟨q, hq, hpq⟩ := h.kept p hp
    obtain ⟨r, hr, hqr⟩ := h'.kept q hq
    exact ⟨r, hr, hpq.trans hqr⟩
  added r hr := by
    rcases h'.added r hr with ⟨q, hq, hqr⟩ | hfree
    · rcases h.added q hq with ⟨p, hp, hpq⟩ | hfree
      · exact .inl ⟨p, hp, hpq.trans hqr⟩
      · exact .inr fun plan hplan => (hqr.sameKey plan).trans (hfree plan hplan)
    · exact .inr hfree

theorem Database.Versioned.oneLive (h : db.Versioned) : db.OneLive := by
  constructor
  · intro i
    have hnodup : ((db.plansOf i).filter (·.status ≠ .superseded)).Nodup :=
      ((List.Nodup.of_map _ h.ids).filter _).filter _
    have heq : ∀ p ∈ (db.plansOf i).filter (·.status ≠ .superseded),
        ∀ q ∈ (db.plansOf i).filter (·.status ≠ .superseded), p = q := by
      intro p hp q hq
      simp only [List.mem_filter, mem_plansOf, ne_eq, decide_eq_true_eq] at hp hq
      obtain ⟨⟨hp, hpi⟩, hplive⟩ := hp
      obtain ⟨⟨hq, hqi⟩, hqlive⟩ := hq
      apply h.eq_of_version hp hq (hpi.trans hqi.symm)
      rw [h.last_of_live hp hplive, h.last_of_live hq hqlive, hpi, hqi]
    generalize (db.plansOf i).filter (·.status ≠ .superseded) = live at hnodup heq ⊢
    match live with
    | [] => exact Nat.zero_le _
    | [_] => exact le_rfl
    | p :: q :: rest =>
      obtain rfl := heq p (by simp) q (by simp)
      simp at hnodup
  · intro p hp hby
    by_contra hlive
    exact hby (h.unnamed p hp hlive)

theorem Rely.length_le (h : db.Versioned) (hrely : Rely pending db db') (i : Uuid) :
    (db.plansOf i).length ≤ (db'.plansOf i).length := by
  by_cases hempty : (db.plansOf i).length = 0
  · omega
  · obtain ⟨p, hp, hi, hv⟩ := h.exists_version (i := i) (v := (db.plansOf i).length)
      (by omega) le_rfl
    obtain ⟨q, hq, -, hqi, hqv⟩ := hrely.kept p hp
    have hle := (hrely.versioned.version_mem hq).2
    rw [hqi, hi] at hle
    omega

theorem Rely.current (h : db.Versioned) (hrely : Rely pending db db')
    (hlength : (db'.plansOf i).length = (db.plansOf i).length) :
    (Planning.currentPlan db' i).map (·.id) = (Planning.currentPlan db i).map (·.id) := by
  cases hcurrent : Planning.currentPlan db i with
  | none =>
    cases hcurrent' : Planning.currentPlan db' i with
    | none => rfl
    | some q =>
      obtain ⟨hq, rfl, hv⟩ := hrely.versioned.currentPlan_eq_some.1 hcurrent'
      have hone := (hrely.versioned.version_mem hq).1
      obtain ⟨p, hp, hi, hv⟩ := h.exists_version (i := q.incidentId)
        (v := (db.plansOf q.incidentId).length) (by omega) le_rfl
      rw [h.currentPlan_eq_some.2 ⟨hp, hi, hv⟩] at hcurrent
      cases hcurrent
  | some p =>
    obtain ⟨hp, hi, hv⟩ := h.currentPlan_eq_some.1 hcurrent
    obtain ⟨q, hq, hid, hqi, hqv⟩ := hrely.kept p hp
    have hcurrent' := hrely.versioned.currentPlan_eq_some.2
      ⟨hq, hqi.trans hi, hqv.trans (hv.trans hlength.symm)⟩
    rw [hcurrent', Option.map_some, Option.map_some, hid]

/-- The plan is pending as the next version, and the loaded one is the current plan. -/
structure Drafting (new : EvacuationPlan) (previous : Option EvacuationPlan) (db : Database K) :
    Prop where
  versioned : db.Versioned
  next : db.NextVersion new
  current : (Planning.currentPlan db new.incidentId).map (·.id) = previous.map (·.id)
  loaded : ∀ p ∈ previous, p.status ≠ .superseded ∧ p.supersededBy = none

/-- An insert that the unique key admits is the next version after all plans there are, although
the version and the previous plan were read before. -/
theorem Rely.drafting {db₁ db₂ : Database K} {actor : String} {incident : Incident}
    {payload : PlanCreate} {id : Uuid} (h : db.Versioned) (h₁ : Rely [] db db₁)
    (h₂ : Rely [] db₁ db₂)
    (hnew : new = Planning.newVersion id (Planning.latestVersion db incident.id + 1) actor incident
      payload)
    (hadmits : RowWrite.admits db₂ (.insertPlan new) = true) :
    Drafting new (Planning.currentPlan db₁ incident.id) db₂ := by
  subst hnew
  simp only [RowWrite.admits, List.all_eq_true, Bool.not_eq_true', RowWrite.sameKey,
    decide_eq_false_iff_not, not_or, not_and] at hadmits
  have hversion := h.latestVersion_eq incident.id
  have hle := h₁.length_le h incident.id
  have hle' := h₂.length_le h₁.versioned incident.id
  -- a further version would have the key of the new plan
  have hlast : (db₂.plansOf incident.id).length ≤ (db.plansOf incident.id).length := by
    by_contra hmore
    obtain ⟨q, hq, hi, hv⟩ := h₂.versioned.exists_version (i := incident.id)
      (v := (db.plansOf incident.id).length + 1) (by omega) (by omega)
    exact (hadmits q hq).2 hi.symm (by simp only [Planning.newVersion]; omega)
  have hlength : (db₂.plansOf incident.id).length = (db₁.plansOf incident.id).length := by omega
  refine ⟨h₂.versioned, ⟨?_, ?_, rfl, rfl, rfl, rfl⟩, h₂.current h₁.versioned hlength, ?_⟩
  · intro p hp
    exact Ne.symm (hadmits p hp).1
  · simp only [Planning.newVersion]
    omega
  · intro p hp
    obtain ⟨hmem, hi, hv⟩ := h₁.versioned.currentPlan_eq_some.1 hp
    have hlive := h₁.versioned.live p hmem (hi ▸ hv)
    exact ⟨hlive, h₁.versioned.unnamed p hmem hlive⟩

theorem Drafting.of_rely (h : Drafting new previous db) (hrely : Rely pending db db')
    (hpending : .insertPlan new ∈ pending) : Drafting new previous db' := by
  have hfree : ∀ q ∈ db'.plans, RowWrite.sameKey new q = false := by
    intro q hq
    rcases hrely.added q hq with ⟨p, hp, hpq⟩ | hfree
    · have hid := h.next.fresh p hp
      have hversion := h.next.version
      rw [hpq.sameKey]
      simp only [RowWrite.sameKey, decide_eq_false_iff_not, not_or, not_and]
      refine ⟨hid.symm, fun hi hv => ?_⟩
      have hle := (h.versioned.version_mem hp).2
      rw [← hi] at hle
      omega
    · exact hfree new hpending
  have hlength : (db'.plansOf new.incidentId).length = (db.plansOf new.incidentId).length := by
    have hle := hrely.length_le h.versioned new.incidentId
    by_contra hne
    obtain ⟨q, hq, hi, hv⟩ := hrely.versioned.exists_version (i := new.incidentId)
      (v := (db.plansOf new.incidentId).length + 1) (by omega) (by omega)
    have hkey := hfree q hq
    simp [RowWrite.sameKey, hi, hv, h.next.version] at hkey
  refine ⟨hrely.versioned, ⟨?_, ?_, h.next.draft, h.next.unnamed, h.next.unapproved⟩, ?_, h.loaded⟩
  · intro q hq hid
    have hkey := hfree q hq
    simp [RowWrite.sameKey, hid] at hkey
  · rw [hlength]
    exact h.next.version
  · rw [hrely.current h.versioned hlength, h.current]

section
variable (K)

/-- The versions are kept, and with them the one live plan, as long as no write comes too late. -/
def planProtocol : Protocol (planEngine K) where
  inv := Database.Versioned
  good := Database.OneLive
  rely := Rely
  allowed := NoLateWrite
  good_of_inv _ h := h.oneLive
  refl _ _ h := Rely.refl h
  trans _ _ _ _ h h' := h.trans h'

end

/-- The writes that do not concern plans. -/
def RowWrite.KeepsPlans : RowWrite K → Prop
  | .insertPlan _ => False
  | .updatePlan _ _ => False
  | _ => True

instance : (write : RowWrite K) → Decidable write.KeepsPlans
  | .insertPlan _ => .isFalse id
  | .updatePlan _ _ => .isFalse id
  | .insertItems _ | .insertContacts _ | .insertReport _ | .updateReport _ _ | .updateTask _ _
  | .insertEvent _ => .isTrue trivial

theorem view_keepsPlans {writes : List (RowWrite K)} (h : ∀ write ∈ writes, write.KeepsPlans)
    (db : Database K) : ((planEngine K).view db writes).plans = db.plans := by
  induction writes generalizing db with
  | nil => rfl
  | cons write writes ih =>
    have hwrite : (write.apply db).plans = db.plans := by
      have hkeeps := h write (by simp)
      cases write with
      | insertPlan plan => cases hkeeps
      | updatePlan loaded object => cases hkeeps
      | _ => rfl
    exact (ih (fun w hw => h w (by simp [hw])) _).trans hwrite

theorem view_append (writes post : List (RowWrite K)) (db : Database K) :
    (planEngine K).view db (writes ++ post) =
      (planEngine K).view ((planEngine K).view db writes) post :=
  List.foldl_append

theorem Rely.append (h : Rely pending db db') (hpost : ∀ write ∈ post, RowWrite.KeepsPlans write) :
    Rely (pending ++ post) db db' where
  versioned := h.versioned
  kept := h.kept
  added q hq := by
    rcases h.added q hq with hp | hfree
    · exact .inl hp
    · refine .inr fun plan hplan => ?_
      rcases List.mem_append.1 hplan with hplan | hplan
      · exact hfree plan hplan
      · cases hpost _ hplan

theorem Rely.of_map {write : EvacuationPlan → EvacuationPlan} (hversioned : db'.Versioned)
    (hplans : db'.plans = db.plans.map write) (hkey : ∀ p, SameVersion p (write p)) :
    Rely pending db db' where
  versioned := hversioned
  kept p hp := ⟨write p, hplans ▸ List.mem_map_of_mem hp, hkey p⟩
  added q hq := by
    obtain ⟨p, hp, rfl⟩ := List.mem_map.1 (hplans ▸ hq)
    exact .inl ⟨p, hp, hkey p⟩

theorem safe_of_keepsPlans {script : Transaction K} (hscript : script.Writes RowWrite.KeepsPlans)
    (hcommits : ∀ post db', (∀ write ∈ post, RowWrite.KeepsPlans write) →
      Rely (pending ++ post) db db' → (planProtocol K).Commits (pending ++ post) db') :
    (planProtocol K).Safe script pending db := by
  induction script generalizing pending db with
  | read next ih =>
    intro db₁ hrely
    apply ih _ (hscript _)
    intro post db₂ hpost hrely'
    apply hcommits post db₂ hpost
    exact (hrely.append hpost).trans hrely'
  | write ids make next ih =>
    intro db₁ id hrely hadmits
    obtain ⟨hwrite, hnext⟩ := hscript id
    apply ih id hnext
    intro post db₂ hpost hrely'
    have hpost' : ∀ write ∈ make id :: post, RowWrite.KeepsPlans write := by
      intro write hmem
      rcases List.mem_cons.1 hmem with rfl | hmem
      · exact hwrite
      · exact hpost write hmem
    rw [List.append_assoc, List.singleton_append] at hrely' ⊢
    exact hcommits _ db₂ hpost' ((hrely.append hpost').trans hrely')
  | commit =>
    intro db₁ hrely
    have hcommit := hcommits [] db₁ (by simp) (by rwa [List.append_nil])
    rwa [List.append_nil] at hcommit
  | rollback => trivial

theorem safe_of_no_plan {script : Transaction K} (hscript : script.Writes RowWrite.KeepsPlans)
    (hpending : ∀ write ∈ pending, RowWrite.KeepsPlans write) :
    (planProtocol K).Safe script pending db := by
  apply safe_of_keepsPlans hscript
  intro post db' hpost hrely
  have hkeeps : ∀ write ∈ pending ++ post, RowWrite.KeepsPlans write := by
    intro write hmem
    rcases List.mem_append.1 hmem with hmem | hmem
    · exact hpending write hmem
    · exact hpost write hmem
  have hplans := view_keepsPlans hkeeps db'
  constructor
  · intro _
    have hversioned := hrely.versioned.of_plans_eq hplans
    refine ⟨hversioned, fun other _ => ?_⟩
    exact Rely.of_map hversioned (hplans.trans (List.map_id _).symm) SameVersion.refl
  · intro hnot
    exact absurd (fun loaded object hmem => nomatch hkeeps _ hmem) hnot

/-- The object sets a new status, and neither makes the plan a draft again nor supersedes it. -/
structure Restatus (loaded object : EvacuationPlan) : Prop where
  changed : object.status ≠ loaded.status
  live : object.status ≠ .superseded
  undrafted : object.status ≠ .draft
  unnamed : object.supersededBy = loaded.supersededBy

theorem Restatus.flush {loaded object : EvacuationPlan} (h : Restatus loaded object)
    (row : EvacuationPlan) : (loaded.flush object row).status = object.status ∧
      (loaded.flush object row).supersededBy = row.supersededBy := by
  simp [EvacuationPlan.flush, flushColumn, h.changed, h.unnamed]

/-- A superseded plan names its successor, so that a late write is seen in the rows. -/
theorem Database.Versioned.named (h : db.Versioned) (hp : p ∈ db.plans)
    (hstatus : p.status = .superseded) : p.supersededBy ≠ none := by
  have hlast : p.version ≠ (db.plansOf p.incidentId).length :=
    fun hlast => h.live p hp hlast hstatus
  obtain ⟨hone, hle⟩ := h.version_mem hp
  obtain ⟨q, hq, hi, hv⟩ := h.exists_version (i := p.incidentId) (v := p.version + 1) (by omega)
    (by omega)
  rw [(h.succeeded p hp q hq hi hv).2]
  exact Option.some_ne_none _

/-- An approval or a reapproval: its commit is fine unless the plan is superseded by now. -/
theorem safe_of_restatus {script : Transaction K} {loaded object : EvacuationPlan}
    (h : Restatus loaded object) (hscript : script.Writes RowWrite.KeepsPlans)
    (hpending : ∀ write ∈ pending, RowWrite.KeepsPlans write) :
    (planProtocol K).Safe script (pending ++ [.updatePlan loaded object]) db := by
  apply safe_of_keepsPlans hscript
  intro post db' hpost hrely
  generalize hwrite : (fun row : EvacuationPlan =>
    if row.id = loaded.id then loaded.flush object row else row) = write
  have hplans : ((planEngine K).view db' (pending ++ [.updatePlan loaded object] ++ post)).plans =
      db'.plans.map write := by
    rw [view_append, view_keepsPlans hpost, view_append, ← hwrite, ← view_keepsPlans hpending db']
    rfl
  have hkey : ∀ p, SameVersion p (write p) := by
    intro p
    rw [← hwrite]
    dsimp only
    split
    · exact ⟨rfl, rfl, rfl⟩
    · exact .refl p
  have honly : ∀ l o, RowWrite.updatePlan l o ∈ pending ++ [.updatePlan loaded object] ++ post →
      l = loaded ∧ o = object := by
    intro l o hmem
    simp only [List.append_assoc, List.mem_append, List.mem_singleton] at hmem
    rcases hmem with hmem | hmem | hmem
    · cases hpending _ hmem
    · cases hmem
      exact ⟨rfl, rfl⟩
    · cases hpost _ hmem
  constructor
  · intro hallowed
    have hlive := hallowed loaded object (by simp) h.live
    have hversioned := hrely.versioned.rewrite hplans hkey (by
      intro row hrow
      by_cases hid : row.id = loaded.id
      · refine .inr ⟨hlive row hrow hid, ?_⟩
        obtain ⟨hstatus, hby⟩ := h.flush row
        rw [← hwrite]
        simp only [hid, ↓reduceIte, hstatus, hby]
        exact ⟨h.live, h.undrafted, trivial⟩
      · refine .inl ?_
        rw [← hwrite]
        exact if_neg hid)
    exact ⟨hversioned, fun other _ => .of_map hversioned hplans hkey⟩
  · intro hnot hgood
    refine hnot fun l o hmem _ row hrow hid hstatus => ?_
    obtain ⟨rfl, rfl⟩ := honly l o hmem
    -- the row keeps its successor and gets another status
    obtain ⟨hflushed, hby⟩ := h.flush row
    have hmem : write row ∈
        ((planEngine K).view db' (pending ++ [.updatePlan l o] ++ post)).plans := by
      rw [hplans]
      exact List.mem_map_of_mem hrow
    rw [← hwrite] at hmem
    simp only [hid, ↓reduceIte] at hmem
    have hsuperseded := hgood.2 _ hmem (hby ▸ hrely.versioned.named hrow hstatus)
    exact h.live (hflushed.symm.trans hsuperseded)

theorem flush_supersede (h : p.status ≠ .superseded ∧ p.supersededBy = none) (id : Uuid)
    (row : EvacuationPlan) : p.flush (p.supersede id) row = row.supersede id := by
  simp [EvacuationPlan.flush, EvacuationPlan.supersede, flushColumn, h.1.symm, h.2]

/-- The commit of a draft: the new plan succeeds the last one, even if that was approved or sent
back since it was read. -/
theorem Drafting.commits (h : Drafting new previous db)
    (hpost : ∀ write ∈ post, RowWrite.KeepsPlans write) : (planProtocol K).Commits
      (.insertPlan new :: (previous.toList.map fun p => .updatePlan p (p.supersede new.id)) ++ post)
      db := by
  have hcurrent := h.current
  have hplans : ((planEngine K).view db (.insertPlan new ::
      (previous.toList.map fun p => .updatePlan p (p.supersede new.id)) ++ post)).plans =
      (db.plans ++ [new]).map (superseding db new.incidentId new.id) := by
    rw [view_append, view_keepsPlans hpost]
    cases previous with
    | none =>
      have hkeep : superseding db new.incidentId new.id = id := by
        funext row
        simp only [Option.map_none, Option.map_eq_none_iff] at hcurrent
        simp [superseding, hcurrent]
      rw [hkeep, List.map_id]
      rfl
    | some p =>
      have hwrite : superseding db new.incidentId new.id = fun row =>
          if row.id = p.id then p.flush (p.supersede new.id) row else row := by
        funext row
        obtain ⟨q, hq, hid⟩ := Option.map_eq_some_iff.1 hcurrent
        rw [flush_supersede (h.loaded p rfl)]
        simp [superseding, hq, hid, eq_comm]
      rw [hwrite]
      rfl
  constructor
  · intro _
    have hversioned := h.versioned.draft h.next hplans
    refine ⟨hversioned, fun other hapart => ⟨hversioned, ?_, ?_⟩⟩
    · intro p hp
      refine ⟨superseding db new.incidentId new.id p, ?_, superseding_key _ _ _ p⟩
      exact hplans ▸ List.mem_map_of_mem (List.mem_append_left _ hp)
    · intro q hq
      rw [h.versioned.plans_draft h.next.fresh hplans, List.mem_append, List.mem_map,
        List.mem_singleton] at hq
      rcases hq with ⟨p, hp, rfl⟩ | rfl
      · exact .inl ⟨p, hp, superseding_key _ _ _ p⟩
      · exact .inr fun plan hplan => hapart (.insertPlan plan) hplan (.insertPlan q) (by simp)
  · intro hnot
    refine absurd (fun loaded object hmem hlive => ?_) hnot
    simp only [List.cons_append, List.mem_cons, List.mem_append, List.mem_map, reduceCtorEq,
      false_or, RowWrite.updatePlan.injEq] at hmem
    rcases hmem with ⟨p, -, -, rfl⟩ | hmem
    · exact absurd rfl hlive
    · cases hpost _ hmem

theorem safe_of_drafting {script : Transaction K} (h : Drafting new previous db)
    (hscript : script.Writes RowWrite.KeepsPlans) :
    (planProtocol K).Safe script
      (.insertPlan new :: (previous.toList.map fun p => .updatePlan p (p.supersede new.id)))
        db := by
  apply safe_of_keepsPlans hscript
  intro post db' hpost hrely
  exact (h.of_rely hrely (by simp)).commits hpost

variable {now : Timestamp} {actor : String}

theorem safe_require {query : Database K → Except PyError α} {next : α → Transaction K}
    (h : ∀ a db', Rely pending db db' → (planProtocol K).Safe (next a) pending db') :
    (planProtocol K).Safe (.require query next) pending db := by
  intro db' hrely
  dsimp only
  split
  · exact h _ db' hrely
  · trivial

theorem createScript_safe (incidentId : Uuid) (payload : PlanCreate) :
    (planProtocol K).Safe (Planning.createScript now actor incidentId payload) [] db := by
  apply safe_require
  intro incident _ _
  apply safe_require
  intro _ _ _ db₁ h₁ db₂ h₂ db₃ id h₃ hadmits
  have hdrafting := Rely.drafting h₁.versioned h₂ h₃ rfl hadmits
  have hfinish : ∀ version, (Planning.finishCreate now actor incident payload id version :
      Transaction K).Writes RowWrite.KeepsPlans :=
    fun version first => ⟨trivial, fun id => ⟨trivial, trivial⟩⟩
  have hview : (planEngine K).view db₂ [] = db₂ := rfl
  dsimp only
  rw [hview]
  cases hprevious : Planning.currentPlan db₂ incident.id with
  | none =>
    rw [hprevious] at hdrafting
    exact safe_of_drafting hdrafting (hfinish _)
  | some previous =>
    rw [hprevious] at hdrafting
    intro db₄ _ h₄ _
    exact safe_of_drafting (hdrafting.of_rely h₄ (List.mem_singleton_self _)) (hfinish _)

theorem approveScript_safe (planId : Uuid) (payload : PlanApprove) :
    (planProtocol K).Safe (Planning.approveScript now actor planId payload) [] db := by
  apply safe_require
  intro plan _ _
  split
  · trivial
  · next hstatus =>
    have hrestatus : Restatus plan (plan.approve payload.approver now) :=
      ⟨fun heq => hstatus (.inl heq.symm), PlanStatus.noConfusion, PlanStatus.noConfusion, rfl⟩
    intro db₁ _ h₁ _
    exact safe_of_restatus hrestatus (fun id => ⟨trivial, trivial⟩) (by simp)

theorem startRoundScript_safe (incidentId : Uuid) (payload : ContactStart) :
    (planProtocol K).Safe (Contacts.startRoundScript now actor incidentId payload) [] db := by
  apply safe_require
  intro incident _ _
  apply safe_of_no_plan _ (by simp)
  intro db₁
  dsimp only
  split
  · trivial
  · intro db₂
    dsimp only
    split
    · trivial
    · exact fun db₃ db₄ first => ⟨trivial, fun id => ⟨trivial, trivial⟩⟩

theorem reapprovalScript_safe (incidentId : Uuid) (reason : String) {next : Bool → Transaction K}
    (hnext : ∀ triggered, (next triggered).Writes RowWrite.KeepsPlans)
    (hpending : ∀ write ∈ pending, RowWrite.KeepsPlans write) :
    (planProtocol K).Safe (Planning.reapprovalScript now actor incidentId reason next) pending
      db := by
  intro db₁ h₁
  dsimp only
  split
  · exact safe_of_no_plan (hnext false) hpending
  · next plan _ =>
    split
    · next happroved =>
      have hrestatus : Restatus plan plan.requireReapproval := by
        refine ⟨fun heq => ?_, PlanStatus.noConfusion, PlanStatus.noConfusion, rfl⟩
        rw [happroved] at heq
        cases heq
      intro db₂ _ h₂ _
      exact safe_of_restatus hrestatus (fun _ => ⟨trivial, hnext true⟩) hpending
    · exact safe_of_no_plan (hnext _) hpending

theorem insertReport_safe (task : FieldTask) (payload : ReportCreate K)
    (hpending : ∀ write ∈ pending, RowWrite.KeepsPlans write) :
    (planProtocol K).Safe (Tasks.insertReport now actor task payload) pending db := by
  intro db₁ id h₁ _
  have hfinish : ∀ triggered, (Tasks.finishReport now actor task payload id triggered).Writes
      RowWrite.KeepsPlans := by
    intro triggered
    unfold Tasks.finishReport
    split
    · exact fun _ => ⟨trivial, fun _ => ⟨trivial, trivial⟩⟩
    · exact fun _ => ⟨trivial, trivial⟩
  have hpending' : ∀ write ∈ pending ++ [.insertReport (Tasks.newReport id now actor task payload)],
      RowWrite.KeepsPlans write := by
    intro write hmem
    rcases List.mem_append.1 hmem with hmem | hmem
    · exact hpending write hmem
    · obtain rfl := List.mem_singleton.1 hmem
      trivial
  dsimp only
  split
  · exact reapprovalScript_safe _ _ hfinish hpending'
  · exact safe_of_no_plan (hfinish false) hpending'

theorem submitReportScript_safe (taskId : Uuid) (payload : ReportCreate K) :
    (planProtocol K).Safe (Tasks.submitReportScript now actor taskId payload) [] db := by
  apply safe_require
  intro task _ _
  split
  · exact insertReport_safe task payload (by simp)
  · intro db₁ _ h₁ _
    apply insertReport_safe task payload
    intro write hmem
    obtain rfl := List.mem_singleton.1 hmem
    trivial

theorem planCall_safe (call : PlanCall K) : (planProtocol K).Safe call.script [] db := by
  unfold PlanCall.script
  split
  · exact createScript_safe _ _
  · exact approveScript_safe _ _
  · exact startRoundScript_safe _ _
  · exact submitReportScript_safe _ _

/-- The requests find what earlier ones have left, and none is open. -/
def opened (db : Database K) : World (Database K) (RowWrite K) := ⟨db, [], db.nextId⟩

/-- However the transactions interleave, every committed state has at most one live plan of an
incident exactly if no transaction writes a status too late: when it commits, none of its writes
sets another status of a plan that others have superseded by now. -/
theorem oneLive_iff (h : db.Fresh) (calls : List (Call K)) (actions : List (Action (PlanCall K))) :
    (∀ before after, actions = before ++ after →
      ((planEngine K).run (opened (runCalls db calls)) before).committed.OneLive) ↔
    ∀ before t after pending, actions = before ++ .advance t :: after →
      ((planEngine K).run (opened (runCalls db calls)) before).txns[t]? = some ⟨.commit, pending⟩ →
      NoLateWrite pending ((planEngine K).run (opened (runCalls db calls)) before).committed := by
  have hstart : (planProtocol K).Holds (opened (runCalls db calls)) :=
    .begin (h.sound.run calls).versioned _
  exact hstart.throughout_iff (fun call _ _ => planCall_safe call) actions

end

/-- A plan is drafted, and its approval is the only request that is open. -/
def approval : Action (PlanCall ℚ) :=
  .start ⟨"approver", 20, .approvePlan 2 headsApproval⟩

def revision : Action (PlanCall ℚ) :=
  .start ⟨"operator", 30, .createPlan 1 villagePlan⟩

/-- The approval has read the plan when a revision supersedes it. -/
def lateApproval : List (Action (PlanCall ℚ)) :=
  [approval, .advance 0, revision] ++ List.replicate 9 (.advance 1) ++ List.replicate 3 (.advance 0)

/-- Both versions are live in the end. -/
theorem late_approval_revives : ¬ ∀ before after, lateApproval = before ++ after →
    ((planEngine ℚ).run (opened (runCalls villageDatabase (firstRound.take 1)))
      before).committed.OneLive := by
  intro h
  have hlive := (h lateApproval [] (List.append_nil _).symm).1 1
  revert hlive
  decide

/-- The plan is approved while a revision is under way, which supersedes it then. -/
def revisedMeanwhile : List (Action (PlanCall ℚ)) :=
  revision :: List.replicate 3 (.advance 0) ++ approval :: List.replicate 4 (.advance 1) ++
    List.replicate 6 (.advance 0)

theorem oneLive_iff_revised_meanwhile :
    ((planEngine ℚ).run (opened (runCalls villageDatabase (firstRound.take 1)))
      (revisedMeanwhile.take 9)).committed.plans.map (·.status) = [.approved] ∧
    ((planEngine ℚ).run (opened (runCalls villageDatabase (firstRound.take 1)))
      revisedMeanwhile).committed.plans.map (·.status) = [.superseded, .draft] ∧
    ∀ before after, revisedMeanwhile = before ++ after →
      ((planEngine ℚ).run (opened (runCalls villageDatabase (firstRound.take 1)))
        before).committed.OneLive := by
  refine ⟨by decide, by decide, ?_⟩
  rw [oneLive_iff villageDatabase_fresh]
  have hlive : ∀ k < revisedMeanwhile.length, ∀ row ∈ ((planEngine ℚ).run
      (opened (runCalls villageDatabase (firstRound.take 1)))
      (revisedMeanwhile.take k)).committed.plans, row.status ≠ .superseded := by decide
  intro before t after pending hactions _ loaded object _ _ row hrow _
  have htake : revisedMeanwhile.take before.length = before := by
    rw [hactions, List.take_left]
  have hlength : before.length < revisedMeanwhile.length := by
    rw [hactions, List.length_append, List.length_cons]
    omega
  have hbefore := hlive before.length hlength
  rw [htake] at hbefore
  exact hbefore row hrow

end Salgil
