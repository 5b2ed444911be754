import Salgil.Workflow

namespace Salgil
set_option autoImplicit true

section
variable {K : Type} {db db' : Database K} {call : Call K} {p q : EvacuationPlan} {i : Uuid}

def Database.plansOf (db : Database K) (incidentId : Uuid) : List EvacuationPlan :=
  db.plans.filter (·.incidentId = incidentId)

/-- The plans of each incident are versions 1 to n; all but the last are superseded by the next. -/
structure Database.Versioned (db : Database K) : Prop where
  ids : (db.plans.map (·.id)).Nodup
  versions : ∀ i, (db.plansOf i).map (·.version) = List.range' 1 (db.plansOf i).length
  succeeded : ∀ p ∈ db.plans, ∀ q ∈ db.plans, q.incidentId = p.incidentId →
    q.version = p.version + 1 → p.status = .superseded ∧ p.supersededBy = some q.id
  live : ∀ p ∈ db.plans, p.version = (db.plansOf p.incidentId).length → p.status ≠ .superseded
  unnamed : ∀ p ∈ db.plans, p.status ≠ .superseded → p.supersededBy = none
  unapproved : ∀ p ∈ db.plans, p.status = .draft → p.approvedBy = none ∧ p.approvedAt = none

/-- A plan that may be added as the next version of its incident. -/
structure Database.NextVersion (db : Database K) (new : EvacuationPlan) : Prop where
  fresh : ∀ p ∈ db.plans, p.id ≠ new.id
  version : new.version = (db.plansOf new.incidentId).length + 1
  draft : new.status = .draft
  unnamed : new.supersededBy = none
  unapproved : new.approvedBy = none ∧ new.approvedAt = none

theorem Database.mem_plansOf : p ∈ db.plansOf i ↔ p ∈ db.plans ∧ p.incidentId = i := by
  simp [plansOf]

theorem Database.plansOf_map {write : EvacuationPlan → EvacuationPlan}
    (hplans : db'.plans = db.plans.map write) (hkey : ∀ p, (write p).incidentId = p.incidentId)
    (i : Uuid) : db'.plansOf i = (db.plansOf i).map write := by
  simp only [plansOf, hplans, List.filter_map]
  congr 2
  funext p
  simp [hkey]

namespace Database.Versioned

theorem eq_of_id (h : db.Versioned) (hp : p ∈ db.plans) (hq : q ∈ db.plans) (hid : p.id = q.id) :
    p = q :=
  List.inj_on_of_nodup_map h.ids hp hq hid

theorem version_mem (h : db.Versioned) (hp : p ∈ db.plans) :
    1 ≤ p.version ∧ p.version ≤ (db.plansOf p.incidentId).length := by
  have hmem : p.version ∈ (db.plansOf p.incidentId).map (·.version) :=
    List.mem_map_of_mem (mem_plansOf.2 ⟨hp, rfl⟩)
  rw [h.versions, List.mem_range'_1] at hmem
  omega

theorem exists_version (h : db.Versioned) {v : ℕ} (hv : 1 ≤ v) (hv' : v ≤ (db.plansOf i).length) :
    ∃ q ∈ db.plans, q.incidentId = i ∧ q.version = v := by
  have hmem : v ∈ (db.plansOf i).map (·.version) := by
    rw [h.versions, List.mem_range'_1]
    omega
  obtain ⟨q, hq, rfl⟩ := List.mem_map.1 hmem
  obtain ⟨hq, hi⟩ := mem_plansOf.1 hq
  exact ⟨q, hq, hi, rfl⟩

theorem eq_of_version (h : db.Versioned) (hp : p ∈ db.plans) (hq : q ∈ db.plans)
    (hi : p.incidentId = q.incidentId) (hv : p.version = q.version) : p = q := by
  have hnodup : ((db.plansOf q.incidentId).map (·.version)).Nodup := by
    rw [h.versions]
    exact List.nodup_range'
  exact List.inj_on_of_nodup_map hnodup (mem_plansOf.2 ⟨hp, hi⟩) (mem_plansOf.2 ⟨hq, rfl⟩) hv

theorem last_of_live (h : db.Versioned) (hp : p ∈ db.plans) (hlive : p.status ≠ .superseded) :
    p.version = (db.plansOf p.incidentId).length := by
  by_contra hne
  obtain ⟨hone, hle⟩ := h.version_mem hp
  obtain ⟨q, hq, hi, hv⟩ := h.exists_version (v := p.version + 1) (i := p.incidentId) (by omega)
    (by omega)
  exact hlive (h.succeeded p hp q hq hi hv).1

theorem currentPlan_eq_some (h : db.Versioned) : Planning.currentPlan db i = some p ↔
    p ∈ db.plans ∧ p.incidentId = i ∧ p.version = (db.plansOf i).length := by
  have hcurrent : ∀ {q}, Planning.currentPlan db i = some q →
      q ∈ db.plans ∧ q.incidentId = i ∧ q.version = (db.plansOf i).length := by
    intro q hq
    have hmem := List.argmax_mem (Option.mem_def.2 hq)
    simp only [List.mem_filter, ne_eq, decide_eq_true_eq] at hmem
    obtain ⟨hmem, rfl, hlive⟩ := hmem
    exact ⟨hmem, rfl, h.last_of_live hmem hlive⟩
  refine ⟨hcurrent, ?_⟩
  rintro ⟨hp, rfl, hlast⟩
  cases hq : Planning.currentPlan db p.incidentId with
  | none =>
    have hnil := List.argmax_eq_none.1 hq
    have hmem : p ∈ db.plans.filter fun plan =>
        plan.incidentId = p.incidentId ∧ plan.status ≠ .superseded := by
      simp [hp, h.live p hp hlast]
    rw [hnil] at hmem
    cases hmem
  | some q =>
    obtain ⟨hmem, hi, hv⟩ := hcurrent hq
    rw [h.eq_of_version hmem hp hi (hv.trans hlast.symm)]

theorem latestVersion_eq (h : db.Versioned) (i : Uuid) :
    Planning.latestVersion db i = (db.plansOf i).length := by
  have hmax : ∀ n, (List.range' 1 n).foldl max 0 = n := by
    intro n
    induction n with
    | zero => rfl
    | succ n ih => simp [List.range'_1_concat, ih, Nat.add_comm]
  rw [Planning.latestVersion]
  exact (congrArg (List.foldl max 0) (h.versions i)).trans (hmax _)

theorem rewrite (h : db.Versioned) {write : EvacuationPlan → EvacuationPlan}
    (hplans : db'.plans = db.plans.map write)
    (hkey : ∀ p, (write p).id = p.id ∧ (write p).incidentId = p.incidentId ∧
      (write p).version = p.version)
    (hstays : ∀ p ∈ db.plans, write p = p ∨ p.status ≠ .superseded ∧
      (write p).status ≠ .superseded ∧ (write p).status ≠ .draft ∧
      (write p).supersededBy = p.supersededBy) : db'.Versioned := by
  have hof := plansOf_map hplans fun p => (hkey p).2.1
  have hmem : ∀ {p'}, p' ∈ db'.plans ↔ ∃ p ∈ db.plans, write p = p' := by
    intro p'
    rw [hplans, List.mem_map]
  refine ⟨?_, fun i => ?_, ?_, ?_, ?_, ?_⟩
  · rw [hplans, List.map_map]
    simpa [Function.comp_def, hkey] using h.ids
  · rw [hof, List.map_map, List.length_map]
    simpa [Function.comp_def, hkey] using h.versions i
  · intro p' hp' q' hq' hi hv
    obtain ⟨p, hp, rfl⟩ := hmem.1 hp'
    obtain ⟨q, hq, rfl⟩ := hmem.1 hq'
    rw [(hkey p).2.1, (hkey q).2.1] at hi
    rw [(hkey p).2.2, (hkey q).2.2] at hv
    obtain ⟨hstatus, hby⟩ := h.succeeded p hp q hq hi hv
    rcases hstays p hp with heq | ⟨hlive, -⟩
    · rw [heq, (hkey q).1]
      exact ⟨hstatus, hby⟩
    · exact absurd hstatus hlive
  · intro p' hp' hlast
    obtain ⟨p, hp, rfl⟩ := hmem.1 hp'
    rw [(hkey p).2.1, (hkey p).2.2, hof, List.length_map] at hlast
    rcases hstays p hp with heq | ⟨-, hlive, -⟩
    · rw [heq]
      exact h.live p hp hlast
    · exact hlive
  · intro p' hp' hlive
    obtain ⟨p, hp, rfl⟩ := hmem.1 hp'
    rcases hstays p hp with heq | ⟨hlive, -, -, hby⟩
    · rw [heq] at hlive ⊢
      exact h.unnamed p hp hlive
    · exact hby.trans (h.unnamed p hp hlive)
  · intro p' hp' hdraft
    obtain ⟨p, hp, rfl⟩ := hmem.1 hp'
    rcases hstays p hp with heq | ⟨-, -, hnot, -⟩
    · rw [heq] at hdraft ⊢
      exact h.unapproved p hp hdraft
    · exact absurd hdraft hnot

theorem updatePlan (h : db.Versioned) (hp : p ∈ db.plans)
    {write : EvacuationPlan → EvacuationPlan}
    (hplans : db'.plans = (db.updatePlan p.id write).plans)
    (hkey : ∀ p, (write p).id = p.id ∧ (write p).incidentId = p.incidentId ∧
      (write p).version = p.version)
    (hlive : p.status ≠ .superseded) (hlive' : (write p).status ≠ .superseded)
    (hdraft : (write p).status ≠ .draft) (hby : (write p).supersededBy = p.supersededBy) :
    db'.Versioned := by
  apply h.rewrite hplans
  · intro row
    split
    · exact hkey row
    · exact ⟨rfl, rfl, rfl⟩
  · intro row hrow
    by_cases hid : row.id = p.id
    · obtain rfl := h.eq_of_id hrow hp hid
      simp [hlive, hlive', hdraft, hby]
    · simp [hid]

section Draft
variable {new : EvacuationPlan} {id : Uuid}

theorem superseding_eq (h : db.Versioned) (hp : p ∈ db.plans) (id : Uuid) :
    p.incidentId = i ∧ p.version = (db.plansOf i).length ∧
        superseding db i id p = p.supersede id ∨
      ¬ (p.incidentId = i ∧ p.version = (db.plansOf i).length) ∧ superseding db i id p = p := by
  by_cases hlast : p.incidentId = i ∧ p.version = (db.plansOf i).length
  · refine .inl ⟨hlast.1, hlast.2, ?_⟩
    simp [superseding, h.currentPlan_eq_some.2 ⟨hp, hlast⟩]
  · refine .inr ⟨hlast, ?_⟩
    unfold superseding
    split
    · next hany =>
      obtain ⟨q, hq, hid⟩ := (Option.any_eq_true _ _).1 hany
      obtain ⟨hmem, hi, hv⟩ := h.currentPlan_eq_some.1 hq
      obtain rfl := h.eq_of_id hmem hp (by simpa using hid)
      exact absurd ⟨hi, hv⟩ hlast
    · rfl

theorem plans_draft (h : db.Versioned) (hfresh : ∀ p ∈ db.plans, p.id ≠ new.id)
    (hplans : db'.plans = (db.plans ++ [new]).map (superseding db i id)) :
    db'.plans = db.plans.map (superseding db i id) ++ [new] := by
  have hnew : superseding db i id new = new := by
    unfold superseding
    split
    · next hany =>
      obtain ⟨q, hq, hid⟩ := (Option.any_eq_true _ _).1 hany
      exact absurd (of_decide_eq_true hid) (hfresh q (h.currentPlan_eq_some.1 hq).1)
    · rfl
  rw [hplans, List.map_append, List.map_singleton, hnew]

theorem plansOf_draft (hplans : db'.plans = db.plans.map (superseding db i id) ++ [new])
    (j : Uuid) : db'.plansOf j = (db.plansOf j).map (superseding db i id) ++
      if new.incidentId = j then [new] else [] := by
  have hold : { db with plans := db.plans.map (superseding db i id) }.plansOf j =
      (db.plansOf j).map (superseding db i id) :=
    plansOf_map rfl (fun p => (superseding_key db i id p).2.1) j
  rw [← hold, plansOf, hplans, List.filter_append, plansOf]
  congr 1
  by_cases hj : new.incidentId = j <;> simp [hj]

theorem mem_draft (hplans : db'.plans = db.plans.map (superseding db i id) ++ [new]) :
    p ∈ db'.plans ↔ (∃ q ∈ db.plans, superseding db i id q = p) ∨ p = new := by
  rw [hplans, List.mem_append, List.mem_map, List.mem_singleton]

theorem superseding_cases (h : db.Versioned) (hp : p ∈ db.plans) (i id : Uuid) :
    superseding db i id p = p.supersede id ∨ superseding db i id p = p :=
  (h.superseding_eq hp id).imp (·.2.2) (·.2)

theorem ids_draft (h : db.Versioned) (hnew : db.NextVersion new)
    (hplans : db'.plans = db.plans.map (superseding db new.incidentId new.id) ++ [new]) :
    (db'.plans.map (·.id)).Nodup := by
  have hids : db.plans.map ((·.id) ∘ superseding db new.incidentId new.id) =
      db.plans.map (·.id) :=
    List.map_congr_left fun p _ => (superseding_key db new.incidentId new.id p).1
  rw [hplans, List.map_append, List.map_map, List.map_singleton, hids, List.nodup_append]
  refine ⟨h.ids, List.nodup_singleton _, ?_⟩
  intro id hid id' hid' heq
  obtain ⟨p, hp, rfl⟩ := List.mem_map.1 hid
  rw [List.mem_singleton.1 hid'] at heq
  exact hnew.fresh p hp heq

theorem versions_draft (h : db.Versioned) (hnew : db.NextVersion new)
    (hplans : db'.plans = db.plans.map (superseding db new.incidentId new.id) ++ [new])
    (i : Uuid) : (db'.plansOf i).map (·.version) = List.range' 1 (db'.plansOf i).length := by
  have hversion := hnew.version
  have hold : ((db.plansOf i).map (superseding db new.incidentId new.id)).map (·.version) =
      List.range' 1 (db.plansOf i).length := by
    rw [List.map_map, ← h.versions i]
    exact List.map_congr_left fun p _ => (superseding_key db new.incidentId new.id p).2.2
  rw [plansOf_draft hplans, List.map_append, hold]
  split
  · next hi =>
    subst hi
    simp only [List.map_cons, List.map_nil, hversion, List.length_append, List.length_map,
      List.length_cons, List.length_nil, zero_add, List.range'_1_concat, Nat.add_comm 1]
  · simp

theorem succeeded_draft (h : db.Versioned) (hnew : db.NextVersion new)
    (hplans : db'.plans = db.plans.map (superseding db new.incidentId new.id) ++ [new]) :
    ∀ p ∈ db'.plans, ∀ q ∈ db'.plans, q.incidentId = p.incidentId →
      q.version = p.version + 1 → p.status = .superseded ∧ p.supersededBy = some q.id := by
  intro p' hp' q' hq' hi hv
  have hversion := hnew.version
  have hkey := superseding_key db new.incidentId new.id
  rcases (mem_draft hplans).1 hp' with ⟨p, hp, rfl⟩ | rfl
  · rw [(hkey p).2.1] at hi
    rw [(hkey p).2.2] at hv
    rcases (mem_draft hplans).1 hq' with ⟨q, hq, rfl⟩ | rfl
    · -- between old plans nothing changes: the earlier one is not the last
      rw [(hkey q).2.1] at hi
      rw [(hkey q).2.2] at hv
      have hle := (h.version_mem hq).2
      rcases h.superseding_eq (i := new.incidentId) hp new.id with ⟨hpi, hlast, -⟩ | ⟨-, heq⟩
      · rw [hi, hpi] at hle
        omega
      · rw [heq, (hkey q).1]
        exact h.succeeded p hp q hq hi hv
    · -- the last plan gives way to the new one
      rcases h.superseding_eq (i := q'.incidentId) hp q'.id with ⟨-, -, heq⟩ | ⟨hnot, -⟩
      · rw [heq]
        exact ⟨rfl, rfl⟩
      · exact absurd ⟨hi.symm, by omega⟩ hnot
  · rcases (mem_draft hplans).1 hq' with ⟨q, hq, rfl⟩ | rfl
    · rw [(hkey q).2.1] at hi
      rw [(hkey q).2.2] at hv
      have hle := (h.version_mem hq).2
      rw [hi] at hle
      omega
    · omega

theorem live_draft (h : db.Versioned) (hnew : db.NextVersion new)
    (hplans : db'.plans = db.plans.map (superseding db new.incidentId new.id) ++ [new]) :
    ∀ p ∈ db'.plans, p.version = (db'.plansOf p.incidentId).length → p.status ≠ .superseded := by
  intro p' hp' hlast
  have hlength : ∀ i, (db'.plansOf i).length =
      (db.plansOf i).length + if new.incidentId = i then 1 else 0 := by
    intro i
    rw [plansOf_draft hplans]
    split <;> simp
  rw [hlength] at hlast
  rcases (mem_draft hplans).1 hp' with ⟨p, hp, rfl⟩ | rfl
  · obtain ⟨-, hincident, hversion⟩ := superseding_key db new.incidentId new.id p
    rw [hincident, hversion] at hlast
    have hle := (h.version_mem hp).2
    split at hlast
    · omega
    · next hi =>
      rcases h.superseding_eq (i := new.incidentId) hp new.id with ⟨hpi, -⟩ | ⟨-, heq⟩
      · exact absurd hpi.symm hi
      · rw [heq]
        exact h.live p hp hlast
  · rw [hnew.draft]
    exact PlanStatus.noConfusion

theorem draft (h : db.Versioned) (hnew : db.NextVersion new)
    (hplans : db'.plans = (db.plans ++ [new]).map (superseding db new.incidentId new.id)) :
    db'.Versioned := by
  have hplans := h.plans_draft hnew.fresh hplans
  refine ⟨h.ids_draft hnew hplans, h.versions_draft hnew hplans, h.succeeded_draft hnew hplans,
    h.live_draft hnew hplans, ?_, ?_⟩
  · intro p' hp' hlive
    rcases (mem_draft hplans).1 hp' with ⟨p, hp, rfl⟩ | rfl
    · rcases h.superseding_cases hp new.incidentId new.id with heq | heq
      · rw [heq] at hlive
        exact absurd rfl hlive
      · rw [heq] at hlive ⊢
        exact h.unnamed p hp hlive
    · exact hnew.unnamed
  · intro p' hp' hdraft
    rcases (mem_draft hplans).1 hp' with ⟨p, hp, rfl⟩ | rfl
    · rcases h.superseding_cases hp new.incidentId new.id with heq | heq
      · rw [heq] at hdraft
        cases hdraft
      · rw [heq] at hdraft ⊢
        exact h.unapproved p hp hdraft
    · exact hnew.unapproved

end Draft

theorem of_plans_eq (h : db.Versioned) (hplans : db'.plans = db.plans) : db'.Versioned := by
  have hmap : db'.plans = db.plans.map id := by rw [hplans, List.map_id]
  exact h.rewrite hmap (fun _ => ⟨rfl, rfl, rfl⟩) fun _ _ => .inl rfl

theorem nextVersion (h : db.Versioned) (hlt : ∀ p ∈ db.plans, p.id < db.nextId) (actor : String)
    (incident : Incident) (payload : PlanCreate) :
    db.NextVersion (Planning.draft db actor incident payload) where
  fresh p hp := (hlt p hp).ne
  version := by
    rw [Planning.draft, h.latestVersion_eq]
  draft := rfl
  unnamed := rfl
  unapproved := ⟨rfl, rfl⟩

theorem effect (h : db.Versioned) (hlt : ∀ p ∈ db.plans, p.id < db.nextId) {request : Request K}
    (heffect : Effect db request db') : db'.Versioned := by
  cases heffect with
  | drafted actor incident payload _ _ hplans =>
    exact h.draft (h.nextVersion hlt actor incident payload) hplans
  | approved plan payload now _ hget _ hlive hplans =>
    have hmem := List.mem_of_find?_eq_some (Planning.get_eq_ok.1 hget)
    exact h.updatePlan hmem hplans (fun _ => ⟨rfl, rfl, rfl⟩) hlive PlanStatus.noConfusion
      PlanStatus.noConfusion rfl
  | invalidated incidentId plan hcurrent happroved hplans =>
    have hmem := (h.currentPlan_eq_some.1 hcurrent).1
    have hlive : plan.status ≠ .superseded := by
      rw [happroved]
      exact PlanStatus.noConfusion
    exact h.updatePlan hmem hplans (fun _ => ⟨rfl, rfl, rfl⟩) hlive PlanStatus.noConfusion
      PlanStatus.noConfusion rfl
  | contacted _ _ _ _ _ _ hplans => exact h.of_plans_eq hplans
  | recorded _ _ _ hplans => exact h.of_plans_eq hplans
  | unrelated hplans => exact h.of_plans_eq hplans

end Database.Versioned

/-- The plans are versioned, the items of a plan name different communities, and each contact
cites an item of a plan that no other contact cites. -/
structure Database.Sound (db : Database K) : Prop where
  versioned : db.Versioned
  plan_lt : ∀ p ∈ db.plans, p.id < db.nextId
  item_lt : ∀ item ∈ db.items, item.planId < db.nextId
  distinct : ∀ planId, ((db.planItems planId).map (·.communityId)).Nodup
  contact_lt : ∀ row ∈ db.contacts, row.id < db.nextId
  cites : ∀ row ∈ db.contacts, ∃ p ∈ db.plans, row.planId = some p.id ∧
    row.incidentId = p.incidentId ∧ ∃ item ∈ db.planItems p.id, item.communityId = row.communityId
  once : (db.contacts.map fun row => (row.planId, row.communityId)).Nodup

theorem Database.Fresh.sound (h : db.Fresh) : db.Sound where
  versioned := by
    constructor <;> simp [h.plans, plansOf]
  plan_lt := by simp [h.plans]
  item_lt := by simp [h.items]
  distinct := by simp [planItems, h.items]
  contact_lt := by simp [h.contacts]
  cites := by simp [h.contacts]
  once := by simp [h.contacts]

theorem Database.planItems_congr (hitems : db'.items = db.items) (planId : Uuid) :
    db'.planItems planId = db.planItems planId := by
  rw [planItems, planItems, hitems]

theorem map_itemRows (items : List PlanItemIn) (m n : ℕ) :
    ((items.mapIdx fun index item => item.row (m + index) n index).map (·.orderIndex) =
      List.range items.length) ∧
    (items.mapIdx fun index item => item.row (m + index) n index).map (·.communityId) =
      items.map (·.communityId) := by
  constructor <;> apply List.ext_getElem <;> simp [PlanItemIn.row]

theorem planItems_draft {payload : PlanCreate} {m n : ℕ} (hne : ∀ item ∈ db.items, item.planId ≠ n)
    (hitems : db'.items = db.items ++ payload.items.mapIdx fun index item =>
      item.row (m + index) n index) (planId : Uuid) :
    db'.planItems planId = if planId = n then
      payload.items.mapIdx fun index item => item.row (m + index) n index
    else db.planItems planId := by
  rw [Database.planItems, hitems, List.filter_append]
  generalize hrows : (payload.items.mapIdx fun index item => item.row (m + index) n index) = rows
  have hplan : ∀ item ∈ rows, item.planId = n := by
    intro item hitem
    rw [← hrows] at hitem
    obtain ⟨i, hi, rfl⟩ := List.mem_mapIdx.1 hitem
    rfl
  split
  · next hid =>
    subst hid
    have hold : db.items.filter (·.planId = planId) = [] := by
      apply List.filter_eq_nil_iff.2
      intro item hitem
      simpa using hne item hitem
    have hnew : rows.filter (·.planId = planId) = rows := by
      apply List.filter_eq_self.2
      intro item hitem
      simpa using hplan item hitem
    rw [hold, hnew, List.nil_append]
    apply List.Pairwise.insertionSort_eq
    rw [← List.pairwise_map (f := PlanItem.orderIndex) (R := (· ≤ ·)), ← hrows,
      (map_itemRows _ _ _).1]
    exact List.pairwise_lt_range.imp le_of_lt
  · next hid =>
    have hnew : rows.filter (·.planId = planId) = [] := by
      apply List.filter_eq_nil_iff.2
      intro item hitem
      simpa [hplan item hitem] using Ne.symm hid
    rw [hnew, List.append_nil]
    rfl

theorem map_attempts (incident : Incident) (plan : EvacuationPlan) (payload : ContactStart)
    (items : List PlanItem) (n : ℕ) :
    (items.mapIdx fun index item => Contacts.attempt db incident plan payload (n + index) item).map
      (fun row => (row.planId, row.communityId)) =
    items.map fun item => (some plan.id, item.communityId) := by
  apply List.ext_getElem <;> simp [Contacts.attempt]

/-- A round doubles no contact, where its items name different communities without one. -/
theorem once_attempts {incident : Incident} {plan : EvacuationPlan} {payload : ContactStart}
    {items : List PlanItem} {n : ℕ} {db₀ : Database K}
    (honce : (db.contacts.map fun row => (row.planId, row.communityId)).Nodup)
    (hdistinct : (items.map (·.communityId)).Nodup)
    (hfresh : ∀ item ∈ items, ∀ row ∈ db.contacts,
      (row.planId, row.communityId) ≠ (some plan.id, item.communityId))
    (hcontacts : db'.contacts = db.contacts ++ items.mapIdx fun index item =>
      Contacts.attempt db₀ incident plan payload (n + index) item) :
    (db'.contacts.map fun row => (row.planId, row.communityId)).Nodup := by
  rw [hcontacts, List.map_append, map_attempts, List.nodup_append]
  refine ⟨honce, ?_, ?_⟩
  · have hpairs : (items.map fun item => (some plan.id, item.communityId)) =
        (items.map (·.communityId)).map fun c => (some plan.id, c) := by
      rw [List.map_map]
      rfl
    rw [hpairs]
    exact hdistinct.map fun _ _ heq => (Prod.mk.inj heq).2
  · intro x hx y hy heq
    obtain ⟨row, hrow, rfl⟩ := List.mem_map.1 hx
    obtain ⟨item, hitem, rfl⟩ := List.mem_map.1 hy
    exact hfresh item hitem row hrow heq

namespace Database.Sound

theorem item_ne (h : db.Sound) : ∀ item ∈ db.items, item.planId ≠ db.nextId :=
  fun item hitem => (h.item_lt item hitem).ne

theorem keep (h : db.Sound) (hversioned : db'.Versioned) {write : EvacuationPlan → EvacuationPlan}
    (hplans : db'.plans = db.plans.map write)
    (hkey : ∀ p, (write p).id = p.id ∧ (write p).incidentId = p.incidentId)
    (hitems : db'.items = db.items) (hcontacts : db'.contacts = db.contacts)
    (hnext : db.nextId ≤ db'.nextId) : db'.Sound where
  versioned := hversioned
  plan_lt p' hp' := by
    obtain ⟨p, hp, rfl⟩ := List.mem_map.1 (hplans ▸ hp')
    rw [(hkey p).1]
    exact (h.plan_lt p hp).trans_le hnext
  item_lt item hitem := (h.item_lt item (hitems ▸ hitem)).trans_le hnext
  distinct planId := by
    rw [planItems_congr hitems]
    exact h.distinct planId
  contact_lt row hrow := (h.contact_lt row (hcontacts ▸ hrow)).trans_le hnext
  cites row hrow := by
    obtain ⟨p, hp, hplan, hincident, item, hitem, hcommunity⟩ := h.cites row (hcontacts ▸ hrow)
    obtain ⟨hid, hi⟩ := hkey p
    refine ⟨write p, ?_, hid.symm ▸ hplan, hi.symm ▸ hincident, item, ?_, hcommunity⟩
    · rw [hplans]
      exact List.mem_map_of_mem hp
    · rwa [planItems_congr hitems, hid]
  once := by
    rw [hcontacts]
    exact h.once

theorem updatePlan (h : db.Sound) (hversioned : db'.Versioned) {id : Uuid}
    {write : EvacuationPlan → EvacuationPlan} (hplans : db'.plans = (db.updatePlan id write).plans)
    (hkey : ∀ p, (write p).id = p.id ∧ (write p).incidentId = p.incidentId)
    (hitems : db'.items = db.items) (hcontacts : db'.contacts = db.contacts)
    (hnext : db.nextId ≤ db'.nextId) : db'.Sound := by
  apply h.keep hversioned hplans _ hitems hcontacts hnext
  intro p
  split
  · exact hkey p
  · exact ⟨rfl, rfl⟩

theorem draft (h : db.Sound) {actor : String} {incident : Incident} {payload : PlanCreate}
    (hnodup : (payload.items.map (·.communityId)).Nodup)
    (hplans : db'.plans = (db.plans ++ [Planning.draft db actor incident payload]).map
      (superseding db incident.id db.nextId))
    (hitems : db'.items = db.items ++ payload.items.mapIdx (fun index item =>
      item.row (db.nextId + 1 + index) db.nextId index))
    (hcontacts : db'.contacts = db.contacts) (hnext : db.nextId < db'.nextId) : db'.Sound := by
  have hnew := h.versioned.nextVersion h.plan_lt actor incident payload
  have hmem := h.versioned.plans_draft hnew.fresh hplans
  refine ⟨h.versioned.draft hnew hplans, ?_, ?_, ?_, ?_, ?_, ?_⟩
  · intro p' hp'
    rw [hmem, List.mem_append, List.mem_map, List.mem_singleton] at hp'
    rcases hp' with ⟨p, hp, rfl⟩ | rfl
    · rw [(superseding_key db incident.id db.nextId p).1]
      exact (h.plan_lt p hp).trans hnext
    · exact hnext
  · intro item hitem
    rw [hitems, List.mem_append] at hitem
    rcases hitem with hitem | hitem
    · exact (h.item_lt item hitem).trans hnext
    · obtain ⟨i, hi, rfl⟩ := List.mem_mapIdx.1 hitem
      exact hnext
  · intro planId
    rw [planItems_draft h.item_ne hitems]
    split
    · rw [(map_itemRows _ _ _).2]
      exact hnodup
    · exact h.distinct planId
  · intro row hrow
    exact (h.contact_lt row (hcontacts ▸ hrow)).trans hnext
  · intro row hrow
    obtain ⟨p, hp, hplan, hincident, item, hitem, hcommunity⟩ := h.cites row (hcontacts ▸ hrow)
    obtain ⟨hid, hi, -⟩ := superseding_key db incident.id db.nextId p
    refine ⟨superseding db incident.id db.nextId p, ?_, hid.symm ▸ hplan, hi.symm ▸ hincident,
      item, ?_, hcommunity⟩
    · rw [hmem]
      exact List.mem_append_left _ (List.mem_map_of_mem hp)
    · rwa [planItems_draft h.item_ne hitems, hid, if_neg (h.plan_lt p hp).ne]
  · rw [hcontacts]
    exact h.once

theorem round (h : db.Sound) {incident : Incident} {payload : ContactStart} {plan : EvacuationPlan}
    (hcurrent : Planning.currentPlan db incident.id = some plan)
    (hplans : db'.plans = db.plans) (hitems : db'.items = db.items)
    (hcontacts : db'.contacts = db.contacts ++ ((db.planItems plan.id).filter (·.communityId ∉
      (db.contacts.filter fun row => row.incidentId = incident.id ∧
        row.planId = some plan.id).map (·.communityId))).mapIdx (fun index item =>
      Contacts.attempt db incident plan payload (db.nextId + index) item))
    (hnext : db.nextId + (db'.contacts.length - db.contacts.length) ≤ db'.nextId) :
    db'.Sound := by
  obtain ⟨hplan, hincident, -⟩ := h.versioned.currentPlan_eq_some.1 hcurrent
  have hle : db.nextId ≤ db'.nextId := (Nat.le_add_right _ _).trans hnext
  generalize hcreated : (db.planItems plan.id).filter (·.communityId ∉
    (db.contacts.filter fun row => row.incidentId = incident.id ∧
      row.planId = some plan.id).map (·.communityId)) = created at hcontacts
  have hfresh : ∀ item ∈ created, item ∈ db.planItems plan.id ∧
      ∀ row ∈ db.contacts, row.planId = some plan.id → row.communityId ≠ item.communityId := by
    intro item hitem
    rw [← hcreated, List.mem_filter, decide_eq_true_eq] at hitem
    refine ⟨hitem.1, fun row hrow hplanId hcommunity => hitem.2 ?_⟩
    -- a contact that cites the plan belongs to the plan's incident
    obtain ⟨p, hp, hid, hi, -⟩ := h.cites row hrow
    obtain rfl := h.versioned.eq_of_id hp hplan (Option.some.inj (hid.symm.trans hplanId))
    refine List.mem_map.2 ⟨row, ?_, hcommunity⟩
    simp [hrow, hplanId, hi, hincident]
  refine ⟨h.versioned.of_plans_eq hplans, ?_, ?_, ?_, ?_, ?_, ?_⟩
  · intro p hp
    exact (h.plan_lt p (hplans ▸ hp)).trans_le hle
  · intro item hitem
    exact (h.item_lt item (hitems ▸ hitem)).trans_le hle
  · intro planId
    rw [planItems_congr hitems]
    exact h.distinct planId
  · intro row hrow
    rw [hcontacts, List.mem_append] at hrow
    rcases hrow with hrow | hrow
    · exact (h.contact_lt row hrow).trans_le hle
    · obtain ⟨i, hi, rfl⟩ := List.mem_mapIdx.1 hrow
      rw [hcontacts, List.length_append, List.length_mapIdx, Nat.add_sub_cancel_left] at hnext
      exact (Nat.add_lt_add_left hi _).trans_le hnext
  · intro row hrow
    rw [hcontacts, List.mem_append] at hrow
    rcases hrow with hrow | hrow
    · obtain ⟨p, hp, hcite⟩ := h.cites row hrow
      rw [← planItems_congr hitems] at hcite
      exact ⟨p, hplans ▸ hp, hcite⟩
    · obtain ⟨i, hi, rfl⟩ := List.mem_mapIdx.1 hrow
      refine ⟨plan, hplans ▸ hplan, rfl, hincident.symm, created[i], ?_, rfl⟩
      rw [planItems_congr hitems]
      exact (hfresh _ (List.getElem_mem hi)).1
  · have hdistinct : (created.map (·.communityId)).Nodup := by
      rw [← hcreated]
      exact (h.distinct plan.id).sublist (List.filter_sublist.map _)
    refine once_attempts h.once hdistinct (fun item hitem row hrow heq => ?_) hcontacts
    obtain ⟨hplanId, hcommunity⟩ := Prod.mk.inj heq
    exact (hfresh item hitem).2 row hrow hplanId hcommunity

theorem record (h : db.Sound) {id : Uuid} {write : ContactAttempt → ContactAttempt}
    (hwrite : ∀ row, (write row).id = row.id ∧ (write row).incidentId = row.incidentId ∧
      (write row).planId = row.planId ∧ (write row).communityId = row.communityId)
    (hplans : db'.plans = db.plans) (hitems : db'.items = db.items)
    (hcontacts : db'.contacts = (db.updateContact id write).contacts)
    (hnext : db.nextId ≤ db'.nextId) : db'.Sound := by
  generalize hwrite' : (fun row : ContactAttempt => if row.id = id then write row else row) = write'
  have hkey : ∀ row, (write' row).id = row.id ∧ (write' row).incidentId = row.incidentId ∧
      (write' row).planId = row.planId ∧ (write' row).communityId = row.communityId := by
    intro row
    rw [← hwrite']
    dsimp only
    split
    · exact hwrite row
    · exact ⟨rfl, rfl, rfl, rfl⟩
  rw [Database.updateContact, hwrite'] at hcontacts
  refine ⟨h.versioned.of_plans_eq hplans, ?_, ?_, ?_, ?_, ?_, ?_⟩
  · intro p hp
    exact (h.plan_lt p (hplans ▸ hp)).trans_le hnext
  · intro item hitem
    exact (h.item_lt item (hitems ▸ hitem)).trans_le hnext
  · intro planId
    rw [planItems_congr hitems]
    exact h.distinct planId
  · intro row' hrow'
    obtain ⟨row, hrow, rfl⟩ := List.mem_map.1 (hcontacts ▸ hrow')
    rw [(hkey row).1]
    exact (h.contact_lt row hrow).trans_le hnext
  · intro row' hrow'
    obtain ⟨row, hrow, rfl⟩ := List.mem_map.1 (hcontacts ▸ hrow')
    obtain ⟨-, hincident, hplanId, hcommunity⟩ := hkey row
    obtain ⟨p, hp, hcite⟩ := h.cites row hrow
    rw [← planItems_congr hitems] at hcite
    rw [hincident, hplanId, hcommunity]
    exact ⟨p, hplans ▸ hp, hcite⟩
  · have hkeys : (db'.contacts.map fun row => (row.planId, row.communityId)) =
        db.contacts.map fun row => (row.planId, row.communityId) := by
      rw [hcontacts, List.map_map]
      apply List.map_congr_left
      intro row _
      simp [hkey]
    rw [hkeys]
    exact h.once

theorem effect (h : db.Sound) {request : Request K} (heffect : Effect db request db') :
    db'.Sound := by
  have hversioned := h.versioned.effect h.plan_lt heffect
  cases heffect with
  | drafted actor incident payload _ hnodup hplans hitems hcontacts hnext =>
    exact h.draft hnodup hplans hitems hcontacts hnext
  | approved plan payload now _ hget _ hlive hplans hitems hcontacts hnext =>
    exact h.updatePlan hversioned hplans (fun _ => ⟨rfl, rfl⟩) hitems hcontacts hnext
  | invalidated incidentId plan hcurrent happroved hplans hitems hcontacts hnext =>
    exact h.updatePlan hversioned hplans (fun _ => ⟨rfl, rfl⟩) hitems hcontacts hnext
  | contacted incident payload plan _ hcurrent _ hplans hitems hcontacts hnext =>
    exact h.round hcurrent hplans hitems hcontacts hnext
  | recorded id write hwrite hplans hitems hcontacts hnext =>
    exact h.record hwrite hplans hitems hcontacts hnext
  | unrelated hplans hitems hcontacts hnext =>
    exact h.keep hversioned (hplans.trans (List.map_id _).symm) (fun _ => ⟨rfl, rfl⟩) hitems
      hcontacts hnext

end Database.Sound

end

end Salgil
