import Salgil.WorkflowHistory

namespace Salgil
set_option autoImplicit true

section
variable {K : Type} {db db' : Database K} {calls before after : List (Call K)} {call : Call K}
variable {p q : EvacuationPlan} {id : Uuid}

/-- The documented transitions of a plan; what supersedes it is a new version. -/
inductive Transition (db db' : Database K) (p q : EvacuationPlan) : Prop where
  | stay : q.status = p.status → Transition db db' p q
  | approve : p.status = .draft → q.status = .approved → Transition db db' p q
  | invalidate : p.status = .approved → q.status = .reapprovalRequired → Transition db db' p q
  | supersede {r : EvacuationPlan} : p.status ≠ .superseded → q.status = .superseded →
      r ∈ db'.plans → (∀ s ∈ db.plans, s.id ≠ r.id) → r.incidentId = p.incidentId →
      p.version < r.version → q.supersededBy = some r.id → Transition db db' p q

/-- An approval that is set stays as it is. -/
def SameApproval (p q : EvacuationPlan) : Prop :=
  (∀ approver ∈ p.approvedBy, q.approvedBy = some approver) ∧
    ∀ time ∈ p.approvedAt, q.approvedAt = some time

/-- In a run the plans only take the documented transitions, and approvals are never changed. -/
def HistoryKept (db : Database K) (calls : List (Call K)) : Prop :=
  (∀ before call after, calls = before ++ call :: after →
    ∀ id p, Planning.get (runCalls db before) id = .ok p →
      ∃ q, Planning.get (runCalls db (before ++ [call])) id = .ok q ∧
        Transition (runCalls db before) (runCalls db (before ++ [call])) p q) ∧
  ∀ before after, calls = before ++ after →
    ∀ id p, Planning.get (runCalls db before) id = .ok p →
      ∃ q, Planning.get (runCalls db calls) id = .ok q ∧ SameApproval p q

/-- No request of the run approves a plan that waits for a new approval. -/
def NoSecondApproval (db : Database K) (calls : List (Call K)) : Prop :=
  ∀ before call after planId payload p, calls = before ++ call :: after →
    call.request = .approvePlan planId payload →
    Planning.get (runCalls db before) planId = .ok p → p.status ≠ .reapprovalRequired

theorem SameApproval.refl (p : EvacuationPlan) : SameApproval p p := ⟨fun _ h => h, fun _ h => h⟩

theorem SameApproval.trans {r : EvacuationPlan} (hpq : SameApproval p q) (hqr : SameApproval q r) :
    SameApproval p r :=
  ⟨fun a ha => hqr.1 a (hpq.1 a ha), fun t ht => hqr.2 t (hpq.2 t ht)⟩

theorem NoSecondApproval.left (h : NoSecondApproval db (before ++ after)) :
    NoSecondApproval db before := by
  rintro before' call after' planId payload p rfl
  exact h before' call (after' ++ after) planId payload p (by simp)

theorem Planning.get_map {write : EvacuationPlan → EvacuationPlan} (hkey : ∀ p, (write p).id = p.id)
    {new : List EvacuationPlan} (hplans : db'.plans = db.plans.map write ++ new)
    (h : Planning.get db id = .ok p) : Planning.get db' id = .ok (write p) := by
  rw [Planning.get_eq_ok] at h ⊢
  rw [hplans, List.find?_append, find?_map_key hkey, h]
  rfl

theorem Planning.get_updatePlan {write : EvacuationPlan → EvacuationPlan} {planId : Uuid}
    (hplans : db'.plans = (db.updatePlan planId write).plans) (hkey : ∀ p, (write p).id = p.id)
    (h : Planning.get db id = .ok p) :
    Planning.get db' id = .ok (if p.id = planId then write p else p) := by
  have hwrite : ∀ row : EvacuationPlan,
      (if row.id = planId then write row else row).id = row.id := by
    intro row
    split
    · exact hkey row
    · rfl
  have hmap : db'.plans = db.plans.map (fun row => if row.id = planId then write row else row) ++
      [] := by
    rw [hplans, List.append_nil]
    rfl
  have hget := Planning.get_map hwrite hmap h
  exact hget

theorem Planning.get_mem (h : Planning.get db id = .ok p) : p ∈ db.plans ∧ p.id = id := by
  rw [Planning.get_eq_ok] at h
  exact ⟨List.mem_of_find?_eq_some h, by simpa using List.find?_some h⟩

theorem Effect.transition {request : Request K} (h : Effect db request db') (hdb : db.Sound)
    (hfirst : ∀ planId payload p, request = .approvePlan planId payload →
      Planning.get db planId = .ok p → p.status ≠ .reapprovalRequired)
    (hp : Planning.get db id = .ok p) :
    ∃ q, Planning.get db' id = .ok q ∧ Transition db db' p q ∧ SameApproval p q := by
  obtain ⟨hmem, rfl⟩ := Planning.get_mem hp
  have hkept : db'.plans = db.plans →
      ∃ q, Planning.get db' p.id = .ok q ∧ Transition db db' p q ∧ SameApproval p q := by
    intro hplans
    refine ⟨p, ?_, .stay rfl, .refl p⟩
    rwa [Planning.get_eq_ok, hplans, ← Planning.get_eq_ok]
  cases h with
  | drafted actor incident payload _ _ hplans =>
    have hnew := hdb.versioned.nextVersion hdb.plan_lt actor incident payload
    have hplans := hdb.versioned.plans_draft hnew.fresh hplans
    refine ⟨superseding db incident.id db.nextId p, ?_, ?_⟩
    · exact Planning.get_map (fun p => (superseding_key db incident.id db.nextId p).1) hplans hp
    · rcases hdb.versioned.superseding_eq (i := incident.id) hmem db.nextId with
        ⟨hi, hlast, heq⟩ | ⟨-, heq⟩
      · rw [heq]
        refine ⟨?_, .refl p⟩
        have hlive := hdb.versioned.live p hmem (hi.symm ▸ hlast)
        apply Transition.supersede (r := Planning.draft db actor incident payload) hlive rfl
          (by simp [hplans]) hnew.fresh hi.symm _ rfl
        rw [hnew.version, hlast]
        exact Nat.lt_succ_self _
      · rw [heq]
        exact ⟨.stay rfl, .refl p⟩
  | approved plan payload now hrequest hget happroved hlive hplans =>
    refine ⟨_, Planning.get_updatePlan hplans (fun _ => rfl) hp, ?_⟩
    split
    · next hid =>
      obtain rfl := hdb.versioned.eq_of_id hmem (Planning.get_mem hget).1 hid
      -- the only status left is draft, so nobody has approved the plan before
      have hdraft : p.status = .draft := by
        cases hstatus : p.status with
        | draft => rfl
        | approved => exact absurd hstatus happroved
        | reapprovalRequired => exact absurd hstatus (hfirst _ _ _ hrequest hget)
        | superseded => exact absurd hstatus hlive
      obtain ⟨hby, hat⟩ := hdb.versioned.unapproved p hmem hdraft
      exact ⟨.approve hdraft rfl, by simp [hby], by simp [hat]⟩
    · exact ⟨.stay rfl, .refl p⟩
  | invalidated incidentId plan hcurrent happroved hplans =>
    refine ⟨_, Planning.get_updatePlan hplans (fun _ => rfl) hp, ?_⟩
    split
    · next hid =>
      obtain rfl := hdb.versioned.eq_of_id hmem
        (hdb.versioned.currentPlan_eq_some.1 hcurrent).1 hid
      exact ⟨.invalidate happroved rfl, .refl p⟩
    · exact ⟨.stay rfl, .refl p⟩
  | contacted _ _ _ _ _ _ hplans => exact hkept hplans
  | recorded _ _ _ hplans => exact hkept hplans
  | unrelated hplans => exact hkept hplans

theorem NoSecondApproval.transition (h : db.Fresh)
    (hrun : NoSecondApproval db (before ++ call :: after))
    (hp : Planning.get (runCalls db before) id = .ok p) :
    ∃ q, Planning.get (runCalls db (before ++ [call])) id = .ok q ∧
      Transition (runCalls db before) (runCalls db (before ++ [call])) p q ∧ SameApproval p q := by
  have heffect := execute_effect (runCalls db before) call
  rw [← runCalls_append] at heffect
  apply heffect.transition (h.sound.run before) _ hp
  intro planId payload p' hrequest hget
  exact hrun before call after planId payload p' rfl hrequest hget

theorem NoSecondApproval.same_approval (h : db.Fresh) (hrun : NoSecondApproval db (before ++ after))
    (hp : Planning.get (runCalls db before) id = .ok p) :
    ∃ q, Planning.get (runCalls db (before ++ after)) id = .ok q ∧ SameApproval p q := by
  induction after using List.reverseRecOn with
  | nil => exact ⟨p, by simpa using hp, .refl p⟩
  | append_singleton after call ih =>
    rw [← List.append_assoc] at hrun ⊢
    obtain ⟨q, hq, hpq⟩ := ih hrun.left
    obtain ⟨r, hr, -, hqr⟩ := hrun.transition h hq
    exact ⟨r, hr, hpq.trans hqr⟩

/-- A second approval of a plan takes a transition that is not documented. -/
theorem HistoryKept.first_approvals (h : HistoryKept db calls) : NoSecondApproval db calls := by
  rintro before call after planId payload p rfl hrequest hp hstatus
  obtain ⟨q, hq, htransition⟩ := h.1 before call after rfl planId p hp
  have happroved : q.status = .approved := by
    have hplans : (runCalls db (before ++ [call])).plans =
        ((runCalls db before).updatePlan p.id (.approve payload.approver call.now)).plans := by
      rw [runCalls_append, execute]
      simp only [Call.handle, hrequest, Planning.approve, hp, ok_bind, hstatus, reduceCtorEq,
        ↓reduceIte, pure_eq_ok, Audit.record]
    rw [Planning.get_updatePlan hplans (fun _ => rfl) hp, if_pos rfl] at hq
    cases hq
    rfl
  cases htransition with
  | stay heq => simp [happroved, hstatus] at heq
  | approve hdraft => simp [hstatus] at hdraft
  | invalidate hwas => simp [hstatus] at hwas
  | supersede _ hq => simp [happroved] at hq

/-- The approval history of a run is permanent exactly when no plan is approved a second time. -/
theorem historyKept_iff (h : db.Fresh) (calls : List (Call K)) :
    HistoryKept db calls ↔ NoSecondApproval db calls := by
  constructor
  · exact HistoryKept.first_approvals
  · intro hrun
    constructor
    · rintro before call after rfl id p hp
      obtain ⟨q, hq, htransition, -⟩ := hrun.transition h hp
      exact ⟨q, hq, htransition⟩
    · rintro before after rfl id p hp
      exact hrun.same_approval h hp

end

/-- The plan is approved, a report sends it back, and another approver approves it again. -/
def secondApproval : List (Call ℚ) :=
  [⟨"operator", 10, .createPlan 1 villagePlan⟩,
    ⟨"approver", 20, .approvePlan 2 headsApproval⟩,
    ⟨"operator", 30, .createTask 1 patrol⟩,
    ⟨"field", 40, .submitReport 6 bridgeOut⟩,
    ⟨"approver", 50, .approvePlan 2 { approver := "부군수", approver_ok := by decide }⟩]

/-- The first approver's name is lost. -/
theorem second_approval_overwrites : ¬ HistoryKept villageDatabase secondApproval := by
  intro h
  have hplan : ∃ p, Planning.get (runCalls villageDatabase (secondApproval.take 4)) 2 = .ok p ∧
      p.status = .reapprovalRequired := ⟨_, rfl, rfl⟩
  obtain ⟨p, hp, hstatus⟩ := hplan
  exact h.first_approvals (secondApproval.take 4) _ [] 2 _ p rfl rfl hp hstatus

theorem historyKept_iff_first_round : HistoryKept villageDatabase firstRound := by
  rw [historyKept_iff villageDatabase_fresh]
  intro before call after planId payload p hcalls hrequest hp
  match before with
  | [] =>
    simp only [firstRound, List.nil_append, List.cons.injEq] at hcalls
    obtain ⟨rfl, -⟩ := hcalls
    cases hrequest
  | [_] =>
    simp only [firstRound, List.cons_append, List.nil_append, List.cons.injEq] at hcalls
    obtain ⟨rfl, rfl, -⟩ := hcalls
    cases hrequest
    cases hp
    exact PlanStatus.noConfusion
  | [_, _] =>
    simp only [firstRound, List.cons_append, List.nil_append, List.cons.injEq] at hcalls
    obtain ⟨rfl, rfl, rfl, -⟩ := hcalls
    cases hrequest
  | _ :: _ :: _ :: _ => simp [firstRound] at hcalls

end Salgil
