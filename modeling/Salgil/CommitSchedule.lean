import Salgil.ReadCommitted
import Mathlib.Data.List.Induction

namespace Salgil
set_option autoImplicit true

/-- What the proofs about the single transactions share where it matters what the others are
about to do: a commit that is considerate of an open transaction keeps what that one goes by. -/
structure Schedule (e : Engine R D W) where
  inv : D → Prop
  post : List W → D → Prop
  rely : Txn D W → D → D → Prop
  considerate : List W → Txn D W → Prop
  refl : ∀ txn d, inv d → rely txn d d
  trans : ∀ txn d d' d'', rely txn d d' → rely txn d' d'' → rely txn d d''
  kept : ∀ pending txn d, inv (e.view d pending) → e.Apart txn.pending pending →
    considerate pending txn → rely txn d (e.view d pending)

namespace Schedule
variable {R D W : Type} {e : Engine R D W} (p : Schedule e)

/-- The commit will leave the rows and the writes as they should be. -/
def Safe : Script D W → List W → D → Prop
  | .read next, pending, d =>
    ∀ d', p.rely ⟨.read next, pending⟩ d d' → Safe (next (e.view d' pending)) pending d'
  | .write ids make next, pending, d =>
    ∀ d' id, p.rely ⟨.write ids make next, pending⟩ d d' →
      e.admits (e.view d' pending) (make id) = true → Safe (next id) (pending ++ [make id]) d'
  | .commit, pending, d =>
    ∀ d', p.rely ⟨.commit, pending⟩ d d' → p.inv (e.view d' pending) ∧ p.post pending d'
  | .rollback, _, _ => True

structure Holds (w : World D W) : Prop where
  inv : p.inv w.committed
  safe : ∀ txn ∈ w.txns, p.Safe txn.script txn.pending w.committed
  apart : e.Separate w.txns

/-- Every commit of the run is considerate of all transactions that are open then. -/
def Considerate (w : World D W) (actions : List (Action R)) : Prop :=
  ∀ before t after pending s other, actions = before ++ .advance t :: after →
    (e.run w before).txns[t]? = some ⟨.commit, pending⟩ → s ≠ t →
    (e.run w before).txns[s]? = some other → p.considerate pending other

end Schedule

section
variable {R D W : Type} {e : Engine R D W} {p : Schedule e} {w : World D W} {a : Action R}
variable {actions : List (Action R)}

theorem Engine.run_append (w : World D W) (before : List (Action R)) (a : Action R) :
    e.run w (before ++ [a]) = e.step (e.run w before) a := by
  simp [Engine.run, List.foldl_append]

theorem Schedule.Safe.of_rely {script : Script D W} {pending : List W} {d d' : D}
    (h : p.Safe script pending d) (hrely : p.rely ⟨script, pending⟩ d d') :
    p.Safe script pending d' := by
  cases script with
  | read next => exact fun d'' h' => h d'' (p.trans _ _ _ _ hrely h')
  | write ids make next => exact fun d'' id h' => h d'' id (p.trans _ _ _ _ hrely h')
  | commit => exact fun d'' h' => h d'' (p.trans _ _ _ _ hrely h')
  | rollback => trivial

theorem Schedule.Holds.begin {d : D} (h : p.inv d) (n : ℕ) : p.Holds ⟨d, [], n⟩ :=
  ⟨h, fun _ hmem => (nomatch hmem), fun _ _ _ _ _ hs => (nomatch hs)⟩

theorem Schedule.Holds.commits (h : p.Holds w) {t : ℕ} {pending : List W}
    (hget : w.txns[t]? = some ⟨.commit, pending⟩) :
    p.inv (e.view w.committed pending) ∧ p.post pending w.committed :=
  h.safe _ (List.mem_of_getElem? hget) _ (p.refl _ _ h.inv)

theorem Schedule.Holds.step (h : p.Holds w)
    (hscripts : ∀ request d, p.inv d → p.Safe (e.script request) [] d)
    (hconsiderate : ∀ t pending s other, a = .advance t → w.txns[t]? = some ⟨.commit, pending⟩ →
      s ≠ t → w.txns[s]? = some other → p.considerate pending other) : p.Holds (e.step w a) := by
  have hrefl : ∀ txn, p.rely txn w.committed w.committed := fun txn => p.refl _ _ h.inv
  obtain ⟨hsafe, hapart⟩ := Engine.step_keeps
    (S := fun txn d => p.Safe txn.script txn.pending d) a h.safe h.apart (fun _ => trivial)
    (fun request => hscripts request _ h.inv) (fun _ _ hs => hs _ (hrefl _))
    (fun _ _ _ _ hs => hs _ w.nextId (hrefl _))
    fun t pending ha hget s txn hne hs => (h.safe txn (List.mem_of_getElem? hs)).of_rely
      (p.kept _ _ _ (h.commits hget).1 (h.apart s t _ _ hne hs hget)
        (hconsiderate t pending s txn ha hget hne hs))
  refine ⟨?_, hsafe, hapart⟩
  rcases e.step_committed w a with hsame | ⟨t, pending, -, hget, hview⟩
  · rw [hsame]
    exact h.inv
  · rw [hview]
    exact (h.commits hget).1

theorem Schedule.Considerate.left {before after : List (Action R)}
    (h : p.Considerate w (before ++ after)) : p.Considerate w before := by
  rintro before' t after' pending s other rfl hget hne hs
  exact h before' t (after' ++ after) pending s other (by simp) hget hne hs

/-- What holds at first holds all through a run of considerate commits. -/
theorem Schedule.Holds.run (h : p.Holds w)
    (hscripts : ∀ request d, p.inv d → p.Safe (e.script request) [] d)
    (hactions : p.Considerate w actions) : p.Holds (e.run w actions) := by
  induction actions using List.reverseRecOn with
  | nil => exact h
  | append_singleton actions a ih =>
    rw [Engine.run_append]
    apply (ih hactions.left).step hscripts
    rintro t pending s other rfl hget hne hs
    exact hactions actions t [] pending s other rfl hget hne hs

end

end Salgil
