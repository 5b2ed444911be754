import Mathlib.Data.List.Basic

namespace Salgil
set_option autoImplicit true

theorem forall_mem_set {α : Type u} {P : α → Prop} {l : List α} {t : ℕ} {y : α} (hy : P y)
    (h : ∀ s x, s ≠ t → l[s]? = some x → P x) : ∀ x ∈ l.set t y, P x := by
  intro x hx
  obtain ⟨s, hs⟩ := List.mem_iff_getElem?.1 hx
  rw [List.getElem?_set] at hs
  split at hs
  · split at hs
    · cases hs
      exact hy
    · cases hs
  · next hne => exact h s x (Ne.symm hne) hs

/-- What is left of a transaction. A write may take new ids and hands the first of them on. -/
inductive Script (D W : Type) where
  | read (next : D → Script D W)
  | write (ids : ℕ) (make : ℕ → W) (next : ℕ → Script D W)
  | commit
  | rollback

/-- All writes that are still to come have the property, whatever is read. -/
def Script.Writes (P : W → Prop) : Script D W → Prop
  | .read next => ∀ d, (next d).Writes P
  | .write _ make next => ∀ id, P (make id) ∧ (next id).Writes P
  | .commit => True
  | .rollback => True

/-- An open transaction with its writes, which nobody else sees before they are committed. -/
structure Txn (D W : Type) where
  script : Script D W
  pending : List W

def Txn.ended : Txn D W := ⟨.rollback, []⟩

structure World (D W : Type) where
  committed : D
  txns : List (Txn D W)
  nextId : ℕ

/-- A request comes in, a transaction takes its next step, or the caller hangs up. -/
inductive Action (R : Type) where
  | start (request : R)
  | advance (t : ℕ)
  | cancel (t : ℕ)

/-- A database whose requests are transactions. A write has to wait while the pending write of
another transaction clashes with it, and fails if the rows do not admit it. -/
structure Engine (R D W : Type) where
  script : R → Script D W
  apply : D → W → D
  clash : W → W → Bool
  admits : D → W → Bool
  clash_comm : ∀ w w', clash w w' = clash w' w

namespace Engine
variable {R D W : Type} (e : Engine R D W)

/-- The committed rows with the transaction's own writes. -/
def view (d : D) (pending : List W) : D := pending.foldl e.apply d

def blocked (w : World D W) (t : ℕ) (write : W) : Bool :=
  (w.txns.eraseIdx t).any fun txn => txn.pending.any (e.clash write)

/-- One statement of one transaction; a transaction that waits stays as it is. -/
def step (w : World D W) : Action R → World D W
  | .start request => { w with txns := w.txns ++ [⟨e.script request, []⟩] }
  | .cancel t => { w with txns := w.txns.set t .ended }
  | .advance t =>
    match w.txns[t]? with
    | none => w
    | some ⟨.read next, pending⟩ =>
      { w with txns := w.txns.set t ⟨next (e.view w.committed pending), pending⟩ }
    | some ⟨.write ids make next, pending⟩ =>
      if e.blocked w t (make w.nextId) then w
      else if e.admits (e.view w.committed pending) (make w.nextId) then
        { w with
          txns := w.txns.set t ⟨next w.nextId, pending ++ [make w.nextId]⟩
          nextId := w.nextId + ids }
      else { w with txns := w.txns.set t .ended }
    | some ⟨.commit, pending⟩ =>
      { w with committed := e.view w.committed pending, txns := w.txns.set t .ended }
    | some ⟨.rollback, _⟩ => { w with txns := w.txns.set t .ended }

def run (w : World D W) (actions : List (Action R)) : World D W := actions.foldl e.step w

/-- No write of the one waits for a write of the other. -/
def Apart (ws ws' : List W) : Prop := ∀ w ∈ ws, ∀ w' ∈ ws', e.clash w w' = false

end Engine

/-- What the proofs about the single transactions share: an invariant of the committed rows, and
what a transaction may rely on while others commit. The commits that are not allowed spoil what
is good about the rows. -/
structure Protocol (e : Engine R D W) where
  inv : D → Prop
  good : D → Prop
  rely : List W → D → D → Prop
  allowed : List W → D → Prop
  good_of_inv : ∀ d, inv d → good d
  refl : ∀ pending d, inv d → rely pending d d
  trans : ∀ pending d d' d'', rely pending d d' → rely pending d' d'' → rely pending d d''

namespace Protocol
variable {R D W : Type} {e : Engine R D W} (p : Protocol e)

/-- The commit keeps what the others rely on, or is not allowed. -/
structure Commits (pending : List W) (d : D) : Prop where
  keeps : p.allowed pending d → p.inv (e.view d pending) ∧
    ∀ other, e.Apart other pending → p.rely other d (e.view d pending)
  spoils : ¬ p.allowed pending d → ¬ p.good (e.view d pending)

/-- Whatever the others do, the commit of the transaction will be as it should. -/
def Safe : Script D W → List W → D → Prop
  | .read next, pending, d =>
    ∀ d', p.rely pending d d' → Safe (next (e.view d' pending)) pending d'
  | .write _ make next, pending, d =>
    ∀ d' id, p.rely pending d d' → e.admits (e.view d' pending) (make id) = true →
      Safe (next id) (pending ++ [make id]) d'
  | .commit, pending, d => ∀ d', p.rely pending d d' → p.Commits pending d'
  | .rollback, _, _ => True

/-- What holds between the steps of a run. -/
structure Holds (w : World D W) : Prop where
  inv : p.inv w.committed
  safe : ∀ txn ∈ w.txns, p.Safe txn.script txn.pending w.committed
  apart : ∀ (s t : ℕ) (txn txn' : Txn D W), s ≠ t → w.txns[s]? = some txn →
    w.txns[t]? = some txn' → e.Apart txn.pending txn'.pending

/-- All commits of the run are allowed. -/
def Disciplined (w : World D W) (actions : List (Action R)) : Prop :=
  ∀ before t after pending, actions = before ++ .advance t :: after →
    (e.run w before).txns[t]? = some ⟨.commit, pending⟩ →
    p.allowed pending (e.run w before).committed

/-- The committed rows are good all through the run. -/
def Throughout (w : World D W) (actions : List (Action R)) : Prop :=
  ∀ before after, actions = before ++ after → p.good (e.run w before).committed

end Protocol

section
variable {R D W : Type} {e : Engine R D W} {p : Protocol e} {w : World D W} {a : Action R}
variable {actions : List (Action R)}

theorem Engine.Apart.symm {ws ws' : List W} (h : e.Apart ws ws') : e.Apart ws' ws := by
  intro w hw w' hw'
  rw [e.clash_comm]
  exact h w' hw' w hw

theorem Engine.apart_nil (ws : List W) : e.Apart ws [] := fun _ _ _ h => nomatch h

theorem Engine.step_committed (w : World D W) (a : Action R) :
    (e.step w a).committed = w.committed ∨ ∃ t pending, a = .advance t ∧
      w.txns[t]? = some ⟨.commit, pending⟩ ∧
      (e.step w a).committed = e.view w.committed pending := by
  cases a with
  | start request => exact .inl rfl
  | cancel t => exact .inl rfl
  | advance t =>
    simp only [Engine.step]
    split
    · exact .inl rfl
    · exact .inl rfl
    · split
      · exact .inl rfl
      · split <;> exact .inl rfl
    · next pending hget => exact .inr ⟨t, pending, rfl, hget, rfl⟩
    · exact .inl rfl

/-- No two transactions wait for each other. -/
def Engine.Separate (e : Engine R D W) (txns : List (Txn D W)) : Prop :=
  ∀ (s t : ℕ) (txn txn' : Txn D W), s ≠ t → txns[s]? = some txn → txns[t]? = some txn' →
    e.Apart txn.pending txn'.pending

theorem Engine.Separate.set {txns : List (Txn D W)} (h : e.Separate txns) (t : ℕ) {txn : Txn D W}
    (hapart : ∀ (s : ℕ) (other : Txn D W), s ≠ t → txns[s]? = some other →
      e.Apart other.pending txn.pending) : e.Separate (txns.set t txn) := by
  intro s s' txn₁ txn₂ hne h₁ h₂
  rw [List.getElem?_set] at h₁ h₂
  grind [Engine.Separate, Engine.Apart.symm]

theorem Engine.Separate.start {txns : List (Txn D W)} (h : e.Separate txns)
    (script : Script D W) : e.Separate (txns ++ [⟨script, []⟩]) := by
  intro s t txn txn' hne hs ht
  rw [List.getElem?_append] at hs ht
  grind [Engine.Separate, Engine.apart_nil, Engine.Apart.symm]

theorem Engine.apart_of_not_blocked {t : ℕ} {write : W} (h : e.blocked w t write = false) {s : ℕ}
    {other : Txn D W} (hne : s ≠ t) (hs : w.txns[s]? = some other) :
    e.Apart other.pending [write] := by
  intro w' hw' w'' hw''
  obtain rfl := List.mem_singleton.1 hw''
  have hmem : other ∈ w.txns.eraseIdx t := List.mem_eraseIdx_iff_getElem?.2 ⟨s, hne, hs⟩
  simp only [Engine.blocked, List.any_eq_false, Bool.not_eq_true] at h
  rw [e.clash_comm]
  exact h other hmem w' hw'

/-- One step keeps what is said of the open transactions and the rows, if the transaction that moves
on keeps it, and a commit keeps it for all the others. -/
theorem Engine.step_keeps {S : Txn D W → D → Prop} (a : Action R)
    (hsafe : ∀ txn ∈ w.txns, S txn w.committed) (hapart : e.Separate w.txns)
    (hended : ∀ d, S .ended d) (hstart : ∀ request, S ⟨e.script request, []⟩ w.committed)
    (hread : ∀ next pending, S ⟨.read next, pending⟩ w.committed →
      S ⟨next (e.view w.committed pending), pending⟩ w.committed)
    (hwrite : ∀ ids make next pending, S ⟨.write ids make next, pending⟩ w.committed →
      e.admits (e.view w.committed pending) (make w.nextId) = true →
      S ⟨next w.nextId, pending ++ [make w.nextId]⟩ w.committed)
    (hcommit : ∀ t pending, a = .advance t → w.txns[t]? = some ⟨.commit, pending⟩ →
      ∀ (s : ℕ) (txn : Txn D W), s ≠ t → w.txns[s]? = some txn →
        S txn (e.view w.committed pending)) :
    (∀ txn ∈ (e.step w a).txns, S txn (e.step w a).committed) ∧ e.Separate (e.step w a).txns := by
  have hset : ∀ (t : ℕ) (txn : Txn D W), S txn w.committed →
      (∀ (s : ℕ) (other : Txn D W), s ≠ t → w.txns[s]? = some other →
        e.Apart other.pending txn.pending) →
      (∀ x ∈ w.txns.set t txn, S x w.committed) ∧ e.Separate (w.txns.set t txn) :=
    fun t txn hs ha =>
      ⟨forall_mem_set hs fun s x _ hx => hsafe x (List.mem_of_getElem? hx), hapart.set t ha⟩
  have hquit : ∀ t : ℕ, (∀ x ∈ w.txns.set t .ended, S x w.committed) ∧
      e.Separate (w.txns.set t .ended) :=
    fun t => hset t .ended (hended _) fun _ _ _ _ => Engine.apart_nil _
  cases a with
  | start request =>
    refine ⟨?_, hapart.start _⟩
    intro txn htxn
    rcases List.mem_append.1 htxn with hmem | hmem
    · exact hsafe txn hmem
    · obtain rfl := List.mem_singleton.1 hmem
      exact hstart request
  | cancel t => exact hquit t
  | advance t =>
    simp only [Engine.step]
    split
    · exact ⟨hsafe, hapart⟩
    · next next pending hget =>
      apply hset t _ (hread next pending (hsafe _ (List.mem_of_getElem? hget)))
      intro s other hne hs
      have hother := hapart s t _ _ hne hs hget
      exact hother
    · next ids make next pending hget =>
      split
      · exact ⟨hsafe, hapart⟩
      · next hblocked =>
        split
        · next hadmits =>
          have hold := hsafe _ (List.mem_of_getElem? hget)
          apply hset t _ (hwrite ids make next pending hold hadmits)
          intro s other hne hs w' hw' w'' hw''
          rcases List.mem_append.1 hw'' with hmem | hmem
          · exact hapart s t _ _ hne hs hget w' hw' w'' hmem
          · exact Engine.apart_of_not_blocked (Bool.not_eq_true _ ▸ hblocked) hne hs w' hw' w'' hmem
        · exact hquit t
    · next pending hget =>
      exact ⟨forall_mem_set (hended _) (hcommit t pending rfl hget), (hquit t).2⟩
    · exact hquit t

theorem Protocol.Safe.of_rely {script : Script D W} {pending : List W} {d d' : D}
    (h : p.Safe script pending d) (hrely : p.rely pending d d') : p.Safe script pending d' := by
  cases script with
  | read next => exact fun d'' h' => h d'' (p.trans _ _ _ _ hrely h')
  | write ids make next => exact fun d'' id h' => h d'' id (p.trans _ _ _ _ hrely h')
  | commit => exact fun d'' h' => h d'' (p.trans _ _ _ _ hrely h')
  | rollback => trivial

theorem Protocol.Holds.begin {d : D} (h : p.inv d) (n : ℕ) : p.Holds ⟨d, [], n⟩ :=
  ⟨h, fun _ hmem => (nomatch hmem), fun _ _ _ _ _ hs => (nomatch hs)⟩

theorem Protocol.Holds.commits (h : p.Holds w) {t : ℕ} {pending : List W}
    (hget : w.txns[t]? = some ⟨.commit, pending⟩) : p.Commits pending w.committed :=
  h.safe _ (List.mem_of_getElem? hget) _ (p.refl _ _ h.inv)

theorem Protocol.Holds.step (h : p.Holds w)
    (hscripts : ∀ request d, p.inv d → p.Safe (e.script request) [] d)
    (hallowed : ∀ t pending, a = .advance t → w.txns[t]? = some ⟨.commit, pending⟩ →
      p.allowed pending w.committed) : p.Holds (e.step w a) := by
  have hrefl : ∀ pending, p.rely pending w.committed w.committed :=
    fun pending => p.refl _ _ h.inv
  obtain ⟨hsafe, hapart⟩ := Engine.step_keeps
    (S := fun txn d => p.Safe txn.script txn.pending d) a h.safe h.apart (fun _ => trivial)
    (fun request => hscripts request _ h.inv) (fun _ pending hs => hs _ (hrefl pending))
    (fun _ _ _ pending hs => hs _ w.nextId (hrefl pending))
    fun t pending ha hget s txn hne hs => (h.safe txn (List.mem_of_getElem? hs)).of_rely
      (((h.commits hget).keeps (hallowed t pending ha hget)).2 _ (h.apart s t _ _ hne hs hget))
  refine ⟨?_, hsafe, hapart⟩
  rcases e.step_committed w a with hsame | ⟨t, pending, ha, hget, hview⟩
  · rw [hsame]
    exact h.inv
  · rw [hview]
    exact ((h.commits hget).keeps (hallowed t pending ha hget)).1

/-- A commit that is not allowed is seen in the rows. -/
theorem Protocol.Holds.spoiled (h : p.Holds w) {t : ℕ} {pending : List W}
    (hget : w.txns[t]? = some ⟨.commit, pending⟩) (hnot : ¬ p.allowed pending w.committed) :
    ¬ p.good (e.step w (.advance t)).committed := by
  have hstep : (e.step w (.advance t)).committed = e.view w.committed pending := by
    simp only [Engine.step, hget]
  rw [hstep]
  exact (h.commits hget).spoils hnot

theorem Protocol.Disciplined.cons (h : p.Disciplined w (a :: actions)) :
    p.Disciplined (e.step w a) actions := by
  rintro before t after pending rfl hget
  exact h (a :: before) t after pending rfl hget

theorem Protocol.Throughout.cons (h : p.Throughout w (a :: actions)) :
    p.Throughout (e.step w a) actions := by
  rintro before after rfl
  exact h (a :: before) after rfl

/-- The rows stay good through a run exactly when all its commits are allowed. -/
theorem Protocol.Holds.throughout_iff (h : p.Holds w)
    (hscripts : ∀ request d, p.inv d → p.Safe (e.script request) [] d)
    (actions : List (Action R)) : p.Throughout w actions ↔ p.Disciplined w actions := by
  induction actions generalizing w with
  | nil =>
    constructor
    · intro _ before t after pending hnil
      simp at hnil
    · intro _ before after hnil
      obtain ⟨rfl, rfl⟩ := List.append_eq_nil_iff.1 hnil.symm
      exact p.good_of_inv _ h.inv
  | cons a actions ih =>
    constructor
    · intro hgood
      have hallowed : ∀ t pending, a = .advance t → w.txns[t]? = some ⟨.commit, pending⟩ →
          p.allowed pending w.committed := by
        rintro t pending rfl hget
        by_contra hnot
        exact h.spoiled hget hnot (hgood [.advance t] actions rfl)
      have hrest := (ih (h.step hscripts hallowed)).1 hgood.cons
      intro before t after pending hactions hget
      cases before with
      | nil =>
        obtain ⟨rfl, rfl⟩ := List.cons.inj hactions
        exact hallowed t pending rfl hget
      | cons b before =>
        obtain ⟨rfl, rfl⟩ := List.cons.inj hactions
        exact hrest before t after pending rfl hget
    · intro hdisciplined
      have hstep := h.step hscripts (a := a) fun t pending ha hget =>
        hdisciplined [] t actions pending (ha ▸ rfl) hget
      have hrest := (ih hstep).2 hdisciplined.cons
      intro before after hactions
      cases before with
      | nil => exact p.good_of_inv _ h.inv
      | cons b before =>
        obtain ⟨rfl, rfl⟩ := List.cons.inj hactions
        exact hrest before after rfl

end

end Salgil
