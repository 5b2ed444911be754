import Mathlib.Data.List.Induction
import Mathlib.Logic.Function.Basic
import Mathlib.Data.List.Basic
import Mathlib.Data.Nat.Basic

namespace Salgil
set_option autoImplicit true

/-- How the call of a hook ends: it returns, or it raises an `Exception`, or a `BaseException`
that is none. -/
inductive HookEnd where
  | returns
  | raises
  | escapes
  deriving DecidableEq, Repr

/-- What has been sent to the broker and to the hooks. -/
inductive Delivery (E : Type u) where
  | broker (event : E)
  | hook (index : ℕ) (event : E)
  deriving DecidableEq, Repr

/-- A hook may go by all that has been sent before. -/
abbrev Hook (E : Type u) := List (Delivery E) → E → HookEnd

inductive SessionAction (E : Type u) where
  | publishAfterCommit (session : ℕ) (event : E)
  | commit (session : ℕ) (succeeds : Bool)
  | rollback (session : ℕ)
  | close (session : ℕ)

/-- The pending events of each session, and all that has been sent. -/
structure Announcer (E : Type u) where
  pending : ℕ → List E := fun _ => []
  sent : List (Delivery E) := []

namespace Announcer

/-- One event goes to the hooks, from one of them on; the flag tells that an exception escaped. -/
def callHooks (event : E) : ℕ → List (Hook E) → List (Delivery E) → List (Delivery E) × Bool
  | _, [], sent => (sent, false)
  | index, hook :: hooks, sent =>
    match hook sent event with
    | .escapes => (sent ++ [.hook index event], true)
    | _ => callHooks event (index + 1) hooks (sent ++ [.hook index event])

/-- Each event goes to the broker and then to every hook. -/
def publishPending (hooks : List (Hook E)) :
    List E → List (Delivery E) → List (Delivery E) × Bool
  | [], sent => (sent, false)
  | event :: events, sent =>
    match callHooks event 0 hooks (sent ++ [.broker event]) with
    | (sent, true) => (sent, true)
    | (sent, false) => publishPending hooks events sent

def setPending (a : Announcer E) (session : ℕ) (events : List E) : Announcer E :=
  { a with pending := Function.update a.pending session events }

/-- A commit that fails fires no event; a close fires none either. -/
def step (hooks : List (Hook E)) (a : Announcer E) : SessionAction E → Announcer E
  | .publishAfterCommit session event => a.setPending session (a.pending session ++ [event])
  | .commit session true =>
    { a.setPending session [] with sent := (publishPending hooks (a.pending session) a.sent).1 }
  | .commit _ false => a
  | .rollback session => a.setPending session []
  | .close _ => a

def run (hooks : List (Hook E)) (actions : List (SessionAction E)) : Announcer E :=
  actions.foldl (step hooks) {}

end Announcer

namespace SessionAction

def session : SessionAction E → ℕ
  | publishAfterCommit session _ | commit session _ | rollback session | close session => session

/-- The action ends the transaction that the session has open. -/
def Ends (s : ℕ) : SessionAction E → Prop
  | publishAfterCommit _ _ => False
  | commit session succeeds => session = s ∧ succeeds = true
  | rollback session | close session => session = s

end SessionAction

section
variable {E : Type u} {hooks : List (Hook E)} {actions : List (SessionAction E)}
variable {a : SessionAction E} {s i : ℕ}

/-- The event that is queued at a place of the run. -/
def eventAt (actions : List (SessionAction E)) (i : ℕ) : Option E :=
  match actions[i]? with
  | some (.publishAfterCommit _ event) => some event
  | _ => none

/-- The session queued an event at this place, in a transaction that has not ended yet. -/
def Open (actions : List (SessionAction E)) (s i : ℕ) : Prop :=
  (∃ event, actions[i]? = some (.publishAfterCommit s event)) ∧
    ∀ k a, i < k → actions[k]? = some a → ¬ a.Ends s

/-- The session queued an event at this place, and committed the transaction that was open. -/
def Committed (actions : List (SessionAction E)) (s i : ℕ) : Prop :=
  ∃ event j, i < j ∧ actions[i]? = some (.publishAfterCommit s event) ∧
    actions[j]? = some (.commit s true) ∧
    ∀ k a, i < k → k < j → actions[k]? = some a → ¬ a.Ends s

/-- A session is not used again once it is closed. -/
def ClosedUnused (actions : List (SessionAction E)) : Prop :=
  ∀ (i j s : ℕ) (a : SessionAction E), i < j → actions[i]? = some (.close s) →
    actions[j]? = some a → a.session ≠ s

/-- One event at the broker and at every hook. -/
def deliveries (hooks : List (Hook E)) (event : E) : List (Delivery E) :=
  .broker event :: (List.range hooks.length).map (.hook · event)

/-- The events of the committed transactions, and only they, are sent to the broker and to every
hook, each once, and those of one session in the order of the queue. -/
def AnnouncedOnce (hooks : List (Hook E)) (actions : List (SessionAction E)) : Prop :=
  ∃ order : List ℕ, order.Nodup ∧ (∀ i, i ∈ order ↔ ∃ s, Committed actions s i) ∧
    (order.Pairwise fun i j => ∀ s, Committed actions s i → Committed actions s j → i < j) ∧
    (Announcer.run hooks actions).sent =
      (order.filterMap (eventAt actions)).flatMap (deliveries hooks)

theorem callHooks_eq (hhooks : ∀ hook ∈ hooks, ∀ sent event, hook sent event ≠ .escapes)
    (event : E) (index : ℕ) (sent : List (Delivery E)) :
    Announcer.callHooks event index hooks sent =
      (sent ++ (List.range' index hooks.length).map (.hook · event), false) := by
  induction hooks generalizing index sent with
  | nil => simp [Announcer.callHooks]
  | cons hook hooks ih =>
    have hhook := hhooks hook List.mem_cons_self sent event
    have hrest := ih fun hook' hmem => hhooks hook' (List.mem_cons_of_mem _ hmem)
    rw [Announcer.callHooks]
    split
    · next hescapes => exact absurd hescapes hhook
    · rw [hrest, List.length_cons, List.range'_succ, List.map_cons, List.append_assoc,
        List.singleton_append]

/-- Hooks that raise no more than an `Exception` leave no event and no other hook out. -/
theorem publishPending_eq (hhooks : ∀ hook ∈ hooks, ∀ sent event, hook sent event ≠ .escapes)
    (events : List E) (sent : List (Delivery E)) :
    Announcer.publishPending hooks events sent =
      (sent ++ events.flatMap (deliveries hooks), false) := by
  induction events generalizing sent with
  | nil => simp [Announcer.publishPending]
  | cons event events ih =>
    rw [Announcer.publishPending, callHooks_eq hhooks]
    simp only [ih, List.flatMap_cons, deliveries, List.range_eq_range', List.append_assoc,
      List.cons_append, List.nil_append]

theorem run_append (actions : List (SessionAction E)) (a : SessionAction E) :
    Announcer.run hooks (actions ++ [a]) =
      Announcer.step hooks (Announcer.run hooks actions) a := by
  simp [Announcer.run, List.foldl_append]

theorem getElem?_append_singleton (actions : List (SessionAction E)) (a b : SessionAction E)
    (i : ℕ) : (actions ++ [a])[i]? = some b ↔
      actions[i]? = some b ∨ i = actions.length ∧ a = b := by
  rcases Nat.lt_trichotomy i actions.length with hi | rfl | hi
  · rw [List.getElem?_append_left hi]
    simp [Nat.ne_of_lt hi]
  · simp
  · have hnone : (actions ++ [a])[i]? = none := by simp; omega
    have hnone' : actions[i]? = none := by simp; omega
    simp [hnone, hnone', Nat.ne_of_gt hi]

theorem Open.lt (h : Open actions s i) : i < actions.length := by
  obtain ⟨⟨event, hi⟩, -⟩ := h
  exact (List.getElem?_eq_some_iff.1 hi).1

theorem Committed.lt (h : Committed actions s i) : i < actions.length := by
  obtain ⟨event, j, -, hi, -⟩ := h
  exact (List.getElem?_eq_some_iff.1 hi).1

theorem open_append : Open (actions ++ [a]) s i ↔ Open actions s i ∧ ¬ a.Ends s ∨
    i = actions.length ∧ ∃ event, a = .publishAfterCommit s event := by
  constructor
  · rintro ⟨⟨event, hi⟩, hnot⟩
    rcases (getElem?_append_singleton _ _ _ _).1 hi with hi | ⟨rfl, rfl⟩
    · left
      have hlt := (List.getElem?_eq_some_iff.1 hi).1
      refine ⟨⟨⟨event, hi⟩, fun k b hk hb => ?_⟩, ?_⟩
      · exact hnot k b hk ((getElem?_append_singleton _ _ _ _).2 (.inl hb))
      · exact hnot actions.length a hlt ((getElem?_append_singleton _ _ _ _).2 (.inr ⟨rfl, rfl⟩))
    · exact .inr ⟨rfl, event, rfl⟩
  · rintro (⟨h, ha⟩ | ⟨rfl, event, rfl⟩)
    · obtain ⟨⟨event, hi⟩, hnot⟩ := h
      refine ⟨⟨event, (getElem?_append_singleton _ _ _ _).2 (.inl hi)⟩, fun k b hk hb => ?_⟩
      rcases (getElem?_append_singleton _ _ _ _).1 hb with hb | ⟨-, rfl⟩
      · exact hnot k b hk hb
      · exact ha
    · refine ⟨⟨event, by simp⟩, fun k b hk hb => ?_⟩
      have hlt := (List.getElem?_eq_some_iff.1 hb).1
      rw [List.length_append, List.length_singleton] at hlt
      omega

theorem committed_append : Committed (actions ++ [a]) s i ↔ Committed actions s i ∨
    a = .commit s true ∧ Open actions s i := by
  constructor
  · rintro ⟨event, j, hij, hi, hj, hnot⟩
    have hold : ∀ k b, i < k → k < j → actions[k]? = some b → ¬ b.Ends s := fun k b hk hkj hb =>
      hnot k b hk hkj ((getElem?_append_singleton _ _ _ _).2 (.inl hb))
    have hlt := (List.getElem?_eq_some_iff.1 hj).1
    rw [List.length_append, List.length_singleton] at hlt
    have hi' : actions[i]? = some (.publishAfterCommit s event) := by
      rcases (getElem?_append_singleton _ _ _ _).1 hi with hi | ⟨rfl, -⟩
      · exact hi
      · omega
    rcases (getElem?_append_singleton _ _ _ _).1 hj with hj | ⟨rfl, rfl⟩
    · exact .inl ⟨event, j, hij, hi', hj, hold⟩
    · refine .inr ⟨rfl, ⟨event, hi'⟩, fun k b hk hb => ?_⟩
      exact hold k b hk (List.getElem?_eq_some_iff.1 hb).1 hb
  · rintro (⟨event, j, hij, hi, hj, hnot⟩ | ⟨rfl, ⟨event, hi⟩, hnot⟩)
    · have hlt := (List.getElem?_eq_some_iff.1 hj).1
      refine ⟨event, j, hij, (getElem?_append_singleton _ _ _ _).2 (.inl hi),
        (getElem?_append_singleton _ _ _ _).2 (.inl hj), fun k b hk hkj hb => ?_⟩
      rcases (getElem?_append_singleton _ _ _ _).1 hb with hb | ⟨rfl, -⟩
      · exact hnot k b hk hkj hb
      · omega
    · have hlt := (List.getElem?_eq_some_iff.1 hi).1
      refine ⟨event, actions.length, hlt, (getElem?_append_singleton _ _ _ _).2 (.inl hi),
        (getElem?_append_singleton _ _ _ _).2 (.inr ⟨rfl, rfl⟩), fun k b hk hkj hb => ?_⟩
      rcases (getElem?_append_singleton _ _ _ _).1 hb with hb | ⟨rfl, -⟩
      · exact hnot k b hk hb
      · omega

theorem Committed.not_open (h : Committed actions s i) (s' : ℕ) : ¬ Open actions s' i := by
  obtain ⟨event, j, hij, hi, hj, -⟩ := h
  rintro ⟨⟨event', hi'⟩, hnot⟩
  rw [hi] at hi'
  cases hi'
  exact hnot j _ hij hj ⟨rfl, rfl⟩

theorem Committed.lt_open {j : ℕ} (h : Committed actions s i) (hj : Open actions s j) : i < j := by
  obtain ⟨event, k, hik, hi, hk, -⟩ := h
  by_contra hle
  exact hj.2 k _ (Nat.lt_of_le_of_lt (Nat.le_of_not_lt hle) hik) hk ⟨rfl, rfl⟩

theorem eventAt_append (a : SessionAction E) (hi : i < actions.length) :
    eventAt (actions ++ [a]) i = eventAt actions i := by
  rw [eventAt, eventAt, List.getElem?_append_left hi]

/-- What holds of a run: the places of the queued events of each open transaction, in order, and
of all that have been sent. -/
structure Queued (hooks : List (Hook E)) (actions : List (SessionAction E)) (queue : ℕ → List ℕ)
    (order : List ℕ) : Prop where
  sorted : ∀ s, (∀ i : ℕ, actions[i]? ≠ some (.close s)) → (queue s).Pairwise (· < ·)
  isOpen : ∀ s, (∀ i : ℕ, actions[i]? ≠ some (.close s)) → ∀ i, i ∈ queue s ↔ Open actions s i
  pending : ∀ s, (∀ i : ℕ, actions[i]? ≠ some (.close s)) →
    (Announcer.run hooks actions).pending s = (queue s).filterMap (eventAt actions)
  nodup : order.Nodup
  committed : ∀ i, i ∈ order ↔ ∃ s, Committed actions s i
  ordered : order.Pairwise fun i j => ∀ s, Committed actions s i → Committed actions s j → i < j
  sent : (Announcer.run hooks actions).sent =
    (order.filterMap (eventAt actions)).flatMap (deliveries hooks)

theorem filterMap_eventAt_append (a : SessionAction E) {places : List ℕ}
    (hplaces : ∀ i ∈ places, i < actions.length) :
    places.filterMap (eventAt (actions ++ [a])) = places.filterMap (eventAt actions) :=
  List.filterMap_congr fun i hi => eventAt_append a (hplaces i hi)

namespace Queued
variable {queue queue' : ℕ → List ℕ} {order : List ℕ}

theorem order_lt (h : Queued hooks actions queue order) : ∀ i ∈ order, i < actions.length := by
  intro i hi
  obtain ⟨s, hs⟩ := (h.committed i).1 hi
  exact hs.lt

theorem quiet (h : Queued hooks actions queue order) (ha : ∀ s, a ≠ .commit s true)
    (hsent : (Announcer.step hooks (Announcer.run hooks actions) a).sent =
      (Announcer.run hooks actions).sent)
    (hqueue : ∀ s, (∀ i : ℕ, (actions ++ [a])[i]? ≠ some (.close s)) →
      (queue' s).Pairwise (· < ·) ∧ (∀ i, i ∈ queue' s ↔ Open (actions ++ [a]) s i) ∧
      (Announcer.step hooks (Announcer.run hooks actions) a).pending s =
        (queue' s).filterMap (eventAt (actions ++ [a]))) :
    Queued hooks (actions ++ [a]) queue' order := by
  have hcommitted : ∀ s i, Committed (actions ++ [a]) s i ↔ Committed actions s i := by
    intro s i
    rw [committed_append]
    simp [ha]
  refine ⟨fun s hs => (hqueue s hs).1, fun s hs => (hqueue s hs).2.1, ?_, h.nodup, ?_, ?_, ?_⟩
  · intro s hs
    rw [run_append]
    exact (hqueue s hs).2.2
  · simpa only [hcommitted] using h.committed
  · simpa only [hcommitted] using h.ordered
  · rw [run_append, hsent, filterMap_eventAt_append a h.order_lt]
    exact h.sent

theorem other (h : Queued hooks actions queue order) (ha : a.session ≠ s)
    (hs : ∀ i : ℕ, (actions ++ [a])[i]? ≠ some (.close s)) :
    (queue s).Pairwise (· < ·) ∧ (∀ i, i ∈ queue s ↔ Open (actions ++ [a]) s i) ∧
      (Announcer.step hooks (Announcer.run hooks actions) a).pending s =
        (queue s).filterMap (eventAt (actions ++ [a])) := by
  have hopen : ∀ i : ℕ, actions[i]? ≠ some (.close s) := fun i hi =>
    hs i ((getElem?_append_singleton _ _ _ _).2 (.inl hi))
  have hlt : ∀ i ∈ queue s, i < actions.length := fun i hi => ((h.isOpen s hopen i).1 hi).lt
  have hends : ¬ a.Ends s := by
    cases a with
    | publishAfterCommit _ _ => exact id
    | commit _ _ => exact fun hends => ha hends.1
    | rollback _ => exact ha
    | close _ => exact ha
  refine ⟨h.sorted s hopen, fun i => ?_, ?_⟩
  · rw [h.isOpen s hopen, open_append]
    constructor
    · exact fun hi => .inl ⟨hi, hends⟩
    · rintro (⟨hi, -⟩ | ⟨-, event, rfl⟩)
      · exact hi
      · exact absurd rfl ha
  · rw [filterMap_eventAt_append a hlt, ← h.pending s hopen]
    cases a with
    | publishAfterCommit session event => exact Function.update_of_ne (Ne.symm ha) _ _
    | commit session succeeds =>
      cases succeeds with
      | true => exact Function.update_of_ne (Ne.symm ha) _ _
      | false => rfl
    | rollback session => exact Function.update_of_ne (Ne.symm ha) _ _
    | close session => rfl

theorem update (h : Queued hooks actions queue order) (ha : ∀ s, a ≠ .commit s true)
    (hsent : (Announcer.step hooks (Announcer.run hooks actions) a).sent =
      (Announcer.run hooks actions).sent) (places : List ℕ)
    (hself : (∀ i : ℕ, (actions ++ [a])[i]? ≠ some (.close a.session)) →
      places.Pairwise (· < ·) ∧ (∀ i, i ∈ places ↔ Open (actions ++ [a]) a.session i) ∧
      (Announcer.step hooks (Announcer.run hooks actions) a).pending a.session =
        places.filterMap (eventAt (actions ++ [a]))) :
    Queued hooks (actions ++ [a]) (Function.update queue a.session places) order := by
  apply h.quiet ha hsent
  intro s hs
  by_cases hsession : s = a.session
  · subst hsession
    rw [Function.update_self]
    exact hself hs
  · rw [Function.update_of_ne hsession]
    exact h.other (Ne.symm hsession) hs

theorem cleared (actions : List (SessionAction E)) (hends : a.Ends s)
    (hqueue : ∀ event, a ≠ .publishAfterCommit s event) :
    ([] : List ℕ).Pairwise (· < ·) ∧ ∀ i, i ∈ ([] : List ℕ) ↔ Open (actions ++ [a]) s i := by
  refine ⟨List.Pairwise.nil, fun i => ?_⟩
  rw [open_append]
  simp [hends, hqueue]

theorem commit {s : ℕ} (h : Queued hooks actions queue order)
    (hs : ∀ i : ℕ, actions[i]? ≠ some (.close s))
    (hhooks : ∀ hook ∈ hooks, ∀ sent event, hook sent event ≠ .escapes) :
    Queued hooks (actions ++ [.commit s true]) (Function.update queue s []) (order ++ queue s) := by
  have hopen := h.isOpen s hs
  have hlt : ∀ i ∈ queue s, i < actions.length := fun i hi => ((hopen i).1 hi).lt
  have hqueue : ∀ s', (∀ i : ℕ, (actions ++ [SessionAction.commit s true])[i]? ≠
      some (.close s')) → (Function.update queue s [] s').Pairwise (· < ·) ∧
      (∀ i, i ∈ Function.update queue s [] s' ↔ Open (actions ++ [.commit s true]) s' i) ∧
      (Announcer.run hooks (actions ++ [.commit s true])).pending s' =
        (Function.update queue s [] s').filterMap (eventAt (actions ++ [.commit s true])) := by
    intro s' hs'
    rw [run_append]
    by_cases hsession : s' = s
    · subst hsession
      rw [Function.update_self]
      obtain ⟨hsorted, hmem⟩ := cleared actions (a := .commit s' true) ⟨rfl, rfl⟩
        (by simp)
      exact ⟨hsorted, hmem, Function.update_self _ _ _⟩
    · rw [Function.update_of_ne hsession]
      exact h.other (Ne.symm hsession) hs'
  have hold : ∀ i ∈ order, ∀ s', Committed (actions ++ [.commit s true]) s' i →
      Committed actions s' i := by
    intro i hi s' hs'
    obtain ⟨s₀, hs₀⟩ := (h.committed i).1 hi
    rcases committed_append.1 hs' with hs' | ⟨-, hopen'⟩
    · exact hs'
    · exact absurd hopen' (hs₀.not_open s')
  refine ⟨fun s' hs' => (hqueue s' hs').1, fun s' hs' => (hqueue s' hs').2.1,
    fun s' hs' => (hqueue s' hs').2.2, ?_, ?_, ?_, ?_⟩
  · rw [List.nodup_append]
    refine ⟨h.nodup, (h.sorted s hs).imp Nat.ne_of_lt, ?_⟩
    rintro i hi j hj rfl
    obtain ⟨s₀, hs₀⟩ := (h.committed i).1 hi
    exact hs₀.not_open s ((hopen i).1 hj)
  · intro i
    simp only [List.mem_append, h.committed, hopen, committed_append, SessionAction.commit.injEq]
    constructor
    · rintro (⟨s', hs'⟩ | hi)
      · exact ⟨s', .inl hs'⟩
      · exact ⟨s, .inr ⟨⟨rfl, trivial⟩, hi⟩⟩
    · rintro ⟨s', hs' | ⟨⟨rfl, -⟩, hi⟩⟩
      · exact .inl ⟨s', hs'⟩
      · exact .inr hi
  · rw [List.pairwise_append]
    refine ⟨?_, ?_, ?_⟩
    · apply h.ordered.imp_of_mem
      intro i j hi hj hij s' hi' hj'
      exact hij s' (hold i hi s' hi') (hold j hj s' hj')
    · exact (h.sorted s hs).imp fun hij _ _ _ => hij
    · intro i hi j hj s' hi' hj'
      have hj := (hopen j).1 hj
      rcases committed_append.1 hj' with hj' | ⟨hcommit, -⟩
      · exact absurd hj (hj'.not_open s)
      · cases hcommit
        exact (hold i hi s hi').lt_open hj
  · rw [run_append, List.filterMap_append, List.flatMap_append]
    rw [filterMap_eventAt_append _ h.order_lt, filterMap_eventAt_append _ hlt, ← h.sent,
      ← h.pending s hs]
    simp only [Announcer.step, publishPending_eq hhooks]

theorem append (h : Queued hooks actions queue order) (hclosed : ClosedUnused (actions ++ [a]))
    (hhooks : ∀ hook ∈ hooks, ∀ sent event, hook sent event ≠ .escapes) :
    ∃ queue' order', Queued hooks (actions ++ [a]) queue' order' := by
  have hs : ∀ i : ℕ, actions[i]? ≠ some (.close a.session) := by
    intro i hi
    have hlt := (List.getElem?_eq_some_iff.1 hi).1
    exact hclosed i actions.length a.session a hlt
      ((getElem?_append_singleton _ _ _ _).2 (.inl hi)) (by simp) rfl
  cases a with
  | publishAfterCommit s event =>
    refine ⟨_, order, h.update (by simp) rfl (queue s ++ [actions.length]) fun _ => ⟨?_, ?_, ?_⟩⟩
    · rw [List.pairwise_append]
      refine ⟨h.sorted s hs, List.pairwise_singleton _ _, ?_⟩
      intro i hi j hj
      rw [List.mem_singleton.1 hj]
      exact ((h.isOpen s hs i).1 hi).lt
    · intro i
      rw [open_append, List.mem_append, h.isOpen s hs, List.mem_singleton]
      simp [SessionAction.Ends, SessionAction.session]
    · have hlt : ∀ i ∈ queue s, i < actions.length := fun i hi => ((h.isOpen s hs i).1 hi).lt
      rw [List.filterMap_append, filterMap_eventAt_append _ hlt, ← h.pending s hs]
      simp [Announcer.step, Announcer.setPending, SessionAction.session, eventAt]
  | commit s succeeds =>
    cases succeeds with
    | true => exact ⟨_, _, h.commit hs hhooks⟩
    | false =>
      refine ⟨_, order, h.update (by simp) rfl (queue s) fun _ => ⟨h.sorted s hs, ?_, ?_⟩⟩
      · intro i
        rw [open_append, h.isOpen s hs]
        simp [SessionAction.Ends, SessionAction.session]
      · have hlt : ∀ i ∈ queue s, i < actions.length := fun i hi => ((h.isOpen s hs i).1 hi).lt
        rw [filterMap_eventAt_append _ hlt, ← h.pending s hs]
        rfl
  | rollback s =>
    refine ⟨_, order, h.update (by simp) rfl [] fun _ => ?_⟩
    obtain ⟨hsorted, hmem⟩ := cleared actions (a := .rollback s) (s := s) rfl (by simp)
    exact ⟨hsorted, hmem, Function.update_self _ _ _⟩
  | close s =>
    refine ⟨_, order, h.update (by simp) rfl [] fun hnot => ?_⟩
    exact absurd (by simp [SessionAction.session]) (hnot actions.length)

end Queued

theorem ClosedUnused.left {after : List (SessionAction E)} (h : ClosedUnused (actions ++ after)) :
    ClosedUnused actions := by
  intro i j s a hij hi hj
  apply h i j s a hij
  · rw [List.getElem?_append_left (List.getElem?_eq_some_iff.1 hi).1]
    exact hi
  · rw [List.getElem?_append_left (List.getElem?_eq_some_iff.1 hj).1]
    exact hj

theorem queued_run (hclosed : ClosedUnused actions)
    (hhooks : ∀ hook ∈ hooks, ∀ sent event, hook sent event ≠ .escapes) :
    ∃ queue order, Queued hooks actions queue order := by
  induction actions using List.reverseRecOn with
  | nil =>
    refine ⟨fun _ => [], [], ?_⟩
    constructor <;> simp [Open, Committed, Announcer.run]
  | append_singleton actions a ih =>
    obtain ⟨queue, order, h⟩ := ih hclosed.left
    exact h.append hclosed hhooks

/-- Up to each place of a run, what has been sent are the events of the transactions that are
committed by then. -/
theorem announced_once (hclosed : ClosedUnused actions)
    (hhooks : ∀ hook ∈ hooks, ∀ sent event, hook sent event ≠ .escapes)
    (before : List (SessionAction E)) (hbefore : before <+: actions) :
    AnnouncedOnce hooks before := by
  obtain ⟨after, rfl⟩ := hbefore
  obtain ⟨queue, order, h⟩ := queued_run hclosed.left hhooks
  exact ⟨order, h.nodup, h.committed, h.ordered, h.sent⟩

end

/-- Two events of one session, committed; meanwhile another session is rolled back. -/
def twoEvents : List (SessionAction ℕ) :=
  [.publishAfterCommit 0 10, .publishAfterCommit 1 20, .publishAfterCommit 0 11, .rollback 1,
    .commit 1 true, .commit 0 true]

theorem announced_once_raising_hook :
    AnnouncedOnce [fun _ _ => .raises, fun _ _ => .returns] twoEvents ∧
    (Announcer.run [fun _ _ => .raises, fun _ _ => .returns] twoEvents).sent =
      [.broker 10, .hook 0 10, .hook 1 10, .broker 11, .hook 0 11, .hook 1 11] := by
  refine ⟨announced_once ?_ (by simp) twoEvents List.prefix_rfl, by decide⟩
  intro i j s a hij hi
  have hmem := List.mem_of_getElem? hi
  simp [twoEvents] at hmem

/-- A hook that is cancelled leaves out the other hook and the second event. -/
theorem cancelled_hook_suppresses :
    (Announcer.run [fun _ _ => .escapes, fun _ _ => .returns] twoEvents).sent =
      [.broker 10, .hook 0 10] ∧
    ¬ AnnouncedOnce [fun _ _ => .escapes, fun _ _ => .returns] twoEvents := by
  have hsent : (Announcer.run [fun _ _ => .escapes, fun _ _ => .returns] twoEvents).sent =
      [.broker 10, .hook 0 10] := by decide
  refine ⟨hsent, ?_⟩
  rintro ⟨order, -, -, -, h⟩
  rw [hsent] at h
  cases hevents : order.filterMap (eventAt twoEvents) with
  | nil => simp [hevents] at h
  | cons event events => simp [hevents, deliveries, List.range_succ] at h

end Salgil
