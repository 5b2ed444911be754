import Salgil.SlidingWindow
import Mathlib.Data.Finset.Insert
import Mathlib.Data.Finset.Erase
import Mathlib.Data.List.Basic
import Mathlib.Logic.Function.Basic

namespace Salgil
set_option autoImplicit true

/-- `QUEUE_SIZE`. -/
def queueSize : ℕ := 32

inductive QueueError where
  | queueEmpty
  | queueFull
  deriving DecidableEq, Repr

/-- `asyncio.Queue`. -/
structure AsyncQueue (E : Type u) where
  maxsize : ℕ
  items : List E := []

namespace AsyncQueue

def full (q : AsyncQueue E) : Bool := 0 < q.maxsize ∧ q.maxsize ≤ q.items.length

def getNowait (q : AsyncQueue E) : Except QueueError (E × AsyncQueue E) :=
  match q.items with
  | [] => .error .queueEmpty
  | event :: items => .ok (event, { q with items := items })

def putNowait (q : AsyncQueue E) (event : E) : Except QueueError (AsyncQueue E) :=
  if q.full then .error .queueFull else .ok { q with items := q.items ++ [event] }

/-- What `publish` does with the queue of one subscriber. -/
def offer (q : AsyncQueue E) (event : E) : AsyncQueue E :=
  let q := if q.full then
      match q.getNowait with
      | .ok (_, q) => q
      | .error _ => q
    else q
  match q.putNowait event with
  | .ok q => q
  | .error _ => q

end AsyncQueue

/-- The queues that `subscribe` has handed out, by handle, and which of them are subscribed. -/
structure EventBroker (E : Type u) where
  subscribers : Finset ℕ := ∅
  queues : ℕ → Option (AsyncQueue E) := fun _ => none

namespace EventBroker

/-- `publish`, with the subscribers in the order in which their set is listed. -/
def publish (b : EventBroker E) (listing : List ℕ) (event : E) : EventBroker E :=
  listing.foldl (fun b handle => { b with
    queues := Function.update b.queues handle ((b.queues handle).map (·.offer event)) }) b

def subscribe (b : EventBroker E) (handle : ℕ) : EventBroker E where
  subscribers := insert handle b.subscribers
  queues := Function.update b.queues handle (some { maxsize := queueSize })

/-- The end of a `with` block around `subscribe`. -/
def unsubscribe (b : EventBroker E) (handle : ℕ) : EventBroker E :=
  { b with subscribers := b.subscribers.erase handle }

/-- A `get` that does not have to wait. -/
def get (b : EventBroker E) (handle : ℕ) : Option (E × EventBroker E) :=
  match b.queues handle with
  | none => none
  | some q =>
    match q.getNowait with
    | .error _ => none
    | .ok (event, q) =>
      some (event, { b with queues := Function.update b.queues handle (some q) })

/-- What a subscriber has not read yet. -/
def items (b : EventBroker E) (handle : ℕ) : List E := ((b.queues handle).map (·.items)).getD []

end EventBroker

inductive BrokerAction (E : Type u) where
  | publish (event : E)
  | subscribe (handle : ℕ)
  | unsubscribe (handle : ℕ)
  | get (handle : ℕ) (event : E)
  deriving DecidableEq, Repr

/-- Every `subscribe` makes a new queue; a `get` that times out changes nothing. -/
inductive BrokerStep (b : EventBroker E) : BrokerAction E → EventBroker E → Prop where
  | publish {listing event} : listing.Nodup →
      (∀ handle, handle ∈ listing ↔ handle ∈ b.subscribers) →
      BrokerStep b (.publish event) (b.publish listing event)
  | subscribe {handle} : b.queues handle = none →
      BrokerStep b (.subscribe handle) (b.subscribe handle)
  | unsubscribe {handle} : BrokerStep b (.unsubscribe handle) (b.unsubscribe handle)
  | get {handle event b'} : b.get handle = some (event, b') → BrokerStep b (.get handle event) b'

inductive BrokerRun : List (BrokerAction E) → EventBroker E → Prop where
  | start : BrokerRun [] {}
  | step : BrokerRun actions b → BrokerStep b a b' → BrokerRun (actions ++ [a]) b'

/-- What a run looks like from one subscription: the publications and its own actions. -/
inductive Own (E : Type u) where
  | publish (event : E)
  | subscribe
  | unsubscribe
  | get
  deriving DecidableEq, Repr

def BrokerAction.own (handle : ℕ) : BrokerAction E → Option (Own E)
  | .publish event => some (.publish event)
  | .subscribe h => if h = handle then some .subscribe else none
  | .unsubscribe h => if h = handle then some .unsubscribe else none
  | .get h _ => if h = handle then some .get else none

def BrokerAction.reads (handle : ℕ) : BrokerAction E → Option E
  | .get h event => if h = handle then some event else none
  | _ => none

def ownView (handle : ℕ) (actions : List (BrokerAction E)) : List (Own E) :=
  actions.filterMap (·.own handle)

/-- All that the subscriber has read. -/
def readBy (handle : ℕ) (actions : List (BrokerAction E)) : List E :=
  actions.filterMap (·.reads handle)

def Own.since (published : List E) : Own E → List E
  | .publish event => published ++ [event]
  | .subscribe => []
  | .unsubscribe | .get => published

/-- The events published since the subscription was made. -/
def publishedSince (handle : ℕ) (actions : List (BrokerAction E)) : List E :=
  (ownView handle actions).foldl Own.since []

/-- What a subscription comes to: a window on the publications, open until it ends. -/
structure Subscription (E : Type u) where
  isOpen : Bool := false
  window : Window E := {}

def Subscription.step (s : Subscription E) : Own E → Subscription E
  | .publish event => if s.isOpen then { s with window := s.window.push queueSize event } else s
  | .subscribe => { isOpen := true }
  | .unsubscribe => { s with isOpen := false }
  | .get => { s with window := s.window.pop }

def subscription (handle : ℕ) (actions : List (BrokerAction E)) : Subscription E :=
  (ownView handle actions).foldl Subscription.step {}

/-- What a stream sends to its client. -/
inductive StreamFrame (E : Type u) where
  | opened
  | keepAlive
  | event (event : E)
  deriving DecidableEq, Repr

/-- The stream is for all incidents, or the event is for all, or both are for the same one. -/
def Concerns (incidentOf : E → Option String) (incidentId : Option String) (event : E) : Prop :=
  incidentId = none ∨ incidentId = some "" ∨ incidentOf event = none ∨ incidentOf event = incidentId

instance (incidentOf : E → Option String) (incidentId : Option String) :
    DecidablePred (Concerns incidentOf incidentId) := fun event => by
  unfold Concerns
  infer_instance

/-- What `stream` sends after one `wait_for`, which gives no event when it times out. -/
def streamFrame (incidentOf : E → Option String) (incidentId : Option String) :
    Option E → Option (StreamFrame E)
  | none => some .keepAlive
  | some event => if Concerns incidentOf incidentId event then some (.event event) else none

def streamFrames (incidentOf : E → Option String) (incidentId : Option String)
    (waits : List (Option E)) : List (StreamFrame E) :=
  .opened :: waits.filterMap (streamFrame incidentOf incidentId)

def StreamFrame.shown : StreamFrame E → Option E
  | .event e => some e
  | .opened | .keepAlive => none

/-- What one step may do to the queue of a subscriber. -/
inductive QueueMoves (handle : ℕ) (queue : List E) : BrokerAction E → List E → Prop where
  | stays {a} : QueueMoves handle queue a queue
  | queued {event} : QueueMoves handle queue (.publish event) (queue ++ [event])
  | read {event rest} : queue = event :: rest → QueueMoves handle queue (.get handle event) rest
  | dropped {oldest rest event} : queue = oldest :: rest → (rest ++ [event]).length = queueSize →
      QueueMoves handle queue (.publish event) (rest ++ [event])

/-- What a subscriber is owed in a state that a run has reached. -/
structure Delivered (b : EventBroker E) (actions : List (BrokerAction E)) (handle : ℕ) : Prop where
  suffix : handle ∈ b.subscribers → b.items handle <:+ publishedSince handle actions
  length_le : (b.items handle).length ≤ queueSize
  leaves : ∀ a b', BrokerStep b a b' → QueueMoves handle (b.items handle) a (b'.items handle)
  inOrder : (readBy handle actions ++ b.items handle).Sublist (publishedSince handle actions)
  newest : handle ∈ b.subscribers → b.items handle = [] →
    (readBy handle actions).getLast? = (publishedSince handle actions).getLast?
  ownPace : ∀ actions' b', BrokerRun actions' b' →
    ownView handle actions' = ownView handle actions →
    readBy handle actions' = readBy handle actions ∧ b'.items handle = b.items handle

section
variable {E : Type u} {b b' : EventBroker E} {a : BrokerAction E} {handle : ℕ} {event : E}
variable {actions : List (BrokerAction E)} {listing : List ℕ}

theorem AsyncQueue.offer_eq {q : AsyncQueue E} {w : Window E} (hpos : 0 < q.maxsize)
    (hle : q.items.length ≤ q.maxsize) (hw : q.items = w.queued) (event : E) :
    q.offer event = ⟨q.maxsize, (w.push q.maxsize event).queued⟩ := by
  obtain ⟨maxsize, items⟩ := q
  by_cases hroom : items.length < maxsize
  · have hfull : ¬ maxsize ≤ items.length := Nat.not_le.2 hroom
    simp [offer, full, putNowait, hfull, Window.push, ← hw, hroom]
  · cases items with
    | nil => exact absurd hpos hroom
    | cons oldest rest =>
      have hrest : ¬ maxsize ≤ rest.length := Nat.not_le.2 hle
      have hfull : maxsize ≤ rest.length + 1 := Nat.le_of_not_lt hroom
      simp [offer, full, getNowait, putNowait, hpos, hrest, hfull, Window.push, ← hw,
        Nat.not_lt.2 hfull]

theorem EventBroker.subscribers_publish (b : EventBroker E) (listing : List ℕ) (event : E) :
    (b.publish listing event).subscribers = b.subscribers := by
  induction listing generalizing b with
  | nil => rfl
  | cons h listing ih => exact ih _

theorem EventBroker.queues_publish (b : EventBroker E) (hnodup : listing.Nodup) (event : E)
    (handle : ℕ) : (b.publish listing event).queues handle =
      if handle ∈ listing then (b.queues handle).map (·.offer event) else b.queues handle := by
  induction listing generalizing b with
  | nil => rfl
  | cons h listing ih =>
    obtain ⟨hnot, hnodup⟩ := List.nodup_cons.1 hnodup
    have hrest := ih { b with
      queues := Function.update b.queues h ((b.queues h).map (·.offer event)) } hnodup
    rw [publish, List.foldl_cons]
    refine hrest.trans ?_
    by_cases hh : handle = h
    · subst hh
      simp [hnot]
    · simp [hh]

theorem ownView_append (a : BrokerAction E) :
    ownView handle (actions ++ [a]) = ownView handle actions ++ (a.own handle).toList := by
  rw [ownView, List.filterMap_append]
  cases h : a.own handle <;> simp [ownView, h]

theorem readBy_append (a : BrokerAction E) :
    readBy handle (actions ++ [a]) = readBy handle actions ++ (a.reads handle).toList := by
  rw [readBy, List.filterMap_append]
  cases h : a.reads handle <;> simp [readBy, h]

theorem subscription_append (a : BrokerAction E) : subscription handle (actions ++ [a]) =
    ((a.own handle).toList).foldl Subscription.step (subscription handle actions) := by
  rw [subscription, ownView_append, List.foldl_append]
  rfl

theorem queueSize_pos : 0 < queueSize := by decide

/-- A subscription follows the publications as long as it is open, and what it has read and may
still read are some of them in order, even when it has ended. -/
theorem Subscription.follows (view : List (Own E)) :
    (view.foldl step {}).window.queued.length ≤ queueSize ∧
      ((view.foldl step {}).window.read ++ (view.foldl step {}).window.queued).Sublist
        (view.foldl Own.since []) ∧
      ((view.foldl step {}).isOpen = true →
        (view.foldl step {}).window.Follows queueSize (view.foldl Own.since [])) := by
  induction view using List.reverseRecOn with
  | nil => exact ⟨Nat.zero_le _, List.Sublist.refl _, fun h => by simp at h⟩
  | append_singleton view own ih =>
    obtain ⟨hlen, hsub, hopen⟩ := ih
    simp only [List.foldl_append, List.foldl_cons, List.foldl_nil]
    generalize view.foldl step {} = s at hlen hsub hopen ⊢
    generalize view.foldl Own.since [] = published at hsub hopen ⊢
    cases own with
    | publish event =>
      by_cases hs : s.isOpen = true
      · have hpush := (hopen hs).push queueSize_pos event
        simp only [step, hs, ↓reduceIte]
        exact ⟨hpush.length_le, hpush.sublist, fun _ => hpush⟩
      · simp only [step, hs]
        exact ⟨hlen, hsub.trans (List.sublist_append_left _ _), fun h => absurd h hs⟩
    | subscribe =>
      exact ⟨Nat.zero_le _, List.Sublist.refl _, fun _ => Window.follows_nil queueSize⟩
    | unsubscribe => exact ⟨hlen, hsub, fun h => by simp [step] at h⟩
    | get =>
      refine ⟨Nat.le_trans s.window.pop_suffix.length_le hlen, ?_, fun hs => (hopen hs).pop⟩
      rw [Subscription.step, Window.pop_append]
      exact hsub

/-- The broker keeps a subscription in its queue. -/
structure Mirrors (b : EventBroker E) (actions : List (BrokerAction E)) (handle : ℕ) : Prop where
  isOpen : handle ∈ b.subscribers ↔ (subscription handle actions).isOpen = true
  queue : b.queues handle = none ∧ readBy handle actions = [] ∧
      (subscription handle actions).window = {} ∧ handle ∉ b.subscribers ∨
    b.queues handle = some ⟨queueSize, (subscription handle actions).window.queued⟩
  read : readBy handle actions = (subscription handle actions).window.read

theorem Mirrors.items (h : Mirrors b actions handle) :
    b.items handle = (subscription handle actions).window.queued := by
  rcases h.queue with ⟨hq, -, hw, -⟩ | hq
  · simp [EventBroker.items, hq, hw]
  · simp [EventBroker.items, hq]

theorem Mirrors.other (h : Mirrors b actions handle) (hown : a.own handle = none)
    (hreads : a.reads handle = none) (hsub : handle ∈ b'.subscribers ↔ handle ∈ b.subscribers)
    (hqueue : b'.queues handle = b.queues handle) : Mirrors b' (actions ++ [a]) handle := by
  have hs : subscription handle (actions ++ [a]) = subscription handle actions := by
    rw [subscription_append, hown]
    rfl
  have hr : readBy handle (actions ++ [a]) = readBy handle actions := by
    rw [readBy_append, hreads]
    simp
  constructor
  · rw [hs, hsub]
    exact h.isOpen
  · rw [hs, hr, hsub, hqueue]
    exact h.queue
  · rw [hs, hr]
    exact h.read

theorem EventBroker.get_eq_some (h : b.get handle = some (event, b')) :
    ∃ maxsize items, b.queues handle = some ⟨maxsize, event :: items⟩ ∧
      b' = { b with queues := Function.update b.queues handle (some ⟨maxsize, items⟩) } := by
  unfold get at h
  cases hq : b.queues handle with
  | none => simp [hq] at h
  | some q =>
    obtain ⟨maxsize, items⟩ := q
    cases items with
    | nil => simp [hq, AsyncQueue.getNowait] at h
    | cons first items =>
      simp only [hq, AsyncQueue.getNowait, Option.some.injEq, Prod.mk.injEq] at h
      obtain ⟨rfl, rfl⟩ := h
      exact ⟨maxsize, items, rfl, rfl⟩

theorem Mirrors.publish (h : Mirrors b actions handle) (hnodup : listing.Nodup)
    (hlisting : ∀ h, h ∈ listing ↔ h ∈ b.subscribers) (event : E) :
    Mirrors (b.publish listing event) (actions ++ [.publish event]) handle := by
  have hs : subscription handle (actions ++ [.publish event]) =
      (subscription handle actions).step (.publish event) := subscription_append _
  have hr : readBy handle (actions ++ [.publish event]) = readBy handle actions := by
    simp [readBy_append, BrokerAction.reads]
  by_cases hsub : handle ∈ b.subscribers
  · have hopen := h.isOpen.1 hsub
    rw [Subscription.step, if_pos hopen] at hs
    have hqueue : b.queues handle =
        some ⟨queueSize, (subscription handle actions).window.queued⟩ := by
      rcases h.queue with ⟨-, -, -, hnot⟩ | hq
      · exact absurd hsub hnot
      · exact hq
    have hle := (Subscription.follows (ownView handle actions)).1
    constructor
    · rw [b.subscribers_publish, hs]
      exact h.isOpen
    · right
      rw [b.queues_publish hnodup, if_pos ((hlisting handle).2 hsub), hqueue, Option.map_some, hs,
        AsyncQueue.offer_eq queueSize_pos hle rfl]
    · rw [hr, hs]
      exact h.read
  · have hopen : ¬ (subscription handle actions).isOpen = true := fun ho => hsub (h.isOpen.2 ho)
    rw [Subscription.step, if_neg hopen] at hs
    constructor
    · rw [b.subscribers_publish, hs]
      exact h.isOpen
    · rw [b.queues_publish hnodup, if_neg (fun hl => hsub ((hlisting handle).1 hl)),
        b.subscribers_publish, hs, hr]
      exact h.queue
    · rw [hr, hs]
      exact h.read

theorem Mirrors.subscribe (h : Mirrors b actions handle) (hq : b.queues handle = none) :
    Mirrors (b.subscribe handle) (actions ++ [.subscribe handle]) handle := by
  have hs : subscription handle (actions ++ [.subscribe handle]) = { isOpen := true } := by
    simp [subscription_append, BrokerAction.own, Subscription.step]
  have hr : readBy handle (actions ++ [.subscribe handle]) = [] := by
    rcases h.queue with ⟨-, hnil, -⟩ | hsome
    · simp [readBy_append, BrokerAction.reads, hnil]
    · simp [hq] at hsome
  constructor
  · rw [hs]
    simp [EventBroker.subscribe]
  · rw [hs]
    exact .inr (Function.update_self _ _ _)
  · rw [hr, hs]

theorem Mirrors.unsubscribe (h : Mirrors b actions handle) :
    Mirrors (b.unsubscribe handle) (actions ++ [.unsubscribe handle]) handle := by
  have hs : subscription handle (actions ++ [.unsubscribe handle]) =
      { subscription handle actions with isOpen := false } := by
    simp [subscription_append, BrokerAction.own, Subscription.step]
  have hr : readBy handle (actions ++ [.unsubscribe handle]) = readBy handle actions := by
    simp [readBy_append, BrokerAction.reads]
  constructor
  · rw [hs]
    simp [EventBroker.unsubscribe]
  · rw [hs, hr]
    rcases h.queue with ⟨hq, hnil, hw, -⟩ | hq
    · exact .inl ⟨hq, hnil, hw, by simp [EventBroker.unsubscribe]⟩
    · exact .inr hq
  · rw [hr, hs]
    exact h.read

theorem Mirrors.get (h : Mirrors b actions handle) (hget : b.get handle = some (event, b')) :
    Mirrors b' (actions ++ [.get handle event]) handle := by
  obtain ⟨maxsize, items, hq, rfl⟩ := EventBroker.get_eq_some hget
  have hs : subscription handle (actions ++ [.get handle event]) =
      { subscription handle actions with window := (subscription handle actions).window.pop } := by
    simp [subscription_append, BrokerAction.own, Subscription.step]
  have hr : readBy handle (actions ++ [.get handle event]) =
      readBy handle actions ++ [event] := by
    simp [readBy_append, BrokerAction.reads]
  rcases h.queue with ⟨hnone, -⟩ | hqueue
  · simp [hq] at hnone
  · obtain ⟨rfl, hitems⟩ : maxsize = queueSize ∧
        event :: items = (subscription handle actions).window.queued := by
      simpa [hq] using hqueue
    have hpop : (subscription handle actions).window.pop =
        ⟨items, (subscription handle actions).window.read ++ [event]⟩ := by
      rw [Window.pop, ← hitems]
    constructor
    · rw [hs]
      exact h.isOpen
    · right
      rw [hs, hpop]
      exact Function.update_self _ _ _
    · rw [hr, hs, hpop, h.read]

theorem Mirrors.step (h : Mirrors b actions handle) (hstep : BrokerStep b a b') :
    Mirrors b' (actions ++ [a]) handle := by
  cases hstep with
  | publish hnodup hlisting => exact h.publish hnodup hlisting _
  | @subscribe other hq =>
    by_cases hother : other = handle
    · subst hother
      exact h.subscribe hq
    · have hne : handle ≠ other := Ne.symm hother
      apply h.other (by simp [BrokerAction.own, hother]) rfl
      · simp [EventBroker.subscribe, hne]
      · exact Function.update_of_ne hne _ _
  | @unsubscribe other =>
    by_cases hother : other = handle
    · subst hother
      exact h.unsubscribe
    · have hne : handle ≠ other := Ne.symm hother
      apply h.other (by simp [BrokerAction.own, hother]) rfl
      · simp [EventBroker.unsubscribe, hne]
      · rfl
  | @get other event _ hget =>
    by_cases hother : other = handle
    · subst hother
      exact h.get hget
    · obtain ⟨maxsize, items, -, rfl⟩ := EventBroker.get_eq_some hget
      have hne : handle ≠ other := Ne.symm hother
      refine h.other ?_ ?_ (Iff.refl _) (Function.update_of_ne hne _ _)
      · simp [BrokerAction.own, hother]
      · simp [BrokerAction.reads, hother]

theorem mirrors_run (h : BrokerRun actions b) (handle : ℕ) : Mirrors b actions handle := by
  induction h with
  | start => exact ⟨by simp [subscription, ownView], .inl ⟨rfl, rfl, rfl, by simp⟩, rfl⟩
  | step _ hstep ih => exact ih.step hstep

/-- Only a publication into a full queue drops an event, and it then fills the queue with newer
ones. -/
theorem Mirrors.moves (h : Mirrors b actions handle) (hstep : BrokerStep b a b') :
    QueueMoves handle (b.items handle) a (b'.items handle) := by
  rw [(h.step hstep).items, h.items, subscription_append]
  have hlen := (Subscription.follows (ownView handle actions)).1
  cases hstep with
  | @publish listing event _ _ =>
    simp only [BrokerAction.own, Option.toList_some, List.foldl_cons, List.foldl_nil,
      Subscription.step]
    split
    · by_cases hroom : (subscription handle actions).window.queued.length < queueSize
      · rw [Window.push_room hroom]
        exact .queued
      · cases hq : (subscription handle actions).window.queued with
        | nil => simp [hq, queueSize_pos] at hroom
        | cons oldest rest =>
          rw [Window.push_full hq hroom]
          apply QueueMoves.dropped rfl
          have hfull := Nat.le_antisymm hlen (Nat.le_of_not_lt hroom)
          rw [← subscription, hq] at hfull
          simpa using hfull
    · exact .stays
  | @subscribe other hq =>
    by_cases hother : other = handle
    · subst hother
      have hitems : (subscription other actions).window.queued = [] := by
        rw [← h.items]
        simp [EventBroker.items, hq]
      rw [hitems]
      simpa [BrokerAction.own, Subscription.step] using QueueMoves.stays
    · simpa [BrokerAction.own, hother] using QueueMoves.stays
  | @unsubscribe other =>
    by_cases hother : other = handle
    · simpa [BrokerAction.own, hother, Subscription.step] using QueueMoves.stays
    · simpa [BrokerAction.own, hother] using QueueMoves.stays
  | @get other event _ hget =>
    by_cases hother : other = handle
    · subst hother
      obtain ⟨maxsize, items, hq, -⟩ := EventBroker.get_eq_some hget
      have hitems : (subscription other actions).window.queued = event :: items := by
        rw [← h.items]
        simp [EventBroker.items, hq]
      have hpop : (subscription other actions).window.pop.queued = items := by
        rw [Window.pop, hitems]
      simp only [BrokerAction.own, ↓reduceIte, Option.toList_some, List.foldl_cons,
        List.foldl_nil, Subscription.step, hpop]
      exact .read hitems
    · simpa [BrokerAction.own, hother] using QueueMoves.stays

/-- The delivery law, in every state that some interleaving reaches and for every subscription. -/
theorem broker_delivers (h : BrokerRun actions b) (handle : ℕ) : Delivered b actions handle := by
  have hmirror := mirrors_run h handle
  have hitems := hmirror.items
  have hread := hmirror.read
  obtain ⟨hlen, hsub, hopen⟩ := Subscription.follows (ownView handle actions)
  constructor
  case suffix =>
    intro hmem
    rw [hitems]
    exact (hopen (hmirror.isOpen.1 hmem)).suffix
  case length_le =>
    rw [hitems]
    exact hlen
  case leaves => exact fun a b' hstep => hmirror.moves hstep
  case inOrder =>
    rw [hread, hitems]
    exact hsub
  case newest =>
    intro hmem hnil
    have hnewest := (hopen (hmirror.isOpen.1 hmem)).newest
    rw [← subscription, ← hread, ← hitems, hnil, List.append_nil] at hnewest
    exact hnewest
  case ownPace =>
    intro actions' b' h' hview
    have hmirror' := mirrors_run h' handle
    have hsame : subscription handle actions' = subscription handle actions := by
      rw [subscription, subscription, hview]
    rw [hread, hitems, hmirror'.read, hmirror'.items, hsame]
    exact ⟨rfl, rfl⟩

theorem streamFrames_shown (incidentOf : E → Option String) (incidentId : Option String)
    (waits : List (Option E)) :
    (streamFrames incidentOf incidentId waits).filterMap StreamFrame.shown =
      (waits.filterMap id).filter (Concerns incidentOf incidentId) := by
  rw [streamFrames, List.filterMap_cons_none rfl]
  induction waits with
  | nil => rfl
  | cons wait waits ih =>
    cases wait with
    | none =>
      have hshown : (StreamFrame.keepAlive : StreamFrame E).shown = none := rfl
      simpa [streamFrame, hshown] using ih
    | some event =>
      by_cases hc : Concerns incidentOf incidentId event
      · simpa [streamFrame, StreamFrame.shown, hc] using ih
      · simpa [streamFrame, hc] using ih

/-- Of two subscribers one has read the first of two events, the other none. -/
theorem broker_delivers_slow_reader :
    ∃ b : EventBroker ℕ, b.items 1 = [10, 11] ∧
      Delivered b [.subscribe 0, .subscribe 1, .publish 10, .publish 11, .get 0 10] 0 ∧
      Delivered b [.subscribe 0, .subscribe 1, .publish 10, .publish 11, .get 0 10] 1 := by
  have hstart := BrokerRun.start (E := ℕ)
  have h₁ := hstart.step (a := .subscribe 0) (.subscribe rfl)
  have h₂ := h₁.step (a := .subscribe 1) (.subscribe rfl)
  have h₃ := h₂.step (a := .publish 10) (@BrokerStep.publish _ _ [0, 1] _ (by decide)
    (by simp [EventBroker.subscribe, or_comm]))
  have h₄ := h₃.step (a := .publish 11) (@BrokerStep.publish _ _ [1, 0] _ (by decide)
    (by simp [EventBroker.subscribers_publish, EventBroker.subscribe]))
  have h₅ := h₄.step (a := .get 0 10) (.get rfl)
  exact ⟨_, by decide, broker_delivers h₅ 0, broker_delivers h₅ 1⟩

end

end Salgil
