import Salgil.PlannerSearch
import Salgil.RoadGraphFacts
import Mathlib.Algebra.BigOperators.Group.List.Lemmas

namespace Salgil
set_option autoImplicit true
set_option linter.unusedSectionVars false

section
variable {K : Type u} [Field K] [LinearOrder K] [IsStrictOrderedRing K] [FloorRing K] [MathLib K]

/-- A node may be left as long as the trip has not taken longer than the limit. -/
def inTime (dep maxDur : K) (t : K) : Prop := t - dep ≤ maxDur

theorem inTime.mono {dep maxDur s t : K} (h : s ≤ t) (ht : inTime dep maxDur t) :
    inTime dep maxDur s :=
  (sub_le_sub_right h dep).trans ht

/-- A shut edge was met: it leaves some node at its earliest arrival, which is in time. -/
def MetShut (graph : RoadGraph K) (profile : ModeProfile K) (hazard : HazardField K)
    (policy : HazardPolicy K) (dep maxDur : K) (arrival : NodeId K → K → Prop) : Prop :=
  ∃ n t, arrival n t ∧ inTime dep maxDur t ∧
    ∃ e ∈ graph.neighbours n, (roadTimes graph profile hazard policy).arrive e t = none

/-- The invariant of the loop, with the nodes expanded so far, newest first. -/
structure SearchInv (graph : RoadGraph K) (profile : ModeProfile K) (hazard : HazardField K)
    (policy : HazardPolicy K) (start goal : NodeId K) (dep maxDur : K) (S : List (NodeId K))
    (st : SearchState K) : Prop where
  sound : st.labels.Sound (roadTimes graph profile hazard policy) (inTime dep maxDur) start dep S
    (fun _ _ => True)
  sorted : st.queue.Pairwise entryLe
  explored : st.explored = S.length
  goal_notMem : goal ∉ S
  refused : st.Refused ↔
    MetShut graph profile hazard policy dep maxDur fun n t => n ∈ S ∧ st.best n = some t

variable {graph : RoadGraph K} {profile : ModeProfile K} {hazard : HazardField K}
variable {policy : HazardPolicy K} {start goal n : NodeId K} {dep maxDur t : K}
variable {S : List (NodeId K)} {st : SearchState K} {q : List (K × NodeId K)}

theorem SearchInv.init : SearchInv graph profile hazard policy start goal dep maxDur []
    (SearchState.init start dep) where
  sound := Labels.init_sound
  sorted := List.pairwise_singleton _ _
  explored := rfl
  goal_notMem := List.not_mem_nil
  refused := by simp [SearchState.Refused, SearchState.init, MetShut]

theorem SearchInv.least_queued
    (h : SearchInv graph profile hazard policy start goal dep maxDur S st)
    (hq : st.queue = (t, n) :: q) : ∀ a m, (a, m) ∈ q → t ≤ a := by
  intro a m ham
  have hs := h.sorted
  rw [hq] at hs
  exact entryLe_fst (List.rel_of_pairwise_cons hs ham)

theorem SearchInv.labels_queue (hq : st.queue = (t, n) :: q) :
    st.labels.queue = (t, n) ::ₘ (q : Multiset (K × NodeId K)) := by
  simp [SearchState.labels, hq]

theorem SearchInv.label_eq (h : SearchInv graph profile hazard policy start goal dep maxDur S st)
    (hq : st.queue = (t, n) :: q) (hlive : ¬ (st.best n).any (· < t)) : st.best n = some t := by
  have hmem : (t, n) ∈ st.labels.queue := by
    rw [labels_queue hq]
    exact Multiset.mem_cons_self _ _
  obtain ⟨b, hb, hbt⟩ := h.sound.queued hmem
  have hb' : st.best n = some b := hb
  have hge : ¬ b < t := by simpa [hb'] using hlive
  rw [hb', le_antisymm hbt (not_lt.1 hge)]

theorem SearchInv.settle (h : SearchInv graph profile hazard policy start goal dep maxDur S st)
    (hq : st.queue = (t, n) :: q) (hb : st.best n = some t) :
    n ∉ S ∧ (SearchState.labels { st with queue := q, explored := st.explored + 1 }).Sound
      (roadTimes graph profile hazard policy) (inTime dep maxDur) start dep (n :: S)
      (fun m _ => m ≠ n) := by
  obtain ⟨hn, hs⟩ := h.sound.settle (labels_queue hq) (h.least_queued hq) hb
  exact ⟨hn, hs.mono fun m _ e _ hm => ⟨hm, trivial⟩⟩

theorem SearchInv.expand (h : SearchInv graph profile hazard policy start goal dep maxDur S st)
    (hm : Metric graph profile policy) (hq : st.queue = (t, n) :: q)
    (hb : st.best n = some t) (hn : n ≠ goal) (hmay : inTime dep maxDur t) :
    Ends hazard.Unreadable (fun st' =>
      SearchInv graph profile hazard policy start goal dep maxDur (n :: S) st' ∧
      st'.queue.length ≤ q.length + (graph.neighbours n).length)
      ((graph.neighbours n).foldlM (relaxEdge profile hazard policy t n)
        { st with queue := q, explored := st.explored + 1 }) := by
  obtain ⟨hnS, hsettle⟩ := h.settle hq hb
  have htop : ∀ {m b}, m ∈ n :: S → st.best m = some b → b ≤ t := by
    intro m b hmem hmb
    rcases List.mem_cons.1 hmem with rfl | hmem
    · exact (Option.some.inj (hmb.symm.trans hb)).le
    · obtain ⟨b', hb', hle⟩ := h.sound.settled hmem
      obtain rfl : b = b' := Option.some.inj (hmb.symm.trans hb')
      exact hle t n (by simp [labels_queue hq])
  have hfold := Ends.foldlM (E := hazard.Unreadable)
    (l := graph.neighbours n) (f := relaxEdge profile hazard policy t n)
    (b := { st with queue := q, explored := st.explored + 1 })
    (R := fun done st' =>
      st'.labels.Sound (roadTimes graph profile hazard policy) (inTime dep maxDur) start dep
        (n :: S) (fun m e => m ≠ n ∨ e ∈ done) ∧
      (∀ m ∈ n :: S, st'.best m = st.best m) ∧ st'.queue.Pairwise entryLe ∧
      st'.queue.length ≤ q.length + done.length ∧ st'.explored = st.explored + 1 ∧
      (st'.Refused ↔ st.Refused ∨
        ∃ e ∈ done, (roadTimes graph profile hazard policy).arrive e t = none))
    (by
      refine ⟨hsettle.mono fun m _ e _ hme => hme.resolve_right List.not_mem_nil,
        fun _ _ => rfl, ?_, le_rfl, rfl, ?_⟩
      · exact (List.pairwise_cons.1 (hq ▸ h.sorted)).2
      · simp [SearchState.Refused])
    (by
      rintro done e st₁ he ⟨hs, hbest, hsorted, hlen, hexp, href⟩
      refine (relaxEdge_ends graph profile hazard policy t n st₁ e).mono ?_
      rintro st₂ ⟨hrel, hsort₂, hlen₂, hexp₂, href₂⟩
      have hmem : n ∈ n :: S := List.mem_cons_self
      have hbn : st₁.best n = some t := (hbest n hmem).trans hb
      obtain ⟨hs₂, hbest₂⟩ := hs.relax (roadTimes_fifo hm) hmem hbn hmay
        (fun hk hkb => htop hk ((hbest _ hk).symm.trans hkb)) he hrel
      refine ⟨hs₂.mono ?_, fun m hmS => (hbest₂ m hmS).trans (hbest m hmS),
        hsort₂ hsorted, ?_, hexp₂.trans hexp, ?_⟩
      · intro m _ e' _ hme
        simp only [List.mem_append, List.mem_singleton] at hme
        by_cases hmn : m = n
        · rcases hme with hme | hme | hme
          · exact .inl (.inl hme)
          · exact .inl (.inr hme)
          · exact .inr ⟨hmn, hme⟩
        · exact .inl (.inl hmn)
      · rw [List.length_append, List.length_singleton]
        omega
      · simp only [href₂, href, List.mem_append, List.mem_singleton, or_and_right, exists_or,
          exists_eq_left, or_assoc])
  refine hfold.mono ?_
  rintro st' ⟨hs, hbest, hsorted, hlen, hexp, href⟩
  refine ⟨⟨hs.mono ?_, hsorted, ?_, ?_, ?_⟩, hlen⟩
  · rintro m _ e he -
    by_cases hmn : m = n
    · exact .inr (hmn ▸ he)
    · exact .inl hmn
  · rw [hexp, h.explored, List.length_cons]
  · exact List.not_mem_cons_of_ne_of_not_mem hn.symm h.goal_notMem
  · rw [href, h.refused]
    constructor
    · rintro (⟨m, s, ⟨hmS, hms⟩, hmt, e, he, hshut⟩ | ⟨e, he, hshut⟩)
      · exact ⟨m, s, ⟨List.mem_cons_of_mem _ hmS, (hbest m (List.mem_cons_of_mem _ hmS)).trans hms⟩,
          hmt, e, he, hshut⟩
      · exact
          ⟨n, t, ⟨List.mem_cons_self, (hbest n List.mem_cons_self).trans hb⟩, hmay, e, he, hshut⟩
    · rintro ⟨m, s, ⟨hmS, hms⟩, hmt, e, he, hshut⟩
      rw [hbest m hmS] at hms
      rcases List.mem_cons.1 hmS with rfl | hmS
      · obtain rfl : t = s := Option.some.inj (hb.symm.trans hms)
        exact .inr ⟨e, he, hshut⟩
      · exact .inl ⟨m, s, ⟨hmS, hms⟩, hmt, e, he, hshut⟩

/-- An entry popped after the time limit settles its node without looking at its edges. -/
theorem SearchInv.prune (h : SearchInv graph profile hazard policy start goal dep maxDur S st)
    (hq : st.queue = (t, n) :: q) (hb : st.best n = some t) (hn : n ≠ goal)
    (hlate : ¬ inTime dep maxDur t) :
    SearchInv graph profile hazard policy start goal dep maxDur (n :: S)
      { st with queue := q, explored := st.explored + 1 } where
  sound :=
    { (h.settle hq hb).2 with
      complete := by
        intro m s e c hm hs hmay he _ ha
        by_cases hmn : m = n
        · subst hmn
          obtain rfl : t = s := Option.some.inj (hb.symm.trans hs)
          exact absurd hmay hlate
        · exact (h.settle hq hb).2.complete hm hs hmay he hmn ha }
  sorted := (List.pairwise_cons.1 (hq ▸ h.sorted)).2
  explored := congrArg (· + 1) h.explored
  goal_notMem := List.not_mem_cons_of_ne_of_not_mem hn.symm h.goal_notMem
  refused := by
    refine h.refused.trans ⟨?_, ?_⟩
    · rintro ⟨m, s, ⟨hm, hs⟩, hmt, hshut⟩
      exact ⟨m, s, ⟨List.mem_cons_of_mem _ hm, hs⟩, hmt, hshut⟩
    · rintro ⟨m, s, ⟨hm, hs⟩, hmt, hshut⟩
      rcases List.mem_cons.1 hm with rfl | hm
      · obtain rfl : t = s := Option.some.inj (hb.symm.trans hs)
        exact absurd hmt hlate
      · exact ⟨m, s, ⟨hm, hs⟩, hmt, hshut⟩

theorem SearchInv.drop_stale
    (h : SearchInv graph profile hazard policy start goal dep maxDur S st)
    (hq : st.queue = (t, n) :: q) (hstale : (st.best n).any (· < t)) :
    SearchInv graph profile hazard policy start goal dep maxDur S { st with queue := q } where
  sound := by
    cases hb : st.best n with
    | none => simp [hb] at hstale
    | some b => exact h.sound.skip (labels_queue hq) hb (by simpa [hb] using hstale)
  sorted := (List.pairwise_cons.1 (hq ▸ h.sorted)).2
  explored := h.explored
  goal_notMem := h.goal_notMem
  refused := h.refused

/-- Everything one round of the loop can do from a state that satisfies the invariant. -/
inductive RoundSpec (graph : RoadGraph K) (profile : ModeProfile K) (hazard : HazardField K)
    (policy : HazardPolicy K) (start goal : NodeId K) (dep maxDur : K) (S : List (NodeId K))
    (st : SearchState K) : Round K → Prop where
  | exhausted : st.queue = [] →
      RoundSpec graph profile hazard policy start goal dep maxDur S st .exhausted
  | stale {st' : SearchState K} :
      SearchInv graph profile hazard policy start goal dep maxDur S st' →
      st'.queue.length + 1 = st.queue.length →
      RoundSpec graph profile hazard policy start goal dep maxDur S st (.stale st')
  | reached {t : K} {q : List (K × NodeId K)} : st.queue = (t, goal) :: q → st.best goal = some t →
      RoundSpec graph profile hazard policy start goal dep maxDur S st
        (.reached t { st with queue := q, explored := st.explored + 1 })
  | expanded {n : NodeId K} {st' : SearchState K} : n ∉ S → n ≠ goal →
      SearchInv graph profile hazard policy start goal dep maxDur (n :: S) st' →
      st'.queue.length + 1 ≤ st.queue.length + (graph.neighbours n).length →
      RoundSpec graph profile hazard policy start goal dep maxDur S st (.expanded n st')

theorem SearchInv.round (h : SearchInv graph profile hazard policy start goal dep maxDur S st)
    (hm : Metric graph profile policy) :
    Ends hazard.Unreadable (RoundSpec graph profile hazard policy start goal dep maxDur S st)
      (searchRound graph profile hazard policy goal dep maxDur st) := by
  cases hq : st.queue with
  | nil => simpa [searchRound, hq] using RoundSpec.exhausted hq
  | cons entry q =>
    obtain ⟨t, n⟩ := entry
    by_cases hstale : (st.best n).any (· < t)
    · have hlen : q.length + 1 = st.queue.length := by simp [hq]
      have hspec := RoundSpec.stale (h.drop_stale hq hstale) hlen
      simpa [searchRound, hq, hstale] using hspec
    · have hb := h.label_eq hq hstale
      have hfresh := (h.settle hq hb).1
      by_cases hn : n = goal
      · subst hn
        simpa [searchRound, hq, hb] using RoundSpec.reached hq hb
      · by_cases hlate : maxDur < t - dep
        · have hlen : q.length + 1 ≤ st.queue.length + (graph.neighbours n).length := by simp [hq]
          have hspec := RoundSpec.expanded hfresh hn (h.prune hq hb hn (not_le.2 hlate)) hlen
          simpa [searchRound, hq, hb, hn, hlate] using hspec
        · have hfold := h.expand hm hq hb hn (not_lt.1 hlate)
          simp only [searchRound, hq, hb, hn, hlate, Option.any_some, lt_self_iff_false,
            decide_false, Bool.false_eq_true, ↓reduceIte]
          refine hfold.bind fun st' hst' => ?_
          exact .expanded hfresh hn hst'.1 (by rw [hq, List.length_cons]; omega)

/-- An upper bound on how many rounds the loop takes. -/
def RoadGraph.searchBudget (graph : RoadGraph K) : ℕ :=
  1 + (graph.nodes.keys.map fun n => (graph.neighbours n).length).sum

/-- What the loop has established when it ends. -/
inductive SearchOutcome.Spec (graph : RoadGraph K) (profile : ModeProfile K)
    (hazard : HazardField K) (policy : HazardPolicy K) (start goal : NodeId K) (dep maxDur : K)
    (count budget : ℕ) : SearchOutcome K → Prop where
  | reached {t : K} {p : List (NodeId K)} {st : SearchState K} :
      IsLeast ((roadTimes graph profile hazard policy).arrivals (inTime dep maxDur) start dep goal)
        t →
      Chain st.previous start p goal →
      (roadTimes graph profile hazard policy).Walk (inTime dep maxDur) start dep p goal t →
      (goal :: p).Nodup → p.length < budget → st.explored = count →
      Spec graph profile hazard policy start goal dep maxDur count budget (.reached t st)
  | exhausted {st : SearchState K} :
      (roadTimes graph profile hazard policy).arrivals (inTime dep maxDur) start dep goal = ∅ →
      (st.Refused ↔ MetShut graph profile hazard policy dep maxDur fun n t =>
        IsLeast ((roadTimes graph profile hazard policy).arrivals (inTime dep maxDur) start dep n)
          t) →
      st.explored = count →
      Spec graph profile hazard policy start goal dep maxDur count budget (.exhausted st)

theorem SearchInv.least_head
    (h : SearchInv graph profile hazard policy start goal dep maxDur S st)
    (hq : st.queue = (t, n) :: q) : ∀ a m, (a, m) ∈ st.labels.queue → t ≤ a := by
  intro a m ham
  rw [labels_queue hq, Multiset.mem_cons] at ham
  rcases ham with he | ham
  · exact (Prod.mk.inj he).1.ge
  · exact h.least_queued hq a m ham

theorem SearchInv.reached_spec
    (h : SearchInv graph profile hazard policy start goal dep maxDur S st)
    (hm : Metric graph profile policy) {N : ℕ}
    (hq : st.queue = (t, goal) :: q) (hb : st.best goal = some t)
    (hN : S.length + st.queue.length ≤ N) :
    SearchOutcome.Spec graph profile hazard policy start goal dep maxDur (S.length + 1) N
      (.reached t { st with queue := q, explored := st.explored + 1 }) := by
  have hmin := h.least_head hq
  obtain ⟨p, hchain, hwalk, hsub, hnodup⟩ := h.sound.routed hb
  have hp : p.length ≤ S.length :=
    ((List.nodup_cons.1 hnodup).2.subperm hsub).length_le
  refine .reached (h.sound.least (roadTimes_fifo hm) inTime.mono hb hmin) hchain hwalk hnodup ?_
    (congrArg (· + 1) h.explored)
  rw [hq, List.length_cons] at hN
  omega

theorem SearchInv.exhausted_spec
    (h : SearchInv graph profile hazard policy start goal dep maxDur S st)
    (hm : Metric graph profile policy) (hq : st.queue = []) (N : ℕ) :
    SearchOutcome.Spec graph profile hazard policy start goal dep maxDur S.length N
      (.exhausted st) := by
  have hq' : st.labels.queue = 0 := by simp [SearchState.labels, hq]
  have hfifo : (roadTimes graph profile hazard policy).Fifo := roadTimes_fifo hm
  refine .exhausted ?_ (h.refused.trans ?_) h.explored
  · rw [← Set.not_nonempty_iff_eq_empty, ← h.sound.exhausted hfifo inTime.mono hq']
    exact h.goal_notMem
  · -- a settled node's label is its earliest arrival, and every reachable node is settled
    constructor
    · rintro ⟨n, t, ⟨hn, hb⟩, hshut⟩
      exact ⟨n, t, h.sound.settled_least hfifo inTime.mono hn hb, hshut⟩
    · rintro ⟨n, t, hleast, hshut⟩
      have hn : n ∈ S := (h.sound.exhausted hfifo inTime.mono hq').2 ⟨t, hleast.1⟩
      obtain ⟨b, hb, -⟩ := h.sound.settled hn
      obtain rfl := (h.sound.settled_least hfifo inTime.mono hn hb).unique hleast
      exact ⟨n, b, ⟨hn, hb⟩, hshut⟩

theorem pending_nil (graph : RoadGraph K) (profile : ModeProfile K) (hazard : HazardField K)
    (policy : HazardPolicy K) :
    1 + (roadTimes graph profile hazard policy).pending graph.nodes.keys.toFinset [] =
      graph.searchBudget := by
  rw [RoadGraph.searchBudget, TimedGraph.pending, Finset.filter_true_of_mem (by simp),
    List.sum_toFinset _ graph.nodes.nodup]
  rfl

theorem pending_cons (graph : RoadGraph K) (profile : ModeProfile K) (hazard : HazardField K)
    (policy : HazardPolicy K) (hn : n ∉ S) :
    (roadTimes graph profile hazard policy).pending graph.nodes.keys.toFinset (n :: S) +
      (graph.neighbours n).length =
        (roadTimes graph profile hazard policy).pending graph.nodes.keys.toFinset S :=
  TimedGraph.pending_settle (G := roadTimes graph profile hazard policy) _
    (fun _ hmem => RoadGraph.neighbours_eq_nil (by simpa using hmem)) hn

/-- The loop ends within the fuel its queue and the edges still ahead call for. -/
theorem SearchInv.run (h : SearchInv graph profile hazard policy start goal dep maxDur S st)
    (hm : Metric graph profile policy) (fuel N : ℕ)
    (hfuel : st.queue.length +
      (roadTimes graph profile hazard policy).pending graph.nodes.keys.toFinset S < fuel)
    (hN : S.length + st.queue.length +
      (roadTimes graph profile hazard policy).pending graph.nodes.keys.toFinset S ≤ N) :
    Ends hazard.Unreadable
      (SearchOutcome.Spec graph profile hazard policy start goal dep maxDur
        (S.length + (expansions graph profile hazard policy goal dep maxDur fuel st).length) N)
      (search graph profile hazard policy goal dep maxDur fuel st) := by
  induction fuel generalizing S st with
  | zero => exact absurd hfuel (Nat.not_lt_zero _)
  | succ fuel ih =>
    have hround := h.round hm
    cases hr : searchRound graph profile hazard policy goal dep maxDur st with
    | error e => simpa [search, hr] using hround.of_error hr
    | ok r =>
      simp only [search, expansions, hr, ok_bind]
      cases hround.of_ok hr with
      | exhausted hq => exact h.exhausted_spec hm hq N
      | stale hinv hlen => exact ih hinv (by omega) (by omega)
      | reached hq hb => exact h.reached_spec hm hq hb (by omega)
      | @expanded n st' hn hne hinv hlen =>
        have hpend := pending_cons graph profile hazard policy hn
        have hrest := ih hinv (by omega) (by rw [List.length_cons]; omega)
        rwa [List.length_cons, Nat.add_right_comm, Nat.add_assoc] at hrest

theorem search_ends (hm : Metric graph profile policy) {fuel : ℕ}
    (hfuel : graph.searchBudget < fuel) :
    Ends hazard.Unreadable
      (SearchOutcome.Spec graph profile hazard policy start goal dep maxDur
        (expansions graph profile hazard policy goal dep maxDur fuel
          (SearchState.init start dep)).length fuel)
      (search graph profile hazard policy goal dep maxDur fuel (SearchState.init start dep)) := by
  have hinit : SearchInv graph profile hazard policy start goal dep maxDur []
    (SearchState.init start dep) := .init
  have hpend := pending_nil graph profile hazard policy
  have hlen : (SearchState.init start dep : SearchState K).queue.length = 1 := rfl
  have hrun := hinit.run hm fuel fuel (by omega)
    (by rw [List.length_nil]; omega)
  rwa [List.length_nil, Nat.zero_add] at hrun

theorem tracePath_chain {prev : NodeId K → Option (NodeId K)} {p : List (NodeId K)}
    (h : Chain prev start p n) {fuel : ℕ} (hfuel : p.length < fuel) :
    tracePath prev start fuel n = .ok (n :: p) := by
  induction h generalizing fuel with
  | nil =>
    cases fuel with
    | zero => exact absurd hfuel (Nat.not_lt_zero _)
    | succ fuel => simp [tracePath]
  | cons hn hprev _ ih =>
    cases fuel with
    | zero => exact absurd hfuel (Nat.not_lt_zero _)
    | succ fuel => simp [tracePath, hn, hprev, ih (Nat.lt_of_succ_lt_succ hfuel)]

theorem measurePath_ends (speed distance elapsed : K) (path : List (NodeId K)) :
    Ends hazard.Unreadable (fun _ => True)
      (measurePath graph hazard speed path distance elapsed) := by
  induction path generalizing distance elapsed with
  | nil => trivial
  | cons a rest ih =>
    cases rest with
    | nil => trivial
    | cons b rest =>
      rw [measurePath]
      exact (hazard.riskAt_ends _ _ _).bind fun _ _ => (ih _ _).bind fun _ _ => trivial

theorem buildResult_ok {fuel : ℕ} {prev : NodeId K → Option (NodeId K)} {duration speed : K}
    {avoided explored : ℕ} {hits : List (BlockedPoint K)} {r : RouteResult K}
    (h : buildResult graph hazard fuel prev start goal duration
      avoided hits explored speed = .ok r) :
    ∃ path first distance rest, tracePath prev start fuel goal = .ok path ∧
      hazard.riskAt start.lat start.lon 0 = .ok first ∧
      measurePath graph hazard speed path.reverse 0 0 = .ok (distance, rest) ∧
      r = ⟨true, none, path.reverse.map fun node => (node.lon, node.lat), pyRound 1 distance,
        pyRound 1 duration, pyRound 5 (rest.foldl max first),
        pyRound 5 ((first :: rest).sum / (first :: rest).length), avoided, hits, explored⟩ := by
  obtain ⟨path, hpath, h⟩ := bind_eq_ok.1 h
  obtain ⟨first, hfirst, h⟩ := bind_eq_ok.1 h
  obtain ⟨⟨distance, rest⟩, hmeasure, h⟩ := bind_eq_ok.1 h
  exact ⟨path, first, distance, rest, hpath, hfirst, hmeasure, (Except.ok.inj h).symm⟩

theorem routeBetween_found {fuel : ℕ} {r : RouteResult K}
    (h : routeBetween fuel graph profile hazard policy start goal dep maxDur = .ok r)
    (hr : r.found = true) :
    ∃ t st, search graph profile hazard policy goal dep maxDur fuel (SearchState.init start dep) =
        .ok (.reached t st) ∧
      buildResult graph hazard fuel st.previous start goal (t - dep) st.avoided st.blockedHits
        st.explored profile.speedMps = .ok r := by
  obtain ⟨outcome, hsearch, h⟩ := bind_eq_ok.1 h
  cases outcome with
  | reached t st => exact ⟨t, st, hsearch, h⟩
  | exhausted st =>
    -- both refusals are not found
    simp only [pure_eq_ok] at h
    split at h <;> simp [← Except.ok.inj h, RouteResult.refused] at hr

/-- What a route the planner returns has to do with the walks of the road graph. -/
inductive RouteResult.Spec (graph : RoadGraph K) (profile : ModeProfile K)
    (hazard : HazardField K) (policy : HazardPolicy K) (start goal : NodeId K) (dep maxDur : K)
    (fuel : ℕ) (r : RouteResult K) : Prop where
  | found {t : K} {p : List (NodeId K)} {st : SearchState K} :
      r.found = true → r.reason = none →
      search graph profile hazard policy goal dep maxDur fuel (SearchState.init start dep) =
        .ok (.reached t st) →
      IsLeast ((roadTimes graph profile hazard policy).arrivals (inTime dep maxDur) start dep goal)
        t →
      (roadTimes graph profile hazard policy).Walk (inTime dep maxDur) start dep p goal t →
      (goal :: p).Nodup →
      r.coordinates = (goal :: p).reverse.map (fun node => (node.lon, node.lat)) →
      r.durationS = pyRound 1 (t - dep) →
      r.exploredNodes = (expansions graph profile hazard policy goal dep maxDur fuel
        (SearchState.init start dep)).length →
      r.Spec graph profile hazard policy start goal dep maxDur fuel
  | refused : r.found = false →
      (roadTimes graph profile hazard policy).arrivals (inTime dep maxDur) start dep goal = ∅ →
      ((∃ avoided closures, r.reason = some (.hazardInTheWay avoided closures)) ↔
        MetShut graph profile hazard policy dep maxDur fun n t =>
          IsLeast ((roadTimes graph profile hazard policy).arrivals (inTime dep maxDur) start dep
            n) t) →
      (r.reason = some .notConnected ↔
        ¬ MetShut graph profile hazard policy dep maxDur fun n t =>
          IsLeast ((roadTimes graph profile hazard policy).arrivals (inTime dep maxDur) start dep
            n) t) →
      r.exploredNodes = (expansions graph profile hazard policy goal dep maxDur fuel
        (SearchState.init start dep)).length →
      r.Spec graph profile hazard policy start goal dep maxDur fuel

theorem routeBetween_ends (hm : Metric graph profile policy) {fuel : ℕ}
    (hfuel : graph.searchBudget < fuel) :
    Ends hazard.Unreadable
      (RouteResult.Spec graph profile hazard policy start goal dep maxDur fuel)
      (routeBetween fuel graph profile hazard policy start goal dep maxDur) := by
  have hsearch : Ends hazard.Unreadable
      (SearchOutcome.Spec graph profile hazard policy start goal dep maxDur _ fuel)
      (search graph profile hazard policy goal dep maxDur fuel (SearchState.init start dep)) :=
    search_ends hm hfuel
  unfold routeBetween
  cases ho : search graph profile hazard policy goal dep maxDur fuel
    (SearchState.init start dep) with
  | error e => exact hsearch.of_error ho
  | ok o =>
    rw [ok_bind]
    cases hsearch.of_ok ho with
    | @reached t p st hleast hchain hwalk hnodup hp hcount =>
      simp only [buildResult, tracePath_chain hchain hp, ok_bind]
      refine (hazard.riskAt_ends _ _ _).bind fun _ _ => (measurePath_ends _ _ _ _).bind ?_
      rintro ⟨distance, rest⟩ -
      exact .found rfl rfl ho hleast hwalk hnodup rfl rfl hcount
    | @exhausted st hempty href hcount =>
      by_cases h : st.Refused
      · have h' : st.avoided ≠ 0 ∨ st.blockedHits ≠ [] := h
        simp only [h', ↓reduceIte]
        exact .refused rfl hempty (iff_of_true ⟨_, _, rfl⟩ (href.1 h))
          (iff_of_false (by simp [RouteResult.refused]) (not_not.2 (href.1 h))) hcount
      · have h' : ¬ (st.avoided ≠ 0 ∨ st.blockedHits ≠ []) := h
        simp only [h', ↓reduceIte]
        exact .refused rfl hempty (iff_of_false (by simp [RouteResult.refused]) (href.not.1 h))
          (iff_of_true rfl (href.not.1 h)) hcount

end

end Salgil
