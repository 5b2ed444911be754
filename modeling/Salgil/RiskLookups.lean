import Salgil.RouteOptimality
import Salgil.RawGraph
import Salgil.Prediction

namespace Salgil
set_option autoImplicit true
set_option linter.unusedSectionVars false

/-- A walk to a node that is not settled has met the queue: some entry is no later than the walk,
and if every edge takes time and the entry is as late, it is for the last node. -/
theorem Labels.Sound.queued_on_walk [LinearOrder K] {G : TimedGraph ν ε K} {may : K → Prop}
    {l : Labels ν K} (h : l.Sound G may src dep S (fun _ _ => True)) (hG : G.Fifo)
    (hm : ∀ {s t}, s ≤ t → may t → may s) (hw : G.Walk may src dep p n t) (hn : n ∉ S) :
    ∃ a m, (a, m) ∈ l.queue ∧ a ≤ t ∧
      ((∀ x e s s', e ∈ G.edges x → G.arrive e s = some s' → s < s') → a = t → m = n) := by
  induction hw with
  | nil => exact ⟨_, _, h.live h.source hn, le_rfl, fun _ _ => rfl⟩
  | @step p x t e t' hw hmay he ha ih =>
    by_cases hx : x ∈ S
    · obtain ⟨b, hb, -⟩ := h.settled hx
      have hbt : b ≤ t := (h.settled_least hG hm hx hb).2 ⟨p, hw⟩
      obtain ⟨c, hc, hct⟩ := hG.mono he hbt ha
      obtain ⟨b', hb', hle⟩ := h.complete hx hb (hm hbt hmay) he trivial hc
      exact ⟨b', _, h.live hb' hn, hle.trans hct, fun _ _ => rfl⟩
    · obtain ⟨a, m, hq, hat, -⟩ := ih hx
      refine ⟨a, m, hq, hat.trans (hG.later he ha), fun hpos heq => ?_⟩
      exact absurd (heq ▸ hat) (not_le.2 (hpos x e t t' he ha))

section
variable {K : Type u} [Field K] [LinearOrder K] [IsStrictOrderedRing K] [FloorRing K] [MathLib K]

theorem entryLe_antisymm {x y : K × NodeId K} (h : entryLe x y) (h' : entryLe y x) : x = y := by
  obtain ⟨t, a⟩ := x
  obtain ⟨t', a'⟩ := y
  have ht : t = t' := le_antisymm (entryLe_fst h) (entryLe_fst h')
  subst ht
  simp only [entryLe, lt_irrefl, true_and, false_or] at h h'
  have hlat : a.lat = a'.lat := by
    rcases h with h | h
    · rcases h' with h' | h'
      · exact absurd h (not_lt.2 h'.le)
      · exact h'.1.symm
    · exact h.1
  simp only [hlat, lt_irrefl, true_and, false_or] at h h'
  rw [Prod.mk.injEq, NodeId.mk.injEq]
  exact ⟨rfl, hlat, le_antisymm h h'⟩

/-- Each of the slices looked into for that time has a value for the place or does not cover it. -/
def HazardField.Shows (f : HazardField K) (lat lon elapsedS : K) : Prop :=
  ∀ s ∈ f.consulted elapsedS, ∃ v, s.valueAt lat lon = .ok v

theorem HazardField.riskAt_shows (f : HazardField K) (lat lon t : K) :
    Ends (fun err => err = .indexError ∧ ¬ f.Shows lat lon t) (fun _ => f.Shows lat lon t)
      (f.riskAt lat lon t) := by
  refine Ends.foldlM (R := fun (done : List (HazardSlice K)) _ =>
    ∀ s ∈ done, ∃ v, s.valueAt lat lon = .ok v) (by simp) ?_
  intro done s worst hs hdone
  cases hvalue : s.valueAt lat lon with
  | error e =>
    obtain ⟨rfl, -⟩ := HazardSlice.valueAt_error hvalue
    rw [worstOf, hvalue]
    refine ⟨rfl, fun hshows => ?_⟩
    obtain ⟨v, hv⟩ := hshows s hs
    cases hvalue.symm.trans hv
  | ok v =>
    have hall : ∀ s' ∈ done ++ [s], ∃ v, s'.valueAt lat lon = .ok v := by
      rw [List.forall_mem_append, List.forall_mem_singleton]
      exact ⟨hdone, v, hvalue⟩
    rw [worstOf, hvalue]
    cases v <;> exact hall

/-- The node is left, at the given time, on the search for the goal: that is its earliest arrival,
it is in time, and it is before the goal's turn. Entries of one time have their turns in the order
of the nodes, at least if every road has a length. -/
structure LeftBefore (graph : RoadGraph K) (profile : ModeProfile K) (hazard : HazardField K)
    (policy : HazardPolicy K) (start goal : NodeId K) (departAfterS maxDurationS : K)
    (n : NodeId K) (t : K) : Prop where
  walk : ∃ p, AdmissibleWalk graph profile hazard policy start departAfterS maxDurationS p n t
  least : ∀ p' t',
      AdmissibleWalk graph profile hazard policy start departAfterS maxDurationS p' n t' →
    t ≤ t'
  in_time : t ≤ departAfterS + maxDurationS
  ne_goal : n ≠ goal
  first : ∀ p' t', AdmissibleWalk graph profile hazard policy start departAfterS maxDurationS p'
    goal t' → t < t' ∨ t = t' ∧ (entryLe (t, n) (t', goal) ∨ ¬ graph.Positive)

/-- If the planner asks for the risk of the end of the edge, the slices show one. -/
def RiskRead (profile : ModeProfile K) (hazard : HazardField K) (t : K) (e : Edge K) : Prop :=
  hazard.blockedByFieldReport e.target.lat e.target.lon = none →
    hazard.Shows e.target.lat e.target.lon (t + e.lengthM / profile.speedMps)

/-- What is asked for on the search for the goal can be read: at the end of every road from a node
that is left before the goal's turn. -/
def EdgesRead (Read : K → Edge K → Prop) (graph : RoadGraph K) (profile : ModeProfile K)
    (hazard : HazardField K) (policy : HazardPolicy K) (start goal : NodeId K) (dep maxDur : K) :
    Prop :=
  ∀ n t, LeftBefore graph profile hazard policy start goal dep maxDur n t →
    ∀ e ∈ graph.neighbours n, Read t e

/-- The slices show every risk that the search for the goal asks for. -/
def SearchReads (graph : RoadGraph K) (profile : ModeProfile K) (hazard : HazardField K)
    (policy : HazardPolicy K) (start goal : NodeId K) (dep maxDur : K) : Prop :=
  EdgesRead (RiskRead profile hazard) graph profile hazard policy start goal dep maxDur

/-- The slices show every risk that the report of a fastest route asks for. -/
def ReportReads (graph : RoadGraph K) (profile : ModeProfile K) (hazard : HazardField K)
    (policy : HazardPolicy K) (start goal : NodeId K) (dep maxDur : K) : Prop :=
  (∃ risk, hazard.riskAt start.lat start.lon 0 = .ok risk) ∧
    ∀ p t, AdmissibleWalk graph profile hazard policy start dep maxDur p goal t →
      (∀ p' t', AdmissibleWalk graph profile hazard policy start dep maxDur p' goal t' → t ≤ t') →
      ∃ out, measurePath graph hazard profile.speedMps (goal :: p).reverse 0 0 = .ok out

variable {graph : RoadGraph K} {profile : ModeProfile K} {hazard : HazardField K}
variable {policy : HazardPolicy K} {start goal n : NodeId K} {dep maxDur t : K}
variable {S : List (NodeId K)} {st : SearchState K} {q : List (K × NodeId K)}

theorem RoadGraph.Positive.takes_time (hpos : graph.Positive) (hm : Metric graph profile policy)
    (x : NodeId K) (e : Edge K) (s s' : K) (he : e ∈ graph.neighbours x)
    (ha : (roadTimes graph profile hazard policy).arrive e s = some s') : s < s' := by
  obtain ⟨-, risk, m, -, hmul, rfl⟩ := roadTimes_arrive.1 ha
  have hm1 := HazardPolicy.one_le_edgeMultiplier hm.one_le_penalty hmul
  have htravel := div_pos (hpos x e he) hm.speed_pos
  exact lt_add_of_pos_right s (mul_pos htravel (zero_lt_one.trans_le hm1))

/-- The first entry of the queue comes before the entry of any walk that ends unsettled. -/
theorem SearchInv.turn (h : SearchInv graph profile hazard policy start goal dep maxDur S st)
    (hm : Metric graph profile policy) (hq : st.queue = (t, n) :: q) {m : NodeId K}
    {p : List (NodeId K)} {t' : K}
    (hw : AdmissibleWalk graph profile hazard policy start dep maxDur p m t') (hmS : m ∉ S) :
    t < t' ∨ t = t' ∧ (entryLe (t, n) (t', m) ∨ ¬ graph.Positive) := by
  obtain ⟨a, k, hak, hat, hlast⟩ := h.sound.queued_on_walk (roadTimes_fifo hm) inTime.mono
    (admissibleWalk_iff.1 hw) hmS
  have hle : entryLe (t, n) (a, k) := by
    rw [labels_queue hq, Multiset.mem_cons] at hak
    rcases hak with hak | hak
    · rw [hak]
      exact refl_of entryLe _
    · exact List.rel_of_pairwise_cons (hq ▸ h.sorted) hak
  have hta : t ≤ a := entryLe_fst hle
  rcases (hta.trans hat).lt_or_eq with hlt | heq
  · exact .inl hlt
  · refine .inr ⟨heq, ?_⟩
    by_cases hpos : graph.Positive
    · have hat' : a = t' := le_antisymm hat (heq ▸ hta)
      have hkm : k = m := hlast (hpos.takes_time hm) hat'
      rw [hat', hkm] at hle
      exact .inl hle
    · exact .inr hpos

theorem SearchInv.leftBefore (h : SearchInv graph profile hazard policy start goal dep maxDur S st)
    (hm : Metric graph profile policy) (hq : st.queue = (t, n) :: q) (hb : st.best n = some t)
    (hn : n ≠ goal) (hmay : inTime dep maxDur t) :
    LeftBefore graph profile hazard policy start goal dep maxDur n t := by
  obtain ⟨⟨p, hwalk⟩, hleast⟩ := h.sound.least (roadTimes_fifo hm) inTime.mono hb
    (h.least_head hq)
  refine ⟨⟨p, admissibleWalk_iff.2 hwalk⟩, ?_, sub_le_iff_le_add'.1 hmay, hn, ?_⟩
  · intro p' t' hw
    exact hleast ⟨p', admissibleWalk_iff.1 hw⟩
  · intro p' t' hw
    exact h.turn hm hq hw h.goal_notMem

/-- If every road has a length, the nodes left before the goal's turn are settled then. -/
theorem SearchInv.settled_of_leftBefore
    (h : SearchInv graph profile hazard policy start goal dep maxDur S st)
    (hm : Metric graph profile policy) (hpos : graph.Positive) {T : K}
    (hq : st.queue = (T, goal) :: q) (hb : st.best goal = some T)
    (hx : LeftBefore graph profile hazard policy start goal dep maxDur n t) : n ∈ S := by
  by_contra hn
  obtain ⟨p, hw⟩ := hx.walk
  obtain ⟨p', -, hw', -⟩ := h.sound.routed hb
  have hgoal := hx.first p' T (admissibleWalk_iff.2 hw')
  rcases h.turn hm hq hw hn with hlt | ⟨heq, hle⟩
  · rcases hgoal with hlt' | ⟨heq, -⟩
    · exact lt_asymm hlt hlt'
    · exact hlt.ne' heq
  · subst heq
    have hle' := (hgoal.resolve_left (lt_irrefl _)).2.resolve_right (not_not.2 hpos)
    exact hx.ne_goal (Prod.mk.inj (entryLe_antisymm hle' (hle.resolve_right (not_not.2 hpos)))).2

theorem LeftBefore.unique {t' : K}
    (h : LeftBefore graph profile hazard policy start goal dep maxDur n t)
    (h' : LeftBefore graph profile hazard policy start goal dep maxDur n t') : t = t' := by
  obtain ⟨p, hw⟩ := h.walk
  obtain ⟨p', hw'⟩ := h'.walk
  exact le_antisymm (h.least p' t' hw') (h'.least p t hw)

/-- A way to relax an edge ends as `relaxEdge` does if it can read what it asks for, and with one
of its errors otherwise. -/
def Relaxes (profile : ModeProfile K) (hazard : HazardField K) (policy : HazardPolicy K)
    (E : PyError → Prop) (Read : K → Edge K → Prop)
    (relax : K → NodeId K → SearchState K → Edge K → Except PyError (SearchState K)) : Prop :=
  ∀ t n st e, Ends (fun err => E err ∧ ¬ Read t e)
    (fun st' => relaxEdge profile hazard policy t n st e = .ok st' ∧ Read t e) (relax t n st e)

theorem relaxEdge_relaxes (profile : ModeProfile K) (hazard : HazardField K)
    (policy : HazardPolicy K) :
    Relaxes profile hazard policy (· = .indexError) (RiskRead profile hazard)
      (relaxEdge profile hazard policy) := by
  intro t n st e
  cases hclosed : hazard.blockedByFieldReport e.target.lat e.target.lon with
  | some report => simp [relaxEdge, hclosed, RiskRead]
  | none =>
    have hends := hazard.riskAt_shows e.target.lat e.target.lon (t + e.lengthM / profile.speedMps)
    cases hrisk : hazard.riskAt e.target.lat e.target.lon (t + e.lengthM / profile.speedMps) with
    | error err =>
      obtain ⟨herr, hshows⟩ := hends.of_error hrisk
      simp only [relaxEdge, hclosed, hrisk, error_bind, Ends.error_iff]
      exact ⟨herr, fun hread => hshows (hread hclosed)⟩
    | ok risk =>
      have hread : RiskRead profile hazard t e := fun _ => hends.of_ok hrisk
      simp only [relaxEdge, hclosed, hrisk, ok_bind]
      split
      · exact ⟨rfl, hread⟩
      · split <;> exact ⟨rfl, hread⟩

section Loop
variable (relax : K → NodeId K → SearchState K → Edge K → Except PyError (SearchState K))
variable (graph : RoadGraph K) (goal : NodeId K) (departAfterS maxDurationS : K)

/-- `searchRound` with another way to relax an edge. -/
def searchRoundWith (st : SearchState K) : Except PyError (Round K) :=
  match st.queue with
  | [] => .ok .exhausted
  | (arrival, node) :: queue =>
    let st := { st with queue := queue }
    if (st.best node).any (· < arrival) then .ok (.stale st)
    else
      let st := { st with explored := st.explored + 1 }
      if node = goal then .ok (.reached arrival st)
      else if maxDurationS < arrival - departAfterS then .ok (.expanded node st)
      else do
        let st ← (graph.neighbours node).foldlM (relax arrival node) st
        return .expanded node st

/-- `search` with another way to relax an edge. -/
def searchWith : ℕ → SearchState K → Except PyError (SearchOutcome K)
  | 0, _ => .error .outOfFuel
  | fuel + 1, st => do
    match ← searchRoundWith relax graph goal departAfterS maxDurationS st with
    | .exhausted => return .exhausted st
    | .reached arrival st => return .reached arrival st
    | .stale st | .expanded _ st => searchWith fuel st

end Loop

theorem search_eq_searchWith (fuel : ℕ) (st : SearchState K) :
    search graph profile hazard policy goal dep maxDur fuel st =
      searchWith (relaxEdge profile hazard policy) graph goal dep maxDur fuel st := by
  induction fuel generalizing st with
  | zero => rfl
  | succ fuel ih =>
    have hround : searchRoundWith (relaxEdge profile hazard policy) graph goal dep maxDur st =
      searchRound graph profile hazard policy goal dep maxDur st := rfl
    rw [search, searchWith, hround]
    cases searchRound graph profile hazard policy goal dep maxDur st with
    | error err => rfl
    | ok r =>
      cases r with
      | exhausted => rfl
      | reached arrival st' => rfl
      | stale st' => exact ih st'
      | expanded node st' => exact ih st'

variable {E : PyError → Prop} {Read : K → Edge K → Prop}
variable {relax : K → NodeId K → SearchState K → Edge K → Except PyError (SearchState K)}

theorem Relaxes.edges (h : Relaxes profile hazard policy E Read relax) (edges : List (Edge K)) :
    Ends (fun err => E err ∧ ¬ ∀ e ∈ edges, Read t e)
      (fun st' => edges.foldlM (relaxEdge profile hazard policy t n) st = .ok st' ∧
        ∀ e ∈ edges, Read t e)
      (edges.foldlM (relax t n) st) := by
  refine Ends.foldlM (R := fun done st' =>
    done.foldlM (relaxEdge profile hazard policy t n) st = .ok st' ∧ ∀ e ∈ done, Read t e)
    ⟨rfl, by simp⟩ ?_
  rintro done e st' he ⟨hdone, hread⟩
  have hstep := h t n st' e
  cases hr : relax t n st' e with
  | error err =>
    obtain ⟨herr, hunread⟩ := hstep.of_error hr
    exact ⟨herr, fun hall => hunread (hall e he)⟩
  | ok st'' =>
    obtain ⟨hsame, hnew⟩ := hstep.of_ok hr
    refine ⟨?_, ?_⟩
    · rw [List.foldlM_append, hdone, ok_bind, List.foldlM_cons, hsame]
      rfl
    · rw [List.forall_mem_append, List.forall_mem_singleton]
      exact ⟨hread, hnew⟩

theorem SearchInv.round_reads (h : SearchInv graph profile hazard policy start goal dep maxDur S st)
    (hm : Metric graph profile policy) (hrelax : Relaxes profile hazard policy E Read relax) :
    Ends (fun err => E err ∧ ¬ EdgesRead Read graph profile hazard policy start goal dep maxDur)
      (fun r => searchRound graph profile hazard policy goal dep maxDur st = .ok r ∧
        ∀ n st', r = .expanded n st' →
        ∀ t, LeftBefore graph profile hazard policy start goal dep maxDur n t →
          ∀ e ∈ graph.neighbours n, Read t e)
      (searchRoundWith relax graph goal dep maxDur st) := by
  cases hq : st.queue with
  | nil => simp [searchRound, searchRoundWith, hq]
  | cons entry q =>
    obtain ⟨t, n⟩ := entry
    by_cases hstale : (st.best n).any (· < t)
    · simp [searchRound, searchRoundWith, hq, hstale]
    · have hb := h.label_eq hq hstale
      by_cases hn : n = goal
      · subst hn
        simp [searchRound, searchRoundWith, hq, hb]
      · by_cases hlate : maxDur < t - dep
        · simp only [searchRound, searchRoundWith, hq, hb, hn, hlate, Option.any_some,
            lt_self_iff_false, decide_false, Bool.false_eq_true, ↓reduceIte, Ends.ok_iff,
            Round.expanded.injEq, true_and]
          rintro m st' ⟨rfl, -⟩ t' hleft
          -- the label is the earliest arrival, and it is too late
          obtain ⟨p, -, hw, -⟩ := h.sound.routed hb
          obtain ⟨p', hw'⟩ := hleft.walk
          rcases h.turn hm hq hw' (h.settle hq hb).1 with hlt | ⟨rfl, -⟩
          · exact absurd (hleft.least p t (admissibleWalk_iff.2 hw)) (not_le.2 hlt)
          · exact absurd (sub_le_iff_le_add'.2 hleft.in_time) (not_le.2 hlate)
        · have hleft := h.leftBefore hm hq hb hn (not_lt.1 hlate)
          simp only [searchRound, searchRoundWith, hq, hb, hn, hlate, Option.any_some,
            lt_self_iff_false, decide_false, Bool.false_eq_true, ↓reduceIte]
          have hedges : Ends _ _ ((graph.neighbours n).foldlM (relax t n)
            { st with queue := q, explored := st.explored + 1 }) :=
            hrelax.edges (graph.neighbours n)
          cases hr : (graph.neighbours n).foldlM (relax t n)
            { st with queue := q, explored := st.explored + 1 } with
          | error err =>
            obtain ⟨herr, hunread⟩ := hedges.of_error hr
            exact ⟨herr, fun hall => hunread (hall n t hleft)⟩
          | ok st' =>
            obtain ⟨hsame, hread⟩ := hedges.of_ok hr
            rw [ok_bind, pure_eq_ok, Ends.ok_iff, hsame]
            refine ⟨rfl, ?_⟩
            intro m st'' heq t' hleft'
            obtain ⟨rfl, -⟩ := Round.expanded.inj heq
            rw [hleft'.unique hleft]
            exact hread

/-- The search ends with an error only if something that it asks for cannot be read; and if every
road has a length, it ends with an error then. -/
theorem SearchInv.search_reads
    (h : SearchInv graph profile hazard policy start goal dep maxDur S st)
    (hm : Metric graph profile policy) (hrelax : Relaxes profile hazard policy E Read relax)
    (hS : ∀ m ∈ S, ∀ t, LeftBefore graph profile hazard policy start goal dep maxDur m t →
      ∀ e ∈ graph.neighbours m, Read t e) (fuel : ℕ)
    (hfuel : st.queue.length +
      (roadTimes graph profile hazard policy).pending graph.nodes.keys.toFinset S < fuel) :
    Ends (fun err => E err ∧ ¬ EdgesRead Read graph profile hazard policy start goal dep maxDur)
      (fun o => search graph profile hazard policy goal dep maxDur fuel st = .ok o ∧
        (graph.Positive → EdgesRead Read graph profile hazard policy start goal dep maxDur))
      (searchWith relax graph goal dep maxDur fuel st) := by
  induction fuel generalizing S st with
  | zero => exact absurd hfuel (Nat.not_lt_zero _)
  | succ fuel ih =>
    have hround := h.round hm
    have hreads := h.round_reads hm hrelax
    cases hr : searchRoundWith relax graph goal dep maxDur st with
    | error err => simpa [searchWith, hr] using hreads.of_error hr
    | ok r =>
      obtain ⟨hsame, hread⟩ := hreads.of_ok hr
      simp only [search, searchWith, hr, hsame, ok_bind]
      cases hround.of_ok hsame with
      | exhausted hq =>
        refine ⟨rfl, fun _ n t hleft => ?_⟩
        obtain ⟨p, hw⟩ := hleft.walk
        have hq' : st.labels.queue = 0 := by simp [SearchState.labels, hq]
        exact hS n ((h.sound.exhausted (roadTimes_fifo hm) inTime.mono hq').2
          ⟨t, p, admissibleWalk_iff.1 hw⟩) t hleft
      | stale hinv hlen => exact ih hinv hS (by omega)
      | reached hq hb =>
        refine ⟨rfl, fun hpos n t hleft => ?_⟩
        exact hS n (h.settled_of_leftBefore hm hpos hq hb hleft) t hleft
      | @expanded n st' hn hne hinv hlen =>
        have hpend := pending_cons graph profile hazard policy hn
        refine ih hinv ?_ (by omega)
        intro m hmem
        rcases List.mem_cons.1 hmem with rfl | hmem
        · exact hread m st' rfl
        · exact hS m hmem

theorem searchWith_reads (hm : Metric graph profile policy)
    (hrelax : Relaxes profile hazard policy E Read relax) {fuel : ℕ}
    (hfuel : graph.searchBudget < fuel) :
    Ends (fun err => E err ∧ ¬ EdgesRead Read graph profile hazard policy start goal dep maxDur)
      (fun o => search graph profile hazard policy goal dep maxDur fuel (SearchState.init start dep)
          = .ok o ∧
        (graph.Positive → EdgesRead Read graph profile hazard policy start goal dep maxDur))
      (searchWith relax graph goal dep maxDur fuel (SearchState.init start dep)) := by
  have hinit : SearchInv graph profile hazard policy start goal dep maxDur []
    (SearchState.init start dep) := .init
  have hpend := pending_nil graph profile hazard policy
  have hlen : (SearchState.init start dep : SearchState K).queue.length = 1 := rfl
  exact hinit.search_reads hm hrelax (by simp) fuel (by omega)

/-- A risk that the search asks for cannot be read, and that ends it. -/
def Misread (graph : RoadGraph K) (profile : ModeProfile K) (hazard : HazardField K)
    (policy : HazardPolicy K) (start goal : NodeId K) (dep maxDur : K) (err : PyError) : Prop :=
  err = .indexError ∧ ¬ SearchReads graph profile hazard policy start goal dep maxDur

theorem search_reads (hm : Metric graph profile policy) {fuel : ℕ}
    (hfuel : graph.searchBudget < fuel) :
    Ends (Misread graph profile hazard policy start goal dep maxDur)
      (fun _ => graph.Positive → SearchReads graph profile hazard policy start goal dep maxDur)
      (search graph profile hazard policy goal dep maxDur fuel (SearchState.init start dep)) := by
  rw [search_eq_searchWith]
  exact (searchWith_reads hm (relaxEdge_relaxes profile hazard policy) hfuel).mono
    fun _ h => h.2

theorem segmentLength_le {e : Edge K} (he : e ∈ graph.neighbours n) :
    segmentLength graph n e.target ≤ e.lengthM := by
  have hmem : e.lengthM ∈ ((graph.neighbours n).filter (·.target = e.target)).map (·.lengthM) :=
    List.mem_map_of_mem (List.mem_filter.2 ⟨he, by simp⟩)
  unfold segmentLength
  split
  · next hnil => simp [hnil] at hmem
  · next x xs hcons =>
    exact (List.min?_eq_some_iff.1 List.min?_cons').2 _ (hcons ▸ hmem)

theorem measurePath_of_walk (hm : Metric graph profile policy) (hdep : 0 ≤ dep)
    {p : List (NodeId K)}
    (hw : (roadTimes graph profile hazard policy).Walk (inTime dep maxDur) start dep p n t) :
    ∃ distance elapsed, elapsed ≤ t ∧ ∀ rest,
      (∃ out, measurePath graph hazard profile.speedMps (n :: rest) distance elapsed = .ok out) →
      ∃ out, measurePath graph hazard profile.speedMps (p.reverse ++ n :: rest) 0 0 = .ok out := by
  induction hw with
  | nil => exact ⟨0, 0, hdep, fun rest h => h⟩
  | @step p n t e t' _ _ he ha ih =>
    obtain ⟨distance, elapsed, hle, hmeasure⟩ := ih
    obtain ⟨-, risk, m, hrisk, hmul, rfl⟩ := roadTimes_arrive.1 ha
    have htravel := hm.travel_nonneg he
    have hone := HazardPolicy.one_le_edgeMultiplier hm.one_le_penalty hmul
    have hsegment : segmentLength graph n e.target / max profile.speedMps (1 / 10 ^ 6) ≤
        e.lengthM / profile.speedMps := by
      have hlength : segmentLength graph n e.target ≤ e.lengthM := segmentLength_le he
      have hmax : 0 < max profile.speedMps (1 / 10 ^ 6) := lt_max_of_lt_left hm.speed_pos
      calc segmentLength graph n e.target / max profile.speedMps (1 / 10 ^ 6)
          ≤ e.lengthM / max profile.speedMps (1 / 10 ^ 6) :=
            div_le_div_of_nonneg_right hlength hmax.le
        _ ≤ e.lengthM / profile.speedMps :=
            div_le_div_of_nonneg_left (hm.length_nonneg n e he) hm.speed_pos (le_max_left _ _)
    have hasked : elapsed + segmentLength graph n e.target / max profile.speedMps (1 / 10 ^ 6) ≤
        t + e.lengthM / profile.speedMps := add_le_add hle hsegment
    obtain ⟨risk', hrisk', -⟩ := HazardField.riskAt_mono hasked hrisk
    have htarget : (roadTimes graph profile hazard policy).target e = e.target := rfl
    rw [htarget]
    refine ⟨distance + segmentLength graph n e.target, _, hasked.trans ?_, fun rest => ?_⟩
    · exact add_le_add_right (le_mul_of_one_le_right htravel hone) t
    · rintro ⟨⟨total, risks⟩, hrest⟩
      obtain ⟨out, hout⟩ := hmeasure (e.target :: rest) ⟨(total, risk' :: risks), by
        rw [measurePath, hrisk', ok_bind, hrest]
        rfl⟩
      exact ⟨out, by simpa using hout⟩

variable {origin destination : K × K} {maxDur snap : K}

/-- The slices show every risk that the planner asks for: that of the start, and those of the
search if the start is passable. -/
def RouteReads (graph : RoadGraph K) (profile : ModeProfile K) (hazard : HazardField K)
    (policy : HazardPolicy K) (origin destination : K × K) (dep maxDur snap : K) : Prop :=
  ∀ start goal, graph.nearestNode origin.1 origin.2 snap = some start →
    graph.nearestNode destination.1 destination.2 snap = some goal →
    hazard.blockedByFieldReport start.lat start.lon = none →
    hazard.Shows start.lat start.lon dep ∧
      ∀ risk, hazard.riskAt start.lat start.lon dep = .ok risk → risk < policy.blockThreshold →
        SearchReads graph profile hazard policy start goal dep maxDur

theorem Departs.planRoute_reads
    (h : Departs graph hazard policy origin destination dep snap start goal)
    (hm : Metric graph profile policy)
    (hreport : dep < 0 → ReportReads graph profile hazard policy start goal dep maxDur) {fuel : ℕ}
    (hfuel : graph.searchBudget < fuel) :
    Ends (Misread graph profile hazard policy start goal dep maxDur)
      (fun _ => graph.Positive → SearchReads graph profile hazard policy start goal dep maxDur)
      (planRoute fuel graph profile hazard policy origin destination dep maxDur snap) := by
  have hreads : Ends (Misread graph profile hazard policy start goal dep maxDur) _
    (search graph profile hazard policy goal dep maxDur fuel (SearchState.init start dep)) :=
    search_reads hm hfuel
  rw [h.planRoute_eq, routeBetween]
  cases ho : search graph profile hazard policy goal dep maxDur fuel
    (SearchState.init start dep) with
  | error err => exact hreads.of_error ho
  | ok o =>
    have hread := hreads.of_ok ho
    rw [ok_bind]
    cases ((search_ends hm hfuel).of_ok ho :
      SearchOutcome.Spec graph profile hazard policy start goal dep maxDur _ _ o) with
    | @reached t p st hleast hchain hwalk hnodup hp hcount =>
      have hreported : (∃ first, hazard.riskAt start.lat start.lon 0 = .ok first) ∧
          ∃ out, measurePath graph hazard profile.speedMps (goal :: p).reverse 0 0 = .ok out := by
        rcases lt_or_ge dep 0 with hneg | hdep
        · obtain ⟨hfirst, hmeasure⟩ := hreport hneg
          refine ⟨hfirst, hmeasure p t (admissibleWalk_iff.2 hwalk) fun p' t' hw => ?_⟩
          exact hleast.2 ⟨p', admissibleWalk_iff.1 hw⟩
        · obtain ⟨risk, hrisk, -⟩ := h.passable
          obtain ⟨first, hfirst, -⟩ := HazardField.riskAt_mono hdep hrisk
          obtain ⟨distance, elapsed, -, hmeasure⟩ := measurePath_of_walk hm hdep hwalk
          rw [List.reverse_cons]
          exact ⟨⟨first, hfirst⟩, hmeasure [] ⟨_, rfl⟩⟩
      obtain ⟨⟨first, hfirst⟩, ⟨total, risks⟩, htotal⟩ := hreported
      simp only [buildResult, tracePath_chain hchain hp, hfirst, htotal, ok_bind, pure_eq_ok]
      exact hread
    | @exhausted st hempty href hcount =>
      simp only [pure_eq_ok]
      split <;> exact hread

theorem planRoute_reads (hm : Metric graph profile policy)
    (hdep : 0 ≤ dep) {fuel : ℕ} (hfuel : graph.searchBudget < fuel) :
    Ends (fun err => err = .indexError ∧
        ¬ RouteReads graph profile hazard policy origin destination dep maxDur snap)
      (fun _ => graph.Positive →
        RouteReads graph profile hazard policy origin destination dep maxDur snap)
      (planRoute fuel graph profile hazard policy origin destination dep maxDur snap) := by
  cases hstart : graph.nearestNode origin.1 origin.2 snap with
  | none => simp [planRoute, hstart, RouteReads]
  | some start =>
    cases hgoal : graph.nearestNode destination.1 destination.2 snap with
    | none => simp [planRoute, hstart, hgoal, RouteReads]
    | some goal =>
      cases hclosed : hazard.blockedByFieldReport start.lat start.lon with
      | some report => simp [planRoute, hstart, hgoal, hclosed, RouteReads]
      | none =>
        have hends := hazard.riskAt_shows start.lat start.lon dep
        cases hrisk : hazard.riskAt start.lat start.lon dep with
        | error err =>
          obtain ⟨rfl, hshows⟩ := hends.of_error hrisk
          simp [planRoute, hstart, hgoal, hclosed, hrisk, RouteReads, hshows]
        | ok risk =>
          have hshows := hends.of_ok hrisk
          have hiff : RouteReads graph profile hazard policy origin destination dep maxDur snap ↔
              (risk < policy.blockThreshold →
                SearchReads graph profile hazard policy start goal dep maxDur) := by
            simp [RouteReads, hstart, hgoal, hclosed, hrisk, hshows]
          rw [hiff]
          by_cases hlt : risk < policy.blockThreshold
          · have hd : Departs graph hazard policy origin destination dep snap start goal :=
              ⟨hstart, hgoal, hclosed, risk, hrisk, hlt⟩
            have hreads : Ends (Misread graph profile hazard policy start goal dep maxDur) _
              (planRoute fuel graph profile hazard policy origin destination dep maxDur snap) :=
              hd.planRoute_reads hm (fun hneg => absurd hneg (not_lt.2 hdep)) hfuel
            unfold Misread at hreads
            simpa only [hlt, true_implies] using hreads
          · have hblock : policy.edgeMultiplier risk = none :=
              HazardPolicy.edgeMultiplier_eq_none.2 hlt
            simp [planRoute, hstart, hgoal, hclosed, hrisk, hblock, hlt]

end

end Salgil
