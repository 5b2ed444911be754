import Salgil.HazardFacts
import Salgil.LabelSetting
import Salgil.Planner

namespace Salgil
set_option autoImplicit true
set_option linter.unusedSectionVars false

section
variable {K : Type u} [Field K] [LinearOrder K] [IsStrictOrderedRing K] [FloorRing K] [MathLib K]

/-- The road graph as the search sees it: an edge is shut when its end is closed by a field
report or too risky on arrival, and takes its travel time times the multiplier otherwise. -/
def roadTimes (graph : RoadGraph K) (profile : ModeProfile K) (hazard : HazardField K)
    (policy : HazardPolicy K) : TimedGraph (NodeId K) (Edge K) K where
  edges := graph.neighbours
  target := Edge.target
  arrive e t :=
    if (hazard.blockedByFieldReport e.target.lat e.target.lon).isSome then none
    else match hazard.riskAt e.target.lat e.target.lon (t + e.lengthM / profile.speedMps) with
      | .error _ => none
      | .ok risk =>
        (policy.edgeMultiplier risk).map fun m => t + e.lengthM / profile.speedMps * m

/-- What the exact-arithmetic results assume of the numbers the planner is given. -/
structure Metric (graph : RoadGraph K) (profile : ModeProfile K) (policy : HazardPolicy K) :
    Prop where
  length_nonneg : ∀ n, ∀ e ∈ graph.neighbours n, 0 ≤ e.lengthM
  speed_pos : 0 < profile.speedMps
  one_le_penalty : 1 ≤ policy.avoidPenalty

variable {graph : RoadGraph K} {profile : ModeProfile K} {hazard : HazardField K}
variable {policy : HazardPolicy K} {start goal : NodeId K} {dep maxDur : K}

theorem roadTimes_arrive {e : Edge K} {t t' : K} :
    (roadTimes graph profile hazard policy).arrive e t = some t' ↔
      hazard.blockedByFieldReport e.target.lat e.target.lon = none ∧
      ∃ risk m, hazard.riskAt e.target.lat e.target.lon (t + e.lengthM / profile.speedMps) =
          .ok risk ∧
        policy.edgeMultiplier risk = some m ∧ t' = t + e.lengthM / profile.speedMps * m := by
  simp only [roadTimes]
  split
  · next h =>
    obtain ⟨b, hb⟩ := Option.isSome_iff_exists.1 h
    simp [hb]
  · next h =>
    rw [Option.not_isSome_iff_eq_none] at h
    cases hr : hazard.riskAt e.target.lat e.target.lon (t + e.lengthM / profile.speedMps) with
    | error _ => simp
    | ok risk => simp [h, eq_comm]

theorem Metric.travel_nonneg (hm : Metric graph profile policy) {n : NodeId K} {e : Edge K}
    (he : e ∈ graph.neighbours n) : 0 ≤ e.lengthM / profile.speedMps :=
  div_nonneg (hm.length_nonneg n e he) hm.speed_pos.le

/-- Two searches over one graph step alike: leaving no earlier, under a riskier field with more
closures and a stricter policy, never opens an edge and never shortens it. -/
theorem roadTimes_mono {hazard' : HazardField K} {policy' : HazardPolicy K}
    (hm : Metric graph profile policy) (hb : policy'.blockThreshold ≤ policy.blockThreshold)
    (ha : policy.avoidThreshold = policy'.avoidThreshold)
    (hp : policy.avoidPenalty ≤ policy'.avoidPenalty)
    (hclosed : ∀ lat lon, hazard'.blockedByFieldReport lat lon = none →
      hazard.blockedByFieldReport lat lon = none)
    (hrisk : ∀ lat lon s t r', s ≤ t → hazard'.riskAt lat lon t = .ok r' →
      ∃ r, hazard.riskAt lat lon s = .ok r ∧ r ≤ r')
    {n : NodeId K} {e : Edge K} (he : e ∈ graph.neighbours n) {s t t' : K} (hst : s ≤ t)
    (h : (roadTimes graph profile hazard' policy').arrive e t = some t') :
    ∃ s', (roadTimes graph profile hazard policy).arrive e s = some s' ∧ s' - s ≤ t' - t := by
  obtain ⟨hopen, risk', m', hr', hm', rfl⟩ := roadTimes_arrive.1 h
  obtain ⟨risk, hr, hle⟩ := hrisk _ _ _ _ _ (add_le_add_left hst _) hr'
  obtain ⟨m, hmul, hmm⟩ := HazardPolicy.edgeMultiplier_mono hb ha hm.one_le_penalty hp hle hm'
  refine ⟨s + e.lengthM / profile.speedMps * m,
    roadTimes_arrive.2 ⟨hclosed _ _ hopen, risk, m, hr, hmul, rfl⟩, ?_⟩
  have := mul_le_mul_of_nonneg_left hmm (hm.travel_nonneg he)
  linarith

theorem roadTimes_fifo (hm : Metric graph profile policy) :
    (roadTimes graph profile hazard policy).Fifo where
  later := by
    intro n e t t' he h
    obtain ⟨-, risk, m, -, hmul, rfl⟩ := roadTimes_arrive.1 h
    have hm1 : 0 ≤ m :=
      zero_le_one.trans (HazardPolicy.one_le_edgeMultiplier hm.one_le_penalty hmul)
    have := mul_nonneg (hm.travel_nonneg he) hm1
    linarith
  mono := by
    intro n e s t t' he hst h
    obtain ⟨s', hs', hle⟩ := roadTimes_mono hm le_rfl rfl le_rfl (fun _ _ h => h)
      (fun _ _ _ _ _ hst hr' => HazardField.riskAt_mono hst hr') he hst h
    exact ⟨s', hs', by linarith⟩

theorem entryLe_fst {x y : K × NodeId K} (h : entryLe x y) : x.1 ≤ y.1 := by
  rcases h with h | ⟨h, -⟩
  · exact h.le
  · exact h.le

instance : Std.Total (entryLe (K := K)) where
  total x y := by
    unfold entryLe
    rcases lt_trichotomy x.1 y.1 with h | h | h
    · exact .inl (.inl h)
    · rcases lt_trichotomy x.2.lat y.2.lat with h' | h' | h'
      · exact .inl (.inr ⟨h, .inl h'⟩)
      · rcases le_total x.2.lon y.2.lon with h'' | h''
        · exact .inl (.inr ⟨h, .inr ⟨h', h''⟩⟩)
        · exact .inr (.inr ⟨h.symm, .inr ⟨h'.symm, h''⟩⟩)
      · exact .inr (.inr ⟨h.symm, .inl h'⟩)
    · exact .inr (.inl h)

instance : IsTrans (K × NodeId K) entryLe where
  trans x y z hxy hyz := by
    unfold entryLe at *
    rcases hxy with hxy | ⟨hxy, hxy'⟩ <;> rcases hyz with hyz | ⟨hyz, hyz'⟩
    · exact .inl (hxy.trans hyz)
    · exact .inl (hyz ▸ hxy)
    · exact .inl (hxy ▸ hyz)
    · refine .inr ⟨hxy.trans hyz, ?_⟩
      rcases hxy' with hxy' | ⟨hxy', hxy''⟩ <;> rcases hyz' with hyz' | ⟨hyz', hyz''⟩
      · exact .inl (hxy'.trans hyz')
      · exact .inl (hyz' ▸ hxy')
      · exact .inl (hxy' ▸ hyz')
      · exact .inr ⟨hxy'.trans hyz', hxy''.trans hyz''⟩

def SearchState.labels (st : SearchState K) : Labels (NodeId K) K where
  queue := st.queue
  best := st.best
  prev := st.previous

/-- Whether the search has met a closed or too risky edge. -/
def SearchState.Refused (st : SearchState K) : Prop := st.avoided ≠ 0 ∨ st.blockedHits ≠ []

/-- Everything one edge can do to the loop's variables. -/
theorem relaxEdge_ends (graph : RoadGraph K) (profile : ModeProfile K) (hazard : HazardField K)
    (policy : HazardPolicy K) (arrival : K) (node : NodeId K) (st : SearchState K) (e : Edge K) :
    Ends hazard.Unreadable (fun st' =>
      Labels.Relaxed (roadTimes graph profile hazard policy) node arrival e st.labels st'.labels ∧
      (st.queue.Pairwise entryLe → st'.queue.Pairwise entryLe) ∧
      st'.queue.length ≤ st.queue.length + 1 ∧ st'.explored = st.explored ∧
      (st'.Refused ↔ st.Refused ∨
        (roadTimes graph profile hazard policy).arrive e arrival = none))
      (relaxEdge profile hazard policy arrival node st e) := by
  cases hclosed : hazard.blockedByFieldReport e.target.lat e.target.lon with
  | some report =>
    have harrive : (roadTimes graph profile hazard policy).arrive e arrival = none := by
      simp [roadTimes, hclosed]
    simp only [relaxEdge, hclosed, Ends.ok_iff]
    split
    · next hmem =>
      exact ⟨.shut harrive, id, Nat.le_succ _, rfl,
        iff_of_true (.inr (List.ne_nil_of_mem hmem)) (.inr harrive)⟩
    · exact ⟨.shut harrive, id, Nat.le_succ _, rfl, iff_of_true (.inr (by simp)) (.inr harrive)⟩
  | none =>
    cases hrisk : hazard.riskAt e.target.lat e.target.lon
      (arrival + e.lengthM / profile.speedMps) with
    | error err =>
      simpa [relaxEdge, hclosed, hrisk] using (hazard.riskAt_ends _ _ _).of_error hrisk
    | ok risk =>
      cases hmul : policy.edgeMultiplier risk with
      | none =>
        have harrive : (roadTimes graph profile hazard policy).arrive e arrival = none := by
          simp [roadTimes, hclosed, hrisk, hmul]
        have hstep : relaxEdge profile hazard policy arrival node st e =
            .ok { st with avoided := st.avoided + 1 } := by
          simp [relaxEdge, hclosed, hrisk, hmul]
        rw [hstep]
        exact ⟨.shut harrive, id, Nat.le_succ _, rfl,
          iff_of_true (.inl (Nat.succ_ne_zero _)) (.inr harrive)⟩
      | some m =>
        have harrive : (roadTimes graph profile hazard policy).arrive e arrival =
            some (arrival + e.lengthM / profile.speedMps * m) :=
          roadTimes_arrive.2 ⟨hclosed, risk, m, hrisk, hmul, rfl⟩
        simp only [relaxEdge, hclosed, hrisk, hmul, ok_bind]
        split
        · next hc =>
          have hbetter : ∀ b, st.best e.target = some b →
              arrival + e.lengthM / profile.speedMps * m < b := by
            intro b hb
            simpa [hb] using hc
          rw [pure_eq_ok, Ends.ok_iff]
          refine ⟨?_, fun hs => hs.orderedInsert _ _, (List.orderedInsert_length _ _ _).le, rfl, ?_⟩
          · have himprove := Labels.Relaxed.improve (n := node) (l := st.labels) harrive hbetter
            convert himprove using 1
            simp only [SearchState.labels, Labels.improve, Labels.mk.injEq]
            exact ⟨Quot.sound (List.perm_orderedInsert _ _ _), rfl, rfl⟩
          · simp [SearchState.Refused, harrive]
        · next hc =>
          rw [pure_eq_ok, Ends.ok_iff]
          refine ⟨?_, id, Nat.le_succ _, rfl, by simp [harrive]⟩
          cases hb : st.best e.target with
          | none => simp [hb] at hc
          | some b => exact .keep harrive hb (by simpa [hb] using hc)

end

end Salgil
