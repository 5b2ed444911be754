import Salgil.NearestNode
import Salgil.RawGraph

namespace Salgil
set_option autoImplicit true
set_option linter.unusedSectionVars false

/-- The index lists a node under no other cell than its own. -/
def RoadGraph.Celled [Field K] [LinearOrder K] [IsStrictOrderedRing K] [FloorRing K]
    (g : RoadGraph K) : Prop :=
  ∀ c n, n ∈ (g.index.get? c).getD [] → c = cell n.lat n.lon

section
variable {K : Type u} [Field K] [LinearOrder K] [IsStrictOrderedRing K] [FloorRing K]
variable {g : RoadGraph K}

theorem RoadGraph.Celled.addNode (h : g.Celled) (n : NodeId K) : (g.addNode n).Celled := by
  intro c m hm
  rcases mem_index_addNode.1 hm with ⟨-, hc, rfl⟩ | hm
  · exact hc
  · exact h c m hm

theorem RoadGraph.Celled.addSegments (h : g.Celled) (segments : List (Segment K)) :
    (g.addSegments segments).Celled := by
  induction segments generalizing g with
  | nil => exact h
  | cons s segments ih =>
    have hnodes : ((g.addNode s.a).addNode s.b).Celled := (h.addNode s.a).addNode s.b
    exact ih (g := g.addSegment s.a s.b s.lengthM s.wayId s.tags) hnodes

theorem RoadGraph.Celled.empty (source : String) (wayCount : ℕ) (attribution : String) :
    ({ source, wayCount, attribution } : RoadGraph K).Celled := by
  intro c n hn
  simp [Dict.empty] at hn

/-- The ring of cells around the point on which the node lies. -/
def ringOf (lat lon : K) (n : NodeId K) : ℕ :=
  max ((cell n.lat n.lon).1 - (cell lat lon).1).natAbs
    ((cell n.lat n.lon).2 - (cell lat lon).2).natAbs

theorem mem_ringCells {origin c : ℤ × ℤ} {radius : ℕ} :
    c ∈ ringCells origin radius ↔ max (c.1 - origin.1).natAbs (c.2 - origin.2).natAbs = radius := by
  obtain ⟨x, y⟩ := origin
  obtain ⟨a, b⟩ := c
  simp only [ringCells, List.bind_eq_flatMap, List.pure_def, List.mem_flatMap, List.mem_map,
    List.mem_filter, List.mem_range, List.mem_singleton, decide_eq_true_eq, Prod.mk.injEq]
  constructor
  · rintro ⟨_, ⟨_, ⟨i, hi, rfl⟩, rfl⟩, _, ⟨⟨_, ⟨j, hj, rfl⟩, rfl⟩, hring⟩, rfl, rfl⟩
    omega
  · intro h
    refine ⟨a - x, ⟨_, ⟨(a - x + radius).toNat, by omega, rfl⟩, by omega⟩, b - y,
      ⟨⟨_, ⟨(b - y + radius).toNat, by omega, rfl⟩, by omega⟩, .inr h⟩, by omega, by omega⟩

theorem RoadGraph.Celled.mem_ring (h : g.Celled) (hg : g.Indexed) {lat lon : K} {radius : ℕ}
    {n : NodeId K} :
    n ∈ (ringCells (cell lat lon) radius).flatMap (fun c => (g.index.get? c).getD []) ↔
      n ∈ g.nodes.keys ∧ ringOf lat lon n = radius := by
  rw [List.mem_flatMap]
  constructor
  · rintro ⟨c, hc, hn⟩
    obtain rfl := h c n hn
    exact ⟨hg.only hn, mem_ringCells.1 hc⟩
  · rintro ⟨hn, hring⟩
    exact ⟨cell n.lat n.lon, mem_ringCells.2 hring, hg.listed hn⟩

variable [MathLib K]

/-- What the search keeps is the best of the nodes it has looked at, and the limit without one. -/
structure Best (lat lon maxDistanceM : K) (seen : NodeId K → Prop)
    (found : Option (NodeId K) × K) : Prop where
  le : ∀ m, seen m → found.2 ≤ haversineM lat lon m.lat m.lon
  of_none : found.1 = none → found.2 = maxDistanceM
  of_some : ∀ n, found.1 = some n →
    seen n ∧ found.2 = haversineM lat lon n.lat n.lon ∧ found.2 < maxDistanceM

variable {lat lon maxDistanceM : K} {seen : NodeId K → Prop} {found : Option (NodeId K) × K}

theorem Best.init : Best lat lon maxDistanceM (fun _ => False) (none, maxDistanceM) :=
  ⟨fun _ h => h.elim, fun _ => rfl, nofun⟩

theorem Best.limit (h : Best lat lon maxDistanceM seen found) : found.2 ≤ maxDistanceM := by
  cases hf : found.1 with
  | none => exact (h.of_none hf).le
  | some n => exact (h.of_some n hf).2.2.le

theorem Best.congr {seen' : NodeId K → Prop} (h : Best lat lon maxDistanceM seen found)
    (hseen : ∀ m, seen m ↔ seen' m) : Best lat lon maxDistanceM seen' found := by
  obtain rfl : seen = seen' := funext fun m => propext (hseen m)
  exact h

theorem Best.nearerIn (h : Best lat lon maxDistanceM seen found) (n : NodeId K) :
    Best lat lon maxDistanceM (fun m => seen m ∨ m = n) (nearerIn lat lon found n) := by
  simp only [Salgil.nearerIn]
  split
  · next hlt =>
    refine ⟨?_, (fun hnone => by cases hnone), ?_⟩
    · rintro m (hm | rfl)
      · exact hlt.le.trans (h.le m hm)
      · exact le_rfl
    · rintro _ ⟨⟩
      exact ⟨.inr rfl, rfl, hlt.trans_le h.limit⟩
  · next hle =>
    refine ⟨?_, h.of_none, ?_⟩
    · rintro m (hm | rfl)
      · exact h.le m hm
      · exact not_lt.1 hle
    · intro m hm
      obtain ⟨hseen, heq, hlt⟩ := h.of_some m hm
      exact ⟨.inl hseen, heq, hlt⟩

theorem Best.foldl (h : Best lat lon maxDistanceM seen found) (l : List (NodeId K)) :
    Best lat lon maxDistanceM (fun m => seen m ∨ m ∈ l)
      (l.foldl (Salgil.nearerIn lat lon) found) := by
  induction l generalizing seen found with
  | nil => exact h.congr (by simp)
  | cons n l ih => exact (ih (h.nearerIn n)).congr (by simp [or_assoc])

theorem Best.lt_iff (h : Best lat lon maxDistanceM seen found) {d : K} :
    d < found.2 ↔ d < maxDistanceM ∧ ∀ m, seen m → d < haversineM lat lon m.lat m.lon := by
  constructor
  · intro hd
    exact ⟨hd.trans_le h.limit, fun m hm => hd.trans_le (h.le m hm)⟩
  · rintro ⟨hmax, hall⟩
    cases hf : found.1 with
    | none => exact (h.of_none hf).symm ▸ hmax
    | some n =>
      obtain ⟨hn, heq, -⟩ := h.of_some n hf
      exact heq ▸ hall n hn

theorem Best.isSome_iff (h : Best lat lon maxDistanceM seen found) :
    found.1.isSome ↔ ∃ m, seen m ∧ haversineM lat lon m.lat m.lon < maxDistanceM := by
  constructor
  · intro hsome
    obtain ⟨n, hn⟩ := Option.isSome_iff_exists.1 hsome
    obtain ⟨hseen, heq, hlt⟩ := h.of_some n hn
    exact ⟨n, hseen, heq ▸ hlt⟩
  · rintro ⟨m, hm, hlt⟩
    by_contra hnone
    rw [Option.not_isSome_iff_eq_none] at hnone
    exact absurd ((h.of_none hnone).symm.trans_le (h.le m hm)) (not_le.2 hlt)

/-- Some node within the limit lies on an inner ring, and the ring itself has none that is nearer
than all of the inner rings. -/
def RoadGraph.Barren (g : RoadGraph K) (lat lon maxDistanceM : K) (radius : ℕ) : Prop :=
  0 < radius ∧
  (∃ m ∈ g.nodes.keys, ringOf lat lon m < radius ∧ haversineM lat lon m.lat m.lon < maxDistanceM) ∧
  ¬ ∃ m ∈ g.nodes.keys, ringOf lat lon m = radius ∧
    haversineM lat lon m.lat m.lon < maxDistanceM ∧
    ∀ n ∈ g.nodes.keys, ringOf lat lon n < radius →
      haversineM lat lon m.lat m.lon < haversineM lat lon n.lat n.lon

/-- The node lies on one of the rings further in. -/
def RoadGraph.Within (g : RoadGraph K) (lat lon : K) (radius : ℕ) (m : NodeId K) : Prop :=
  m ∈ g.nodes.keys ∧ ringOf lat lon m < radius

theorem RoadGraph.Celled.searchRing_best (h : g.Celled) (hg : g.Indexed) {radius : ℕ}
    (hbest : Best lat lon maxDistanceM (g.Within lat lon radius) found) :
    Best lat lon maxDistanceM (g.Within lat lon (radius + 1))
      (g.searchRing lat lon radius found) := by
  refine (hbest.foldl _).congr fun m => ?_
  rw [h.mem_ring hg, RoadGraph.Within, RoadGraph.Within, Nat.lt_succ_iff_lt_or_eq, and_or_left]

/-- The search ends at a ring exactly when it is barren. -/
theorem RoadGraph.Celled.ends_iff (h : g.Celled) (hg : g.Indexed) {radius : ℕ}
    (hbest : Best lat lon maxDistanceM (g.Within lat lon radius) found) :
    ((g.searchRing lat lon radius found).1.isSome ∧
      ¬ (g.searchRing lat lon radius found).2 < found.2 ∧ 0 < radius) ↔
      g.Barren lat lon maxDistanceM radius := by
  have hnext := h.searchRing_best hg hbest
  constructor
  · rintro ⟨hsome, hkept, hpos⟩
    refine ⟨hpos, ?_, ?_⟩
    · obtain ⟨m, hm, hlt⟩ := hnext.isSome_iff.1 hsome
      have hlimit : found.2 < maxDistanceM :=
        (not_lt.1 hkept).trans_lt ((hnext.le m hm).trans_lt hlt)
      have hfound : found.1.isSome := by
        by_contra hnone
        exact hlimit.ne (hbest.of_none (Option.not_isSome_iff_eq_none.1 hnone))
      obtain ⟨k, ⟨hk, hring⟩, hnear⟩ := hbest.isSome_iff.1 hfound
      exact ⟨k, hk, hring, hnear⟩
    · rintro ⟨m, hm, hring, hlt, hall⟩
      refine hkept ((hnext.le m ⟨hm, hring ▸ Nat.lt_succ_self _⟩).trans_lt ?_)
      exact hbest.lt_iff.2 ⟨hlt, fun n hn => hall n hn.1 hn.2⟩
  · rintro ⟨hpos, ⟨m, hm, hring, hlt⟩, hnone⟩
    have hsome := hnext.isSome_iff.2 ⟨m, ⟨hm, hring.trans (Nat.lt_succ_self _)⟩, hlt⟩
    refine ⟨hsome, fun hnearer => ?_, hpos⟩
    obtain ⟨n, hn⟩ := Option.isSome_iff_exists.1 hsome
    obtain ⟨⟨hkey, hin⟩, heq, -⟩ := hnext.of_some n hn
    rw [heq] at hnearer
    rcases Nat.lt_succ_iff_lt_or_eq.1 hin with hinner | hthere
    · exact absurd (hbest.le n ⟨hkey, hinner⟩) (not_le.2 hnearer)
    · obtain ⟨hmax, hall⟩ := hbest.lt_iff.1 hnearer
      exact hnone ⟨n, hkey, hthere, hmax, fun k hk hkin => hall k ⟨hk, hkin⟩⟩

/-- The search returns the best node of the rings up to the first barren one. -/
theorem RoadGraph.Celled.searchRings_best (h : g.Celled) (hg : g.Indexed) (radius count : ℕ)
    (hbest : Best lat lon maxDistanceM (g.Within lat lon radius) found) :
    ∃ stop dist, radius ≤ stop ∧ stop ≤ radius + count ∧
      Best lat lon maxDistanceM (g.Within lat lon stop)
        (g.searchRings lat lon (List.range' radius count) found, dist) ∧
      (∀ s, radius ≤ s → s + 1 < stop → ¬ g.Barren lat lon maxDistanceM s) ∧
      (stop = radius + count ∨ ∃ s, s + 1 = stop ∧ g.Barren lat lon maxDistanceM s) := by
  induction count generalizing radius found with
  | zero => exact ⟨radius, found.2, le_rfl, le_rfl, hbest, by omega, .inl rfl⟩
  | succ count ih =>
    have hnext := h.searchRing_best hg hbest
    rw [List.range'_succ, RoadGraph.searchRings]
    by_cases hend : g.Barren lat lon maxDistanceM radius
    · rw [if_pos ((h.ends_iff hg hbest).2 hend)]
      exact ⟨radius + 1, _, by omega, by omega, hnext, by omega, .inr ⟨radius, rfl, hend⟩⟩
    · rw [if_neg (mt (h.ends_iff hg hbest).1 hend)]
      obtain ⟨stop, dist, hle, hle', hres, hfertile, hstop⟩ := ih (radius + 1) hnext
      refine ⟨stop, dist, by omega, by omega, hres, fun s hs hs' => ?_, ?_⟩
      · rcases hs.eq_or_lt with rfl | hlt
        · exact hend
        · exact hfertile s hlt hs'
      · rcases hstop with rfl | hbarren
        · exact .inl (by omega)
        · exact .inr hbarren

/-- The number of the last ring that is searched. -/
def lastRing (maxDistanceM : K) : ℕ := (max 1 (pyInt (double (maxDistanceM / cellM)) + 1)).toNat

theorem RoadGraph.Celled.nearestNode_best (h : g.Celled) (hg : g.Indexed)
    (lat lon maxDistanceM : K) :
    ∃ stop dist, stop ≤ lastRing maxDistanceM + 1 ∧
      Best lat lon maxDistanceM (g.Within lat lon stop)
        (g.nearestNode lat lon maxDistanceM, dist) ∧
      (∀ s, s + 1 < stop → ¬ g.Barren lat lon maxDistanceM s) ∧
      (stop = lastRing maxDistanceM + 1 ∨
        ∃ s, s + 1 = stop ∧ g.Barren lat lon maxDistanceM s) := by
  have hinit : Best lat lon maxDistanceM (g.Within lat lon 0) (none, maxDistanceM) :=
    Best.init.congr fun m => by simp [RoadGraph.Within]
  obtain ⟨stop, dist, -, hle, hbest, hfertile, hstop⟩ :=
    h.searchRings_best hg 0 (lastRing maxDistanceM + 1) hinit
  rw [Nat.zero_add] at hle hstop
  rw [← List.range_eq_range'] at hbest
  exact ⟨stop, dist, hle, hbest, fun s hs => hfertile s (Nat.zero_le s) hs, hstop⟩

/-- The nearest node is none just if all are too far, and it is one that no other is nearer than
else. -/
structure RoadGraph.NearestExact (g : RoadGraph K) (lat lon maxDistanceM : K) : Prop where
  none_iff : g.nearestNode lat lon maxDistanceM = none ↔
    ∀ m ∈ g.nodes.keys, maxDistanceM ≤ haversineM lat lon m.lat m.lon
  least : ∀ n, g.nearestNode lat lon maxDistanceM = some n → n ∈ g.nodes.keys ∧
    ∀ m ∈ g.nodes.keys, haversineM lat lon n.lat n.lon ≤ haversineM lat lon m.lat m.lon

/-- A nearest node within the limit lies on a ring that is searched, and no ring before it is
barren. -/
def RoadGraph.NearestSearched (g : RoadGraph K) (lat lon maxDistanceM : K) : Prop :=
  ∃ n ∈ g.nodes.keys, haversineM lat lon n.lat n.lon < maxDistanceM ∧
    (∀ m ∈ g.nodes.keys, haversineM lat lon n.lat n.lon ≤ haversineM lat lon m.lat m.lon) ∧
    ringOf lat lon n ≤ lastRing maxDistanceM ∧
    ∀ s < ringOf lat lon n, ¬ g.Barren lat lon maxDistanceM s

theorem RoadGraph.Celled.nearestExact_iff (h : g.Celled) (hg : g.Indexed)
    (lat lon maxDistanceM : K) :
    g.NearestExact lat lon maxDistanceM ↔
      (∀ m ∈ g.nodes.keys, maxDistanceM ≤ haversineM lat lon m.lat m.lon) ∨
        g.NearestSearched lat lon maxDistanceM := by
  obtain ⟨stop, dist, hle, hbest, hfertile, hstop⟩ := h.nearestNode_best hg lat lon maxDistanceM
  constructor
  · intro hexact
    cases hres : g.nearestNode lat lon maxDistanceM with
    | none => exact .inl (hexact.none_iff.1 hres)
    | some n =>
      obtain ⟨hkey, hleast⟩ := hexact.least n hres
      obtain ⟨⟨-, hring⟩, heq, hlt⟩ := hbest.of_some n hres
      refine .inr ⟨n, hkey, heq ▸ hlt, hleast, by omega, fun s hs => ?_⟩
      exact hfertile s (by omega)
  · rintro (hfar | ⟨n, hkey, hnear, hleast, hring, hbefore⟩)
    · have hnone : g.nearestNode lat lon maxDistanceM = none := by
        rw [Option.eq_none_iff_forall_ne_some]
        intro n hn
        obtain ⟨⟨hkey, -⟩, heq, hlt⟩ := hbest.of_some n hn
        exact absurd (hfar n hkey) (not_le.2 (heq ▸ hlt))
      exact ⟨⟨fun _ => hfar, fun _ => hnone⟩, by simp [hnone]⟩
    · -- the search has not ended before the ring of the nearest node
      have hin : ringOf lat lon n < stop := by
        rcases hstop with hstop | ⟨s, rfl, hbarren⟩
        · omega
        · have hs : ¬ s < ringOf lat lon n := fun hs => hbefore s hs hbarren
          omega
      have hdist := hbest.le n ⟨hkey, hin⟩
      cases hres : g.nearestNode lat lon maxDistanceM with
      | none =>
        have hmax := hbest.of_none hres
        exact absurd hnear (not_lt.2 (hmax ▸ hdist))
      | some m =>
        obtain ⟨⟨hmkey, -⟩, heq, -⟩ := hbest.of_some m hres
        have hle' : haversineM lat lon m.lat m.lon ≤ haversineM lat lon n.lat n.lon := heq ▸ hdist
        refine ⟨?_, ?_⟩
        · simp only [hres, reduceCtorEq, false_iff, not_forall]
          exact ⟨n, hkey, not_le.2 hnear⟩
        · intro m' hm'
          obtain rfl := Option.some.inj (hres.symm.trans hm')
          exact ⟨hmkey, fun k hk => hle'.trans (hleast k hk)⟩

end

/-- When the search for the nearest node is exact. -/
theorem nearest_exact_iff (segments : List (Segment ℝ)) (source : String) (wayCount : ℕ)
    (attribution : String) (lat lon maxDistanceM : ℝ) :
    (({ source, wayCount, attribution } : RoadGraph ℝ).addSegments segments).NearestExact lat lon
        maxDistanceM ↔
      (∀ m ∈ (({ source, wayCount, attribution } : RoadGraph ℝ).addSegments segments).nodes.keys,
        maxDistanceM ≤ haversineM lat lon m.lat m.lon) ∨
      RoadGraph.NearestSearched
        (({ source, wayCount, attribution } : RoadGraph ℝ).addSegments segments) lat lon
        maxDistanceM :=
  ((RoadGraph.Celled.empty _ _ _).addSegments segments).nearestExact_iff
    ((RoadGraph.Indexed.empty _ _ _).addSegments segments) lat lon maxDistanceM

theorem pyInt_eq {x : ℝ} {n : ℤ} (h0 : 0 ≤ n) (hl : n ≤ x) (hu : x < n + 1) : pyInt x = n := by
  have hx : 0 ≤ x := (Int.cast_nonneg h0).trans hl
  rw [pyInt, if_pos hx, Int.floor_eq_iff]
  exact ⟨hl, hu⟩

/-- A coordinate a hundredth of a cell away from the borders of its cell is not rounded out of
it. -/
theorem cell_of_between {x : ℝ} {n : ℕ} (hn : n ≤ 10 ^ 6) (hl : n + 1 / 100 ≤ x * 200)
    (hu : x * 200 ≤ n + 99 / 100) : pyInt (double (x / cellDeg)) = n := by
  have hn0 : (0 : ℝ) ≤ n := n.cast_nonneg
  have hn1 : (n : ℝ) ≤ 10 ^ 6 := by exact_mod_cast hn
  have hx : 0 ≤ x := by linarith
  have hdegl : (1 - 1 / 10 ^ 12) / 200 ≤ (cellDeg : ℝ) := by
    have := le_double_of_le (x := (5 / 1000 : ℝ)) (by norm_num) le_rfl
    unfold cellDeg
    linarith
  have hdegu : (cellDeg : ℝ) ≤ (1 + 1 / 10 ^ 12) / 200 := by
    have := double_le_of_le (x := (5 / 1000 : ℝ)) (by norm_num) le_rfl
    unfold cellDeg
    linarith
  have hdeg : (0 : ℝ) < cellDeg := lt_of_lt_of_le (by norm_num) hdegl
  have hql : n + 1 / 200 ≤ x / cellDeg := by
    rw [le_div_iff₀ hdeg]
    nlinarith
  have hqu : x / cellDeg ≤ n + 199 / 200 := by
    rw [div_le_iff₀ hdeg]
    nlinarith
  have hlow := le_double_of_le (by positivity) hql
  have hhigh := double_le_of_le (div_nonneg hx hdeg.le) hqu
  refine pyInt_eq (Int.natCast_nonneg n) ?_ ?_ <;> push_cast <;> linarith

theorem haversineM_parallel_le {lat lon d : ℝ} (hlat : 30 ≤ lat) (hlat' : lat ≤ 90) (hd : 0 < d)
    (hd' : d ≤ 1) : haversineM lat lon lat (lon + d) ≤ 98200 * d := by
  have hpi := Real.pi_pos
  have hpi₂ := Real.pi_lt_d2
  have hx : radians (lon + d - lon) / 2 = d * (Real.pi / 360) := by
    rw [radians_def]
    ring
  have hx0 : 0 < d * (Real.pi / 360) := by positivity
  have hx1 : d * (Real.pi / 360) ≤ 1 / 100 := by nlinarith
  -- from 30 degrees on the cosine is at most half the root of three
  have hcos : Real.cos (radians lat) ≤ 867 / 1000 := by
    have hle : Real.cos (radians lat) ≤ Real.cos (Real.pi / 6) := by
      apply Real.cos_le_cos_of_nonneg_of_le_pi (by positivity) <;> rw [radians_def] <;> nlinarith
    have hroot : √(3 : ℝ) ≤ 1734 / 1000 := by
      rw [Real.sqrt_le_left (by norm_num)]
      norm_num
    rw [Real.cos_pi_div_six] at hle
    linarith
  have hcos0 : 0 ≤ Real.cos (radians lat) := by
    apply Real.cos_nonneg_of_neg_pi_div_two_le_of_le <;> rw [radians_def] <;> nlinarith
  have hsin0 : 0 ≤ Real.sin (d * (Real.pi / 360)) :=
    Real.sin_nonneg_of_nonneg_of_le_pi hx0.le (by linarith [Real.pi_gt_three])
  have hroot : √(Real.sin (radians (lat - lat) / 2) ^ 2 + Real.cos (radians lat) *
      Real.cos (radians lat) * Real.sin (radians (lon + d - lon) / 2) ^ 2) =
      Real.cos (radians lat) * Real.sin (d * (Real.pi / 360)) := by
    rw [hx, sub_self, radians_def 0, zero_mul, zero_div, Real.sin_zero, ← Real.sqrt_sq
      (mul_nonneg hcos0 hsin0)]
    ring_nf
  have harc : Real.arcsin (Real.cos (radians lat) * Real.sin (d * (Real.pi / 360))) ≤
      88 / 100 * (d * (Real.pi / 360)) := by
    have hy0 : 0 < 88 / 100 * (d * (Real.pi / 360)) := by positivity
    have hsin := Real.sin_gt_sub_cube hy0
    have hle : Real.cos (radians lat) * Real.sin (d * (Real.pi / 360)) ≤
        867 / 1000 * (d * (Real.pi / 360)) :=
      mul_le_mul hcos (Real.sin_le hx0.le) hsin0 (by norm_num)
    have hsq : (d * (Real.pi / 360)) ^ 2 ≤ 1 / 10000 := by
      rw [sq]
      nlinarith
    have hcube : (88 / 100 * (d * (Real.pi / 360))) ^ 3 / 6 =
        (88 / 100) ^ 3 / 6 * (d * (Real.pi / 360) * (d * (Real.pi / 360)) ^ 2) := by ring
    have hsmall := mul_le_mul_of_nonneg_left hsq hx0.le
    rw [Real.arcsin_le_iff_le_sin' ⟨by linarith, by linarith [Real.pi_gt_three]⟩]
    linarith
  obtain ⟨-, hdegree⟩ := degree_length
  have hr := earthRadiusM_pos
  rw [haversineM_def, hroot]
  calc 2 * earthRadiusM * Real.arcsin (Real.cos (radians lat) * Real.sin (d * (Real.pi / 360)))
      ≤ 2 * earthRadiusM * (88 / 100 * (d * (Real.pi / 360))) :=
        mul_le_mul_of_nonneg_left harc (by positivity)
    _ = 88 / 100 * d * (earthRadiusM * (Real.pi / 180)) := by ring
    _ ≤ 98200 * d := by nlinarith

/-- A road to the east, four cells and a bit from the point (37, 129.0049). -/
noncomputable def eastRoad : Segment ℝ where
  a := ⟨37, 129.0251⟩
  b := ⟨37, 129.0301⟩
  lengthM := haversineM 37 129.0251 37 129.0301
  wayId := none
  tags := []

/-- The road is less than 1990 m away, and it is not found within 2000 m. -/
theorem near_road_missed :
    ¬ (({} : RoadGraph ℝ).addSegments [eastRoad]).NearestExact 37 129.0049 2000 := by
  intro hexact
  obtain ⟨stop, dist, hstop, hbest, -, -⟩ :=
    ((RoadGraph.Celled.empty _ _ _).addSegments [eastRoad]).nearestNode_best
      ((RoadGraph.Indexed.empty _ _ _).addSegments [eastRoad]) 37 129.0049 2000
  have hkeys : ∀ m, m ∈ (({} : RoadGraph ℝ).addSegments [eastRoad]).nodes.keys ↔
      m = ⟨37, 129.0251⟩ ∨ m = ⟨37, 129.0301⟩ := by
    intro m
    simp [RoadGraph.addSegments, RoadGraph.mem_keys_addSegment, eastRoad, Dict.empty]
  have hlast : lastRing (2000 : ℝ) = 4 := by
    have hcells : pyInt (double ((2000 : ℝ) / cellM)) = 3 := by
      have hquotient : (2000 : ℝ) / cellM = 40 / 11 := by norm_num [cellM]
      have hl := le_double (40 / 11 : ℝ)
      have hu := double_le (40 / 11 : ℝ)
      norm_num [abs_of_pos] at hl hu
      rw [hquotient]
      exact pyInt_eq (by norm_num) (by norm_num; linarith) (by norm_num; linarith)
    rw [lastRing, hcells]
    rfl
  have hrings : ∀ m, m ∈ (({} : RoadGraph ℝ).addSegments [eastRoad]).nodes.keys →
      5 ≤ ringOf 37 129.0049 m := by
    have h₀ := cell_of_between (x := 129.0049) (n := 25800) (by norm_num) (by norm_num)
      (by norm_num)
    have h₁ := cell_of_between (x := 129.0251) (n := 25805) (by norm_num) (by norm_num)
      (by norm_num)
    have h₂ := cell_of_between (x := 129.0301) (n := 25806) (by norm_num) (by norm_num)
      (by norm_num)
    intro m hm
    rcases (hkeys m).1 hm with rfl | rfl <;> simp only [ringOf, cell, h₀, h₁, h₂] <;> omega
  have hnear : haversineM 37 129.0049 37 129.0251 < (2000 : ℝ) := by
    have hle : haversineM 37 129.0049 37 (129.0049 + 0.0202) ≤ 98200 * (0.0202 : ℝ) :=
      haversineM_parallel_le (by norm_num) (by norm_num) (by norm_num) (by norm_num)
    norm_num at hle ⊢
    linarith
  cases hres : (({} : RoadGraph ℝ).addSegments [eastRoad]).nearestNode 37 129.0049 2000 with
  | none =>
    exact absurd (hexact.none_iff.1 hres _ ((hkeys _).2 (.inl rfl))) (not_le.2 hnear)
  | some n =>
    obtain ⟨⟨hkey, hring⟩, -⟩ := hbest.of_some n hres
    have := hrings n hkey
    omega

end Salgil
