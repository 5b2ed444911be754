import Salgil.ContractDistance

namespace Salgil
set_option autoImplicit true
set_option linter.unusedSectionVars false

theorem LengthWalk.reverse {ν : Type u} {K : Type v} [AddCommGroup K] {W : ν → ν → K → Prop}
    {a b : ν} {c : K} (hW : ∀ a b d, W a b d → W b a d) (h : LengthWalk W a b c) :
    LengthWalk W b a c := by
  induction h with
  | refl => exact .refl
  | @tail _ c _ d _ hw ih =>
    have hback := (LengthWalk.refl.tail (hW _ _ _ hw)).trans ih
    rwa [zero_add, add_comm] at hback

section
variable {K : Type u} [Field K] [LinearOrder K] [IsStrictOrderedRing K] [FloorRing K]
variable {g : RoadGraph K} {len : Sym2 (NodeId K) → K} {junctions : Finset (NodeId K)}
variable {a b n x y : NodeId K} {segments : List (Segment K)} {fuel : ℕ} {spacingM : K}

/-- How many edges lead from the first node to the second. -/
def RoadGraph.edgesBetween (g : RoadGraph K) (a b : NodeId K) : ℕ :=
  ((g.neighbours a).map (·.target)).count b

/-- As many edges lead from a node to another as back. -/
def RoadGraph.Balanced (g : RoadGraph K) : Prop :=
  ∀ x y, g.edgesBetween x y = g.edgesBetween y x

theorem RoadGraph.edgesBetween_addSegment {lengthM : K} {wayId : Option String} {tags : Tags} :
    (g.addSegment a b lengthM wayId tags).edgesBetween x y =
      g.edgesBetween x y + (if x = a ∧ y = b then 1 else 0) + if x = b ∧ y = a then 1 else 0 := by
  have hif : ∀ {c : NodeId K} {e : Edge K},
      (((if x = c then [e] else []) : List (Edge K)).map (·.target)).count y =
        if x = c ∧ y = e.target then 1 else 0 := by
    intro c e
    by_cases hx : x = c <;> by_cases hy : y = e.target
    · simp [hx, hy]
    · simp [hx, hy, List.count_eq_zero]
    · simp [hx]
    · simp [hx]
  rw [edgesBetween, neighbours_addSegment, List.map_append, List.map_append, List.count_append,
    List.count_append, hif, hif]
  rfl

theorem RoadGraph.Balanced.addSegments (h : g.Balanced) : (g.addSegments segments).Balanced := by
  induction segments generalizing g with
  | nil => exact h
  | cons s segments ih =>
    refine ih fun x y => ?_
    simp only [edgesBetween_addSegment, h x y, and_comm (a := x = s.a), and_comm (a := x = s.b)]
    exact add_right_comm _ _ _

theorem RoadGraph.balanced_empty (source : String) (wayCount : ℕ) (attribution : String) :
    ({ source, wayCount, attribution } : RoadGraph K).Balanced := fun _ _ => rfl

/-- Two nodes that are joined by two edges and have no others. -/
def RoadGraph.DoubledPair (g : RoadGraph K) (a b : NodeId K) : Prop :=
  (g.neighbours a).map (·.target) = [b, b] ∧ (g.neighbours b).map (·.target) = [a, a]

theorem RoadGraph.DoubledPair.symm (h : g.DoubledPair a b) : g.DoubledPair b a := ⟨h.2, h.1⟩

theorem RoadGraph.DoubledPair.target_eq {e : Edge K} (h : g.DoubledPair a b)
    (he : e ∈ g.neighbours a) : e.target = b := by
  have hmem : e.target ∈ (g.neighbours a).map (·.target) := List.mem_map_of_mem he
  simpa [h.1] using hmem

theorem RoadGraph.DoubledPair.length (h : g.DoubledPair a b) : (g.neighbours a).length = 2 := by
  rw [← List.length_map (·.target), h.1]
  rfl

theorem RoadGraph.DoubledPair.adjacent (h : g.DoubledPair a b) : g.Adjacent a b := by
  have hmem : b ∈ (g.neighbours a).map (·.target) := by simp [h.1]
  exact List.mem_map.1 hmem

theorem RoadGraph.DoubledPair.separate (h : g.DoubledPair a b) (hg : g.Undirected len) :
    g.Separate fun v => v = a ∨ v = b := by
  have hto : ∀ v w, g.Adjacent v w → (v = a ∨ v = b) → (w = a ∨ w = b) := by
    rintro v w ⟨e, he, rfl⟩ (rfl | rfl)
    · exact .inr (h.target_eq he)
    · exact .inl (h.symm.target_eq he)
  exact fun v w hvw => ⟨hto v w hvw, hto w v (hg.symm hvw)⟩

/-- Where the only way on leads back, the node and the one before are a doubled pair. -/
theorem RingPath.doubledPair {node current : NodeId K} {ring : List (NodeId K)}
    (h : RingPath g junctions node ring current) (hg : g.Undirected len) (hbalanced : g.Balanced)
    (hJ : g.Junctions junctions) (hnode : node ∈ g.nodes.keys)
    (hdeg : (g.neighbours current).length = 2)
    (hall : ∀ e ∈ g.neighbours current, ring.head? = some e.target) :
    ∃ a, g.DoubledPair a current := by
  cases h with
  | start =>
    obtain ⟨e, he⟩ := List.exists_mem_of_ne_nil _ (hg.nonempty hnode)
    exact absurd (hall e he) (by simp)
  | @step ring before e hpath hJn _ _ _ =>
    have hback : (g.neighbours e.target).map (·.target) = [before, before] := by
      refine List.eq_replicate_iff.2 ⟨(List.length_map _).trans hdeg, fun v hv => ?_⟩
      obtain ⟨e', he', rfl⟩ := List.mem_map.1 hv
      exact (Option.some.inj (hall e' he')).symm
    -- the two edges back have their counterparts, and the node before has no third
    have hcount : ((g.neighbours before).map (·.target)).count e.target = 2 := by
      refine (hbalanced before e.target).trans ?_
      simp [RoadGraph.edgesBetween, hback]
    have hlength : ((g.neighbours before).map (·.target)).length = 2 := by
      rw [List.length_map, hJ.degree (hpath.current_mem_keys hg hnode) hJn]
    refine ⟨before, List.eq_replicate_iff.2 ⟨hlength, fun v hv => ?_⟩, hback⟩
    exact (List.count_eq_length.1 (hcount.trans hlength.symm) v hv).symm

theorem RoadGraph.Balanced.noDeadEnd (hbalanced : g.Balanced) (hg : g.Undirected len) :
    g.NoDeadEnd fun n => ¬ ∃ m, g.DoubledPair n m := by
  have hto : ∀ x y, g.Adjacent x y → (∃ m, g.DoubledPair x m) → ∃ m, g.DoubledPair y m := by
    rintro x y ⟨e, he, rfl⟩ ⟨m, hm⟩
    obtain rfl := hm.target_eq he
    exact ⟨x, hm.symm⟩
  have hsep : g.Separate fun n => ¬ ∃ m, g.DoubledPair n m :=
    fun x y hxy => not_congr ⟨hto x y hxy, hto y x (hg.symm hxy)⟩
  refine ⟨hsep, fun hJ hnode hpair hpath hdeg hall => ?_⟩
  obtain ⟨a, ha⟩ := hpath.doubledPair hg hbalanced hJ hnode hdeg hall
  exact (hpath.separate hsep).1.2 hpair ⟨a, ha.symm⟩

theorem RingPath.of_doubledPair {ring : List (NodeId K)} {current : NodeId K}
    (h : RingPath g junctions a ring current) (hpair : g.DoubledPair a b) :
    ring = [] ∧ current = a ∨ ring = [a] ∧ current = b := by
  induction h with
  | start => exact .inl ⟨rfl, rfl⟩
  | @step ring current e _ _ _ he hturn ih =>
    rcases ih with ⟨rfl, rfl⟩ | ⟨rfl, rfl⟩
    · exact .inr ⟨rfl, hpair.target_eq he⟩
    · exact absurd (congrArg some (hpair.symm.target_eq he).symm) hturn

theorem RingEnd.ne_of_doubledPair {ring : List (NodeId K)} {current : NodeId K}
    (h : RingEnd g junctions a (ring, current)) (hg : g.Undirected len)
    (hpair : g.DoubledPair a b) (hJ : a ∉ junctions) : current ≠ a := by
  have hne : b ≠ a := (hg.ne hpair.adjacent).symm
  cases h with
  | met hpath hmet =>
    rcases hpath.of_doubledPair hpair with ⟨rfl, rfl⟩ | ⟨-, rfl⟩
    · simp [hJ] at hmet
    · exact hne
  | stuck hpath _ hall =>
    rcases hpath.of_doubledPair hpair with ⟨rfl, rfl⟩ | ⟨-, rfl⟩
    · obtain ⟨e, he, -⟩ := hpair.adjacent
      exact absurd (hall e he) (by simp)
    · exact hne

theorem junctionsOf_unpaired (hg : g.Undirected len) (hfuel : g.nodes.keys.length < fuel) :
    Ends (fun _ => False) (fun junctions => ∀ n ∈ junctions, ∀ m, ¬ g.DoubledPair n m)
      (junctionsOf g fuel) := by
  have hfold := Ends.foldlM (E := fun _ => False) (f := ringRound g fuel) (l := g.nodes.keys)
    (b := (branching g, ∅)) (R := fun _ acc => ∀ n ∈ acc.1, ∀ m, ¬ g.DoubledPair n m) ?_ ?_
  · exact hfold.bind fun _ hacc => hacc
  · intro n hn m hpair
    simp [branching, hpair.length] at hn
  · intro _ node acc hnode hacc
    unfold ringRound
    split
    · exact hacc
    · next hnew =>
      rw [not_or] at hnew
      refine (RingPath.start.walk hg hnode (by simpa using hfuel)).bind ?_
      rintro ⟨ring, current⟩ hend n hn m hpair
      by_cases hcurrent : current = node
      · simp only [if_pos hcurrent, Finset.mem_insert] at hn
        rcases hn with rfl | hn
        · exact hend.ne_of_doubledPair hg hpair hnew.1 hcurrent
        · exact hacc n hn m hpair
      · simp only [if_neg hcurrent] at hn
        exact hacc n hn m hpair

theorem Reaches.step (h : Reaches g junctions x) (hxy : g.Adjacent x y) :
    Reaches g junctions y :=
  fun C hC hy => h C hC ((hC x y hxy).2 hy)

/-- Walked pairs lie in parts with a junction, and what lies inside a chain is less than the
spacing from its start. -/
structure Anchored (g : RoadGraph K) (junctions : Finset (NodeId K)) (spacingM : K)
    (acc : Contraction K) : Prop where
  reached : ∀ {a b}, (a, b) ∈ acc.walked → Reaches g junctions a
  close : ∀ {c x}, c ∈ acc.chains → x ∈ c.via → ∃ d ∈ g.pathLengths c.anchor x, d < spacingM

/-- The same of the chain being walked, whose length is that of a path to its current node. -/
structure ChainState.Anchored (g : RoadGraph K) (junctions : Finset (NodeId K)) (spacingM : K)
    (st : ChainState K) : Prop where
  before : Salgil.Anchored g junctions spacingM ⟨st.walked, st.chains⟩
  inside : ∀ {x}, x ∈ st.via → ∃ d ∈ g.pathLengths st.anchor x, d < spacingM
  length : st.lengthM ∈ g.pathLengths st.anchor st.current
  here : Reaches g junctions st.current

variable {st : ChainState K} {acc : Contraction K} {first : Edge K}

theorem Anchored.walk (h : Anchored g junctions spacingM acc) (hx : Reaches g junctions x)
    (hxy : g.Adjacent x y) :
    Anchored g junctions spacingM ⟨insert (y, x) (insert (x, y) acc.walked), acc.chains⟩ where
  reached := by
    intro a b hab
    rcases mem_walk.1 hab with he | he | hab
    · obtain ⟨rfl, rfl⟩ := Prod.mk.inj he
      exact hx.step hxy
    · obtain ⟨rfl, rfl⟩ := Prod.mk.inj he
      exact hx
    · exact h.reached hab
  close := h.close

theorem ChainState.Anchored.cut (h : st.Anchored g junctions spacingM) (first : Edge K) :
    Salgil.Anchored g junctions spacingM ⟨st.walked, st.chains ++ [st.chain first]⟩ where
  reached := h.before.reached
  close := by
    intro c x hc hx
    rcases List.mem_append.1 hc with hc | hc
    · exact h.before.close hc hx
    · obtain rfl := List.mem_singleton.1 hc
      exact h.inside hx

/-- A node is passed inside a chain only where less than the spacing has been walked. -/
theorem ChainState.Anchored.round (h : st.Anchored g junctions spacingM) :
    Ends (fun _ => True)
      (fun
        | .done result => Salgil.Anchored g junctions spacingM result
        | .next st' => st'.Anchored g junctions spacingM)
      (chainRound g junctions spacingM first st) := by
  unfold chainRound
  cases hedges : g.edgesAt st.current with
  | error => trivial
  | ok edges =>
    have hcut := h.cut first
    obtain rfl := edgesAt_ok hedges
    rw [ok_bind]
    by_cases hat : st.current ∈ junctions
    · simpa [hat] using hcut
    · cases hnext : (g.neighbours st.current).find? (·.target ≠ st.previous) with
      | none =>
        by_cases hlong : spacingM ≤ st.lengthM
        · simpa [hat, hnext, hlong] using hcut
        · by_cases hend : st.current = st.anchor
          · have hat' : st.anchor ∉ junctions := hend ▸ hat
            simpa [hat', hnext, hlong, hend] using h.before
          · simpa [hat, hnext, hlong, hend, ChainState.chain] using hcut
      | some next =>
        have hedge := List.mem_of_find?_eq_some hnext
        have hadj : g.Adjacent st.current next.target := ⟨next, hedge, rfl⟩
        have hstep : g.HasEdge st.current next.target next.lengthM := ⟨next, hedge, rfl, rfl⟩
        have hhere := h.here.step hadj
        by_cases hlong : spacingM ≤ st.lengthM
        · have hnew : ChainState.Anchored g junctions spacingM {
              anchor := st.current, via := [], previous := st.current, current := next.target
              lengthM := 0 + next.lengthM
              walked := insert (next.target, st.current)
                (insert (st.current, next.target) st.walked)
              chains := st.chains ++ [st.chain first] } :=
            ⟨hcut.walk h.here hadj, by simp, LengthWalk.refl.tail hstep, hhere⟩
          simpa [hat, hnext, hlong] using hnew
        · have hnew : ChainState.Anchored g junctions spacingM {
              anchor := st.anchor, via := st.current :: st.via, previous := st.current
              current := next.target, lengthM := st.lengthM + next.lengthM
              walked := insert (next.target, st.current)
                (insert (st.current, next.target) st.walked)
              chains := st.chains } := by
            refine ⟨h.before.walk h.here hadj, fun hx => ?_, LengthWalk.tail h.length hstep, hhere⟩
            rcases List.mem_cons.1 hx with rfl | hx
            · exact ⟨_, h.length, not_le.1 hlong⟩
            · exact h.inside hx
          simpa [hat, hnext, hlong] using hnew

theorem ChainState.Anchored.run (h : st.Anchored g junctions spacingM) (fuel : ℕ) :
    Ends (fun _ => True) (Salgil.Anchored g junctions spacingM)
      (walkChain g junctions spacingM first fuel st) := by
  induction fuel generalizing st with
  | zero => trivial
  | succ fuel ih =>
    refine h.round.bind ?_
    rintro (result | st') hround
    · exact hround
    · exact ih hround

theorem Anchored.walkEdge (h : Anchored g junctions spacingM acc) (hx : x ∈ junctions)
    (hfirst : first ∈ g.neighbours x) :
    Ends (fun _ => True) (Anchored g junctions spacingM)
      (walkEdge g junctions spacingM fuel x acc first) := by
  have hadj : g.Adjacent x first.target := ⟨first, hfirst, rfl⟩
  have hreach : Reaches g junctions x := fun _ _ hC => ⟨x, hx, hC⟩
  unfold Salgil.walkEdge
  split
  · exact h
  · refine ChainState.Anchored.run ⟨h.walk hreach hadj, by simp, ?_, hreach.step hadj⟩ fuel
    have hedge := LengthWalk.refl.tail (W := g.HasEdge) ⟨first, hfirst, rfl, rfl⟩
    rwa [zero_add] at hedge

theorem anchored_all (hJ : g.Junctions junctions) (order : List (NodeId K))
    (horder : ∀ x ∈ order, x ∈ junctions) :
    Ends (fun _ => True) (Anchored g junctions spacingM)
      (order.foldlM (walkJunction g junctions spacingM fuel) ⟨∅, []⟩) := by
  refine Ends.foldlM (R := fun _ acc => Anchored g junctions spacingM acc) ⟨by simp, by simp⟩ ?_
  intro _ x acc hx hacc
  rw [walkJunction, edgesAt_eq (hJ.mem_keys (horder x hx)), ok_bind]
  refine Ends.foldlM (R := fun _ acc => Anchored g junctions spacingM acc) hacc ?_
  exact fun _ e acc he hacc => hacc.walkEdge (horder x hx) he

theorem LengthWalk.separate {d : K} {C : NodeId K → Prop} (hC : g.Separate C)
    (h : LengthWalk g.HasEdge x y d) : C x ↔ C y := by
  induction h with
  | refl => rfl
  | tail _ hedge ih =>
    obtain ⟨e, he, ht, -⟩ := hedge
    exact ih.trans (hC _ _ ⟨e, he, ht⟩)

/-- The chains are walked from junctions outside all doubled pairs, and all edges outside them are
walked. -/
theorem contractedChains_anchored (order : SetOrder (NodeId K)) (hg : g.Undirected len)
    (hbalanced : g.Balanced) (spacingM : K) (hfuel : g.nodes.keys.length + 2 ≤ fuel) :
    ∃ junctions acc, contractedChains order fuel g spacingM = .ok acc.chains ∧
      Sweep g len junctions acc ∧ Anchored g junctions spacingM acc ∧
      (∀ n ∈ junctions, ∀ m, ¬ g.DoubledPair n m) ∧
      ∀ x y, (¬ ∃ m, g.DoubledPair x m) → g.Adjacent x y → (x, y) ∈ acc.walked := by
  have hfuel' : g.nodes.keys.length < fuel := by omega
  obtain ⟨junctions, hjunctions, hJ, -, hreach⟩ := (junctionsOf_ends hg hfuel').exists_ok
  have horder : ∀ x ∈ order.list junctions, x ∈ junctions := fun x => (order.mem_list _ x).1
  obtain ⟨acc, hacc, hsweep, hall⟩ :=
    (sweep_all hg hJ hfuel _ horder : Ends _ _ (List.foldlM
      (walkJunction g junctions spacingM fuel) ⟨∅, []⟩ (order.list junctions))).exists_ok
  refine ⟨junctions, acc, ?_, hsweep, (anchored_all hJ _ horder).of_ok hacc,
    (junctionsOf_unpaired hg hfuel').of_ok hjunctions, fun x y hpair hxy => ?_⟩
  · simp [contractedChains, hjunctions, hacc]
  · have hkey := RoadGraph.mem_keys_of_adjacent hxy
    exact hsweep.complete hg hJ (fun hx hy => hall _ ((order.mem_list _ _).2 hx) _ hy)
      (hreach _ (hbalanced.noDeadEnd hg) x hkey hpair) hxy

theorem Anchored.exists_kept (h : Anchored g junctions spacingM acc)
    (hsweep : Sweep g len junctions acc) (hspacing : 0 < spacingM) (hxy : (x, y) ∈ acc.walked) :
    ∃ m, Kept acc.chains m ∧ ∃ d ∈ g.pathLengths m x, d < spacingM := by
  obtain ⟨c, hc, hmem⟩ := hsweep.covers.exists_mem_path hxy
  rcases List.mem_cons.1 hmem with rfl | hmem
  · exact ⟨_, ⟨c, hc, .inr rfl⟩, 0, .refl, hspacing⟩
  · rcases List.mem_append.1 hmem with hvia | hanchor
    · exact ⟨_, ⟨c, hc, .inl rfl⟩, h.close hc hvia⟩
    · exact ⟨_, ⟨c, hc, .inl (List.mem_singleton.1 hanchor)⟩, 0, .refl, hspacing⟩

theorem RoadGraph.DoubledPair.lost (hpair : g.DoubledPair a b) (hg : g.Undirected len)
    (hsweep : Sweep g len junctions acc) (h : Anchored g junctions spacingM acc)
    (hunpaired : ∀ n ∈ junctions, ∀ m, ¬ g.DoubledPair n m) (hn : Kept acc.chains n) :
    g.pathLengths a n = ∅ := by
  refine Set.eq_empty_iff_forall_notMem.2 fun d hd => ?_
  have hsep := hpair.separate hg
  obtain ⟨w, hw⟩ := hsweep.kept_touched hn
  obtain ⟨m, hm, rfl | rfl⟩ := h.reached hw _ hsep ((LengthWalk.separate hsep hd).1 (.inl rfl))
  · exact hunpaired m hm b hpair
  · exact hunpaired m hm a hpair.symm

/-- The node lies by road less than the spacing from a node of the contracted graph. -/
def StaysNear (raw contracted : RoadGraph K) (spacingM : K) (n : NodeId K) : Prop :=
  ∃ m ∈ contracted.nodes.keys, ∃ d, IsLeast (raw.pathLengths n m) d ∧ d < spacingM

/-- Contraction ends, and the nodes that do not stay near a kept one are those of a doubled pair,
of which nothing is kept. -/
theorem places_kept_iff (order : SetOrder (NodeId K)) (segments : List (Segment K))
    (len : Sym2 (NodeId K) → K) (hs : ∀ s ∈ segments, s.Measured len)
    (hpositive : ∀ s ∈ segments, 0 < s.lengthM) (source : String) (wayCount : ℕ)
    (attribution : String) (spacingM : K) (hspacing : 0 < spacingM) {fuel : ℕ} {raw : RoadGraph K}
    (hraw : raw = ({ source, wayCount, attribution } : RoadGraph K).addSegments segments)
    (hfuel : raw.nodes.keys.length + 2 ≤ fuel) :
    ∃ contracted, contract order fuel raw spacingM = .ok contracted ∧
      ((∀ n ∈ raw.nodes.keys, StaysNear raw contracted spacingM n) ↔
        ¬ ∃ a b, raw.DoubledPair a b) ∧
      ∀ n ∈ raw.nodes.keys,
        (StaysNear raw contracted spacingM n ↔ ¬ ∃ b, raw.DoubledPair n b) := by
  have hg : raw.Undirected len := hraw ▸ (RoadGraph.undirected_empty _ _ _).addSegments hs
  have hbalanced : raw.Balanced := hraw ▸ (RoadGraph.balanced_empty _ _ _).addSegments
  have hraw_pos : raw.Positive := hraw ▸ RoadGraph.positive_addSegments hpositive _ _ _
  obtain ⟨junctions, acc, hchains, hsweep, hanchored, hunpaired, hwalked⟩ :=
    contractedChains_anchored order hg hbalanced spacingM hfuel
  have hback : ∀ a b d, raw.HasEdge a b d → raw.HasEdge b a d := by
    intro a b d hab
    obtain ⟨hadj, rfl⟩ := (hg.hasEdge_iff _ _ _).1 hab
    exact (hg.hasEdge_iff _ _ _).2 ⟨hg.symm hadj, congrArg len Sym2.eq_swap⟩
  set contracted := acc.chains.foldl addChain
    ({ source := raw.source, wayCount := raw.wayCount, attribution := raw.attribution } :
      RoadGraph K) with hcontracted
  have hnear : ∀ n ∈ raw.nodes.keys,
      (StaysNear raw contracted spacingM n ↔ ¬ ∃ b, raw.DoubledPair n b) := by
    intro n hn
    constructor
    · rintro ⟨m, hm, d, hd, -⟩ ⟨b, hpair⟩
      have hkept := (mem_keys_contracted _ _ _).1 hm
      have hnone := hpair.lost hg hsweep hanchored hunpaired hkept
      exact Set.notMem_empty d (hnone ▸ hd.1)
    · intro hpair
      obtain ⟨e, he⟩ := List.exists_mem_of_ne_nil _ (hg.nonempty hn)
      have hwalk := hwalked n e.target hpair ⟨e, he, rfl⟩
      obtain ⟨m, hm, c, hc, hlt⟩ := hanchored.exists_kept hsweep hspacing hwalk
      have hreverse : c ∈ raw.pathLengths n m := LengthWalk.reverse hback hc
      obtain ⟨d, hd⟩ := hraw_pos.exists_shortest ⟨c, hreverse⟩
      exact ⟨m, (mem_keys_contracted _ _ _).2 hm, d, hd, (hd.2 hreverse).trans_lt hlt⟩
  refine ⟨contracted, by simp [contract, hchains, hcontracted], ⟨?_, fun hpair n hn => ?_⟩, hnear⟩
  · rintro hall ⟨a, b, hpair⟩
    have ha := RoadGraph.mem_keys_of_adjacent hpair.adjacent
    exact (hnear a ha).1 (hall a ha) ⟨b, hpair⟩
  · rw [hnear n hn]
    rintro ⟨b, hb⟩
    exact hpair ⟨n, b, hb⟩

end

/-- The same segment, added twice. -/
def doubledRoad : RoadGraph ℚ :=
  ({} : RoadGraph ℚ).addSegments
    [⟨⟨0, 0⟩, ⟨0, 1⟩, 100, none, []⟩, ⟨⟨0, 0⟩, ⟨0, 1⟩, 100, none, []⟩]

/-- Of a road of two nodes that has been added twice nothing is left. -/
theorem doubled_road_vanishes :
    ∃ contracted, contract someOrder 4 doubledRoad 150 = .ok contracted ∧
      doubledRoad.nodes.keys = [⟨0, 0⟩, ⟨0, 1⟩] ∧ contracted.nodes.keys = [] ∧
      ¬ ∀ n ∈ doubledRoad.nodes.keys, StaysNear doubledRoad contracted 150 n := by
  have hjunctions : junctionsOf doubledRoad 4 = .ok ∅ := by rfl
  have hkeys : doubledRoad.nodes.keys = [⟨0, 0⟩, ⟨0, 1⟩] := by decide
  refine ⟨_, by simp [contract, contractedChains, hjunctions, someOrder]; rfl, hkeys, rfl, ?_⟩
  intro hall
  obtain ⟨m, hm, -⟩ := hall ⟨0, 0⟩ (by simp [hkeys])
  exact List.not_mem_nil hm

/-- A road of three nodes stays near its ends. -/
theorem places_kept_two_segments :
    ∃ contracted, contract someOrder 5
        (({} : RoadGraph ℚ).addSegments [⟨⟨0, 0⟩, ⟨0, 1⟩, 100, none, []⟩,
          ⟨⟨0, 1⟩, ⟨0, 2⟩, 100, none, []⟩]) 150 = .ok contracted ∧
      StaysNear (({} : RoadGraph ℚ).addSegments [⟨⟨0, 0⟩, ⟨0, 1⟩, 100, none, []⟩,
        ⟨⟨0, 1⟩, ⟨0, 2⟩, 100, none, []⟩]) contracted 150 ⟨0, 1⟩ := by
  obtain ⟨contracted, hcontract, -, hnear⟩ := places_kept_iff someOrder
    [⟨⟨0, 0⟩, ⟨0, 1⟩, 100, none, []⟩, ⟨⟨0, 1⟩, ⟨0, 2⟩, 100, none, []⟩] (fun _ => (100 : ℚ))
    (by simp [Segment.Measured]) (by simp) "" 0 "© OpenStreetMap contributors, ODbL 1.0" 150
    (by norm_num) rfl (show _ ≤ 5 by decide)
  refine ⟨contracted, hcontract, (hnear ⟨0, 1⟩ (by decide)).2 ?_⟩
  rintro ⟨b, hpair, -⟩
  have htargets : ((({} : RoadGraph ℚ).addSegments [⟨⟨0, 0⟩, ⟨0, 1⟩, 100, none, []⟩,
      ⟨⟨0, 1⟩, ⟨0, 2⟩, 100, none, []⟩]).neighbours ⟨0, 1⟩).map (·.target) =
      [⟨0, 0⟩, ⟨0, 2⟩] := by decide
  have hends := htargets.symm.trans hpair
  simp only [List.cons.injEq] at hends
  exact absurd (hends.1.trans hends.2.1.symm) (by decide)

end Salgil
