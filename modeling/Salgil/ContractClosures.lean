import Salgil.ContractDistance
import Salgil.LoadGraph
import Salgil.RouteOptimality
import Mathlib.Data.List.Permutation

namespace Salgil
set_option autoImplicit true
set_option linter.unusedSectionVars false

section
variable {K : Type u} [Field K] [LinearOrder K] [IsStrictOrderedRing K] [FloorRing K]

def WalkedChain.Joins (c : WalkedChain K) (a b : NodeId K) : Prop :=
  c.anchor = a ∧ c.current = b ∨ c.anchor = b ∧ c.current = a

/-- No chain that joins the same nodes is shorter. -/
def WalkedChain.Shortest (c : WalkedChain K) (chains : List (WalkedChain K)) : Prop :=
  ∀ c' ∈ chains, c'.Joins c.anchor c.current → c.lengthM ≤ c'.lengthM

/-- The nodes of a route, from the start on. -/
def RouteResult.nodes (r : RouteResult K) : List (NodeId K) := r.coordinates.map fun c => ⟨c.2, c.1⟩

variable [MathLib K]

/-- The place lies outside the radius of every reported closure. -/
def Outside (blocked : List (BlockedPoint K)) (n : NodeId K) : Prop :=
  ∀ report ∈ blocked, report.radiusM < haversineM n.lat n.lon report.lat report.lon

/-- On every route found, the chains that its steps stand for stay outside every closure. -/
def ClosuresSeen (contracted : RoadGraph K) (chains : List (WalkedChain K))
    (profile : ModeProfile K) (blocked : List (BlockedPoint K)) : Prop :=
  ∀ (hazard : HazardField K) (policy : HazardPolicy K) (origin destination : K × K)
    (dep maxDur snap : K) (fuel : ℕ) (r : RouteResult K),
    hazard.blocked = blocked → 1 ≤ policy.avoidPenalty → contracted.searchBudget < fuel →
    planRoute fuel contracted profile hazard policy origin destination dep maxDur snap = .ok r →
    r.found = true → ∀ a b, [a, b] <:+: r.nodes → ∀ c ∈ chains, c.Joins a b → c.Shortest chains →
      ∀ n ∈ c.path, Outside blocked n

/-- A closure on the inside of a chain that the planner may take also reaches one of its ends. -/
def ClosuresReachEnds (chains : List (WalkedChain K)) (blocked : List (BlockedPoint K)) : Prop :=
  ∀ c ∈ chains, c.anchor ≠ c.current → c.Shortest chains → Outside blocked c.anchor →
    Outside blocked c.current → ∀ n ∈ c.via, Outside blocked n

variable {graph : RoadGraph K} {profile : ModeProfile K} {hazard : HazardField K}
variable {policy : HazardPolicy K} {start goal n : NodeId K} {dep maxDur snap t : K}
variable {p : List (NodeId K)} {chains : List (WalkedChain K)} {c : WalkedChain K}
variable {a b : NodeId K} {blocked : List (BlockedPoint K)} {origin destination : K × K}

theorem WalkedChain.mem_path : n ∈ c.path ↔ n = c.current ∨ n ∈ c.via ∨ n = c.anchor := by
  simp [path]

theorem AdmissibleWalk.outside
    (h : AdmissibleWalk graph profile hazard policy start dep maxDur p n t)
    (hstart : Outside hazard.blocked start) : ∀ m ∈ n :: p, Outside hazard.blocked m := by
  induction h with
  | start =>
    intro m hm
    rwa [List.mem_singleton.1 hm]
  | step _ _ _ hopen _ _ _ ih =>
    intro m hm
    rcases List.mem_cons.1 hm with rfl | hm
    · exact hopen
    · exact ih m hm

/-- Where every edge takes time, only the start is reached by the departure. -/
theorem AdmissibleWalk.eq_start (hm : Metric graph profile policy) (hpos : graph.Positive)
    (h : AdmissibleWalk graph profile hazard policy start dep maxDur p n t) (ht : t ≤ dep) :
    p = [] ∧ n = start := by
  cases h with
  | start => exact ⟨rfl, rfl⟩
  | @step p m s e risk mult hw _ he _ _ _ hmul =>
    have hs : dep ≤ s := (admissibleWalk_iff.1 hw).dep_le (roadTimes_fifo hm)
    have htravel : 0 < e.lengthM / profile.speedMps * mult :=
      mul_pos (div_pos (hpos _ e he) hm.speed_pos)
        (one_pos.trans_le (HazardPolicy.one_le_edgeMultiplier hm.one_le_penalty hmul))
    linarith

theorem nodes_of_found (hm : Metric graph profile policy) {fuel : ℕ}
    (hfuel : graph.searchBudget < fuel) {r : RouteResult K}
    (hr : planRoute fuel graph profile hazard policy origin destination dep maxDur snap = .ok r)
    (hfound : r.found = true) :
    r.nodes.Nodup ∧ ∀ m ∈ r.nodes, Outside hazard.blocked m := by
  obtain ⟨start, goal, hd⟩ := departs_of_found hr hfound
  obtain ⟨p, t, hw, hnodup, hcoords⟩ := ((hd.planRoute_ends hm maxDur hfuel).of_ok hr).simple hfound
  have hnodes : r.nodes = (goal :: p).reverse := by
    rw [RouteResult.nodes, hcoords, List.map_map]
    exact List.map_id'' (fun _ => rfl) _
  rw [hnodes]
  refine ⟨List.nodup_reverse.2 hnodup, fun m hmem => ?_⟩
  exact hw.outside (blockedByFieldReport_eq_none.1 hd.not_closed) m (List.mem_reverse.1 hmem)

theorem ClosuresReachEnds.seen (h : ClosuresReachEnds chains blocked)
    (hm : ∀ policy : HazardPolicy K, 1 ≤ policy.avoidPenalty → Metric graph profile policy) :
    ClosuresSeen graph chains profile blocked := by
  intro hazard policy origin destination dep maxDur snap fuel r hblocked hpenalty hfuel hr hfound
    a b hab c hc hjoins hshortest
  obtain ⟨hnodup, houtside⟩ := nodes_of_found (hm policy hpenalty) hfuel hr hfound
  rw [hblocked] at houtside
  have hne : a ≠ b := by
    have := hnodup.sublist hab.sublist
    simpa using this
  have ha := houtside a (hab.subset (by simp))
  have hb := houtside b (hab.subset (by simp))
  have hends : c.anchor ≠ c.current ∧ Outside blocked c.anchor ∧ Outside blocked c.current := by
    rcases hjoins with ⟨rfl, rfl⟩ | ⟨rfl, rfl⟩
    · exact ⟨hne, ha, hb⟩
    · exact ⟨hne.symm, hb, ha⟩
  obtain ⟨hne, hanchor, hcurrent⟩ := hends
  intro n hn
  rcases WalkedChain.mem_path.1 hn with rfl | hn | rfl
  · exact hcurrent
  · exact h c hc hne hshortest hanchor hcurrent n hn
  · exact hanchor

end

section
variable {g : RoadGraph ℝ} {junctions : Finset (NodeId ℝ)} {chains : List (WalkedChain ℝ)}
variable {walked : Finset (NodeId ℝ × NodeId ℝ)} {c : WalkedChain ℝ} {n : NodeId ℝ}
variable {profile : ModeProfile ℝ} {blocked : List (BlockedPoint ℝ)}

/-- The graph `_contract` builds from the chains. -/
noncomputable abbrev contractedGraph (source : String) (wayCount : ℕ) (attribution : String)
    (chains : List (WalkedChain ℝ)) : RoadGraph ℝ :=
  chains.foldl addChain { source, wayCount, attribution }

variable {source : String} {wayCount : ℕ} {attribution : String} {e : Edge ℝ}

theorem mem_neighbours_contractedGraph :
    e ∈ (contractedGraph source wayCount attribution chains).neighbours n ↔ ∃ c ∈ chains,
      n = c.anchor ∧ e = ⟨c.current, c.lengthM, c.wayId, c.tags⟩ ∨
        n = c.current ∧ e = ⟨c.anchor, c.lengthM, c.wayId, c.tags⟩ := by
  rw [contractedGraph, foldl_addChain, RoadGraph.mem_neighbours_addSegments]
  simp [WalkedChain.segment]

theorem contractedGraph_indexed : (contractedGraph source wayCount attribution chains).Indexed := by
  rw [contractedGraph, foldl_addChain]
  exact (RoadGraph.Indexed.empty _ _ _).addSegments _

theorem Contracted.length_nonneg (h : Contracted g geodesic junctions ⟨walked, chains⟩)
    (hc : c ∈ chains) : 0 ≤ c.lengthM := by
  rw [h.sweep.covers.length hc]
  exact pathLength_nonneg (fun a b => haversineM_nonneg _ _ _ _) _

theorem Contracted.length_pos (h : Contracted g geodesic junctions ⟨walked, chains⟩)
    (hg : g.Undirected geodesic) (hpos : g.Positive) (hc : c ∈ chains) : 0 < c.lengthM := by
  obtain ⟨x, rest, hpath⟩ := c.exists_path_eq
  have hpair : [c.current, x] <:+: c.path := ⟨[], rest, by simp [hpath]⟩
  have hadj := h.sweep.explored.adjacent (h.sweep.covers.steps hc hpair)
  rw [h.sweep.covers.length hc, hpath, pathLength_cons_cons]
  exact add_pos_of_pos_of_nonneg (hg.len_pos hpos hadj)
    (pathLength_nonneg (fun a b => haversineM_nonneg _ _ _ _) _)

theorem Contracted.mem_keys (h : Contracted g geodesic junctions ⟨walked, chains⟩)
    (hn : Kept chains n) : n ∈ g.nodes.keys := by
  obtain ⟨w, hw⟩ := h.sweep.kept_touched hn
  exact RoadGraph.mem_keys_of_adjacent (h.sweep.explored.adjacent hw)

theorem Contracted.metric (h : Contracted g geodesic junctions ⟨walked, chains⟩)
    (mode : TransportMode) {policy : HazardPolicy ℝ} (hpenalty : 1 ≤ policy.avoidPenalty) :
    Metric (contractedGraph source wayCount attribution chains) (profileFor mode) policy where
  length_nonneg n e he := by
    obtain ⟨c, hc, ⟨-, rfl⟩ | ⟨-, rfl⟩⟩ := mem_neighbours_contractedGraph.1 he
    · exact h.length_nonneg hc
    · exact h.length_nonneg hc
  speed_pos := profileFor_speed_pos mode
  one_le_penalty := hpenalty

theorem Contracted.positive (h : Contracted g geodesic junctions ⟨walked, chains⟩)
    (hg : g.Undirected geodesic) (hpos : g.Positive) :
    (contractedGraph source wayCount attribution chains).Positive := by
  intro n e he
  obtain ⟨c, hc, ⟨-, rfl⟩ | ⟨-, rfl⟩⟩ := mem_neighbours_contractedGraph.1 he
  · exact h.length_pos hg hpos hc
  · exact h.length_pos hg hpos hc

theorem Contracted.nearestNode_self (h : Contracted g geodesic junctions ⟨walked, chains⟩)
    (hmap : ∀ n ∈ g.nodes.keys, n.OnMap) (hn : Kept chains n) {maxDistanceM : ℝ}
    (hmax : 0 < maxDistanceM) :
    (contractedGraph source wayCount attribution chains).nearestNode n.lat n.lon maxDistanceM =
      some n := by
  have hkey : n ∈ (contractedGraph source wayCount attribution chains).nodes.keys :=
    (mem_keys_contracted _ _ _).2 hn
  apply RoadGraph.nearestNode_self contractedGraph_indexed hkey _ hmax
  apply RoadGraph.apart_of_onMap _ hkey
  intro m hm
  exact hmap m (h.mem_keys ((mem_keys_contracted _ _ _).1 hm))

variable (source wayCount attribution) in
/-- From one end of a chain, when nothing is predicted and both ends are open, the planner takes
one step to the other end. -/
theorem Contracted.planRoute_chain (h : Contracted g geodesic junctions ⟨walked, chains⟩)
    (hg : g.Undirected geodesic) (hmap : ∀ n ∈ g.nodes.keys, n.OnMap) (mode : TransportMode)
    (hc : c ∈ chains) (hne : c.anchor ≠ c.current) (hanchor : Outside blocked c.anchor)
    (hcurrent : Outside blocked c.current) {fuel : ℕ}
    (hfuel : (contractedGraph source wayCount attribution chains).searchBudget < fuel) :
    ∃ r, planRoute fuel (contractedGraph source wayCount attribution chains) (profileFor mode)
        (.build [] blocked) .default (c.anchor.lat, c.anchor.lon) (c.current.lat, c.current.lon) 0 0
        defaultSnapDistanceM = .ok r ∧ r.found = true ∧ r.nodes = [c.anchor, c.current] := by
  set graph := contractedGraph source wayCount attribution chains with hgraph
  have hblock : (0 : ℝ) < (HazardPolicy.default : HazardPolicy ℝ).blockThreshold := by
    norm_num [HazardPolicy.default]
  have hm : Metric graph (profileFor mode) .default :=
    h.metric mode (by norm_num [HazardPolicy.default])
  have hsnap : ∀ n, Kept chains n → graph.nearestNode n.lat n.lon defaultSnapDistanceM = some n :=
    fun n hn => h.nearestNode_self hmap hn (by norm_num [defaultSnapDistanceM])
  have hrisk : ∀ lat lon t,
      (HazardField.build [] blocked : HazardField ℝ).riskAt lat lon t = .ok 0 :=
    HazardField.riskAt_of_slices_eq_nil rfl
  have hd : Departs graph (.build [] blocked) .default (c.anchor.lat, c.anchor.lon)
      (c.current.lat, c.current.lon) 0 defaultSnapDistanceM c.anchor c.current :=
    ⟨hsnap _ ⟨c, hc, .inl rfl⟩, hsnap _ ⟨c, hc, .inr rfl⟩,
      blockedByFieldReport_eq_none.2 hanchor, 0, hrisk _ _ _, hblock⟩
  have hends := hd.planRoute_ends hm 0 hfuel
  cases hr : planRoute fuel graph (profileFor mode) (.build [] blocked) .default
    (c.anchor.lat, c.anchor.lon) (c.current.lat, c.current.lon) 0 0 defaultSnapDistanceM with
  | error e =>
    obtain ⟨s, hs, -⟩ := (hends.of_error hr).exists_slice
    cases hs
  | ok r =>
    have hspec := hends.of_ok hr
    obtain ⟨m, hmul⟩ := Option.isSome_iff_exists.1 (HazardPolicy.edgeMultiplier_isSome.2 hblock)
    have hedge : ⟨c.current, c.lengthM, c.wayId, c.tags⟩ ∈ graph.neighbours c.anchor :=
      mem_neighbours_contractedGraph.2 ⟨c, hc, .inl ⟨rfl, rfl⟩⟩
    have hfound : r.found = true := hspec.found_iff.2
      ⟨_, _, .step .start (by simp) hedge hcurrent (hrisk _ _ _) hblock hmul⟩
    obtain ⟨p, t, hw, -, hcoords⟩ := hspec.simple hfound
    -- every node before the goal is reached at once, so there is only the start
    have hp : p = [c.anchor] := by
      generalize hgoal : c.current = goal at hw
      cases hw with
      | start => exact absurd hgoal.symm hne
      | step hw ht =>
        obtain ⟨rfl, rfl⟩ := hw.eq_start hm (h.positive hg (hg.positive hmap)) (by simpa using ht)
        rfl
    refine ⟨r, rfl, hfound, ?_⟩
    rw [RouteResult.nodes, hcoords, hp]
    rfl

theorem Contracted.reachEnds (h : Contracted g geodesic junctions ⟨walked, chains⟩)
    (hg : g.Undirected geodesic) (hmap : ∀ n ∈ g.nodes.keys, n.OnMap) {mode : TransportMode}
    (hseen : ClosuresSeen (contractedGraph source wayCount attribution chains) chains
      (profileFor mode) blocked) : ClosuresReachEnds chains blocked := by
  intro c hc hne hshortest hanchor hcurrent n hn
  obtain ⟨r, hr, hfound, hnodes⟩ := h.planRoute_chain source wayCount attribution hg hmap mode hc
    hne hanchor hcurrent (Nat.lt_succ_self _)
  refine hseen _ _ _ _ _ _ _ _ r rfl ?_ (Nat.lt_succ_self _) hr hfound c.anchor c.current ?_ c hc
    (.inl ⟨rfl, rfl⟩) hshortest n (WalkedChain.mem_path.2 (.inr (.inl hn)))
  · norm_num [HazardPolicy.default]
  · rw [hnodes]

theorem loadRoadGraph_eq {order : SetOrder (NodeId ℝ)} {mode : TransportMode}
    {features : List (Feature ℝ)} {fuel : ℕ}
    (h : contractedChains order fuel (rawGraph source (profileFor mode) features)
      minNodeSpacingM = .ok chains) :
    ∃ source' wayCount attribution,
      loadRoadGraph order fuel source (profileFor mode) features =
        .ok (contractedGraph source' wayCount attribution chains) := by
  rw [loadRoadGraph, contract, h, ok_bind]
  exact ⟨_, _, _, rfl⟩

theorem loadRoadGraph_contracted (order : SetOrder (NodeId ℝ)) (source : String)
    (mode : TransportMode) (features : List (Feature ℝ)) {fuel : ℕ}
    (hfuel : (rawGraph source (profileFor mode) features).nodes.keys.length + 2 ≤ fuel) :
    ∃ chains junctions walked source' wayCount attribution,
      contractedChains order fuel (rawGraph source (profileFor mode) features) minNodeSpacingM =
        .ok chains ∧
      Contracted (rawGraph source (profileFor mode) features) geodesic junctions
        ⟨walked, chains⟩ ∧
      loadRoadGraph order fuel source (profileFor mode) features =
        .ok (contractedGraph source' wayCount attribution chains) := by
  have hg := rawGraph_undirected source (profileFor mode) features
  obtain ⟨chains, hchains, junctions, walked, h⟩ :=
    (contractedChains_ends order hg minNodeSpacingM hfuel).exists_ok
  obtain ⟨source', wayCount, attribution, hload⟩ := loadRoadGraph_eq hchains
  exact ⟨chains, junctions, walked, source', wayCount, attribution, hchains, h, hload⟩

/-- Contraction hides no closure from the planner exactly when every closure that reaches the
inside of a chain reaches an end of it too. -/
theorem closuresSeen_iff (order : SetOrder (NodeId ℝ)) (source : String) (mode : TransportMode)
    (features : List (Feature ℝ)) (blocked : List (BlockedPoint ℝ)) {fuel : ℕ}
    (hfuel : (rawGraph source (profileFor mode) features).nodes.keys.length + 2 ≤ fuel) :
    ∃ chains contracted,
      contractedChains order fuel (rawGraph source (profileFor mode) features) minNodeSpacingM =
        .ok chains ∧
      loadRoadGraph order fuel source (profileFor mode) features = .ok contracted ∧
      (ClosuresReachEnds chains blocked →
        ClosuresSeen contracted chains (profileFor mode) blocked) ∧
      ((∀ n ∈ (rawGraph source (profileFor mode) features).nodes.keys, n.OnMap) →
        (ClosuresSeen contracted chains (profileFor mode) blocked ↔
          ClosuresReachEnds chains blocked)) := by
  have hg := rawGraph_undirected source (profileFor mode) features
  obtain ⟨chains, junctions, walked, source', wayCount, attribution, hchains, h, hload⟩ :=
    loadRoadGraph_contracted order source mode features hfuel
  have hseen : ClosuresReachEnds chains blocked → ClosuresSeen
      (contractedGraph source' wayCount attribution chains) chains (profileFor mode) blocked :=
    fun hends => hends.seen fun _ => h.metric mode
  exact ⟨chains, _, hchains, hload, hseen, fun hmap => ⟨h.reachEnds hg hmap, hseen⟩⟩

end

theorem SetOrder.list_pair [DecidableEq α] (order : SetOrder α) {a b : α} (hab : a ≠ b) :
    order.list {a, b} = [a, b] ∨ order.list {a, b} = [b, a] := by
  rw [← List.perm_pair, List.perm_ext_iff_of_nodup (order.nodup _) (by simp [hab])]
  intro x
  simp [order.mem_list]

/-- Three nodes in a line. -/
noncomputable def lineGraph (source : String) (a m b : NodeId ℝ) (d d' : ℝ) (tags : Tags) :
    RoadGraph ℝ :=
  ({ source } : RoadGraph ℝ).addSegments [⟨a, m, d, none, tags⟩, ⟨m, b, d', none, tags⟩]

section Line
variable {a m b : NodeId ℝ} (source : String) (d d' : ℝ) (tags : Tags)

theorem lineGraph_nodes (ham : a ≠ m) (hab : a ≠ b) (hmb : m ≠ b) :
    (lineGraph source a m b d d' tags).nodes.keys = [a, m, b] ∧
    (lineGraph source a m b d d' tags).nodes.get? a = some [⟨m, d, none, tags⟩] ∧
    (lineGraph source a m b d d' tags).nodes.get? m =
      some [⟨a, d, none, tags⟩, ⟨b, d', none, tags⟩] ∧
    (lineGraph source a m b d d' tags).nodes.get? b = some [⟨m, d', none, tags⟩] := by
  simp [lineGraph, RoadGraph.addSegments, RoadGraph.addSegment, RoadGraph.addNode,
    RoadGraph.appendEdge,
    RoadGraph.neighbours, Dict.empty, Dict.set, Function.update, ham, ham.symm, hab, hab.symm, hmb,
    hmb.symm]

theorem contractedChains_lineGraph (ham : a ≠ m) (hab : a ≠ b) (hmb : m ≠ b) (hd : d < 150)
    (hd' : d' < 150) {g : RoadGraph ℝ} (hg : g.nodes = (lineGraph source a m b d d' tags).nodes)
    (order : SetOrder (NodeId ℝ)) :
    ∃ c, contractedChains order 5 g minNodeSpacingM = .ok [c] ∧ m ∈ c.via ∧
      (c.anchor = a ∧ c.current = b ∨ c.anchor = b ∧ c.current = a) := by
  obtain ⟨hkeys, ha, hm, hb⟩ := lineGraph_nodes source d d' tags ham hab hmb
  rw [← hg] at hkeys ha hm hb
  have hbranching : branching g = {a, b} := by
    simp [branching, hkeys, RoadGraph.neighbours, ha, hm, hb]
  have hjunctions : junctionsOf g 5 = .ok {a, b} := by
    simp [junctionsOf, hbranching, hkeys, ringRound, ringWalk, RoadGraph.edgesAt, hm, ham, hmb,
      ham.symm, hmb.symm, hab, hab.symm]
  have hshort : ¬ (150 : ℝ) ≤ d := not_le.2 hd
  have hshort' : ¬ (150 : ℝ) ≤ d' := not_le.2 hd'
  -- the chain is walked from whichever end the set yields first
  rcases order.list_pair hab with horder | horder
  · refine ⟨⟨a, [m], b, d + d', none, tags⟩, ?_, by simp, .inl ⟨rfl, rfl⟩⟩
    simp [contractedChains, hjunctions, horder, walkJunction, RoadGraph.edgesAt, ha, hb, hm,
      walkEdge, walkChain, chainRound, ham.symm, hmb, hmb.symm, hab, hab.symm, minNodeSpacingM,
      hshort, ChainState.chain]
  · refine ⟨⟨b, [m], a, d' + d, none, tags⟩, ?_, by simp, .inr ⟨rfl, rfl⟩⟩
    simp [contractedChains, hjunctions, horder, walkJunction, RoadGraph.edgesAt, ha, hb, hm,
      walkEdge, walkChain, chainRound, ham, ham.symm, hmb, hab, hab.symm, minNodeSpacingM,
      hshort', ChainState.chain]

end Line

/-- A country road drawn with three points about 140 m apart. -/
noncomputable def countryRoad : Feature ℝ where
  geometryType := some "LineString"
  coordinates := [(129, 36.4), (129, 36.40126), (129, 36.40252)]
  properties := [("highway", "residential")]
  featureId := none

noncomputable def countryRoads : RoadGraph ℝ :=
  rawGraph "roads.geojsonseq" (profileFor .foot) [countryRoad]

theorem nodeId_onMeridian {lat : ℝ} {n : ℤ} (h : lat * 10 ^ 7 = n) :
    nodeId 129 lat = onMeridian lat := by
  have h129 : pyRound 7 (129 : ℝ) = 129 := pyRound_eq_self (n := 1290000000) (by norm_num)
  simp [nodeId, nodePrecision, onMeridian, pyRound_eq_self h, h129]

theorem countryRoads_nodes :
    countryRoads.nodes = (lineGraph "roads.geojsonseq" (onMeridian 36.4) (onMeridian 36.40126)
      (onMeridian 36.40252) ((onMeridian 36.4).distance (onMeridian 36.40126))
      ((onMeridian 36.40126).distance (onMeridian 36.40252))
        [("highway", "residential")]).nodes := by
  have hpassable : ((profileFor .foot : ModeProfile ℝ).passable
      [("highway", "residential")]).1 = true := by
    decide +kernel
  have h₁ : nodeId 129 (36.4 : ℝ) = onMeridian 36.4 :=
    nodeId_onMeridian (n := 364000000) (by norm_num)
  have h₂ : nodeId 129 (36.40126 : ℝ) = onMeridian 36.40126 :=
    nodeId_onMeridian (n := 364012600) (by norm_num)
  have h₃ : nodeId 129 (36.40252 : ℝ) = onMeridian 36.40252 :=
    nodeId_onMeridian (n := 364025200) (by norm_num)
  have hne : (36.40126 : ℝ) ≠ 36.4 ∧ (36.40252 : ℝ) ≠ 36.40126 := by norm_num
  simp [countryRoads, rawGraph, addFeature, countryRoad, hpassable, addPoint, h₁, h₂, h₃,
    onMeridian_inj, hne, RoadGraph.addSegments, Feature.wayId, lineGraph]

theorem countryRoads_keys : countryRoads.nodes.keys =
    [onMeridian 36.4, onMeridian 36.40126, onMeridian 36.40252] := by
  rw [countryRoads_nodes]
  apply (lineGraph_nodes _ _ _ _ _ _ _).1 <;> norm_num [onMeridian_inj]

theorem countryRoads_chains (order : SetOrder (NodeId ℝ)) :
    ∃ c, contractedChains order 5 countryRoads minNodeSpacingM = .ok [c] ∧
      onMeridian 36.40126 ∈ c.via ∧ (c.anchor = onMeridian 36.4 ∧ c.current = onMeridian 36.40252 ∨
        c.anchor = onMeridian 36.40252 ∧ c.current = onMeridian 36.4) := by
  have hd : (onMeridian 36.4).distance (onMeridian 36.40126) < 150 := by
    have := (distance_onMeridian_bounds (x := 36.4) (y := 36.40126) (by norm_num [abs_le])).2
    norm_num [abs_of_pos] at this
    linarith
  have hd' : (onMeridian 36.40126).distance (onMeridian 36.40252) < 150 := by
    have := (distance_onMeridian_bounds (x := 36.40126) (y := 36.40252) (by norm_num [abs_le])).2
    norm_num [abs_of_pos] at this
    linarith
  apply contractedChains_lineGraph _ _ _ _ _ _ _ hd hd' countryRoads_nodes
    <;> norm_num [onMeridian_inj]

theorem countryRoads_onMap : ∀ n ∈ countryRoads.nodes.keys, n.OnMap := by
  have hlat : ∀ x : ℝ, 36 < x → x < 37 → (onMeridian x).OnMap := by
    intro x hx hx'
    apply onMeridian_onMap
    rw [abs_lt]
    constructor <;> linarith
  rw [countryRoads_keys]
  intro n hn
  simp only [List.mem_cons, List.not_mem_nil, or_false] at hn
  rcases hn with rfl | rfl | rfl <;> apply hlat <;> norm_num

/-- A closure of 120 m around a point of the meridian. -/
noncomputable def roadClosed (lat : ℝ) : BlockedPoint ℝ := ⟨lat, 129, 120, "road_closed", none⟩

theorem not_outside_roadClosed (x : ℝ) : ¬ Outside [roadClosed x] (onMeridian x) := by
  intro h
  have hnear := h _ List.mem_cons_self
  rw [show haversineM (onMeridian x).lat (onMeridian x).lon
      (roadClosed x).lat (roadClosed x).lon = 0
    from haversineM_self _ _] at hnear
  norm_num [roadClosed] at hnear

theorem outside_roadClosed {x y : ℝ} (h : |y - x| = 0.00126) :
    Outside [roadClosed y] (onMeridian x) := by
  intro report hreport
  rw [List.mem_singleton.1 hreport]
  have hdist := (distance_onMeridian_bounds (x := x) (y := y) (by rw [h]; norm_num)).1
  rw [h] at hdist
  apply lt_of_lt_of_le _ hdist
  norm_num [roadClosed]

/-- The planner leads along the country road although its middle is closed. -/
theorem closure_hidden_in_chain :
    ∃ chains contracted,
      contractedChains someOrder 5 countryRoads minNodeSpacingM = .ok chains ∧
      loadRoadGraph someOrder 5 "roads.geojsonseq" (profileFor .foot) [countryRoad] =
        .ok contracted ∧
      ¬ ClosuresSeen contracted chains (profileFor .foot) [roadClosed 36.40126] := by
  have hg : countryRoads.Undirected geodesic := rawGraph_undirected _ _ _
  have hfuel : countryRoads.nodes.keys.length + 2 ≤ 5 := by
    rw [countryRoads_keys]
    simp
  obtain ⟨c, hchain, hvia, hends⟩ := countryRoads_chains someOrder
  obtain ⟨junctions, walked, h⟩ :=
    (contractedChains_ends someOrder hg minNodeSpacingM hfuel).of_ok hchain
  obtain ⟨source, wayCount, attribution, hload⟩ := loadRoadGraph_eq hchain
  refine ⟨[c], _, hchain, hload, fun hseen => ?_⟩
  have hsouth : Outside [roadClosed 36.40126] (onMeridian 36.4) :=
    outside_roadClosed (by norm_num [abs_of_pos])
  have hnorth : Outside [roadClosed 36.40126] (onMeridian 36.40252) :=
    outside_roadClosed (by norm_num [abs_of_neg])
  have hne : onMeridian 36.4 ≠ onMeridian 36.40252 := by norm_num [onMeridian_inj]
  have hopen : c.anchor ≠ c.current ∧ Outside [roadClosed 36.40126] c.anchor ∧
      Outside [roadClosed 36.40126] c.current := by
    rcases hends with ⟨ha, hb⟩ | ⟨ha, hb⟩ <;> rw [ha, hb]
    · exact ⟨hne, hsouth, hnorth⟩
    · exact ⟨hne.symm, hnorth, hsouth⟩
  have hreach := h.reachEnds hg countryRoads_onMap hseen c (List.mem_singleton_self c) hopen.1
    (by simp [WalkedChain.Shortest]) hopen.2.1 hopen.2.2
  exact not_outside_roadClosed _ (hreach _ hvia)

/-- A closure around an end of the country road is seen. -/
theorem closuresSeen_iff_country_road :
    ∃ chains contracted,
      contractedChains someOrder 5 countryRoads minNodeSpacingM = .ok chains ∧
      loadRoadGraph someOrder 5 "roads.geojsonseq" (profileFor .foot) [countryRoad] =
        .ok contracted ∧
      ClosuresSeen contracted chains (profileFor .foot) [roadClosed 36.4] := by
  have hfuel : countryRoads.nodes.keys.length + 2 ≤ 5 := by
    rw [countryRoads_keys]
    simp
  obtain ⟨c, hchain, -, hends⟩ := countryRoads_chains someOrder
  obtain ⟨chains, contracted, hchains, hload, -, hiff⟩ := closuresSeen_iff someOrder
    "roads.geojsonseq" .foot [countryRoad] [roadClosed 36.4] hfuel
  refine ⟨chains, contracted, hchains, hload, (hiff countryRoads_onMap).2 ?_⟩
  obtain rfl : [c] = chains := Except.ok.inj (hchain.symm.trans hchains)
  intro c' hc' _ _ hanchor hcurrent
  obtain rfl : c' = c := List.mem_singleton.1 hc'
  exfalso
  rcases hends with ⟨ha, -⟩ | ⟨-, hb⟩
  · exact not_outside_roadClosed _ (ha ▸ hanchor)
  · exact not_outside_roadClosed _ (hb ▸ hcurrent)

end Salgil
