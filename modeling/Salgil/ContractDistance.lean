import Salgil.ContractCover

namespace Salgil
set_option autoImplicit true
set_option linter.unusedSectionVars false

section
variable {K : Type u} [Field K] [LinearOrder K] [IsStrictOrderedRing K] [FloorRing K]

/-- Some edge from the first node to the second has the given length. -/
def RoadGraph.HasEdge (g : RoadGraph K) (a b : NodeId K) (d : K) : Prop :=
  ∃ e ∈ g.neighbours a, e.target = b ∧ e.lengthM = d

/-- The lengths of all paths between two nodes. -/
def RoadGraph.pathLengths (g : RoadGraph K) (u v : NodeId K) : Set K :=
  {d | LengthWalk g.HasEdge u v d}

/-- The sum of all edge lengths, each road counted in both directions. -/
def RoadGraph.totalLength (g : RoadGraph K) : K :=
  (g.nodes.keys.map fun n => ((g.neighbours n).map (·.lengthM)).sum).sum

variable {g : RoadGraph K} {len : Sym2 (NodeId K) → K} {n x y u v : NodeId K} {e : Edge K}
variable {chains : List (WalkedChain K)} {segments : List (Segment K)}

theorem sum_map_ite {α : Type v} [DecidableEq α] {l : List α} {a : α} (hl : l.Nodup) (ha : a ∈ l)
    (c : K) : (l.map fun b => if b = a then c else 0).sum = c := by
  induction l with
  | nil => exact absurd ha List.not_mem_nil
  | cons b l ih =>
    obtain ⟨hb, hl⟩ := List.nodup_cons.1 hl
    rw [List.map_cons, List.sum_cons]
    by_cases hba : b = a
    · subst hba
      have hzero : (l.map fun x => if x = b then c else 0).sum = 0 := by
        refine List.sum_eq_zero fun z hz => ?_
        obtain ⟨x, hx, rfl⟩ := List.mem_map.1 hz
        rw [if_neg]
        rintro rfl
        exact hb hx
      rw [hzero, if_pos rfl, add_zero]
    · rw [ih hl ((List.mem_cons.1 ha).resolve_left (Ne.symm hba)), if_neg hba, zero_add]

theorem RoadGraph.totalLength_addNode : (g.addNode n).totalLength = g.totalLength := by
  simp only [totalLength, neighbours_addNode]
  unfold addNode
  split
  · rfl
  · next h =>
    have hnil : g.neighbours n = [] := by
      rw [Option.not_isSome_iff_eq_none] at h
      simp [neighbours, h]
    simp [Dict.set, h, hnil]

theorem RoadGraph.totalLength_appendEdge (hn : n ∈ g.nodes.keys) :
    (g.appendEdge n e).totalLength = g.totalLength + e.lengthM := by
  have hkeys : (g.appendEdge n e).nodes.keys = g.nodes.keys := by
    simp [appendEdge, Dict.set, (g.nodes.mem_keys n).1 hn]
  have hsum : ∀ m, (((g.appendEdge n e).neighbours m).map (·.lengthM)).sum =
      ((g.neighbours m).map (·.lengthM)).sum + if m = n then e.lengthM else 0 := by
    intro m
    rw [neighbours_appendEdge, List.map_append, List.sum_append]
    split <;> simp
  simp only [totalLength, hkeys, hsum, List.sum_map_add]
  rw [sum_map_ite g.nodes.nodup hn]

theorem RoadGraph.totalLength_addSegment {a b : NodeId K} {lengthM : K} {wayId : Option String}
    {tags : Tags} : (g.addSegment a b lengthM wayId tags).totalLength =
      g.totalLength + 2 * lengthM := by
  have hb : b ∈ ((g.addNode a).addNode b).nodes.keys := mem_keys_addNode.2 (.inl rfl)
  have ha : a ∈ ((g.addNode a).addNode b).nodes.keys :=
    mem_keys_addNode.2 (.inr (mem_keys_addNode.2 (.inl rfl)))
  rw [addSegment, totalLength_appendEdge ((mem_keys_appendEdge ha).2 hb), totalLength_appendEdge ha,
    totalLength_addNode, totalLength_addNode]
  ring

theorem RoadGraph.totalLength_addSegments :
    (g.addSegments segments).totalLength =
      g.totalLength + 2 * (segments.map (·.lengthM)).sum := by
  induction segments generalizing g with
  | nil => simp [addSegments]
  | cons s segments ih =>
    have hstep := ih (g := g.addSegment s.a s.b s.lengthM s.wayId s.tags)
    rw [totalLength_addSegment] at hstep
    rw [List.map_cons, List.sum_cons]
    exact hstep.trans (by ring)

/-- A chain as the arguments of its `add_segment` call. -/
def WalkedChain.segment (c : WalkedChain K) : Segment K :=
  ⟨c.anchor, c.current, c.lengthM, c.wayId, c.tags⟩

theorem foldl_addChain :
    chains.foldl addChain g = g.addSegments (chains.map WalkedChain.segment) := by
  rw [RoadGraph.addSegments, List.foldl_map]
  rfl

theorem RoadGraph.mem_keys_addSegments :
    n ∈ (g.addSegments segments).nodes.keys ↔
      n ∈ g.nodes.keys ∨ ∃ s ∈ segments, n = s.a ∨ n = s.b := by
  induction segments generalizing g with
  | nil => simp [addSegments]
  | cons s segments ih =>
    have hstep := ih (g := g.addSegment s.a s.b s.lengthM s.wayId s.tags)
    rw [mem_keys_addSegment] at hstep
    rw [List.exists_mem_cons_iff, ← or_assoc, or_comm (a := n ∈ g.nodes.keys),
      or_assoc (a := n = s.a)]
    exact hstep

theorem RoadGraph.mem_neighbours_addSegments :
    e ∈ (g.addSegments segments).neighbours n ↔ e ∈ g.neighbours n ∨ ∃ s ∈ segments,
      n = s.a ∧ e = ⟨s.b, s.lengthM, s.wayId, s.tags⟩ ∨
        n = s.b ∧ e = ⟨s.a, s.lengthM, s.wayId, s.tags⟩ := by
  induction segments generalizing g with
  | nil => simp [addSegments]
  | cons s segments ih =>
    have hstep := ih (g := g.addSegment s.a s.b s.lengthM s.wayId s.tags)
    rw [mem_neighbours_addSegment] at hstep
    rw [List.exists_mem_cons_iff]
    exact hstep.trans or_assoc

theorem RoadGraph.Undirected.hasEdge_iff (hg : g.Undirected len) (a b : NodeId K) (d : K) :
    g.HasEdge a b d ↔ adjacentEdges g.Adjacent (fun a b => len s(a, b)) a b d := by
  constructor
  · rintro ⟨e, he, rfl, rfl⟩
    exact ⟨⟨e, he, rfl⟩, hg.length he⟩
  · rintro ⟨⟨e, he, rfl⟩, rfl⟩
    exact ⟨e, he, rfl, hg.length he⟩

variable {junctions : Finset (NodeId K)} {walked : Finset (NodeId K × NodeId K)}

/-- In the contracted graph the edges are the chains, in either direction. -/
theorem Contracted.hasEdge_iff (h : Contracted g len junctions ⟨walked, chains⟩) (source : String)
    (wayCount : ℕ) (attribution : String) (a b : NodeId K) (d : K) :
    (chains.foldl addChain { source, wayCount, attribution }).HasEdge a b d ↔
      pieceEdges (Piece chains) (fun a b => len s(a, b)) a b d := by
  have hlen : ∀ c ∈ chains, c.lengthM = pathLength (fun a b => len s(a, b)) c.path :=
    fun c hc => h.sweep.covers.length hc
  have hrev : ∀ p, pathLength (fun a b => len s(a, b)) p.reverse =
      pathLength (fun a b => len s(a, b)) p :=
    pathLength_reverse fun a b => congrArg len Sym2.eq_swap
  rw [foldl_addChain]
  constructor
  · rintro ⟨e, he, rfl, rfl⟩
    obtain ⟨s, hs, hends⟩ := (RoadGraph.mem_neighbours_addSegments.1 he).resolve_left
      List.not_mem_nil
    obtain ⟨c, hc, rfl⟩ := List.mem_map.1 hs
    rcases hends with ⟨rfl, rfl⟩ | ⟨rfl, rfl⟩
    · exact ⟨c.path, ⟨c, hc, .inl rfl⟩, c.getLast?_path, c.head?_path, hlen c hc⟩
    · refine ⟨c.path.reverse, ⟨c, hc, .inr rfl⟩, ?_, ?_, (hlen c hc).trans (hrev _).symm⟩
      · rw [List.getLast?_reverse, c.head?_path]
        rfl
      · rw [List.head?_reverse, c.getLast?_path]
        rfl
  · rintro ⟨p, ⟨c, hc, rfl | rfl⟩, ha, hb, rfl⟩
    · rw [c.getLast?_path] at ha
      rw [c.head?_path] at hb
      obtain rfl := Option.some.inj ha
      obtain rfl := Option.some.inj hb
      exact ⟨_, RoadGraph.mem_neighbours_addSegments.2
        (.inr ⟨c.segment, List.mem_map_of_mem hc, .inl ⟨rfl, rfl⟩⟩), rfl, hlen c hc⟩
    · rw [List.getLast?_reverse, c.head?_path] at ha
      rw [List.head?_reverse, c.getLast?_path] at hb
      obtain rfl := Option.some.inj ha
      obtain rfl := Option.some.inj hb
      exact ⟨_, RoadGraph.mem_neighbours_addSegments.2
        (.inr ⟨c.segment, List.mem_map_of_mem hc, .inr ⟨rfl, rfl⟩⟩), rfl,
        (hlen c hc).trans (hrev _).symm⟩

theorem mem_keys_contracted (source : String) (wayCount : ℕ) (attribution : String) :
    n ∈ (chains.foldl addChain ({ source, wayCount, attribution } : RoadGraph K)).nodes.keys ↔
      Kept chains n := by
  rw [foldl_addChain, RoadGraph.mem_keys_addSegments]
  simp [Dict.empty, Kept, WalkedChain.segment]

theorem RoadGraph.adjacent_addSegment {a b : NodeId K} {lengthM : K} {wayId : Option String}
    {tags : Tags} : (g.addSegment a b lengthM wayId tags).Adjacent x y ↔
      g.Adjacent x y ∨ x = a ∧ y = b ∨ x = b ∧ y = a := by
  simp only [Adjacent, mem_neighbours_addSegment, or_and_right, exists_or, and_assoc,
    exists_and_left, exists_eq_left]
  simp only [eq_comm]

theorem RoadGraph.Simple.addSegment (h : g.Simple) {a b : NodeId K} (hab : a ≠ b)
    (hnew : ¬ g.Adjacent a b) (hnew' : ¬ g.Adjacent b a) {lengthM : K} {wayId : Option String}
    {tags : Tags} : (g.addSegment a b lengthM wayId tags).Simple := by
  intro m
  rw [neighbours_addSegment, List.map_append, List.map_append, List.append_assoc]
  have hfresh : ∀ {c}, ¬ g.Adjacent m c → c ∉ (g.neighbours m).map (·.target) := by
    intro c hc hmem
    obtain ⟨e, he, rfl⟩ := List.mem_map.1 hmem
    exact hc ⟨e, he, rfl⟩
  by_cases hma : m = a
  · subst hma
    simpa [hab, List.nodup_append] using
      ⟨h m, fun e he heb => hfresh hnew (heb ▸ List.mem_map_of_mem he)⟩
  · by_cases hmb : m = b
    · subst hmb
      simpa [hma, List.nodup_append] using
        ⟨h m, fun e he hea => hfresh hnew' (hea ▸ List.mem_map_of_mem he)⟩
    · simpa [hma, hmb] using h m

theorem RoadGraph.Simple.addSegments (h : g.Simple) (hs : ∀ s ∈ segments, s.Measured len)
    (hnew : ∀ s ∈ segments, ¬ g.Adjacent s.a s.b ∧ ¬ g.Adjacent s.b s.a)
    (hnodup : (segments.map fun s => s(s.a, s.b)).Nodup) : (g.addSegments segments).Simple := by
  induction segments generalizing g with
  | nil => exact h
  | cons s segments ih =>
    rw [List.map_cons, List.nodup_cons] at hnodup
    obtain ⟨hsnew, hsnew'⟩ := hnew s List.mem_cons_self
    refine ih (h.addSegment (hs s List.mem_cons_self).1 hsnew hsnew')
      (fun s' hs' => hs s' (List.mem_cons_of_mem _ hs')) (fun s' hs' => ?_) hnodup.2
    have hne : s(s.a, s.b) ≠ s(s'.a, s'.b) :=
      fun he => hnodup.1 (he ▸ List.mem_map.2 ⟨s', hs', rfl⟩)
    obtain ⟨hnew₁, hnew₂⟩ := hnew s' (List.mem_cons_of_mem _ hs')
    simp only [adjacent_addSegment, not_or]
    refine ⟨⟨hnew₁, ?_, ?_⟩, hnew₂, ?_, ?_⟩ <;> rintro ⟨h₁, h₂⟩ <;> simp [h₁, h₂] at hne

/-- The node pairs of the segments, in both orders. -/
def pairsOf : List (Segment K) → Finset (NodeId K × NodeId K)
  | [] => ∅
  | s :: segments => insert (s.b, s.a) (insert (s.a, s.b) (pairsOf segments))

theorem mem_pairsOf :
    (x, y) ∈ pairsOf segments ↔ ∃ s ∈ segments, x = s.a ∧ y = s.b ∨ x = s.b ∧ y = s.a := by
  induction segments with
  | nil => simp [pairsOf]
  | cons s segments ih =>
    rw [pairsOf, mem_walk, ih, List.exists_mem_cons_iff, Prod.mk.injEq, Prod.mk.injEq, ← or_assoc,
      or_comm (a := x = s.b ∧ y = s.a)]

/-- Without doubled segments each length is counted once in either direction. -/
theorem sum_pairsOf (hs : ∀ s ∈ segments, s.Measured len)
    (hnodup : (segments.map fun s => s(s.a, s.b)).Nodup) :
    ∑ p ∈ pairsOf segments, len s(p.1, p.2) = 2 * (segments.map (·.lengthM)).sum := by
  induction segments with
  | nil => simp [pairsOf]
  | cons s segments ih =>
    rw [List.map_cons, List.nodup_cons] at hnodup
    obtain ⟨hne, hlen⟩ := hs s List.mem_cons_self
    have hnew : ∀ {a b}, s(a, b) = s(s.a, s.b) → (a, b) ∉ pairsOf segments := by
      intro a b hab hmem
      obtain ⟨s', hs', hends⟩ := mem_pairsOf.1 hmem
      refine hnodup.1 (List.mem_map.2 ⟨s', hs', ?_⟩)
      rw [← hab]
      rcases hends with ⟨rfl, rfl⟩ | ⟨rfl, rfl⟩
      · rfl
      · exact Sym2.eq_swap
    rw [pairsOf, sum_walk hne (hnew rfl) (hnew Sym2.eq_swap),
      ih (fun s' hs' => hs s' (List.mem_cons_of_mem _ hs')) hnodup.2, List.map_cons, List.sum_cons,
      hlen]
    ring

theorem exists_pos_le {l : List K} (hl : ∀ x ∈ l, 0 < x) : ∃ c : K, 0 < c ∧ ∀ x ∈ l, c ≤ x := by
  induction l with
  | nil => exact ⟨1, one_pos, by simp⟩
  | cons x l ih =>
    obtain ⟨c, hc, hle⟩ := ih fun y hy => hl y (List.mem_cons_of_mem _ hy)
    refine ⟨min x c, lt_min (hl x List.mem_cons_self) hc, fun y hy => ?_⟩
    rcases List.mem_cons.1 hy with rfl | hy
    · exact min_le_left _ _
    · exact (min_le_right _ _).trans (hle y hy)

theorem RoadGraph.Positive.exists_shortest (hpos : g.Positive)
    (h : (g.pathLengths u v).Nonempty) : ∃ d, IsLeast (g.pathLengths u v) d := by
  obtain ⟨c, hc⟩ := h
  obtain ⟨step, hstep0, hstep⟩ := exists_pos_le
    (l := (g.nodes.keys.flatMap g.neighbours).map (·.lengthM)) (by
      intro x hx
      obtain ⟨e, he, rfl⟩ := List.mem_map.1 hx
      obtain ⟨n, -, he⟩ := List.mem_flatMap.1 he
      exact hpos n e he)
  have hW : ∀ a b d, g.HasEdge a b d ↔
      (b, d) ∈ (g.neighbours a).map fun e => (e.target, e.lengthM) := by
    intro a b d
    simp [HasEdge]
  refine LengthWalk.exists_isLeast hW hstep0 (fun a b d hd => ?_) hc
  obtain ⟨e, he, hed⟩ := (hW a b d).2 hd
  refine hstep d (List.mem_map.2 ⟨e, List.mem_flatMap.2 ⟨a, ?_, he⟩, hed.2⟩)
  exact mem_keys_of_adjacent ⟨e, he, rfl⟩

theorem RoadGraph.positive_addSegments (hpositive : ∀ s ∈ segments, 0 < s.lengthM)
    (source : String) (wayCount : ℕ) (attribution : String) :
    (({ source, wayCount, attribution } : RoadGraph K).addSegments segments).Positive := by
  intro n e he
  obtain ⟨s, hs, hends⟩ := (mem_neighbours_addSegments.1 he).resolve_left List.not_mem_nil
  rcases hends with ⟨-, rfl⟩ | ⟨-, rfl⟩ <;> exact hpositive s hs

/-- Contraction ends; it keeps every node with other than two edges, the shortest lengths between
kept nodes and, where no segment was added twice, the total length. -/
theorem contract_preserves (order : SetOrder (NodeId K)) (segments : List (Segment K))
    (len : Sym2 (NodeId K) → K) (hs : ∀ s ∈ segments, s.Measured len)
    (hpositive : ∀ s ∈ segments, 0 < s.lengthM) (source : String) (wayCount : ℕ)
    (attribution : String) (spacingM : K) {fuel : ℕ} {raw : RoadGraph K}
    (hraw : raw = ({ source, wayCount, attribution } : RoadGraph K).addSegments segments)
    (hfuel : raw.nodes.keys.length + 2 ≤ fuel) :
    ∃ contracted, contract order fuel raw spacingM = .ok contracted ∧
      (∀ n ∈ raw.nodes.keys, (raw.neighbours n).length ≠ 2 → n ∈ contracted.nodes.keys) ∧
      (∀ u ∈ contracted.nodes.keys, ∀ v ∈ contracted.nodes.keys,
        ((contracted.pathLengths u v).Nonempty ↔ (raw.pathLengths u v).Nonempty) ∧
        ((raw.pathLengths u v).Nonempty → ∃ d, IsLeast (raw.pathLengths u v) d) ∧
        ∀ d, IsLeast (contracted.pathLengths u v) d ↔ IsLeast (raw.pathLengths u v) d) ∧
      ((segments.map fun s => s(s.a, s.b)).Nodup → contracted.totalLength = raw.totalLength) := by
  have hg : raw.Undirected len := by
    rw [hraw]
    exact (RoadGraph.undirected_empty _ _ _).addSegments hs
  obtain ⟨chains, hchains, junctions, walked, h⟩ :=
    (contractedChains_ends order hg spacingM hfuel).exists_ok
  have hcover := h.pathCover hg
  have hlen : ∀ a b : NodeId K, len s(a, b) = len s(b, a) := fun a b => congrArg len Sym2.eq_swap
  have hraw_pos : raw.Positive := hraw ▸ RoadGraph.positive_addSegments hpositive _ _ _
  have hpos : ∀ a b, raw.Adjacent a b → 0 ≤ len s(a, b) :=
    fun a b hab => (hg.len_pos hraw_pos hab).le
  set contracted := chains.foldl addChain
    ({ source := raw.source, wayCount := raw.wayCount, attribution := raw.attribution } :
      RoadGraph K) with hcontracted
  have hpieces : ∀ u v, contracted.pathLengths u v =
      {d | LengthWalk (pieceEdges (Piece chains) fun a b => len s(a, b)) u v d} := by
    have hedges : contracted.HasEdge = pieceEdges (Piece chains) fun a b => len s(a, b) := by
      funext a b d
      exact propext (h.hasEdge_iff _ _ _ a b d)
    simp only [RoadGraph.pathLengths, hedges, implies_true]
  have hadjacent : ∀ u v, raw.pathLengths u v =
      {d | LengthWalk (adjacentEdges raw.Adjacent fun a b => len s(a, b)) u v d} := by
    have hedges : raw.HasEdge = adjacentEdges raw.Adjacent fun a b => len s(a, b) := by
      funext a b d
      exact propext (hg.hasEdge_iff a b d)
    simp only [RoadGraph.pathLengths, hedges, implies_true]
  refine ⟨contracted, by simp [contract, hchains, hcontracted], ?_, ?_, ?_⟩
  · intro n hn hdeg
    exact (mem_keys_contracted _ _ _).2 (h.kept_of_branching hg hn hdeg)
  · intro u hu v hv
    have hu' := (mem_keys_contracted _ _ _).1 hu
    have hv' := (mem_keys_contracted _ _ _).1 hv
    refine ⟨?_, hraw_pos.exists_shortest, ?_⟩
    · rw [hpieces, hadjacent]
      constructor
      · rintro ⟨d, hd⟩
        exact ⟨d, hcover.expand hlen hd⟩
      · rintro ⟨d, hd⟩
        obtain ⟨d', hd', -⟩ := hcover.shortcut hlen hpos hu' hv' hd
        exact ⟨d', hd'⟩
    · intro d
      rw [hpieces, hadjacent]
      exact hcover.isLeast_iff hlen hpos hu' hv' d
  · intro hnodup
    have hsimple : raw.Simple := by
      rw [hraw]
      refine RoadGraph.Simple.addSegments (fun n => List.nodup_nil) hs (fun s _ => ?_) hnodup
      simp [RoadGraph.Adjacent]
    have hwalked : walked = pairsOf segments := by
      ext ⟨x, y⟩
      rw [mem_pairsOf]
      constructor
      · intro hxy
        obtain ⟨e, he, rfl⟩ := h.sweep.explored.adjacent hxy
        rw [hraw] at he
        obtain ⟨s, hs', hends⟩ := (RoadGraph.mem_neighbours_addSegments.1 he).resolve_left
          List.not_mem_nil
        refine ⟨s, hs', hends.imp ?_ ?_⟩ <;> rintro ⟨rfl, rfl⟩ <;> exact ⟨rfl, rfl⟩
      · rintro ⟨s, hs', hends⟩
        refine h.complete hsimple ?_
        rw [hraw]
        rcases hends with ⟨rfl, rfl⟩ | ⟨rfl, rfl⟩
        · exact ⟨_, RoadGraph.mem_neighbours_addSegments.2 (.inr ⟨s, hs', .inl ⟨rfl, rfl⟩⟩), rfl⟩
        · exact ⟨_, RoadGraph.mem_neighbours_addSegments.2 (.inr ⟨s, hs', .inr ⟨rfl, rfl⟩⟩), rfl⟩
    have htotal := h.sweep.covers.total
    simp only [hwalked, sum_pairsOf hs hnodup] at htotal
    have hzero : ∀ (source : String) (wayCount : ℕ) (attribution : String),
        ({ source, wayCount, attribution } : RoadGraph K).totalLength = 0 := by
      intro source wayCount attribution
      simp [RoadGraph.totalLength, Dict.empty]
    rw [hcontracted, foldl_addChain, hraw, RoadGraph.totalLength_addSegments,
      RoadGraph.totalLength_addSegments, hzero, hzero, htotal, List.map_map]
    rfl

end

noncomputable def someOrder : SetOrder α where
  list := Finset.toList
  mem_list _ _ := Finset.mem_toList
  nodup := Finset.nodup_toList

/-- Two segments of 100 m, cut nowhere or in the middle, are still 400 m there and back. -/
theorem contract_preserves_two_segments :
    ∃ contracted : RoadGraph ℚ,
      contract someOrder 5
          (({} : RoadGraph ℚ).addSegments [⟨⟨0, 0⟩, ⟨0, 1⟩, 100, none, []⟩,
            ⟨⟨0, 1⟩, ⟨0, 2⟩, 100, none, []⟩]) 150 = .ok contracted ∧
        contracted.totalLength = 400 := by
  obtain ⟨contracted, hcontract, -, -, htotal⟩ := contract_preserves someOrder
    [⟨⟨0, 0⟩, ⟨0, 1⟩, 100, none, []⟩, ⟨⟨0, 1⟩, ⟨0, 2⟩, 100, none, []⟩] (fun _ => (100 : ℚ))
    (by simp [Segment.Measured]) (by simp) "" 0 "© OpenStreetMap contributors, ODbL 1.0" 150 rfl
    (show _ ≤ 5 by decide)
  refine ⟨contracted, hcontract, ?_⟩
  rw [htotal (by decide), RoadGraph.totalLength_addSegments]
  norm_num [RoadGraph.totalLength, Dict.empty]

end Salgil
