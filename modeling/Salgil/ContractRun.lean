import Salgil.ContractWalk

namespace Salgil
set_option autoImplicit true
set_option linter.unusedSectionVars false

section
variable {K : Type u} [Field K] [LinearOrder K] [IsStrictOrderedRing K] [FloorRing K]
variable {g : RoadGraph K} {len : Sym2 (NodeId K) → K} {junctions : Finset (NodeId K)}
variable {first : Edge K} {st : ChainState K} {spacingM : K} {x y n : NodeId K}

/-- The junctions are nodes, and every other node has two edges. -/
structure RoadGraph.Junctions (g : RoadGraph K) (junctions : Finset (NodeId K)) : Prop where
  mem_keys : ∀ {n}, n ∈ junctions → n ∈ g.nodes.keys
  degree : ∀ {n}, n ∈ g.nodes.keys → n ∉ junctions → (g.neighbours n).length = 2

theorem edgesAt_eq (hn : n ∈ g.nodes.keys) : g.edgesAt n = .ok (g.neighbours n) := by
  obtain ⟨edges, he⟩ := Option.isSome_iff_exists.1 ((g.nodes.mem_keys n).1 hn)
  simp [RoadGraph.edgesAt, RoadGraph.neighbours, he]

theorem edgesAt_ok {edges : List (Edge K)} (h : g.edgesAt n = .ok edges) :
    edges = g.neighbours n := by
  unfold RoadGraph.edgesAt at h
  split at h
  · next hget =>
    cases h
    simp [RoadGraph.neighbours, hget]
  · cases h

theorem adjacent_of_degree_two (hdeg : (g.neighbours n).length = 2) (hx : g.Adjacent n x)
    (hy : g.Adjacent n y) (hxy : x ≠ y) (hz : g.Adjacent n z) : z = x ∨ z = y := by
  obtain ⟨e₁, e₂, hedges⟩ := List.length_eq_two.1 hdeg
  simp only [RoadGraph.Adjacent, hedges, List.mem_cons, List.not_mem_nil, or_false,
    exists_eq_or_imp, exists_eq_left] at hx hy hz
  grind

theorem Walking.step_back (h : Walking g len junctions first st) :
    (st.current, st.previous) ∈ st.walked := by
  obtain ⟨rest, hrest⟩ := h.previous
  refine h.covers.steps (List.mem_append_right _ (List.mem_singleton_self _)) ?_
  rw [WalkedChain.path, ChainState.chain, hrest]
  exact pair_infix_cons_cons.2 (.inl ⟨rfl, rfl⟩)

/-- What one round of a chain does, and what it establishes. -/
inductive ChainRound.Spec (g : RoadGraph K) (len : Sym2 (NodeId K) → K)
    (junctions : Finset (NodeId K)) (first : Edge K) (st : ChainState K) : ChainRound K → Prop where
  | done : Explored g junctions none st.walked →
      Covers g len junctions st.walked (st.chains ++ [st.chain first]) →
      Spec g len junctions first st (.done ⟨st.walked, st.chains ++ [st.chain first]⟩)
  | next {st' : ChainState K} : Walking g len junctions first st' → st.current ∉ junctions →
      g.Adjacent st'.current st.current →
      (st'.current ∉ junctions → ∀ w, (st'.current, w) ∉ st.walked) →
      st'.walked = insert (st'.current, st.current) (insert (st.current, st'.current) st.walked) →
      Spec g len junctions first st (.next st')

theorem Covers.notMem_of_untouched {walked : Finset (NodeId K × NodeId K)}
    {chains : List (WalkedChain K)} (h : Covers g len junctions walked chains)
    (hsymm : ∀ {a b}, (a, b) ∈ walked → (b, a) ∈ walked) (hy : ∀ w, (y, w) ∉ walked)
    {c : WalkedChain K} (hc : c ∈ chains) : y ∉ c.path := by
  intro hmem
  obtain ⟨w, hw⟩ := h.touched hsymm hc hmem
  exact hy w hw

theorem alone_of_untouched {walked : Finset (NodeId K × NodeId K)} (hne : y ≠ x)
    (hy : ∀ w, (y, w) ∉ walked) (hw : (y, z) ∈ insert (y, x) (insert (x, y) walked)) : z = x := by
  simpa [hne, hy] using hw

theorem Walking.next_cut (h : Walking g len junctions first st) (hg : g.Undirected len)
    {next : Edge K} (hnext : next ∈ g.neighbours st.current)
    (hnew : (st.current, next.target) ∉ st.walked)
    (honly : ∀ z, g.Adjacent st.current z → z = st.previous ∨ z = next.target) :
    Walking g len junctions first {
      anchor := st.current, via := [], previous := st.current, current := next.target
      lengthM := 0 + next.lengthM
      walked := insert (next.target, st.current) (insert (st.current, next.target) st.walked)
      chains := st.chains ++ [st.chain first] } := by
  have hadj : g.Adjacent st.current next.target := ⟨next, hnext, rfl⟩
  have hfar := fun hy => h.explored.untouched hg hadj hnew hy
  constructor
  · refine h.explored.walk hg hadj fun _ z hz => ?_
    rcases honly z hz with rfl | hz
    · exact .inl h.step_back
    · exact .inr hz
  · refine h.covers.start h.explored hg hadj hnew ?_ ⟨rfl, rfl, rfl, ?_⟩
    · intro c hc a z b hz
      exact (h.covers.inner_ne_end hc hz (List.mem_append_right _ (List.mem_singleton_self _))).2
    · rw [← hg.length hnext]
      exact zero_add _
  · exact ⟨[], rfl⟩
  · exact fun hy hw => alone_of_untouched (hg.ne hadj).symm (hfar hy) hw
  · intro hy
    refine ⟨by simpa using (hg.ne hadj).symm, fun c hc => ?_⟩
    exact h.covers.notMem_of_untouched h.explored.symm (hfar hy) hc

theorem Walking.next_extend (h : Walking g len junctions first st) (hg : g.Undirected len)
    (hJ : st.current ∉ junctions) {next : Edge K} (hnext : next ∈ g.neighbours st.current)
    (hnew : (st.current, next.target) ∉ st.walked)
    (honly : ∀ z, g.Adjacent st.current z → z = st.previous ∨ z = next.target) :
    Walking g len junctions first {
      anchor := st.anchor, via := st.current :: st.via, previous := st.current
      current := next.target, lengthM := st.lengthM + next.lengthM
      walked := insert (next.target, st.current) (insert (st.current, next.target) st.walked)
      chains := st.chains } := by
  have hadj : g.Adjacent st.current next.target := ⟨next, hnext, rfl⟩
  have hfar := fun hy => h.explored.untouched hg hadj hnew hy
  obtain ⟨rest, hrest⟩ := h.previous
  constructor
  · refine h.explored.walk hg hadj fun _ z hz => ?_
    rcases honly z hz with rfl | hz
    · exact .inl h.step_back
    · exact .inr hz
  · refine h.covers.extend h.explored hg hadj hnew hrest hJ honly (h.fresh hJ) ⟨rfl, rfl, rfl, ?_⟩
    exact congrArg (st.lengthM + ·) (hg.length hnext)
  · exact ⟨st.via ++ [st.anchor], rfl⟩
  · exact fun hy hw => alone_of_untouched (hg.ne hadj).symm (hfar hy) hw
  · intro hy
    have hnot : ∀ {c}, c ∈ st.chains ++ [st.chain first] → next.target ∉ c.path :=
      fun hc => h.covers.notMem_of_untouched h.explored.symm (hfar hy) hc
    exact ⟨hnot (List.mem_append_right _ (List.mem_singleton_self _)),
      fun c hc => hnot (List.mem_append_left _ hc)⟩

theorem Walking.round (h : Walking g len junctions first st) (hg : g.Undirected len)
    (hJ : g.Junctions junctions) (spacingM : K) :
    Ends (fun _ => False) (ChainRound.Spec g len junctions first st)
      (chainRound g junctions spacingM first st) := by
  have hback := h.step_back
  have hprev : g.Adjacent st.current st.previous := h.explored.adjacent hback
  have hkey := RoadGraph.mem_keys_of_adjacent hprev
  rw [chainRound, edgesAt_eq hkey, ok_bind]
  by_cases hat : st.current ∈ junctions
  · have hdone := ChainRound.Spec.done (h.explored.fill fun hn => absurd hat hn) h.covers
    simpa [hat] using hdone
  · cases hnext : (g.neighbours st.current).find? (·.target ≠ st.previous) with
    | none =>
      -- a dead end: every edge leads back
      have hall : ∀ z, g.Adjacent st.current z → (st.current, z) ∈ st.walked := by
        rintro z ⟨e, he, rfl⟩
        have := List.find?_eq_none.1 hnext e he
        rw [show e.target = st.previous by simpa using this]
        exact hback
      have hne : st.current ≠ st.anchor := fun he => (h.fresh hat).1 (by simp [← he])
      have hdone := ChainRound.Spec.done (h.explored.fill fun _ => hall) h.covers
      by_cases hcut : spacingM ≤ st.lengthM
      · simpa [hat, hnext, hcut] using hdone
      · simpa [hat, hnext, hcut, hne, ChainState.chain] using hdone
    | some next =>
      have hmem := List.mem_of_find?_eq_some hnext
      have hturn : next.target ≠ st.previous := by simpa using List.find?_some hnext
      have hadj : g.Adjacent st.current next.target := ⟨next, hmem, rfl⟩
      have hnew : (st.current, next.target) ∉ st.walked := fun hw => hturn (h.alone hat hw)
      have honly : ∀ z, g.Adjacent st.current z → z = st.previous ∨ z = next.target := fun z hz =>
        adjacent_of_degree_two (hJ.degree hkey hat) hprev hadj hturn.symm hz
      have hfar := fun hy => h.explored.untouched hg hadj hnew hy
      by_cases hcut : spacingM ≤ st.lengthM
      · have hspec := ChainRound.Spec.next (h.next_cut hg hmem hnew honly)
          hat (hg.symm hadj) hfar rfl
        simpa [hat, hnext, hcut] using hspec
      · have hspec := ChainRound.Spec.next (h.next_extend hg hat hmem hnew honly) hat
          (hg.symm hadj) hfar rfl
        simpa [hat, hnext, hcut] using hspec

/-- The nodes no walked pair starts at. -/
def untouched (g : RoadGraph K) (walked : Finset (NodeId K × NodeId K)) : Finset (NodeId K) :=
  g.nodes.keys.toFinset \ walked.image Prod.fst

theorem mem_untouched {walked : Finset (NodeId K × NodeId K)} :
    n ∈ untouched g walked ↔ n ∈ g.nodes.keys ∧ ∀ w, (n, w) ∉ walked := by
  simp [untouched]

theorem untouched_card_le (walked : Finset (NodeId K × NodeId K)) :
    (untouched g walked).card ≤ g.nodes.keys.length :=
  (Finset.card_le_card Finset.sdiff_subset).trans (List.toFinset_card_le _)

theorem untouched_card_lt {walked walked' : Finset (NodeId K × NodeId K)} (hsub : walked ⊆ walked')
    (hy : y ∈ g.nodes.keys) (hfar : ∀ w, (y, w) ∉ walked) (hw : (y, x) ∈ walked') :
    (untouched g walked').card < (untouched g walked).card := by
  refine Finset.card_lt_card (Finset.ssubset_iff_subset_ne.2 ⟨fun z hz => ?_, fun heq => ?_⟩)
  · obtain ⟨hz, hz'⟩ := mem_untouched.1 hz
    exact mem_untouched.2 ⟨hz, fun w hzw => hz' w (hsub hzw)⟩
  · have hmem : y ∈ untouched g walked' := heq ▸ mem_untouched.2 ⟨hy, hfar⟩
    exact (mem_untouched.1 hmem).2 x hw

/-- How many rounds the chain being walked may still take. -/
def ChainState.rounds (g : RoadGraph K) (junctions : Finset (NodeId K)) (st : ChainState K) : ℕ :=
  if st.current ∈ junctions then 1 else (untouched g st.walked).card + 2

/-- The invariant between two chains. -/
structure Sweep (g : RoadGraph K) (len : Sym2 (NodeId K) → K) (junctions : Finset (NodeId K))
    (acc : Contraction K) : Prop where
  explored : Explored g junctions none acc.walked
  covers : Covers g len junctions acc.walked acc.chains

/-- A chain comes to its end, each further node being a junction or fresh. -/
theorem Walking.run (h : Walking g len junctions first st) (hg : g.Undirected len)
    (hJ : g.Junctions junctions) (spacingM : K) (fuel : ℕ)
    (hfuel : st.rounds g junctions ≤ fuel) :
    Ends (fun _ => False) (fun acc => Sweep g len junctions acc ∧ st.walked ⊆ acc.walked)
      (walkChain g junctions spacingM first fuel st) := by
  induction fuel generalizing st with
  | zero =>
    unfold ChainState.rounds at hfuel
    split at hfuel <;> omega
  | succ fuel ih =>
    have hround := h.round hg hJ spacingM
    cases hr : chainRound g junctions spacingM first st with
    | error e => exact (hround.of_error hr).elim
    | ok r =>
      simp only [walkChain, hr, ok_bind]
      cases hround.of_ok hr with
      | done hexplored hcovers => exact ⟨⟨hexplored, hcovers⟩, Finset.Subset.refl _⟩
      | @next st' hwalking hat hadj hfar hwalked =>
        have hsub : st.walked ⊆ st'.walked := by
          rw [hwalked]
          exact (Finset.subset_insert _ _).trans (Finset.subset_insert _ _)
        have hrounds : st'.rounds g junctions ≤ fuel := by
          simp only [ChainState.rounds, hat, ↓reduceIte] at hfuel ⊢
          split
          · omega
          · next hat' =>
            have hlt : (untouched g st'.walked).card < (untouched g st.walked).card :=
              untouched_card_lt hsub (RoadGraph.mem_keys_of_adjacent hadj) (hfar hat')
                (hwalked ▸ Finset.mem_insert_self _ _)
            omega
        exact (ih hwalking hrounds).mono fun acc hacc => ⟨hacc.1, hsub.trans hacc.2⟩

theorem Sweep.empty : Sweep g len junctions ⟨∅, []⟩ where
  explored := ⟨by simp, by simp, by simp⟩
  covers := ⟨by simp, by simp, by simp, by simp, by simp, by simp⟩

theorem Sweep.start {acc : Contraction K} (h : Sweep g len junctions acc) (hg : g.Undirected len)
    (hx : x ∈ junctions) (hfirst : first ∈ g.neighbours x)
    (hnew : (x, first.target) ∉ acc.walked) :
    Walking g len junctions first {
      anchor := x, via := [], previous := x, current := first.target, lengthM := first.lengthM
      walked := insert (first.target, x) (insert (x, first.target) acc.walked)
      chains := acc.chains } := by
  have hadj : g.Adjacent x first.target := ⟨first, hfirst, rfl⟩
  have hexplored : Explored g junctions (some x) acc.walked := h.explored.mono
  have hfar := fun hy => hexplored.untouched hg hadj hnew hy
  constructor
  · exact hexplored.walk hg hadj fun hn => absurd hx hn
  · refine h.covers.start hexplored hg hadj hnew ?_ ⟨rfl, rfl, rfl, hg.length hfirst⟩
    rintro c hc a z b hz rfl
    exact (h.covers.inner hc hz).1 hx
  · exact ⟨[], rfl⟩
  · exact fun hy hw => alone_of_untouched (hg.ne hadj).symm (hfar hy) hw
  · intro hy
    refine ⟨by simpa using (hg.ne hadj).symm, fun c hc => ?_⟩
    exact h.covers.notMem_of_untouched hexplored.symm (hfar hy) hc

variable {acc : Contraction K} {fuel : ℕ}

theorem Sweep.walkEdge (h : Sweep g len junctions acc) (hg : g.Undirected len)
    (hJ : g.Junctions junctions) (hfuel : g.nodes.keys.length + 2 ≤ fuel) (hx : x ∈ junctions)
    (hfirst : first ∈ g.neighbours x) :
    Ends (fun _ => False) (fun acc' => Sweep g len junctions acc' ∧ acc.walked ⊆ acc'.walked ∧
      (x, first.target) ∈ acc'.walked) (walkEdge g junctions spacingM fuel x acc first) := by
  unfold Salgil.walkEdge
  split
  · next hold => exact ⟨h, Finset.Subset.refl _, hold⟩
  · next hnew =>
    refine ((h.start hg hx hfirst hnew).run hg hJ spacingM fuel ?_).mono ?_
    · have hcard := untouched_card_le (g := g)
        (insert (first.target, x) (insert (x, first.target) acc.walked))
      unfold ChainState.rounds
      split
      · omega
      · exact (Nat.add_le_add_right hcard 2).trans hfuel
    · rintro acc' ⟨hacc', hsub⟩
      exact ⟨hacc', fun p hp => hsub (mem_walk.2 (.inr (.inr hp))),
        hsub (mem_walk.2 (.inr (.inl rfl)))⟩

theorem Sweep.walkJunction (h : Sweep g len junctions acc) (hg : g.Undirected len)
    (hJ : g.Junctions junctions) (hfuel : g.nodes.keys.length + 2 ≤ fuel) (hx : x ∈ junctions) :
    Ends (fun _ => False) (fun acc' => Sweep g len junctions acc' ∧ acc.walked ⊆ acc'.walked ∧
      ∀ y, g.Adjacent x y → (x, y) ∈ acc'.walked)
      (walkJunction g junctions spacingM fuel acc x) := by
  rw [Salgil.walkJunction, edgesAt_eq (hJ.mem_keys hx), ok_bind]
  refine (Ends.foldlM (R := fun done acc' => Sweep g len junctions acc' ∧
    acc.walked ⊆ acc'.walked ∧ ∀ e ∈ done, (x, e.target) ∈ acc'.walked)
    ⟨h, Finset.Subset.refl _, by simp⟩ ?_).mono ?_
  · rintro done e acc' he ⟨hacc', hsub, hdone⟩
    refine (hacc'.walkEdge hg hJ hfuel hx he).mono ?_
    rintro acc'' ⟨hacc'', hsub', hnew⟩
    refine ⟨hacc'', hsub.trans hsub', fun e' he' => ?_⟩
    rcases List.mem_append.1 he' with he' | he'
    · exact hsub' (hdone e' he')
    · rw [List.mem_singleton.1 he']
      exact hnew
  · rintro acc' ⟨hacc', hsub, hdone⟩
    refine ⟨hacc', hsub, ?_⟩
    rintro y ⟨e, he, rfl⟩
    exact hdone e he

/-- After the walk from every junction all pairs of the junctions have been walked. -/
theorem sweep_all (hg : g.Undirected len) (hJ : g.Junctions junctions)
    (hfuel : g.nodes.keys.length + 2 ≤ fuel) (order : List (NodeId K))
    (horder : ∀ x ∈ order, x ∈ junctions) :
    Ends (fun _ => False) (fun acc => Sweep g len junctions acc ∧
        ∀ x ∈ order, ∀ y, g.Adjacent x y → (x, y) ∈ acc.walked)
      (order.foldlM (walkJunction g junctions spacingM fuel) ⟨∅, []⟩) := by
  refine Ends.foldlM (R := fun done acc => Sweep g len junctions acc ∧
    ∀ x ∈ done, ∀ y, g.Adjacent x y → (x, y) ∈ acc.walked) ⟨.empty, by simp⟩ ?_
  rintro done x acc hx ⟨hacc, hdone⟩
  refine (hacc.walkJunction hg hJ hfuel (horder x hx)).mono ?_
  rintro acc' ⟨hacc', hsub, hnew⟩
  refine ⟨hacc', fun x' hx' y hy => ?_⟩
  rcases List.mem_append.1 hx' with hx' | hx'
  · exact hsub (hdone x' hx' y hy)
  · rw [List.mem_singleton.1 hx'] at hy ⊢
    exact hnew y hy

end

end Salgil
