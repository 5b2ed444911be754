import Salgil.ContractRings

namespace Salgil
set_option autoImplicit true
set_option linter.unusedSectionVars false

theorem isChain_of_pair_infix {α : Type u} {R : α → α → Prop} {l : List α}
    (h : ∀ a b, [b, a] <:+: l → R b a) : l.IsChain R := by
  induction l with
  | nil => exact .nil
  | cons x l ih =>
    cases l with
    | nil => exact .singleton _
    | cons y l =>
      refine List.isChain_cons_cons.2 ⟨h y x (pair_infix_cons_cons.2 (.inl ⟨rfl, rfl⟩)), ih ?_⟩
      exact fun a b hab => h a b (pair_infix_cons_cons.2 (.inr hab))

theorem pair_infix_cases {α : Type u} {a b : α} {l : List α} (h : [b, a] <:+: l) :
    [b, a] <:+ l ∨ ∃ c, [b, a, c] <:+: l := by
  obtain ⟨s, t, rfl⟩ := h
  cases t with
  | nil => exact .inl ⟨s, by simp⟩
  | cons c t => exact .inr ⟨c, s, t, by simp⟩

section
variable {K : Type u} [Field K] [LinearOrder K] [IsStrictOrderedRing K] [FloorRing K]

/-- What is known once `_contract` is done: every pair of a junction has been walked, and every
pair at all if no segment is doubled. -/
structure Contracted (g : RoadGraph K) (len : Sym2 (NodeId K) → K) (junctions : Finset (NodeId K))
    (acc : Contraction K) : Prop where
  junctions_ok : g.Junctions junctions
  branching_subset : branching g ⊆ junctions
  sweep : Sweep g len junctions acc
  left : ∀ {x y}, x ∈ junctions → g.Adjacent x y → (x, y) ∈ acc.walked
  complete : g.Simple → ∀ {x y}, g.Adjacent x y → (x, y) ∈ acc.walked

variable {g : RoadGraph K} {len : Sym2 (NodeId K) → K} {junctions : Finset (NodeId K)}
variable {acc : Contraction K} {fuel : ℕ} {spacingM : K} {x y n : NodeId K}

theorem Sweep.untouched_separate (h : Sweep g len junctions acc) (hg : g.Undirected len)
    (hleft : ∀ {x y}, x ∈ junctions → g.Adjacent x y → (x, y) ∈ acc.walked) :
    g.Separate fun v => ∀ w, (v, w) ∉ acc.walked := by
  have hto : ∀ a b, g.Adjacent a b → (∀ w, (a, w) ∉ acc.walked) → ∀ w, (b, w) ∉ acc.walked := by
    intro a b hab ha w hw
    have hba : (b, a) ∈ acc.walked := by
      by_cases hb : b ∈ junctions
      · exact hleft hb (hg.symm hab)
      · exact h.explored.saturated hb (by simp) hw (hg.symm hab)
    exact ha b (h.explored.symm hba)
  exact fun a b hab => ⟨hto a b hab, hto b a (hg.symm hab)⟩

/-- Where a junction can be reached all edges have been walked. -/
theorem Sweep.complete (h : Sweep g len junctions acc) (hg : g.Undirected len)
    (hJ : g.Junctions junctions)
    (hleft : ∀ {x y}, x ∈ junctions → g.Adjacent x y → (x, y) ∈ acc.walked)
    (hreach : Reaches g junctions x) (hxy : g.Adjacent x y) : (x, y) ∈ acc.walked := by
  by_cases hx : x ∈ junctions
  · exact hleft hx hxy
  · by_cases htouched : ∃ w, (x, w) ∈ acc.walked
    · obtain ⟨w, hw⟩ := htouched
      exact h.explored.saturated hx (by simp) hw hxy
    · rw [not_exists] at htouched
      obtain ⟨m, hm, hmw⟩ := hreach _ (h.untouched_separate hg hleft) htouched
      obtain ⟨e, he⟩ := List.exists_mem_of_ne_nil _ (hg.nonempty (hJ.mem_keys hm))
      exact absurd (hleft hm ⟨e, he, rfl⟩) (hmw e.target)

theorem contractedChains_ends (order : SetOrder (NodeId K)) (hg : g.Undirected len)
    (spacingM : K) (hfuel : g.nodes.keys.length + 2 ≤ fuel) :
    Ends (fun _ => False)
      (fun chains => ∃ junctions walked, Contracted g len junctions ⟨walked, chains⟩)
      (contractedChains order fuel g spacingM) := by
  unfold contractedChains
  refine (junctionsOf_ends hg (by omega)).bind ?_
  rintro junctions ⟨hJ, hsub, hreach⟩
  refine (sweep_all hg hJ hfuel (order.list junctions)
    fun x hx => (order.mem_list _ _).1 hx).bind ?_
  rintro ⟨walked, chains⟩ ⟨hsweep, hall⟩
  have hleft : ∀ {x y}, x ∈ junctions → g.Adjacent x y → (x, y) ∈ walked :=
    fun hx hy => hall _ ((order.mem_list _ _).2 hx) _ hy
  refine ⟨junctions, walked, hJ, hsub, hsweep, hleft, ?_⟩
  exact fun hsimple x y hxy => hsweep.complete hg hJ hleft
    (hreach _ hsimple.noDeadEnd x (RoadGraph.mem_keys_of_adjacent hxy) trivial) hxy

/-- The chains as paths, in either direction. -/
def Piece (chains : List (WalkedChain K)) (p : List (NodeId K)) : Prop :=
  ∃ c ∈ chains, p = c.path ∨ p = c.path.reverse

/-- The nodes the contracted graph keeps are the ends of the chains. -/
def Kept (chains : List (WalkedChain K)) (n : NodeId K) : Prop :=
  ∃ c ∈ chains, n = c.anchor ∨ n = c.current

theorem WalkedChain.head?_path (c : WalkedChain K) : c.path.head? = some c.current := rfl

theorem WalkedChain.getLast?_path (c : WalkedChain K) : c.path.getLast? = some c.anchor := by
  rw [path, ← List.cons_append, List.getLast?_concat]

variable {chains : List (WalkedChain K)} {walked : Finset (NodeId K × NodeId K)}

theorem Covers.not_kept (h : Covers g len junctions walked chains) {c : WalkedChain K}
    {a b : NodeId K} (hc : c ∈ chains) (hx : [b, x, a] <:+: c.path) : ¬ Kept chains x := by
  rintro ⟨c', hc', hx' | hx'⟩
  · exact (h.inner_ne_end hc hx hc').1 hx'
  · exact (h.inner_ne_end hc hx hc').2 hx'

theorem Sweep.kept_touched (h : Sweep g len junctions acc) (hn : Kept acc.chains n) :
    ∃ w, (n, w) ∈ acc.walked := by
  obtain ⟨c, hc, hend⟩ := hn
  have hmem : n ∈ c.path := by
    rcases hend with rfl | rfl
    · exact c.anchor_mem_path
    · exact c.current_mem_path
  exact h.covers.touched h.explored.symm hc hmem

theorem Covers.exists_mem_path (h : Covers g len junctions walked chains)
    (hxy : (x, y) ∈ walked) : ∃ c ∈ chains, x ∈ c.path := by
  obtain ⟨c, hc, hpair | hpair⟩ := h.covered hxy
  · exact ⟨c, hc, hpair.subset (by simp)⟩
  · exact ⟨c, hc, hpair.subset (by simp)⟩

theorem Contracted.walked_of_kept (h : Contracted g len junctions ⟨walked, chains⟩)
    (hx : Kept chains x) (hxy : g.Adjacent x y) : (x, y) ∈ walked := by
  by_cases hJ : x ∈ junctions
  · exact h.left hJ hxy
  · obtain ⟨w, hw⟩ := h.sweep.kept_touched hx
    exact h.sweep.explored.saturated hJ (by simp) hw hxy

/-- The chains cut the raw graph at the kept nodes. -/
theorem Contracted.pathCover (h : Contracted g len junctions ⟨walked, chains⟩)
    (hg : g.Undirected len) : PathCover g.Adjacent (Kept chains) (Piece chains) := by
  have hcovers := h.sweep.covers
  have hpath : ∀ c ∈ chains, c.path.IsChain g.Adjacent := fun c hc =>
    isChain_of_pair_infix fun a b hab => h.sweep.explored.adjacent (hcovers.steps hc hab)
  have hstart : ∀ c ∈ chains, ∀ p, (p = c.path ∨ p = c.path.reverse) → ∀ x y, Kept chains x →
      [y, x] <:+: p → [y, x] <:+ p := by
    intro c hc p hp x y hx hyx
    refine (pair_infix_cases hyx).resolve_right ?_
    rintro ⟨z, hz⟩
    rcases hp with rfl | rfl
    · exact hcovers.not_kept hc hz hx
    · rw [← List.reverse_infix, List.reverse_reverse] at hz
      exact hcovers.not_kept hc hz hx
  constructor
  · exact fun a b hab => hg.symm hab
  · rintro p ⟨c, hc, rfl | rfl⟩
    · exact ⟨c, hc, .inr rfl⟩
    · exact ⟨c, hc, .inl (List.reverse_reverse _)⟩
  · rintro p ⟨c, hc, rfl | rfl⟩
    · exact hpath c hc
    · exact List.isChain_reverse.2 ((hpath c hc).imp fun a b hab => hg.symm hab)
  · rintro p b ⟨c, hc, rfl | rfl⟩ hb
    · rw [c.head?_path] at hb
      exact ⟨c, hc, .inr (Option.some.inj hb).symm⟩
    · rw [List.head?_reverse, c.getLast?_path] at hb
      exact ⟨c, hc, .inl (Option.some.inj hb).symm⟩
  · rintro p b x a ⟨c, hc, rfl | rfl⟩ hx
    · exact ⟨hcovers.not_kept hc hx, fun y hy => (hcovers.inner hc hx).2 y hy⟩
    · rw [← List.reverse_infix, List.reverse_reverse] at hx
      exact ⟨hcovers.not_kept hc hx, fun y hy => ((hcovers.inner hc hx).2 y hy).symm⟩
  · intro x y hx hxy
    obtain ⟨c, hc, hpair | hpair⟩ := hcovers.covered (h.walked_of_kept hx hxy)
    · have hpair' : [y, x] <:+: c.path.reverse := by
        rw [← List.reverse_infix, List.reverse_reverse]
        exact hpair
      exact ⟨_, ⟨c, hc, .inr rfl⟩, hstart c hc _ (.inr rfl) x y hx hpair'⟩
    · exact ⟨_, ⟨c, hc, .inl rfl⟩, hstart c hc _ (.inl rfl) x y hx hpair⟩

theorem Contracted.kept_of_branching (h : Contracted g len junctions ⟨walked, chains⟩)
    (hg : g.Undirected len) (hn : n ∈ g.nodes.keys) (hdeg : (g.neighbours n).length ≠ 2) :
    Kept chains n := by
  have hJ : n ∈ junctions := h.branching_subset (by simp [branching, hn, hdeg])
  obtain ⟨e, he⟩ := List.exists_mem_of_ne_nil _ (hg.nonempty hn)
  obtain ⟨c, hc, hmem⟩ := h.sweep.covers.exists_mem_path (h.left hJ ⟨e, he, rfl⟩)
  refine ⟨c, hc, ?_⟩
  by_contra hnot
  rw [not_or] at hnot
  -- a node of the chain other than its ends lies inside it, and no junction does
  have hvia : n ∈ c.via := by
    simpa [WalkedChain.path, hnot.1, hnot.2] using hmem
  obtain ⟨l, r, hl⟩ := List.append_of_mem hvia
  obtain ⟨l', b, hb⟩ : ∃ l' b, c.current :: l = l' ++ [b] :=
    ⟨_, _, (List.dropLast_append_getLast (List.cons_ne_nil c.current l)).symm⟩
  obtain ⟨a, r', ha⟩ : ∃ a r', r ++ [c.anchor] = a :: r' := by
    cases r with
    | nil => exact ⟨c.anchor, [], rfl⟩
    | cons a r => exact ⟨a, r ++ [c.anchor], rfl⟩
  have hinfix : [b, n, a] <:+: c.path := by
    have hsplit : c.path = (c.current :: l) ++ n :: (r ++ [c.anchor]) := by
      simp [WalkedChain.path, hl]
    exact ⟨l', r', by simp [hsplit, hb, ha]⟩
  exact (h.sweep.covers.inner hc hinfix).1 hJ

end

end Salgil
