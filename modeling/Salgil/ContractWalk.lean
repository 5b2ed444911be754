import Salgil.Contract
import Salgil.RawGraph
import Mathlib.Algebra.BigOperators.Group.Finset.Basic
import Mathlib.Algebra.BigOperators.Group.List.Basic
import Mathlib.Tactic.Linarith
import Mathlib.Tactic.Ring

namespace Salgil
set_option autoImplicit true
set_option linter.unusedSectionVars false

theorem pair_infix_cons_cons {α : Type u} {a b x y : α} {l : List α} :
    [b, a] <:+: y :: x :: l ↔ b = y ∧ a = x ∨ [b, a] <:+: x :: l := by
  rw [List.infix_cons_iff, List.cons_prefix_cons, List.cons_prefix_cons]
  simp

theorem triple_infix_cons_cons_cons {α : Type u} {a b c x y z : α} {l : List α} :
    [c, b, a] <:+: z :: y :: x :: l ↔ (c = z ∧ b = y ∧ a = x) ∨ [c, b, a] <:+: y :: x :: l := by
  rw [List.infix_cons_iff, List.cons_prefix_cons, List.cons_prefix_cons, List.cons_prefix_cons]
  simp

theorem exists_pair_infix {α : Type u} {v x y : α} {l : List α} (hv : v ∈ y :: x :: l) :
    ∃ w, [v, w] <:+: y :: x :: l ∨ [w, v] <:+: y :: x :: l := by
  induction l generalizing x y with
  | nil =>
    rcases List.mem_cons.1 hv with rfl | hv
    · exact ⟨x, .inl List.infix_rfl⟩
    · exact ⟨y, .inr (List.mem_singleton.1 hv ▸ List.infix_rfl)⟩
  | cons z l ih =>
    rcases List.mem_cons.1 hv with rfl | hv
    · exact ⟨x, .inl (pair_infix_cons_cons.2 (.inl ⟨rfl, rfl⟩))⟩
    · obtain ⟨w, hw | hw⟩ := ih hv
      · exact ⟨w, .inl (pair_infix_cons_cons.2 (.inr hw))⟩
      · exact ⟨w, .inr (pair_infix_cons_cons.2 (.inr hw))⟩

section
variable {K : Type u} [Field K] [LinearOrder K] [IsStrictOrderedRing K] [FloorRing K]

/-- The walked pairs are adjacent, run both ways, and a node that is no junction has all its pairs
walked once it has one; only the node `hole` may be left half-way. -/
structure Explored (g : RoadGraph K) (junctions : Finset (NodeId K)) (hole : Option (NodeId K))
    (walked : Finset (NodeId K × NodeId K)) : Prop where
  symm : ∀ {a b}, (a, b) ∈ walked → (b, a) ∈ walked
  adjacent : ∀ {a b}, (a, b) ∈ walked → g.Adjacent a b
  saturated : ∀ {v w y}, v ∉ junctions → hole ≠ some v → (v, w) ∈ walked → g.Adjacent v y →
    (v, y) ∈ walked

/-- The chains run along the walked pairs and cover them; what lies inside a chain is no junction
and no end of a chain, and has no neighbours off the chain. -/
structure Covers (g : RoadGraph K) (len : Sym2 (NodeId K) → K) (junctions : Finset (NodeId K))
    (walked : Finset (NodeId K × NodeId K)) (chains : List (WalkedChain K)) : Prop where
  covered : ∀ {a b}, (a, b) ∈ walked → ∃ c ∈ chains, [a, b] <:+: c.path ∨ [b, a] <:+: c.path
  steps : ∀ {c a b}, c ∈ chains → [b, a] <:+: c.path → (b, a) ∈ walked
  inner : ∀ {c a x b}, c ∈ chains → [b, x, a] <:+: c.path →
    x ∉ junctions ∧ ∀ y, g.Adjacent x y → y = a ∨ y = b
  inner_ne_end : ∀ {c c' a x b}, c ∈ chains → [b, x, a] <:+: c.path → c' ∈ chains →
    x ≠ c'.anchor ∧ x ≠ c'.current
  length : ∀ {c}, c ∈ chains → c.lengthM = pathLength (fun a b => len s(a, b)) c.path
  total : ∑ p ∈ walked, len s(p.1, p.2) = 2 * (chains.map (·.lengthM)).sum

/-- The invariant of the loop over the rounds of one chain: the chain being walked counts as one
more chain, and its current node has only been touched from the node before. -/
structure Walking (g : RoadGraph K) (len : Sym2 (NodeId K) → K) (junctions : Finset (NodeId K))
    (first : Edge K) (st : ChainState K) : Prop where
  explored : Explored g junctions (some st.current) st.walked
  covers : Covers g len junctions st.walked (st.chains ++ [st.chain first])
  previous : ∃ rest, st.via ++ [st.anchor] = st.previous :: rest
  alone : ∀ {w}, st.current ∉ junctions → (st.current, w) ∈ st.walked → w = st.previous
  fresh : st.current ∉ junctions → st.current ∉ st.via ++ [st.anchor] ∧
    ∀ c ∈ st.chains, st.current ∉ c.path

variable {g : RoadGraph K} {len : Sym2 (NodeId K) → K} {junctions : Finset (NodeId K)}
variable {hole : Option (NodeId K)} {walked : Finset (NodeId K × NodeId K)}
variable {chains : List (WalkedChain K)} {c : WalkedChain K} {x y z : NodeId K}

theorem WalkedChain.exists_path_eq (c : WalkedChain K) :
    ∃ x rest, c.path = c.current :: x :: rest := by
  unfold path
  cases c.via with
  | nil => exact ⟨c.anchor, [], rfl⟩
  | cons x via => exact ⟨x, via ++ [c.anchor], rfl⟩

theorem WalkedChain.current_mem_path (c : WalkedChain K) : c.current ∈ c.path :=
  List.mem_cons_self

theorem WalkedChain.anchor_mem_path (c : WalkedChain K) : c.anchor ∈ c.path := by
  simp [path]

theorem Explored.mono (h : Explored g junctions none walked) :
    Explored g junctions hole walked :=
  { h with saturated := fun hv _ => h.saturated hv (by simp) }

theorem Explored.fill (h : Explored g junctions (some x) walked)
    (hx : x ∉ junctions → ∀ z, g.Adjacent x z → (x, z) ∈ walked) :
    Explored g junctions none walked :=
  { h with
    saturated := by
      intro v w y hv _ hw hy
      by_cases hvx : v = x
      · subst hvx
        exact hx hv y hy
      · exact h.saturated hv (by simpa using Ne.symm hvx) hw hy }

theorem Covers.touched (h : Covers g len junctions walked chains)
    (hsymm : ∀ {a b}, (a, b) ∈ walked → (b, a) ∈ walked) (hc : c ∈ chains) (hv : x ∈ c.path) :
    ∃ w, (x, w) ∈ walked := by
  obtain ⟨y, rest, hpath⟩ := c.exists_path_eq
  rw [hpath] at hv
  obtain ⟨w, hw | hw⟩ := exists_pair_infix hv
  · exact ⟨w, h.steps hc (hpath ▸ hw)⟩
  · exact ⟨w, hsymm (h.steps hc (hpath ▸ hw))⟩

/-- A node at the far end of an edge not walked yet is a junction or has not been touched. -/
theorem Explored.untouched (h : Explored g junctions (some x) walked) (hg : g.Undirected len)
    (hxy : g.Adjacent x y) (hnew : (x, y) ∉ walked) (hy : y ∉ junctions) (w : NodeId K) :
    (y, w) ∉ walked := by
  intro hw
  have hne : some x ≠ some y := by simpa using hg.ne hxy
  exact hnew (h.symm (h.saturated hy hne hw (hg.symm hxy)))

theorem mem_walk {p : NodeId K × NodeId K} :
    p ∈ insert (y, x) (insert (x, y) walked) ↔ p = (y, x) ∨ p = (x, y) ∨ p ∈ walked := by
  simp

/-- Walking an edge out of the hole moves the hole to its end. -/
theorem Explored.walk (h : Explored g junctions (some x) walked) (hg : g.Undirected len)
    (hxy : g.Adjacent x y) (hrest : x ∉ junctions → ∀ z, g.Adjacent x z → (x, z) ∈ walked ∨ z = y) :
    Explored g junctions (some y) (insert (y, x) (insert (x, y) walked)) where
  symm := by
    intro a b hab
    simp only [mem_walk, Prod.mk.injEq] at hab ⊢
    rcases hab with ⟨rfl, rfl⟩ | ⟨rfl, rfl⟩ | hab
    · exact .inr (.inl ⟨rfl, rfl⟩)
    · exact .inl ⟨rfl, rfl⟩
    · exact .inr (.inr (h.symm hab))
  adjacent := by
    intro a b hab
    simp only [mem_walk, Prod.mk.injEq] at hab
    rcases hab with ⟨rfl, rfl⟩ | ⟨rfl, rfl⟩ | hab
    · exact hg.symm hxy
    · exact hxy
    · exact h.adjacent hab
  saturated := by
    intro v w z hv hvy hw hz
    have hvy' : v ≠ y := by
      rintro rfl
      exact hvy rfl
    by_cases hvx : v = x
    · subst hvx
      rcases hrest hv z hz with hz | rfl
      · exact mem_walk.2 (.inr (.inr hz))
      · exact mem_walk.2 (.inr (.inl rfl))
    · simp only [mem_walk, Prod.mk.injEq, hvy', hvx, false_and, false_or] at hw
      exact mem_walk.2 (.inr (.inr (h.saturated hv (by simpa using Ne.symm hvx) hw hz)))

theorem sum_walk (hne : x ≠ y) (hxy : (x, y) ∉ walked) (hyx : (y, x) ∉ walked) :
    ∑ p ∈ insert (y, x) (insert (x, y) walked), len s(p.1, p.2) =
      ∑ p ∈ walked, len s(p.1, p.2) + 2 * len s(x, y) := by
  have hyx' : (y, x) ∉ insert (x, y) walked := by
    simp [hyx, hne.symm]
  rw [Finset.sum_insert hyx', Finset.sum_insert hxy]
  simp only [Sym2.eq_swap (a := y)]
  ring

theorem Covers.inner_ne_far (h : Covers g len junctions walked chains)
    (he : Explored g junctions (some x) walked) (hg : g.Undirected len) (hxy : g.Adjacent x y)
    (hnew : (x, y) ∉ walked) {a b : NodeId K} (hc : c ∈ chains) (hz : [b, z, a] <:+: c.path) :
    z ≠ y := by
  rintro rfl
  have hzJ := (h.inner hc hz).1
  have hmem : z ∈ c.path := hz.subset (by simp)
  obtain ⟨w, hw⟩ := h.touched he.symm hc hmem
  exact he.untouched hg hxy hnew hzJ w hw

/-- A new chain along one unwalked edge, from a node that is inside no chain. -/
theorem Covers.start (h : Covers g len junctions walked chains)
    (he : Explored g junctions (some x) walked) (hg : g.Undirected len) (hxy : g.Adjacent x y)
    (hnew : (x, y) ∉ walked) (hx : ∀ c ∈ chains, ∀ a z b, [b, z, a] <:+: c.path → z ≠ x)
    (hc : c.anchor = x ∧ c.via = [] ∧ c.current = y ∧ c.lengthM = len s(x, y)) :
    Covers g len junctions (insert (y, x) (insert (x, y) walked)) (chains ++ [c]) := by
  obtain ⟨hanchor, hvia, hcurrent, hlen⟩ := hc
  have hpath : c.path = [y, x] := by simp [WalkedChain.path, hanchor, hvia, hcurrent]
  have hpair : ∀ {a b}, [b, a] <:+: c.path ↔ b = y ∧ a = x := by
    intro a b
    rw [hpath, pair_infix_cons_cons, List.infix_cons_iff]
    simp
  have htriple : ∀ {a z b}, ¬ [b, z, a] <:+: c.path := by
    intro a z b hz
    have := hz.length_le
    simp [hpath] at this
  have hmem : ∀ {d}, d ∈ chains ++ [c] ↔ d ∈ chains ∨ d = c := by simp
  constructor
  · intro a b hab
    rcases mem_walk.1 hab with he' | he' | hab
    · obtain ⟨rfl, rfl⟩ := Prod.mk.inj he'
      exact ⟨c, hmem.2 (.inr rfl), .inl (hpair.2 ⟨rfl, rfl⟩)⟩
    · obtain ⟨rfl, rfl⟩ := Prod.mk.inj he'
      exact ⟨c, hmem.2 (.inr rfl), .inr (hpair.2 ⟨rfl, rfl⟩)⟩
    · obtain ⟨d, hd, hd'⟩ := h.covered hab
      exact ⟨d, hmem.2 (.inl hd), hd'⟩
  · intro d a b hd hab
    rcases hmem.1 hd with hd | rfl
    · exact mem_walk.2 (.inr (.inr (h.steps hd hab)))
    · obtain ⟨rfl, rfl⟩ := hpair.1 hab
      exact mem_walk.2 (.inl rfl)
  · intro d a z b hd hz
    rcases hmem.1 hd with hd | rfl
    · exact h.inner hd hz
    · exact absurd hz htriple
  · intro d d' a z b hd hz hd'
    rcases hmem.1 hd with hdc | rfl
    · rcases hmem.1 hd' with hdc' | rfl
      · exact h.inner_ne_end hdc hz hdc'
      · rw [hanchor, hcurrent]
        exact ⟨hx d hdc a z b hz, h.inner_ne_far he hg hxy hnew hdc hz⟩
    · exact absurd hz htriple
  · intro d hd
    rcases hmem.1 hd with hd | rfl
    · exact h.length hd
    · rw [hlen, hpath, pathLength_cons_cons, pathLength_singleton, add_zero, Sym2.eq_swap]
  · rw [sum_walk (hg.ne hxy) hnew (fun hyx => hnew (he.symm hyx)), h.total, List.map_append,
      List.sum_append, List.map_singleton, List.sum_singleton, hlen]
    ring

/-- The chain being walked grows by one unwalked edge past its current node, which has no other
edges. -/
theorem Covers.extend (h : Covers g len junctions walked (chains ++ [c]))
    (he : Explored g junctions (some c.current) walked) (hg : g.Undirected len)
    (hxy : g.Adjacent c.current y) (hnew : (c.current, y) ∉ walked) {x : NodeId K}
    {rest : List (NodeId K)} (hprev : c.via ++ [c.anchor] = x :: rest)
    (hJ : c.current ∉ junctions) (honly : ∀ z, g.Adjacent c.current z → z = x ∨ z = y)
    (hfresh : c.current ∉ c.via ++ [c.anchor] ∧ ∀ d ∈ chains, c.current ∉ d.path)
    {c' : WalkedChain K} (hc : c'.anchor = c.anchor ∧ c'.via = c.current :: c.via ∧
      c'.current = y ∧ c'.lengthM = c.lengthM + len s(c.current, y)) :
    Covers g len junctions (insert (y, c.current) (insert (c.current, y) walked))
      (chains ++ [c']) := by
  obtain ⟨hanchor, hvia, hcurrent, hlen⟩ := hc
  have hold : c.path = c.current :: x :: rest := by rw [WalkedChain.path, hprev]
  have hpath : c'.path = y :: c.current :: x :: rest := by
    rw [WalkedChain.path, hanchor, hvia, hcurrent, List.cons_append, hprev]
  have hpair : ∀ {a b}, [b, a] <:+: c'.path ↔ b = y ∧ a = c.current ∨ [b, a] <:+: c.path := by
    intro a b
    rw [hpath, hold, pair_infix_cons_cons]
  have htriple : ∀ {a z b}, [b, z, a] <:+: c'.path ↔
      (b = y ∧ z = c.current ∧ a = x) ∨ [b, z, a] <:+: c.path := by
    intro a z b
    rw [hpath, hold, triple_infix_cons_cons_cons]
  have hmem : ∀ {d d' : WalkedChain K}, d ∈ chains ++ [d'] ↔ d ∈ chains ∨ d = d' := by simp
  have hlast : c ∈ chains ++ [c] := hmem.2 (.inr rfl)
  have hfar : ∀ {d a z b}, d ∈ chains ++ [c] → [b, z, a] <:+: d.path → z ≠ y :=
    fun hd hz => h.inner_ne_far he hg hxy hnew hd hz
  constructor
  · intro a b hab
    rcases mem_walk.1 hab with he' | he' | hab
    · obtain ⟨rfl, rfl⟩ := Prod.mk.inj he'
      exact ⟨c', hmem.2 (.inr rfl), .inl (hpair.2 (.inl ⟨rfl, rfl⟩))⟩
    · obtain ⟨rfl, rfl⟩ := Prod.mk.inj he'
      exact ⟨c', hmem.2 (.inr rfl), .inr (hpair.2 (.inl ⟨rfl, rfl⟩))⟩
    · obtain ⟨d, hd, hd'⟩ := h.covered hab
      rcases hmem.1 hd with hd | rfl
      · exact ⟨d, hmem.2 (.inl hd), hd'⟩
      · exact ⟨c', hmem.2 (.inr rfl), hd'.imp (fun hd' => hpair.2 (.inr hd'))
          fun hd' => hpair.2 (.inr hd')⟩
  · intro d a b hd hab
    rcases hmem.1 hd with hd | rfl
    · exact mem_walk.2 (.inr (.inr (h.steps (hmem.2 (.inl hd)) hab)))
    · rcases hpair.1 hab with ⟨rfl, rfl⟩ | hab
      · exact mem_walk.2 (.inl rfl)
      · exact mem_walk.2 (.inr (.inr (h.steps hlast hab)))
  · intro d a z b hd hz
    rcases hmem.1 hd with hd | rfl
    · exact h.inner (hmem.2 (.inl hd)) hz
    · rcases htriple.1 hz with ⟨rfl, rfl, rfl⟩ | hz
      · exact ⟨hJ, honly⟩
      · exact h.inner hlast hz
  · have hends : ∀ {z}, (∀ d ∈ chains, z ≠ d.anchor ∧ z ≠ d.current) → z ≠ c.anchor → z ≠ y →
        ∀ d' ∈ chains ++ [c'], z ≠ d'.anchor ∧ z ≠ d'.current := by
      intro z hz hza hzy d' hd'
      rcases hmem.1 hd' with hd' | rfl
      · exact hz d' hd'
      · rw [hanchor, hcurrent]
        exact ⟨hza, hzy⟩
    have hinner : ∀ {d a z b}, d ∈ chains ++ [c] → [b, z, a] <:+: d.path →
        ∀ d' ∈ chains ++ [c'], z ≠ d'.anchor ∧ z ≠ d'.current := fun hd hz =>
      hends (fun d' hd' => h.inner_ne_end hd hz (hmem.2 (.inl hd'))) (h.inner_ne_end hd hz hlast).1
        (hfar hd hz)
    intro d d' a z b hd hz hd'
    rcases hmem.1 hd with hd | rfl
    · exact hinner (hmem.2 (.inl hd)) hz d' hd'
    · rcases htriple.1 hz with ⟨rfl, rfl, rfl⟩ | hz
      · refine hends (fun d hd => ⟨?_, ?_⟩) ?_ (hg.ne hxy) d' hd'
        · exact fun h' => hfresh.2 d hd (h' ▸ d.anchor_mem_path)
        · exact fun h' => hfresh.2 d hd (h' ▸ d.current_mem_path)
        · exact fun h' => hfresh.1 (by simp [← h'])
      · exact hinner hlast hz d' hd'
  · intro d hd
    rcases hmem.1 hd with hd | rfl
    · exact h.length (hmem.2 (.inl hd))
    · rw [hlen, h.length hlast, hpath, hold, add_comm, Sym2.eq_swap]
      rfl
  · rw [sum_walk (hg.ne hxy) hnew (fun hyx => hnew (he.symm hyx)), h.total]
    simp only [List.map_append, List.sum_append, List.map_singleton, List.sum_singleton, hlen]
    ring

end

end Salgil
