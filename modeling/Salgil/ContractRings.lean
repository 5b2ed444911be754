import Salgil.ContractRun

namespace Salgil
set_option autoImplicit true
set_option linter.unusedSectionVars false

section
variable {K : Type u} [Field K] [LinearOrder K] [IsStrictOrderedRing K] [FloorRing K]
variable {g : RoadGraph K} {len : Sym2 (NodeId K) → K} {junctions : Finset (NodeId K)}
variable {node current n : NodeId K} {ring : List (NodeId K)} {fuel : ℕ}

/-- The walk from a node that looks for a ring: the nodes it has passed, newest first, and the
one it has come to. It never turns back. -/
inductive RingPath (g : RoadGraph K) (junctions : Finset (NodeId K)) (node : NodeId K) :
    List (NodeId K) → NodeId K → Prop where
  | start : RingPath g junctions node [] node
  | step {ring : List (NodeId K)} {current : NodeId K} {e : Edge K} :
      RingPath g junctions node ring current → current ∉ junctions → current ∉ ring →
      e ∈ g.neighbours current → ring.head? ≠ some e.target →
      RingPath g junctions node (current :: ring) e.target

/-- How the walk ends: at a junction, at a node it has passed, or with no way on. -/
inductive RingEnd (g : RoadGraph K) (junctions : Finset (NodeId K)) (node : NodeId K) :
    List (NodeId K) × NodeId K → Prop where
  | met {ring : List (NodeId K)} {current : NodeId K} : RingPath g junctions node ring current →
      current ∈ junctions ∨ current ∈ ring → RingEnd g junctions node (ring, current)
  | stuck {ring : List (NodeId K)} {current : NodeId K} : RingPath g junctions node ring current →
      current ∉ junctions → (∀ e ∈ g.neighbours current, ring.head? = some e.target) →
      RingEnd g junctions node (current :: ring, current)

theorem RingPath.nodup (h : RingPath g junctions node ring current) : ring.Nodup := by
  induction h with
  | start => exact List.nodup_nil
  | step _ _ hnot _ _ ih => exact List.nodup_cons.2 ⟨hnot, ih⟩

theorem RingPath.current_mem_keys (h : RingPath g junctions node ring current)
    (hg : g.Undirected len) (hnode : node ∈ g.nodes.keys) : current ∈ g.nodes.keys := by
  cases h with
  | start => exact hnode
  | step _ _ _ he _ => exact RoadGraph.mem_keys_of_adjacent (hg.back he)

theorem RingPath.subset_keys (h : RingPath g junctions node ring current)
    (hg : g.Undirected len) (hnode : node ∈ g.nodes.keys) : ring ⊆ g.nodes.keys := by
  induction h with
  | start => exact List.nil_subset _
  | step hprev _ _ _ _ ih => exact List.cons_subset.2 ⟨hprev.current_mem_keys hg hnode, ih⟩

theorem RingPath.walk (h : RingPath g junctions node ring current) (hg : g.Undirected len)
    (hnode : node ∈ g.nodes.keys) (hfuel : g.nodes.keys.length < ring.length + fuel) :
    Ends (fun _ => False) (RingEnd g junctions node)
      (ringWalk g junctions fuel ring current ring.head?) := by
  induction fuel generalizing ring current with
  | zero =>
    have := (h.nodup.subperm (h.subset_keys hg hnode)).length_le
    omega
  | succ fuel ih =>
    simp only [ringWalk]
    split
    · next hmet => exact .met h hmet
    · next hmet =>
      rw [not_or] at hmet
      rw [edgesAt_eq (h.current_mem_keys hg hnode), ok_bind]
      cases hnext : (g.neighbours current).find? (some ·.target ≠ ring.head?) with
      | none =>
        refine .stuck h hmet.1 fun e he => ?_
        have hback : some e.target = ring.head? := by simpa using List.find?_eq_none.1 hnext e he
        exact hback.symm
      | some e =>
        have hturn : some e.target ≠ ring.head? := by simpa using List.find?_some hnext
        have hstep := h.step hmet.1 hmet.2 (List.mem_of_find?_eq_some hnext) hturn.symm
        exact ih hstep (by rw [List.length_cons]; omega)

/-- A set of nodes that no edge leaves or enters. -/
def RoadGraph.Separate (g : RoadGraph K) (C : NodeId K → Prop) : Prop :=
  ∀ a b, g.Adjacent a b → (C a ↔ C b)

theorem RingPath.separate (h : RingPath g junctions node ring current) {C : NodeId K → Prop}
    (hC : g.Separate C) : (C current ↔ C node) ∧ ∀ x ∈ ring, (C x ↔ C node) := by
  induction h with
  | start => exact ⟨.rfl, by simp⟩
  | @step ring current e _ _ _ he _ ih =>
    refine ⟨(hC _ _ ⟨e, he, rfl⟩).symm.trans ih.1, fun x hx => ?_⟩
    rcases List.mem_cons.1 hx with rfl | hx
    · exact ih.1
    · exact ih.2 x hx

theorem RingPath.getLast (h : RingPath g junctions node (n :: ring) current) :
    (n :: ring).getLast? = some node := by
  induction ring generalizing n current with
  | nil =>
    cases h with
    | step h _ _ _ _ =>
      cases h with
      | start => rfl
  | cons m ring ih =>
    cases h with
    | step h _ _ _ _ => rw [List.getLast?_cons_cons, ih h]

theorem RingPath.adjacent_head (h : RingPath g junctions node (n :: ring) current) :
    g.Adjacent n current := by
  cases h with
  | step _ _ _ he _ => exact ⟨_, he, rfl⟩

theorem RingPath.inner (h : RingPath g junctions node ring current) (hg : g.Undirected len)
    (hJ : g.Junctions junctions) {a b x : NodeId K} (hx : [b, x, a] <:+: current :: ring)
    {z : NodeId K} (hz : g.Adjacent x z) : z = a ∨ z = b := by
  induction h with
  | start => simpa using hx.length_le
  | @step ring current e h hJn hnot he hturn ih =>
    cases ring with
    | nil => simpa using hx.length_le
    | cons y ring =>
      rcases triple_infix_cons_cons_cons.1 hx with ⟨rfl, rfl, rfl⟩ | hx
      · have hback := hg.symm h.adjacent_head
        have hdeg := hJ.degree (RoadGraph.mem_keys_of_adjacent hback) hJn
        have hne : a ≠ e.target := by simpa using hturn
        exact adjacent_of_degree_two hdeg hback ⟨e, he, rfl⟩ hne hz
      · exact ih hx

/-- A walk that comes back to a node it has passed has come back to its start. -/
theorem RingPath.closes (h : RingPath g junctions node ring current) (hg : g.Undirected len)
    (hJ : g.Junctions junctions) (hmem : current ∈ ring) : current = node := by
  cases h with
  | start => exact absurd hmem List.not_mem_nil
  | @step ring before e hpath hJn hnot he hturn =>
    have hadj : g.Adjacent e.target before := hg.symm ⟨e, he, rfl⟩
    have hring := (RingPath.step hpath hJn hnot he hturn)
    rcases List.mem_cons.1 hmem with hloop | hmem
    · exact absurd hloop (hg.loopless he)
    · cases ring with
      | nil => exact absurd hmem List.not_mem_nil
      | cons y ring =>
        rcases List.mem_cons.1 hmem with hturned | hmem
        · exact absurd (congrArg some hturned.symm) hturn
        · obtain ⟨l, r, hsplit⟩ := List.append_of_mem hmem
          cases r with
          | nil =>
            have hlast : ((before :: y :: l) ++ [e.target]).getLast? = some node := by
              rw [← hring.getLast, hsplit]
              rfl
            rw [List.getLast?_concat] at hlast
            exact Option.some.inj hlast
          | cons a r =>
            -- an inner node of the walk is entered only from its two neighbours on the walk
            obtain ⟨l', b, hl⟩ : ∃ l' b, y :: l = l' ++ [b] :=
              ⟨_, _, (List.dropLast_append_getLast (List.cons_ne_nil y l)).symm⟩
            have hyring : y :: ring = l' ++ [b, e.target, a] ++ r := by
              rw [hsplit, ← List.cons_append, hl]
              simp
            have hinfix : [b, e.target, a] <:+: e.target :: before :: y :: ring :=
              ⟨e.target :: before :: l', r, by simp [hyring]⟩
            rcases hring.inner hg hJ hinfix hadj with rfl | rfl <;>
              exact absurd (by simp [hyring]) hnot

/-- No two edges of a node lead to the same place. -/
def RoadGraph.Simple (g : RoadGraph K) : Prop :=
  ∀ n, ((g.neighbours n).map (·.target)).Nodup

/-- The part of the graph a node lies in has a junction. -/
def Reaches (g : RoadGraph K) (junctions : Finset (NodeId K)) (x : NodeId K) : Prop :=
  ∀ C, g.Separate C → C x → ∃ n ∈ junctions, C n

theorem Reaches.mono {junctions' : Finset (NodeId K)} (h : Reaches g junctions n)
    (hsub : junctions ⊆ junctions') : Reaches g junctions' n := by
  intro C hC hn
  obtain ⟨m, hm, hCm⟩ := h C hC hn
  exact ⟨m, hsub hm, hCm⟩

/-- In these parts of the graph a walk that has come to a node with two edges has a way on. -/
structure RoadGraph.NoDeadEnd (g : RoadGraph K) (P : NodeId K → Prop) : Prop where
  separate : g.Separate P
  way_on : ∀ {junctions node ring current}, g.Junctions junctions → node ∈ g.nodes.keys → P node →
    RingPath g junctions node ring current → (g.neighbours current).length = 2 →
      ¬ ∀ e ∈ g.neighbours current, ring.head? = some e.target

theorem RoadGraph.Simple.noDeadEnd (hsimple : g.Simple) : g.NoDeadEnd fun _ => True where
  separate _ _ _ := .rfl
  way_on := by
    intro junctions node ring current _ _ _ _ hdeg hall
    obtain ⟨e₁, e₂, hedges⟩ := List.length_eq_two.1 hdeg
    have hnodup := hsimple current
    have h₁ := hall e₁ (by simp [hedges])
    have h₂ := hall e₂ (by simp [hedges])
    rw [h₁] at h₂
    simp [hedges, Option.some.inj h₂] at hnodup

/-- Around a ring the walk comes back to its start; otherwise it meets a junction. -/
theorem RingEnd.reaches (h : RingEnd g junctions node (ring, current)) (hg : g.Undirected len)
    (hJ : g.Junctions junctions) {P : NodeId K → Prop} (hon : g.NoDeadEnd P)
    (hnode : node ∈ g.nodes.keys) (hPnode : P node) :
    Reaches g (if current = node then insert node junctions else junctions) node := by
  intro C hC hCn
  cases h with
  | met hpath hmet =>
    rcases hmet with hmet | hmet
    · have hsub : junctions ⊆ if current = node then insert node junctions else junctions := by
        split
        · exact Finset.subset_insert _ _
        · exact Finset.Subset.refl _
      exact ⟨current, hsub hmet, (hpath.separate hC).1.2 hCn⟩
    · rw [if_pos (hpath.closes hg hJ hmet)]
      exact ⟨node, Finset.mem_insert_self _ _, hCn⟩
  | stuck hpath hJn hall =>
    have hdeg := hJ.degree (hpath.current_mem_keys hg hnode) hJn
    exact absurd hall (hon.way_on hJ hnode hPnode hpath hdeg)

theorem RingEnd.separate (h : RingEnd g junctions node (ring, current)) {C : NodeId K → Prop}
    (hC : g.Separate C) : ∀ x ∈ ring, (C x ↔ C node) := by
  cases h with
  | met hpath _ => exact (hpath.separate hC).2
  | stuck hpath _ _ =>
    intro x hx
    rcases List.mem_cons.1 hx with rfl | hx
    · exact (hpath.separate hC).1
    · exact (hpath.separate hC).2 x hx

theorem RoadGraph.Junctions.insert (hJ : g.Junctions junctions) (hn : n ∈ g.nodes.keys) :
    g.Junctions (insert n junctions) where
  mem_keys hm := (Finset.mem_insert.1 hm).elim (fun hmn => hmn ▸ hn) hJ.mem_keys
  degree hm hnot := hJ.degree hm fun hmJ => hnot (Finset.mem_insert_of_mem hmJ)

theorem ringRound_ends (hg : g.Undirected len) {acc : Finset (NodeId K) × Finset (NodeId K)}
    (hJ : g.Junctions acc.1) (hnode : node ∈ g.nodes.keys) (hfuel : g.nodes.keys.length < fuel) :
    Ends (fun _ => False) (fun acc' => g.Junctions acc'.1 ∧ acc.1 ⊆ acc'.1 ∧
        ∀ P, g.NoDeadEnd P → (∀ x ∈ acc.2, P x → Reaches g acc.1 x) →
          (P node → Reaches g acc'.1 node) ∧ ∀ x ∈ acc'.2, P x → Reaches g acc'.1 x)
      (ringRound g fuel acc node) := by
  unfold ringRound
  split
  · next hold =>
    refine ⟨hJ, Finset.Subset.refl _, fun P _ hseen => ⟨fun hP => ?_, hseen⟩⟩
    rcases hold with hold | hold
    · exact fun C _ hC => ⟨node, hold, hC⟩
    · exact hseen node hold hP
  · refine (RingPath.start.walk hg hnode (by simpa using hfuel)).bind ?_
    rintro ⟨ring, current⟩ hend
    have hsub : acc.1 ⊆ if current = node then insert node acc.1 else acc.1 := by
      split
      · exact Finset.subset_insert _ _
      · exact Finset.Subset.refl _
    refine ⟨?_, hsub, fun P hon hseen => ?_⟩
    · simp only
      split
      · exact hJ.insert hnode
      · exact hJ
    · have hreach := hend.reaches hg hJ hon hnode
      refine ⟨hreach, fun x hx hP => ?_⟩
      rcases Finset.mem_union.1 hx with hx | hx
      · exact (hseen x hx hP).mono hsub
      · have hring := List.mem_toFinset.1 hx
        have hPnode := (hend.separate hon.separate x hring).1 hP
        exact fun C hC hCx => hreach hPnode C hC ((hend.separate hC x hring).1 hCx)

/-- The junctions cover all nodes with other than two edges, and every part of the graph without a
dead end has one. -/
theorem junctionsOf_ends (hg : g.Undirected len) (hfuel : g.nodes.keys.length < fuel) :
    Ends (fun _ => False) (fun junctions => g.Junctions junctions ∧ branching g ⊆ junctions ∧
        ∀ P, g.NoDeadEnd P → ∀ n ∈ g.nodes.keys, P n → Reaches g junctions n)
      (junctionsOf g fuel) := by
  have hbranching : g.Junctions (branching g) := by
    constructor
    · intro n hn
      simp only [branching, List.mem_toFinset, List.mem_filter] at hn
      exact hn.1
    · intro n hn hnot
      simpa [branching, hn] using hnot
  have hfold := Ends.foldlM (E := fun _ => False) (f := ringRound g fuel) (l := g.nodes.keys)
    (b := (branching g, ∅))
    (R := fun done acc => g.Junctions acc.1 ∧ branching g ⊆ acc.1 ∧
      ∀ P, g.NoDeadEnd P → (∀ n ∈ done, P n → Reaches g acc.1 n) ∧
        ∀ x ∈ acc.2, P x → Reaches g acc.1 x)
    ⟨hbranching, Finset.Subset.refl _, fun _ _ => by simp⟩
    (by
      rintro done node acc hnode ⟨hJ, hsub, hreach⟩
      refine (ringRound_ends hg hJ hnode hfuel).mono ?_
      rintro acc' ⟨hJ', hsub', hreach'⟩
      refine ⟨hJ', hsub.trans hsub', fun P hon => ?_⟩
      obtain ⟨hdone, hseen⟩ := hreach P hon
      obtain ⟨hnew, hseen'⟩ := hreach' P hon hseen
      refine ⟨fun n hn hP => ?_, hseen'⟩
      rcases List.mem_append.1 hn with hn | hn
      · exact (hdone n hn hP).mono hsub'
      · obtain rfl := List.mem_singleton.1 hn
        exact hnew hP)
  refine hfold.bind ?_
  rintro ⟨junctions, seen⟩ ⟨hJ, hsub, hreach⟩
  exact ⟨hJ, hsub, fun P hon => (hreach P hon).1⟩

end

end Salgil
