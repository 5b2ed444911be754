import Salgil.RoadGraph

namespace Salgil
set_option autoImplicit true
set_option linter.unusedSectionVars false

/-- Every node is listed in the index under its own cell, and the index lists nothing else. -/
structure RoadGraph.Indexed (g : RoadGraph K) [Field K] [LinearOrder K] [IsStrictOrderedRing K]
    [FloorRing K] : Prop where
  listed : ∀ {n}, n ∈ g.nodes.keys → n ∈ (g.index.get? (cell n.lat n.lon)).getD []
  only : ∀ {c n}, n ∈ (g.index.get? c).getD [] → n ∈ g.nodes.keys

section
variable {K : Type u} [Field K] [LinearOrder K] [IsStrictOrderedRing K] [FloorRing K]
variable {g : RoadGraph K} {a b n m : NodeId K} {e : Edge K}

theorem RoadGraph.mem_keys_addNode : m ∈ (g.addNode n).nodes.keys ↔ m = n ∨ m ∈ g.nodes.keys := by
  unfold addNode
  split
  · next h =>
    rw [← g.nodes.mem_keys] at h
    exact ⟨.inr, fun hm => hm.elim (fun hmn => hmn ▸ h) id⟩
  · exact g.nodes.mem_keys_set _

theorem RoadGraph.mem_index_addNode {c : ℤ × ℤ} :
    m ∈ ((g.addNode n).index.get? c).getD [] ↔
      (n ∉ g.nodes.keys ∧ c = cell n.lat n.lon ∧ m = n) ∨ m ∈ (g.index.get? c).getD [] := by
  unfold addNode
  split
  · next h =>
    rw [← g.nodes.mem_keys] at h
    simp [h]
  · next h =>
    rw [← g.nodes.mem_keys] at h
    by_cases hc : c = cell n.lat n.lon
    · subst hc
      rw [Dict.get?_set_self, Option.getD_some, List.mem_append, List.mem_singleton, or_comm]
      simp [h]
    · rw [Dict.get?_set_of_ne _ _ hc]
      simp [hc]

theorem RoadGraph.Indexed.addNode (h : g.Indexed) (n : NodeId K) : (g.addNode n).Indexed where
  listed := by
    intro m hm
    rw [mem_index_addNode]
    rcases mem_keys_addNode.1 hm with rfl | hm
    · by_cases hn : m ∈ g.nodes.keys
      · exact .inr (h.listed hn)
      · exact .inl ⟨hn, rfl, rfl⟩
    · exact .inr (h.listed hm)
  only := by
    intro c m hm
    rw [mem_keys_addNode]
    rcases mem_index_addNode.1 hm with ⟨-, -, rfl⟩ | hm
    · exact .inl rfl
    · exact .inr (h.only hm)

theorem RoadGraph.mem_keys_appendEdge (hn : n ∈ g.nodes.keys) :
    m ∈ (g.appendEdge n e).nodes.keys ↔ m ∈ g.nodes.keys := by
  rw [appendEdge, g.nodes.mem_keys_set]
  exact ⟨fun hm => hm.elim (fun hmn => hmn ▸ hn) id, .inr⟩

theorem RoadGraph.Indexed.appendEdge (h : g.Indexed) (hn : n ∈ g.nodes.keys) :
    (g.appendEdge n e).Indexed where
  listed hm := h.listed ((mem_keys_appendEdge hn).1 hm)
  only hm := (mem_keys_appendEdge hn).2 (h.only hm)

theorem RoadGraph.mem_keys_addSegment {lengthM : K} {wayId : Option String} {tags : Tags} :
    m ∈ (g.addSegment a b lengthM wayId tags).nodes.keys ↔ m = a ∨ m = b ∨ m ∈ g.nodes.keys := by
  have hb : b ∈ ((g.addNode a).addNode b).nodes.keys := mem_keys_addNode.2 (.inl rfl)
  have ha : a ∈ ((g.addNode a).addNode b).nodes.keys :=
    mem_keys_addNode.2 (.inr (mem_keys_addNode.2 (.inl rfl)))
  rw [addSegment, mem_keys_appendEdge ((mem_keys_appendEdge ha).2 hb), mem_keys_appendEdge ha,
    mem_keys_addNode, mem_keys_addNode, or_left_comm]

theorem RoadGraph.Indexed.addSegment (h : g.Indexed) (a b : NodeId K) (lengthM : K)
    (wayId : Option String) (tags : Tags) : (g.addSegment a b lengthM wayId tags).Indexed := by
  have hb : b ∈ ((g.addNode a).addNode b).nodes.keys := mem_keys_addNode.2 (.inl rfl)
  have ha : a ∈ ((g.addNode a).addNode b).nodes.keys :=
    mem_keys_addNode.2 (.inr (mem_keys_addNode.2 (.inl rfl)))
  exact ((((h.addNode a).addNode b).appendEdge ha).appendEdge ((mem_keys_appendEdge ha).2 hb))

theorem RoadGraph.Indexed.empty (source : String) (wayCount : ℕ) (attribution : String) :
    ({ source, wayCount, attribution } : RoadGraph K).Indexed where
  listed hn := by simp [Dict.empty] at hn
  only hn := by simp [Dict.empty] at hn

theorem RoadGraph.neighbours_addNode : (g.addNode n).neighbours m = g.neighbours m := by
  unfold addNode
  split
  · rfl
  · next h =>
    rw [Option.not_isSome_iff_eq_none] at h
    by_cases hmn : m = n
    · subst hmn
      simp [neighbours, h]
    · simp [neighbours, Dict.get?_set_of_ne _ _ hmn]

theorem RoadGraph.neighbours_appendEdge :
    (g.appendEdge n e).neighbours m = g.neighbours m ++ if m = n then [e] else [] := by
  by_cases hmn : m = n
  · subst hmn
    simp [appendEdge, neighbours]
  · simp [appendEdge, neighbours, Dict.get?_set_of_ne _ _ hmn, hmn]

theorem RoadGraph.neighbours_addSegment {lengthM : K} {wayId : Option String} {tags : Tags} :
    (g.addSegment a b lengthM wayId tags).neighbours m = g.neighbours m ++
      (if m = a then [⟨b, lengthM, wayId, tags⟩] else []) ++
      (if m = b then [⟨a, lengthM, wayId, tags⟩] else []) := by
  rw [addSegment, neighbours_appendEdge, neighbours_appendEdge, neighbours_addNode,
    neighbours_addNode]

theorem RoadGraph.mem_neighbours_addSegment {lengthM : K} {wayId : Option String} {tags : Tags} :
    e ∈ (g.addSegment a b lengthM wayId tags).neighbours m ↔ e ∈ g.neighbours m ∨
      m = a ∧ e = ⟨b, lengthM, wayId, tags⟩ ∨ m = b ∧ e = ⟨a, lengthM, wayId, tags⟩ := by
  have hif : ∀ {c : Prop} [Decidable c] {e' : Edge K},
      e ∈ (if c then [e'] else []) ↔ c ∧ e = e' := by
    intro c _ e'
    split <;> simp_all
  rw [neighbours_addSegment, List.mem_append, List.mem_append, hif, hif, or_assoc]

@[simp] theorem RoadGraph.neighbours_empty (source : String) (wayCount : ℕ)
    (attribution : String) :
    ({ source, wayCount, attribution } : RoadGraph K).neighbours m = [] := rfl

/-- Some edge leads from the first node to the second. -/
def RoadGraph.Adjacent (g : RoadGraph K) (a b : NodeId K) : Prop :=
  ∃ e ∈ g.neighbours a, e.target = b

theorem RoadGraph.mem_keys_of_adjacent (h : g.Adjacent a b) : a ∈ g.nodes.keys := by
  obtain ⟨e, he, -⟩ := h
  rw [g.nodes.mem_keys]
  by_contra hn
  rw [Option.not_isSome_iff_eq_none] at hn
  simp [neighbours, hn] at he

theorem RoadGraph.neighbours_eq_nil (hn : n ∉ g.nodes.keys) : g.neighbours n = [] := by
  rw [g.nodes.mem_keys, Option.not_isSome_iff_eq_none] at hn
  simp [neighbours, hn]

end

end Salgil
