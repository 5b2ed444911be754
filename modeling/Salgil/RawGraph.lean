import Salgil.RoadGraphFacts
import Salgil.PathCover
import Mathlib.Data.Sym.Sym2

namespace Salgil
set_option autoImplicit true
set_option linter.unusedSectionVars false

/-- The arguments of one call of `add_segment`. -/
structure Segment (K : Type u) where
  a : NodeId K
  b : NodeId K
  lengthM : K
  wayId : Option String
  tags : Tags

section
variable {K : Type u} [Field K] [LinearOrder K] [IsStrictOrderedRing K] [FloorRing K]

def RoadGraph.addSegments (g : RoadGraph K) (segments : List (Segment K)) : RoadGraph K :=
  segments.foldl (fun g s => g.addSegment s.a s.b s.lengthM s.wayId s.tags) g

/-- The segment joins two different nodes and is as long as `len` says of the two. -/
def Segment.Measured (len : Sym2 (NodeId K) → K) (s : Segment K) : Prop :=
  s.a ≠ s.b ∧ s.lengthM = len s(s.a, s.b)

/-- Every edge has its way back, and its length is that of the pair of its ends. -/
structure RoadGraph.Undirected (g : RoadGraph K) (len : Sym2 (NodeId K) → K) : Prop where
  nonempty : ∀ {n}, n ∈ g.nodes.keys → g.neighbours n ≠ []
  back : ∀ {n e}, e ∈ g.neighbours n → g.Adjacent e.target n
  loopless : ∀ {n e}, e ∈ g.neighbours n → e.target ≠ n
  length : ∀ {n e}, e ∈ g.neighbours n → e.lengthM = len s(n, e.target)

/-- Every edge has a positive length. -/
def RoadGraph.Positive (g : RoadGraph K) : Prop := ∀ n, ∀ e ∈ g.neighbours n, 0 < e.lengthM

variable {g : RoadGraph K} {len : Sym2 (NodeId K) → K} {n m : NodeId K}

theorem RoadGraph.Undirected.symm (h : g.Undirected len) (hnm : g.Adjacent n m) :
    g.Adjacent m n := by
  obtain ⟨e, he, rfl⟩ := hnm
  exact h.back he

theorem RoadGraph.Undirected.ne (h : g.Undirected len) (hnm : g.Adjacent n m) : n ≠ m := by
  obtain ⟨e, he, rfl⟩ := hnm
  exact (h.loopless he).symm

theorem RoadGraph.Undirected.len_pos (h : g.Undirected len) (hpos : g.Positive)
    (hnm : g.Adjacent n m) : 0 < len s(n, m) := by
  obtain ⟨e, he, rfl⟩ := hnm
  rw [← h.length he]
  exact hpos n e he

theorem RoadGraph.Undirected.of_nodes {g' : RoadGraph K} (h : g.Undirected len)
    (hnodes : g'.nodes = g.nodes) : g'.Undirected len := by
  have hneighbours : g'.neighbours = g.neighbours := by
    funext n
    rw [neighbours, neighbours, hnodes]
  constructor <;> intro n <;> simp only [hneighbours, hnodes, Adjacent]
  · exact h.nonempty
  · exact h.back
  · exact h.loopless
  · exact h.length

theorem RoadGraph.undirected_empty (source : String) (wayCount : ℕ) (attribution : String) :
    ({ source, wayCount, attribution } : RoadGraph K).Undirected len where
  nonempty hn := by simp [Dict.empty] at hn
  back he := absurd he List.not_mem_nil
  loopless he := absurd he List.not_mem_nil
  length he := absurd he List.not_mem_nil

theorem RoadGraph.Undirected.addSegment (h : g.Undirected len) {s : Segment K}
    (hs : s.Measured len) : (g.addSegment s.a s.b s.lengthM s.wayId s.tags).Undirected len := by
  obtain ⟨hne, hlen⟩ := hs
  have hold : ∀ {m e}, e ∈ g.neighbours m →
      e ∈ (g.addSegment s.a s.b s.lengthM s.wayId s.tags).neighbours m :=
    fun he => mem_neighbours_addSegment.2 (.inl he)
  constructor
  · intro m hm hnil
    have hnone : ∀ e, e ∉ (g.addSegment s.a s.b s.lengthM s.wayId s.tags).neighbours m := by
      simp [hnil]
    rcases mem_keys_addSegment.1 hm with rfl | rfl | hm
    · exact hnone _ (mem_neighbours_addSegment.2 (.inr (.inl ⟨rfl, rfl⟩)))
    · exact hnone _ (mem_neighbours_addSegment.2 (.inr (.inr ⟨rfl, rfl⟩)))
    · obtain ⟨e, he⟩ := List.exists_mem_of_ne_nil _ (h.nonempty hm)
      exact hnone e (hold he)
  · intro m e he
    rcases mem_neighbours_addSegment.1 he with he | ⟨rfl, rfl⟩ | ⟨rfl, rfl⟩
    · obtain ⟨e', he', ht⟩ := h.back he
      exact ⟨e', hold he', ht⟩
    · exact ⟨_, mem_neighbours_addSegment.2 (.inr (.inr ⟨rfl, rfl⟩)), rfl⟩
    · exact ⟨_, mem_neighbours_addSegment.2 (.inr (.inl ⟨rfl, rfl⟩)), rfl⟩
  · intro m e he
    rcases mem_neighbours_addSegment.1 he with he | ⟨rfl, rfl⟩ | ⟨rfl, rfl⟩
    · exact h.loopless he
    · exact hne.symm
    · exact hne
  · intro m e he
    rcases mem_neighbours_addSegment.1 he with he | ⟨rfl, rfl⟩ | ⟨rfl, rfl⟩
    · exact h.length he
    · exact hlen
    · exact hlen.trans (congrArg len Sym2.eq_swap)

theorem RoadGraph.Indexed.addSegments (h : g.Indexed) (segments : List (Segment K)) :
    (g.addSegments segments).Indexed := by
  induction segments generalizing g with
  | nil => exact h
  | cons s segments ih => exact ih (h.addSegment _ _ _ _ _)

theorem RoadGraph.Undirected.addSegments (h : g.Undirected len) {segments : List (Segment K)}
    (hs : ∀ s ∈ segments, s.Measured len) : (g.addSegments segments).Undirected len := by
  induction segments generalizing g with
  | nil => exact h
  | cons s segments ih =>
    exact ih (h.addSegment (hs s List.mem_cons_self))
      fun s' hs' => hs s' (List.mem_cons_of_mem _ hs')

end

end Salgil
