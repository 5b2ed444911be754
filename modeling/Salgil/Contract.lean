import Salgil.RoadGraph
import Mathlib.Data.Finset.Dedup
import Mathlib.Data.Finset.Insert
import Mathlib.Data.Finset.Lattice.Lemmas

namespace Salgil
set_option autoImplicit true

/-- The chain of raw nodes that one contracted edge stands for, the nodes in between newest
first. -/
structure WalkedChain (K : Type u) where
  anchor : NodeId K
  via : List (NodeId K)
  current : NodeId K
  lengthM : K
  wayId : Option String
  tags : Tags

/-- All nodes of the chain, from its end back to its start. -/
def WalkedChain.path (c : WalkedChain K) : List (NodeId K) := c.current :: (c.via ++ [c.anchor])

/-- Some order in which the elements of a set are run through. -/
structure SetOrder (α : Type u) where
  list : Finset α → List α
  mem_list : ∀ s a, a ∈ list s ↔ a ∈ s
  nodup : ∀ s, (list s).Nodup

/-- The node pairs walked so far and the chains added to the contracted graph. -/
structure Contraction (K : Type u) where
  walked : Finset (NodeId K × NodeId K)
  chains : List (WalkedChain K)

/-- The variables of the `while True` loop that walks one chain. -/
structure ChainState (K : Type u) where
  anchor : NodeId K
  via : List (NodeId K)
  previous : NodeId K
  current : NodeId K
  lengthM : K
  walked : Finset (NodeId K × NodeId K)
  chains : List (WalkedChain K)

/-- What one round of that loop does. -/
inductive ChainRound (K : Type u) where
  | done (result : Contraction K)
  | next (st : ChainState K)

/-- `graph.nodes[node]`. -/
def RoadGraph.edgesAt (g : RoadGraph K) (n : NodeId K) : Except PyError (List (Edge K)) :=
  match g.nodes.get? n with
  | some edges => .ok edges
  | none => .error .keyError

section
variable {K : Type u} [Field K] [LinearOrder K] [IsStrictOrderedRing K] [FloorRing K]

def minNodeSpacingM : K := 150

section Rings
variable (g : RoadGraph K) (fuel : ℕ)

/-- Walks on from a node until a junction or a node of the walk comes up, or there is no way on. -/
def ringWalk (junctions : Finset (NodeId K)) :
    ℕ → List (NodeId K) → NodeId K → Option (NodeId K) →
      Except PyError (List (NodeId K) × NodeId K)
  | 0, _, _, _ => .error .outOfFuel
  | fuel + 1, ring, current, previous =>
    if current ∈ junctions ∨ current ∈ ring then .ok (ring, current)
    else do
      let edges ← g.edgesAt current
      match edges.find? (some ·.target ≠ previous) with
      | none => return (current :: ring, current)
      | some next => ringWalk junctions fuel (current :: ring) next.target (some current)

/-- One round of the search for rings without a junction; the pair is `junctions` and
`seen_in_chain`. -/
def ringRound (acc : Finset (NodeId K) × Finset (NodeId K)) (node : NodeId K) :
    Except PyError (Finset (NodeId K) × Finset (NodeId K)) :=
  if node ∈ acc.1 ∨ node ∈ acc.2 then .ok acc
  else do
    let (ring, current) ← ringWalk g acc.1 fuel [] node none
    return (if current = node then insert node acc.1 else acc.1, acc.2 ∪ ring.toFinset)

/-- The nodes whose edge count is not two. -/
def branching : Finset (NodeId K) :=
  (g.nodes.keys.filter fun n => (g.neighbours n).length ≠ 2).toFinset

def junctionsOf : Except PyError (Finset (NodeId K)) := do
  let (junctions, _) ← g.nodes.keys.foldlM (ringRound g fuel) (branching g, ∅)
  return junctions

end Rings

section Chains
variable (g : RoadGraph K) (junctions : Finset (NodeId K)) (spacingM : K)

/-- The chain being walked, cut at the current node. -/
def ChainState.chain (st : ChainState K) (first : Edge K) : WalkedChain K where
  anchor := st.anchor
  via := st.via
  current := st.current
  lengthM := st.lengthM
  wayId := first.wayId
  tags := first.tags

def chainRound (first : Edge K) (st : ChainState K) : Except PyError (ChainRound K) := do
  let edges ← g.edgesAt st.current
  let atJunction : Bool := st.current ∈ junctions
  let cut : Bool := atJunction ∨ spacingM ≤ st.lengthM
  let chains := if cut then st.chains ++ [st.chain first] else st.chains
  if atJunction then return .done ⟨st.walked, chains⟩
  let anchor := if cut then st.current else st.anchor
  let via := if cut then [] else st.via
  let lengthM := if cut then 0 else st.lengthM
  match edges.find? (·.target ≠ st.previous) with
  | none =>
    let rest : WalkedChain K := ⟨anchor, via, st.current, lengthM, first.wayId, first.tags⟩
    return .done ⟨st.walked, if st.current ≠ anchor then chains ++ [rest] else chains⟩
  | some next =>
    return .next {
      anchor := anchor
      via := if cut then [] else st.current :: via
      previous := st.current
      current := next.target
      lengthM := lengthM + next.lengthM
      walked := insert (next.target, st.current) (insert (st.current, next.target) st.walked)
      chains := chains }

def walkChain (first : Edge K) : ℕ → ChainState K → Except PyError (Contraction K)
  | 0, _ => .error .outOfFuel
  | fuel + 1, st => do
    match ← chainRound g junctions spacingM first st with
    | .done result => return result
    | .next st => walkChain first fuel st

/-- The chain that leaves a junction by one of its edges, unless it has been walked. -/
def walkEdge (fuel : ℕ) (start : NodeId K) (acc : Contraction K) (first : Edge K) :
    Except PyError (Contraction K) :=
  if (start, first.target) ∈ acc.walked then .ok acc
  else walkChain g junctions spacingM first fuel {
    anchor := start
    via := []
    previous := start
    current := first.target
    lengthM := first.lengthM
    walked := insert (first.target, start) (insert (start, first.target) acc.walked)
    chains := acc.chains }

def walkJunction (fuel : ℕ) (acc : Contraction K) (start : NodeId K) :
    Except PyError (Contraction K) := do
  (← g.edgesAt start).foldlM (walkEdge g junctions spacingM fuel start) acc

end Chains

/-- The chains `_contract` walks, in the order in which it adds their segments. -/
def contractedChains (order : SetOrder (NodeId K)) (fuel : ℕ) (g : RoadGraph K) (spacingM : K) :
    Except PyError (List (WalkedChain K)) := do
  let junctions ← junctionsOf g fuel
  let result ← (order.list junctions).foldlM (walkJunction g junctions spacingM fuel) ⟨∅, []⟩
  return result.chains

def addChain (g : RoadGraph K) (c : WalkedChain K) : RoadGraph K :=
  g.addSegment c.anchor c.current c.lengthM c.wayId c.tags

def contract (order : SetOrder (NodeId K)) (fuel : ℕ) (g : RoadGraph K) (spacingM : K) :
    Except PyError (RoadGraph K) := do
  let chains ← contractedChains order fuel g spacingM
  return chains.foldl addChain
    { source := g.source, wayCount := g.wayCount, attribution := g.attribution }

end

end Salgil
