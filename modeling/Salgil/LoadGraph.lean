import Salgil.Contract
import Salgil.Profiles
import Salgil.RawGraph
import Salgil.Geodesy

namespace Salgil
set_option autoImplicit true
set_option linter.unusedSectionVars false

/-- One GeoJSON feature. Its points are in the file's order, the longitude first; `featureId` is
the text of its `id` member. -/
structure Feature (K : Type u) where
  geometryType : Option String
  coordinates : List (K × K)
  properties : Tags
  featureId : Option String

section
variable {K : Type u} [Field K] [LinearOrder K] [IsStrictOrderedRing K] [FloorRing K]

def nodePrecision : ℕ := 7

def nodeId (lon lat : K) : NodeId K := ⟨pyRound nodePrecision lat, pyRound nodePrecision lon⟩

/-- `str(feature.get("id") or tags.get("@id") or "") or None`. -/
def Feature.wayId (f : Feature K) : Option String :=
  (f.featureId.filter (· ≠ "")).or ((f.properties.lookup "@id").filter (· ≠ ""))

variable [MathLib K]

/-- One round of the loop over the points of a line; the node is the one before. -/
def addPoint (wayId : Option String) (tags : Tags) (acc : RoadGraph K × NodeId K)
    (point : K × K) : RoadGraph K × NodeId K :=
  let current := nodeId point.1 point.2
  if current = acc.2 then acc
  else (acc.1.addSegment acc.2 current (acc.2.distance current) wayId tags, current)

def addFeature (profile : ModeProfile K) (graph : RoadGraph K) (f : Feature K) : RoadGraph K :=
  if f.geometryType ≠ some "LineString" then graph
  else if (profile.passable f.properties).1 = false then graph
  else match f.coordinates with
  | first :: second :: rest =>
    let (graph, _) := (second :: rest).foldl (addPoint f.wayId f.properties)
      (graph, nodeId first.1 first.2)
    { graph with wayCount := graph.wayCount + 1 }
  | _ => graph

/-- The graph `load_road_graph` builds before contraction. -/
def rawGraph (source : String) (profile : ModeProfile K) (features : List (Feature K)) :
    RoadGraph K :=
  features.foldl (addFeature profile) { source := source }

def loadRoadGraph (order : SetOrder (NodeId K)) (fuel : ℕ) (source : String)
    (profile : ModeProfile K) (features : List (Feature K)) : Except PyError (RoadGraph K) :=
  contract order fuel (rawGraph source profile features) minNodeSpacingM

end

/-- The great-circle distance of the two ends of a segment. -/
noncomputable def geodesic : Sym2 (NodeId ℝ) → ℝ :=
  Sym2.lift ⟨NodeId.distance, fun _ _ => haversineM_comm _ _ _ _⟩

theorem geodesic_mk (a b : NodeId ℝ) : geodesic s(a, b) = a.distance b := rfl

section
variable {g : RoadGraph ℝ} {profile : ModeProfile ℝ}

theorem RoadGraph.Undirected.addPoint {acc : RoadGraph ℝ × NodeId ℝ}
    (h : acc.1.Undirected geodesic) (wayId : Option String) (tags : Tags) (point : ℝ × ℝ) :
    (Salgil.addPoint wayId tags acc point).1.Undirected geodesic := by
  simp only [Salgil.addPoint]
  split
  · exact h
  · next hne =>
    exact h.addSegment (s := ⟨acc.2, _, _, wayId, tags⟩) ⟨Ne.symm hne, rfl⟩

theorem RoadGraph.Undirected.addPoints {acc : RoadGraph ℝ × NodeId ℝ}
    (h : acc.1.Undirected geodesic) (wayId : Option String) (tags : Tags)
    (points : List (ℝ × ℝ)) :
    (points.foldl (Salgil.addPoint wayId tags) acc).1.Undirected geodesic := by
  induction points generalizing acc with
  | nil => exact h
  | cons point points ih => exact ih (h.addPoint wayId tags point)

theorem RoadGraph.Undirected.addFeature (h : g.Undirected geodesic) (f : Feature ℝ) :
    (Salgil.addFeature profile g f).Undirected geodesic := by
  unfold Salgil.addFeature
  split
  · exact h
  · split
    · exact h
    · split
      · next first rest _ =>
        have hpoints : ∀ acc : RoadGraph ℝ × NodeId ℝ, acc.1 = g → acc.1.Undirected geodesic := by
          rintro acc rfl
          exact h
        exact ((hpoints (g, _) rfl).addPoints _ _ _).of_nodes rfl
      · exact h

theorem rawGraph_undirected (source : String) (profile : ModeProfile ℝ)
    (features : List (Feature ℝ)) : (rawGraph source profile features).Undirected geodesic := by
  suffices h : ∀ g : RoadGraph ℝ, g.Undirected geodesic →
      (features.foldl (Salgil.addFeature profile) g).Undirected geodesic from
    h _ (RoadGraph.undirected_empty _ _ _)
  induction features with
  | nil => exact fun g hg => hg
  | cons f features ih => exact fun g hg => ih _ (hg.addFeature f)

theorem RoadGraph.Undirected.positive (h : g.Undirected geodesic)
    (hmap : ∀ n ∈ g.nodes.keys, n.OnMap) : g.Positive := by
  intro n e he
  have hadj : g.Adjacent n e.target := ⟨e, he, rfl⟩
  rw [h.length he, geodesic_mk]
  exact (hmap _ (mem_keys_of_adjacent hadj)).distance_pos
    (hmap _ (mem_keys_of_adjacent (h.symm hadj))) (h.ne hadj)

end

end Salgil
