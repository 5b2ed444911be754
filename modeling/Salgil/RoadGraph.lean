import Salgil.Doubles

namespace Salgil
set_option autoImplicit true

/-- A node is its rounded coordinates. -/
structure NodeId (K : Type u) where
  lat : K
  lon : K
  deriving DecidableEq

abbrev Tags := List (String × String)

structure Edge (K : Type u) where
  target : NodeId K
  lengthM : K
  wayId : Option String
  tags : Tags

structure RoadGraph (K : Type u) where
  nodes : Dict (NodeId K) (List (Edge K)) := .empty
  source : String := ""
  wayCount : ℕ := 0
  attribution : String := "© OpenStreetMap contributors, ODbL 1.0"
  index : Dict (ℤ × ℤ) (List (NodeId K)) := .empty

section
variable {K : Type u} [Field K] [LinearOrder K] [IsStrictOrderedRing K] [FloorRing K]

def earthRadiusM : K := 63710088 / 10

/-- The exact distance. Where the doubles of the source leave the domains of `math`, the call raises
instead: see `HasDistance`. -/
def haversineM [MathLib K] (lat1 lon1 lat2 lon2 : K) : K :=
  let dlat := radians (lat2 - lat1)
  let dlon := radians (lon2 - lon1)
  let a := MathLib.sin (dlat / 2) ^ 2 +
    MathLib.cos (radians lat1) * MathLib.cos (radians lat2) * MathLib.sin (dlon / 2) ^ 2
  2 * earthRadiusM * MathLib.asin (MathLib.sqrt a)

def NodeId.distance [MathLib K] (a b : NodeId K) : K := haversineM a.lat a.lon b.lat b.lon

def cellDeg : K := double (5 / 1000)

def cellM : K := 550

/-- The quotients are rounded to doubles before `int` cuts them off. Where one is infinite, the call
raises instead: see `HasCell`. -/
def cell (lat lon : K) : ℤ × ℤ := (pyInt (double (lat / cellDeg)), pyInt (double (lon / cellDeg)))

def RoadGraph.neighbours (g : RoadGraph K) (n : NodeId K) : List (Edge K) :=
  (g.nodes.get? n).getD []

def RoadGraph.addNode (g : RoadGraph K) (n : NodeId K) : RoadGraph K :=
  if (g.nodes.get? n).isSome then g
  else
    let c := cell n.lat n.lon
    { g with
      nodes := g.nodes.set n []
      index := g.index.set c ((g.index.get? c).getD [] ++ [n]) }

def RoadGraph.appendEdge (g : RoadGraph K) (n : NodeId K) (e : Edge K) : RoadGraph K :=
  { g with nodes := g.nodes.set n (g.neighbours n ++ [e]) }

def RoadGraph.addSegment (g : RoadGraph K) (a b : NodeId K) (lengthM : K)
    (wayId : Option String) (tags : Tags) : RoadGraph K :=
  (((g.addNode a).addNode b).appendEdge a ⟨b, lengthM, wayId, tags⟩).appendEdge b
    ⟨a, lengthM, wayId, tags⟩

/-- The search of `nearestNode` over the nodes of one cell. -/
def nearerIn [MathLib K] (lat lon : K) (found : Option (NodeId K) × K) (n : NodeId K) :
    Option (NodeId K) × K :=
  let distance := haversineM lat lon n.lat n.lon
  if distance < found.2 then (some n, distance) else found

/-- The cells on the square ring of the given radius, row by row. -/
def ringCells (origin : ℤ × ℤ) (radius : ℕ) : List (ℤ × ℤ) :=
  let offsets := (List.range (2 * radius + 1)).map fun i => (i : ℤ) - radius
  offsets.flatMap fun dy =>
    (offsets.filter fun dx => radius = 0 ∨ max dy.natAbs dx.natAbs = radius).map fun dx =>
      (origin.1 + dy, origin.2 + dx)

def RoadGraph.searchRing [MathLib K] (g : RoadGraph K) (lat lon : K) (radius : ℕ)
    (found : Option (NodeId K) × K) : Option (NodeId K) × K :=
  ((ringCells (cell lat lon) radius).flatMap fun c => (g.index.get? c).getD []).foldl
    (nearerIn lat lon) found

/-- The rings are searched outwards; one ring without a nearer node ends the search. -/
def RoadGraph.searchRings [MathLib K] (g : RoadGraph K) (lat lon : K) :
    List ℕ → Option (NodeId K) × K → Option (NodeId K)
  | [], found => found.1
  | radius :: rest, found =>
    let next := g.searchRing lat lon radius found
    if next.1.isSome ∧ ¬ next.2 < found.2 ∧ 0 < radius then next.1
    else g.searchRings lat lon rest next

def RoadGraph.nearestNode [MathLib K] (g : RoadGraph K) (lat lon maxDistanceM : K) :
    Option (NodeId K) :=
  let rings := max 1 (pyInt (double (maxDistanceM / cellM)) + 1)
  g.searchRings lat lon (List.range (rings.toNat + 1)) (none, maxDistanceM)

end

end Salgil
