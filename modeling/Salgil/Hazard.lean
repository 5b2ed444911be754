import Salgil.RoadGraph
import Mathlib.Data.List.Sort

namespace Salgil
set_option autoImplicit true

structure Bbox (K : Type u) where
  minLat : K
  minLon : K
  maxLat : K
  maxLon : K

/-- The hazard grid of one horizon; row 0 is the north edge. -/
structure HazardSlice (K : Type u) where
  horizonMinutes : ℤ
  height : ℤ
  width : ℤ
  bbox : Bbox K
  values : List K

structure BlockedPoint (K : Type u) where
  lat : K
  lon : K
  radiusM : K
  kind : String
  detail : Option String
  deriving DecidableEq

/-- The slices are kept sorted by horizon, as the source does when it builds the field. -/
structure HazardField (K : Type u) where
  slices : List (HazardSlice K)
  blocked : List (BlockedPoint K)
  hazard : Option String
  model : Option String
  featureMode : Option String
  isStub : Bool
  sorted : slices.Pairwise (·.horizonMinutes ≤ ·.horizonMinutes)

structure HazardPolicy (K : Type u) where
  blockThreshold : K
  avoidThreshold : K
  avoidPenalty : K

/-- Python's stable sort by horizon. -/
def sortByHorizon (slices : List (HazardSlice K)) : List (HazardSlice K) :=
  slices.insertionSort (·.horizonMinutes ≤ ·.horizonMinutes)

theorem sortByHorizon_nil : sortByHorizon ([] : List (HazardSlice K)) = [] := rfl

theorem sortByHorizon_sorted (slices : List (HazardSlice K)) :
    (sortByHorizon slices).Pairwise (·.horizonMinutes ≤ ·.horizonMinutes) := by
  have : Std.Total fun s t : HazardSlice K => s.horizonMinutes ≤ t.horizonMinutes :=
    ⟨fun _ _ => le_total _ _⟩
  have : IsTrans (HazardSlice K) fun s t => s.horizonMinutes ≤ t.horizonMinutes :=
    ⟨fun _ _ _ => le_trans⟩
  exact List.pairwise_insertionSort _ _

section
variable {K : Type u} [Field K] [LinearOrder K] [IsStrictOrderedRing K] [FloorRing K]

def Bbox.contains (b : Bbox K) (lat lon : K) : Bool :=
  b.minLat ≤ lat ∧ lat ≤ b.maxLat ∧ b.minLon ≤ lon ∧ lon ≤ b.maxLon

/-- The smallest span a slice divides by. -/
def minSpan : K := 1 / 10 ^ 9

/-- The flat position of the cell a point falls into. -/
def HazardSlice.cellIndex (s : HazardSlice K) (lat lon : K) : ℤ :=
  let latSpan := max (s.bbox.maxLat - s.bbox.minLat) minSpan
  let lonSpan := max (s.bbox.maxLon - s.bbox.minLon) minSpan
  let row := pyInt ((s.bbox.maxLat - lat) / latSpan * s.height)
  let col := pyInt ((lon - s.bbox.minLon) / lonSpan * s.width)
  min (max row 0) (s.height - 1) * s.width + min (max col 0) (s.width - 1)

def HazardSlice.valueAt (s : HazardSlice K) (lat lon : K) : Except PyError (Option K) :=
  if s.bbox.contains lat lon then (pyGetItem s.values (s.cellIndex lat lon)).map some
  else .ok none

/-- `HazardField(slices=…)` with its `__post_init__`. -/
def HazardField.build (slices : List (HazardSlice K) := []) (blocked : List (BlockedPoint K) := [])
    (hazard model featureMode : Option String := none) (isStub : Bool := false) :
    HazardField K where
  slices := sortByHorizon slices
  blocked := blocked
  hazard := hazard
  model := model
  featureMode := featureMode
  isStub := isStub
  sorted := sortByHorizon_sorted slices

def HazardField.horizons (f : HazardField K) : List ℤ := f.slices.map (·.horizonMinutes)

def HazardField.hasPrediction (f : HazardField K) : Bool := !f.slices.isEmpty

def HazardField.blockedByFieldReport [MathLib K] (f : HazardField K) (lat lon : K) :
    Option (BlockedPoint K) :=
  f.blocked.find? fun point => haversineM lat lon point.lat point.lon ≤ point.radiusM

/-- `bisect.bisect_right` on a sorted list. -/
def bisectRight (l : List ℤ) (x : K) : ℕ := (l.takeWhile fun h : ℤ => (h : K) ≤ x).length

/-- The slices `riskAt` looks into: those up to the time asked for, and at least the first. -/
def HazardField.consulted (f : HazardField K) (elapsedS : K) : List (HazardSlice K) :=
  let index := bisectRight f.horizons (elapsedS / 60)
  f.slices.take (if index = 0 then 1 else index)

def worstOf (lat lon : K) (worst : K) (s : HazardSlice K) : Except PyError K := do
  match ← s.valueAt lat lon with
  | some value => pure (max worst value)
  | none => pure worst

def HazardField.riskAt (f : HazardField K) (lat lon elapsedS : K) : Except PyError K :=
  (f.consulted elapsedS).foldlM (worstOf lat lon) 0

/-- The default policy of the source. -/
def HazardPolicy.default : HazardPolicy K where
  blockThreshold := 1 / 2
  avoidThreshold := 1 / 5
  avoidPenalty := 8

/-- `none` means impassable. -/
def HazardPolicy.edgeMultiplier (p : HazardPolicy K) (risk : K) : Option K :=
  if p.blockThreshold ≤ risk then none
  else if risk ≤ p.avoidThreshold then some 1
  else
    let span := max (p.blockThreshold - p.avoidThreshold) minSpan
    let ratio := (risk - p.avoidThreshold) / span
    some (1 + ratio * (p.avoidPenalty - 1))

end

end Salgil
