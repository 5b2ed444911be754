import Salgil.Geodesy
import Salgil.RoadGraphFacts

namespace Salgil
set_option autoImplicit true
set_option linter.unusedSectionVars false

variable {g : RoadGraph ℝ} {n : NodeId ℝ}

/-- No other node of the graph lies at the same place. -/
def RoadGraph.Apart (g : RoadGraph ℝ) (n : NodeId ℝ) : Prop :=
  ∀ m ∈ g.nodes.keys, m ≠ n → 0 < n.distance m

theorem RoadGraph.apart_of_onMap (h : ∀ m ∈ g.nodes.keys, m.OnMap) (hn : n ∈ g.nodes.keys) :
    g.Apart n :=
  fun m hm hne => (h n hn).distance_pos (h m hm) hne.symm

theorem nearerIn_zero (m : NodeId ℝ) :
    nearerIn n.lat n.lon (some n, 0) m = (some n, 0) := by
  simp [nearerIn, haversineM_nonneg]

theorem foldl_nearerIn_zero (l : List (NodeId ℝ)) :
    l.foldl (nearerIn n.lat n.lon) (some n, 0) = (some n, 0) := by
  induction l with
  | nil => rfl
  | cons m l ih => rw [List.foldl_cons, nearerIn_zero, ih]

theorem foldl_nearerIn_mem {l : List (NodeId ℝ)} {found : Option (NodeId ℝ) × ℝ}
    (hn : n ∈ l) (hother : ∀ m ∈ l, m ≠ n → 0 < n.distance m) (hfound : 0 < found.2) :
    l.foldl (nearerIn n.lat n.lon) found = (some n, 0) := by
  induction l generalizing found with
  | nil => exact absurd hn List.not_mem_nil
  | cons m l ih =>
    rw [List.foldl_cons]
    by_cases hmn : m = n
    · subst hmn
      rw [show nearerIn m.lat m.lon found m = (some m, 0) by
        simp [nearerIn, haversineM_self, hfound]]
      exact foldl_nearerIn_zero l
    · refine ih ((List.mem_cons.1 hn).resolve_left (Ne.symm hmn))
        (fun k hk => hother k (List.mem_cons_of_mem _ hk)) ?_
      simp only [nearerIn]
      split
      · exact hother m List.mem_cons_self hmn
      · exact hfound

theorem searchRings_zero (rings : List ℕ) :
    g.searchRings n.lat n.lon rings (some n, 0) = some n := by
  induction rings with
  | nil => rfl
  | cons radius rings ih =>
    simp only [RoadGraph.searchRings, RoadGraph.searchRing, foldl_nearerIn_zero, ih, ite_self]

theorem RoadGraph.nearestNode_self (hg : g.Indexed) (hn : n ∈ g.nodes.keys) (hapart : g.Apart n)
    {maxDistanceM : ℝ} (hmax : 0 < maxDistanceM) :
    g.nearestNode n.lat n.lon maxDistanceM = some n := by
  have hring : g.searchRing n.lat n.lon 0 (none, maxDistanceM) = (some n, 0) := by
    have hcells : ringCells (cell n.lat n.lon) 0 = [cell n.lat n.lon] := by simp [ringCells]
    rw [searchRing, hcells, List.flatMap_singleton]
    exact foldl_nearerIn_mem (hg.listed hn) (fun m hm => hapart m (hg.only hm)) hmax
  rw [nearestNode, List.range_succ_eq_map, searchRings, hring]
  simp only [Option.isSome_some, lt_irrefl, and_false, ↓reduceIte, searchRings_zero]

theorem foldl_nearerIn_of_mem {P : NodeId ℝ → Prop} {lat lon : ℝ} {l : List (NodeId ℝ)}
    {found : Option (NodeId ℝ) × ℝ} (hl : ∀ m ∈ l, P m) (hfound : ∀ m, found.1 = some m → P m) :
    ∀ m, (l.foldl (nearerIn lat lon) found).1 = some m → P m := by
  induction l generalizing found with
  | nil => exact hfound
  | cons k l ih =>
    apply ih (fun m hm => hl m (List.mem_cons_of_mem _ hm))
    intro m hm
    simp only [nearerIn] at hm
    split at hm
    · exact Option.some.inj hm ▸ hl k List.mem_cons_self
    · exact hfound m hm

theorem RoadGraph.Indexed.nearestNode_mem (hg : g.Indexed) {lat lon maxDistanceM : ℝ}
    (h : g.nearestNode lat lon maxDistanceM = some n) : n ∈ g.nodes.keys := by
  suffices hrings : ∀ (rings : List ℕ) (found : Option (NodeId ℝ) × ℝ),
      (∀ m, found.1 = some m → m ∈ g.nodes.keys) →
      ∀ m, g.searchRings lat lon rings found = some m → m ∈ g.nodes.keys from
    hrings _ (none, maxDistanceM) (by simp) n h
  intro rings
  induction rings with
  | nil => exact fun _ hfound => hfound
  | cons radius rings ih =>
    intro found hfound m hm
    have hnext : ∀ m, (g.searchRing lat lon radius found).1 = some m → m ∈ g.nodes.keys := by
      apply foldl_nearerIn_of_mem _ hfound
      intro m hm
      obtain ⟨c, -, hmc⟩ := List.mem_flatMap.1 hm
      exact hg.only hmc
    simp only [searchRings] at hm
    split at hm
    · exact hnext m hm
    · exact ih _ hnext m hm

/-- Straight roads along the meridian between the given latitudes. -/
noncomputable def meridianRoads : List (ℝ × ℝ) → RoadGraph ℝ
  | [] => {}
  | (x, y) :: spans => (meridianRoads spans).addSegment (onMeridian x) (onMeridian y)
      ((onMeridian x).distance (onMeridian y)) none []

section
variable {spans : List (ℝ × ℝ)} {e : Edge ℝ}

theorem meridianRoads_indexed : (meridianRoads spans).Indexed := by
  induction spans with
  | nil => exact .empty _ _ _
  | cons span spans ih => exact ih.addSegment _ _ _ _ _

theorem mem_keys_meridianRoads :
    n ∈ (meridianRoads spans).nodes.keys ↔
      ∃ x y, (x, y) ∈ spans ∧ (n = onMeridian x ∨ n = onMeridian y) := by
  induction spans with
  | nil => simp [meridianRoads, Dict.empty]
  | cons span spans ih =>
    obtain ⟨x, y⟩ := span
    rw [meridianRoads, RoadGraph.mem_keys_addSegment, ih]
    simp only [List.mem_cons, Prod.mk.injEq, or_and_right, exists_or, ← or_assoc]
    simp

theorem mem_neighbours_meridianRoads :
    e ∈ (meridianRoads spans).neighbours n ↔ ∃ x y, (x, y) ∈ spans ∧
      (n = onMeridian x ∧ e = ⟨onMeridian y, (onMeridian x).distance (onMeridian y), none, []⟩ ∨
        n = onMeridian y ∧
          e = ⟨onMeridian x, (onMeridian x).distance (onMeridian y), none, []⟩) := by
  induction spans with
  | nil => simp [meridianRoads]
  | cons span spans ih =>
    obtain ⟨x, y⟩ := span
    rw [meridianRoads, RoadGraph.mem_neighbours_addSegment, ih]
    simp only [List.mem_cons, Prod.mk.injEq, or_and_right, exists_or]
    rw [or_comm]
    refine or_congr_left ⟨fun h => ⟨x, y, ⟨rfl, rfl⟩, h⟩, ?_⟩
    rintro ⟨_, _, ⟨rfl, rfl⟩, h⟩
    exact h

theorem meridianRoads_length_nonneg (he : e ∈ (meridianRoads spans).neighbours n) :
    0 ≤ e.lengthM := by
  obtain ⟨x, y, -, ⟨-, rfl⟩ | ⟨-, rfl⟩⟩ := mem_neighbours_meridianRoads.1 he <;>
    exact haversineM_nonneg _ _ _ _

theorem nearestNode_meridianRoads {x y : ℝ} (hspans : ∀ x y, (x, y) ∈ spans → |x| < 90 ∧ |y| < 90)
    (h : (x, y) ∈ spans ∨ (y, x) ∈ spans) {maxDistanceM : ℝ} (hmax : 0 < maxDistanceM) :
    (meridianRoads spans).nearestNode x 129 maxDistanceM = some (onMeridian x) := by
  have hkey : onMeridian x ∈ (meridianRoads spans).nodes.keys := by
    rcases h with h | h
    · exact mem_keys_meridianRoads.2 ⟨x, y, h, .inl rfl⟩
    · exact mem_keys_meridianRoads.2 ⟨y, x, h, .inr rfl⟩
  refine RoadGraph.nearestNode_self meridianRoads_indexed hkey
    (RoadGraph.apart_of_onMap ?_ hkey) hmax
  intro m hm
  obtain ⟨x, y, hxy, rfl | rfl⟩ := mem_keys_meridianRoads.1 hm
  · exact onMeridian_onMap (hspans x y hxy).1
  · exact onMeridian_onMap (hspans x y hxy).2

end

end Salgil
