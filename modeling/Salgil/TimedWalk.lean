import Mathlib.Order.Bounds.Basic
import Mathlib.Data.List.Nodup

namespace Salgil
set_option autoImplicit true

/-- A graph whose edges, left at a given time, are either shut or have an arrival time. -/
structure TimedGraph (ν : Type u) (ε : Type v) (K : Type w) where
  edges : ν → List ε
  target : ε → ν
  arrive : ε → K → Option K

/-- A walk records the nodes before its last one, newest first, and its arrival time. A node
may only be left at a time that `may` allows. -/
inductive TimedGraph.Walk (G : TimedGraph ν ε K) (may : K → Prop) (src : ν) (dep : K) :
    List ν → ν → K → Prop where
  | nil : G.Walk may src dep [] src dep
  | step : G.Walk may src dep p n t → may t → e ∈ G.edges n → G.arrive e t = some t' →
      G.Walk may src dep (n :: p) (G.target e) t'

/-- The arrival times at a node over all walks. -/
def TimedGraph.arrivals (G : TimedGraph ν ε K) (may : K → Prop) (src : ν) (dep : K)
    (n : ν) : Set K :=
  {t | ∃ p, G.Walk may src dep p n t}

/-- A walk transfers to another graph over the same edges when every step it takes can be
taken there from a related time, and arrives at a related time. -/
theorem TimedGraph.Walk.simulate {G G' : TimedGraph ν ε K} (R : K → K → Prop)
    (h : G.Walk may src dep p n t) (hd : R dep' dep)
    (hedges : G'.edges = G.edges) (htarget : G'.target = G.target)
    (hmay : ∀ s t, R s t → may t → may' s)
    (hstep : ∀ n e s t t', e ∈ G.edges n → R s t → G.arrive e t = some t' →
      ∃ s', G'.arrive e s = some s' ∧ R s' t') :
    ∃ s, G'.Walk may' src dep' p n s ∧ R s t := by
  induction h with
  | nil => exact ⟨dep', .nil, hd⟩
  | step _ ht he ha ih =>
    obtain ⟨s, hw, hs⟩ := ih
    obtain ⟨s', ha', hs'⟩ := hstep _ _ _ _ _ he hs ha
    refine ⟨s', ?_, hs'⟩
    rw [← htarget]
    exact .step hw (hmay _ _ hs ht) (hedges ▸ he) ha'

section Fifo
variable {K : Type w} [LinearOrder K] {G : TimedGraph ν ε K}

/-- First in, first out: leaving earlier never means being shut out or arriving later. -/
structure TimedGraph.Fifo (G : TimedGraph ν ε K) : Prop where
  later : ∀ {n e t t'}, e ∈ G.edges n → G.arrive e t = some t' → t ≤ t'
  mono : ∀ {n e s t t'}, e ∈ G.edges n → s ≤ t → G.arrive e t = some t' →
    ∃ s', G.arrive e s = some s' ∧ s' ≤ t'

theorem TimedGraph.Walk.dep_le (h : G.Walk may src dep p n t) (hG : G.Fifo) :
    dep ≤ t := by
  induction h with
  | nil => exact le_rfl
  | step _ _ he ha ih => exact ih.trans (hG.later he ha)

end Fifo

end Salgil
