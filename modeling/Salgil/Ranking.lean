import Mathlib.Data.List.Sort
import Mathlib.Data.List.TakeWhile

namespace Salgil
set_option autoImplicit true

section
variable {α : Type u} {K : Type v} [LinearOrder K] (key : α → K)

/-- The entries by their keys, the greatest first; entries with the same key keep their order. -/
def ranked (l : List α) : List α := l.insertionSort fun x y => key y ≤ key x

theorem ranked_perm (l : List α) : (ranked key l).Perm l := List.perm_insertionSort _ _

theorem length_ranked (l : List α) : (ranked key l).length = l.length :=
  (ranked_perm key l).length_eq

theorem ranked_cons (x : α) (l : List α) : ranked key (x :: l) =
    (ranked key l).takeWhile (fun y => !decide (key y ≤ key x)) ++
      x :: (ranked key l).dropWhile (fun y => !decide (key y ≤ key x)) := by
  rw [ranked, List.insertionSort_cons_eq_take_drop]
  simp only [decide_not, ranked]

variable {l : List α} {x y : α} {S : α → α → Prop} {i k : ℕ}

theorem mem_ranked : x ∈ ranked key l ↔ x ∈ l := (ranked_perm key l).mem_iff

/-- An entry comes before another because its key is greater, or because it came before. -/
theorem ranked_stable (h : l.Pairwise S) :
    (ranked key l).Pairwise fun x y => key y < key x ∨ key y = key x ∧ S x y := by
  induction l with
  | nil => exact List.Pairwise.nil
  | cons x l ih =>
    rw [List.pairwise_cons] at h
    have hsorted := ih h.2
    rw [ranked_cons]
    set above := (ranked key l).takeWhile fun y => !decide (key y ≤ key x)
    set below := (ranked key l).dropWhile fun y => !decide (key y ≤ key x)
    have hsplit : above ++ below = ranked key l := List.takeWhile_append_dropWhile
    rw [← hsplit, List.pairwise_append] at hsorted
    obtain ⟨habove, hbelow, hacross⟩ := hsorted
    have hgreater : ∀ y ∈ above, key x < key y := by
      intro y hy
      simpa using List.mem_takeWhile_imp hy
    have hmem : ∀ y ∈ below, y ∈ l := by
      intro y hy
      rw [← mem_ranked key, ← hsplit]
      exact List.mem_append_right _ hy
    have hsmaller : ∀ y ∈ below, key y ≤ key x := by
      intro y hy
      have hne : below ≠ [] := List.ne_nil_of_mem hy
      have hfirst : key (below.head hne) ≤ key x := by
        simpa using List.head_dropWhile_not (fun y => !decide (key y ≤ key x)) hne
      rw [← List.cons_head_tail hne, List.mem_cons] at hy
      rw [← List.cons_head_tail hne, List.pairwise_cons] at hbelow
      rcases hy with rfl | hy
      · exact hfirst
      · rcases hbelow.1 y hy with hless | ⟨heq, -⟩
        · exact hless.le.trans hfirst
        · exact heq.le.trans hfirst
    rw [List.pairwise_append, List.pairwise_cons]
    refine ⟨habove, ⟨?_, hbelow⟩, ?_⟩
    · intro y hy
      rcases (hsmaller y hy).lt_or_eq with hless | heq
      · exact .inl hless
      · exact .inr ⟨heq, h.1 y (hmem y hy)⟩
    · intro y hy z hz
      rcases List.mem_cons.1 hz with rfl | hz
      · exact .inl (hgreater y hy)
      · exact .inl ((hsmaller z hz).trans_lt (hgreater y hy))

theorem pairwise_ranked (l : List α) : (ranked key l).Pairwise fun x y => key y ≤ key x := by
  have htrue : l.Pairwise fun _ _ => True := List.pairwise_of_forall fun _ _ => trivial
  refine (ranked_stable key htrue).imp ?_
  rintro x y (hless | ⟨heq, -⟩)
  · exact hless.le
  · exact heq.le

variable {key}

theorem ranked_beats (h : l.Pairwise S) (hx : x ∈ (ranked key l).take k) (hy : y ∈ l)
    (hout : y ∉ (ranked key l).take k) : key y < key x ∨ key y = key x ∧ S x y := by
  have hsorted := ranked_stable key h
  rw [← List.take_append_drop k (ranked key l), List.pairwise_append] at hsorted
  have hrest : y ∈ (ranked key l).drop k := by
    rw [← mem_ranked key, ← List.take_append_drop k (ranked key l),
      List.mem_append] at hy
    exact hy.resolve_left hout
  exact hsorted.2.2 x hx y hrest

theorem ranked_around (hx : (ranked key l)[i]? = some x) :
    ∃ above below, ranked key l = above ++ x :: below ∧ above.length = i ∧
      (∀ y ∈ above, key x ≤ key y) ∧ ∀ y ∈ below, key y ≤ key x := by
  obtain ⟨hi, rfl⟩ := List.getElem?_eq_some_iff.1 hx
  have hsplit : ranked key l =
      (ranked key l).take i ++ (ranked key l)[i] :: (ranked key l).drop (i + 1) := by
    rw [List.getElem_cons_drop, List.take_append_drop]
  have hsorted := pairwise_ranked key l
  rw [hsplit, List.pairwise_append, List.pairwise_cons] at hsorted
  obtain ⟨-, ⟨hbelow, -⟩, habove⟩ := hsorted
  refine ⟨_, _, hsplit, by simp [hi.le], ?_, hbelow⟩
  exact fun y hy => habove y hy _ List.mem_cons_self

theorem countP_above (hx : (ranked key l)[i]? = some x) :
    l.countP (fun y => key x < key y) ≤ i := by
  obtain ⟨above, below, hsplit, rfl, -, hbelow⟩ := ranked_around hx
  have hnone : (x :: below).countP (fun y => key x < key y) = 0 := by
    rw [List.countP_eq_zero]
    intro y hy
    rcases List.mem_cons.1 hy with rfl | hy
    · simp
    · simpa using hbelow y hy
  rw [← (ranked_perm key l).countP_eq, hsplit, List.countP_append, hnone]
  exact List.countP_le_length

theorem lt_countP_from (hx : (ranked key l)[i]? = some x) :
    i < l.countP (fun y => key x ≤ key y) := by
  obtain ⟨above, below, hsplit, rfl, habove, -⟩ := ranked_around hx
  have hall : above.countP (fun y => key x ≤ key y) = above.length := by
    rw [List.countP_eq_length]
    exact fun y hy => decide_eq_true (habove y hy)
  have hself : 0 < (x :: below).countP (fun y => key x ≤ key y) :=
    List.countP_pos_iff.2 ⟨x, List.mem_cons_self, decide_eq_true le_rfl⟩
  rw [← (ranked_perm key l).countP_eq, hsplit, List.countP_append, hall]
  omega

end

end Salgil
