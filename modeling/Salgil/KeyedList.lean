import Mathlib.Data.List.Nodup

namespace Salgil
set_option autoImplicit true

namespace KeyedList
variable {κ : Type v} [DecidableEq κ]

/-- The entry in the place of that of its key, or at the end. -/
def put (key : α → κ) (l : List α) (x : α) : List α :=
  if l.any fun y => key y = key x then l.map fun y => if key y = key x then x else y
  else l ++ [x]

/-- The entry of a key. -/
def at? (key : α → κ) (l : List α) (k : κ) : Option α := l.find? fun y => key y = k

variable {key : α → κ} {l : List α} {x y : α} {k : κ}

theorem keys_put (key : α → κ) (l : List α) (x : α) :
    (put key l x).map key = if l.any fun y => key y = key x then l.map key
      else l.map key ++ [key x] := by
  unfold put
  split
  · rw [List.map_map]
    apply List.map_congr_left
    intro y _
    dsimp only [Function.comp_apply]
    split
    · next heq => exact heq.symm
    · rfl
  · rw [List.map_append, List.map_singleton]

theorem nodup_put (h : (l.map key).Nodup) (x : α) : ((put key l x).map key).Nodup := by
  rw [keys_put]
  split
  · exact h
  · next hany =>
    rw [List.nodup_append']
    refine ⟨h, List.nodup_singleton _, ?_⟩
    rw [List.disjoint_singleton]
    intro hmem
    obtain ⟨y, hy, heq⟩ := List.mem_map.1 hmem
    exact hany (List.any_eq_true.2 ⟨y, hy, decide_eq_true heq⟩)

theorem mem_put (h : y ∈ put key l x) : y ∈ l ∨ y = x := by
  unfold put at h
  split at h
  · obtain ⟨old, hold, heq⟩ := List.mem_map.1 h
    split at heq
    · exact .inr heq.symm
    · exact .inl (heq ▸ hold)
  · rcases List.mem_append.1 h with h | h
    · exact .inl h
    · exact .inr (List.mem_singleton.1 h)

theorem at?_cons (key : α → κ) (y : α) (l : List α) (k : κ) :
    at? key (y :: l) k = if key y = k then some y else at? key l k := by
  rw [at?, List.find?_cons]
  by_cases h : key y = k
  · rw [decide_eq_true h, if_pos h]
  · rw [decide_eq_false h, if_neg h, at?]

theorem at?_eq_none : at? key l k = none ↔ k ∉ l.map key := by
  simp [at?]

theorem key_of_at? (h : at? key l k = some x) : key x = k := by
  simpa using List.find?_some h

theorem mem_of_at? (h : at? key l k = some x) : x ∈ l := List.mem_of_find?_eq_some h

theorem at?_of_mem (h : (l.map key).Nodup) (hx : x ∈ l) : at? key l (key x) = some x := by
  cases hat : at? key l (key x) with
  | none => exact absurd (List.mem_map_of_mem hx) (at?_eq_none.1 hat)
  | some y => rw [List.inj_on_of_nodup_map h (mem_of_at? hat) hx (key_of_at? hat)]

theorem at?_put (key : α → κ) (l : List α) (x : α) (k : κ) :
    at? key (put key l x) k = if k = key x then some x else at? key l k := by
  unfold put
  split
  · next hany =>
    have hmap : ∀ l : List α, at? key (l.map fun y => if key y = key x then x else y) k =
        if k = key x then (at? key l k).map fun _ => x else at? key l k := by
      intro l
      induction l with
      | nil => simp [at?]
      | cons y l ih =>
        rw [List.map_cons, at?_cons, at?_cons, ih]
        by_cases hk : k = key x
        · by_cases hy : key y = key x <;> simp [hk, hy]
        · by_cases hy : key y = key x
          · simp [hy, hk, Ne.symm hk]
          · simp [hy, hk]
    rw [hmap]
    split
    · next heq =>
      obtain ⟨y, hy, hkey⟩ := List.any_eq_true.1 hany
      cases hat : at? key l k with
      | none =>
        have hmem := List.mem_map_of_mem (f := key) hy
        rw [of_decide_eq_true hkey, ← heq] at hmem
        exact absurd hmem (at?_eq_none.1 hat)
      | some old => rfl
    · rfl
  · next hany =>
    have hnew : at? key l (key x) = none := by
      rw [at?_eq_none]
      intro hmem
      obtain ⟨y, hy, heq⟩ := List.mem_map.1 hmem
      exact hany (List.any_eq_true.2 ⟨y, hy, decide_eq_true heq⟩)
    rw [at?, List.find?_append, ← at?]
    split
    · next heq => simp [heq, hnew]
    · next hne =>
      have hne' : ¬ key x = k := fun heq => hne heq.symm
      simp [hne']

theorem put_new (h : key x ∉ l.map key) : put key l x = l ++ [x] := by
  rw [put, if_neg]
  intro hany
  obtain ⟨y, hy, heq⟩ := List.any_eq_true.1 hany
  exact h (of_decide_eq_true heq ▸ List.mem_map_of_mem hy)

theorem lookup_eq_at? [BEq κ] [LawfulBEq κ] (entries : List (κ × β)) (k : κ) :
    entries.lookup k = (at? (·.1) entries k).map (·.2) := by
  induction entries with
  | nil => rfl
  | cons entry entries ih =>
    rw [List.lookup_cons, at?_cons, ih]
    by_cases h : entry.1 = k
    · simp [h]
    · have hne : (k == entry.1) = false := beq_eq_false_iff_ne.2 (Ne.symm h)
      simp [h, hne]

theorem at?_filter (key : α → κ) (p : κ → Bool) (l : List α) (k : κ) :
    at? key (l.filter fun y => p (key y)) k = if p k then at? key l k else none := by
  induction l with
  | nil => simp [at?]
  | cons y l ih =>
    rw [List.filter_cons]
    by_cases hy : p (key y) = true
    · rw [if_pos hy, at?_cons, at?_cons, ih]
      by_cases h : key y = k
      · rw [if_pos h, if_pos h, if_pos (h ▸ hy)]
      · rw [if_neg h, if_neg h]
    · rw [if_neg hy, at?_cons, ih]
      by_cases h : key y = k
      · rw [if_neg (h ▸ hy), if_neg (h ▸ hy)]
      · rw [if_neg h]

end KeyedList

end Salgil
