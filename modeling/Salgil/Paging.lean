import Mathlib.Data.List.Sort

namespace Salgil
set_option autoImplicit true

/-- The rows that a query with `LIMIT` and `OFFSET` returns. -/
def page (limit offset : ℕ) (rows : List α) : List α := (rows.drop offset).take limit

/-- A way to put rows in the order of a key; rows with one key may come in any order. -/
def OrdersBy (r : κ → κ → Prop) (key : α → κ) (order : List α → List α) : Prop :=
  ∀ rows, (order rows).Perm rows ∧ ((order rows).map key).Pairwise r

theorem ordersBy_insertionSort (r : κ → κ → Prop) [DecidableRel r] [Std.Total r] [IsTrans κ r]
    (key : α → κ) : OrdersBy r key (List.insertionSort fun a b => r (key a) (key b)) := by
  intro rows
  have htotal : Std.Total fun a b : α => r (key a) (key b) :=
    ⟨fun a b => total_of r (key a) (key b)⟩
  have htrans : IsTrans α fun a b => r (key a) (key b) := ⟨fun _ _ _ hab hbc => trans_of r hab hbc⟩
  exact ⟨List.perm_insertionSort _ rows, List.pairwise_map.2 (List.pairwise_insertionSort _ rows)⟩

theorem mem_drop_page {limit offset : ℕ} {rows : List α} {x : α} (h : x ∈ rows.drop offset) :
    x ∈ page limit offset rows ∨ x ∈ rows.drop (offset + limit) := by
  rw [← List.take_append_drop limit (rows.drop offset), List.drop_drop] at h
  exact List.mem_append.1 h

theorem flatten_pages (limit n : ℕ) (rows : List α) :
    ((List.range n).map fun k => page limit (k * limit) rows).flatten = rows.take (n * limit) := by
  induction n with
  | zero => simp
  | succ n ih =>
    rw [List.range_succ, List.map_append, List.flatten_append, ih, Nat.succ_mul, List.take_add]
    simp [page]

/-- Rows may come in between while the pages are read: one that was there is on a page, or behind
the pages that have been read. -/
theorem mem_pages_or_behind {L : ℕ → List α} (hgrow : ∀ k, (L k).Sublist (L (k + 1))) {x : α}
    (hx : x ∈ L 0) (limit n : ℕ) :
    (∃ k ≤ n, x ∈ page limit (k * limit) (L k)) ∨ x ∈ (L n).drop ((n + 1) * limit) := by
  induction n with
  | zero =>
    rw [Nat.zero_add, Nat.one_mul]
    have hstart : x ∈ (L 0).drop 0 := hx
    rcases mem_drop_page hstart with hpage | hbehind
    · exact .inl ⟨0, le_rfl, by rwa [Nat.zero_mul]⟩
    · exact .inr (by rwa [Nat.zero_add] at hbehind)
  | succ n ih =>
    rcases ih with ⟨k, hk, hpage⟩ | hbehind
    · exact .inl ⟨k, hk.trans n.le_succ, hpage⟩
    · have hlater := ((hgrow n).drop ((n + 1) * limit)).subset hbehind
      rcases mem_drop_page hlater with hpage | hbehind
      · exact .inl ⟨n + 1, le_rfl, hpage⟩
      · rw [← Nat.succ_mul] at hbehind
        exact .inr hbehind

/-- Whoever reads the pages of a growing table to the end misses no row that was there. -/
theorem pages_skip_nothing {rows : ℕ → List α} {order : ℕ → List α → List α} {key : α → κ}
    {r : κ → κ → Prop} [Std.Antisymm r] (horder : ∀ k, OrdersBy r key (order k))
    (hgrow : ∀ k, ((rows k).map key).Sublist ((rows (k + 1)).map key)) {limit n : ℕ}
    (hend : (rows n).length ≤ (n + 1) * limit) {x : α} (hx : x ∈ rows 0) :
    ∃ k ≤ n, ∃ y ∈ page limit (k * limit) (order k (rows k)), key y = key x := by
  have hlists : ∀ k, ((order k (rows k)).map key).Sublist
      ((order (k + 1) (rows (k + 1))).map key) := by
    intro k
    refine List.sublist_of_subperm_of_pairwise ?_ (horder k _).2 (horder (k + 1) _).2
    exact (((horder k _).1.map key).subperm.trans (hgrow k).subperm).trans
      ((horder (k + 1) _).1.map key).symm.subperm
  have hfirst : key x ∈ (order 0 (rows 0)).map key :=
    List.mem_map_of_mem ((horder 0 _).1.mem_iff.2 hx)
  rcases mem_pages_or_behind (L := fun k => (order k (rows k)).map key) hlists hfirst limit n with
    ⟨k, hk, hpage⟩ | hbehind
  · rw [page, ← List.map_drop, ← List.map_take] at hpage
    obtain ⟨y, hy, hkey⟩ := List.mem_map.1 hpage
    exact ⟨k, hk, y, hy, hkey⟩
  · rw [List.drop_eq_nil_of_le] at hbehind
    · cases hbehind
    · rw [List.length_map, (horder n _).1.length_eq]
      exact hend

theorem flatten_order_pages {rows : ℕ → List α} {order : ℕ → List α → List α} {key : α → κ}
    {r : κ → κ → Prop} [Std.Antisymm r] (horder : ∀ k, OrdersBy r key (order k)) {limit n : ℕ}
    (hsame : ∀ k ≤ n, ((rows k).map key).Perm ((rows 0).map key))
    (hend : (rows n).length ≤ (n + 1) * limit) :
    ((List.range (n + 1)).map fun k =>
      (page limit (k * limit) (order k (rows k))).map key).flatten =
      (order 0 (rows 0)).map key := by
  have hkeys : ∀ k ≤ n, (order k (rows k)).map key = (order 0 (rows 0)).map key := by
    intro k hk
    apply List.Perm.eq_of_pairwise' (horder k _).2 (horder 0 _).2
    exact (((horder k _).1.map key).trans (hsame k hk)).trans ((horder 0 _).1.map key).symm
  have hpages : ∀ k ∈ List.range (n + 1), (page limit (k * limit) (order k (rows k))).map key =
      page limit (k * limit) ((order 0 (rows 0)).map key) := by
    intro k hk
    rw [← hkeys k (Nat.lt_succ_iff.1 (List.mem_range.1 hk)), page, page, List.map_take,
      List.map_drop]
  rw [List.map_congr_left hpages, flatten_pages, List.take_of_length_le]
  rw [← hkeys n le_rfl, List.length_map, (horder n _).1.length_eq]
  exact hend

end Salgil
