import Salgil.Python
import Mathlib.Data.Nat.ModEq

namespace Salgil
set_option autoImplicit true

section
variable {ι : Type u} [DecidableEq ι] (size : ι → ℕ)

/-- The places of an array in the order in which it is flattened, the last axis fastest. -/
def cells : List ι → List (ι → ℕ)
  | [] => [fun _ => 0]
  | a :: axes => (List.range (size a)).flatMap fun n =>
      (cells axes).map fun cell => Function.update cell a n

/-- How many places there are. -/
def volume (axes : List ι) : ℕ := (axes.map size).prod

/-- Where a place comes in the flattened array. -/
def place : List ι → (ι → ℕ) → ℕ
  | [], _ => 0
  | a :: axes, cell => cell a * volume size axes + place axes cell

variable {size} {axes : List ι} {cell : ι → ℕ} {a : ι} {n : ℕ}

theorem length_cells (size : ι → ℕ) (axes : List ι) :
    (cells size axes).length = volume size axes := by
  induction axes with
  | nil => rfl
  | cons a axes ih => simp [cells, volume, ih]

theorem mem_cells_cons : cell ∈ cells size (a :: axes) ↔
    ∃ n < size a, ∃ rest ∈ cells size axes, Function.update rest a n = cell := by
  simp [cells]

theorem lt_size_of_mem_cells (h : cell ∈ cells size axes) (ha : a ∈ axes) : cell a < size a := by
  induction axes generalizing cell with
  | nil => cases ha
  | cons b axes ih =>
    obtain ⟨n, hn, rest, hrest, rfl⟩ := mem_cells_cons.1 h
    by_cases heq : a = b
    · subst heq
      rwa [Function.update_self]
    · rw [Function.update_of_ne heq]
      exact ih hrest ((List.mem_cons.1 ha).resolve_left heq)

theorem eq_zero_of_mem_cells (h : cell ∈ cells size axes) (ha : size a = 1) : cell a = 0 := by
  induction axes generalizing cell with
  | nil =>
    rw [List.mem_singleton.1 h]
  | cons b axes ih =>
    obtain ⟨n, hn, rest, hrest, rfl⟩ := mem_cells_cons.1 h
    by_cases heq : a = b
    · subst heq
      rw [Function.update_self]
      omega
    · rw [Function.update_of_ne heq]
      exact ih hrest

theorem cells_filter (size : ι → ℕ) (axes : List ι) :
    cells size (axes.filter (size · ≠ 1)) = cells size axes := by
  induction axes with
  | nil => rfl
  | cons a axes ih =>
    by_cases ha : size a = 1
    · have hsame : (cells size axes).map (fun cell => Function.update cell a 0) =
          cells size axes := by
        conv_rhs => rw [← List.map_id (cells size axes)]
        refine List.map_congr_left fun cell hcell => ?_
        rw [← eq_zero_of_mem_cells hcell ha, Function.update_eq_self, id]
      rw [List.filter_cons_of_neg (by simp [ha]), ih]
      simp [cells, ha, hsame]
    · rw [List.filter_cons_of_pos (by simp [ha])]
      simp only [cells, ih]

theorem place_update (h : a ∉ axes) : place size axes (Function.update cell a n) =
    place size axes cell := by
  induction axes with
  | nil => rfl
  | cons b axes ih =>
    rw [List.mem_cons, not_or] at h
    rw [place, place, Function.update_of_ne (Ne.symm h.1), ih h.2]

theorem getElem?_flatMap_range {f : ℕ → List α} {p s : ℕ} (hf : ∀ m, (f m).length = p)
    {x : α} (h : ((List.range s).flatMap f)[n]? = some x) :
    ∃ m r, n = m * p + r ∧ (f m)[r]? = some x := by
  induction s with
  | zero => simp at h
  | succ s ih =>
    have hlength : ((List.range s).flatMap f).length = s * p := by simp [hf]
    rw [List.range_succ, List.flatMap_append, List.flatMap_singleton] at h
    by_cases hn : n < ((List.range s).flatMap f).length
    · rw [List.getElem?_append_left hn] at h
      exact ih h
    · rw [List.getElem?_append_right (not_lt.1 hn)] at h
      exact ⟨s, n - s * p, by omega, hlength ▸ h⟩

theorem place_of_getElem? (hnodup : axes.Nodup) (h : (cells size axes)[n]? = some cell) :
    place size axes cell = n := by
  induction axes generalizing n cell with
  | nil =>
    cases n with
    | zero => rfl
    | succ n => simp [cells] at h
  | cons a axes ih =>
    rw [List.nodup_cons] at hnodup
    obtain ⟨m, r, rfl, hr⟩ := getElem?_flatMap_range
      (fun m => by rw [List.length_map, length_cells]) h
    rw [List.getElem?_map, Option.map_eq_some_iff] at hr
    obtain ⟨rest, hrest, rfl⟩ := hr
    rw [place, Function.update_self, place_update hnodup.1, ih hnodup.2 hrest]

end

section
variable {l : List α} {step skip : ℕ}

theorem everyNth_getElem? (hstep : 0 < step) (l : List α) (skip m : ℕ) :
    (everyNth step l skip)[m]? = l[skip + m * step]? := by
  induction l generalizing skip m with
  | nil => simp [everyNth]
  | cons x l ih =>
    cases skip with
    | zero =>
      cases m with
      | zero => simp [everyNth]
      | succ m =>
        have hindex : 0 + (m + 1) * step = step - 1 + m * step + 1 := by
          rw [Nat.add_mul]
          omega
        rw [everyNth, List.getElem?_cons_succ, ih, hindex, List.getElem?_cons_succ]
    | succ skip =>
      have hindex : skip + 1 + m * step = skip + m * step + 1 := by omega
      rw [everyNth, ih, hindex, List.getElem?_cons_succ]

theorem everyNth_eq_filter {p : α → Bool} (hstep : 0 < step)
    (h : ∀ j x, l[j]? = some x → (p x = true ↔ skip ≤ j ∧ step ∣ j - skip)) :
    everyNth step l skip = l.filter p := by
  induction l generalizing skip with
  | nil => rfl
  | cons x l ih =>
    have hx := h 0 x rfl
    cases skip with
    | zero =>
      have hpicked : p x = true := hx.2 (by simp)
      rw [everyNth, List.filter_cons_of_pos hpicked, ih]
      intro j y hy
      rw [h (j + 1) y hy]
      constructor
      · rintro ⟨-, hdvd⟩
        have hle : step ≤ j + 1 := Nat.le_of_dvd (Nat.succ_pos j) hdvd
        refine ⟨by omega, ?_⟩
        have hsub : j - (step - 1) = j + 1 - 0 - step := by omega
        rw [hsub]
        exact Nat.dvd_sub hdvd dvd_rfl
      · rintro ⟨hle, hdvd⟩
        refine ⟨Nat.zero_le _, ?_⟩
        have hadd : j + 1 - 0 = j - (step - 1) + step := by omega
        rw [hadd]
        exact (Nat.dvd_add_self_right).2 hdvd
    | succ skip =>
      have hpassed : ¬ p x = true := fun hp => by
        have hle := (hx.1 hp).1
        omega
      rw [everyNth, List.filter_cons_of_neg hpassed, ih]
      intro j y hy
      rw [h (j + 1) y hy, Nat.add_sub_add_right]
      exact and_congr_left' Nat.add_le_add_iff_right

/-- Lists that look alike under every labelling are the same. -/
theorem eq_of_map_eq {β : Type v} {γ : Type w} {l' : List α} {g : β → γ} {x y : β} (hne : g x ≠ g y)
    (h : ∀ f : α → β, (l.map f).map g = (l'.map f).map g) : l = l' := by
  classical
  apply List.ext_getElem?
  intro n
  have hlabel (a : α) := congrArg (·[n]?) (h fun b => if b = a then x else y)
  simp only [List.getElem?_map, Option.map_map] at hlabel
  cases hl : l[n]? with
  | none =>
    cases hl' : l'[n]? with
    | none => rfl
    | some b => simpa [hl, hl'] using hlabel b
  | some a =>
    have hsame := hlabel a
    rw [hl] at hsame
    cases hl' : l'[n]? with
    | none => simp [hl'] at hsame
    | some b =>
      rw [hl'] at hsame
      by_cases heq : b = a
      · rw [heq]
      · simp [heq, hne] at hsame

end

end Salgil
