import Mathlib.Data.List.Basic

namespace Salgil
set_option autoImplicit true

/-- A bounded queue and what has been read from it. -/
structure Window (α : Type u) where
  queued : List α := []
  read : List α := []

namespace Window

/-- A new entry that finds the queue full pushes the oldest one out. -/
def push (size : ℕ) (w : Window α) (x : α) : Window α :=
  { w with queued := (if w.queued.length < size then w.queued else w.queued.tail) ++ [x] }

def pop (w : Window α) : Window α :=
  match w.queued with
  | [] => w
  | x :: rest => ⟨rest, w.read ++ [x]⟩

/-- The queue holds the newest entries, and only entries that were skipped are missing from what
has been read and what is queued. -/
structure Follows (size : ℕ) (pushed : List α) (w : Window α) : Prop where
  suffix : w.queued <:+ pushed
  length_le : w.queued.length ≤ size
  sublist : (w.read ++ w.queued).Sublist pushed
  newest : (w.read ++ w.queued).getLast? = pushed.getLast?

variable {size : ℕ} {pushed : List α} {w : Window α} {x : α}

theorem follows_nil (size : ℕ) : Follows size [] ({} : Window α) where
  suffix := List.suffix_rfl
  length_le := Nat.zero_le _
  sublist := List.Sublist.refl _
  newest := rfl

theorem push_room (h : w.queued.length < size) :
    w.push size x = { w with queued := w.queued ++ [x] } := by
  rw [push, if_pos h]

theorem push_full {y : α} {rest : List α} (hq : w.queued = y :: rest)
    (h : ¬ w.queued.length < size) : w.push size x = { w with queued := rest ++ [x] } := by
  rw [push, if_neg h, hq, List.tail_cons]

theorem Follows.push (h : w.Follows size pushed) (hsize : 0 < size) (x : α) :
    (w.push size x).Follows size (pushed ++ [x]) := by
  have hkept : ∀ kept, kept <:+ w.queued → kept.length < size →
      Follows size (pushed ++ [x]) { w with queued := kept ++ [x] } := by
    intro kept hkept hlen
    constructor
    · obtain ⟨front, hfront⟩ := hkept.trans h.suffix
      exact ⟨front, by rw [← List.append_assoc, hfront]⟩
    · rw [List.length_append]
      exact hlen
    · rw [← List.append_assoc]
      have hsub : (w.read ++ kept).Sublist (w.read ++ w.queued) :=
        (List.Sublist.refl _).append hkept.sublist
      exact (hsub.trans h.sublist).append (List.Sublist.refl _)
    · rw [← List.append_assoc, List.getLast?_concat, List.getLast?_concat]
  by_cases hfull : w.queued.length < size
  · rw [push_room hfull]
    exact hkept _ List.suffix_rfl hfull
  · cases hq : w.queued with
    | nil => simp [hq, hsize] at hfull
    | cons y rest =>
      have hlen := h.length_le
      rw [push_full hq hfull]
      apply hkept rest
      · rw [hq]
        exact List.suffix_cons y rest
      · rw [hq, List.length_cons] at hlen
        exact hlen

theorem pop_append (w : Window α) : w.pop.read ++ w.pop.queued = w.read ++ w.queued := by
  cases hq : w.queued with
  | nil => simp [Window.pop, hq]
  | cons y rest => simp [Window.pop, hq]

theorem pop_suffix (w : Window α) : w.pop.queued <:+ w.queued := by
  cases hq : w.queued with
  | nil => simp [Window.pop, hq]
  | cons y rest => simp [Window.pop, hq]

theorem Follows.pop (h : w.Follows size pushed) : w.pop.Follows size pushed where
  suffix := w.pop_suffix.trans h.suffix
  length_le := Nat.le_trans w.pop_suffix.length_le h.length_le
  sublist := w.pop_append ▸ h.sublist
  newest := w.pop_append ▸ h.newest

end Window

end Salgil
