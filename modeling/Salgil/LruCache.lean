import Mathlib.Data.List.Nodup

namespace Salgil
set_option autoImplicit true

/-- The entries of a cache that drops the one used longest ago; the one used last comes first. -/
structure LruCache (maxsize : ℕ) (κ : Type u) (α : Type v) where
  entries : List (κ × α)
  nodup : (entries.map (·.1)).Nodup
  length_le : entries.length ≤ maxsize

namespace LruCache
variable {κ : Type u} {α : Type v} [DecidableEq κ] {maxsize : ℕ}

def empty (maxsize : ℕ) (κ : Type u) (α : Type v) : LruCache maxsize κ α where
  entries := []
  nodup := List.nodup_nil
  length_le := Nat.zero_le _

def get? (c : LruCache maxsize κ α) (key : κ) : Option α := c.entries.lookup key

/-- An entry that is used goes to the front. -/
def hit (c : LruCache maxsize κ α) (key : κ) (value : α) : List (κ × α) :=
  (key, value) :: c.entries.filter (·.1 ≠ key)

theorem hit_nodup (c : LruCache maxsize κ α) (key : κ) (value : α) :
    ((c.hit key value).map (·.1)).Nodup := by
  rw [hit, List.map_cons, List.nodup_cons]
  refine ⟨?_, c.nodup.sublist (List.filter_sublist.map _)⟩
  simp

theorem get?_isSome_iff {c : LruCache maxsize κ α} {key : κ} :
    (c.get? key).isSome ↔ key ∈ c.entries.map (·.1) := by
  rw [get?, List.lookup_isSome_iff, List.mem_map]
  exact exists_congr fun entry => and_congr_right fun _ => beq_iff_eq.trans eq_comm

theorem hit_length_le {c : LruCache maxsize κ α} {key : κ} {value : α}
    (h : c.get? key = some value) : (c.hit key value).length ≤ maxsize := by
  have hmem : key ∈ c.entries.map (·.1) := get?_isSome_iff.1 (Option.isSome_of_eq_some h)
  obtain ⟨entry, hentry, hkey⟩ := List.mem_map.1 hmem
  have hlt : (c.entries.filter (·.1 ≠ key)).length < c.entries.length :=
    List.length_filter_lt_length_iff_exists.2 ⟨entry, hentry, by simpa using hkey⟩
  rw [hit, List.length_cons]
  exact Nat.le_trans (Nat.succ_le_of_lt hlt) c.length_le

/-- The value of a key, which has then been used last. -/
def use (c : LruCache maxsize κ α) (key : κ) : Option (α × LruCache maxsize κ α) :=
  match h : c.get? key with
  | none => none
  | some value => some (value, ⟨c.hit key value, c.hit_nodup key value, hit_length_le h⟩)

/-- The entries after a new one has come, for which the oldest makes room. -/
def added (c : LruCache maxsize κ α) (key : κ) (value : α) : List (κ × α) :=
  if (c.get? key).isSome ∨ maxsize = 0 then c.entries
  else (key, value) :: c.entries.take (maxsize - 1)

theorem added_nodup (c : LruCache maxsize κ α) (key : κ) (value : α) :
    ((c.added key value).map (·.1)).Nodup := by
  unfold added
  split
  · exact c.nodup
  · next hnew =>
    rw [get?_isSome_iff, not_or] at hnew
    rw [List.map_cons, List.nodup_cons, List.map_take]
    exact ⟨fun hmem => hnew.1 (List.mem_of_mem_take hmem), c.nodup.sublist (List.take_sublist _ _)⟩

theorem added_length_le (c : LruCache maxsize κ α) (key : κ) (value : α) :
    (c.added key value).length ≤ maxsize := by
  unfold added
  split
  · exact c.length_le
  · next hnew =>
    rw [List.length_cons, List.length_take]
    omega

/-- A value that was computed for a key; one that has been there since stays. -/
def add (c : LruCache maxsize κ α) (key : κ) (value : α) : LruCache maxsize κ α where
  entries := c.added key value
  nodup := c.added_nodup key value
  length_le := c.added_length_le key value

section
variable {c c' : LruCache maxsize κ α} {key other : κ} {value : α}

theorem get?_eq_some_iff : c.get? key = some value ↔ (key, value) ∈ c.entries := by
  have hfound : ∀ {entries : List (κ × α)}, (entries.map (·.1)).Nodup →
      (key, value) ∈ entries → entries.lookup key = some value := by
    intro entries hnodup hmem
    induction entries with
    | nil => cases hmem
    | cons entry entries ih =>
      rw [List.map_cons, List.nodup_cons] at hnodup
      rcases List.mem_cons.1 hmem with rfl | hmem
      · exact List.lookup_cons_self
      · have hne : key ≠ entry.1 := fun heq =>
          hnodup.1 (heq ▸ List.mem_map_of_mem (f := (·.1)) hmem)
        rw [List.lookup_cons, beq_eq_false_iff_ne.2 hne]
        exact ih hnodup.2 hmem
  constructor
  · intro h
    obtain ⟨before, after, hentries, -⟩ := List.lookup_eq_some_iff.1 h
    simp [hentries]
  · exact hfound c.nodup

theorem use_eq_none : c.use key = none ↔ c.get? key = none := by
  unfold use
  split
  · next h => simp [h]
  · next h => simp [h]

theorem use_eq_some (h : c.use key = some (value, c')) : c.get? key = some value ∧
    ∀ entry, entry ∈ c'.entries ↔ entry ∈ c.entries := by
  unfold use at h
  split at h
  · cases h
  · next found hfound =>
    cases h
    refine ⟨hfound, fun entry => ?_⟩
    have hmem := get?_eq_some_iff.1 hfound
    dsimp only
    rw [hit, List.mem_cons, List.mem_filter, decide_eq_true_iff]
    constructor
    · rintro (rfl | ⟨hentry, -⟩)
      · exact hmem
      · exact hentry
    · intro hentry
      by_cases hkey : entry.1 = key
      · left
        have hsame := get?_eq_some_iff.2 hentry
        rw [hkey, hfound] at hsame
        exact Prod.ext hkey (Option.some.inj hsame).symm
      · exact .inr ⟨hentry, hkey⟩

theorem get?_use (h : c.use key = some (value, c')) (other : κ) :
    c'.get? other = c.get? other := by
  apply Option.ext
  intro found
  rw [get?_eq_some_iff, get?_eq_some_iff, (use_eq_some h).2]

theorem get?_add (hroom : c.entries.length < maxsize) (key other : κ) (value : α) :
    (c.add key value).get? other =
      if other = key then some ((c.get? key).getD value) else c.get? other := by
  unfold get? add added
  dsimp only
  split
  · next hold =>
    obtain ⟨found, hfound⟩ := Option.isSome_iff_exists.1 (hold.resolve_right (by omega))
    split
    · next heq =>
      rw [get?] at hfound
      rw [heq, hfound, Option.getD_some]
    · rfl
  · next hnew =>
    have hnone : c.entries.lookup key = none := by
      rw [not_or, Option.not_isSome_iff_eq_none] at hnew
      exact hnew.1
    rw [List.take_of_length_le (by omega), List.lookup_cons]
    split
    · next heq =>
      rw [if_pos (beq_iff_eq.1 heq), hnone, Option.getD_none]
    · next hne =>
      rw [if_neg (beq_eq_false_iff_ne.1 hne)]

theorem mem_add {entry : κ × α} (h : entry ∈ (c.add key value).entries) :
    entry ∈ c.entries ∨ entry = (key, value) := by
  unfold add added at h
  dsimp only at h
  split at h
  · exact .inl h
  · rcases List.mem_cons.1 h with rfl | h
    · exact .inr rfl
    · exact .inl (List.mem_of_mem_take h)

end

end LruCache

end Salgil
