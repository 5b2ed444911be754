import Mathlib.Data.List.Basic

namespace Salgil
set_option autoImplicit true

/-- Every state that a run passes through satisfies `P`. -/
def Throughout (step : S → A → S) (P : S → Prop) (s : S) (l : List A) : Prop :=
  ∀ before after, l = before ++ after → P (before.foldl step s)

/-- Every step of a run is allowed in the state in which it is taken. -/
def AllAllowed (step : S → A → S) (Allowed : S → A → Prop) (s : S) (l : List A) : Prop :=
  ∀ before a after, l = before ++ a :: after → Allowed (before.foldl step s) a

section
variable {step : S → A → S} {P Inv : S → Prop} {Allowed : S → A → Prop} {s : S} {a : A}
variable {l : List A}

theorem throughout_nil : Throughout step P s [] ↔ P s := by
  constructor
  · intro h
    exact h [] [] rfl
  · intro h before after hl
    obtain ⟨rfl, -⟩ := List.append_eq_nil_iff.1 hl.symm
    exact h

theorem throughout_cons :
    Throughout step P s (a :: l) ↔ P s ∧ Throughout step P (step s a) l := by
  constructor
  · intro h
    refine ⟨h [] _ rfl, ?_⟩
    rintro before after rfl
    exact h (a :: before) after rfl
  · rintro ⟨hs, h⟩ before after hl
    cases before with
    | nil => exact hs
    | cons b before =>
      obtain ⟨rfl, rfl⟩ := List.cons.inj hl
      exact h before after rfl

theorem allAllowed_nil : AllAllowed step Allowed s [] := by
  intro before a after hl
  simp at hl

theorem allAllowed_cons : AllAllowed step Allowed s (a :: l) ↔
    Allowed s a ∧ AllAllowed step Allowed (step s a) l := by
  constructor
  · intro h
    refine ⟨h [] a l rfl, ?_⟩
    rintro before b after rfl
    exact h (a :: before) b after rfl
  · rintro ⟨ha, h⟩ before b after hl
    cases before with
    | nil =>
      obtain ⟨rfl, -⟩ := List.cons.inj hl
      exact ha
    | cons c before =>
      obtain ⟨rfl, rfl⟩ := List.cons.inj hl
      exact h before b after rfl

theorem foldl_snoc (l done : List A) : l.foldl (fun done a => done ++ [a]) done = done ++ l := by
  induction l generalizing done with
  | nil => simp
  | cons a l ih => simp [ih]

/-- What holds at the end of a run held at its start, or came about in one of its steps. -/
theorem foldl_arises (h : P (l.foldl step s)) :
    P s ∨ ∃ before a after, l = before ++ a :: after ∧ ¬ P (before.foldl step s) ∧
      P (step (before.foldl step s) a) := by
  induction l generalizing s with
  | nil => exact .inl h
  | cons a l ih =>
    rcases ih h with hstep | ⟨before, b, after, rfl, hnot, hb⟩
    · by_cases hs : P s
      · exact .inl hs
      · exact .inr ⟨[], a, l, rfl, hs, hstep⟩
    · exact .inr ⟨a :: before, b, after, rfl, hnot, hb⟩

theorem allAllowed_snoc_iff {Allowed : List A → A → Prop} :
    AllAllowed (fun done a => done ++ [a]) Allowed [] l ↔
      ∀ before a after, l = before ++ a :: after → Allowed before a := by
  simp only [AllAllowed, foldl_snoc, List.nil_append]

/-- Where the allowed steps are just those that keep `P`, a run keeps it throughout just if all
its steps are allowed. -/
theorem throughout_iff_allAllowed (hinv : ∀ s a, Inv s → Inv (step s a))
    (hstep : ∀ s a, Inv s → P s → (P (step s a) ↔ Allowed s a)) (hs : Inv s) (hP : P s) :
    Throughout step P s l ↔ AllAllowed step Allowed s l := by
  induction l generalizing s with
  | nil => exact iff_of_true (throughout_nil.2 hP) allAllowed_nil
  | cons a l ih =>
    rw [throughout_cons, allAllowed_cons, ← hstep s a hs hP]
    constructor
    · rintro ⟨-, h⟩
      have hP' : P (step s a) := h [] l rfl
      exact ⟨hP', (ih (hinv s a hs) hP').1 h⟩
    · rintro ⟨hP', h⟩
      exact ⟨hP, (ih (hinv s a hs) hP').2 h⟩

end

end Salgil
