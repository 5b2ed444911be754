import Mathlib.Algebra.Order.Floor.Ring
import Mathlib.Algebra.Order.Field.Basic
import Mathlib.Data.List.Forall2
import Mathlib.Logic.Function.Basic

namespace Salgil
set_option autoImplicit true

/-- The errors the service raises itself, each with its detail text. -/
inductive SalgilError where
  | upstream (detail : String)
  | notFound (detail : String)
  | conflict (detail : String)
  | validation (detail : String)
  deriving DecidableEq, Repr

/-- What a call may end with instead of a value. `outOfFuel` is the model's own: a loop has not
ended within the given number of rounds. -/
inductive PyError where
  | outOfFuel
  | indexError
  | keyError
  | valueError (message : String)
  | overflowError (message : String)
  | pydantic
  | integrityError
  | databaseError
  | salgil (error : SalgilError)
  deriving DecidableEq, Repr

-- The numerals that definitions of several modules share: a named instance leaves no proof of its
-- own in a definition.
instance atLeastTwo_2 : Nat.AtLeastTwo 2 := ⟨by decide⟩
instance atLeastTwo_5 : Nat.AtLeastTwo 5 := ⟨by decide⟩
instance atLeastTwo_10 : Nat.AtLeastTwo 10 := ⟨by decide⟩
instance atLeastTwo_36 : Nat.AtLeastTwo 36 := ⟨by decide⟩
instance atLeastTwo_37 : Nat.AtLeastTwo 37 := ⟨by decide⟩
instance atLeastTwo_60 : Nat.AtLeastTwo 60 := ⟨by decide⟩
instance atLeastTwo_120 : Nat.AtLeastTwo 120 := ⟨by decide⟩
instance atLeastTwo_128 : Nat.AtLeastTwo 128 := ⟨by decide⟩
instance atLeastTwo_129 : Nat.AtLeastTwo 129 := ⟨by decide⟩
instance atLeastTwo_130 : Nat.AtLeastTwo 130 := ⟨by decide⟩
instance atLeastTwo_180 : Nat.AtLeastTwo 180 := ⟨by decide⟩
instance atLeastTwo_1000 : Nat.AtLeastTwo 1000 := ⟨by decide⟩
instance atLeastTwo_2000 : Nat.AtLeastTwo 2000 := ⟨by decide⟩
instance atLeastTwo_111320 : Nat.AtLeastTwo 111320 := ⟨by decide⟩
instance atLeastTwo_63710088 : Nat.AtLeastTwo 63710088 := ⟨by decide⟩

section Results
variable {ε : Type u} {α β : Type v}

@[simp] theorem pure_eq_ok (a : α) : (pure a : Except ε α) = .ok a := rfl

@[simp] theorem ok_bind (a : α) (f : α → Except ε β) : (Except.ok a >>= f) = f a := rfl

@[simp] theorem error_bind (e : ε) (f : α → Except ε β) :
    (Except.error e >>= f) = Except.error e := rfl

theorem bind_eq_ok {x : Except ε α} {f : α → Except ε β} {b : β} :
    x >>= f = .ok b ↔ ∃ a, x = .ok a ∧ f a = .ok b := by
  cases x <;> simp

theorem forall₂_getElem? {R : α → β → Prop} {l : List α} {l' : List β} (h : List.Forall₂ R l l')
    (k : ℕ) : (l[k]? = none ∧ l'[k]? = none) ∨ ∃ a b, l[k]? = some a ∧ l'[k]? = some b ∧ R a b := by
  obtain ⟨hlength, hget⟩ := List.forall₂_iff_get.1 h
  by_cases hk : k < l.length
  · have hk' : k < l'.length := hlength ▸ hk
    exact .inr ⟨l[k], l'[k], List.getElem?_eq_getElem hk, List.getElem?_eq_getElem hk',
      hget k hk hk'⟩
  · exact .inl ⟨List.getElem?_eq_none (by omega), List.getElem?_eq_none (by omega)⟩

theorem forall₂_common {R : α → γ → Prop} {S : β → γ → Prop} {l : List α} {l' : List β}
    {m : List γ} (h : List.Forall₂ R l m) (h' : List.Forall₂ S l' m) :
    List.Forall₂ (fun a b => ∃ c, R a c ∧ S b c) l l' := by
  induction h generalizing l' with
  | nil =>
    cases h'
    exact .nil
  | cons ha h ih =>
    cases h' with
    | cons hb h' => exact .cons ⟨_, ha, hb⟩ (ih h')

theorem forall₂_of_common {R : α → γ → Prop} {S : β → γ → Prop} {l : List α} {l' : List β}
    {m : List γ} (hR : ∀ a c c', R a c → R a c' → c = c') (h : List.Forall₂ R l m)
    (h' : List.Forall₂ (fun a b => ∃ c, R a c ∧ S b c) l l') : List.Forall₂ S l' m := by
  induction h generalizing l' with
  | nil =>
    cases h'
    exact .nil
  | cons ha h ih =>
    cases h' with
    | cons hb h' =>
      obtain ⟨c, hac, hbc⟩ := hb
      rw [hR _ _ _ ha hac]
      exact .cons hbc (ih h')

theorem mapM_eq_ok {f : γ → Except ε β} {l : List γ} {l' : List β} :
    l.mapM f = .ok l' ↔ List.Forall₂ (fun a b => f a = .ok b) l l' := by
  induction l generalizing l' with
  | nil =>
    cases l' with
    | nil => simp
    | cons b l' => simp
  | cons a l ih =>
    rw [List.mapM_cons]
    constructor
    · intro h
      obtain ⟨b, hb, h⟩ := bind_eq_ok.1 h
      obtain ⟨bs, hbs, h⟩ := bind_eq_ok.1 h
      cases h
      exact .cons hb (ih.1 hbs)
    · intro h
      cases h with
      | cons hb hbs => rw [hb, ok_bind, ih.2 hbs, ok_bind, pure_eq_ok]

theorem mem_of_mapM_eq_ok {f : γ → Except ε β} {l : List γ} {l' : List β} {b : β}
    (h : l.mapM f = .ok l') (hb : b ∈ l') : ∃ a ∈ l, f a = .ok b := by
  obtain ⟨n, hn, rfl⟩ := List.getElem_of_mem hb
  obtain ⟨hlength, hget⟩ := List.forall₂_iff_get.1 (mapM_eq_ok.1 h)
  exact ⟨l[n], List.getElem_mem (hlength ▸ hn), hget n (hlength ▸ hn) hn⟩

theorem exists_mapM_eq_ok {f : γ → Except ε β} {l : List γ} (h : ∀ a ∈ l, ∃ b, f a = .ok b) :
    ∃ l', l.mapM f = .ok l' := by
  induction l with
  | nil => exact ⟨[], rfl⟩
  | cons a l ih =>
    obtain ⟨⟨b, hb⟩, hl⟩ := List.forall_mem_cons.1 h
    obtain ⟨l', hl'⟩ := ih hl
    exact ⟨b :: l', mapM_eq_ok.2 (.cons hb (mapM_eq_ok.1 hl'))⟩

theorem exists_mem_of_mapM_eq_ok {f : γ → Except ε β} {l : List γ} {l' : List β} {a : γ}
    (h : l.mapM f = .ok l') (ha : a ∈ l) : ∃ b ∈ l', f a = .ok b := by
  obtain ⟨n, hn, rfl⟩ := List.getElem_of_mem ha
  obtain ⟨hlength, hget⟩ := List.forall₂_iff_get.1 (mapM_eq_ok.1 h)
  exact ⟨l'[n], List.getElem_mem (hlength ▸ hn), hget n hn (hlength ▸ hn)⟩

/-- A call returns a value with `P` or raises an error with `E`. -/
def Ends (E : ε → Prop) (P : α → Prop) : Except ε α → Prop
  | .ok a => P a
  | .error e => E e

namespace Ends
variable {E : ε → Prop} {P P' : α → Prop} {Q : β → Prop} {x : Except ε α}

@[simp] theorem ok_iff {a : α} : Ends E P (.ok a) ↔ P a := .rfl

@[simp] theorem error_iff {e : ε} : Ends E P (.error e) ↔ E e := .rfl

theorem of_ok {a : α} (h : Ends E P x) (hx : x = .ok a) : P a := by
  subst hx
  exact h

theorem of_error {e : ε} (h : Ends E P x) (hx : x = .error e) : E e := by
  subst hx
  exact h

theorem mono (h : Ends E P x) (hP : ∀ a, P a → P' a) : Ends E P' x := by
  cases x with
  | ok a => exact hP a h
  | error e => exact h

theorem bind {f : α → Except ε β} (h : Ends E P x) (hf : ∀ a, P a → Ends E Q (f a)) :
    Ends E Q (x >>= f) := by
  cases x with
  | ok a => exact hf a h
  | error e => exact h

theorem exists_ok (h : Ends (fun _ => False) P x) : ∃ a, x = .ok a ∧ P a := by
  cases x with
  | ok a => exact ⟨a, rfl, h⟩
  | error e => exact h.elim

theorem foldlM {γ : Type w} {f : β → γ → Except ε β} {R : List γ → β → Prop} {l : List γ} {b : β}
    (hb : R [] b)
    (hstep : ∀ done x b, x ∈ l → R done b → Ends E (R (done ++ [x])) (f b x)) :
    Ends E (R l) (l.foldlM f b) := by
  suffices h : ∀ rest done b, done ++ rest = l → R done b →
      Ends E (R l) (rest.foldlM f b) from h l [] b rfl hb
  intro rest
  induction rest with
  | nil =>
    intro done b hl hb
    rw [List.append_nil] at hl
    exact hl ▸ hb
  | cons x rest ih =>
    intro done b hl hb
    have hx : x ∈ l := by
      rw [← hl]
      exact List.mem_append_right _ List.mem_cons_self
    rw [List.foldlM_cons]
    exact (hstep done x b hx hb).bind fun b' hb' => ih (done ++ [x]) b' (by simp [hl]) hb'

end Ends

/-- Two calls end alike: with the same error, or with related values. -/
def Together (R : α → β → Prop) : Except ε α → Except ε β → Prop
  | .ok a, .ok b => R a b
  | .error e, .error e' => e = e'
  | _, _ => False

namespace Together
variable {R : α → β → Prop} {x : Except ε α} {y : Except ε β}

theorem bind {γ δ : Type v} {S : γ → δ → Prop} {f : α → Except ε γ} {g : β → Except ε δ}
    (h : Together R x y) (hfg : ∀ a b, R a b → Together S (f a) (g b)) :
    Together S (x >>= f) (y >>= g) := by
  cases x with
  | ok a =>
    cases y with
    | ok b => exact hfg a b h
    | error e => exact h.elim
  | error e =>
    cases y with
    | ok b => exact h.elim
    | error e' => exact h

theorem foldlM {γ : Type w} {f : α → γ → Except ε α} {g : β → γ → Except ε β} {l : List γ} {a : α}
    {b : β} (hab : R a b) (hstep : ∀ x a b, R a b → Together R (f a x) (g b x)) :
    Together R (l.foldlM f a) (l.foldlM g b) := by
  induction l generalizing a b with
  | nil => exact hab
  | cons x l ih =>
    rw [List.foldlM_cons, List.foldlM_cons]
    exact (hstep x a b hab).bind fun _ _ => ih

theorem mapError {φ : Type u} (h : Together R x y) (f : ε → φ) :
    Together R (x.mapError f) (y.mapError f) := by
  cases x with
  | ok a =>
    cases y with
    | ok b => exact h
    | error e => exact h.elim
  | error e =>
    cases y with
    | ok b => exact h.elim
    | error e' => exact congrArg f h

theorem refl {S : α → α → Prop} (h : ∀ a, S a a) (x : Except ε α) : Together S x x := by
  cases x with
  | ok a => exact h a
  | error e => rfl

end Together

end Results

/-- The part of Python's `math` module the routing code calls. -/
class MathLib (K : Type u) where
  pi : K
  sin : K → K
  cos : K → K
  asin : K → K
  sqrt : K → K
  exp : K → K

section Numbers
variable {K : Type u} [Field K] [LinearOrder K] [IsStrictOrderedRing K] [FloorRing K]

/-- `int(x)` truncates towards zero. -/
def pyInt (x : K) : ℤ := if 0 ≤ x then ⌊x⌋ else ⌈x⌉

def roundHalfEven (x : K) : ℤ :=
  let n := ⌊x⌋
  if x - n < 1 / 2 then n
  else if 1 / 2 < x - n then n + 1
  else if n % 2 = 0 then n else n + 1

/-- `round(x, digits)`. -/
def pyRound (digits : ℕ) (x : K) : K := roundHalfEven (x * 10 ^ digits) / 10 ^ digits

/-- `f"{x:.<digits>f}"`. -/
def formatFixed (digits : ℕ) (x : K) : String :=
  let m := (roundHalfEven (|x| * 10 ^ digits)).toNat
  let sign := if x < 0 then "-" else ""
  let fraction := toString (m % 10 ^ digits)
  if digits = 0 then sign ++ toString m
  else sign ++ toString (m / 10 ^ digits) ++ "." ++
    "".pushn '0' (digits - fraction.length) ++ fraction

def radians [MathLib K] (x : K) : K := x * (MathLib.pi / 180)

theorem pyRound_eq_self {digits : ℕ} {x : K} {n : ℤ} (h : x * 10 ^ digits = n) :
    pyRound digits x = x := by
  have h10 : (10 : K) ^ digits ≠ 0 := pow_ne_zero _ (by norm_num)
  have hr : roundHalfEven (x * 10 ^ digits) = n := by
    rw [h]
    simp [roundHalfEven]
  rw [pyRound, hr, ← h, mul_div_cancel_right₀ _ h10]

theorem pyRound_zero (digits : ℕ) : pyRound digits (0 : K) = 0 :=
  pyRound_eq_self (n := 0) (by simp)

omit [IsStrictOrderedRing K] in
theorem floor_le_roundHalfEven (x : K) : ⌊x⌋ ≤ roundHalfEven x := by
  simp only [roundHalfEven]
  split
  · exact le_rfl
  · split
    · exact (lt_add_one _).le
    · split
      · exact le_rfl
      · exact (lt_add_one _).le

theorem le_pyRound {digits : ℕ} {x : K} {n : ℤ} (h : n ≤ x * 10 ^ digits) :
    n / 10 ^ digits ≤ pyRound digits x := by
  have hn : n ≤ roundHalfEven (x * 10 ^ digits) :=
    (Int.le_floor.2 h).trans (floor_le_roundHalfEven _)
  exact div_le_div_of_nonneg_right (Int.cast_le.2 hn) (by positivity)

end Numbers

/-- `l[i]`, where a negative index counts from the end. -/
def pyGetItem (l : List α) (i : ℤ) : Except PyError α :=
  let j := if i < 0 then i + l.length else i
  if j < 0 then .error .indexError
  else match l[j.toNat]? with
    | some x => .ok x
    | none => .error .indexError

theorem pyGetItem_ok {l : List α} {i : ℤ} (h0 : 0 ≤ i) (h : i < l.length) :
    ∃ x, pyGetItem l i = .ok x := by
  have hi : i.toNat < l.length := by omega
  refine ⟨l[i.toNat], ?_⟩
  simp only [pyGetItem, not_lt.2 h0, ↓reduceIte, List.getElem?_eq_getElem hi]

/-- Every `step`-th element, from the first one on. -/
def everyNth (step : ℕ) : List α → ℕ → List α
  | [], _ => []
  | x :: l, 0 => x :: everyNth step l (step - 1)
  | _ :: l, skip + 1 => everyNth step l skip

/-- `l[start::step]` for a positive step. -/
def pySliceStep (l : List α) (start : ℤ) (step : ℕ) : List α :=
  let first := if start < 0 then start + l.length else start
  everyNth step l first.toNat

theorem length_everyNth (step : ℕ) {l : List α} {l' : List β} (h : l.length = l'.length)
    (skip : ℕ) : (everyNth step l skip).length = (everyNth step l' skip).length := by
  induction l generalizing l' skip with
  | nil =>
    obtain rfl := List.length_eq_zero_iff.1 h.symm
    rfl
  | cons x l ih =>
    cases l' with
    | nil => simp at h
    | cons y l' =>
      have hlen : l.length = l'.length := Nat.succ.inj h
      cases skip with
      | zero => simp [everyNth, ih hlen]
      | succ skip => exact ih hlen skip

theorem everyNth_map (f : α → β) (step : ℕ) (l : List α) (skip : ℕ) :
    everyNth step (l.map f) skip = (everyNth step l skip).map f := by
  induction l generalizing skip with
  | nil => rfl
  | cons x l ih =>
    cases skip with
    | zero => simp [everyNth, ih]
    | succ skip => exact ih skip

theorem length_pySliceStep {l : List α} {l' : List β} (h : l.length = l'.length) (start : ℤ)
    (step : ℕ) : (pySliceStep l start step).length = (pySliceStep l' start step).length := by
  simp only [pySliceStep, h]
  exact length_everyNth step h _

/-- `l[:stop]`, where a negative bound counts from the end. -/
def pySliceTo (l : List α) (stop : ℤ) : List α :=
  l.take (if stop < 0 then stop + l.length else stop).toNat

theorem mem_of_mem_pySliceTo {l : List α} {stop : ℤ} {x : α} (h : x ∈ pySliceTo l stop) : x ∈ l :=
  List.mem_of_mem_take h

theorem pySliceTo_natCast (l : List α) (n : ℕ) : pySliceTo l n = l.take n := by
  rw [pySliceTo, if_neg (not_lt.2 (Int.natCast_nonneg n)), Int.toNat_natCast]

/-- A dictionary that remembers the order in which its keys were first set. -/
structure Dict (κ : Type u) (α : Type v) where
  keys : List κ
  get? : κ → Option α
  mem_keys : ∀ k, k ∈ keys ↔ (get? k).isSome
  nodup : keys.Nodup

namespace Dict
variable {κ : Type u} {α : Type v}

def empty : Dict κ α where
  keys := []
  get? := fun _ => none
  mem_keys := by simp
  nodup := List.nodup_nil

variable [DecidableEq κ]

def set (d : Dict κ α) (k : κ) (v : α) : Dict κ α where
  keys := if (d.get? k).isSome then d.keys else d.keys ++ [k]
  get? := Function.update d.get? k (some v)
  mem_keys := by
    intro k'
    by_cases hk : k' = k
    · subst hk
      split
      · simp_all [d.mem_keys]
      · simp
    · rw [Function.update_of_ne hk]
      split
      · exact d.mem_keys k'
      · simp [hk, d.mem_keys]
  nodup := by
    split
    · exact d.nodup
    · next h =>
      refine List.nodup_append.2 ⟨d.nodup, by simp, ?_⟩
      intro a ha b hb hab
      rw [List.mem_singleton.1 hb] at hab
      exact h ((d.mem_keys k).1 (hab ▸ ha))

@[simp] theorem get?_set_self (d : Dict κ α) (k : κ) (v : α) : (d.set k v).get? k = some v :=
  Function.update_self _ _ _

theorem get?_set_of_ne (d : Dict κ α) {k k' : κ} (v : α) (h : k' ≠ k) :
    (d.set k v).get? k' = d.get? k' :=
  Function.update_of_ne h _ _

theorem mem_keys_set (d : Dict κ α) {k k' : κ} (v : α) :
    k' ∈ (d.set k v).keys ↔ k' = k ∨ k' ∈ d.keys := by
  rw [mem_keys, d.mem_keys]
  by_cases h : k' = k
  · simp [h]
  · simp [get?_set_of_ne d v h, h]

/-- `d.pop(k, None)`. -/
def erase (d : Dict κ α) (k : κ) : Dict κ α where
  keys := d.keys.filter (· ≠ k)
  get? := Function.update d.get? k none
  mem_keys := by
    intro k'
    by_cases hk : k' = k
    · simp [hk]
    · simp [hk, d.mem_keys]
  nodup := d.nodup.filter _

theorem get?_erase_eq_some {d : Dict κ α} {k k' : κ} {v : α} :
    (d.erase k).get? k' = some v ↔ k' ≠ k ∧ d.get? k' = some v := by
  by_cases h : k' = k
  · subst h
    simp [erase]
  · simp [erase, h]

theorem length_keys_erase_le (d : Dict κ α) (k : κ) : (d.erase k).keys.length ≤ d.keys.length :=
  List.length_filter_le _ _

theorem length_keys_erase_lt {d : Dict κ α} {k : κ} (h : k ∈ d.keys) :
    (d.erase k).keys.length < d.keys.length := by
  apply List.length_filter_lt_length_iff_exists.2
  exact ⟨k, h, by simp⟩

theorem length_keys_set_le (d : Dict κ α) (k : κ) (v : α) :
    (d.set k v).keys.length ≤ d.keys.length + 1 := by
  simp only [set]
  split
  · exact Nat.le_succ _
  · simp

theorem get?_foldl_erase {d : Dict κ α} {ks : List κ} {k : κ} {v : α}
    (h : (ks.foldl erase d).get? k = some v) : d.get? k = some v := by
  induction ks generalizing d with
  | nil => exact h
  | cons k' ks ih => exact (get?_erase_eq_some.1 (ih h)).2

theorem length_keys_foldl_erase_le (d : Dict κ α) (ks : List κ) :
    (ks.foldl erase d).keys.length ≤ d.keys.length := by
  induction ks generalizing d with
  | nil => exact le_rfl
  | cons k ks ih => exact (ih _).trans (d.length_keys_erase_le k)

end Dict

end Salgil
