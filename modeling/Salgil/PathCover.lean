import Mathlib.Algebra.Order.Group.Defs
import Mathlib.Algebra.Order.Monoid.Unbundled.Basic
import Mathlib.Data.List.Infix
import Mathlib.Order.Bounds.Basic
import Mathlib.Algebra.Order.Archimedean.Basic
import Mathlib.Data.Set.Finite.Lattice
import Mathlib.Data.Set.Finite.Lemmas
import Mathlib.Data.Set.Finite.List

namespace Salgil
set_option autoImplicit true
set_option linter.unusedSectionVars false

/-- A walk along weighted edges, with its total length. -/
inductive LengthWalk [AddZeroClass K] (W : ν → ν → K → Prop) (u : ν) : ν → K → Prop where
  | refl : LengthWalk W u u 0
  | tail : LengthWalk W u a c → W a b d → LengthWalk W u b (c + d)

/-- The length of a path given by its nodes. -/
def pathLength [AddZeroClass K] (len : ν → ν → K) : List ν → K
  | a :: b :: p => len a b + pathLength len (b :: p)
  | _ => 0

section Paths
variable {ν : Type u} {K : Type v} [AddCommGroup K] {W W' : ν → ν → K → Prop} {len : ν → ν → K}

@[simp] theorem pathLength_singleton (a : ν) : pathLength len [a] = 0 := rfl

@[simp] theorem pathLength_cons_cons (a b : ν) (p : List ν) :
    pathLength len (a :: b :: p) = len a b + pathLength len (b :: p) := rfl

theorem LengthWalk.trans (h : LengthWalk W u v c) (h' : LengthWalk W v w d) :
    LengthWalk W u w (c + d) := by
  induction h' with
  | refl => rwa [add_zero]
  | tail _ hw ih =>
    rw [← add_assoc]
    exact .tail ih hw

theorem LengthWalk.bind (h : LengthWalk W u v c) (hW : ∀ a b d, W a b d → LengthWalk W' a b d) :
    LengthWalk W' u v c := by
  induction h with
  | refl => exact .refl
  | tail _ hw ih => exact ih.trans (hW _ _ _ hw)

theorem pathLength_append (p : List ν) (a : ν) (q : List ν) :
    pathLength len (p ++ a :: q) = pathLength len (p ++ [a]) + pathLength len (a :: q) := by
  induction p with
  | nil => simp
  | cons b p ih =>
    cases p with
    | nil => simp
    | cons c p =>
      simp only [List.cons_append, pathLength_cons_cons] at ih ⊢
      rw [ih, add_assoc]

theorem pathLength_reverse (hlen : ∀ a b, len a b = len b a) (p : List ν) :
    pathLength len p.reverse = pathLength len p := by
  induction p with
  | nil => rfl
  | cons a p ih =>
    cases p with
    | nil => rfl
    | cons b p =>
      rw [List.reverse_cons, List.reverse_cons, List.append_assoc, List.singleton_append,
        pathLength_append, ← List.reverse_cons, ih, pathLength_cons_cons, pathLength_cons_cons,
        pathLength_singleton, add_zero, add_comm, hlen]

theorem pathLength_nonneg [PartialOrder K] [IsOrderedAddMonoid K] (hlen : ∀ a b, 0 ≤ len a b)
    (p : List ν) : 0 ≤ pathLength len p := by
  induction p with
  | nil => exact le_rfl
  | cons a p ih =>
    cases p with
    | nil => exact le_rfl
    | cons b p => exact add_nonneg (hlen a b) ih

/-- The edges between adjacent nodes, each as long as `len` says. -/
def adjacentEdges (Adj : ν → ν → Prop) (len : ν → ν → K) (a b : ν) (d : K) : Prop :=
  Adj a b ∧ d = len a b

/-- The edges that stand for whole pieces. A piece lists its nodes from its end to its start. -/
def pieceEdges (Piece : List ν → Prop) (len : ν → ν → K) (a b : ν) (d : K) : Prop :=
  ∃ p, Piece p ∧ p.getLast? = some a ∧ p.head? = some b ∧ d = pathLength len p

theorem LengthWalk.of_path {Adj : ν → ν → Prop} (hsymm : ∀ a b, Adj a b → Adj b a)
    (hlen : ∀ a b, len a b = len b a) {p : List ν} (hp : p.IsChain Adj)
    (ha : p.getLast? = some a) (hb : p.head? = some b) :
    LengthWalk (adjacentEdges Adj len) a b (pathLength len p) := by
  induction p generalizing b with
  | nil => simp at hb
  | cons x p ih =>
    obtain rfl : x = b := Option.some.inj hb
    cases p with
    | nil =>
      obtain rfl : x = a := Option.some.inj ha
      exact .refl
    | cons y p =>
      obtain ⟨hxy, hp⟩ := List.isChain_cons_cons.1 hp
      rw [List.getLast?_cons_cons] at ha
      rw [pathLength_cons_cons, add_comm]
      exact .tail (ih hp ha rfl) ⟨hsymm _ _ hxy, hlen _ _⟩

end Paths

/-- The ends and lengths of the walks of `k` steps from `u`, where `next` lists the edges of a
node. -/
def stepsFrom [AddZeroClass K] (next : ν → List (ν × K)) (u : ν) : ℕ → List (ν × K)
  | 0 => [(u, 0)]
  | k + 1 => (stepsFrom next u k).flatMap fun p => (next p.1).map fun q => (q.1, p.2 + q.2)

section Least
variable {ν : Type u} {K : Type v} [AddCommGroup K] [LinearOrder K] [IsOrderedAddMonoid K]
variable {W : ν → ν → K → Prop} {next : ν → List (ν × K)} {step : K}

theorem lengthWalk_iff_stepsFrom (hW : ∀ a b d, W a b d ↔ (b, d) ∈ next a) :
    LengthWalk W u v c ↔ ∃ k, (v, c) ∈ stepsFrom next u k := by
  constructor
  · intro h
    induction h with
    | refl => exact ⟨0, List.mem_singleton_self _⟩
    | tail _ hw ih =>
      obtain ⟨k, hk⟩ := ih
      exact ⟨k + 1, List.mem_flatMap.2 ⟨_, hk, List.mem_map.2 ⟨_, (hW _ _ _).1 hw, rfl⟩⟩⟩
  · rintro ⟨k, hk⟩
    induction k generalizing v c with
    | zero =>
      obtain ⟨rfl, rfl⟩ := Prod.mk.inj (List.mem_singleton.1 hk)
      exact .refl
    | succ k ih =>
      obtain ⟨p, hp, hq⟩ := List.mem_flatMap.1 hk
      obtain ⟨q, hq', he⟩ := List.mem_map.1 hq
      obtain ⟨rfl, rfl⟩ := Prod.mk.inj he
      exact (ih hp).tail ((hW _ _ _).2 hq')

theorem nsmul_le_of_mem_stepsFrom (hstep : ∀ a b d, (b, d) ∈ next a → step ≤ d) {k : ℕ}
    (h : (v, c) ∈ stepsFrom next u k) : k • step ≤ c := by
  induction k generalizing v c with
  | zero =>
    obtain ⟨rfl, rfl⟩ := Prod.mk.inj (List.mem_singleton.1 h)
    exact (zero_nsmul _).le
  | succ k ih =>
    obtain ⟨p, hp, hq⟩ := List.mem_flatMap.1 h
    obtain ⟨q, hq', he⟩ := List.mem_map.1 hq
    obtain ⟨rfl, rfl⟩ := Prod.mk.inj he
    rw [succ_nsmul]
    exact add_le_add (ih hp) (hstep _ _ _ hq')

/-- Where nodes have finitely many edges and no edge is shorter than some positive length, there
is a shortest walk between any two nodes that some walk joins. -/
theorem LengthWalk.exists_isLeast [Archimedean K] (hW : ∀ a b d, W a b d ↔ (b, d) ∈ next a)
    (hpos : 0 < step) (hstep : ∀ a b d, (b, d) ∈ next a → step ≤ d) (h : LengthWalk W u v c) :
    ∃ d, IsLeast {d | LengthWalk W u v d} d := by
  obtain ⟨N, hN⟩ := Archimedean.arch c hpos
  have hshort : ∀ {d}, LengthWalk W u v d → d ≤ c → ∃ k ≤ N, (v, d) ∈ stepsFrom next u k := by
    intro d hd hle
    obtain ⟨k, hk⟩ := (lengthWalk_iff_stepsFrom hW).1 hd
    refine ⟨k, ?_, hk⟩
    by_contra hlt
    have hmono : N • step < k • step := nsmul_lt_nsmul_left hpos (not_le.1 hlt)
    exact absurd (nsmul_le_of_mem_stepsFrom hstep hk) (not_le.2 ((hle.trans hN).trans_lt hmono))
  have hfinite : Set.Finite {d | ∃ k ≤ N, (v, d) ∈ stepsFrom next u k} := by
    refine ((Set.finite_le_nat N).biUnion fun k _ =>
      ((stepsFrom next u k).finite_toSet.image Prod.snd)).subset ?_
    rintro d ⟨k, hk, hd⟩
    exact Set.mem_biUnion hk ⟨(v, d), hd, rfl⟩
  obtain ⟨d, hd, hmin⟩ := Set.exists_min_image _ id hfinite ⟨c, hshort h le_rfl⟩
  obtain ⟨k, -, hk⟩ := hd
  refine ⟨d, (lengthWalk_iff_stepsFrom hW).2 ⟨k, hk⟩, fun d' hd' => ?_⟩
  rcases le_total d' c with hle | hle
  · exact hmin d' (hshort hd' hle)
  · exact (hmin c (hshort h le_rfl)).trans hle

end Least

/-- The kept nodes cut a graph into pieces: paths between kept nodes that can only be entered and
left at their ends. -/
structure PathCover (Adj : ν → ν → Prop) (Kept : ν → Prop) (Piece : List ν → Prop) : Prop where
  symm : ∀ a b, Adj a b → Adj b a
  reverse : ∀ p, Piece p → Piece p.reverse
  path : ∀ p, Piece p → p.IsChain Adj
  kept : ∀ p b, Piece p → p.head? = some b → Kept b
  inner : ∀ p b x a, Piece p → [b, x, a] <:+: p → ¬ Kept x ∧ ∀ y, Adj x y → y = a ∨ y = b
  start : ∀ x y, Kept x → Adj x y → ∃ p, Piece p ∧ [y, x] <:+ p

section Cover
variable {ν : Type u} {K : Type v} [AddCommGroup K] [LinearOrder K] [IsOrderedAddMonoid K]
variable {Adj : ν → ν → Prop} {Kept : ν → Prop} {Piece : List ν → Prop} {len : ν → ν → K}

/-- What a walk of length `c` from `u` to `x` says about the pieces: `x` is kept and no farther
along pieces, or it lies inside a piece whose start is near enough. -/
inductive PathCover.Near (Kept : ν → Prop) (Piece : List ν → Prop) (len : ν → ν → K) (u x : ν)
    (c : K) : Prop where
  | kept {c' : K} : Kept x → LengthWalk (pieceEdges Piece len) u x c' → c' ≤ c →
      Near Kept Piece len u x c
  | inner {a b s : ν} {p q : List ν} {c' : K} :
      Piece ((b :: q).reverse ++ x :: a :: p) → (a :: p).getLast? = some s →
      LengthWalk (pieceEdges Piece len) u s c' → c' + pathLength len (x :: a :: p) ≤ c →
      Near Kept Piece len u x c

theorem PathCover.Near.step (h : PathCover Adj Kept Piece) (hlen : ∀ a b, len a b = len b a)
    (hpos : ∀ a b, Adj a b → 0 ≤ len a b) (hx : PathCover.Near Kept Piece len u x c)
    (hxy : Adj x y) : PathCover.Near Kept Piece len u y (c + len x y) := by
  have hxy0 := hpos x y hxy
  cases hx with
  | @kept c' hk hw hc =>
    obtain ⟨p, hp, l, rfl⟩ := h.start x y hk hxy
    cases l using List.reverseRecOn with
    | nil =>
      have hedge : pieceEdges Piece len x y (len x y) :=
        ⟨[y, x], hp, rfl, rfl, by simp [hlen y x]⟩
      exact .kept (h.kept _ _ hp rfl) (hw.tail hedge) (add_le_add_left hc _)
    | append_singleton l b =>
      refine .inner (a := x) (b := b) (p := []) (q := l.reverse) ?_ rfl hw ?_
      · simpa using hp
      · simpa [hlen y x] using hc
  | @inner a b s pre suf c' hp hs hw hc =>
    have hinfix : [b, x, a] <:+: (b :: suf).reverse ++ x :: a :: pre :=
      ⟨suf.reverse, pre, by simp⟩
    rcases (h.inner _ _ _ _ hp hinfix).2 y hxy with rfl | rfl
    · -- back towards the start of the piece
      have hle : c' + pathLength len (y :: pre) ≤ c + len x y := by
        rw [pathLength_cons_cons, ← add_assoc, add_right_comm] at hc
        exact (le_add_of_nonneg_right hxy0).trans (hc.trans (le_add_of_nonneg_right hxy0))
      cases pre with
      | nil =>
        obtain rfl : y = s := Option.some.inj hs
        have hk : Kept y := by
          refine h.kept _ _ (h.reverse _ hp) ?_
          simp
        exact .kept hk hw (by simpa using hle)
      | cons a pre =>
        refine .inner (b := x) (q := b :: suf) ?_ (by simpa using hs) hw hle
        simpa using hp
    · -- on towards the end of the piece
      have hle : c' + pathLength len (y :: x :: a :: pre) ≤ c + len x y := by
        rw [pathLength_cons_cons, add_left_comm, hlen y x, add_comm]
        exact add_le_add_left hc _
      cases suf with
      | nil =>
        have hedge : pieceEdges Piece len s y (pathLength len (y :: x :: a :: pre)) :=
          ⟨_, hp, by simpa using hs, rfl, rfl⟩
        exact .kept (h.kept _ _ hp rfl) (hw.tail hedge) hle
      | cons b suf =>
        refine .inner (a := x) (b := b) (p := a :: pre) (q := suf) ?_ ?_ hw hle
        · simpa using hp
        · simpa using hs

theorem PathCover.shortcut (h : PathCover Adj Kept Piece) (hlen : ∀ a b, len a b = len b a)
    (hpos : ∀ a b, Adj a b → 0 ≤ len a b) (hu : Kept u) (hv : Kept v)
    (hw : LengthWalk (adjacentEdges Adj len) u v c) :
    ∃ c', LengthWalk (pieceEdges Piece len) u v c' ∧ c' ≤ c := by
  have hnear : PathCover.Near Kept Piece len u v c := by
    clear hv
    induction hw with
    | refl => exact .kept hu .refl le_rfl
    | tail _ hstep ih =>
      obtain ⟨hadj, rfl⟩ := hstep
      exact ih.step h hlen hpos hadj
  cases hnear with
  | kept _ hw' hle => exact ⟨_, hw', hle⟩
  | @inner a b _ pre suf _ hp =>
    exact absurd hv (h.inner _ b v a hp ⟨suf.reverse, pre, by simp⟩).1

theorem PathCover.expand (h : PathCover Adj Kept Piece) (hlen : ∀ a b, len a b = len b a)
    (hw : LengthWalk (pieceEdges Piece len) u v c) : LengthWalk (adjacentEdges Adj len) u v c := by
  refine hw.bind ?_
  rintro a b d ⟨p, hp, ha, hb, rfl⟩
  exact .of_path h.symm hlen (h.path p hp) ha hb

/-- Between kept nodes the pieces keep the shortest lengths, and whether there is a walk. -/
theorem PathCover.isLeast_iff (h : PathCover Adj Kept Piece) (hlen : ∀ a b, len a b = len b a)
    (hpos : ∀ a b, Adj a b → 0 ≤ len a b) (hu : Kept u) (hv : Kept v) (d : K) :
    IsLeast {c | LengthWalk (pieceEdges Piece len) u v c} d ↔
      IsLeast {c | LengthWalk (adjacentEdges Adj len) u v c} d := by
  constructor
  · rintro ⟨hd, hleast⟩
    refine ⟨h.expand hlen hd, fun c hc => ?_⟩
    obtain ⟨c', hc', hle⟩ := h.shortcut hlen hpos hu hv hc
    exact (hleast hc').trans hle
  · rintro ⟨hd, hleast⟩
    obtain ⟨c, hc, hle⟩ := h.shortcut hlen hpos hu hv hd
    obtain rfl : c = d := le_antisymm hle (hleast (h.expand hlen hc))
    exact ⟨hc, fun c' hc' => hleast (h.expand hlen hc')⟩

end Cover

end Salgil
