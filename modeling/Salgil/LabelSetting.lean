import Salgil.TimedWalk
import Mathlib.Algebra.BigOperators.Group.Finset.Basic
import Mathlib.Data.Multiset.AddSub

namespace Salgil
set_option autoImplicit true

/-- The tentative arrival times of a label-setting search. Entries of the queue that a better
label has overtaken stay in it until they are popped. -/
structure Labels (ν : Type u) (K : Type w) where
  queue : Multiset (K × ν)
  best : ν → Option K
  prev : ν → Option ν

/-- The chain of predecessors from a node back to the source. -/
inductive Chain (prev : ν → Option ν) (src : ν) : List ν → ν → Prop where
  | nil : Chain prev src [] src
  | cons : n ≠ src → prev n = some m → Chain prev src p m → Chain prev src (m :: p) n

theorem Chain.congr {prev prev' : ν → Option ν} (h : Chain prev src p n)
    (hp : ∀ m, m = n ∨ m ∈ p → prev' m = prev m) : Chain prev' src p n := by
  induction h with
  | nil => exact .nil
  | @cons n m p hn hm _ ih =>
    refine .cons hn ((hp n (.inl rfl)).trans hm) (ih ?_)
    intro x hx
    exact hp x (.inr (List.mem_cons.2 hx))

section Search
variable {ν : Type u} {ε : Type v} {K : Type w} [LinearOrder K]
variable {G : TimedGraph ν ε K} {may : K → Prop} {src : ν} {dep : K} {S : List ν}
variable {seen seen' : ν → ε → Prop}

/-- The label of a node is the arrival of a walk along settled nodes, traced by `prev`. -/
def Labels.Routed (G : TimedGraph ν ε K) (may : K → Prop) (src : ν) (dep : K) (S : List ν)
    (l : Labels ν K) (n : ν) (b : K) : Prop :=
  ∃ p, Chain l.prev src p n ∧ G.Walk may src dep p n b ∧ p ⊆ S ∧ (n :: p).Nodup

/-- The invariant of the search. `S` lists the settled nodes, and `seen m e` says that the edge
`e` of the settled node `m` has been looked at. -/
structure Labels.Sound (G : TimedGraph ν ε K) (may : K → Prop) (src : ν) (dep : K)
    (S : List ν) (seen : ν → ε → Prop) (l : Labels ν K) : Prop where
  source : l.best src = some dep
  queued : ∀ {a n}, (a, n) ∈ l.queue → ∃ b, l.best n = some b ∧ b ≤ a
  live : ∀ {n b}, l.best n = some b → n ∉ S → (b, n) ∈ l.queue
  settled : ∀ {n}, n ∈ S → ∃ b, l.best n = some b ∧ ∀ a m, (a, m) ∈ l.queue → b ≤ a
  stale : ∀ {n a b}, n ∈ S → (a, n) ∈ l.queue → l.best n = some b → b < a
  queue_nodup : l.queue.Nodup
  settled_nodup : S.Nodup
  routed : ∀ {n b}, l.best n = some b → l.Routed G may src dep S n b
  complete : ∀ {m t e c}, m ∈ S → l.best m = some t → may t → e ∈ G.edges m → seen m e →
    G.arrive e t = some c → ∃ b, l.best (G.target e) = some b ∧ b ≤ c

variable {l : Labels ν K}

/-- Popping an entry that a better label has overtaken loses nothing. -/
theorem Labels.Sound.skip (h : l.Sound G may src dep S seen) (hq : l.queue = (a, n) ::ₘ q)
    (hb : l.best n = some b) (hlt : b < a) :
    Labels.Sound G may src dep S seen { l with queue := q } where
  source := h.source
  queued hm := h.queued (hq ▸ Multiset.mem_cons_of_mem hm)
  live := by
    intro m c hc hm
    have hmem := h.live hc hm
    rw [hq, Multiset.mem_cons] at hmem
    rcases hmem with he | hmem
    · cases he
      rw [hb] at hc
      exact absurd (Option.some.inj hc) hlt.ne
    · exact hmem
  settled hm := by
    obtain ⟨c, hc, hle⟩ := h.settled hm
    exact ⟨c, hc, fun x m hx => hle x m (hq ▸ Multiset.mem_cons_of_mem hx)⟩
  stale hm hx hc := h.stale hm (hq ▸ Multiset.mem_cons_of_mem hx) hc
  queue_nodup := (Multiset.nodup_cons.1 (hq ▸ h.queue_nodup)).2
  settled_nodup := h.settled_nodup
  routed := h.routed
  complete := h.complete

/-- Popping the least entry of the queue settles its node. -/
theorem Labels.Sound.settle (h : l.Sound G may src dep S seen) (hq : l.queue = (b, n) ::ₘ q)
    (hmin : ∀ a m, (a, m) ∈ q → b ≤ a) (hb : l.best n = some b) :
    n ∉ S ∧ Labels.Sound G may src dep (n :: S) (fun m e => m ≠ n ∧ seen m e)
      { l with queue := q } := by
  have hmem : (b, n) ∈ l.queue := hq ▸ Multiset.mem_cons_self _ _
  have hn : n ∉ S := fun hn => lt_irrefl b (h.stale hn hmem hb)
  have hsub : ∀ {x}, x ∈ q → x ∈ l.queue := fun hx => hq ▸ Multiset.mem_cons_of_mem hx
  have hnd := Multiset.nodup_cons.1 (hq ▸ h.queue_nodup)
  refine ⟨hn, h.source, fun hx => h.queued (hsub hx), ?live, ?settled, ?stale, hnd.2,
    List.nodup_cons.2 ⟨hn, h.settled_nodup⟩, ?routed, ?complete⟩
  case live =>
    intro m c hc hm
    rw [List.mem_cons, not_or] at hm
    have hm' := h.live hc hm.2
    rw [hq, Multiset.mem_cons] at hm'
    rcases hm' with he | hm'
    · cases he
      exact absurd rfl hm.1
    · exact hm'
  case settled =>
    intro m hm
    rcases List.mem_cons.1 hm with rfl | hm
    · exact ⟨b, hb, hmin⟩
    · obtain ⟨c, hc, hle⟩ := h.settled hm
      exact ⟨c, hc, fun x y hx => hle x y (hsub hx)⟩
  case stale =>
    intro m a c hm ha hc
    rcases List.mem_cons.1 hm with rfl | hm
    · -- a second live entry for the node would be the popped one again
      obtain rfl : b = c := Option.some.inj (hb.symm.trans hc)
      refine lt_of_le_of_ne (hmin a _ ha) ?_
      rintro rfl
      exact hnd.1 ha
    · exact h.stale hm (hsub ha) hc
  case routed =>
    intro m c hc
    obtain ⟨p, hp, hw, hs, hd⟩ := h.routed hc
    exact ⟨p, hp, hw, fun x hx => List.mem_cons_of_mem _ (hs hx), hd⟩
  case complete =>
    intro m t e c hm ht hmay he hs ha
    rcases List.mem_cons.1 hm with rfl | hm
    · exact absurd rfl hs.1
    · exact h.complete hm ht hmay he hs.2 ha

theorem Labels.Sound.mono (h : l.Sound G may src dep S seen)
    (hs : ∀ m ∈ S, ∀ e ∈ G.edges m, seen' m e → seen m e) : l.Sound G may src dep S seen' :=
  { h with complete := fun hm ht hmay he hse ha => h.complete hm ht hmay he (hs _ hm _ he hse) ha }

theorem Labels.Sound.see (h : l.Sound G may src dep S seen) (hb : l.best n = some t)
    (hdone : ∀ c, G.arrive e t = some c → ∃ b, l.best (G.target e) = some b ∧ b ≤ c) :
    l.Sound G may src dep S (fun m e' => seen m e' ∨ m = n ∧ e' = e) := by
  refine { h with complete := ?_ }
  intro m t' e' c hm ht' hmay he hs ha
  rcases hs with hs | ⟨rfl, rfl⟩
  · exact h.complete hm ht' hmay he hs ha
  · obtain rfl : t = t' := Option.some.inj (hb.symm.trans ht')
    exact hdone c ha

/-- Any walk either ends at a label that is no later, or the queue still holds an entry that is
no later. -/
theorem Labels.Sound.frontier (h : l.Sound G may src dep S (fun _ _ => True)) (hG : G.Fifo)
    (hm : ∀ {s t}, s ≤ t → may t → may s) (hw : G.Walk may src dep p n t) :
    (∃ b, l.best n = some b ∧ b ≤ t) ∨ ∃ a m, (a, m) ∈ l.queue ∧ a ≤ t := by
  induction hw with
  | nil => exact .inl ⟨dep, h.source, le_rfl⟩
  | @step p n t e t' _ hmay he ha ih =>
    have htt := hG.later he ha
    rcases ih with ⟨b, hb, hbt⟩ | ⟨a, m, hq, hat⟩
    · by_cases hn : n ∈ S
      · obtain ⟨c, hc, hct⟩ := hG.mono he hbt ha
        obtain ⟨b', hb', hle⟩ := h.complete hn hb (hm hbt hmay) he trivial hc
        exact .inl ⟨b', hb', hle.trans hct⟩
      · exact .inr ⟨b, n, h.live hb hn, hbt.trans htt⟩
    · exact .inr ⟨a, m, hq, hat.trans htt⟩

/-- The least entry of the queue, when it is not stale, carries the earliest arrival. -/
theorem Labels.Sound.least (h : l.Sound G may src dep S (fun _ _ => True)) (hG : G.Fifo)
    (hm : ∀ {s t}, s ≤ t → may t → may s) (hb : l.best n = some b)
    (hmin : ∀ a m, (a, m) ∈ l.queue → b ≤ a) : IsLeast (G.arrivals may src dep n) b := by
  constructor
  · obtain ⟨p, _, hw, _⟩ := h.routed hb
    exact ⟨p, hw⟩
  · rintro t ⟨p, hw⟩
    rcases h.frontier hG hm hw with ⟨b', hb', hle⟩ | ⟨a, m, hq, hat⟩
    · rw [hb] at hb'
      cases hb'
      exact hle
    · exact (hmin a m hq).trans hat

theorem Labels.Sound.settled_least (h : l.Sound G may src dep S (fun _ _ => True)) (hG : G.Fifo)
    (hm : ∀ {s t}, s ≤ t → may t → may s) (hn : n ∈ S) (hb : l.best n = some b) :
    IsLeast (G.arrivals may src dep n) b := by
  obtain ⟨b', hb', hle⟩ := h.settled hn
  obtain rfl : b = b' := Option.some.inj (hb.symm.trans hb')
  exact h.least hG hm hb hle

/-- Once the queue is empty the settled nodes are exactly the nodes some walk reaches. -/
theorem Labels.Sound.exhausted (h : l.Sound G may src dep S (fun _ _ => True)) (hG : G.Fifo)
    (hm : ∀ {s t}, s ≤ t → may t → may s) (hq : l.queue = 0) :
    n ∈ S ↔ (G.arrivals may src dep n).Nonempty := by
  constructor
  · intro hn
    obtain ⟨b, hb, -⟩ := h.settled hn
    obtain ⟨p, _, hw, _⟩ := h.routed hb
    exact ⟨b, p, hw⟩
  · rintro ⟨t, p, hw⟩
    rcases h.frontier hG hm hw with ⟨b, hb, -⟩ | ⟨a, m, hmem, -⟩
    · by_contra hn
      have := h.live hb hn
      simp [hq] at this
    · simp [hq] at hmem

end Search

section Relax
variable {ν : Type u} {ε : Type v} {K : Type w} [DecidableEq ν] [LinearOrder K]
variable {G : TimedGraph ν ε K} {may : K → Prop} {src : ν} {dep : K} {S : List ν}

def Labels.init (src : ν) (dep : K) : Labels ν K where
  queue := {(dep, src)}
  best := Function.update (fun _ => none) src (some dep)
  prev := fun _ => none

/-- A candidate arrival at `m` from `n` replaces the label of `m`. -/
def Labels.improve (l : Labels ν K) (n m : ν) (c : K) : Labels ν K where
  queue := (c, m) ::ₘ l.queue
  best := Function.update l.best m (some c)
  prev := Function.update l.prev m (some n)

/-- What looking at one edge of `n`, left at time `t`, does to the labels. -/
inductive Labels.Relaxed (G : TimedGraph ν ε K) (n : ν) (t : K) (e : ε) :
    Labels ν K → Labels ν K → Prop where
  | shut : G.arrive e t = none → Relaxed G n t e l l
  | keep {l : Labels ν K} {b c : K} : G.arrive e t = some c →
      l.best (G.target e) = some b → b ≤ c → Relaxed G n t e l l
  | improve {l : Labels ν K} {c : K} : G.arrive e t = some c →
      (∀ b, l.best (G.target e) = some b → c < b) →
      Relaxed G n t e l (l.improve n (G.target e) c)

theorem Labels.Relaxed.queued {l l' : Labels ν K} (h : Labels.Relaxed G n t e l l') {x : K × ν}
    (hx : x ∈ l'.queue) : x ∈ l.queue ∨ ∃ c, G.arrive e t = some c ∧ x = (c, G.target e) := by
  cases h with
  | shut _ => exact .inl hx
  | keep _ _ _ => exact .inl hx
  | improve hc _ =>
    rcases Multiset.mem_cons.1 hx with rfl | hx
    · exact .inr ⟨_, hc, rfl⟩
    · exact .inl hx

theorem Labels.init_sound :
    (Labels.init src dep).Sound G may src dep [] (fun _ _ => True) where
  source := by simp [init]
  queued := by
    intro a n h
    simp only [init, Multiset.mem_singleton, Prod.mk.injEq] at h
    obtain ⟨rfl, rfl⟩ := h
    exact ⟨a, by simp [init], le_rfl⟩
  live := by
    intro n b h _
    by_cases hn : n = src
    · subst hn
      simp only [init, Function.update_self, Option.some.injEq] at h
      simp [init, h]
    · simp [init, Function.update_of_ne hn] at h
  settled := by simp
  stale := by simp
  queue_nodup := Multiset.nodup_singleton _
  settled_nodup := List.nodup_nil
  routed := by
    intro n b h
    by_cases hn : n = src
    · subst hn
      simp only [init, Function.update_self, Option.some.injEq] at h
      exact h ▸ ⟨[], .nil, .nil, List.nil_subset _, List.nodup_singleton _⟩
    · simp [init, Function.update_of_ne hn] at h
  complete := by simp

variable {seen : ν → ε → Prop} {l l' : Labels ν K}

theorem Labels.Sound.improve_routed (h : l.Sound G may src dep S seen) (hn : n ∈ S)
    (hb : l.best n = some t) (hmay : may t) (he : e ∈ G.edges n) (ha : G.arrive e t = some c)
    (hsrc : src ≠ G.target e) (hx : ∀ m ∈ S, m ≠ G.target e) {m : ν} {b : K}
    (hmb : (l.improve n (G.target e) c).best m = some b) :
    (l.improve n (G.target e) c).Routed G may src dep S m b := by
  have hprev : ∀ m, m ≠ G.target e → (l.improve n (G.target e) c).prev m = l.prev m :=
    fun m hm => Function.update_of_ne hm _ _
  by_cases hme : m = G.target e
  · subst hme
    have hnew : (l.improve n (G.target e) c).best (G.target e) = some c :=
      Function.update_self _ _ _
    obtain rfl : c = b := Option.some.inj (hnew.symm.trans hmb)
    obtain ⟨p, hp, hw, hsub, hd⟩ := h.routed hb
    have hnp : n :: p ⊆ S := List.cons_subset.2 ⟨hn, hsub⟩
    have hne : G.target e ∉ n :: p := fun hmem => hx _ (hnp hmem) rfl
    refine ⟨n :: p, .cons hsrc.symm (Function.update_self _ _ _) ?_, .step hw hmay he ha, hnp,
      List.nodup_cons.2 ⟨hne, hd⟩⟩
    refine hp.congr ?_
    rintro x (rfl | hxp)
    · exact hprev _ (hx _ hn)
    · exact hprev _ (hx _ (hsub hxp))
  · have hkeep : (l.improve n (G.target e) c).best m = l.best m := Function.update_of_ne hme _ _
    obtain ⟨p, hp, hw, hsub, hd⟩ := h.routed (hkeep.symm.trans hmb)
    refine ⟨p, hp.congr ?_, hw, hsub, hd⟩
    rintro x (rfl | hxp)
    · exact hprev _ hme
    · exact hprev _ (hx _ (hsub hxp))

theorem Labels.Sound.improve (h : l.Sound G may src dep S seen) (hG : G.Fifo) (hn : n ∈ S)
    (hb : l.best n = some t) (hmay : may t) (htop : ∀ {m b}, m ∈ S → l.best m = some b → b ≤ t)
    (he : e ∈ G.edges n) (ha : G.arrive e t = some c)
    (hlt : ∀ b, l.best (G.target e) = some b → c < b) :
    (l.improve n (G.target e) c).Sound G may src dep S (fun m e' => seen m e' ∨ m = n ∧ e' = e) ∧
      ∀ m ∈ S, (l.improve n (G.target e) c).best m = l.best m := by
  have htc : t ≤ c := hG.later he ha
  -- a settled node already has a label no later than the candidate, and so has the source
  have hx : ∀ m ∈ S, m ≠ G.target e := by
    rintro m hm rfl
    obtain ⟨b, hmb, -⟩ := h.settled hm
    exact absurd ((htop hm hmb).trans htc) (not_le.2 (hlt b hmb))
  have hsrc : src ≠ G.target e := by
    intro hs
    obtain ⟨p, _, hw, _⟩ := h.routed hb
    exact absurd ((hw.dep_le hG).trans htc) (not_le.2 (hlt dep (hs ▸ h.source)))
  have hkeep : ∀ m, m ≠ G.target e → (l.improve n (G.target e) c).best m = l.best m :=
    fun m hm => Function.update_of_ne hm _ _
  have hnew : (l.improve n (G.target e) c).best (G.target e) = some c :=
    Function.update_self _ _ _
  have hqn : ∀ {a m}, (a, m) ∈ (l.improve n (G.target e) c).queue →
      (a = c ∧ m = G.target e) ∨ (a, m) ∈ l.queue := by
    intro a m ham
    simpa [Labels.improve] using ham
  have hq : ∀ {x}, x ∈ l.queue → x ∈ (l.improve n (G.target e) c).queue :=
    fun hx => Multiset.mem_cons_of_mem hx
  refine ⟨⟨(hkeep src hsrc).trans h.source, ?queued, ?live, ?settled, ?stale, ?queue_nodup,
    h.settled_nodup, h.improve_routed hn hb hmay he ha hsrc hx, ?complete⟩,
    fun m hm => hkeep m (hx m hm)⟩
  case queued =>
    intro a m ham
    rcases hqn ham with ⟨rfl, rfl⟩ | ham
    · exact ⟨a, hnew, le_rfl⟩
    · obtain ⟨b, hmb, hba⟩ := h.queued ham
      by_cases hm : m = G.target e
      · subst hm
        exact ⟨c, hnew, (hlt b hmb).le.trans hba⟩
      · exact ⟨b, (hkeep m hm).trans hmb, hba⟩
  case live =>
    intro m b hmb hm
    by_cases hme : m = G.target e
    · subst hme
      obtain rfl : c = b := Option.some.inj (hnew.symm.trans hmb)
      exact Multiset.mem_cons_self _ _
    · exact hq (h.live ((hkeep m hme).symm.trans hmb) hm)
  case settled =>
    intro m hm
    obtain ⟨b, hmb, hle⟩ := h.settled hm
    refine ⟨b, (hkeep m (hx m hm)).trans hmb, ?_⟩
    intro a k hak
    rcases hqn hak with ⟨rfl, rfl⟩ | hak
    · exact (htop hm hmb).trans htc
    · exact hle a k hak
  case stale =>
    intro m a b hm ham hmb
    rcases hqn ham with ⟨rfl, rfl⟩ | ham
    · exact absurd rfl (hx _ hm)
    · exact h.stale hm ham ((hkeep m (hx m hm)).symm.trans hmb)
  case queue_nodup =>
    refine Multiset.nodup_cons.2 ⟨?_, h.queue_nodup⟩
    intro hmem
    obtain ⟨b, hmb, hle⟩ := h.queued hmem
    exact absurd hle (not_le.2 (hlt b hmb))
  case complete =>
    intro m t' e' c' hm ht' hmay' he' hs ha'
    rw [hkeep m (hx m hm)] at ht'
    by_cases hte : G.target e' = G.target e
    · refine ⟨c, hte ▸ hnew, ?_⟩
      rcases hs with hs | ⟨rfl, rfl⟩
      · obtain ⟨b, hmb, hle⟩ := h.complete hm ht' hmay' he' hs ha'
        exact (hlt b (hte ▸ hmb)).le.trans hle
      · obtain rfl : t = t' := Option.some.inj (hb.symm.trans ht')
        exact (Option.some.inj (ha.symm.trans ha')).le
    · rw [hkeep _ hte]
      rcases hs with hs | ⟨rfl, rfl⟩
      · exact h.complete hm ht' hmay' he' hs ha'
      · exact absurd rfl hte

/-- Looking at one edge of the node just settled keeps the invariant, and no settled node's
label changes. -/
theorem Labels.Sound.relax (h : l.Sound G may src dep S seen) (hG : G.Fifo) (hn : n ∈ S)
    (hb : l.best n = some t) (hmay : may t) (htop : ∀ {m b}, m ∈ S → l.best m = some b → b ≤ t)
    (he : e ∈ G.edges n) (hr : Labels.Relaxed G n t e l l') :
    l'.Sound G may src dep S (fun m e' => seen m e' ∨ m = n ∧ e' = e) ∧
      ∀ m ∈ S, l'.best m = l.best m := by
  cases hr with
  | shut ha => exact ⟨h.see hb fun c hc => absurd (ha.symm.trans hc) (by simp), fun _ _ => rfl⟩
  | @keep b c ha hc hle =>
    refine ⟨h.see hb fun c' hc' => ⟨b, hc, ?_⟩, fun _ _ => rfl⟩
    rwa [← Option.some.inj (ha.symm.trans hc')]
  | improve ha hlt => exact h.improve hG hn hb hmay htop he ha hlt

end Relax

section Pending
variable {ν : Type u} {ε : Type v} {K : Type w} [DecidableEq ν] {G : TimedGraph ν ε K}

/-- The edges of nodes not settled yet: an upper bound on what may still be pushed. -/
def TimedGraph.pending (G : TimedGraph ν ε K) (V : Finset ν) (S : List ν) : ℕ :=
  ∑ n ∈ V with n ∉ S, (G.edges n).length

theorem TimedGraph.pending_settle (V : Finset ν) (hV : ∀ m, m ∉ V → G.edges m = [])
    (hn : n ∉ S) : G.pending V (n :: S) + (G.edges n).length = G.pending V S := by
  have hfilter : {m ∈ V | m ∉ n :: S} = {m ∈ V | m ∉ S}.erase n := by
    ext m
    simp only [Finset.mem_filter, Finset.mem_erase, List.mem_cons, not_or]
    tauto
  by_cases hnV : n ∈ V
  · have hmem : n ∈ {m ∈ V | m ∉ S} := Finset.mem_filter.2 ⟨hnV, hn⟩
    rw [pending, pending, hfilter, Finset.sum_erase_add _ _ hmem]
  · rw [pending, pending, hfilter, hV n hnV, List.length_nil, Nat.add_zero,
      Finset.erase_eq_of_notMem]
    exact fun h => hnV (Finset.mem_filter.1 h).1

end Pending

end Salgil
