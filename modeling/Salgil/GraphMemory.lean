import Salgil.Evacuation
import Salgil.LruCache
import Mathlib.Data.List.Perm.Subperm
import Mathlib.Logic.Relation

namespace Salgil
set_option autoImplicit true

/-- How a call of `load_road_graph` ends: with a graph, without the file, or with another
exception. -/
inductive LoadEnd (G : Type u) where
  | graph (graph : G)
  | missing (message : String)
  | raised (error : PyError)

/-- What `get_graph` makes of it. -/
def LoadEnd.result : LoadEnd G → Except PyError G
  | .graph g => .ok g
  | .missing message => .error (.salgil (.validation message))
  | .raised error => .error error

/-- How far a thread of `_load_graph_cached` has come. -/
inductive GraphThread (G : Type u) where
  | looking
  | loading
  | done (ended : LoadEnd G)

/-- The calls of `_load_graph_cached` by mode, on the one road file of the settings. -/
abbrev GraphLru (G : Type u) := LruCache 8 (String × TransportMode) G

/-- The calls of `get_graph`: how many wait for the lock of their mode, the thread of the one that
has it, and the threads whose calls were cancelled. The loads that have ended and the results that
were returned are kept in their order. -/
structure GraphMemory (G : Type u) where
  cache : GraphLru G := LruCache.empty 8 _ _
  waiting : TransportMode → ℕ := fun _ => 0
  running : TransportMode → Option (GraphThread G) := fun _ => none
  orphans : TransportMode → List (GraphThread G) := fun _ => []
  built : List (TransportMode × LoadEnd G) := []
  returned : List (TransportMode × Except PyError G) := []

/-- What the end of a load leaves in the cache: exceptions are not kept. -/
def keepEnd (cache : GraphLru G) (key : String × TransportMode) : LoadEnd G → GraphLru G
  | .graph g => cache.add key g
  | .missing _ | .raised _ => cache

/-- A thread finds the graph in the cache, or finds none and loads it. -/
inductive ThreadStep (path : String) (mode : TransportMode) :
    GraphLru G × List (TransportMode × LoadEnd G) × GraphThread G →
      GraphLru G × List (TransportMode × LoadEnd G) × GraphThread G → Prop
  | hit (h : cache.use (path, mode) = some (g, cache')) :
    ThreadStep path mode (cache, built, .looking) (cache', built, .done (.graph g))
  | miss (h : cache.use (path, mode) = none) :
    ThreadStep path mode (cache, built, .looking) (cache, built, .loading)
  | load (ended : LoadEnd G) : ThreadStep path mode (cache, built, .loading)
    (keepEnd cache (path, mode) ended, built ++ [(mode, ended)], .done ended)

/-- A call comes and is refused where no road file is configured; else it waits, takes the free lock
of its mode, returns, or is cancelled while it waits or while its thread runs; or a thread goes on,
whether its call still waits for it or not. -/
inductive GraphStep (path : String) (m : GraphMemory G) : GraphMemory G → Prop
  | refuse (hunset : path = "") (mode : TransportMode) : GraphStep path m
    { m with returned := m.returned ++ [(mode, .error roadNetworkUnset)] }
  | arrive (hset : path ≠ "") (mode : TransportMode) : GraphStep path m
    { m with waiting := Function.update m.waiting mode (m.waiting mode + 1) }
  | start (hwaiting : m.waiting mode = n + 1) (hfree : m.running mode = none) : GraphStep path m
    { m with
      waiting := Function.update m.waiting mode n
      running := Function.update m.running mode (some .looking) }
  | advance (hrunning : m.running mode = some thread)
    (h : ThreadStep path mode (m.cache, m.built, thread) (cache, built, thread')) :
    GraphStep path m { m with
      cache := cache
      built := built
      running := Function.update m.running mode (some thread') }
  | advanceOrphan (horphans : m.orphans mode = before ++ thread :: after)
    (h : ThreadStep path mode (m.cache, m.built, thread) (cache, built, thread')) :
    GraphStep path m { m with
      cache := cache
      built := built
      orphans := Function.update m.orphans mode (before ++ thread' :: after) }
  | finish (hrunning : m.running mode = some (.done ended)) : GraphStep path m
    { m with
      running := Function.update m.running mode none
      returned := m.returned ++ [(mode, ended.result)] }
  | giveUp (hwaiting : m.waiting mode = n + 1) : GraphStep path m
    { m with waiting := Function.update m.waiting mode n }
  | cancel (hrunning : m.running mode = some thread) : GraphStep path m
    { m with
      running := Function.update m.running mode none
      orphans := Function.update m.orphans mode (thread :: m.orphans mode) }

/-- A state that the process can reach from its start. -/
def GraphReachable (path : String) (m : GraphMemory G) : Prop :=
  Relation.ReflTransGen (GraphStep path) {} m

def LoadEnd.isGraph : LoadEnd G → Bool
  | .graph _ => true
  | .missing _ | .raised _ => false

def GraphThread.isLoading : GraphThread G → Bool
  | .loading => true
  | .looking | .done _ => false

/-- The graphs that were built for a mode. -/
def graphsBuilt (built : List (TransportMode × LoadEnd G)) (mode : TransportMode) :
    List (LoadEnd G) :=
  (built.filter fun entry => entry.1 = mode ∧ entry.2.isGraph).map (·.2)

/-- The threads that are loading. -/
def loadsOf (threads : List (GraphThread G)) : ℕ := threads.countP (·.isLoading)

def GraphMemory.threads (m : GraphMemory G) (mode : TransportMode) : List (GraphThread G) :=
  (m.running mode).toList ++ m.orphans mode

/-- What the cache saves: the graphs of a mode that were built or are being built are at most one
more than the calls that were cancelled meanwhile; without a road file nothing is loaded and every
call is refused, and with one what is returned is the end of a load for the same mode; and without
such a cancellation all calls of a mode return the same graph. -/
structure Economical (path : String) (m : GraphMemory G) : Prop where
  refused : path = "" → (∀ mode, m.threads mode = []) ∧ m.built = [] ∧
    ∀ mode result, (mode, result) ∈ m.returned → result = .error roadNetworkUnset
  builds : ∀ mode, (graphsBuilt m.built mode).length + loadsOf (m.threads mode) ≤
    (m.orphans mode).length + 1
  own : path ≠ "" → ∀ mode result, (mode, result) ∈ m.returned →
    ∃ ended, (mode, ended) ∈ m.built ∧ ended.result = result
  same : ∀ mode g g', m.orphans mode = [] → (mode, .ok g) ∈ m.returned →
    (mode, .ok g') ∈ m.returned → g = g'

/-- The cache holds graphs of the road file that were built, and one for each mode for which any
was. -/
structure Backed (path : String) (cache : GraphLru G) (built : List (TransportMode × LoadEnd G)) :
    Prop where
  paths : ∀ entry ∈ cache.entries, entry.1.1 = path
  held : ∀ mode g, cache.get? (path, mode) = some g → (mode, .graph g) ∈ built
  kept : ∀ mode g, (mode, .graph g) ∈ built → (cache.get? (path, mode)).isSome

section
variable {G : Type u} {path : String} {mode : TransportMode} {cache cache' : GraphLru G}
variable {built built' : List (TransportMode × LoadEnd G)} {thread thread' : GraphThread G}
variable {before after : List (GraphThread G)} {m m' : GraphMemory G}

theorem Backed.room (h : Backed path cache built) : cache.entries.length < 8 := by
  have hinj : (cache.entries.map (·.1.2)).Nodup := by
    have hnodup := cache.nodup
    have hentries : cache.entries.Nodup := hnodup.of_map
    rw [List.nodup_map_iff_inj_on hentries] at hnodup ⊢
    intro entry hentry other hother heq
    exact hnodup entry hentry other hother
      (Prod.ext ((h.paths entry hentry).trans (h.paths other hother).symm) heq)
  have hsub : cache.entries.map (·.1.2) ⊆ [.foot, .assisted, .bicycle, .car] := by
    intro mode _
    cases mode <;> simp
  have hle := (List.subperm_of_subset hinj hsub).length_le
  rw [List.length_map] at hle
  exact Nat.lt_of_le_of_lt hle (by decide)

theorem Backed.fails (h : Backed path cache built) {ended : LoadEnd G}
    (hended : ended.isGraph = false) : Backed path cache (built ++ [(mode, ended)]) := by
  refine ⟨h.paths, fun mode g hg => List.mem_append_left _ (h.held mode g hg), ?_⟩
  intro other g hg
  rcases List.mem_append.1 hg with hg | hg
  · exact h.kept other g hg
  · cases List.mem_singleton.1 hg
    cases hended

theorem Backed.step (h : Backed path cache built)
    (hstep : ThreadStep path mode (cache, built, thread) (cache', built', thread')) :
    Backed path cache' built' := by
  cases hstep with
  | hit huse =>
    obtain ⟨-, hmem⟩ := LruCache.use_eq_some huse
    constructor
    · exact fun entry hentry => h.paths entry ((hmem entry).1 hentry)
    · intro mode g hg
      rw [LruCache.get?_use huse] at hg
      exact h.held mode g hg
    · intro mode g hg
      rw [LruCache.get?_use huse]
      exact h.kept mode g hg
  | miss => exact h
  | load ended =>
    cases ended with
    | graph g =>
      have hget := LruCache.get?_add h.room (path, mode)
      constructor
      · intro entry hentry
        rcases LruCache.mem_add hentry with hentry | rfl
        · exact h.paths entry hentry
        · rfl
      · intro other g' hg'
        dsimp only [keepEnd] at hg'
        rw [hget] at hg'
        split at hg'
        · next heq =>
          cases heq
          cases hold : cache.get? (path, mode) with
          | some old =>
            rw [hold] at hg'
            cases hg'
            exact List.mem_append_left _ (h.held mode old hold)
          | none =>
            rw [hold] at hg'
            cases hg'
            exact List.mem_append_right _ (List.mem_singleton_self _)
        · exact List.mem_append_left _ (h.held other g' hg')
      · intro other g' hg'
        dsimp only [keepEnd]
        rw [hget]
        split
        · rfl
        · next hne =>
          rcases List.mem_append.1 hg' with hg' | hg'
          · exact h.kept other g' hg'
          · cases List.mem_singleton.1 hg'
            exact absurd rfl hne
    | missing message => exact h.fails rfl
    | raised error => exact h.fails rfl

/-- What the end of a load, or a look into the cache, does to the numbers of a mode. -/
theorem builds_step (h : Backed path cache built)
    (hstep : ThreadStep path mode (cache, built, thread) (cache', built', thread'))
    {n : ℕ} (hlength : (before ++ thread :: after).length ≤ n + 1)
    (hbuilds : (graphsBuilt built mode).length + loadsOf (before ++ thread :: after) ≤ n + 1) :
    (graphsBuilt built' mode).length + loadsOf (before ++ thread' :: after) ≤ n + 1 := by
  have hcount : ∀ t : GraphThread G, loadsOf (before ++ t :: after) =
      loadsOf (before ++ after) + if t.isLoading then 1 else 0 := by
    intro t
    simp only [loadsOf, List.countP_append, List.countP_cons]
    omega
  rw [hcount] at hbuilds ⊢
  cases hstep with
  | hit => exact hbuilds
  | miss huse =>
    have hnone := LruCache.use_eq_none.1 huse
    have hnobuilt : graphsBuilt built mode = [] := by
      rw [graphsBuilt, List.map_eq_nil_iff, List.filter_eq_nil_iff]
      rintro ⟨other, ended⟩ hmem hselected
      rw [decide_eq_true_iff] at hselected
      obtain ⟨rfl, hgraph⟩ := hselected
      cases ended with
      | graph g =>
        have hkept := h.kept other g hmem
        rw [hnone] at hkept
        cases hkept
      | missing => cases hgraph
      | raised => cases hgraph
    have hothers : loadsOf (before ++ after) ≤ n := by
      have hle : loadsOf (before ++ after) ≤ (before ++ after).length := List.countP_le_length
      simp only [List.length_append, List.length_cons] at hle hlength
      omega
    rw [hnobuilt]
    simp only [List.length_nil, GraphThread.isLoading, ↓reduceIte]
    omega
  | load ended =>
    have hmore : (graphsBuilt (built ++ [(mode, ended)]) mode).length ≤
        (graphsBuilt built mode).length + 1 := by
      rw [graphsBuilt, List.filter_append, List.map_append, List.length_append, ← graphsBuilt]
      apply Nat.add_le_add_left
      rw [List.length_map]
      exact List.length_filter_le _ _
    simp only [GraphThread.isLoading, ↓reduceIte] at hbuilds ⊢
    simp only [Bool.false_eq_true, ↓reduceIte]
    omega

theorem graphsBuilt_other
    (hstep : ThreadStep path mode (cache, built, thread) (cache', built', thread'))
    {other : TransportMode} (hne : mode ≠ other) :
    graphsBuilt built' other = graphsBuilt built other := by
  cases hstep with
  | hit => rfl
  | miss => rfl
  | load ended =>
    rw [graphsBuilt, List.filter_append, List.map_append, ← graphsBuilt]
    simp [hne]

theorem built_subset
    (hstep : ThreadStep path mode (cache, built, thread) (cache', built', thread')) :
    built ⊆ built' := by
  cases hstep with
  | hit => exact List.Subset.refl _
  | miss => exact List.Subset.refl _
  | load ended => exact List.subset_append_left _ _

theorem done_step (h : Backed path cache built)
    (hstep : ThreadStep path mode (cache, built, thread) (cache', built', thread'))
    {ended : LoadEnd G} (hdone : thread' = .done ended) : (mode, ended) ∈ built' := by
  cases hstep with
  | hit huse =>
    cases hdone
    exact h.held mode _ (LruCache.use_eq_some huse).1
  | miss => cases hdone
  | load ended' =>
    cases hdone
    exact List.mem_append_right _ (List.mem_singleton_self _)

/-- What every state keeps. -/
structure GraphMemory.Kept (path : String) (m : GraphMemory G) : Prop where
  backed : Backed path m.cache m.built
  builds : ∀ mode, (graphsBuilt m.built mode).length + loadsOf (m.threads mode) ≤
    (m.orphans mode).length + 1
  done : ∀ mode ended, .done ended ∈ m.threads mode → (mode, ended) ∈ m.built
  own : path ≠ "" → ∀ mode result, (mode, result) ∈ m.returned →
    ∃ ended, (mode, ended) ∈ m.built ∧ ended.result = result

theorem GraphMemory.length_threads_le (m : GraphMemory G) (mode : TransportMode) :
    (m.threads mode).length ≤ (m.orphans mode).length + 1 := by
  rw [threads, List.length_append]
  cases m.running mode <;> simp [Nat.add_comm]

theorem GraphMemory.Kept.advance (h : m.Kept path)
    (hstep : ThreadStep path mode (m.cache, m.built, thread) (m'.cache, m'.built, thread'))
    (hthreads : m.threads mode = before ++ thread :: after)
    (hthreads' : m'.threads mode = before ++ thread' :: after)
    (horphans : ∀ mode, (m'.orphans mode).length = (m.orphans mode).length)
    (hothers : ∀ other, mode ≠ other → m'.threads other = m.threads other)
    (hreturned : m'.returned = m.returned) : m'.Kept path := by
  constructor
  · exact h.backed.step hstep
  · intro other
    rw [horphans]
    by_cases hmode : mode = other
    · subst hmode
      have hlength := m.length_threads_le mode
      have hbuilds := h.builds mode
      rw [hthreads] at hlength hbuilds
      rw [hthreads']
      exact builds_step h.backed hstep hlength hbuilds
    · rw [hothers other hmode, graphsBuilt_other hstep hmode]
      exact h.builds other
  · intro other ended hdone
    by_cases hmode : mode = other
    · subst hmode
      have hold : .done ended ∈ m.threads mode → (mode, ended) ∈ m'.built := fun hmem =>
        built_subset hstep (h.done mode ended hmem)
      rw [hthreads', List.mem_append, List.mem_cons] at hdone
      rw [hthreads, List.mem_append, List.mem_cons] at hold
      rcases hdone with hdone | hdone | hdone
      · exact hold (.inl hdone)
      · exact done_step h.backed hstep hdone.symm
      · exact hold (.inr (.inr hdone))
    · rw [hothers other hmode] at hdone
      exact built_subset hstep (h.done other ended hdone)
  · intro hset other result hresult
    rw [hreturned] at hresult
    obtain ⟨ended, hended, heq⟩ := h.own hset other result hresult
    exact ⟨ended, built_subset hstep hended, heq⟩

/-- A step that leaves the threads of each mode as they are, or some of them out, and no load
ends. -/
theorem GraphMemory.Kept.quiet (h : m.Kept path) (hcache : m'.cache = m.cache)
    (hbuilt : m'.built = m.built)
    (hthreads : ∀ mode, (m'.threads mode).Sublist (m.threads mode) ∨
      m'.threads mode = .looking :: m.threads mode)
    (horphans : ∀ mode, (m.orphans mode).length ≤ (m'.orphans mode).length)
    (hown : path ≠ "" → ∀ mode result, (mode, result) ∈ m'.returned →
      ∃ ended, (mode, ended) ∈ m.built ∧ ended.result = result) : m'.Kept path := by
  constructor
  · rw [hcache, hbuilt]
    exact h.backed
  · intro mode
    have hloads : loadsOf (m'.threads mode) ≤ loadsOf (m.threads mode) := by
      rcases hthreads mode with hsub | heq
      · exact hsub.countP_le
      · rw [heq]
        exact le_of_eq (List.countP_cons_of_neg (by simp [GraphThread.isLoading]))
    have hbuilds := h.builds mode
    have hle := horphans mode
    rw [hbuilt]
    omega
  · intro mode ended hdone
    rw [hbuilt]
    rcases hthreads mode with hsub | heq
    · exact h.done mode ended (hsub.subset hdone)
    · rw [heq] at hdone
      rcases List.mem_cons.1 hdone with hdone | hdone
      · cases hdone
      · exact h.done mode ended hdone
  · rw [hbuilt]
    exact hown

theorem GraphMemory.Kept.step (h : m.Kept path) (hstep : GraphStep path m m') : m'.Kept path := by
  have hsame : ∀ mode, (m.threads mode).Sublist (m.threads mode) ∨
      m.threads mode = .looking :: m.threads mode := fun _ => .inl (List.Sublist.refl _)
  cases hstep with
  | refuse hunset =>
    exact h.quiet rfl rfl hsame (fun _ => le_rfl) fun hset => absurd hunset hset
  | arrive => exact h.quiet rfl rfl hsame (fun _ => le_rfl) h.own
  | giveUp => exact h.quiet rfl rfl hsame (fun _ => le_rfl) h.own
  | @start mode n hwaiting hfree =>
    refine h.quiet rfl rfl (fun other => ?_) (fun _ => le_rfl) h.own
    by_cases hmode : other = mode
    · subst hmode
      right
      simp [GraphMemory.threads, hfree]
    · left
      simp [GraphMemory.threads, hmode]
  | @advance mode thread cache built thread' hrunning hstep =>
    have hthreads : m.threads mode = [] ++ thread :: m.orphans mode := by
      simp [GraphMemory.threads, hrunning]
    refine h.advance hstep hthreads ?_ (fun _ => rfl) ?_ rfl
    · simp [GraphMemory.threads]
    · intro other hne
      simp [GraphMemory.threads, hne.symm]
  | @advanceOrphan mode before thread after cache built thread' horphans hstep =>
    have hthreads : m.threads mode =
        ((m.running mode).toList ++ before) ++ thread :: after := by
      rw [GraphMemory.threads, horphans, List.append_assoc]
    refine h.advance hstep hthreads ?_ ?_ ?_ rfl
    · simp [GraphMemory.threads]
    · intro other
      by_cases hmode : other = mode
      · subst hmode
        simp [horphans]
      · simp [hmode]
    · intro other hne
      simp [GraphMemory.threads, hne.symm]
  | @finish mode ended hrunning =>
    refine h.quiet rfl rfl (fun other => .inl ?_) (fun _ => le_rfl) ?_
    · by_cases hmode : other = mode
      · subst hmode
        simp [GraphMemory.threads]
      · simp [GraphMemory.threads, hmode]
    · intro hset other result hresult
      rcases List.mem_append.1 hresult with hresult | hresult
      · exact h.own hset other result hresult
      · cases List.mem_singleton.1 hresult
        exact ⟨ended, h.done mode ended (by simp [GraphMemory.threads, hrunning]), rfl⟩
  | @cancel mode thread hrunning =>
    refine h.quiet rfl rfl (fun other => .inl ?_) (fun other => ?_) h.own
    · by_cases hmode : other = mode
      · subst hmode
        simp [GraphMemory.threads, hrunning]
      · simp [GraphMemory.threads, hmode]
    · by_cases hmode : other = mode
      · subst hmode
        simp
      · simp [hmode]

theorem kept_of_reachable (h : GraphReachable path m) : m.Kept path := by
  induction h with
  | refl =>
    refine ⟨⟨by simp [LruCache.empty], ?_, by simp⟩, ?_, ?_, by simp⟩
    · intro mode g hg
      cases hg
    · intro mode
      simp [graphsBuilt, GraphMemory.threads, loadsOf]
    · intro mode ended hdone
      cases hdone
  | tail _ hstep ih => exact ih.step hstep

/-- A process without a road file: its calls are refused as they come. -/
structure GraphMemory.Refusing (m : GraphMemory G) : Prop where
  nobody : ∀ mode, m.waiting mode = 0
  idle : ∀ mode, m.threads mode = []
  unloaded : m.built = []
  refused : ∀ mode result, (mode, result) ∈ m.returned → result = .error roadNetworkUnset

theorem GraphMemory.Refusing.running (h : m.Refusing) (mode : TransportMode) :
    m.running mode = none := by
  have hidle := h.idle mode
  rw [threads, List.append_eq_nil_iff] at hidle
  simpa using hidle.1

theorem GraphMemory.Refusing.orphans (h : m.Refusing) (mode : TransportMode) :
    m.orphans mode = [] := by
  have hidle := h.idle mode
  rw [threads, List.append_eq_nil_iff] at hidle
  exact hidle.2

theorem GraphMemory.Refusing.step (h : m.Refusing) (hunset : path = "")
    (hstep : GraphStep path m m') : m'.Refusing := by
  cases hstep with
  | refuse _ mode =>
    refine ⟨h.nobody, h.idle, h.unloaded, ?_⟩
    intro other result hresult
    rcases List.mem_append.1 hresult with hresult | hresult
    · exact h.refused other result hresult
    · cases List.mem_singleton.1 hresult
      rfl
  | arrive hset => exact absurd hunset hset
  | @start mode n hwaiting =>
    rw [h.nobody] at hwaiting
    cases hwaiting
  | @giveUp mode n hwaiting =>
    rw [h.nobody] at hwaiting
    cases hwaiting
  | @advance mode thread cache built thread' hrunning =>
    rw [h.running] at hrunning
    cases hrunning
  | @advanceOrphan mode before thread after cache built thread' horphans =>
    rw [h.orphans] at horphans
    cases before <;> cases horphans
  | @finish mode ended hrunning =>
    rw [h.running] at hrunning
    cases hrunning
  | @cancel mode thread hrunning =>
    rw [h.running] at hrunning
    cases hrunning

theorem refusing_of_reachable (hunset : path = "") (h : GraphReachable path m) : m.Refusing := by
  induction h with
  | refl =>
    constructor <;> simp [GraphMemory.threads]
  | tail _ hstep ih => exact ih.step hunset hstep

theorem graphsBuilt_eq {ended ended' : LoadEnd G} (hone : (graphsBuilt built mode).length ≤ 1)
    (h : (mode, ended) ∈ built) (hgraph : ended.isGraph = true) (h' : (mode, ended') ∈ built)
    (hgraph' : ended'.isGraph = true) : ended = ended' := by
  have hmem : ∀ {ended : LoadEnd G}, (mode, ended) ∈ built → ended.isGraph = true →
      ended ∈ graphsBuilt built mode := fun hbuilt hended =>
    List.mem_map.2 ⟨_, List.mem_filter.2 ⟨hbuilt, by simpa using hended⟩, rfl⟩
  rcases hlist : graphsBuilt built mode with _ | ⟨first, rest⟩
  · have hfirst := hmem h hgraph
    rw [hlist] at hfirst
    cases hfirst
  · rw [hlist, List.length_cons, Nat.succ_le_succ_iff, Nat.le_zero, List.length_eq_zero_iff] at hone
    subst hone
    have hfirst := hmem h hgraph
    have hfirst' := hmem h' hgraph'
    rw [hlist, List.mem_singleton] at hfirst hfirst'
    rw [hfirst, hfirst']

theorem isGraph_of_result {ended : LoadEnd G} {g : G} (h : ended.result = .ok g) :
    ended = .graph g := by
  cases ended with
  | graph g' =>
    cases h
    rfl
  | missing => cases h
  | raised => cases h

/-- However the calls, the threads and the cancellations interleave, the graphs are built and
returned economically. -/
theorem graph_memory_economical (h : GraphReachable path m) : Economical path m := by
  have hkept := kept_of_reachable h
  refine ⟨fun hunset => ?_, hkept.builds, hkept.own, ?_⟩
  · have hrefusing := refusing_of_reachable hunset h
    exact ⟨hrefusing.idle, hrefusing.unloaded, hrefusing.refused⟩
  intro mode g g' horphans hg hg'
  have hset : path ≠ "" := by
    intro hunset
    cases (refusing_of_reachable hunset h).refused mode _ hg
  have hone : (graphsBuilt m.built mode).length ≤ 1 := by
    have hbuilds := hkept.builds mode
    rw [horphans, List.length_nil] at hbuilds
    omega
  obtain ⟨ended, hbuilt, hresult⟩ := hkept.own hset mode _ hg
  obtain ⟨ended', hbuilt', hresult'⟩ := hkept.own hset mode _ hg'
  rw [isGraph_of_result hresult] at hbuilt
  rw [isGraph_of_result hresult'] at hbuilt'
  cases graphsBuilt_eq hone hbuilt rfl hbuilt' rfl
  rfl

/-- The thread of a cancelled call goes on, so that a second graph is built, and both are
returned. -/
theorem graph_memory_cancelled : ∃ m : GraphMemory ℕ,
    m.returned = [(.foot, .ok 2), (.foot, .ok 1)] ∧ Economical "roads.geojson" m := by
  have h₁ : GraphReachable "roads.geojson" ({} : GraphMemory ℕ) := .refl
  have hset : "roads.geojson" ≠ "" := by decide
  have h₂ := ((h₁.tail (.arrive hset .foot)).tail (.arrive hset .foot)).tail (.arrive hset .foot)
  have h₃ := h₂.tail (@GraphStep.start ℕ _ _ .foot 2 rfl rfl)
  have h₄ := h₃.tail (@GraphStep.advance ℕ _ _ .foot _ _ _ _ rfl (.miss rfl))
  have h₅ := h₄.tail (@GraphStep.cancel ℕ _ _ .foot _ rfl)
  have h₆ := h₅.tail (@GraphStep.start ℕ _ _ .foot 1 rfl rfl)
  have h₇ := h₆.tail (@GraphStep.advance ℕ _ _ .foot _ _ _ _ rfl (.miss rfl))
  have h₈ := h₇.tail (@GraphStep.advanceOrphan ℕ _ _ .foot [] _ [] _ _ _ rfl (.load (.graph 1)))
  have h₉ := h₈.tail (@GraphStep.advance ℕ _ _ .foot _ _ _ _ rfl (.load (.graph 2)))
  have h₁₀ := h₉.tail (@GraphStep.finish ℕ _ _ .foot _ rfl)
  have h₁₁ := h₁₀.tail (@GraphStep.start ℕ _ _ .foot 0 rfl rfl)
  have h₁₂ := h₁₁.tail (@GraphStep.advance ℕ _ _ .foot _ _ _ _ rfl (.hit rfl))
  have h₁₃ := h₁₂.tail (@GraphStep.finish ℕ _ _ .foot _ rfl)
  exact ⟨_, rfl, graph_memory_economical h₁₃⟩

end

end Salgil
