import Salgil.ContractClosures
import Mathlib.Data.Set.Function

namespace Salgil
set_option autoImplicit true

def cacheVersion : ℕ := 2

/-- `hashlib.blake2b(digest_size=16)`, as the hexadecimal text of the digest. -/
structure Blake2b where
  hexdigest : List UInt8 → String
  length_hexdigest : ∀ bytes, (hexdigest bytes).length = 32

/-- The file of a graph, by its name in the directory `.graph-cache`. -/
def cachePath (mode : TransportMode) (fingerprint : String) : String :=
  fingerprint ++ ("-" ++ mode.value ++ "-v" ++ toString cacheVersion ++ ".pickle")

/-- What a file of the cache holds: a graph, another object, or no pickle. -/
inductive CacheFile (K : Type u) where
  | graph (graph : RoadGraph K)
  | foreign
  | unreadable

/-- The directory of the cache. -/
abbrev CacheFiles (K : Type u) := String → Option (CacheFile K)

def readCache (files : CacheFiles K) (cache : String) : Option (RoadGraph K) :=
  match files cache with
  | some (.graph graph) => some graph
  | some .foreign | some .unreadable | none => none

/-- The new file takes the place of the old one at once, if the directory can be written. -/
def writeCache (files : CacheFiles K) (cache : String) (graph : RoadGraph K) (writable : Bool) :
    CacheFiles K :=
  if writable then Function.update files cache (some (.graph graph)) else files

/-- How far a call has come: the bytes it has hashed, those it has read since and the graph it has
built from them, and what it has returned. -/
inductive LoadPhase (K : Type u) where
  | hashing (digested : List UInt8)
  | looking (digested : List UInt8)
  | reading (digested : List UInt8)
  | writing (digested content : List UInt8) (graph : RoadGraph K)
  | returned (result : Except PyError (RoadGraph K))

structure LoadCall (K : Type u) where
  mode : TransportMode
  phase : LoadPhase K

/-- The road file, the cache beside it, and the calls of `load_road_graph`. -/
structure LoadWorld (K : Type u) where
  content : List UInt8
  files : CacheFiles K := fun _ => none
  calls : ℕ → Option (LoadCall K) := fun _ => none

/-- The road file is replaced; a file of the cache is lost or spoiled; a call begins, or takes its
next step. -/
inductive LoadStep where
  | replace (content : List UInt8)
  | lose (cache : String)
  | spoil (cache : String) (readable : Bool)
  | start (call : ℕ) (mode : TransportMode)
  | advance (call : ℕ) (writable : Bool)

section
variable {K : Type u} (hash : Blake2b)
variable (build : List UInt8 → TransportMode → Except PyError (RoadGraph K))

/-- The next step of a call. The content is hashed in pieces of 1 MiB, each as the file is then. -/
def LoadPhase.next (mode : TransportMode) (content : List UInt8) (files : CacheFiles K)
    (writable : Bool) : LoadPhase K → LoadPhase K × CacheFiles K
  | .hashing digested =>
    let chunk := (content.drop digested.length).take (2 ^ 20)
    (if chunk.isEmpty then .looking digested else .hashing (digested ++ chunk), files)
  | .looking digested =>
    match readCache files (cachePath mode (hash.hexdigest digested)) with
    | some graph => (.returned (.ok graph), files)
    | none => (.reading digested, files)
  | .reading digested =>
    match build content mode with
    | .error error => (.returned (.error error), files)
    | .ok graph => (.writing digested content graph, files)
  | .writing digested _ graph =>
    (.returned (.ok graph),
      writeCache files (cachePath mode (hash.hexdigest digested)) graph writable)
  | .returned result => (.returned result, files)

def loadStep (w : LoadWorld K) : LoadStep → LoadWorld K
  | .replace content => { w with content := content }
  | .lose cache => { w with files := Function.update w.files cache none }
  | .spoil cache readable => { w with
      files := Function.update w.files cache (some (if readable then .foreign else .unreadable)) }
  | .start id mode =>
    match w.calls id with
    | some _ => w
    | none => { w with calls := Function.update w.calls id (some ⟨mode, .hashing []⟩) }
  | .advance id writable =>
    match w.calls id with
    | none => w
    | some call =>
      let (phase, files) := call.phase.next hash build call.mode w.content w.files writable
      { w with files := files, calls := Function.update w.calls id (some ⟨call.mode, phase⟩) }

def runLoads (w : LoadWorld K) (steps : List LoadStep) : LoadWorld K :=
  steps.foldl (loadStep hash build) w

/-- Every call during which the road file is not replaced returns the nodes and edges that are built
from the file. -/
def Transparent (content : List UInt8) (steps : List LoadStep) : Prop :=
  ∀ before id mode during after result,
    steps = before ++ (.start id mode :: during ++ after) →
    (runLoads hash build { content := content } before).calls id = none →
    (∀ content', .replace content' ∉ during) →
    (runLoads hash build { content := content } (before ++ .start id mode :: during)).calls id =
      some ⟨mode, .returned result⟩ →
    result.map RoadGraph.nodes =
      (build (runLoads hash build { content := content } before).content mode).map RoadGraph.nodes

/-- No graph is stored under the digest of other bytes than those it was built from. -/
def StoresHashed : LoadWorld K → List LoadStep → Prop
  | _, [] => True
  | w, step :: steps =>
    (∀ id, step = .advance id true → ∀ mode digested content graph,
      w.calls id = some ⟨mode, .writing digested content graph⟩ → digested = content) ∧
      StoresHashed (loadStep hash build w step) steps

end

/-- The contents of the road file in a run. -/
def contentsOf (content : List UInt8) (steps : List LoadStep) : List (List UInt8) :=
  content :: steps.filterMap fun
    | .replace content => some content
    | _ => none

section
variable {K : Type u} {hash : Blake2b}
variable {build : List UInt8 → TransportMode → Except PyError (RoadGraph K)}
variable {contents : Set (List UInt8)} {files : CacheFiles K} {w : LoadWorld K} {id : ℕ}

theorem cachePath_inj {mode mode' : TransportMode} {bytes bytes' : List UInt8}
    (h : cachePath mode (hash.hexdigest bytes) = cachePath mode' (hash.hexdigest bytes')) :
    mode = mode' ∧ hash.hexdigest bytes = hash.hexdigest bytes' := by
  have hlength : (hash.hexdigest bytes).toList.length = (hash.hexdigest bytes').toList.length := by
    rw [String.length_toList, String.length_toList, hash.length_hexdigest, hash.length_hexdigest]
  have hlist := congrArg String.toList h
  rw [cachePath, cachePath, String.toList_append (s := hash.hexdigest bytes),
    String.toList_append (s := hash.hexdigest bytes')] at hlist
  obtain ⟨hdigest, hmode⟩ := List.append_inj hlist hlength
  refine ⟨?_, String.toList_inj.1 hdigest⟩
  revert hmode
  cases mode <;> cases mode' <;> decide

/-- The graphs in the cache are those of the contents whose digests they lie under. -/
def SoundCache (hash : Blake2b) (build : List UInt8 → TransportMode → Except PyError (RoadGraph K))
    (contents : Set (List UInt8)) (files : CacheFiles K) : Prop :=
  ∀ mode, ∀ content ∈ contents, ∀ graph,
    readCache files (cachePath mode (hash.hexdigest content)) = some graph →
      build content mode = .ok graph

theorem readCache_update (files : CacheFiles K) (cache cache' : String)
    (file : Option (CacheFile K)) :
    readCache (Function.update files cache file) cache' =
      if cache' = cache then readCache (fun _ => file) cache else readCache files cache' := by
  by_cases hname : cache' = cache
  · rw [if_pos hname, hname, readCache, Function.update_self]
    rfl
  · rw [if_neg hname, readCache, Function.update_of_ne hname]
    rfl

/-- A file that is no graph hides what was there. -/
theorem SoundCache.update (h : SoundCache hash build contents files) (cache : String)
    {file : Option (CacheFile K)} (hfile : readCache (fun _ => file) cache = none) :
    SoundCache hash build contents (Function.update files cache file) := by
  intro mode content hcontent graph hread
  rw [readCache_update] at hread
  split at hread
  · rw [hfile] at hread
    cases hread
  · exact h mode content hcontent graph hread

theorem SoundCache.write (h : SoundCache hash build contents files)
    (hdigests : Set.InjOn hash.hexdigest contents) {mode : TransportMode} {content : List UInt8}
    {graph : RoadGraph K} (hcontent : content ∈ contents) (hbuild : build content mode = .ok graph)
    (writable : Bool) :
    SoundCache hash build contents
      (writeCache files (cachePath mode (hash.hexdigest content)) graph writable) := by
  rw [writeCache]
  split
  · intro mode' content' hcontent' graph' hread
    rw [readCache_update] at hread
    split at hread
    · next hpath =>
      obtain ⟨rfl, hdigest⟩ := cachePath_inj hpath
      cases hread
      rw [hdigests hcontent' hcontent hdigest]
      exact hbuild
    · exact h mode' content' hcontent' graph' hread
  · exact h

/-- What a run keeps: the graphs in the cache, and those that are still to be stored, are built from
contents of the file. -/
structure LoadInv (hash : Blake2b)
    (build : List UInt8 → TransportMode → Except PyError (RoadGraph K))
    (contents : Set (List UInt8)) (w : LoadWorld K) : Prop where
  content : w.content ∈ contents
  files : SoundCache hash build contents w.files
  writing : ∀ id mode digested content graph,
    w.calls id = some ⟨mode, .writing digested content graph⟩ →
      content ∈ contents ∧ build content mode = .ok graph

theorem LoadInv.setCall (h : LoadInv hash build contents w) (call : LoadCall K)
    (hfiles : SoundCache hash build contents files)
    (hcall : ∀ digested content graph, call.phase = .writing digested content graph →
      content ∈ contents ∧ build content call.mode = .ok graph) :
    LoadInv hash build contents
      { w with files := files, calls := Function.update w.calls id (some call) } := by
  refine ⟨h.content, hfiles, fun id' mode digested content graph heq => ?_⟩
  dsimp only at heq
  rw [Function.update_apply] at heq
  split at heq
  · cases heq
    exact hcall digested content graph rfl
  · exact h.writing id' mode digested content graph heq

theorem LoadInv.advance (h : LoadInv hash build contents w)
    (hdigests : Set.InjOn hash.hexdigest contents) {call : LoadCall K}
    (hcall : w.calls id = some call) (writable : Bool)
    (hstores : writable = true → ∀ mode digested content graph,
      call = ⟨mode, .writing digested content graph⟩ → digested = content) :
    LoadInv hash build contents (loadStep hash build w (.advance id writable)) := by
  obtain ⟨mode, phase⟩ := call
  rw [loadStep, hcall]
  dsimp only
  cases phase with
  | hashing digested =>
    apply h.setCall _ h.files
    intro digested' content graph heq
    dsimp only [LoadPhase.next] at heq
    split at heq <;> cases heq
  | looking digested =>
    rw [LoadPhase.next]
    split
    · exact h.setCall _ h.files (fun _ _ _ heq => nomatch heq)
    · exact h.setCall _ h.files (fun _ _ _ heq => nomatch heq)
  | reading digested =>
    rw [LoadPhase.next]
    split
    · exact h.setCall _ h.files (fun _ _ _ heq => nomatch heq)
    · next graph hbuild =>
      apply h.setCall _ h.files
      intro digested' content graph' heq
      cases heq
      exact ⟨h.content, hbuild⟩
  | writing digested content graph =>
    obtain ⟨hcontent, hbuild⟩ := h.writing id mode digested content graph hcall
    rw [LoadPhase.next]
    refine h.setCall _ ?_ (fun _ _ _ heq => nomatch heq)
    cases writable with
    | false => exact h.files
    | true =>
      rw [hstores rfl mode digested content graph rfl]
      exact h.files.write hdigests hcontent hbuild true
  | returned result =>
    rw [LoadPhase.next]
    exact h.setCall _ h.files (fun _ _ _ heq => nomatch heq)

theorem LoadInv.step (h : LoadInv hash build contents w)
    (hdigests : Set.InjOn hash.hexdigest contents) {step : LoadStep}
    (hreplace : ∀ content, step = .replace content → content ∈ contents)
    (hstores : ∀ id, step = .advance id true → ∀ mode digested content graph,
      w.calls id = some ⟨mode, .writing digested content graph⟩ → digested = content) :
    LoadInv hash build contents (loadStep hash build w step) := by
  cases step with
  | replace content => exact ⟨hreplace content rfl, h.files, h.writing⟩
  | lose cache => exact ⟨h.content, h.files.update cache rfl, h.writing⟩
  | spoil cache readable =>
    refine ⟨h.content, h.files.update cache ?_, h.writing⟩
    cases readable <;> rfl
  | start id mode =>
    rw [loadStep]
    split
    · exact h
    · exact h.setCall ⟨mode, .hashing []⟩ h.files (fun _ _ _ heq => nomatch heq)
  | advance id writable =>
    cases hcall : w.calls id with
    | none =>
      rw [loadStep, hcall]
      exact h
    | some call =>
      apply h.advance hdigests hcall
      rintro rfl mode digested content graph rfl
      exact hstores id rfl mode digested content graph hcall

theorem LoadInv.run {steps : List LoadStep} (h : LoadInv hash build contents w)
    (hdigests : Set.InjOn hash.hexdigest contents)
    (hreplace : ∀ content, .replace content ∈ steps → content ∈ contents)
    (hstores : StoresHashed hash build w steps) :
    LoadInv hash build contents (runLoads hash build w steps) := by
  induction steps generalizing w with
  | nil => exact h
  | cons step steps ih =>
    apply ih _ (fun content hmem => hreplace content (List.mem_cons_of_mem _ hmem)) hstores.2
    apply h.step hdigests _ hstores.1
    rintro content rfl
    exact hreplace content List.mem_cons_self

/-- What a call has done so far is what it does on one content of the file. -/
def LoadCall.Follows (build : List UInt8 → TransportMode → Except PyError (RoadGraph K))
    (content : List UInt8) (call : LoadCall K) : Prop :=
  match call.phase with
  | .hashing digested => digested <+: content
  | .looking digested | .reading digested => digested = content
  | .writing _ content' _ => content' = content
  | .returned result => result = build content call.mode

theorem append_chunk {digested content : List UInt8} {n : ℕ} (hn : n ≠ 0)
    (h : digested <+: content) :
    digested ++ (content.drop digested.length).take n <+: content ∧
      (((content.drop digested.length).take n).isEmpty = true → digested = content) := by
  obtain ⟨rest, rfl⟩ := h
  rw [List.drop_left]
  refine ⟨(List.prefix_append_right_inj _).2 (List.take_prefix _ _), fun hnil => ?_⟩
  rw [List.isEmpty_iff, List.take_eq_nil_iff] at hnil
  rw [hnil.resolve_left hn, List.append_nil]

theorem LoadCall.Follows.next {call : LoadCall K} (hinv : LoadInv hash build contents w)
    (hcall : w.calls id = some call) (h : call.Follows build w.content) (writable : Bool) :
    LoadCall.Follows build w.content ⟨call.mode,
      (call.phase.next hash build call.mode w.content w.files writable).1⟩ := by
  obtain ⟨mode, phase⟩ := call
  cases phase with
  | hashing digested =>
    obtain ⟨hstarts, hall⟩ := append_chunk (n := 2 ^ 20) (by decide) h
    dsimp only [LoadPhase.next]
    split
    · next hempty => exact hall hempty
    · exact hstarts
  | looking digested =>
    cases h
    dsimp only [LoadPhase.next]
    split
    · next graph hread => exact (hinv.files mode _ hinv.content graph hread).symm
    · rfl
  | reading digested =>
    dsimp only [LoadPhase.next]
    split
    · next error hbuild => exact hbuild.symm
    · rfl
  | writing digested content graph =>
    cases h
    exact (hinv.writing id mode digested _ graph hcall).2.symm
  | returned result => exact h

theorem follows_run {steps : List LoadStep} {mode : TransportMode} {phase : LoadPhase K}
    (hdigests : Set.InjOn hash.hexdigest contents) (hinv : LoadInv hash build contents w)
    (hstores : StoresHashed hash build w steps) (hsame : ∀ content, .replace content ∉ steps)
    (hcall : w.calls id = some ⟨mode, phase⟩)
    (hfollows : LoadCall.Follows build w.content ⟨mode, phase⟩) :
    ∃ phase', (runLoads hash build w steps).calls id = some ⟨mode, phase'⟩ ∧
      LoadCall.Follows build w.content ⟨mode, phase'⟩ := by
  induction steps generalizing w phase with
  | nil => exact ⟨phase, hcall, hfollows⟩
  | cons step steps ih =>
    have hnext : LoadInv hash build contents (loadStep hash build w step) := by
      apply hinv.step hdigests _ hstores.1
      rintro content rfl
      exact absurd List.mem_cons_self (hsame content)
    have hcontent : (loadStep hash build w step).content = w.content ∧
        ∃ phase', (loadStep hash build w step).calls id = some ⟨mode, phase'⟩ ∧
          LoadCall.Follows build w.content ⟨mode, phase'⟩ := by
      cases step with
      | replace content => exact absurd List.mem_cons_self (hsame content)
      | lose cache => exact ⟨rfl, phase, hcall, hfollows⟩
      | spoil cache readable => exact ⟨rfl, phase, hcall, hfollows⟩
      | start id' mode' =>
        rw [loadStep]
        split
        · exact ⟨rfl, phase, hcall, hfollows⟩
        · next hnone =>
          refine ⟨rfl, phase, ?_, hfollows⟩
          dsimp only
          rwa [Function.update_of_ne]
          rintro rfl
          rw [hnone] at hcall
          cases hcall
      | advance id' writable =>
        rw [loadStep]
        split
        · exact ⟨rfl, phase, hcall, hfollows⟩
        · next call hcall' =>
          refine ⟨rfl, ?_⟩
          dsimp only
          by_cases hid : id = id'
          · subst hid
            obtain rfl : ⟨mode, phase⟩ = call := Option.some.inj (hcall.symm.trans hcall')
            rw [Function.update_self]
            exact ⟨_, rfl, hfollows.next hinv hcall writable⟩
          · rw [Function.update_of_ne hid]
            exact ⟨phase, hcall, hfollows⟩
    obtain ⟨heq, phase', hcall', hfollows'⟩ := hcontent
    rw [← heq] at hfollows' ⊢
    exact ih hnext hstores.2 (fun content hmem => hsame content (List.mem_cons_of_mem _ hmem))
      hcall' hfollows'

theorem StoresHashed.of_append {steps steps' : List LoadStep}
    (h : StoresHashed hash build w (steps ++ steps')) :
    StoresHashed hash build w steps ∧
      StoresHashed hash build (runLoads hash build w steps) steps' := by
  induction steps generalizing w with
  | nil => exact ⟨trivial, h⟩
  | cons step steps ih =>
    obtain ⟨hsteps, hrest⟩ := ih h.2
    exact ⟨⟨h.1, hsteps⟩, hrest⟩

theorem transparent_of_storesHashed {content : List UInt8} {steps : List LoadStep}
    (hdigests : Set.InjOn hash.hexdigest {c | c ∈ contentsOf content steps})
    (hstores : StoresHashed hash build { content := content } steps) :
    Transparent hash build content steps := by
  rintro before id mode during after result rfl hnone hsame hreturned
  have hcontents : ∀ content', .replace content' ∈ before →
      content' ∈ {c | c ∈ contentsOf content (before ++ (.start id mode :: during ++ after))} := by
    intro content' hmem
    refine List.mem_cons_of_mem _ (List.mem_filterMap.2 ⟨_, List.mem_append_left _ hmem, rfl⟩)
  have hstart : LoadInv hash build
      {c | c ∈ contentsOf content (before ++ (.start id mode :: during ++ after))}
      { content := content } :=
    ⟨List.mem_cons_self, (fun _ _ _ _ heq => nomatch heq), (fun _ _ _ _ _ heq => nomatch heq)⟩
  obtain ⟨hbefore, hrest⟩ := hstores.of_append
  obtain ⟨hduring, -⟩ := hrest.of_append
  have hinv := hstart.run hdigests hcontents hbefore
  rw [runLoads, List.foldl_append] at hreturned
  change (runLoads hash build (runLoads hash build _ before)
    (.start id mode :: during)).calls id = _ at hreturned
  generalize runLoads hash build { content := content } before = w at hnone hreturned hinv hduring ⊢
  have hstarted : (loadStep hash build w (.start id mode)).calls id =
      some ⟨mode, .hashing []⟩ := by
    rw [loadStep, hnone]
    exact Function.update_self _ _ _
  have hcontent : (loadStep hash build w (.start id mode)).content = w.content := by
    rw [loadStep, hnone]
  have hinv' : LoadInv hash build _ (loadStep hash build w (.start id mode)) :=
    hinv.step hdigests (fun _ heq => nomatch heq) hduring.1
  obtain ⟨phase, hphase, hfollows⟩ := follows_run hdigests hinv' hduring.2 hsame hstarted
    (List.nil_prefix)
  rw [hcontent] at hfollows
  obtain rfl : phase = .returned result := by
    have := hphase.symm.trans hreturned
    cases this
    rfl
  exact congrArg _ hfollows

section
variable {content content' : List UInt8} {mode : TransportMode} {graph : RoadGraph K}

theorem next_hashing_nil (hne : content ≠ []) (hshort : content.length ≤ 2 ^ 20)
    (files : CacheFiles K) (writable : Bool) :
    LoadPhase.next hash build mode content files writable (.hashing []) =
      (.hashing content, files) := by
  rw [LoadPhase.next, List.length_nil, List.drop_zero, List.take_of_length_le hshort]
  simp [hne]

theorem next_hashing_all (files : CacheFiles K) (writable : Bool) :
    LoadPhase.next hash build mode content files writable (.hashing content) =
      (.looking content, files) := by
  rw [LoadPhase.next, List.drop_length, List.take_nil]
  rfl

theorem next_looking (files : CacheFiles K) (writable : Bool) :
    LoadPhase.next hash build mode content' files writable (.looking content) =
      match readCache files (cachePath mode (hash.hexdigest content)) with
      | some graph => (.returned (.ok graph), files)
      | none => (.reading content, files) := rfl

theorem next_reading (hbuild : build content' mode = .ok graph) (files : CacheFiles K)
    (writable : Bool) :
    LoadPhase.next hash build mode content' files writable (.reading content) =
      (.writing content content' graph, files) := by
  rw [LoadPhase.next, hbuild]

theorem next_writing (files : CacheFiles K) :
    LoadPhase.next hash build mode content' files true (.writing content content' graph) =
      (.returned (.ok graph), Function.update files (cachePath mode (hash.hexdigest content))
        (some (.graph graph))) := rfl

/-- A call overlaps two replacements of the file, which leave it as it was. -/
def overlappedSteps (mode : TransportMode) (content content' : List UInt8) : List LoadStep :=
  [.start 0 mode, .advance 0 true, .advance 0 true, .advance 0 true, .replace content',
    .advance 0 true, .advance 0 true, .replace content]

/-- Another call, for which there is a graph in the cache. -/
def followingSteps : List LoadStep := [.advance 1 true, .advance 1 true, .advance 1 true]

theorem overlapped_returns (hne : content ≠ []) (hshort : content.length ≤ 2 ^ 20)
    (hbuild : build content' mode = .ok graph) :
    (runLoads hash build { content := content } (overlappedSteps mode content content')).calls 1 =
        none ∧
      (runLoads hash build { content := content }
        (overlappedSteps mode content content')).content = content ∧
      (runLoads hash build { content := content } (overlappedSteps mode content content' ++
        .start 1 mode :: followingSteps)).calls 1 = some ⟨mode, .returned (.ok graph)⟩ := by
  simp [runLoads, overlappedSteps, followingSteps, loadStep, readCache,
    next_hashing_nil hne hshort, next_hashing_all, next_looking, next_reading hbuild, next_writing]

theorem not_transparent (hne : content ≠ []) (hshort : content.length ≤ 2 ^ 20)
    (hbuild : build content' mode = .ok graph)
    (hdiffers : (build content mode).map RoadGraph.nodes ≠ .ok graph.nodes) :
    ¬ Transparent hash build content (overlappedSteps mode content content' ++
      (.start 1 mode :: followingSteps ++ [])) := by
  intro h
  obtain ⟨hnone, hcontent, hreturned⟩ :=
    @overlapped_returns _ hash _ _ _ _ _ hne hshort hbuild
  have heq := h _ 1 mode followingSteps [] _ rfl hnone (by simp [followingSteps]) hreturned
  rw [hcontent] at heq
  exact hdiffers heq.symm

end

end

section
variable {K : Type u} [Field K] [LinearOrder K] [IsStrictOrderedRing K] [FloorRing K] [MathLib K]

/-- The graph that is built afresh; `features` are those that `_iter_features` finds in the
bytes. -/
def buildGraph (order : SetOrder (NodeId K)) (source : String)
    (features : List UInt8 → Except PyError (List (Feature K))) (content : List UInt8)
    (mode : TransportMode) : Except PyError (RoadGraph K) := do
  let features ← features content
  let nodes := (rawGraph source (profileFor mode) features).nodes.keys
  loadRoadGraph order (nodes.length + 2) source (profileFor mode) features

end

theorem buildGraph_ok (order : SetOrder (NodeId ℝ)) (source : String)
    {features : List UInt8 → Except PyError (List (Feature ℝ))} {content : List UInt8}
    (mode : TransportMode) {found : List (Feature ℝ)} (h : features content = .ok found) :
    ∃ graph, buildGraph order source features content mode = .ok graph := by
  obtain ⟨_, _, _, _, _, _, -, -, hload⟩ := loadRoadGraph_contracted order source mode found le_rfl
  exact ⟨_, by rw [buildGraph, h, ok_bind]; exact hload⟩

/-- The cache is transparent in every run that stores each graph under the digest of the bytes it
was built from. -/
theorem graph_cache_transparent {K : Type u} [Field K] [LinearOrder K] [IsStrictOrderedRing K]
    [FloorRing K] [MathLib K] (hash : Blake2b) (order : SetOrder (NodeId K)) (source : String)
    (features : List UInt8 → Except PyError (List (Feature K))) (content : List UInt8)
    (steps : List LoadStep) (hdigests : Set.InjOn hash.hexdigest {c | c ∈ contentsOf content steps})
    (hstores : StoresHashed hash (buildGraph order source features) { content := content } steps) :
    Transparent hash (buildGraph order source features) content steps :=
  transparent_of_storesHashed hdigests hstores

/-- A hash that tells one content from the others. -/
def oneDigest : Blake2b where
  hexdigest bytes := String.ofList (List.replicate 32 (if bytes = [1] then '1' else '0'))
  length_hexdigest bytes := by rw [String.length_ofList, List.length_replicate]

/-- A file with the country road, and one without any. -/
noncomputable def roadsOf (bytes : List UInt8) : Except PyError (List (Feature ℝ)) :=
  .ok (if bytes = [2] then [countryRoad] else [])

@[simp] theorem Dict.keys_empty : (Dict.empty : Dict α β).keys = [] := rfl

theorem buildGraph_empty : (buildGraph someOrder "roads.geojsonseq" roadsOf [1] .foot).map
    RoadGraph.nodes = .ok .empty := by
  have hbranching : branching ({ source := "roads.geojsonseq" } : RoadGraph ℝ) = ∅ := rfl
  simp [buildGraph, roadsOf, loadRoadGraph, rawGraph, contract, contractedChains, junctionsOf,
    hbranching, someOrder, Except.map]

theorem buildGraph_countryRoad : ∃ graph,
    buildGraph someOrder "roads.geojsonseq" roadsOf [2] .foot = .ok graph ∧
      graph.nodes ≠ .empty := by
  obtain ⟨c, hchain, -, -⟩ := countryRoads_chains someOrder
  have hfuel :
      (rawGraph "roads.geojsonseq" (profileFor .foot) [countryRoad]).nodes.keys.length + 2 = 5 := by
    rw [← countryRoads, countryRoads_keys]
    rfl
  obtain ⟨source, wayCount, attribution, hload⟩ := loadRoadGraph_eq hchain
  refine ⟨contractedGraph source wayCount attribution [c], ?_, fun hempty => ?_⟩
  · rw [buildGraph, roadsOf, if_pos rfl, ok_bind]
    dsimp only
    rw [hfuel]
    exact hload
  · have hmem : ⟨c.current, c.lengthM, c.wayId, c.tags⟩ ∈
        (contractedGraph source wayCount attribution [c]).neighbours c.anchor :=
      mem_neighbours_contractedGraph.2 ⟨c, List.mem_singleton_self c, .inl ⟨rfl, rfl⟩⟩
    rw [RoadGraph.neighbours, hempty] at hmem
    cases hmem

/-- One call, for which there is nothing in the cache. -/
def aloneSteps (id : ℕ) (mode : TransportMode) : List LoadStep :=
  [.start id mode, .advance id true, .advance id true, .advance id true, .advance id true,
    .advance id true]

/-- Between two calls the file is replaced by one without roads, and is put back after a call. -/
def restoredSteps : List LoadStep :=
  aloneSteps 0 .foot ++ .replace [1] :: aloneSteps 2 .foot ++ .replace [2] :: .start 1 .foot ::
    followingSteps

theorem injOn_oneDigest : Set.InjOn oneDigest.hexdigest {c | c ∈ contentsOf [2] restoredSteps} := by
  have hinj : ∀ bytes ∈ contentsOf [2] restoredSteps, ∀ bytes' ∈ contentsOf [2] restoredSteps,
      oneDigest.hexdigest bytes = oneDigest.hexdigest bytes' → bytes = bytes' := by decide
  exact fun bytes hbytes bytes' hbytes' heq => hinj bytes hbytes bytes' hbytes' heq

/-- The last call finds what the first has stored, and not what was stored of the other file. -/
theorem graph_cache_transparent_restored :
    Transparent oneDigest (buildGraph someOrder "roads.geojsonseq" roadsOf) [2] restoredSteps := by
  obtain ⟨graph, hbuild, -⟩ := buildGraph_countryRoad
  obtain ⟨bare, hbare⟩ := buildGraph_ok someOrder "roads.geojsonseq" .foot
    (rfl : roadsOf [1] = .ok (if [1] = [2] then [countryRoad] else []))
  have hpaths : cachePath .foot (oneDigest.hexdigest [1]) ≠
      cachePath .foot (oneDigest.hexdigest [2]) := by decide
  apply graph_cache_transparent
  · exact injOn_oneDigest
  · simp [restoredSteps, aloneSteps, followingSteps, StoresHashed, loadStep, readCache,
      next_hashing_nil (List.cons_ne_nil (2 : UInt8) []) (by decide),
      next_hashing_nil (List.cons_ne_nil (1 : UInt8) []) (by decide), next_hashing_all,
      next_looking, next_reading hbuild, next_reading hbare, next_writing, hpaths]
    constructor
    · rintro mode digested content graph' - rfl rfl -
      rfl
    · rintro mode digested content graph' - rfl rfl -
      rfl

/-- The file has no roads, and the cache gives the country road that it had in between. -/
theorem overlapped_graph_returned :
    ¬ Transparent oneDigest (buildGraph someOrder "roads.geojsonseq" roadsOf) [1]
      (overlappedSteps .foot [1] [2] ++ (.start 1 .foot :: followingSteps ++ [])) := by
  obtain ⟨graph, hbuild, hnodes⟩ := buildGraph_countryRoad
  apply not_transparent (by simp) (by simp) hbuild
  rw [buildGraph_empty]
  simpa using hnodes.symm

end Salgil
