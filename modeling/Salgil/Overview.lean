import Salgil.GbSafe
import Salgil.Incidents

namespace Salgil
set_option autoImplicit true

/-- `asyncio.gather`: the results in the order of the arguments, or the error that came first. -/
def gather (completed : List α) (f : α → Except ε β) (l : List α) : Except ε (List β) :=
  match completed.filterMap fun a => match f a with
    | .error e => some e
    | .ok _ => none with
  | e :: _ => .error e
  | [] => l.mapM f

/-- The order in which the calls end does not matter to the results. -/
theorem gather_eq_ok {completed l : List α} {f : α → Except ε β} {l' : List β}
    (hperm : completed.Perm l) : gather completed f l = .ok l' ↔ l.mapM f = .ok l' := by
  unfold gather
  split
  · next e rest herrors =>
    refine iff_of_false nofun fun hok => ?_
    have hmem : e ∈ e :: rest := List.mem_cons_self
    rw [← herrors, List.mem_filterMap] at hmem
    obtain ⟨a, ha, herror⟩ := hmem
    obtain ⟨b, -, hb⟩ := exists_mem_of_mapM_eq_ok hok (hperm.mem_iff.1 ha)
    rw [hb] at herror
    cases herror
  · exact .rfl

/-- The Korean name and the scenario of the map. -/
def Hazard.info : Hazard → String × Option String
  | .heavyRain => ("호우", some "rain")
  | .flood => ("홍수", some "flood")
  | .landslide => ("산사태", some "landslide")
  | .wildfire => ("산불", some "wildfire")
  | .typhoon => ("태풍", some "typhoon")
  | .earthquake => ("지진", some "earthquake")
  | .tsunami => ("지진해일", some "tsunami")
  | .heatwave => ("폭염", some "heatwave")
  | .coldWave => ("한파", some "coldwave")
  | .heavySnow => ("대설", some "snow")
  | .drought => ("가뭄", some "drought")
  | .chemicalAccident => ("화학사고", some "chemical")
  | .nuclear => ("원전", some "nuclear")

/-- `map_scenario` of a text that may name a hazard. -/
def mapScenario (hazard : String) : Option String :=
  (Hazard.all.find? (·.value = hazard)).bind (·.info.2)

/-- The hazards that the first screen goes through. -/
def overviewHazards : List Hazard := [.heavyRain, .flood, .landslide, .wildfire, .typhoon]

structure CapabilityMatrix where
  hazards : List CapabilityItem
  ready : List String
  partial_ : List String
  blocked : List String
  deriving DecidableEq, Repr

structure HazardSnapshot where
  hazard : String
  hazardKorean : String
  mapScenario : Option String
  readiness : String
  state : DataState
  recordCount : ℕ := 0
  complete : Bool := false
  absenceConfirmed : Bool := false
  caveat : Option String
  failedSources : List String := []
  deriving DecidableEq, Repr

structure SituationOverview where
  region : ResolvedRegion
  generatedAt : ℕ
  hazards : List HazardSnapshot
  openIncidents : ℕ
  unverifiedSources : List String
  deriving DecidableEq, Repr

/-- `for item in value`: the keys of a dictionary, the characters of a text. -/
def Json.pyIter : Json → Except GbSafeError (List Json)
  | .arr values => .ok values
  | .obj entries => .ok (entries.map fun entry => .str entry.1)
  | .str text => .ok (text.toList.map fun c => .str c.toString)
  | _ => .error (.other "TypeError")

namespace Situation

def capabilities (client : GbSafeClient) : Except GbSafeError CapabilityMatrix := do
  match ← client.cachedGet .capabilities with
  | .obj body =>
    let raw ← ((body.lookup "hazards").getD (.arr [])).pyIter
    let items ← raw.mapM (GbSafeClient.validate client.capability)
    let hazards := items.map fun item => { item with mapScenario := Salgil.mapScenario item.hazard }
    return {
      hazards := hazards
      ready := (hazards.filter (·.readiness = .ready)).map (·.hazard)
      partial_ := (hazards.filter (·.readiness = .partial_)).map (·.hazard)
      blocked := (hazards.filter (·.readiness = .blocked)).map (·.hazard) }
  | _ => .error (.other "AttributeError")

/-- The capability of a hazard; of two the later one counts. -/
def CapabilityMatrix.byHazard (matrix : CapabilityMatrix) (hazard : String) :
    Option CapabilityItem :=
  (matrix.hazards.filter (·.hazard = hazard)).getLast?

/-- A snapshot before the observation. -/
def base (matrix : CapabilityMatrix) (hazard : Hazard) : HazardSnapshot :=
  let capability := CapabilityMatrix.byHazard matrix hazard.value
  { hazard := hazard.value
    hazardKorean := hazard.info.1
    mapScenario := hazard.info.2
    readiness := (capability.map (·.readiness.value)).getD "blocked"
    state := .unverified
    caveat := capability.bind (·.caveat) }

/-- The snapshot of one hazard; only the errors of the upstream are caught. -/
def one (client : GbSafeClient) (regionName : String) (matrix : CapabilityMatrix)
    (hazard : Hazard) : Except GbSafeError HazardSnapshot :=
  match client.hazardContext regionName hazard.value with
  | .ok envelope => .ok { base matrix hazard with
      state := envelope.state
      recordCount := envelope.records.length
      complete := envelope.complete
      absenceConfirmed := envelope.absenceConfirmed
      failedSources := envelope.failedSources
      caveat := headlineCaveat envelope (CapabilityMatrix.byHazard matrix hazard.value) }
  | .error (.timeout detail) | .error (.upstream detail) => .ok { base matrix hazard with
      caveat := some ("조회 실패: " ++ pyTake 160 detail)
      failedSources := ["gbsafedata"] }
  | .error e => .error e

/-- `completed` is the order in which the calls for the hazards end. -/
def overview (client : GbSafeClient) (regionQuery : String) (openIncidents : ℕ)
    (completed : List Hazard) (now : ℕ) : Except GbSafeError SituationOverview := do
  let resolved ← resolveRegion client regionQuery
  let matrix ← capabilities client
  let regionName := orText resolved.name regionQuery
  let snapshots ← gather completed (one client regionName matrix) overviewHazards
  return {
    region := resolved
    generatedAt := now
    hazards := snapshots
    openIncidents := openIncidents
    unverifiedSources :=
      (snapshots.flatMap (·.failedSources)).dedup.insertionSort (· ≤ ·) }

end Situation

namespace GbSafeClient

/-- Nothing but an error of the upstream keeps the envelope back: what is parsed parses, or raises a
`ValueError`, and a payload fits the schema. -/
def Readable (client : GbSafeClient) (call : CachedCall) : Prop :=
  match client.cached call with
  | some payload => (client.envelope payload).isSome
  | none =>
    match client.reply call with
    | .timeout _ | .failed _ => True
    | .response status text => 400 ≤ status ∨ client.loads text = .error .valueError ∨
        ∃ payload, client.loads text = .ok payload ∧ (client.envelope payload).isSome

/-- The errors that `except UpstreamError` catches. -/
def IsUpstream (e : GbSafeError) : Prop := ∃ detail, e = .timeout detail ∨ e = .upstream detail

variable {client : GbSafeClient} {region : String} {hazard : Option String}

theorem hazardContext_of_payload {payload : Json}
    (h : client.cachedGet (.hazardContext region hazard) = .ok payload) :
    client.hazardContext region hazard =
      match client.envelope payload with
      | some env => .ok env.fromUpstream
      | none => .error .pydantic := by
  rw [hazardContext, h, ok_bind, validate]
  cases client.envelope payload <;> rfl

theorem hazardContext_of_error (h : client.cachedGet (.hazardContext region hazard) = .error e) :
    client.hazardContext region hazard = .error e := by
  rw [hazardContext, h, error_bind]

theorem hazardContext_ends (client : GbSafeClient) (region : String) (hazard : Option String) :
    Ends (fun e => IsUpstream e ∧ client.Readable (.hazardContext region hazard) ∨
        ¬ IsUpstream e ∧ ¬ client.Readable (.hazardContext region hazard))
      (fun _ => client.Readable (.hazardContext region hazard))
      (client.hazardContext region hazard) := by
  cases hcached : client.cached (.hazardContext region hazard) with
  | some payload =>
    rw [hazardContext_of_payload (by rw [cachedGet, hcached])]
    cases henvelope : client.envelope payload <;> simp [Readable, hcached, henvelope, IsUpstream]
  | none =>
    have hget : client.cachedGet (.hazardContext region hazard) =
        client.get (.hazardContext region hazard) := by rw [cachedGet, hcached]
    cases hreply : client.reply (.hazardContext region hazard) with
    | timeout exception =>
      rw [hazardContext_of_error (by rw [hget, get, hreply])]
      simp [Readable, hcached, hreply, IsUpstream]
    | failed message =>
      rw [hazardContext_of_error (by rw [hget, get, hreply])]
      simp [Readable, hcached, hreply, IsUpstream]
    | response status text =>
      simp only [get, hreply] at hget
      by_cases hstatus : 400 ≤ status
      · rw [if_pos hstatus] at hget
        rw [hazardContext_of_error hget]
        simp [Readable, hcached, hreply, IsUpstream, hstatus]
      rw [if_neg hstatus] at hget
      cases hloads : client.loads text with
      | ok payload =>
        rw [hloads] at hget
        rw [hazardContext_of_payload hget]
        cases henvelope : client.envelope payload <;>
          simp [Readable, hcached, hreply, hstatus, hloads, henvelope, IsUpstream]
      | error e =>
        rw [hloads] at hget
        cases e with
        | valueError =>
          rw [hazardContext_of_error hget]
          simp [Readable, hcached, hreply, hstatus, hloads, IsUpstream]
        | other name =>
          rw [hazardContext_of_error hget]
          simp [Readable, hcached, hreply, hstatus, hloads, IsUpstream]

end GbSafeClient

section
variable {client : GbSafeClient} {regionName regionQuery : String} {matrix : CapabilityMatrix}
variable {hazard : Hazard} {completed : List Hazard} {now openIncidents : ℕ}
variable {resolved : ResolvedRegion}

namespace Situation

theorem one_of_upstream {e : GbSafeError}
    (h : client.hazardContext regionName hazard.value = .error e)
    (hupstream : GbSafeClient.IsUpstream e) : ∃ snapshot,
      one client regionName matrix hazard = .ok snapshot ∧ snapshot.hazard = hazard.value ∧
        snapshot.state = .unverified ∧ snapshot.failedSources = ["gbsafedata"] := by
  obtain ⟨detail, rfl | rfl⟩ := hupstream <;> exact ⟨_, by rw [one, h], rfl, rfl, rfl⟩

theorem one_of_other {e : GbSafeError}
    (h : client.hazardContext regionName hazard.value = .error e)
    (hother : ¬ GbSafeClient.IsUpstream e) :
    one client regionName matrix hazard = .error e := by
  rw [one, h]
  split
  · next heq => cases heq
  · next detail heq =>
    cases heq
    exact absurd ⟨_, .inl rfl⟩ hother
  · next detail heq =>
    cases heq
    exact absurd ⟨_, .inr rfl⟩ hother
  · next heq =>
    cases heq
    rfl

theorem one_congr {client' : GbSafeClient}
    (h : client'.hazardContext regionName hazard.value =
      client.hazardContext regionName hazard.value) :
    one client' regionName matrix hazard = one client regionName matrix hazard := by
  rw [one, one, h]

theorem one_hazard {snapshot : HazardSnapshot}
    (h : one client regionName matrix hazard = .ok snapshot) : snapshot.hazard = hazard.value := by
  unfold one at h
  split at h
  · cases h
    rfl
  · cases h
    rfl
  · cases h
    rfl
  · cases h

theorem one_ok_iff : (∃ snapshot, one client regionName matrix hazard = .ok snapshot) ↔
    client.Readable (.hazardContext regionName hazard.value) := by
  have hends := client.hazardContext_ends regionName hazard.value
  cases hcontext : client.hazardContext regionName hazard.value with
  | ok env => exact iff_of_true ⟨_, by rw [one, hcontext]⟩ (hends.of_ok hcontext)
  | error e =>
    rcases hends.of_error hcontext with ⟨hupstream, hread⟩ | ⟨hother, hunread⟩
    · obtain ⟨snapshot, hok, -⟩ := @one_of_upstream _ _ matrix _ _ hcontext hupstream
      exact iff_of_true ⟨snapshot, hok⟩ hread
    · refine iff_of_false ?_ hunread
      rw [one_of_other hcontext hother]
      exact nofun

/-- The calls for the hazards have a cache key each, so that none is answered by another. -/
theorem overview_keys (regionName : String) :
    (overviewHazards.map fun hazard =>
      (CachedCall.hazardContext regionName hazard.value).key).Nodup := by
  have hvalues : (overviewHazards.map fun hazard => hazardTag hazard.value).Nodup := by decide
  have hjoined : (fun hazard : Hazard => (CachedCall.hazardContext regionName hazard.value).key) =
      (fun tag => "context:" ++ regionName ++ ":" ++ tag) ∘ fun hazard => hazardTag hazard.value :=
    rfl
  rw [hjoined, ← List.map_map]
  exact hvalues.map fun tag tag' h => (String.append_right_inj _).1 h

theorem overview_eq_ok {result : SituationOverview}
    (hresolved : resolveRegion client regionQuery = .ok resolved)
    (hmatrix : capabilities client = .ok matrix) (hcompleted : completed.Perm overviewHazards) :
    overview client regionQuery openIncidents completed now = .ok result ↔
      ∃ snapshots, overviewHazards.mapM (one client (orText resolved.name regionQuery) matrix) =
          .ok snapshots ∧
        result = ⟨resolved, now, snapshots, openIncidents,
          (snapshots.flatMap (·.failedSources)).dedup.insertionSort (· ≤ ·)⟩ := by
  rw [overview, hresolved, ok_bind, hmatrix, ok_bind, bind_eq_ok]
  refine exists_congr fun snapshots => and_congr (gather_eq_ok hcompleted) ?_
  rw [pure_eq_ok, Except.ok.injEq, eq_comm]

theorem one_not_obtained (hread : client.Readable (.hazardContext regionName hazard.value))
    (hnot : ¬ ∃ env, client.hazardContext regionName hazard.value = .ok env)
    {snapshot : HazardSnapshot} (hone : one client regionName matrix hazard = .ok snapshot) :
    snapshot.state = .unverified ∧ snapshot.failedSources = ["gbsafedata"] := by
  have hends := client.hazardContext_ends regionName hazard.value
  cases hcontext : client.hazardContext regionName hazard.value with
  | ok env => exact absurd ⟨env, hcontext⟩ hnot
  | error e =>
    rcases hends.of_error hcontext with ⟨hupstream, -⟩ | ⟨-, hunread⟩
    · obtain ⟨shown, hshown, -, hstate, hsources⟩ := one_of_upstream hcontext hupstream
      obtain rfl : shown = snapshot := Except.ok.inj (hshown.symm.trans hone)
      exact ⟨hstate, hsources⟩
    · exact absurd hread hunread

end Situation

/-- The context of the hazard is obtained and read. -/
def Obtained (client : GbSafeClient) (regionName : String) (hazard : Hazard) : Prop :=
  ∃ env, client.hazardContext regionName hazard.value = .ok env

/-- A run in which every context is obtained, those of the other run among them. -/
structure AllSucceed (client client' : GbSafeClient) (regionQuery : String)
    (resolved : ResolvedRegion) (matrix : CapabilityMatrix) : Prop where
  resolved_eq : Situation.resolveRegion client' regionQuery = .ok resolved
  matrix_eq : Situation.capabilities client' = .ok matrix
  obtained : ∀ hazard ∈ overviewHazards,
    Obtained client' (orText resolved.name regionQuery) hazard
  same_context : ∀ hazard ∈ overviewHazards,
    Obtained client (orText resolved.name regionQuery) hazard →
      client'.hazardContext (orText resolved.name regionQuery) hazard.value =
        client.hazardContext (orText resolved.name regionQuery) hazard.value

/-- The overview is there with a snapshot for each hazard in order. A hazard whose context is not
obtained shows it, and any other one looks as if all calls had succeeded. -/
structure Isolated (client : GbSafeClient) (regionQuery : String) (resolved : ResolvedRegion)
    (matrix : CapabilityMatrix) (openIncidents : ℕ) (completed : List Hazard) (now : ℕ)
    (result : SituationOverview) : Prop where
  returned : Situation.overview client regionQuery openIncidents completed now = .ok result
  in_order : result.hazards.map (·.hazard) = overviewHazards.map (·.value)
  shown : List.Forall₂ (fun hazard snapshot =>
    ¬ Obtained client (orText resolved.name regionQuery) hazard →
      snapshot.state = .unverified ∧ snapshot.failedSources ≠ [] ∧
        ∀ source ∈ snapshot.failedSources, source ∈ result.unverifiedSources)
    overviewHazards result.hazards
  untouched : ∀ client' completed' now' result',
    AllSucceed client client' regionQuery resolved matrix → completed'.Perm overviewHazards →
    Situation.overview client' regionQuery openIncidents completed' now' = .ok result' →
    ∀ (i : ℕ) hazard, overviewHazards[i]? = some hazard →
      Obtained client (orText resolved.name regionQuery) hazard →
      result.hazards[i]? = result'.hazards[i]?

/-- One failing hazard leaves the others alone, if and only if each call for a hazard can be
read. -/
theorem isolated_iff (hresolved : Situation.resolveRegion client regionQuery = .ok resolved)
    (hmatrix : Situation.capabilities client = .ok matrix)
    (hcompleted : completed.Perm overviewHazards) :
    (∃ result, Isolated client regionQuery resolved matrix openIncidents completed now result) ↔
      ∀ hazard ∈ overviewHazards,
        client.Readable (.hazardContext (orText resolved.name regionQuery) hazard.value) := by
  constructor
  · intro ⟨result, hisolated⟩ hazard hmem
    obtain ⟨snapshots, hok, -⟩ :=
      (Situation.overview_eq_ok hresolved hmatrix hcompleted).1 hisolated.returned
    obtain ⟨snapshot, -, hone⟩ := exists_mem_of_mapM_eq_ok hok hmem
    exact Situation.one_ok_iff.1 ⟨snapshot, hone⟩
  · intro hreadable
    obtain ⟨snapshots, hok⟩ := exists_mapM_eq_ok fun hazard hmem =>
      (@Situation.one_ok_iff _ _ matrix _).2 (hreadable hazard hmem)
    have heach := mapM_eq_ok.1 hok
    refine ⟨_, (Situation.overview_eq_ok hresolved hmatrix hcompleted).2 ⟨snapshots, hok, rfl⟩,
      ?_, ?_, ?_⟩
    · have hnames : List.Forall₂ (· = ·) (snapshots.map (·.hazard))
          (overviewHazards.map (·.value)) := by
        rw [List.forall₂_map_left_iff, List.forall₂_map_right_iff]
        exact (heach.imp fun _ _ => Situation.one_hazard).flip
      rwa [List.forall₂_eq_eq_eq] at hnames
    · obtain ⟨hlength, hget⟩ := List.forall₂_iff_get.1 heach
      refine List.forall₂_iff_get.2 ⟨hlength, fun i hi hi' hnot => ?_⟩
      obtain ⟨hstate, hsources⟩ := Situation.one_not_obtained
        (hreadable _ (List.get_mem _ _)) hnot (hget i hi hi')
      refine ⟨hstate, hsources.symm ▸ List.cons_ne_nil _ _, fun source hsource => ?_⟩
      rw [List.mem_insertionSort, List.mem_dedup, List.mem_flatMap]
      exact ⟨_, List.get_mem _ _, hsource⟩
    · intro client' completed' now' result' hall hcompleted' hrun i hazard hi hobtained
      obtain ⟨snapshots', hok', rfl⟩ :=
        (Situation.overview_eq_ok hall.resolved_eq hall.matrix_eq hcompleted').1 hrun
      have hcontext := hall.same_context hazard (List.mem_of_getElem? hi) hobtained
      rcases forall₂_getElem? heach i with ⟨hnone, -⟩ | ⟨hazard₁, snapshot, hi₁, hs, hone⟩
      · simp [hi] at hnone
      rcases forall₂_getElem? (mapM_eq_ok.1 hok') i with
        ⟨hnone, -⟩ | ⟨hazard₂, snapshot', hi₂, hs', hone'⟩
      · simp [hi] at hnone
      obtain rfl : hazard = hazard₁ := Option.some.inj (hi.symm.trans hi₁)
      obtain rfl : hazard = hazard₂ := Option.some.inj (hi.symm.trans hi₂)
      rw [Situation.one_congr hcontext] at hone'
      obtain rfl : snapshot = snapshot' := Except.ok.inj (hone.symm.trans hone')
      exact hs.trans hs'.symm

end

/-- An upstream that resolves the region and knows no capabilities; what it says of wildfires is
left open, and everything else it answers with an empty envelope. -/
def upstreamBut (wildfire : UpstreamReply) : GbSafeClient where
  reply
    | .resolveRegion _ => .response 200 "\x7b\"found\": true, \"name\": \"문경시\"\x7d"
    | .hazardContext _ (some "wildfire") => wildfire
    | _ => .response 200 "{}"
  cached _ := none
  loads text :=
    if text = "{}" then .ok (.obj [])
    else if text = "[]" then .ok (.arr [])
    else .ok (.obj [("found", .bool true), ("name", .str "문경시")])
  region
    | .obj [("found", .bool found), ("name", .str name)] =>
      some { found := found, name := some name }
    | _ => none
  capability _ := none
  envelope
    | .obj [] => some {}
    | _ => none

def munGyeong : ResolvedRegion := { found := true, name := some "문경시" }

def noCapabilities : CapabilityMatrix := ⟨[], [], [], []⟩

/-- Without an answer for wildfires, which comes first, the other hazards are shown. -/
theorem isolated_iff_wildfire : ∃ result,
    Isolated (upstreamBut (.timeout "ReadTimeout")) "문경" munGyeong noCapabilities 2
      [.wildfire, .heavyRain, .flood, .landslide, .typhoon] 0 result := by
  refine (isolated_iff rfl rfl (by decide)).2 ?_
  intro hazard hmem
  have hempty (text : String) (h : text = "{}") :
      400 ≤ 200 ∨ (upstreamBut (.timeout "ReadTimeout")).loads text = .error .valueError ∨
        ∃ payload, (upstreamBut (.timeout "ReadTimeout")).loads text = .ok payload ∧
          ((upstreamBut (.timeout "ReadTimeout")).envelope payload).isSome := by
    subst h
    exact .inr (.inr ⟨.obj [], rfl, rfl⟩)
  simp only [overviewHazards, List.mem_cons, List.not_mem_nil, or_false] at hmem
  rcases hmem with rfl | rfl | rfl | rfl | rfl
  · exact hempty _ rfl
  · exact hempty _ rfl
  · exact hempty _ rfl
  · trivial
  · exact hempty _ rfl

/-- An answer for wildfires that is no envelope takes the overview down. -/
theorem unfit_context_raises :
    Situation.overview (upstreamBut (.response 200 "[]")) "문경" 2 overviewHazards 0 =
      .error .pydantic ∧
    ¬ ∃ result, Isolated (upstreamBut (.response 200 "[]")) "문경" munGyeong noCapabilities 2
      overviewHazards 0 result := by
  have hraises : Situation.overview (upstreamBut (.response 200 "[]")) "문경" 2 overviewHazards 0 =
      .error .pydantic := rfl
  refine ⟨hraises, fun ⟨result, hisolated⟩ => ?_⟩
  have hok := hisolated.returned
  rw [hraises] at hok
  cases hok

end Salgil
