import Salgil.Database
import Salgil.GbSafe

namespace Salgil
set_option autoImplicit true

/-- The incidents, and what the database answers to the query for the open ones of a region, the
last declared first. -/
structure IncidentTable where
  incidents : List Incident
  select : String → Except GbSafeError (List Incident)
  select_perm : ∀ {name rows}, select name = .ok rows →
    rows.Perm (incidents.filter fun i => i.regionName = name ∧ i.status ≠ .closed)
  select_sorted : ∀ {name rows}, select name = .ok rows →
    rows.Pairwise fun i j => j.declaredAt ≤ i.declaredAt

structure ActiveIncident where
  code : String
  hazard : String
  level : ℕ
  title : String
  declaredAt : Timestamp
  deriving DecidableEq, Repr

def Incident.active (i : Incident) : ActiveIncident :=
  ⟨i.code, i.hazard, i.level, i.title, i.declaredAt⟩

/-- The response of the resident screen. -/
structure PublicStatus where
  regionCode : Option String
  regionName : String
  activeIncidents : List ActiveIncident
  observationState : DataState
  caveat : Option String
  emergencyNumbers : List (String × String) :=
    [("fire_rescue", "119"), ("police", "112"), ("disaster", "행정안전부 재난안전")]
  notice : String := "이 화면은 안내입니다. 대피 지시는 담당 공무원과 재난문자를 따르세요."
  generatedAt : Timestamp
  deriving DecidableEq, Repr

def publicStatus (client : GbSafeClient) (table : IncidentTable) (region : String)
    (now : Timestamp) : Except GbSafeError PublicStatus := do
  let resolved ← Situation.resolveRegion client region
  let regionName := orText resolved.name region
  let rows ← table.select regionName
  -- only this call is protected
  let (state, caveat) :=
    match client.hazardContext regionName with
    | .ok envelope => (envelope.state, Situation.headlineCaveat envelope none)
    | .error e => (.unverified, some ("현재 관측을 확인하지 못했습니다 (" ++ e.name ++
        ") — 안전하다는 뜻이 아닙니다"))
  return {
    regionCode := resolved.code
    regionName := regionName
    activeIncidents := rows.map (·.active)
    observationState := state
    caveat := caveat
    generatedAt := now }

/-- The calls of the client while the screen is served. -/
def publicStatusCalls (client : GbSafeClient) (table : IncidentTable) (region : String) :
    List CachedCall :=
  .resolveRegion region ::
    match Situation.resolveRegion client region with
    | .error _ => []
    | .ok resolved =>
      match table.select (orText resolved.name region) with
      | .error _ => []
      | .ok _ => [.hazardContext (orText resolved.name region) none]

/-- The caveat ends in the words that this does not mean safe. -/
def SaysNotSafe (caveat : Option String) : Prop :=
  ∃ before, caveat = some (before ++ "안전하다는 뜻이 아닙니다")

/-- The screen has a response with the open incidents of the region, and owns up to every request
that has failed and to an observation that does not fit its schema. -/
structure Survives (client : GbSafeClient) (table : IncidentTable) (region : String)
    (now : Timestamp) (response : PublicStatus) : Prop where
  returned : publicStatus client table region now = .ok response
  listed : ∃ rows : List Incident, response.activeIncidents = rows.map (·.active) ∧
    rows.Pairwise (fun i j => j.declaredAt ≤ i.declaredAt) ∧
    rows.Perm (table.incidents.filter fun i =>
      i.regionName = response.regionName ∧ i.status ≠ .closed)
  warned : ∀ call ∈ publicStatusCalls client table region, client.Fails call →
    response.observationState = .unverified ∧ SaysNotSafe response.caveat
  unfit : ∀ payload, client.Answers (.hazardContext response.regionName none) payload →
    client.envelope payload = none →
    response.observationState = .unverified ∧ SaysNotSafe response.caveat

section
variable {client : GbSafeClient} {table : IncidentTable} {region : String} {now : Timestamp}

theorem GbSafeClient.validate_eq_ok {schema : Json → Option α} {payload : Json} {value : α} :
    GbSafeClient.validate schema payload = .ok value ↔ schema payload = some value := by
  unfold GbSafeClient.validate
  split <;> simp_all

theorem Situation.resolveRegion_eq_ok {resolved : ResolvedRegion} :
    Situation.resolveRegion client region = .ok resolved ↔
      ∃ payload, client.Answers (.resolveRegion region) payload ∧
        client.region payload = some resolved := by
  simp only [Situation.resolveRegion, bind_eq_ok, GbSafeClient.cachedGet_eq_ok,
    GbSafeClient.validate_eq_ok]

theorem GbSafeClient.Fails.cachedGet (h : client.Fails call) :
    ∃ e, client.cachedGet call = .error e := by
  obtain ⟨hcached, e, he⟩ := h
  exact ⟨e, by rw [GbSafeClient.cachedGet, hcached, he]⟩

theorem GbSafeClient.Fails.hazardContext {hazard : Option String}
    (h : client.Fails (.hazardContext region hazard)) :
    ∃ e, client.hazardContext region hazard = .error e := by
  obtain ⟨e, he⟩ := h.cachedGet
  exact ⟨e, by rw [GbSafeClient.hazardContext, he, error_bind]⟩

/-- After the region and the rows nothing ends the handler. -/
theorem publicStatus_eq {resolved : ResolvedRegion} {rows : List Incident}
    (hresolved : Situation.resolveRegion client region = .ok resolved)
    (hrows : table.select (orText resolved.name region) = .ok rows) :
    ∃ state caveat, publicStatus client table region now = .ok {
        regionCode := resolved.code
        regionName := orText resolved.name region
        activeIncidents := rows.map (·.active)
        observationState := state
        caveat := caveat
        generatedAt := now } ∧
      ∀ e, client.hazardContext (orText resolved.name region) = .error e →
        state = .unverified ∧ SaysNotSafe caveat := by
  simp only [publicStatus, hresolved, ok_bind, hrows]
  cases hcontext : client.hazardContext (orText resolved.name region) with
  | ok envelope => exact ⟨_, _, rfl, nofun⟩
  | error e =>
    refine ⟨_, _, rfl, fun e' _ => ⟨rfl, "현재 관측을 확인하지 못했습니다 (" ++ e.name ++ ") — ", ?_⟩⟩
    simp [String.append_assoc]

/-- The screen survives, if and only if the lookup of the region gets an answer that fits, and the
database answers. -/
theorem survives_iff :
    (∃ response, Survives client table region now response) ↔
      ∃ payload resolved rows, client.Answers (.resolveRegion region) payload ∧
        client.region payload = some resolved ∧
        table.select (orText resolved.name region) = .ok rows := by
  constructor
  · intro ⟨response, hsurvives⟩
    have hok := hsurvives.returned
    simp only [publicStatus, bind_eq_ok] at hok
    obtain ⟨resolved, hresolved, rows, hrows, -⟩ := hok
    obtain ⟨payload, hanswers, hvalid⟩ := Situation.resolveRegion_eq_ok.1 hresolved
    exact ⟨payload, resolved, rows, hanswers, hvalid, hrows⟩
  · intro ⟨payload, resolved, rows, hanswers, hvalid, hrows⟩
    have hresolved := Situation.resolveRegion_eq_ok.2 ⟨payload, hanswers, hvalid⟩
    obtain ⟨state, caveat, hok, hcaught⟩ := publicStatus_eq hresolved hrows
    refine ⟨_, hok, ⟨rows, rfl, table.select_sorted hrows, table.select_perm hrows⟩, ?_, ?_⟩
    · intro call hcall hfails
      simp only [publicStatusCalls, hresolved, hrows, List.mem_cons, List.not_mem_nil,
        or_false] at hcall
      rcases hcall with rfl | rfl
      · obtain ⟨e, he⟩ := hfails.cachedGet
        rw [GbSafeClient.cachedGet_eq_ok.2 hanswers] at he
        cases he
      · obtain ⟨e, he⟩ := hfails.hazardContext
        exact hcaught e he
    · intro payload hanswers hunfit
      apply hcaught .pydantic
      rw [GbSafeClient.hazardContext, GbSafeClient.cachedGet_eq_ok.2 hanswers, ok_bind,
        GbSafeClient.validate, hunfit]
      rfl

end

/-- The upstream is down, and nothing is in the cache. -/
def deadUpstream : GbSafeClient where
  reply _ := .timeout "ConnectTimeout"
  cached _ := none
  loads _ := .error .valueError
  region _ := none
  capability _ := none
  envelope _ := none

def noIncidents : IncidentTable where
  incidents := []
  select _ := .ok []
  select_perm h := by
    cases h
    exact .nil
  select_sorted h := by
    cases h
    exact .nil

/-- The lookup of the region is outside the `try`: the resident gets an error. -/
theorem dead_upstream_raises :
    publicStatus deadUpstream noIncidents "문경시" 0 =
      .error (.timeout "/v1/regions/resolve 응답이 시간 안에 오지 않았습니다 (ConnectTimeout)") ∧
    ¬ ∃ response, Survives deadUpstream noIncidents "문경시" 0 response := by
  have hraises : publicStatus deadUpstream noIncidents "문경시" 0 =
      .error (.timeout "/v1/regions/resolve 응답이 시간 안에 오지 않았습니다 (ConnectTimeout)") :=
    rfl
  refine ⟨hraises, fun ⟨response, hsurvives⟩ => ?_⟩
  have hok := hsurvives.returned
  rw [hraises] at hok
  cases hok

end Salgil
