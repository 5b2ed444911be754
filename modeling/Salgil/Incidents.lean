import Salgil.FieldWork

namespace Salgil
set_option autoImplicit true

inductive Hazard where
  | heavyRain
  | flood
  | landslide
  | wildfire
  | typhoon
  | earthquake
  | tsunami
  | heatwave
  | coldWave
  | heavySnow
  | drought
  | chemicalAccident
  | nuclear
  deriving DecidableEq, Repr

def Hazard.value : Hazard → String
  | .heavyRain => "heavy_rain"
  | .flood => "flood"
  | .landslide => "landslide"
  | .wildfire => "wildfire"
  | .typhoon => "typhoon"
  | .earthquake => "earthquake"
  | .tsunami => "tsunami"
  | .heatwave => "heatwave"
  | .coldWave => "cold_wave"
  | .heavySnow => "heavy_snow"
  | .drought => "drought"
  | .chemicalAccident => "chemical_accident"
  | .nuclear => "nuclear"

def Hazard.all : List Hazard :=
  [.heavyRain, .flood, .landslide, .wildfire, .typhoon, .earthquake, .tsunami, .heatwave, .coldWave,
    .heavySnow, .drought, .chemicalAccident, .nuclear]

/-- `Hazard(value)`. -/
def Hazard.ofValue (value : String) : Except PyError Hazard :=
  match all.find? (·.value = value) with
  | some hazard => .ok hazard
  | none => .error (.valueError ("'" ++ value ++ "' is not a valid Hazard"))

structure IncidentCreate where
  title : String
  regionCode : String
  hazard : Hazard
  level : ℕ := 1
  summary : Option String := none
  code : Option String := none
  openingEvidence : Option JsonObject := none
  title_ok : title.length ≤ 200
  level_ok : 1 ≤ level ∧ level ≤ 3

structure IncidentUpdate where
  title : Option String := none
  level : Option ℕ := none
  status : Option IncidentStatus := none
  summary : Option String := none
  level_ok : ∀ n ∈ level, 1 ≤ n ∧ n ≤ 3

/-- One message of the stream. -/
structure Event where
  kind : String
  data : JsonObject
  incidentId : Option String

/-- The decimal text of a number, with zeros in front up to a width. -/
def padded (width n : ℕ) : String :=
  let digits := toString n
  "".pushn '0' (width - digits.length) ++ digits

/-- Year, month and day of a moment, counted from the start of 1970. -/
def civilDate (now : Timestamp) : ℕ × ℕ × ℕ :=
  -- days since the first of March of year 0, in eras of 400 years
  let days := now / 86400 + 719468
  let era := days / 146097
  let dayOfEra := days % 146097
  let yearOfEra := (dayOfEra - dayOfEra / 1460 + dayOfEra / 36524 - dayOfEra / 146096) / 365
  let dayOfYear := dayOfEra - (365 * yearOfEra + yearOfEra / 4 - yearOfEra / 100)
  let march := (5 * dayOfYear + 2) / 153
  let month := if march < 10 then march + 3 else march - 9
  (yearOfEra + era * 400 + if month ≤ 2 then 1 else 0, month, dayOfYear - (153 * march + 2) / 5 + 1)

/-- What a payload changes of a value: what it gives, if that is another value. -/
def differing [DecidableEq α] (value : Option α) (current : α) : Option α :=
  value.filter (· ≠ current)

/-- An empty dictionary of changes is false. -/
def IncidentChanges.isEmpty (changes : IncidentChanges) : Bool :=
  changes.title.isNone ∧ changes.summary.isNone ∧ changes.level.isNone ∧ changes.status.isNone

/-- The keys of the changes, in their order. -/
def IncidentChanges.keys (changes : IncidentChanges) : List String :=
  (if changes.title.isSome then ["title"] else []) ++
    (if changes.summary.isSome then ["summary"] else []) ++
    (if changes.level.isSome then ["level"] else []) ++
    if changes.status.isSome then ["status"] else []

section
variable {K : Type}

def Database.addIncident (db : Database K) (incident : Incident) : Database K :=
  { db with incidents := db.incidents ++ [incident], nextId := db.nextId + 1 }

def Database.updateIncident (db : Database K) (id : Uuid) (write : Incident → Incident) :
    Database K :=
  { db with
    incidents := db.incidents.map fun incident => if incident.id = id then write incident
      else incident }

namespace Incidents

/-- YYYY-MMDD-NN. -/
def nextIncidentCode (db : Database K) (now : Timestamp) : String :=
  let (year, month, day) := civilDate now
  let start := toString year ++ "-" ++ padded 2 month ++ padded 2 day
  let count := (db.incidents.filter fun incident => pyStartsWith incident.code start).length
  start ++ "-" ++ padded 2 (count + 1)

/-- The message that a new incident goes out with. -/
def declaredEvent (incident : Incident) : Event :=
  let evidence := incident.openingEvidence.getD []
  let lat := evidence.get "lat"
  let lon := evidence.get "lon"
  { kind := "incident.declared"
    data := [("incident_id", .str (toString incident.id)), ("code", .str incident.code),
      ("title", .str incident.title), ("hazard", .str incident.hazard),
      ("region_code", .str incident.regionCode), ("region_name", .str incident.regionName),
      ("drill", .bool (evidence.get "drill").truthy),
      ("mode", (evidence.lookup "mode").getD (.str "live"))] ++
      match lat, lon with
      | .null, _ | _, .null => []
      | lat, lon => [("lat", lat), ("lon", lon)]
    incidentId := some (toString incident.id) }

/-- The row, the message that waits for the commit, and the database. -/
def create (db : Database K) (now : Timestamp) (actor regionName : String)
    (payload : IncidentCreate) : Except PyError (Incident × Event × Database K) :=
  let code := (payload.code.filter (· ≠ "")).getD (nextIncidentCode db now)
  let incident : Incident := {
    id := db.nextId
    code := code
    title := payload.title
    regionCode := payload.regionCode
    regionName := regionName
    hazard := payload.hazard.value
    level := payload.level
    status := .open
    summary := payload.summary
    declaredBy := actor
    declaredAt := now
    closedAt := none
    closedBy := none
    openingEvidence := payload.openingEvidence }
  if db.incidents.any (·.code = code) then
    .error (.salgil (.conflict ("상황 코드 " ++ code ++ " 가 이미 있습니다")))
  else
    .ok (incident, declaredEvent incident, Audit.record (db.addIncident incident) now actor
      (.incidentDeclared code payload.level) (some incident.id) (some incident.id)
      (regionName ++ " " ++ payload.hazard.value ++ " 상황 개시 (대응 " ++
        toString payload.level ++ "단계)"))

theorem create_eq_ok {db db' : Database K} {incident : Incident} {now : Timestamp}
    {actor regionName : String} {payload : IncidentCreate} {event : Event}
    (h : create db now actor regionName payload = .ok (incident, event, db')) :
    incident.id = db.nextId ∧ incident.level = payload.level ∧ incident.status = .open ∧
      incident.closedAt = none ∧ incident.closedBy = none ∧ event = declaredEvent incident ∧
      db' = { db with
        incidents := db.incidents ++ [incident]
        events := db'.events
        nextId := db.nextId + 1 + 1 } ∧
      ∃ e, db'.events = db.events ++ [e] ∧ e.incidentId = some incident.id ∧
        e.action = .incidentDeclared incident.code payload.level := by
  simp only [create] at h
  split at h
  · cases h
  · cases h
    exact ⟨rfl, rfl, rfl, rfl, rfl, rfl, rfl, _, rfl, rfl, rfl⟩

/-- The fields that the payload gives another value. -/
def changes (payload : IncidentUpdate) (incident : Incident) : IncidentChanges where
  title := differing payload.title incident.title
  summary := payload.summary.filter (some · ≠ incident.summary)
  level := differing payload.level incident.level
  status := differing payload.status incident.status

/-- The row with the changes; another status also sets or clears the closing. -/
def changed (changes : IncidentChanges) (now : Timestamp) (actor : String) (incident : Incident) :
    Incident :=
  { incident with
    title := changes.title.getD incident.title
    summary := changes.summary.or incident.summary
    level := changes.level.getD incident.level
    status := changes.status.getD incident.status
    closedAt := match changes.status with
      | none => incident.closedAt
      | some status => if status = .closed then some now else none
    closedBy := match changes.status with
      | none => incident.closedBy
      | some status => if status = .closed then some actor else none }

def update (db : Database K) (now : Timestamp) (actor : String) (incidentId : Uuid)
    (payload : IncidentUpdate) : Except PyError (Incident × Database K) := do
  let incident ← get db incidentId
  let changes := changes payload incident
  if changes.isEmpty then return (incident, db)
  else
    let write := changed changes now actor
    return (write incident, Audit.record (db.updateIncident incident.id write) now actor
      (.incidentUpdated changes) (some incident.id) (some incident.id)
      ("상황 " ++ incident.code ++ " 변경: " ++ ", ".intercalate changes.keys))

theorem update_eq_ok {db db' : Database K} {now : Timestamp} {actor : String} {incidentId : Uuid}
    {payload : IncidentUpdate} {updated : Incident}
    (h : update db now actor incidentId payload = .ok (updated, db')) :
    ∃ incident summary, get db incidentId = .ok incident ∧ (db' = db ∨
      db' = Audit.record (db.updateIncident incident.id (changed (changes payload incident) now
          actor)) now actor (.incidentUpdated (changes payload incident)) (some incident.id)
        (some incident.id) summary) := by
  obtain ⟨incident, hget, h⟩ := bind_eq_ok.1 h
  simp only at h
  split at h
  · cases h
    exact ⟨updated, "", hget, .inl rfl⟩
  · cases h
    exact ⟨incident, _, hget, .inr rfl⟩

end Incidents

end

end Salgil
