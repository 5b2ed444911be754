import Salgil.Drills
import Salgil.Workflow

namespace Salgil
set_option autoImplicit true

structure CommunityCreate (K : Type u) where
  regionCode : String
  name : String
  households : Option ℤ := none
  lat : Option K := none
  lon : Option K := none
  dataMode : String := "synthetic"

structure ShelterCreate (K : Type u) where
  regionCode : String
  name : String
  hazards : List String
  lat : Option K := none
  lon : Option K := none
  capacity : Option ℤ := none
  capacityBasis : Option String := some "annual_file"

/-- The requests that write, with those of the map and of the chat. -/
inductive Operation (K : Type) where
  | workflow (request : Request K)
  | declareIncident (resolved : Option String) (payload : IncidentCreate)
  | updateIncident (incidentId : Uuid) (payload : IncidentUpdate)
  | startDrill (arguments : Drills.Arguments)
  | createCommunity (payload : CommunityCreate K)
  | createShelter (payload : ShelterCreate K)

/-- An operation with the name of the caller and the time of the call. -/
structure Entry (K : Type) where
  actor : String
  now : Timestamp
  operation : Operation K

section
variable {K : Type}

namespace Communities

def createCommunity (db : Database K) (payload : CommunityCreate K) : Database K :=
  { db with
    communities := db.communities ++ [{
      id := db.nextId
      regionCode := payload.regionCode
      name := payload.name
      households := payload.households
      lat := payload.lat
      lon := payload.lon
      dataMode := payload.dataMode }]
    nextId := db.nextId + 1 }

def createShelter (db : Database K) (payload : ShelterCreate K) : Database K :=
  { db with
    shelters := db.shelters ++ [{
      id := db.nextId
      regionCode := payload.regionCode
      name := payload.name
      lat := payload.lat
      lon := payload.lon
      capacity := payload.capacity
      capacityBasis := payload.capacityBasis
      hazards := payload.hazards }]
    nextId := db.nextId + 1 }

end Communities

/-- What the routes do with an operation; a region without a name goes by its code. -/
def Entry.handle (entry : Entry K) (db : Database K) : Except PyError (Database K) := do
  match entry.operation with
  | .workflow request => Call.handle ⟨entry.actor, entry.now, request⟩ db
  | .declareIncident resolved payload =>
    let regionName := (resolved.filter (· ≠ "")).getD payload.regionCode
    return (← Incidents.create db entry.now entry.actor regionName payload).2.2
  | .updateIncident incidentId payload =>
    return (← Incidents.update db entry.now entry.actor incidentId payload).2
  | .startDrill arguments =>
    return match (← Drills.startDrill db entry.now arguments).2 with
      | some (_, db) => db
      | none => db
  | .createCommunity payload => return Communities.createCommunity db payload
  | .createShelter payload => return Communities.createShelter db payload

/-- A refused operation is rolled back. -/
def perform (db : Database K) (entry : Entry K) : Database K :=
  match entry.handle db with
  | .ok db => db
  | .error _ => db

def runEntries (db : Database K) (entries : List (Entry K)) : Database K :=
  entries.foldl perform db

/-- What an operation that is not refused was handled by. -/
inductive Handled (entry : Entry K) (db db' : Database K) : Prop where
  | workflow (request : Request K) : entry.operation = .workflow request →
      Call.handle ⟨entry.actor, entry.now, request⟩ db = .ok db' → Handled entry db db'
  | declared (actor regionName : String) (payload : IncidentCreate) (incident : Incident)
      (event : Event) : (∀ request, entry.operation ≠ .workflow request) →
      Incidents.create db entry.now actor regionName payload = .ok (incident, event, db') →
      Handled entry db db'
  | updated (incidentId : Uuid) (payload : IncidentUpdate) (incident : Incident) :
      (∀ request, entry.operation ≠ .workflow request) →
      Incidents.update db entry.now entry.actor incidentId payload = .ok (incident, db') →
      Handled entry db db'
  | declined : (∀ request, entry.operation ≠ .workflow request) → db' = db → Handled entry db db'
  | community (payload : CommunityCreate K) : (∀ request, entry.operation ≠ .workflow request) →
      db' = Communities.createCommunity db payload → Handled entry db db'
  | shelter (payload : ShelterCreate K) : (∀ request, entry.operation ≠ .workflow request) →
      db' = Communities.createShelter db payload → Handled entry db db'

theorem Entry.handled {entry : Entry K} {db db' : Database K} (h : entry.handle db = .ok db') :
    Handled entry db db' := by
  unfold handle at h
  split at h
  · next request hoperation => exact .workflow request hoperation h
  · next resolved payload hoperation =>
    obtain ⟨⟨incident, event, _⟩, hcreate, h⟩ := bind_eq_ok.1 h
    cases h
    exact .declared _ _ payload incident event (by simp [hoperation]) hcreate
  · next incidentId payload hoperation =>
    obtain ⟨⟨incident, _⟩, hupdate, h⟩ := bind_eq_ok.1 h
    cases h
    exact .updated incidentId payload incident (by simp [hoperation]) hupdate
  · next arguments hoperation =>
    obtain ⟨⟨reply, opened⟩, hstart, h⟩ := bind_eq_ok.1 h
    cases h
    obtain ⟨request, -, hstart⟩ := bind_eq_ok.1 hstart
    cases request with
    | error reply =>
      cases hstart
      exact .declined (by simp [hoperation]) rfl
    | ok request =>
      obtain ⟨⟨reply, event, _⟩, hopened, hstart⟩ := bind_eq_ok.1 hstart
      cases hstart
      obtain ⟨⟨incident, event, _⟩, hcreate, hopened⟩ := bind_eq_ok.1 hopened
      cases hopened
      exact .declared _ _ _ incident event (by simp [hoperation]) hcreate
  · next payload hoperation =>
    cases h
    exact .community payload (by simp [hoperation]) rfl
  · next payload hoperation =>
    cases h
    exact .shelter payload (by simp [hoperation]) rfl

end

end Salgil
