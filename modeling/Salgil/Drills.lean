import Salgil.Incidents
import Salgil.Profiles

namespace Salgil
set_option autoImplicit true

def drillTitlePrefix : String := "[훈련]"

/-- The counties by their code: the name, and the latitude and longitude of the centre. -/
def gyeongbukRegions : List (String × String × String × String) :=
  [("47110", "포항시", "36.1651", "129.2343"), ("47130", "경주시", "35.8266", "129.236"),
    ("47150", "김천시", "36.0605", "128.0778"), ("47170", "안동시", "36.5803", "128.78"),
    ("47190", "구미시", "36.2073", "128.3555"), ("47210", "영주시", "36.8705", "128.5976"),
    ("47230", "영천시", "36.0158", "128.9426"), ("47250", "상주시", "36.4296", "128.067"),
    ("47280", "문경시", "36.6908", "128.1487"), ("47290", "경산시", "35.8341", "128.8091"),
    ("47730", "의성군", "36.362", "128.615"), ("47750", "청송군", "36.357", "129.0574"),
    ("47760", "영양군", "36.6964", "129.145"), ("47770", "영덕군", "36.4825", "129.3176"),
    ("47820", "청도군", "35.6729", "128.7865"), ("47830", "고령군", "35.7372", "128.3068"),
    ("47840", "성주군", "35.9072", "128.2333"), ("47850", "칠곡군", "36.0155", "128.4626"),
    ("47900", "예천군", "36.6539", "128.4224"), ("47920", "봉화군", "36.9342", "128.913"),
    ("47930", "울진군", "36.9041", "129.3124"), ("47940", "울릉군", "37.5024", "130.861")]

def regionNames : List (String × String) :=
  gyeongbukRegions.map fun (code, name, _) => (code, name)

def codesByName : List (String × String) :=
  gyeongbukRegions.map fun (code, name, _) => (name, code)

/-- The hazards of the chat's drills, with their Korean names. -/
def drillHazards : List (String × String) :=
  [("wildfire", "산불"), ("flood", "홍수"), ("landslide", "산사태"), ("heavy_rain", "호우"),
    ("earthquake", "지진"), ("typhoon", "태풍"), ("heavy_snow", "대설"), ("heatwave", "폭염")]

def drillToolName : String := "salgil_start_drill"

namespace Drills

def regionCenter (code : String) : Except PyError (Json × Json) :=
  match gyeongbukRegions.lookup code with
  | some (_, lat, lon) => .ok (.float lat, .float lon)
  | none => .error .keyError

/-- The given place, or the centre of the county if one of its numbers is missing. -/
def place (lat lon : Json) (code : String) : Except PyError (Json × Json) :=
  match lat, lon with
  | .null, _ | _, .null => regionCenter code
  | lat, lon => .ok (lat, lon)

/-- A county of that name, or the first one whose name starts so. -/
def resolveCandidate (candidate : String) : Option (String × String) :=
  match codesByName.lookup candidate with
  | some code => some (code, candidate)
  | none => (codesByName.find? fun (known, _) => candidate ≠ "" ∧ pyStartsWith known candidate).map
      fun (known, code) => (code, known)

/-- The code and the name of the county; a name goes before a code. -/
def resolveRegion (code name : String) : Option (String × String) :=
  ((resolveCandidate (pyStrip name)).or (resolveCandidate (pyStrip code))).or
    ((regionNames.lookup code).map fun name => (code, name))

def drillEvidence (lat lon : Json) (requestedBy : String) : JsonObject :=
  [("source", .str "salgil-assistant"), ("mode", .str "training"), ("drill", .bool true),
    ("requested_by", .str requestedBy)] ++
    match lat, lon with
    | .null, _ | _, .null => []
    | lat, lon => [("lat", lat), ("lon", lon)]

/-- The arguments of a drill, as the chat passes them on. -/
structure Arguments where
  hazard : String
  regionCode : String
  regionName : String
  lat : Json
  lon : Json
  note : Json

def unsupportedHazard (hazard : String) : JsonObject :=
  let missing := if hazard = "" then "재난 종류(hazard)가 빠졌습니다"
    else "'" ++ hazard ++ "' 는 훈련 대상이 아닙니다"
  [("error", .str "unsupported_hazard"), ("detail", .str (missing ++ ". 가능한 값: " ++
    pyReprTexts ((drillHazards.map (·.1)).insertionSort (· ≤ ·)) ++
    ". 지역은 그대로 두고 hazard 만 채워 다시 부르세요."))]

def unknownRegion : JsonObject :=
  [("error", .str "unknown_region"), ("detail", .str ("경북 시군 코드나 이름이 아닙니다. " ++
    "행정표준코드 5자리를 쓰세요 (예: 청송군 47750). 가능한 시군: " ++
    pyReprTexts ((regionNames.map (·.2)).insertionSort (· ≤ ·))))]

/-- The incident that a drill asks for. -/
def payload (arguments : Arguments) (actor code name korean : String) (lat lon : Json) :
    Except PyError IncidentCreate := do
  let title := drillTitlePrefix ++ " " ++ name ++ " " ++ korean ++ " 대응 훈련"
  let hazard ← Hazard.ofValue arguments.hazard
  match arguments.note.or (.str (korean ++ " 대응 절차 훈련입니다. 실제 상황이 아닙니다.")) with
  | .str summary =>
    if h : title.length ≤ 200 then
      return { title := title, regionCode := code, hazard := hazard, level := 1
               summary := some summary, openingEvidence := some (drillEvidence lat lon actor)
               title_ok := h, level_ok := by decide }
    else .error .pydantic
  | _ => .error .pydantic

/-- The reply to a drill that runs. -/
def started (incident : Incident) (name : String) (lat lon : Json) : JsonObject :=
  [("ok", .bool true), ("drill", .bool true), ("incident_id", .str (toString incident.id)),
    ("code", .str incident.code), ("title", .str incident.title), ("region_name", .str name),
    ("lat", lat), ("lon", lon),
    ("note", .str "훈련 상황으로 개시했습니다. 실제 경보가 아니며 화면에 훈련 표시가 붙습니다.")]

/-- The payload of a drill with the name of its county, or the reply that refuses it. -/
def request (actor : String) (arguments : Arguments) :
    Except PyError (Except JsonObject (IncidentCreate × String × Json × Json)) := do
  match drillHazards.lookup arguments.hazard with
  | none => return .error (unsupportedHazard arguments.hazard)
  | some korean =>
    match resolveRegion arguments.regionCode arguments.regionName with
    | none => return .error unknownRegion
    | some (code, name) =>
      let (lat, lon) ← place arguments.lat arguments.lon code
      return .ok (← payload arguments actor code name korean lat lon, name, lat, lon)

section
variable {K : Type}

/-- The row of the drill goes in: the reply, the message that waits for the commit, and the
database. -/
def create (db : Database K) (now : Timestamp) (payload : IncidentCreate) (name : String)
    (lat lon : Json) : Except PyError (JsonObject × Event × Database K) := do
  let (incident, event, db) ← Incidents.create db now "assistant" name payload
  return (started incident name lat lon, event, db)

/-- A drill as far as its commit; where it is refused there is nothing to commit. -/
def startDrill (db : Database K) (now : Timestamp) (arguments : Arguments) :
    Except PyError (JsonObject × Option (Event × Database K)) := do
  match ← request "assistant" arguments with
  | .error reply => return (reply, none)
  | .ok (payload, name, lat, lon) =>
    let (reply, opened) ← create db now payload name lat lon
    return (reply, some opened)

end

end Drills

/-- Title and text of the push message about an event. -/
def Push.incidentText (lib : JsonLib) (data : JsonObject) : String × String :=
  let title := lib.str ((data.get "title").or (.str "긴급 상황"))
  let region := lib.str ((data.get "region_name").or (.str ""))
  if ¬ (data.get "drill").truthy then (title, region ++ " 안내를 확인하고 대피 경로를 따르세요.")
  else (if pyStartsWith title drillTitlePrefix then title else drillTitlePrefix ++ " " ++ title,
    region ++ " 대응 훈련입니다. 실제 상황이 아닙니다.")

end Salgil
