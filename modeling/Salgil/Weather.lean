import Salgil.GbSafe

namespace Salgil
set_option autoImplicit true

/-- A `datetime`, with the time zone or without: the moment, or what the clock shows. -/
structure Moment where
  aware : Bool
  at_ : ℤ
  deriving DecidableEq

/-- How `weather` may fail once it has the envelope. -/
inductive WeatherError where
  | overflowError
  | typeError
  | pydantic
  deriving DecidableEq

/-- How `float(value)` fails: with one of the errors that are caught, or with an overflow. -/
inductive FloatError where
  | typeOrValue
  | overflow

/-- The parts of Python's library that a record goes through. `F` are its floats. -/
structure WeatherLib (F : Type) where
  json : JsonLib
  float : Json → Except FloatError F

/-- The five values that the snapshot puts forward. -/
inductive HeadlineField where
  | temperatureC
  | humidityPct
  | windSpeedMs
  | windDirectionDeg
  | rainfall1hMm
  deriving DecidableEq

structure WeatherReading (F : Type) where
  kind : String
  value : Option F
  unit : Option String
  station : Option String
  observedAt : Option Moment
  isForecast : Bool
  stale : Bool

structure WeatherSnapshot (F : Type) where
  region : ResolvedRegion
  state : DataState
  readings : List (WeatherReading F)
  temperatureC : Option F
  humidityPct : Option F
  windSpeedMs : Option F
  windDirectionDeg : Option F
  rainfall1hMm : Option F
  observedAt : Option Moment
  stale : Bool
  caveats : List String
  attribution : Option String
  sourceUrl : Option String
  fetchedAt : Moment

def WeatherSnapshot.headline (s : WeatherSnapshot F) : HeadlineField → Option F
  | .temperatureC => s.temperatureC
  | .humidityPct => s.humidityPct
  | .windSpeedMs => s.windSpeedMs
  | .windDirectionDeg => s.windDirectionDeg
  | .rainfall1hMm => s.rainfall1hMm

namespace Weather

structure SourceRef where
  attribution : Option String
  sourceUrl : Option String

structure Freshness where
  status : Option String
  asOf : Option Moment

structure Record where
  payload : JsonObject
  source : Option SourceRef
  freshness : Option Freshness

/-- The parts of the envelope that the weather is made of; a citation is its text. -/
structure Envelope where
  records : List Record
  citations : List (Option String)
  caveats : List String
  state : DataState

def headlineKinds : List (String × HeadlineField) :=
  [("temperature", .temperatureC), ("humidity", .humidityPct), ("wind_speed", .windSpeedMs),
    ("wind_direction", .windDirectionDeg), ("rainfall_1h", .rainfall1hMm)]

/-- What the loop over the records has gathered. -/
structure Gathered (F : Type) where
  readings : List (WeatherReading F) := []
  headline : HeadlineField → Option F := fun _ => none
  observed : Option Moment := none
  stale : Bool := false

variable {F : Type}

/-- `str(payload.get("kind", "")) or None`. -/
def kindOf (lib : WeatherLib F) (r : Record) : Option String :=
  some (lib.json.str ((r.payload.lookup "kind").getD (.str ""))) |>.filter (· ≠ "")

def Record.stale (r : Record) : Bool := r.freshness.any (·.status = some "stale")

def Record.asOf (r : Record) : Option Moment := r.freshness.bind (·.asOf)

def Record.isForecast (r : Record) : Bool := (r.payload.get "is_forecast").truthy

/-- The value as a number; what is none is left out. -/
def numeric (lib : WeatherLib F) (r : Record) : Except WeatherError (Option F) :=
  match r.payload.get "value" with
  | .null => .ok none
  | value =>
    match lib.float value with
    | .ok number => .ok (some number)
    | .error .typeOrValue => .ok none
    | .error .overflow => .error .overflowError

/-- A field that the schema takes as a text or None. -/
def optionalText : Json → Except WeatherError (Option String)
  | .null => .ok none
  | .str text => .ok (some text)
  | _ => .error .pydantic

def readingOf (lib : WeatherLib F) (kind : String) (r : Record) :
    Except WeatherError (WeatherReading F) := do
  let value ← numeric lib r
  let unit ← optionalText (r.payload.get "unit")
  let station ← optionalText (r.payload.get "station")
  return { kind, value, unit, station, observedAt := r.asOf, isForecast := r.isForecast
           stale := r.stale }

/-- The later of two moments, which Python compares only if both have a time zone or neither. -/
def later (observed asOf : Option Moment) : Except WeatherError (Option Moment) :=
  match asOf, observed with
  | none, observed => .ok observed
  | some asOf, none => .ok (some asOf)
  | some asOf, some observed =>
    if asOf.aware ≠ observed.aware then .error .typeError
    else .ok (some (if observed.at_ < asOf.at_ then asOf else observed))

/-- A number goes under its headline field, over what was there. -/
def putForward (headline : HeadlineField → Option F) (reading : WeatherReading F) :
    HeadlineField → Option F :=
  match headlineKinds.lookup reading.kind, reading.value with
  | some field, some value => Function.update headline field (some value)
  | _, _ => headline

/-- One record. -/
def gather (lib : WeatherLib F) (g : Gathered F) (r : Record) : Except WeatherError (Gathered F) :=
  match kindOf lib r with
  | none => .ok g
  | some kind => do
    let reading ← readingOf lib kind r
    let observed ← later g.observed r.asOf
    return { readings := g.readings ++ [reading], headline := putForward g.headline reading
             observed, stale := g.stale || r.stale }

def weather (lib : WeatherLib F) (region : ResolvedRegion) (envelope : Envelope) (now : Moment) :
    Except WeatherError (WeatherSnapshot F) := do
  let g ← envelope.records.foldlM (gather lib) {}
  let source := envelope.records.head?.bind (·.source)
  return {
    region := region
    state := envelope.state
    readings := g.readings
    temperatureC := g.headline .temperatureC
    humidityPct := g.headline .humidityPct
    windSpeedMs := g.headline .windSpeedMs
    windDirectionDeg := g.headline .windDirectionDeg
    rainfall1hMm := g.headline .rainfall1hMm
    observedAt := g.observed
    stale := g.stale
    caveats := envelope.caveats
    attribution := (envelope.citations.head?.join.filter (· ≠ "")).or
      (source.bind (·.attribution))
    sourceUrl := source.bind (·.sourceUrl)
    fetchedAt := now }

end Weather

end Salgil
