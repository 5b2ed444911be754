import Salgil.Hazard
import Mathlib.Data.List.Dedup

namespace Salgil
set_option autoImplicit true

inductive Recipe where
  | floodExtent
  | sturmFloodExtent
  | landslideRisk
  | rainNowcast
  | riverGraph
  | typhoonTrackIntensity
  | weatherExtremes
  | wildfireSpread
  | koreaWildfireIgnition
  deriving DecidableEq, Repr

/-- What the model's input was assembled from. -/
inductive FeatureMode where
  | real
  | synthetic
  | provided
  deriving DecidableEq, Repr

def Recipe.value : Recipe → String
  | .floodExtent => "flood_extent"
  | .sturmFloodExtent => "sturm_flood_extent"
  | .landslideRisk => "landslide_risk"
  | .rainNowcast => "rain_nowcast"
  | .riverGraph => "river_graph"
  | .typhoonTrackIntensity => "typhoon_track_intensity"
  | .weatherExtremes => "weather_extremes"
  | .wildfireSpread => "wildfire_spread"
  | .koreaWildfireIgnition => "korea_wildfire_ignition"

def FeatureMode.value : FeatureMode → String
  | .real => "real"
  | .synthetic => "synthetic"
  | .provided => "provided"

structure GridSpec (K : Type u) where
  height : ℤ
  width : ℤ
  crs : Option String
  bbox : Option (List K)

structure TensorPayload (K : Type u) where
  name : String
  data : List K

structure ChannelSummary where
  channel : ℤ
  hazard : Option String

structure ModelRef where
  name : String
  version : Option String := none
  backend : Option String := none

/-- The schema bounds the horizon. -/
structure PredictionRequest (K : Type u) where
  recipe : Recipe
  regionCode : Option String := none
  hazard : Option String := none
  horizonMinutes : Option ℤ := none
  grid : Option (GridSpec K) := none
  bbox : Option (List K) := none
  crs : Option String := none
  incidentId : Option String := none
  horizon_ok : ∀ n ∈ horizonMinutes, 0 ≤ n ∧ n ≤ 72 * 60

theorem givenHorizon_ok {horizon : ℤ} (h : 0 ≤ horizon ∧ horizon ≤ 72 * 60) :
    ∀ n ∈ some horizon, 0 ≤ n ∧ n ≤ 72 * 60 := by simpa using h

def derivedNotice : String :=
  "자체 모델이 만든 파생 지표입니다. 어느 기관도 보증하지 않으며, " ++
    "공식 위험등급·특보와 같은 값으로 취급하면 안 됩니다."

structure PredictionResult (K : Type u) where
  predictionId : String
  recipe : Recipe
  status : String := "succeeded"
  model : ModelRef
  regionCode : Option String := none
  hazard : Option String := none
  horizonMinutes : Option ℤ := none
  grid : Option (GridSpec K) := none
  outputs : List (TensorPayload K) := []
  channels : List ChannelSummary := []
  featureMode : FeatureMode := .synthetic
  isStub : Bool := false
  derivedNotice : String := derivedNotice

/-- The prediction server, as its client presents it. -/
abbrev Predictor (K : Type u) := PredictionRequest K → Except PyError (PredictionResult K)

/-- What the route service warns about. -/
inductive Warning where
  | noModel (hazard : String)
  | predictionFailed (horizonMinutes : ℤ) (detail : String)
  | noGrid (horizonMinutes : ℤ)
  | otherCrs (crs : String)
  | unreadableGrid (horizonMinutes : ℤ) (message : String)
  | assumedGeoreference
  | syntheticInput (featureMode : Option FeatureMode)
  | capabilityUnknown (detail : String)
  | limitation (text : String)
  | predictionNotUsed
  | noRouteFound
  deriving DecidableEq

def Warning.text : Warning → String
  | .noModel hazard =>
    "재난 '" ++ hazard ++ "' 에 대응하는 예측 모델이 없습니다 — 확산을 반영하지 못한 " ++
      "경로입니다. 현재 통제 정보만 반영됩니다"
  | .predictionFailed horizon detail =>
    toString horizon ++ "분 예측을 받지 못했습니다: " ++ String.ofList (detail.toList.take 120)
  | .noGrid horizon => toString horizon ++ "분 예측에 격자가 없어 반영하지 못했습니다"
  | .otherCrs crs =>
    "예측 격자 좌표계가 " ++ crs ++ " 입니다 — 재투영하지 않으므로 이 격자를 " ++
      "경로 계산에 쓰지 않았습니다"
  | .unreadableGrid horizon message =>
    toString horizon ++ "분 예측 격자를 읽지 못했습니다: " ++ message
  | .assumedGeoreference =>
    "예측 응답에 좌표 범위(grid.bbox)가 없어 요청한 범위로 **가정**해 배치했습니다 " ++
      "— ML 서버가 요청의 bbox 를 응답에 되돌려주지 않고 있습니다. 모델이 실제로 " ++
      "덮는 범위가 다르면 위험이 엉뚱한 곳에 놓입니다"
  | .syntheticInput featureMode =>
    "예측 입력이 합성값입니다 (feature_mode=" ++ (featureMode.map (·.value)).getD "None" ++
      ") — 모델이 돌긴 했지만 그 출력은 불이 어디 있는지 말해 주지 않아, 확산을 경로에 " ++
      "반영하지 않았습니다. 현장 보고의 통제 구간만 반영됩니다"
  | .capabilityUnknown detail =>
    "재난 가용성을 확인하지 못했습니다: " ++ String.ofList (detail.toList.take 100)
  | .limitation text => text
  | .predictionNotUsed => "예측을 쓰지 않았습니다 — 확산이 반영되지 않은 경로입니다"
  | .noRouteFound =>
    "모든 후보 대피소로 가는 경로를 찾지 못했습니다 — 각 항목의 reason 을 확인하세요"

/-- `RECIPE_FOR_HAZARD.get`. -/
def recipeForHazard (hazard : String) : Option Recipe :=
  [("heavy_rain", Recipe.rainNowcast), ("flood", .floodExtent), ("landslide", .landslideRisk),
    ("wildfire", .wildfireSpread), ("typhoon", .typhoonTrackIntensity),
    ("heatwave", .weatherExtremes), ("cold_wave", .weatherExtremes)].lookup hazard

/-- `str.upper`, as far as the upper-case words it is compared with can tell: the long s is the
only other character that becomes one of their letters. -/
def pyUpper (s : String) : String := s.map fun c => if c.toNat = 0x17F then 'S' else c.toUpper

def wgs84Names : List String := ["EPSG:4326", "WGS84", "CRS84", "OGC:CRS84"]

/-- `sorted(set(horizons))`. -/
def sortedSet (horizons : List ℤ) : List ℤ := horizons.dedup.insertionSort (· ≤ ·)

/-- What the loop over the horizons keeps of the last result it accepted. -/
structure PredictionMeta where
  predictionId : String
  model : String
  featureMode : FeatureMode
  isStub : Bool
  deriving DecidableEq

/-- The variables of the loop over the horizons. -/
structure Reading (K : Type u) where
  slices : List (HazardSlice K) := []
  accepted : Option PredictionMeta := none
  assumedGeoreference : Bool := false
  warnings : List Warning := []

def PredictionResult.metadata (r : PredictionResult K) : PredictionMeta where
  predictionId := r.predictionId
  model := r.model.name ++ "@" ++ (r.model.version.filter (· ≠ "")).getD "?"
  featureMode := r.featureMode
  isStub := r.isStub

/-- `len(result.summary.channels) or 1`. -/
def PredictionResult.channelCount (r : PredictionResult K) : ℕ :=
  if r.channels.length = 0 then 1 else r.channels.length

/-- The channel of a hazard in a model that predicts several. -/
def hazardChannel (hazard : String) (r : PredictionResult K) : Option ℤ :=
  (r.channels.find? (·.hazard = some hazard)).map (·.channel)

/-- Where the grid of a result lies, and whether that had to be assumed. -/
def gridBbox (grid : GridSpec K) (assumedBbox : Bbox K) : Except Warning (Bbox K × Bool) :=
  match grid.bbox with
  | some [minLon, minLat, maxLon, maxLat] =>
    let crs := String.ofList ((pyUpper (grid.crs.getD "")).toList.filter (· ≠ ' '))
    if crs ≠ "" ∧ crs ∉ wgs84Names then .error (.otherCrs (grid.crs.getD "None"))
    else .ok (⟨minLat, minLon, maxLat, maxLon⟩, false)
  | _ => .ok (assumedBbox, true)

/-- The values of one channel, where there are several and one is asked for. -/
def pickChannel (values : List K) (channel : Option ℤ) (channelCount : ℕ) : List K :=
  match channel with
  | some channel => if 1 < channelCount then pySliceStep values channel channelCount else values
  | none => values

/-- The error is the text of the `ValueError`. -/
def sliceFromGrid (horizonMinutes height width : ℤ) (bbox : Bbox K) (values : List K)
    (channel : Option ℤ) (channelCount : ℕ) : Except String (HazardSlice K) :=
  let values := pickChannel values channel channelCount
  let expected := height * width
  if values.length ≠ expected then
    .error ("격자 " ++ toString height ++ "×" ++ toString width ++ " 는 원소 " ++
      toString expected ++ "개가 필요합니다 (받은 값 " ++ toString values.length ++ "개)")
  else .ok ⟨horizonMinutes, height, width, bbox, values⟩

theorem length_pickChannel {values values' : List K} (h : values.length = values'.length)
    (channel : Option ℤ) (channelCount : ℕ) :
    (pickChannel values channel channelCount).length =
      (pickChannel values' channel channelCount).length := by
  unfold pickChannel
  split
  · split
    · exact length_pySliceStep h _ _
    · exact h
  · exact h

theorem sliceFromGrid_ok {horizon height width : ℤ} {bbox : Bbox K} {values : List K}
    {channel : Option ℤ} {channelCount : ℕ} {slice : HazardSlice K} :
    sliceFromGrid horizon height width bbox values channel channelCount = .ok slice ↔
      (pickChannel values channel channelCount).length = height * width ∧
        slice = ⟨horizon, height, width, bbox, pickChannel values channel channelCount⟩ := by
  simp only [sliceFromGrid]
  split
  · next h => simp [h]
  · next h =>
    rw [not_not] at h
    simp [h, eq_comm]

theorem sliceFromGrid_congr {values values' : List K} (h : values.length = values'.length)
    (horizon height width : ℤ) (bbox : Bbox K) (channel : Option ℤ) (channelCount : ℕ) :
    Together (fun _ _ => True)
      (sliceFromGrid horizon height width bbox values channel channelCount)
      (sliceFromGrid horizon height width bbox values' channel channelCount) := by
  have hlen := length_pickChannel h channel channelCount
  simp only [sliceFromGrid, hlen]
  split
  · rfl
  · trivial

section
variable {K : Type u} [Field K] [LinearOrder K] [IsStrictOrderedRing K] [FloorRing K] [MathLib K]

def sigmoid (value : K) : K :=
  if 50 < value then 1
  else if value < -50 then 0
  else 1 / (1 + MathLib.exp (-value))

/-- A tensor of logits is told by its name. -/
def toProbability (tensorName : String) (values : List K) : List K :=
  if tensorName = "logits" ∨ tensorName.endsWith "_logits" then values.map sigmoid else values

def bboxAround (lat lon radiusM : K) : Bbox K :=
  let latDelta := radiusM / 111320
  let lonDelta := radiusM / (111320 * max (MathLib.cos (radians lat)) (1 / 10 ^ 6))
  ⟨lat - latDelta, lon - lonDelta, lat + latDelta, lon + lonDelta⟩

def predictionRadiusM : K := 6000

/-- The request for one horizon, or the schema's refusal of the horizon. -/
def predictionRequest (recipe : Recipe) (hazard : String) (regionCode : Option String)
    (bbox : Bbox K) (horizon : ℤ) : Except PyError (PredictionRequest K) :=
  if h : 0 ≤ horizon ∧ horizon ≤ 72 * 60 then
    .ok {
      recipe := recipe
      regionCode := regionCode
      hazard := some hazard
      horizonMinutes := some horizon
      bbox := some [bbox.minLon, bbox.minLat, bbox.maxLon, bbox.maxLat]
      crs := some "EPSG:4326"
      horizon_ok := givenHorizon_ok h }
  else .error .pydantic

/-- Whether the place of a grid had to be assumed, and its slice or why there is none. -/
def readGrid (hazard : String) (assumedBbox : Bbox K) (horizon : ℤ) (r : PredictionResult K)
    (grid : GridSpec K) (tensor : TensorPayload K) : Bool × Except Warning (HazardSlice K) :=
  match gridBbox grid assumedBbox with
  | .error warning => (false, .error warning)
  | .ok (bbox, assumed) =>
    (assumed, (sliceFromGrid horizon grid.height grid.width bbox
      (toProbability tensor.name tensor.data) (hazardChannel hazard r) r.channelCount).mapError
      (.unreadableGrid horizon))

def readResult (hazard : String) (assumedBbox : Bbox K) (horizon : ℤ) (r : PredictionResult K) :
    Bool × Except Warning (HazardSlice K) :=
  match r.outputs, r.grid with
  | tensor :: _, some grid => readGrid hazard assumedBbox horizon r grid tensor
  | _, _ => (false, .error (.noGrid horizon))

def Reading.warn (acc : Reading K) (warning : Warning) : Reading K :=
  { acc with warnings := acc.warnings ++ [warning] }

def Reading.add (acc : Reading K) (hazard : String) (assumedBbox : Bbox K) (horizon : ℤ)
    (r : PredictionResult K) : Reading K :=
  let (assumed, slice) := readResult hazard assumedBbox horizon r
  let acc := { acc with assumedGeoreference := acc.assumedGeoreference || assumed }
  match slice with
  | .error warning => acc.warn warning
  | .ok slice => { acc with slices := acc.slices ++ [slice], accepted := some r.metadata }

/-- One round of the loop over the horizons. -/
def readHorizon (predict : Predictor K) (recipe : Recipe) (hazard : String)
    (regionCode : Option String) (assumedBbox : Bbox K) (acc : Reading K) (horizon : ℤ) :
    Except PyError (Reading K) := do
  let request ← predictionRequest recipe hazard regionCode assumedBbox horizon
  match predict request with
  | .ok r => return acc.add hazard assumedBbox horizon r
  | .error (.salgil (.upstream detail)) => return acc.warn (.predictionFailed horizon detail)
  | .error (.salgil (.validation detail)) => return acc.warn (.predictionFailed horizon detail)
  | .error e => .error e

/-- `feature_mode in ("synthetic", None) or bool(meta.get("is_stub"))`. -/
def isSynthetic (accepted : Option PredictionMeta) : Bool :=
  match accepted with
  | none => true
  | some last => last.featureMode = .synthetic ∨ last.isStub

/-- What the loop has read, as a field: a synthetic prediction closes no road. -/
def Reading.field (reading : Reading K) (hazard : String) :
    HazardField K × Option PredictionMeta × List Warning :=
  let warnings := if reading.assumedGeoreference then reading.warnings ++ [.assumedGeoreference]
    else reading.warnings
  let gated : Bool := reading.slices ≠ [] ∧ isSynthetic reading.accepted
  (.build (if gated then [] else reading.slices) [] (some hazard)
      (reading.accepted.map (·.model)) (reading.accepted.map (·.featureMode.value))
      ((reading.accepted.map (·.isStub)).getD false),
    reading.accepted,
    if gated then warnings ++ [.syntheticInput (reading.accepted.map (·.featureMode))]
    else warnings)

/-- `_hazard_field`: the field, the meta data of the prediction and the warnings. -/
def hazardField (predict : Predictor K) (hazard : String) (lat lon : K) (horizons : List ℤ)
    (regionCode : Option String) :
    Except PyError (HazardField K × Option PredictionMeta × List Warning) :=
  match recipeForHazard hazard with
  | none => .ok (.build, none, [.noModel hazard])
  | some recipe => do
    let assumedBbox := bboxAround lat lon predictionRadiusM
    let reading ← (sortedSet horizons).foldlM
      (readHorizon predict recipe hazard regionCode assumedBbox) {}
    return reading.field hazard

end

end Salgil
