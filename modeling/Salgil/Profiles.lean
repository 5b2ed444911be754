import Salgil.RoadGraph

namespace Salgil
set_option autoImplicit true

inductive TransportMode where
  | foot
  | assisted
  | bicycle
  | car
  deriving DecidableEq, Repr

def TransportMode.value : TransportMode → String
  | .foot => "foot"
  | .assisted => "assisted"
  | .bicycle => "bicycle"
  | .car => "car"

/-- How one means of transport moves, and which roads it may use. -/
structure ModeProfile (K : Type u) where
  mode : TransportMode
  grades : List String
  accessTags : List String
  speedMps : K
  strictSurface : Bool := false
  allowFord : Bool := false
  koreanName : String := ""
  note : String := ""
  extraBlockedTags : List String := []

def blockingAccess : List String :=
  ["no", "private", "customers", "delivery", "agricultural", "forestry", "emergency", "permit",
    "military", "destination_only"]

def unreliableSurface : List String := ["ground", "dirt", "earth", "mud", "sand", "grass"]

def impassableSmoothness : List String := ["impassable", "very_horrible", "horrible"]

def falsy : List String := ["no", "false", "0", ""]

def drivable : List String :=
  ["motorway", "motorway_link", "trunk", "trunk_link", "primary", "primary_link", "secondary",
    "secondary_link", "tertiary", "tertiary_link", "unclassified", "residential",
    "living_street", "service", "track"]

def walkable : List String :=
  drivable.filter (· ∉ ["motorway", "motorway_link", "trunk", "trunk_link"]) ++
    ["footway", "path", "pedestrian", "steps", "corridor"]

def cyclable : List String := walkable.filter (· ∉ ["steps", "corridor"]) ++ ["cycleway"]

def assistedGrades : List String := walkable.filter (· ∉ ["steps", "path", "track"])

/-- `str.lower`, as far as the lower-case words it is compared with can tell: the Kelvin sign is
the only other character that lowers to an ASCII letter. -/
def pyLower (s : String) : String := s.map fun c => if c.toNat = 0x212A then 'k' else c.toLower

/-- The characters `str.strip` removes. -/
def pyIsSpace (c : Char) : Bool :=
  let n := c.toNat
  (9 ≤ n ∧ n ≤ 13) ∨ (28 ≤ n ∧ n ≤ 32) ∨ (0x2000 ≤ n ∧ n ≤ 0x200A) ∨
    n ∈ [0x85, 0xA0, 0x1680, 0x2028, 0x2029, 0x202F, 0x205F, 0x3000]

def pyStrip (s : String) : String :=
  String.ofList ((s.toList.dropWhile pyIsSpace).reverse.dropWhile pyIsSpace).reverse

/-- `str(tags.get(key, "")).lower().strip()`. -/
def Tags.clean (tags : Tags) (key : String) : String :=
  pyStrip (pyLower ((tags.lookup key).getD ""))

/-- Whether a way may be used, and if not, why. -/
def ModeProfile.passable (p : ModeProfile K) (tags : Tags) : Bool × Option String :=
  let highway := tags.clean "highway"
  let smoothness := tags.clean "smoothness"
  let surface := tags.clean "surface"
  let ford := tags.clean "ford"
  if highway = "" then (false, some "highway 태그 없음")
  else if highway ∉ p.grades then
    (false, some (p.koreanName ++ " 통행 등급 아님 (" ++ highway ++ ")"))
  else match p.accessTags.find? (tags.clean · ∈ blockingAccess) with
  | some tag => (false, some (tag ++ "=" ++ tags.clean tag))
  | none =>
    match (p.accessTags ++ ["maxweight", "maxheight", "width"]).find?
      (fun tag => (tags.lookup (tag ++ ":conditional")).getD "" ≠ "") with
    | some tag => (false, some (tag ++ ":conditional (조건 미해석)"))
    | none =>
      match p.extraBlockedTags.find? (tags.clean · ∈ blockingAccess) with
      | some tag => (false, some (tag ++ " 차단"))
      | none =>
        if smoothness ∈ impassableSmoothness then (false, some ("smoothness=" ++ smoothness))
        else if p.strictSurface ∧ surface ∈ unreliableSurface then
          (false, some ("surface=" ++ surface))
        else if ¬ p.allowFord ∧ ford ≠ "" ∧ ford ∉ falsy then
          (false, some "세월교(ford) — 호우 시 가장 먼저 끊긴다")
        else (true, none)

section
variable {K : Type u} [Field K] [LinearOrder K] [IsStrictOrderedRing K]

def profileFor : TransportMode → ModeProfile K
  | .foot =>
    { mode := .foot
      grades := walkable
      accessTags := ["access", "foot"]
      speedMps := 11 / 10
      koreanName := "도보"
      note := "야간·우천을 감안해 4km/h 로 잡는다. 평지 성인 보행속도보다 느리다." }
  | .assisted =>
    { mode := .assisted
      grades := assistedGrades
      accessTags := ["access", "foot", "wheelchair"]
      speedMps := 7 / 10
      strictSurface := true
      koreanName := "보행보조"
      note := "휠체어·보행보조. 계단과 비포장을 제외한다. 이동지원이 필요한 주민은 SGIS " ++
        "대리지표로 추정할 뿐이므로, 이 경로를 특정 개인에게 배정하는 근거로 쓰면 안 된다." }
  | .bicycle =>
    { mode := .bicycle
      grades := cyclable
      accessTags := ["access", "bicycle"]
      speedMps := 7 / 2
      koreanName := "자전거" }
  | .car =>
    { mode := .car
      grades := drivable
      accessTags := ["access", "motor_vehicle", "vehicle", "motorcar"]
      speedMps := 83 / 10
      koreanName := "차량"
      note := "마을 진입로와 재난 상황을 감안해 30km/h 로 잡는다." }

theorem profileFor_speed_pos (mode : TransportMode) :
    0 < (profileFor mode : ModeProfile K).speedMps := by
  cases mode <;> simp only [profileFor] <;> positivity

end

end Salgil
