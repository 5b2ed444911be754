import Salgil.CacheKeys
import Salgil.Json
import Salgil.Profiles

namespace Salgil
set_option autoImplicit true

inductive DataState where
  | data
  | none
  | unverified
  deriving DecidableEq, Repr

/-- What a call of the client may raise: `UpstreamTimeout`, `UpstreamError`, the `ValidationError`
of a schema, or an exception that is known by its name. -/
inductive GbSafeError where
  | timeout (detail : String)
  | upstream (detail : String)
  | pydantic
  | other (name : String)
  deriving DecidableEq, Repr

/-- `type(exc).__name__`. -/
def GbSafeError.name : GbSafeError → String
  | timeout _ => "UpstreamTimeout"
  | upstream _ => "UpstreamError"
  | pydantic => "ValidationError"
  | other name => name

/-- How a request to the upstream ends: with a timeout or a transport error of `httpx`, or with a
status and a body. -/
inductive UpstreamReply where
  | timeout (exception : String)
  | failed (message : String)
  | response (status : ℕ) (text : String)

/-- How `response.json()` fails: with a `ValueError`, or with an exception that is none. -/
inductive BodyError where
  | valueError
  | other (name : String)

structure Freshness where
  usableForDecision : Option Bool
  deriving DecidableEq, Repr

structure Record where
  freshness : Option Freshness
  deriving DecidableEq, Repr

structure Receipt where
  connector : Option String
  datasetId : Option String
  outcome : Option String
  deriving DecidableEq, Repr

structure Degradation where
  detail : Option String
  deriving DecidableEq, Repr

structure Envelope where
  records : List Record := []
  receipts : List Receipt := []
  degradations : List Degradation := []
  caveats : List String := []
  complete : Bool := false
  absenceConfirmed : Bool := false
  state : DataState := .unverified
  failedSources : List String := []
  deriving DecidableEq, Repr

structure ResolvedRegion where
  found : Bool
  code : Option String := none
  name : Option String := none
  deriving DecidableEq, Repr

inductive Readiness where
  | ready
  | partial_
  | blocked
  deriving DecidableEq, Repr

def Readiness.value : Readiness → String
  | ready => "ready"
  | partial_ => "partial"
  | blocked => "blocked"

/-- A hazard in the matrix of capabilities. -/
structure CapabilityItem where
  hazard : String
  mapScenario : Option String := none
  readiness : Readiness := .blocked
  caveat : Option String := none
  deriving DecidableEq, Repr

/-- The client and what it meets: what the upstream replies to each call, the answers that the cache
has, the parser of bodies, and the schemas. -/
structure GbSafeClient where
  reply : CachedCall → UpstreamReply
  cached : CachedCall → Option Json
  loads : String → Except BodyError Json
  region : Json → Option ResolvedRegion
  capability : Json → Option CapabilityItem
  envelope : Json → Option Envelope

def computeState (env : Envelope) : DataState :=
  if env.records ≠ [] then .data
  else if env.complete ∧ env.absenceConfirmed then .none
  else .unverified

/-- `a or b`, where the empty text counts as none. -/
def orText (a : Option String) (b : String) : String := (a.filter (· ≠ "")).getD b

def Receipt.failed (r : Receipt) : Bool := pyLower (r.outcome.getD "") = "failed"

def Receipt.source (r : Receipt) : String :=
  orText r.connector (orText r.datasetId "unknown")

/-- The state and the failed sources are worked out anew, whatever the payload says of them. -/
def Envelope.fromUpstream (env : Envelope) : Envelope :=
  { env with
    state := computeState env
    failedSources := (env.receipts.filter (·.failed)).map (·.source) }

def Envelope.hasStaleRecords (env : Envelope) : Bool :=
  env.records.any fun r => r.freshness.any (·.usableForDecision = some false)

namespace GbSafeClient

def get (client : GbSafeClient) (call : CachedCall) : Except GbSafeError Json :=
  match client.reply call with
  | .timeout exception =>
    .error (.timeout (call.path ++ " 응답이 시간 안에 오지 않았습니다 (" ++ exception ++ ")"))
  | .failed message => .error (.upstream (call.path ++ " 요청에 실패했습니다: " ++ message))
  | .response status text =>
    if 400 ≤ status then
      .error (.upstream (call.path ++ " 이(가) HTTP " ++ toString status ++ " 로 응답했습니다: " ++
        pyTake 300 text))
    else match client.loads text with
    | .ok payload => .ok payload
    | .error .valueError =>
      .error (.upstream (call.path ++ " 응답이 JSON 이 아닙니다: " ++ pyTake 200 text))
    | .error (.other name) => .error (.other name)

/-- The cache comes first. -/
def cachedGet (client : GbSafeClient) (call : CachedCall) : Except GbSafeError Json :=
  match client.cached call with
  | some payload => .ok payload
  | none => client.get call

def validate (schema : Json → Option α) (payload : Json) : Except GbSafeError α :=
  match schema payload with
  | some value => .ok value
  | none => .error .pydantic

def hazardContext (client : GbSafeClient) (region : String) (hazard : Option String := none) :
    Except GbSafeError Envelope := do
  let payload ← client.cachedGet (.hazardContext region hazard)
  let env ← validate client.envelope payload
  pure env.fromUpstream

/-- A request is made for the call, and it fails: no reply, an error status or a body that cannot be
read. -/
def Fails (client : GbSafeClient) (call : CachedCall) : Prop :=
  client.cached call = none ∧ ∃ e, client.get call = .error e

/-- The payload that answers the call is in the cache, or in a reply that can be read. -/
def Answers (client : GbSafeClient) (call : CachedCall) (payload : Json) : Prop :=
  match client.cached call with
  | some hit => hit = payload
  | none => ∃ status text, client.reply call = .response status text ∧ status < 400 ∧
      client.loads text = .ok payload

variable {client : GbSafeClient} {call : CachedCall} {payload : Json}

theorem cachedGet_eq_ok : client.cachedGet call = .ok payload ↔ client.Answers call payload := by
  unfold cachedGet Answers
  cases client.cached call with
  | some hit => simp
  | none =>
    unfold get
    cases client.reply call with
    | timeout exception => simp
    | failed message => simp
    | response status text =>
      by_cases hstatus : 400 ≤ status
      · simp [hstatus]
      · have hlow : status < 400 := not_le.1 hstatus
        simp only [hstatus, if_false, UpstreamReply.response.injEq]
        cases hloads : client.loads text with
        | ok value => simp [hlow, hloads]
        | error e => cases e <;> simp [hloads]

end GbSafeClient

namespace Situation

def resolveRegion (client : GbSafeClient) (query : String) : Except GbSafeError ResolvedRegion := do
  let payload ← client.cachedGet (.resolveRegion query)
  GbSafeClient.validate client.region payload

/-- The line on top of the screen. Sources that could not be read come first. -/
def headlineCaveat (env : Envelope) (capability : Option CapabilityItem) : Option String :=
  if env.failedSources ≠ [] then
    let detail := env.degradations.findSome? fun d => d.detail.filter (· ≠ "")
    some ("원천 " ++ ", ".intercalate env.failedSources ++
      " 을(를) 읽지 못했습니다 — 이 화면을 '위험 없음'으로 읽으면 안 됩니다." ++
      match detail with
      | some detail => " (" ++ pyTake 120 detail ++ ")"
      | none => "")
  else
    match (capability.bind (·.caveat)).filter (· ≠ "") with
    | some caveat => some caveat
    | none =>
      if env.hasStaleRecords then some "일부 값이 갱신주기를 넘겼습니다 — 관측 시각을 함께 확인하세요."
      else env.caveats.head?

end Situation

end Salgil
