import Salgil.Json
import Salgil.SyntheticGate

namespace Salgil
set_option autoImplicit true

/-- How a request to the server ends, with the text of a transport error or of the body. -/
inductive HttpReply where
  | timeout
  | failed (message : String)
  | response (status : ℕ) (text : String)

/-- The client in http mode: what the server replies, `json.loads`, which raises no error of this
service, and the schema's check of an answer. -/
structure MlEngineClient (K : Type) where
  server : PredictionRequest K → HttpReply
  loads : String → Except JsonError Json
  modelValidate : Json → Option (PredictionResult K)
  loads_foreign : ∀ {text e}, loads text = .error (.other e) → ∀ s, e ≠ .salgil s

namespace MlEngineClient
variable {K : Type}

def upstreamDetail (client : MlEngineClient K) (text : String) : Except PyError (Option String) :=
  match client.loads text with
  | .error .decode => .ok ((some (pyTake 300 text)).filter (· ≠ ""))
  | .error (.other e) => .error e
  | .ok (.obj body) =>
    match (JsonObject.get body "detail").or (JsonObject.get body "title") with
    | .str detail => .ok (some detail)
    | _ => .ok none
  | .ok _ => .ok none

/-- `_request` for the path of the recipe. -/
def request (client : MlEngineClient K) (payload : PredictionRequest K) : Except PyError Json :=
  let path := "/v1/predict/" ++ payload.recipe.value
  match client.server payload with
  | .timeout =>
    .error (.salgil (.upstream ("ML 추론 서버 " ++ path ++ " 응답이 시간 안에 오지 않았습니다")))
  | .failed message =>
    .error (.salgil (.upstream ("ML 추론 서버 " ++ path ++ " 요청 실패: " ++ message)))
  | .response status text =>
    if status = 401 ∨ status = 403 then
      .error (.salgil (.upstream
        "ML 추론 서버 인증에 실패했습니다 — SALGIL_MLENGINE_API_KEY 를 확인하세요"))
    else if status = 400 ∨ status = 404 ∨ status = 422 then do
      let detail ← client.upstreamDetail text
      .error (.salgil (.validation
        ((detail.filter (· ≠ "")).getD "ML 추론 서버가 요청을 거절했습니다")))
    else if 400 ≤ status then
      .error (.salgil (.upstream
        ("ML 추론 서버가 HTTP " ++ toString status ++ " 로 응답했습니다: " ++ pyTake 300 text)))
    else match client.loads text with
    | .ok body => .ok body
    | .error .decode =>
      .error (.salgil (.upstream ("ML 추론 서버 응답이 JSON 이 아닙니다: " ++ pyTake 200 text)))
    | .error (.other e) => .error e

def predict (client : MlEngineClient K) : Predictor K := fun payload => do
  let body ← client.request payload
  match client.modelValidate body with
  | some r => return r
  | none => .error .pydantic

/-- The reply can be read: where its text is parsed, that ends with a value or a decode error, and
the value fits the schema if it is taken for an answer. -/
def Reads (client : MlEngineClient K) : HttpReply → Prop
  | .timeout | .failed _ => True
  | .response status text =>
    (status < 400 ∨ status = 400 ∨ status = 404 ∨ status = 422 →
      ∀ e, client.loads text ≠ .error (.other e)) ∧
    (status < 400 → ∀ body, client.loads text = .ok body → (client.modelValidate body).isSome)

/-- The errors of the client that the route service catches. -/
def Caught (e : PyError) : Prop :=
  (∃ detail, e = .salgil (.upstream detail)) ∨ ∃ detail, e = .salgil (.validation detail)

/-- The errors that the service does not declare. -/
def Undeclared (e : PyError) : Prop := ∀ s, e ≠ .salgil s

variable {client : MlEngineClient K} {payload : PredictionRequest K}

theorem upstreamDetail_ends (client : MlEngineClient K) (text : String) :
    Ends (fun e => client.loads text = .error (.other e))
      (fun _ => ∀ e, client.loads text ≠ .error (.other e)) (client.upstreamDetail text) := by
  unfold upstreamDetail
  split
  · next h => simp [h]
  · next h => simp [h]
  · next h => split <;> simp [h]
  · next h => simp [h]

theorem predict_ends (client : MlEngineClient K) (payload : PredictionRequest K) :
    Ends (fun e => client.Reads (client.server payload) ∧ Caught e ∨
        ¬ client.Reads (client.server payload) ∧ Undeclared e)
      (fun _ => client.Reads (client.server payload)) (client.predict payload) := by
  cases hreply : client.server payload with
  | timeout => simp [predict, request, hreply, Reads, Caught]
  | failed message => simp [predict, request, hreply, Reads, Caught]
  | response status text =>
    simp only [predict, request, hreply]
    by_cases hdenied : status = 401 ∨ status = 403
    · have hreads : client.Reads (.response status text) := by
        simp only [Reads]
        omega
      simp [hdenied, hreads, Caught]
    by_cases hrefused : status = 400 ∨ status = 404 ∨ status = 422
    · have hreads : client.Reads (.response status text) ↔
          ∀ e, client.loads text ≠ .error (.other e) := by
        have hlate : ¬ status < 400 := by omega
        simp [Reads, hrefused, hlate]
      simp only [hdenied, hrefused, ↓reduceIte, hreads]
      have hdetail := client.upstreamDetail_ends text
      cases hd : client.upstreamDetail text with
      | ok detail => exact .inl ⟨hdetail.of_ok hd, .inr ⟨_, rfl⟩⟩
      | error e =>
        have hother := hdetail.of_error hd
        exact .inr ⟨fun h => h e hother, client.loads_foreign hother⟩
    by_cases hfailed : 400 ≤ status
    · have hreads : client.Reads (.response status text) := by
        simp only [Reads]
        omega
      simp [hdenied, hrefused, hfailed, hreads, Caught]
    · have hearly : status < 400 := not_le.1 hfailed
      simp only [hdenied, hrefused, hfailed, ↓reduceIte, Reads, hearly, true_or, true_implies]
      cases hloads : client.loads text with
      | error e =>
        cases e with
        | decode => simp [Caught]
        | other e =>
          have hforeign : Undeclared e := client.loads_foreign hloads
          simp [hforeign]
      | ok body =>
        cases hvalid : client.modelValidate body with
        | some r => simp [hvalid]
        | none => simp [hvalid, Undeclared]

end MlEngineClient

end Salgil
