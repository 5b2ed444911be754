import Salgil.MlEngine
import Salgil.PredictionRuns

namespace Salgil
set_option autoImplicit true

section
variable {K : Type} {client : MlEngineClient K} {store : RunStore K} {mode : String}
variable {request : PredictionRequest K} {met : Encounter K} {e : PyError}

/-- What a request meets where the answer is the client's. -/
def MlEngineClient.encounter (client : MlEngineClient K) (drawnId : Uuid128) (refused : Bool) :
    Encounter K where
  answer request := match client.predict request with
    | .ok r => .result r
    | .error e => .error e
  drawnId := drawnId
  refused := refused

/-- One run is committed, the failed one of this request; what the session of the request has
flushed stays uncommitted, and the error is raised again. -/
structure FailureRecorded (mode : String) (store : RunStore K) (request : PredictionRequest K)
    (met : Encounter K) (e : PyError) : Prop where
  raised : (Predictions.run mode store request met).1 = .error (.exception e)
  recorded : ∃ row, row.status = "failed" ∧ row.requestPayload = request ∧
    (Predictions.run mode store request met).2 =
      { store with committed := store.committed ++ [row] }

/-- The database takes a row under the drawn id. -/
def Encounter.Accepts (met : Encounter K) (store : RunStore K) : Prop :=
  met.refused = false ∧ met.drawnId ∉ store.ids

namespace Predictions

/-- The second session commits the row, or its own error takes the place of the first. -/
theorem recordFailure_iff {row : PredictionRun K} {refused : Bool}
    (hcaught : MlEngineClient.Caught e) :
    (recordFailure store row refused e).1 = e ↔ refused = false ∧ row.id ∉ store.ids := by
  unfold recordFailure
  split
  · next hrefused =>
    refine iff_of_false ?_ (by simp [hrefused])
    rintro rfl
    obtain ⟨_, h⟩ | ⟨_, h⟩ := hcaught <;> cases h
  · next hrefused =>
    split
    · next htaken =>
      refine iff_of_false ?_ fun h => h.2 htaken
      rintro rfl
      obtain ⟨_, h⟩ | ⟨_, h⟩ := hcaught <;> cases h
    · next hnew => exact iff_of_true rfl ⟨Bool.not_eq_true _ ▸ hrefused, hnew⟩

theorem recordFailure_committed {row : PredictionRun K} (hid : row.id ∉ store.ids) :
    (recordFailure store row false e).2 =
      { store with committed := store.committed ++ [row] } := by
  rw [recordFailure, if_neg Bool.false_ne_true, if_neg hid]

theorem run_caught {incidentId : Option Uuid128} (hincident : incidentUuid request = .ok incidentId)
    (hanswer : met.answer request = .error e) (hcaught : MlEngineClient.Caught e) :
    ∃ detail, (run mode store request met).1 = .error (.exception (recordFailure store
        (failureRow mode request incidentId met.drawnId detail) met.refused e).1) ∧
      (run mode store request met).2 = (recordFailure store
        (failureRow mode request incidentId met.drawnId detail) met.refused e).2 := by
  obtain ⟨detail, rfl⟩ | ⟨detail, rfl⟩ := hcaught
  · exact ⟨detail, by simp only [run, hincident, hanswer], by simp only [run, hincident, hanswer]⟩
  · exact ⟨detail, by simp only [run, hincident, hanswer], by simp only [run, hincident, hanswer]⟩

theorem run_undeclared {incidentId : Option Uuid128}
    (hincident : incidentUuid request = .ok incidentId) (hanswer : met.answer request = .error e)
    (hundeclared : MlEngineClient.Undeclared e) :
    run mode store request met = (.error (.exception e), store) := by
  simp only [run, hincident, hanswer]
  split
  · next h => cases h
  · next detail h =>
    cases h
    exact absurd rfl (hundeclared _)
  · next detail h =>
    cases h
    exact absurd rfl (hundeclared _)
  · next h =>
    cases h
    rfl
  · next h => cases h

end Predictions

/-- A failed prediction goes on record, if and only if the reply of the server could be read and
the database takes the row. -/
theorem failure_recorded_iff {incidentId : Option Uuid128} {drawnId : Uuid128} {refused : Bool}
    (hincident : Predictions.incidentUuid request = .ok incidentId)
    (hfails : client.predict request = .error e) :
    FailureRecorded mode store request (client.encounter drawnId refused) e ↔
      client.Reads (client.server request) ∧
        (client.encounter drawnId refused).Accepts store := by
  have hanswer : (client.encounter drawnId refused).answer request = .error e := by
    simp only [MlEngineClient.encounter, hfails]
  rcases (client.predict_ends request).of_error hfails with
    ⟨hreads, hcaught⟩ | ⟨hunread, hundeclared⟩
  · obtain ⟨detail, hraised, hstore⟩ :=
      @Predictions.run_caught _ store mode _ _ _ _ hincident hanswer hcaught
    have hiff := @Predictions.recordFailure_iff _ store _
      (Predictions.failureRow mode request incidentId drawnId detail) refused hcaught
    constructor
    · intro h
      have hsame := h.raised
      rw [hraised, Except.error.injEq, Raised.exception.injEq] at hsame
      exact ⟨hreads, hiff.1 hsame⟩
    · rintro ⟨-, haccepts⟩
      refine ⟨?_, Predictions.failureRow mode request incidentId drawnId detail, rfl, rfl, ?_⟩
      · rw [hraised, Except.error.injEq, Raised.exception.injEq]
        exact hiff.2 haccepts
      · obtain ⟨hrefused, hnew⟩ := haccepts
        rw [hstore, hrefused]
        exact Predictions.recordFailure_committed hnew
  · refine iff_of_false (fun h => ?_) fun h => hunread h.1
    obtain ⟨row, -, -, hstore⟩ := h.recorded
    rw [Predictions.run_undeclared hincident hanswer hundeclared] at hstore
    have hlength := congrArg (·.committed.length) hstore
    simp at hlength

end

/-- A server whose every reply is the same; its body is an empty object, and no result. -/
def fixedServer (reply : HttpReply) : MlEngineClient ℚ where
  server _ := reply
  loads _ := .ok (.obj [])
  modelValidate _ := none
  loads_foreign := nofun

def landslideRequest : PredictionRequest ℚ where
  recipe := .landslideRisk
  regionCode := some "47750"
  horizon_ok := by simp

/-- The server answers, but not with a prediction: the request fails and nothing is on record. -/
theorem unfit_answer_unrecorded :
    (fixedServer (.response 200 "{}")).predict landslideRequest = .error .pydantic ∧
      ((fixedServer (.response 200 "{}")).encounter 7 false).Accepts {} ∧
      ¬ FailureRecorded "http" {} landslideRequest
        ((fixedServer (.response 200 "{}")).encounter 7 false) .pydantic := by
  refine ⟨rfl, ⟨rfl, List.not_mem_nil⟩, fun h => ?_⟩
  obtain ⟨row, -, -, hstore⟩ := h.recorded
  have hlength := congrArg (·.committed.length) hstore
  simp only [List.length_append, List.length_singleton] at hlength
  cases hlength

theorem failure_recorded_iff_timeout : ∃ e,
    FailureRecorded "http" {} landslideRequest ((fixedServer .timeout).encounter 7 false) e := by
  have hincident : Predictions.incidentUuid landslideRequest = .ok none := rfl
  obtain ⟨e, hfails⟩ : ∃ e, (fixedServer .timeout).predict landslideRequest = .error e := ⟨_, rfl⟩
  exact ⟨e, (failure_recorded_iff hincident hfails).2 ⟨trivial, rfl, List.not_mem_nil⟩⟩

end Salgil
