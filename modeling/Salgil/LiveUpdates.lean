import Salgil.Broker
import Salgil.EventSource
import Salgil.Incidents
import Salgil.JsonWriter
import Mathlib.Data.List.Forall2

namespace Salgil
set_option autoImplicit true

/-- A message with the moment at which it was made, as `isoformat` gives it. -/
structure StampedEvent where
  event : Event
  madeAt : String

def StampedEvent.incidentId (stamped : StampedEvent) : Option String := stamped.event.incidentId

/-- What `encode` sends as the data of a message. -/
def StampedEvent.payload (stamped : StampedEvent) : JsonObject :=
  let payload := JsonText.insertEntry stamped.event.data ("at", .str stamped.madeAt)
  match stamped.event.incidentId.filter (· ≠ "") with
  | some incidentId => JsonText.insertEntry payload ("incident_id", .str incidentId)
  | none => payload

/-- `ensure_ascii=False, separators=(",", ":")`. -/
def eventStyle : JsonText.Style where
  ensureAscii := false
  compact := true

/-- `Event.encode`. -/
def StampedEvent.encode (stamped : StampedEvent) : List Char :=
  let body := JsonText.write eventStyle (.obj stamped.payload)
  "event: ".toList ++ stamped.event.kind.toList ++ "\ndata: ".toList ++ body ++ "\n\n".toList

def streamOpen : Event where
  kind := "stream.open"
  data := [("ok", .bool true)]
  incidentId := none

/-- The message that opens a stream. -/
def openingEvent (openedAt : String) : StampedEvent where
  event := streamOpen
  madeAt := openedAt

/-- One chunk of the body of the response. -/
def StreamFrame.text (openedAt : String) : StreamFrame StampedEvent → List Char
  | .opened => (openingEvent openedAt).encode
  | .keepAlive => ": keep-alive\n\n".toList
  | .event stamped => stamped.encode

/-- The messages that a chunk carries. -/
def StreamFrame.carried (openedAt : String) : StreamFrame StampedEvent → List StampedEvent
  | .opened => [openingEvent openedAt]
  | .keepAlive => []
  | .event stamped => [stamped]

/-- A message whose kind stays on its line and whose data can be read back. -/
structure Sendable (number : List Char → Option JsonText.Number) (event : Event) : Prop where
  kind_ne : event.kind ≠ ""
  kind : EventSource.OneLine event.kind.toList
  data : JsonText.Writable number (.obj event.data)

/-- The moment is told, and so is the incident, if there is one; the rest is as it was to be
sent. -/
structure Announces (payload : JsonObject) (stamped : StampedEvent) : Prop where
  moment : payload.get "at" = .str stamped.madeAt
  incident : ∀ incidentId, stamped.incidentId = some incidentId → incidentId ≠ "" →
    payload.get "incident_id" = .str incidentId
  data : ∀ key, key ≠ "at" → key ≠ "incident_id" → payload.get key = stamped.event.data.get key

/-- A message of the stream is this one. -/
def Carries (number : List Char → Option JsonText.Number) (message : EventSource.Message)
    (stamped : StampedEvent) : Prop :=
  message.kind = stamped.event.kind.toList ∧
    ∃ payload, JsonText.readText number message.data = some (.obj payload) ∧
      Announces payload stamped

/-- Every message that the run publishes can be sent. -/
def AllSendable (number : List Char → Option JsonText.Number)
    (actions : List (BrokerAction StampedEvent)) : Prop :=
  ∀ stamped, .publish stamped ∈ actions → Sendable number stamped.event

/-- A client has the messages of the chunks that have come whole, wherever the stream is cut. -/
def Followed (number : List Char → Option JsonText.Number) (openedAt : String)
    (frames : List (StreamFrame StampedEvent)) : Prop :=
  EventSource.Reads (StreamFrame.text openedAt) (Carries number) (StreamFrame.carried openedAt)
    frames

section
variable {number : List Char → Option JsonText.Number} {stamped : StampedEvent}
variable {actions : List (BrokerAction StampedEvent)} {b : EventBroker StampedEvent} {handle : ℕ}
variable {frames : List (StreamFrame StampedEvent)} {frame : StreamFrame StampedEvent}
variable {openedAt : String}

theorem writable_insertEntry {entries : JsonObject} {entry : String × Json}
    (h : JsonText.Writable number (.obj entries)) (hv : JsonText.Writable number entry.2) :
    JsonText.Writable number (.obj (JsonText.insertEntry entries entry)) := by
  cases h with
  | obj hkeys h =>
    apply JsonText.Writable.obj (JsonText.nodup_insertEntry hkeys entry)
    intro other hother
    rcases JsonText.mem_insertEntry hother with hother | rfl
    · exact h other hother
    · exact hv

theorem Sendable.payload (h : Sendable number stamped.event) :
    JsonText.Writable number (.obj stamped.payload) := by
  have hstamped : JsonText.Writable number
      (.obj (JsonText.insertEntry stamped.event.data ("at", .str stamped.madeAt))) :=
    writable_insertEntry h.data .str
  unfold StampedEvent.payload
  dsimp only
  split
  · exact writable_insertEntry hstamped .str
  · exact hstamped

theorem announces_payload (stamped : StampedEvent) : Announces stamped.payload stamped := by
  unfold StampedEvent.payload
  dsimp only
  cases hid : stamped.event.incidentId.filter (· ≠ "") with
  | none =>
    constructor
    · rw [JsonObject.get, JsonText.lookup_insertEntry, if_pos rfl]
      rfl
    · intro incidentId hincident hne
      rw [StampedEvent.incidentId] at hincident
      simp [hincident, hne] at hid
    · intro key hat _
      rw [JsonObject.get, JsonText.lookup_insertEntry, if_neg hat]
      rfl
  | some incidentId =>
    have hsome := (Option.filter_eq_some_iff.1 hid).1
    constructor
    · rw [JsonObject.get, JsonText.lookup_insertEntry, if_neg (by decide),
        JsonText.lookup_insertEntry, if_pos rfl]
      rfl
    · intro other hother _
      rw [StampedEvent.incidentId, hsome] at hother
      cases hother
      rw [JsonObject.get, JsonText.lookup_insertEntry, if_pos rfl]
      rfl
    · intro key hat hincident
      rw [JsonObject.get, JsonText.lookup_insertEntry, if_neg hincident,
        JsonText.lookup_insertEntry, if_neg hat]
      rfl

theorem sendable_streamOpen (number : List Char → Option JsonText.Number) :
    Sendable number streamOpen where
  kind_ne := by decide
  kind := ⟨by decide, by decide⟩
  data := by
    apply JsonText.Writable.obj (by decide)
    intro entry hentry
    rw [streamOpen, List.mem_singleton] at hentry
    rw [hentry]
    exact .bool

theorem encode_eq (stamped : StampedEvent) : stamped.encode =
    EventSource.eventFrame stamped.event.kind.toList
      (JsonText.write eventStyle (.obj stamped.payload)) := by
  have hevent : "event: ".toList = "event".toList ++ [':', ' '] := by decide
  have hdata : "\ndata: ".toList = '\n' :: ("data".toList ++ [':', ' ']) := by decide
  have hend : "\n\n".toList = ['\n', '\n'] := by decide
  unfold StampedEvent.encode EventSource.eventFrame EventSource.block
  dsimp only
  rw [hevent, hdata, hend, List.flatMap_cons, List.flatMap_cons, List.flatMap_nil]
  simp only [List.append_assoc, List.cons_append, List.nil_append]

theorem yields_encode (hints : JsonText.ReadsInts number) (h : Sendable number stamped.event) :
    ∃ message, EventSource.Yields stamped.encode [message] ∧ Carries number message stamped := by
  have hclear := JsonText.clear_write eventStyle h.payload
  have hline : EventSource.OneLine (JsonText.write eventStyle (.obj stamped.payload)) :=
    ⟨fun hmem => absurd (hclear _ hmem).1 (by decide),
      fun hmem => absurd (hclear _ hmem).1 (by decide)⟩
  have hkind : stamped.event.kind.toList ≠ [] := by simpa using h.kind_ne
  have hread := JsonText.readText_write hints eventStyle h.payload
  refine ⟨⟨_, _, []⟩, ?_, rfl, _, hread, announces_payload stamped⟩
  rw [encode_eq]
  exact EventSource.yields_eventFrame hkind h.kind hline

theorem yields_text (hints : JsonText.ReadsInts number)
    (h : ∀ stamped ∈ frame.carried openedAt, Sendable number stamped.event) :
    ∃ ms, EventSource.Yields (frame.text openedAt) ms ∧
      List.Forall₂ (Carries number) ms (frame.carried openedAt) := by
  have hencode : ∀ stamped : StampedEvent, Sendable number stamped.event →
      ∃ ms, EventSource.Yields stamped.encode ms ∧
        List.Forall₂ (Carries number) ms [stamped] := by
    intro stamped hsendable
    obtain ⟨message, hyields, hcarries⟩ := yields_encode hints hsendable
    exact ⟨[message], hyields, .cons hcarries .nil⟩
  cases frame with
  | opened => exact hencode (openingEvent openedAt) (sendable_streamOpen number)
  | keepAlive =>
    have hcomment : EventSource.OneLine "keep-alive".toList := ⟨by decide, by decide⟩
    exact ⟨[], EventSource.yields_commentFrame hcomment, .nil⟩
  | event stamped => exact hencode stamped (h stamped (List.mem_singleton_self _))

theorem mem_publishedSince (h : stamped ∈ publishedSince handle actions) :
    .publish stamped ∈ actions := by
  induction actions using List.reverseRecOn with
  | nil => cases h
  | append_singleton actions a ih =>
    rw [publishedSince, ownView_append, List.foldl_append, ← publishedSince] at h
    have hold : stamped ∈ publishedSince handle actions →
        .publish stamped ∈ actions ++ [a] := fun hmem => List.mem_append_left _ (ih hmem)
    cases hown : a.own handle with
    | none =>
      rw [hown] at h
      exact hold h
    | some own =>
      rw [hown, Option.toList_some, List.foldl_cons, List.foldl_nil] at h
      cases own with
      | publish event =>
        rcases List.mem_append.1 h with h | h
        · exact hold h
        · rw [List.mem_singleton.1 h]
          have ha : a = .publish event := by
            cases a <;> simp_all [BrokerAction.own]
          simp [ha]
      | subscribe => cases h
      | unsubscribe => exact hold h
      | get => exact hold h

theorem streamFrames_carried (incidentId : Option String) (waits : List (Option StampedEvent)) :
    (streamFrames StampedEvent.incidentId incidentId waits).flatMap (·.carried openedAt) =
      openingEvent openedAt ::
        (waits.filterMap id).filter (Concerns StampedEvent.incidentId incidentId) := by
  have hshown := streamFrames_shown StampedEvent.incidentId incidentId waits
  have hsame : ∀ frame ∈ waits.filterMap (streamFrame StampedEvent.incidentId incidentId),
      frame.carried openedAt = frame.shown.toList := by
    intro frame hframe
    obtain ⟨wait, -, hwait⟩ := List.mem_filterMap.1 hframe
    cases wait with
    | none =>
      cases hwait
      rfl
    | some stamped =>
      rw [streamFrame, Option.ite_none_right_eq_some] at hwait
      cases hwait.2
      rfl
  rw [streamFrames, List.filterMap_cons_none rfl, List.filterMap_eq_flatMap_toList] at hshown
  rw [streamFrames, List.flatMap_cons, List.flatMap_congr hsame, hshown]
  rfl

/-- Whoever follows the stream gets the opening and then what its subscriber has read and concerns
it, which are some of the messages published since, in their order. -/
theorem stream_delivers (h : BrokerRun actions b) (handle : ℕ) (incidentId : Option String)
    (openedAt : String) {waits : List (Option StampedEvent)}
    (hwaits : waits.filterMap id = readBy handle actions) (hints : JsonText.ReadsInts number)
    (hsendable : AllSendable number actions) :
    Followed number openedAt (streamFrames StampedEvent.incidentId incidentId waits) ∧
      ∃ shown, (streamFrames StampedEvent.incidentId incidentId waits).flatMap
          (·.carried openedAt) = openingEvent openedAt :: shown ∧
        shown = (readBy handle actions).filter (Concerns StampedEvent.incidentId incidentId) ∧
        shown.Sublist (publishedSince handle actions) := by
  have hcarried : (streamFrames StampedEvent.incidentId incidentId waits).flatMap
      (·.carried openedAt) = openingEvent openedAt ::
        (readBy handle actions).filter (Concerns StampedEvent.incidentId incidentId) := by
    rw [streamFrames_carried, hwaits]
  have hread : (readBy handle actions).Sublist (publishedSince handle actions) :=
    (List.sublist_append_left _ _).trans (broker_delivers h handle).inOrder
  refine ⟨?_, _, hcarried, rfl, List.filter_sublist.trans hread⟩
  apply EventSource.reads_of_yields
  intro frame hframe
  apply yields_text hints
  intro stamped hstamped
  have hmem : stamped ∈ openingEvent openedAt ::
      (readBy handle actions).filter (Concerns StampedEvent.incidentId incidentId) := by
    rw [← hcarried]
    exact List.mem_flatMap.2 ⟨frame, hframe, hstamped⟩
  rcases List.mem_cons.1 hmem with rfl | hmem
  · exact sendable_streamOpen number
  · exact hsendable stamped (mem_publishedSince (hread.subset (List.mem_filter.1 hmem).1))

def declaredMessage : StampedEvent where
  event := { kind := "incident.declared", data := [("title", .str "산불")], incidentId := some "a" }
  madeAt := "2026-05-01T00:00:00+00:00"

/-- One message, after a heartbeat. -/
theorem stream_delivers_declared :
    Followed JsonText.integerWord "" (streamFrames StampedEvent.incidentId (some "a")
      [none, some declaredMessage]) := by
  have h₁ := (BrokerRun.start (E := StampedEvent)).step (a := .subscribe 0) (.subscribe rfl)
  have h₂ := h₁.step (a := .publish declaredMessage) (@BrokerStep.publish _ _ [0] _ (by decide)
    (by simp [EventBroker.subscribe]))
  have h₃ := h₂.step (a := .get 0 declaredMessage) (.get rfl)
  refine (stream_delivers h₃ 0 (some "a") "" ?_ JsonText.readsInts_integerWord ?_).1
  · rfl
  · intro stamped hstamped
    have heq : stamped = declaredMessage := by simpa using hstamped
    rw [heq]
    refine ⟨by decide, ⟨by decide, by decide⟩, .obj (by decide) ?_⟩
    intro entry hentry
    rw [declaredMessage, List.mem_singleton] at hentry
    rw [hentry]
    exact .str

end

end Salgil
