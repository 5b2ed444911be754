import Salgil.Assistant

namespace Salgil
set_option autoImplicit true

/-- What another session has committed and sent by then, or a tool call of the chat. -/
inductive ChatStep (K : Type) where
  | others (db : Database K) (announcer : Announcer Event)
  | call (call : ToolCall)

section
variable {K : Type} {lib : ChatLib} {session : Option ℕ} {call : ToolCall} {w : ChatWorld K}

/-- A session that is opened has nothing pending. -/
def ChatWorld.opened (session : Option ℕ) (db : Database K) (announcer : Announcer Event) :
    ChatWorld K where
  db := db
  announcer := match session with
    | some session => announcer.setPending session []
    | none => announcer

/-- The others leave the session's own pending messages alone. -/
def chatStep (lib : ChatLib) (session : Option ℕ) (w : ChatWorld K) : ChatStep K → ChatWorld K
  | .others db announcer => { w with
      db := db
      announcer := match session with
        | some session => announcer.setPending session (w.announcer.pending session)
        | none => announcer }
  | .call call => (Assistant.runTool lib session call w).world

def runChat (lib : ChatLib) (session : Option ℕ) (w : ChatWorld K) (steps : List (ChatStep K)) :
    ChatWorld K :=
  steps.foldl (chatStep lib session) w

/-- An incident that is marked as a drill. -/
structure Marked (incident : Incident) : Prop where
  title : pyStartsWith incident.title drillTitlePrefix
  level : incident.level = 1
  region : ∃ lat lon, (incident.regionCode, incident.regionName, lat, lon) ∈ gyeongbukRegions
  evidence : ∃ evidence, incident.openingEvidence = some evidence ∧
    evidence.get "drill" = .bool true ∧ evidence.get "mode" = .str "training"

/-- A message that is marked as a drill, up to the title of its push. -/
structure MarkedEvent (lib : JsonLib) (event : Event) : Prop where
  kind : event.kind = "incident.declared"
  drill : event.data.get "drill" = .bool true
  mode : event.data.get "mode" = .str "training"
  push : pyStartsWith (Push.incidentText lib event.data).1 drillTitlePrefix

/-- The messages that the broker has got. -/
def published (a : Announcer E) : List E :=
  a.sent.filterMap fun
    | .broker event => some event
    | .hook _ _ => none

/-- All that a tool call may have done: it has committed at most one incident, a drill, and
published the message about it. -/
structure DrillOnly (lib : ChatLib) (call : ToolCall) (w : ChatWorld K) (run : ToolRun K) :
    Prop where
  incidents : ∃ new : List Incident, run.world.db.incidents = w.db.incidents ++ new ∧
    new.length ≤ 1 ∧ (∀ incident ∈ new, Marked incident) ∧
    published run.world.announcer = published w.announcer ++ new.map Incidents.declaredEvent ∧
    ∀ incident ∈ new, MarkedEvent lib.json (Incidents.declaredEvent incident)
  other : call.name ≠ drillToolName → run.world.db = w.db
  error : ∀ output, run.result = .ok output → output.isError = true → run.world.db = w.db

/-- Between two calls the session has nothing open, unless it refuses all work. -/
def ChatWorld.Idle (session : Option ℕ) (w : ChatWorld K) : Prop :=
  w.refuses = true ∨ w.written = none ∧ ∀ s ∈ session, w.announcer.pending s = []

theorem mem_of_lookup {l : List (String × α)} {key : String} {value : α}
    (h : l.lookup key = some value) : (key, value) ∈ l := by
  induction l with
  | nil => cases h
  | cons entry l ih =>
    obtain ⟨key', value'⟩ := entry
    rw [List.lookup_cons] at h
    split at h
    · next heq =>
      cases h
      rw [beq_iff_eq.1 heq]
      exact List.mem_cons_self
    · exact List.mem_cons_of_mem _ (ih h)

namespace Drills

theorem mem_codesByName {name code : String} (h : (name, code) ∈ codesByName) :
    ∃ lat lon, (code, name, lat, lon) ∈ gyeongbukRegions := by
  obtain ⟨⟨code', name', lat, lon⟩, hmem, heq⟩ := List.mem_map.1 h
  cases heq
  exact ⟨lat, lon, hmem⟩

theorem resolveCandidate_mem {candidate code name : String}
    (h : resolveCandidate candidate = some (code, name)) :
    ∃ lat lon, (code, name, lat, lon) ∈ gyeongbukRegions := by
  unfold resolveCandidate at h
  split at h
  · next hlookup =>
    cases h
    exact mem_codesByName (mem_of_lookup hlookup)
  · obtain ⟨⟨known, code'⟩, hfind, heq⟩ := Option.map_eq_some_iff.1 h
    cases heq
    exact mem_codesByName (List.mem_of_find?_eq_some hfind)

theorem resolveRegion_mem {code name : String} {resolved : String × String}
    (h : resolveRegion code name = some resolved) :
    ∃ lat lon, (resolved.1, resolved.2, lat, lon) ∈ gyeongbukRegions := by
  unfold resolveRegion at h
  rcases Option.or_eq_some_iff.1 h with h | ⟨-, h⟩
  · rcases Option.or_eq_some_iff.1 h with h | ⟨-, h⟩
    · exact resolveCandidate_mem h
    · exact resolveCandidate_mem h
  · obtain ⟨known, hlookup, rfl⟩ := Option.map_eq_some_iff.1 h
    obtain ⟨⟨code', name', lat, lon⟩, hmem, heq⟩ := List.mem_map.1 (mem_of_lookup hlookup)
    cases heq
    exact ⟨lat, lon, hmem⟩

/-- The name goes before the code of another county. -/
example : resolveRegion "47250" "봉화" = some ("47920", "봉화군") := by decide +kernel

/-- The marks of a drill, as its payload carries them. -/
structure MarkedPayload (payload : IncidentCreate) (name : String) : Prop where
  title : pyStartsWith payload.title drillTitlePrefix
  level : payload.level = 1
  region : ∃ lat lon, (payload.regionCode, name, lat, lon) ∈ gyeongbukRegions
  evidence : ∃ evidence, payload.openingEvidence = some evidence ∧
    evidence.get "drill" = .bool true ∧ evidence.get "mode" = .str "training"

theorem drillEvidence_get (lat lon : Json) (requestedBy : String) :
    (drillEvidence lat lon requestedBy).get "drill" = .bool true ∧
      (drillEvidence lat lon requestedBy).get "mode" = .str "training" := by
  constructor <;> simp [drillEvidence, JsonObject.get, List.lookup_cons]

theorem payload_marked {arguments : Arguments} {actor code name korean : String} {lat lon : Json}
    {request : IncidentCreate} (hregion : ∃ lat lon, (code, name, lat, lon) ∈ gyeongbukRegions)
    (h : payload arguments actor code name korean lat lon = .ok request) :
    MarkedPayload request name := by
  obtain ⟨hazard, -, h⟩ := bind_eq_ok.1 h
  split at h
  · split at h
    · cases h
      refine ⟨?_, rfl, hregion, _, rfl, drillEvidence_get lat lon actor⟩
      simp only [String.append_assoc]
      exact pyStartsWith_append _ _
    · cases h
  · cases h

theorem request_marked {actor : String} {arguments : Arguments} {payload : IncidentCreate}
    {name : String} {lat lon : Json}
    (h : request actor arguments = .ok (.ok (payload, name, lat, lon))) :
    MarkedPayload payload name := by
  unfold request at h
  split at h
  · cases h
  · split at h
    · cases h
    · next hresolve =>
      obtain ⟨⟨lat', lon'⟩, -, h⟩ := bind_eq_ok.1 h
      obtain ⟨request, hpayload, h⟩ := bind_eq_ok.1 h
      cases h
      exact payload_marked (resolveRegion_mem hresolve) hpayload

end Drills

theorem MarkedPayload_declared {db db' : Database K} {now : Timestamp} {actor name : String}
    {payload : IncidentCreate} {incident : Incident} {event : Event}
    (hpayload : Drills.MarkedPayload payload name)
    (h : Incidents.create db now actor name payload = .ok (incident, event, db')) :
    Marked incident := by
  simp only [Incidents.create] at h
  split at h
  · cases h
  · cases h
    exact ⟨hpayload.title, hpayload.level, hpayload.region, hpayload.evidence⟩

theorem pyStartsWith_ne_empty {text : String} (h : pyStartsWith text drillTitlePrefix) :
    text ≠ "" := by
  rintro rfl
  revert h
  decide

theorem Marked.event {incident : Incident} (h : Marked incident) (lib : JsonLib) :
    MarkedEvent lib (Incidents.declaredEvent incident) := by
  obtain ⟨evidence, hevidence, hdrill, hmode⟩ := h.evidence
  have hlookup : evidence.lookup "mode" = some (.str "training") := by
    cases hlookup : evidence.lookup "mode" with
    | none => simp [JsonObject.get, hlookup] at hmode
    | some value => simpa [JsonObject.get, hlookup] using hmode
  have hdrillEvent : (Incidents.declaredEvent incident).data.get "drill" = .bool true := by
    have htruthy : ((incident.openingEvidence.getD []).get "drill").truthy = true := by
      rw [hevidence, Option.getD_some, hdrill]
      rfl
    simpa [Incidents.declaredEvent, JsonObject.get, List.lookup_cons] using htruthy
  have htitle : lib.str (((Incidents.declaredEvent incident).data.get "title").or
      (.str "긴급 상황")) = incident.title := by
    have hne := pyStartsWith_ne_empty h.title
    simp [Incidents.declaredEvent, JsonObject.get, List.lookup_cons, Json.or, Json.truthy, hne,
      JsonLib.str]
  refine ⟨rfl, hdrillEvent, ?_, ?_⟩
  · simp [Incidents.declaredEvent, JsonObject.get, List.lookup_cons, hevidence, hlookup]
  · simp only [Push.incidentText, hdrillEvent, htitle, h.title, Json.truthy]
    exact h.title

theorem published_commit (hhooks : ∀ hook ∈ lib.hooks, ∀ sent event, hook sent event ≠ .escapes)
    (a : Announcer Event) (s : ℕ) (event : Event) (hpending : a.pending s = []) :
    published ((a.step lib.hooks (.publishAfterCommit s event)).step lib.hooks (.commit s true)) =
      published a ++ [event] ∧
    ((a.step lib.hooks (.publishAfterCommit s event)).step lib.hooks (.commit s true)).pending s =
      [] := by
  constructor
  · simp only [Announcer.step, Announcer.setPending, Function.update_self, hpending,
      List.nil_append, publishPending_eq hhooks, published, List.filterMap_append]
    simp [deliveries, List.filterMap_map]
  · exact Function.update_self _ _ _

/-- What a drill has done in the end: it is committed, or nothing is. -/
theorem startDrill_spec {s : ℕ} {arguments : Drills.Arguments} {w' : ChatWorld K}
    {result : Except PyError JsonObject} (hidle : w.Idle (some s))
    (h : Assistant.startDrill lib s call arguments w = (result, w')) :
    w'.Idle (some s) ∧ (w'.db = w.db ∧ published w'.announcer = published w.announcer ∨
      ∃ incident reply, Marked incident ∧ result = .ok reply ∧ reply.lookup "error" = none ∧
        w'.db.incidents = w.db.incidents ++ [incident] ∧
        published w'.announcer = published w.announcer ++ [Incidents.declaredEvent incident]) := by
  unfold Assistant.startDrill at h
  split at h
  · cases h
    exact ⟨hidle, .inl ⟨rfl, rfl⟩⟩
  · cases h
    exact ⟨hidle, .inl ⟨rfl, rfl⟩⟩
  · next payload name lat lon hrequest =>
    split at h
    · cases h
      exact ⟨hidle, .inl ⟨rfl, rfl⟩⟩
    · next hready =>
      obtain ⟨hwritten, hpending⟩ : w.written = none ∧ w.announcer.pending s = [] := by
        rcases hidle with hrefuses | ⟨hwritten, hpending⟩
        · exact absurd (.inl hrefuses) hready
        · exact ⟨hwritten, hpending s rfl⟩
      split at h
      · cases h
        exact ⟨hidle, .inl ⟨rfl, rfl⟩⟩
      · next reply event db hcreate =>
        obtain ⟨⟨incident, event, db⟩, hincident, hreply⟩ := bind_eq_ok.1 hcreate
        cases hreply
        split at h
        · cases h
          exact ⟨.inl rfl, .inl ⟨rfl, rfl⟩⟩
        · split at h
          · cases h
            exact ⟨.inl rfl, .inl ⟨rfl, rfl⟩⟩
          · cases h
            have hmarked := Drills.request_marked hrequest
            obtain ⟨-, -, -, -, -, rfl, hdb, -⟩ := Incidents.create_eq_ok hincident
            obtain ⟨hpublished, hempty⟩ := published_commit lib.hooks_ok w.announcer s
              (Incidents.declaredEvent incident) hpending
            refine ⟨.inr ⟨rfl, ?_⟩, .inr ⟨incident, _, MarkedPayload_declared hmarked hincident,
              rfl,
              ?_, ?_, hpublished⟩⟩
            · rintro s' hs'
              cases hs'
              exact hempty
            · simp [Drills.started, List.lookup_cons]
            · rw [hdb, hwritten]
              rfl

theorem runTool_spec (hidle : w.Idle session) :
    (Assistant.runTool lib session call w).world.Idle session ∧
      DrillOnly lib call w (Assistant.runTool lib session call w) := by
  have hnone : ∀ run : ToolRun K, run.world = w → run.world.Idle session ∧
      DrillOnly lib call w run := by
    rintro run rfl
    exact ⟨hidle, ⟨[], by simp⟩, fun _ => rfl, fun _ _ _ => rfl⟩
  unfold Assistant.runTool
  split
  · exact hnone _ rfl
  · exact hnone _ rfl
  · next value _ =>
    dsimp only
    split
    · next hname =>
      cases session with
      | none => exact hnone _ rfl
      | some s =>
        dsimp only
        generalize hdrill : Assistant.startDrill lib s call _ w = drill
        obtain ⟨result, w'⟩ := drill
        obtain ⟨hidle', hspec⟩ := startDrill_spec hidle hdrill
        rcases hspec with ⟨hdb, hpublished⟩ |
          ⟨incident, reply, hmarked, rfl, hreply, hdb, hpublished⟩
        · have hall : ∀ run : ToolRun K, run.world = w' → run.world.Idle (some s) ∧
              DrillOnly lib call w run := by
            rintro run rfl
            exact ⟨hidle', ⟨[], by simp [hdb, hpublished]⟩, fun _ => hdb, fun _ _ _ => hdb⟩
          cases result with
          | ok reply => exact hall _ rfl
          | error error => exact hall _ rfl
        · refine ⟨hidle', ⟨[incident], hdb, le_rfl, ?_, hpublished, ?_⟩, ?_, ?_⟩
          · intro row hrow
            rwa [List.mem_singleton.1 hrow]
          · intro row hrow
            rw [List.mem_singleton.1 hrow]
            exact hmarked.event lib.json
          · exact fun hne => absurd hname hne
          · intro output houtput herror
            cases houtput
            simp [Output.isError, hreply] at herror
    · split
      · exact hnone _ rfl
      · exact hnone _ rfl

theorem ChatWorld.Idle.step (hidle : w.Idle session) (step : ChatStep K) :
    (chatStep lib session w step).Idle session := by
  cases step with
  | call call => exact (runTool_spec hidle).1
  | others db announcer =>
    rcases hidle with hrefuses | ⟨hwritten, hpending⟩
    · exact .inl hrefuses
    · refine .inr ⟨hwritten, ?_⟩
      rintro s rfl
      simpa [chatStep, Announcer.setPending] using hpending s rfl

theorem ChatWorld.opened_idle (session : Option ℕ) (db : Database K)
    (announcer : Announcer Event) : (ChatWorld.opened session db announcer).Idle session := by
  refine .inr ⟨rfl, ?_⟩
  rintro s rfl
  exact Function.update_self _ _ _

theorem ChatWorld.Idle.run (hidle : w.Idle session) (steps : List (ChatStep K)) :
    (runChat lib session w steps).Idle session := by
  induction steps generalizing w with
  | nil => exact hidle
  | cons step steps ih => exact ih (hidle.step step)

/-- Whatever the model writes, each of its tool calls commits a drill or nothing. -/
theorem chat_only_drills (lib : ChatLib) (session : Option ℕ) (db : Database K)
    (announcer : Announcer Event) (steps : List (ChatStep K)) (call : ToolCall) :
    DrillOnly lib call (runChat lib session (.opened session db announcer) steps)
      (Assistant.runTool lib session call
        (runChat lib session (.opened session db announcer) steps)) :=
  (runTool_spec ((ChatWorld.opened_idle session db announcer).run steps)).2

end

end Salgil
