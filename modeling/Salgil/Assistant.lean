import Salgil.Announcements
import Salgil.Drills

namespace Salgil
set_option autoImplicit true

/-- Where the database fails during a drill: at a query, at a flush, or at the commit. -/
inductive Stage where
  | read
  | flush
  | commit
  deriving DecidableEq, Repr

/-- A tool call of the model, with what happens outside meanwhile: the time, a failure of the
database, and the answer of the upstream server. -/
structure ToolCall where
  id : String := ""
  name : String := ""
  arguments : String := ""
  now : Timestamp := 0
  fault : Option Stage := none
  answer : Except PyError Json := .ok .null

/-- The committed rows, what the chat's session has written since, and whether the session refuses
all work until a rollback. -/
structure ChatWorld (K : Type) where
  db : Database K
  written : Option (Database K) := none
  refuses : Bool := false
  announcer : Announcer Event := {}

/-- What the chat calls outside of the service. No hook raises more than an `Exception`. -/
structure ChatLib where
  json : JsonLib
  errorText : PyError → String
  hooks : List (Hook Event)
  hooks_ok : ∀ hook ∈ hooks, ∀ sent event, hook sent event ≠ .escapes

theorem noHooks_ok : ∀ hook ∈ ([] : List (Hook Event)), ∀ sent event,
    hook sent event ≠ .escapes := by simp

/-- What a tool gives back to the model. -/
inductive Output where
  | json (reply : JsonObject)
  | upstream (result : Json)

/-- A tool that was run, with what it was given. -/
inductive Executed where
  | drill (arguments : Drills.Arguments)
  | lookup (name : String) (params : List (String × String))

def Executed.name : Executed → String
  | .drill _ => drillToolName
  | .lookup name _ => name

/-- The end of a tool call: the output or the exception that leaves it, the tool that was run, and
what has become of the world. -/
structure ToolRun (K : Type) where
  result : Except PyError Output
  executed : Option Executed
  world : ChatWorld K

def ChatLib.outputText (lib : ChatLib) : Output → String
  | .json reply => lib.json.dumps (.obj reply)
  | .upstream result => pyTake 20000 (lib.json.dumps result)

/-- A reply with an error. -/
def Output.isError : Output → Bool
  | .json reply => (reply.lookup "error").isSome
  | .upstream _ => false

namespace Assistant
variable {K : Type}

def readArguments (lib : ChatLib) (arguments : String) : Except JsonError Json :=
  if arguments = "" then .ok (.obj []) else lib.json.loads arguments

/-- Arguments that are no dictionary count as none. -/
def paramsOf : Json → JsonObject
  | .obj entries => entries
  | _ => []

def drillArguments (lib : ChatLib) (params : JsonObject) : Drills.Arguments where
  hazard := lib.json.str ((params.get "hazard").or (.str ""))
  regionCode := lib.json.str ((params.get "region_code").or (.str ""))
  regionName := lib.json.str ((params.get "region_name").or ((params.get "region").or
    ((params.get "district").or ((params.get "sigungu").or (.str "")))))
  lat := params.get "lat"
  lon := params.get "lon"
  note := params.get "note"

/-- A drill in the session of the chat, up to and with its commit. -/
def startDrill (lib : ChatLib) (session : ℕ) (call : ToolCall) (arguments : Drills.Arguments)
    (w : ChatWorld K) : Except PyError JsonObject × ChatWorld K :=
  match Drills.request "assistant" arguments with
  | .error error => (.error error, w)
  | .ok (.error reply) => (.ok reply, w)
  | .ok (.ok (payload, name, lat, lon)) =>
    if w.refuses ∨ call.fault = some .read then (.error .databaseError, w)
    else
      match Drills.create (w.written.getD w.db) call.now payload name lat lon with
      | .error error => (.error error, w)
      | .ok (reply, event, db) =>
        if call.fault = some .flush then
          -- a failed flush rolls back, and the session refuses work from then on
          (.error .databaseError, { w with
            written := none
            refuses := true
            announcer := w.announcer.step lib.hooks (.rollback session) })
        else
          let announcer := w.announcer.step lib.hooks (.publishAfterCommit session event)
          if call.fault = some .commit then
            (.error .databaseError, { w with
              written := some db
              refuses := true
              announcer := announcer.step lib.hooks (.commit session false) })
          else
            (.ok reply, { w with
              db := db
              written := none
              announcer := announcer.step lib.hooks (.commit session true) })

def runTool (lib : ChatLib) (session : Option ℕ) (call : ToolCall) (w : ChatWorld K) :
    ToolRun K :=
  match readArguments lib call.arguments with
  | .error .decode => ⟨.ok (.json [("error", .str "arguments_not_json"),
      ("detail", .str (pyTake 200 call.arguments))]), none, w⟩
  | .error (.other error) => ⟨.error error, none, w⟩
  | .ok value =>
    let params := paramsOf value
    if call.name = drillToolName then
      match session with
      | none => ⟨.ok (.json [("error", .str "no_session"),
          ("detail", .str "훈련을 개시할 수 없습니다")]), none, w⟩
      | some session =>
        let arguments := drillArguments lib params
        match startDrill lib session call arguments w with
        | (.ok reply, w) => ⟨.ok (.json reply), some (.drill arguments), w⟩
        | (.error error, w) => ⟨.ok (.json [("error", .str "drill_failed"),
            ("detail", .str (pyTake 300 (lib.errorText error)))]), some (.drill arguments), w⟩
    else
      let executed := Executed.lookup call.name (params.map fun (key, value) =>
        (key, lib.json.str value))
      match call.answer with
      | .ok result => ⟨.ok (.upstream result), some executed, w⟩
      | .error error => ⟨.ok (.json [("error", .str "tool_failed"), ("tool", .str call.name),
          ("detail", .str (pyTake 300 (lib.errorText error))),
          ("instruction", .str
            "이 조회는 실패했다. 값이 없다고 답하지 말고, 확인하지 못했다고 답할 것.")]),
          some executed, w⟩

end Assistant

end Salgil
