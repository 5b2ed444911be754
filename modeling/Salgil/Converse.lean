import Salgil.Assistant
import Mathlib.Data.List.TakeWhile

namespace Salgil
set_option autoImplicit true

/-- One completion: the message, its content, and the tool calls in it. -/
structure Reply where
  message : Json
  content : Json
  calls : List ToolCall

inductive ChatEvent where
  | tool (name : String) (round : ℕ)
  | drill (result : Output)
  | notice (text : String)
  | delta (text : String)
  | done

/-- A tool that was run, with the tools that the completion before it was given. -/
structure Execution where
  executed : Executed
  offered : List Json

/-- A conversation as far as it has got; `failed` is the exception that ended it. -/
structure Turn (K : Type) where
  world : ChatWorld K
  messages : List Json
  emitted : List ChatEvent := []
  executed : List Execution := []
  failed : Option PyError := none

/-- The definition of the drill's tool. -/
def Drills.toolSpec : Json :=
  let property (kind description : String) : Json :=
    .obj [("type", .str kind), ("description", .str description)]
  let choice (values : List String) (description : String) : Json :=
    .obj [("type", .str "string"), ("enum", .arr ((values.insertionSort (· ≤ ·)).map .str)),
      ("description", .str description)]
  .obj [("type", .str "function"), ("function", .obj [
    ("name", .str drillToolName),
    ("description", .str ("경북 특정 시군에 대응 훈련 상황을 개시한다. **훈련 전용이며 실제 경보를 " ++
      "울리지 않는다.** 사용자가 '훈련으로 발생시켜' 라고 명시적으로 요청했을 " ++
      "때만 쓴다. 개시된 상황에는 훈련 표시가 붙어 화면에 그렇게 보인다.")),
    ("parameters", .obj [
      ("type", .str "object"),
      ("properties", .obj [
        ("hazard", choice (drillHazards.map (·.1)) "훈련할 재난 종류"),
        ("region_name", choice (regionNames.map (·.2)) ("시군 이름. 사용자가 말한 지역을 그대로 쓴다 — " ++
          "'봉화'라고 하면 '봉화군'.")),
        ("lat", property "number" "발생 지점 위도 (선택)"),
        ("lon", property "number" "발생 지점 경도 (선택)"),
        ("note", property "string" "훈련 안내 문구 (선택)")]),
      ("required", .arr [.str "hazard", .str "region_name"])])])]

/-- What is added to the system prompt where drills can be opened. -/
def Drills.systemAddendum : String :=
  "\n\n## 훈련 상황 개시 (이 플랫폼의 추가 권한)\n\n" ++
  "당신은 조회만 하는 도우미가 아닙니다. `salgil_start_drill` 도구로 훈련 상황을 실제로\n" ++
  "개시할 수 있고, 그것이 콘솔과 주민 화면에 즉시 뜹니다.\n\n" ++
  "- 운영자가 \"훈련으로 발생시켜줘\", \"훈련 상황 걸어줘\" 처럼 요청하면 **설명하는 글을 쓰지\n" ++
  "  말고 도구를 부르세요.** 시나리오 문서를 대신 써 주는 것은 요청을 수행한 것이 아닙니다.\n" ++
  "- 지역은 `region_name` 에 **시군 이름**으로 넘깁니다. 사용자가 \"청송\"처럼 줄여 말하면\n" ++
  "  \"청송군\"으로 씁니다. 코드는 넣지 마세요 — 이름만 정확하면 됩니다. 경북 밖이면 개시하지\n" ++
  "  말고 그렇게 답합니다.\n" ++
  "- **실제 경보는 개시할 수 없습니다.** 진짜 상황을 알리라고 하면 훈련만 가능하다고 답하고,\n" ++
  "  실제 발령은 콘솔에서 사람이 해야 한다고 안내하세요.\n" ++
  "- 개시한 뒤에는 상황 코드를 알려주고, 화면에 훈련 표시가 붙는다는 점을 덧붙이세요.\n"

namespace Assistant

/-- One tool of the upstream list, in the form that the completion takes. -/
def toolSpecOf : Json → Option Json
  | .obj item =>
    match JsonObject.get item "type", JsonObject.get item "function" with
    | .str "function", .obj _ => some (.obj item)
    | _, _ =>
      let name := JsonObject.get item "name"
      if name.truthy then
        some (.obj [("type", .str "function"), ("function", .obj [("name", name),
          ("description", (item.lookup "description").getD (.str "")),
          ("parameters", (JsonObject.get item "parameters").or
            (.obj [("type", .str "object"), ("properties", .obj [])]))])])
      else none
  | _ => none

def toolSpecs (raw : Json) : List Json :=
  let items := match raw with
    | .obj entries => JsonObject.get entries "tools"
    | raw => raw
  match items with
  | .arr items => items.filterMap toolSpecOf
  | _ => []

def promptText : Json → String
  | .str text => text
  | .obj entries =>
    (["system_prompt", "prompt", "content", "text"].findSome? fun key =>
      match JsonObject.get entries key with
      | .str value => if pyStrip value = "" then none else some value
      | _ => none).getD ""
  | _ => ""

/-- The tools of a conversation. Without a system prompt there are no lookups among them. -/
def offeredTools (session : Option ℕ) (prompt tools : Json) : List Json :=
  match decide (promptText prompt = ""), session with
  | false, some _ => toolSpecs tools ++ [Drills.toolSpec]
  | false, none => toolSpecs tools
  | true, some _ => [Drills.toolSpec]
  | true, none => []

/-- The messages that go in front of the conversation. -/
def systemMessages (session : Option ℕ) (prompt : Json) : List Json :=
  let message (text : String) : Json := .obj [("role", .str "system"), ("content", .str text)]
  let system := promptText prompt
  match decide (system = ""), session with
  | false, some _ => [message (system ++ Drills.systemAddendum)]
  | false, none => [message system]
  | true, some _ => [message Drills.systemAddendum]
  | true, none => []

section
variable {K : Type} (lib : ChatLib) (session : Option ℕ) (tools : List Json)

/-- One tool call of a reply, unless an exception has ended the conversation. -/
def takeCall (round : ℕ) (turn : Turn K) (call : ToolCall) : Turn K :=
  if turn.failed.isSome then turn
  else
    let run := runTool lib session call turn.world
    let turn := { turn with
      world := run.world
      emitted := turn.emitted ++ [ChatEvent.tool call.name (round + 1)]
      executed := turn.executed ++
        run.executed.toList.map fun executed => Execution.mk executed tools }
    match run.result with
    | .error error => { turn with failed := some error }
    | .ok output => { turn with
        emitted := turn.emitted ++
          if call.name = drillToolName then [ChatEvent.drill output] else []
        messages := turn.messages ++
          [Json.obj [("role", .str "tool"), ("tool_call_id", .str call.id),
          ("name", .str call.name), ("content", .str (lib.outputText output))]] }

/-- The rounds that are left, and whether they ended before the limit. -/
def takeRounds (replies : ℕ → Except PyError Reply) (round : ℕ) : ℕ → Turn K → Turn K × Bool
  | 0, turn => (turn, false)
  | remaining + 1, turn =>
    match replies round with
    | .error error => ({ turn with failed := some error }, true)
    | .ok reply =>
      if reply.calls.isEmpty then
        ({ turn with messages := turn.messages ++
          [Json.obj [("role", .str "assistant"), ("content", reply.content)]] }, true)
      else
        let turn := reply.calls.foldl (takeCall lib session tools round)
          { turn with messages := turn.messages ++ [reply.message] }
        if turn.failed.isSome then (turn, true)
        else takeRounds replies (round + 1) remaining turn

/-- The last answer goes out as it comes in. -/
def streamAnswer (deltas : Except PyError (List String)) (turn : Turn K) : Turn K :=
  match deltas with
  | .error error => { turn with failed := some error }
  | .ok deltas => { turn with
      emitted := turn.emitted ++ (deltas.filter (· ≠ "")).map ChatEvent.delta ++ [.done] }

end

/-- One turn of the chat: the prompt and the tools of the upstream server, the replies of the model
round by round, and its last answer. -/
def converse {K : Type} (lib : ChatLib) (session : Option ℕ) (maxToolRounds : ℕ)
    (prompt tools : Except PyError Json) (history : List Json)
    (replies : ℕ → Except PyError Reply) (deltas : Except PyError (List String))
    (w : ChatWorld K) : Turn K :=
  match prompt, tools with
  | .error error, _ | .ok _, .error error => { world := w, messages := [], failed := some error }
  | .ok prompt, .ok tools =>
    let offered := offeredTools session prompt tools
    let (turn, ended) := takeRounds lib session offered replies 0 maxToolRounds
      { world := w, messages := systemMessages session prompt ++ history }
    if turn.failed.isSome then turn
    else streamAnswer deltas (if ended then turn else { turn with
      emitted := turn.emitted ++
        [ChatEvent.notice "도구 조회 한도에 도달해 지금까지 확인한 내용으로 답합니다."] })

/-- The name in a tool's definition. -/
def specName : Json → Option String
  | .obj spec =>
    match JsonObject.get spec "function" with
    | .obj function =>
      match JsonObject.get function "name" with
      | .str name => some name
      | _ => none
    | _ => none
  | _ => none

/-- The tool calls of the replies, up to the first reply without any or the limit of rounds. -/
def askedCalls (replies : ℕ → Except PyError Reply) (round : ℕ) : ℕ → List ToolCall
  | 0 => []
  | remaining + 1 =>
    match replies round with
    | .error _ => []
    | .ok reply =>
      if reply.calls.isEmpty then [] else reply.calls ++ askedCalls replies (round + 1) remaining

/-- Reading the arguments raises an exception that ends the conversation. -/
def breaksOff (lib : ChatLib) (call : ToolCall) : Bool :=
  match readArguments lib call.arguments with
  | .error (.other _) => true
  | _ => false

/-- The arguments can be read. -/
def readable (lib : ChatLib) (call : ToolCall) : Bool :=
  match readArguments lib call.arguments with
  | .ok _ => true
  | .error _ => false

/-- Each tool that is run is one of those offered, and without a prompt none is a lookup. -/
structure OnlyOffered (prompt : Except PyError Json) (executed : List Execution) : Prop where
  offered : ∀ e ∈ executed, e.executed.name ∈ e.offered.filterMap specName
  noLookup : ∀ raw, prompt = .ok raw → promptText raw = "" →
    ∀ e ∈ executed, ∀ name params, e.executed ≠ .lookup name params

/-- Every call that the model gets to make names an offered tool, or the drill, or has arguments
that cannot be read. -/
def NamesOffered (lib : ChatLib) (session : Option ℕ) (maxToolRounds : ℕ)
    (prompt tools : Except PyError Json) (replies : ℕ → Except PyError Reply) : Prop :=
  ∀ rawPrompt rawTools, prompt = .ok rawPrompt → tools = .ok rawTools →
    ∀ call ∈ (askedCalls replies 0 maxToolRounds).takeWhile (!breaksOff lib ·),
      readable lib call → call.name ≠ drillToolName →
        call.name ∈ (offeredTools session rawPrompt rawTools).filterMap specName

variable {K : Type} {lib : ChatLib} {session : Option ℕ} {tools : List Json}

/-- What a call runs, if its arguments can be read and the drill has a session. -/
def executedOf (lib : ChatLib) (session : Option ℕ) (call : ToolCall) : Option Executed :=
  match readArguments lib call.arguments with
  | .error _ => none
  | .ok value =>
    if call.name = drillToolName then
      session.map fun _ => .drill (drillArguments lib (paramsOf value))
    else some (.lookup call.name ((paramsOf value).map fun (key, value) =>
      (key, lib.json.str value)))

theorem runTool_executed (lib : ChatLib) (session : Option ℕ) (call : ToolCall)
    (w : ChatWorld K) :
    (runTool lib session call w).executed = executedOf lib session call ∧
      ((∃ error, (runTool lib session call w).result = .error error) ↔ breaksOff lib call) := by
  unfold runTool executedOf breaksOff
  cases readArguments lib call.arguments with
  | error e => cases e <;> simp
  | ok value =>
    by_cases hname : call.name = drillToolName
    · cases session with
      | none => simp [hname]
      | some s =>
        dsimp only
        generalize startDrill lib s call (drillArguments lib (paramsOf value)) w = drill
        obtain ⟨result, w'⟩ := drill
        cases result <;> simp [hname]
    · cases call.answer <;> simp [hname]

theorem takeCall_spec (lib : ChatLib) (session : Option ℕ) (tools : List Json) (round : ℕ)
    (call : ToolCall) {turn : Turn K} (hturn : turn.failed = none) :
    (takeCall lib session tools round turn call).executed = turn.executed ++
        (executedOf lib session call).toList.map (Execution.mk · tools) ∧
      ((takeCall lib session tools round turn call).failed.isSome ↔ breaksOff lib call) := by
  obtain ⟨hexecuted, hresult⟩ := runTool_executed lib session call turn.world
  rw [takeCall, if_neg (by simp [hturn]), ← hexecuted, ← hresult]
  dsimp only
  split
  · next error herror => exact ⟨rfl, by simp [herror]⟩
  · next output houtput => exact ⟨rfl, by simp [houtput, hturn]⟩

/-- The calls of one reply, up to the one that ends the conversation. -/
theorem takeCalls_spec (lib : ChatLib) (session : Option ℕ) (tools : List Json) (round : ℕ)
    (calls : List ToolCall) {turn : Turn K} (hturn : turn.failed = none) :
    (calls.foldl (takeCall lib session tools round) turn).executed = turn.executed ++
        ((calls.takeWhile (!breaksOff lib ·)).filterMap (executedOf lib session)).map
          (Execution.mk · tools) ∧
      ((calls.foldl (takeCall lib session tools round) turn).failed.isSome ↔
        ∃ call ∈ calls, breaksOff lib call) := by
  have hstays : ∀ (calls : List ToolCall) (turn : Turn K), turn.failed.isSome →
      calls.foldl (takeCall lib session tools round) turn = turn := by
    intro calls turn hfailed
    induction calls with
    | nil => rfl
    | cons call calls ih => rw [List.foldl_cons, takeCall, if_pos hfailed, ih]
  induction calls generalizing turn with
  | nil => simp [hturn]
  | cons call calls ih =>
    obtain ⟨hexecuted, hfailed⟩ := takeCall_spec lib session tools round call hturn
    rw [List.foldl_cons]
    by_cases hbreaks : breaksOff lib call = true
    · rw [hstays calls _ (hfailed.2 hbreaks), hexecuted]
      have hnone : executedOf lib session call = none := by
        unfold breaksOff at hbreaks
        unfold executedOf
        split at hbreaks
        · next herror => simp [herror]
        · cases hbreaks
      simp [hnone, hfailed, hbreaks]
    · have hok : (takeCall lib session tools round turn call).failed = none := by
        simpa [hbreaks] using hfailed
      obtain ⟨hrest, hrestFailed⟩ := ih hok
      refine ⟨?_, by simp [hrestFailed, hbreaks]⟩
      rw [hrest, hexecuted]
      cases hof : executedOf lib session call <;> simp [hbreaks, hof]

theorem takeRounds_executed (lib : ChatLib) (session : Option ℕ) (tools : List Json)
    (replies : ℕ → Except PyError Reply) (round remaining : ℕ)
    {turn : Turn K} (hturn : turn.failed = none) :
    (takeRounds lib session tools replies round remaining turn).1.executed = turn.executed ++
      (((askedCalls replies round remaining).takeWhile (!breaksOff lib ·)).filterMap
        (executedOf lib session)).map (Execution.mk · tools) := by
  induction remaining generalizing round turn with
  | zero => simp [takeRounds, askedCalls]
  | succ remaining ih =>
    rw [takeRounds, askedCalls]
    cases replies round with
    | error error => simp
    | ok reply =>
      dsimp only
      by_cases hcalls : reply.calls.isEmpty
      · simp [hcalls]
      · rw [if_neg hcalls, if_neg hcalls]
        have hstart : ({ turn with messages := turn.messages ++ [reply.message] } :
            Turn K).failed = none := hturn
        obtain ⟨hexecuted, hfailed⟩ :=
          takeCalls_spec lib session tools round reply.calls hstart
        rw [List.takeWhile_append]
        by_cases hbreaks : ∃ call ∈ reply.calls, breaksOff lib call
        · rw [if_pos (hfailed.2 hbreaks), hexecuted]
          have hshort : (reply.calls.takeWhile (!breaksOff lib ·)).length ≠
              reply.calls.length := by
            intro hlength
            obtain ⟨call, hcall, hbreak⟩ := hbreaks
            have hall := List.takeWhile_eq_self_iff.1
              ((List.takeWhile_prefix _).eq_of_length hlength) call hcall
            simp [hbreak] at hall
          rw [if_neg hshort]
        · have hall : reply.calls.takeWhile (!breaksOff lib ·) = reply.calls := by
            apply List.takeWhile_eq_self_iff.2
            intro call hcall
            simpa using fun hbreak => hbreaks ⟨call, hcall, hbreak⟩
          have hok : (reply.calls.foldl (takeCall lib session tools round)
              { turn with messages := turn.messages ++ [reply.message] }).failed = none := by
            simpa using hfailed.not.2 hbreaks
          rw [if_neg (by simp [hok]), ih (round + 1) hok, hexecuted, hall, if_pos rfl]
          simp [List.filterMap_append]

theorem converse_executed {w : ChatWorld K} (lib : ChatLib) (session : Option ℕ)
    (maxToolRounds : ℕ) (rawPrompt rawTools : Json) (history : List Json)
    (replies : ℕ → Except PyError Reply) (deltas : Except PyError (List String)) :
    (converse lib session maxToolRounds (.ok rawPrompt) (.ok rawTools) history replies deltas
      w).executed =
      (((askedCalls replies 0 maxToolRounds).takeWhile (!breaksOff lib ·)).filterMap
        (executedOf lib session)).map
        (Execution.mk · (offeredTools session rawPrompt rawTools)) := by
  have hstart : ({ world := w, messages := systemMessages session rawPrompt ++ history } :
      Turn K).failed = none := rfl
  have hrounds := takeRounds_executed lib session (offeredTools session rawPrompt rawTools) replies
    0 maxToolRounds hstart
  rw [← List.nil_append (List.map _ _)]
  refine Eq.trans ?_ hrounds
  rw [converse]
  generalize takeRounds lib session _ replies 0 maxToolRounds _ = rounds
  obtain ⟨turn, ended⟩ := rounds
  dsimp only
  split
  · rfl
  · cases deltas <;> cases ended <;> rfl

theorem specName_toolSpec : specName Drills.toolSpec = some drillToolName := by
  simp [Drills.toolSpec, specName, JsonObject.get, List.lookup_cons]

theorem drill_offered (s : ℕ) (rawPrompt rawTools : Json) :
    drillToolName ∈ (offeredTools (some s) rawPrompt rawTools).filterMap specName := by
  apply List.mem_filterMap.2 ⟨Drills.toolSpec, _, specName_toolSpec⟩
  cases h : decide (promptText rawPrompt = "") <;> simp [offeredTools, h]

theorem offered_without_prompt {rawPrompt rawTools : Json} (hprompt : promptText rawPrompt = "")
    {name : String} (h : name ∈ (offeredTools session rawPrompt rawTools).filterMap specName) :
    name = drillToolName := by
  cases session with
  | none => simp [offeredTools, hprompt] at h
  | some s =>
    have hoffered : (offeredTools (some s) rawPrompt rawTools).filterMap specName =
        [drillToolName] := by
      simp [offeredTools, hprompt, specName_toolSpec]
    rw [hoffered] at h
    exact List.mem_singleton.1 h

theorem executedOf_eq_some {call : ToolCall} {executed : Executed}
    (h : executedOf lib session call = some executed) : readable lib call = true ∧
      (call.name = drillToolName ∧ (∃ s, session = some s) ∧
        (∃ arguments, executed = .drill arguments) ∨
        call.name ≠ drillToolName ∧ ∃ params, executed = .lookup call.name params) := by
  unfold executedOf at h
  unfold readable
  split at h
  · cases h
  · next value hvalue =>
    refine ⟨by simp [hvalue], ?_⟩
    split at h
    · next hname =>
      obtain ⟨s, hs, rfl⟩ := Option.map_eq_some_iff.1 h
      exact .inl ⟨hname, ⟨s, hs⟩, _, rfl⟩
    · next hname =>
      cases h
      exact .inr ⟨hname, _, rfl⟩

theorem executedOf_lookup (session : Option ℕ) {call : ToolCall} (hread : readable lib call = true)
    (hname : call.name ≠ drillToolName) :
    ∃ params, executedOf lib session call = some (.lookup call.name params) := by
  unfold readable at hread
  split at hread
  · next value hvalue =>
    refine ⟨(paramsOf value).map fun (key, value) => (key, lib.json.str value), ?_⟩
    simp only [executedOf, hvalue, if_neg hname]
  · cases hread

/-- The conversation runs only what it has offered if and only if the model only asks for that. -/
theorem only_offered_iff (lib : ChatLib) (session : Option ℕ) (maxToolRounds : ℕ)
    (prompt tools : Except PyError Json) (history : List Json)
    (replies : ℕ → Except PyError Reply) (deltas : Except PyError (List String))
    (w : ChatWorld K) :
    OnlyOffered prompt
        (converse lib session maxToolRounds prompt tools history replies deltas w).executed ↔
      NamesOffered lib session maxToolRounds prompt tools replies := by
  cases prompt with
  | error error =>
    refine ⟨fun _ _ _ h => ?_, fun _ => ⟨by simp [converse], by simp [converse]⟩⟩
    cases h
  | ok rawPrompt =>
    cases tools with
    | error error =>
      refine ⟨fun _ _ _ _ h => ?_, fun _ => ⟨by simp [converse], by simp [converse]⟩⟩
      cases h
    | ok rawTools =>
      rw [converse_executed]
      constructor
      · rintro ⟨hoffered, -⟩ _ _ hprompt htools call hcall hread hname
        cases hprompt
        cases htools
        obtain ⟨params, hof⟩ := executedOf_lookup session hread hname
        exact hoffered ⟨.lookup call.name params, offeredTools session rawPrompt rawTools⟩
          (List.mem_map_of_mem (List.mem_filterMap.2 ⟨call, hcall, hof⟩))
      · intro hnames
        have hall : ∀ e ∈ (((askedCalls replies 0 maxToolRounds).takeWhile
            (!breaksOff lib ·)).filterMap (executedOf lib session)).map
              (Execution.mk · (offeredTools session rawPrompt rawTools)),
            e.executed.name ∈ e.offered.filterMap specName ∧
              e.offered = offeredTools session rawPrompt rawTools ∧
              ∀ name params, e.executed = .lookup name params → name ≠ drillToolName := by
          intro e he
          obtain ⟨executed, hexecuted, rfl⟩ := List.mem_map.1 he
          obtain ⟨call, hcall, hof⟩ := List.mem_filterMap.1 hexecuted
          obtain ⟨hread, ⟨hname, ⟨s, rfl⟩, arguments, rfl⟩ | ⟨hname, params, rfl⟩⟩ :=
            executedOf_eq_some hof
          · exact ⟨drill_offered s rawPrompt rawTools, rfl, by simp⟩
          · refine ⟨hnames rawPrompt rawTools rfl rfl call hcall hread hname, rfl, ?_⟩
            rintro name params' h
            cases h
            exact hname
        refine ⟨fun e he => (hall e he).1, ?_⟩
        intro raw hraw hempty e he name params hlookup
        cases hraw
        obtain ⟨hname, hoffered, hdrill⟩ := hall e he
        rw [hlookup, hoffered] at hname
        exact hdrill name params hlookup (offered_without_prompt hempty hname)

end Assistant

/-- Texts are read as empty dictionaries, and nothing is registered. -/
def quietLib : ChatLib where
  json := { loads := fun _ => .ok (.obj []), dumps := fun _ => "{}", repr := fun _ => "" }
  errorText := fun _ => ""
  hooks := []
  hooks_ok := noHooks_ok

/-- A model that asks for a lookup once, whatever it has been offered. -/
def asksOnce (round : ℕ) : Except PyError Reply :=
  .ok { message := .null, content := .str "", calls := if round = 0 then
    [{ name := "gbsafe_landslide", arguments := "{}" }] else [] }

/-- Without a system prompt no tool is offered, and the lookup runs. -/
theorem lookup_runs_unoffered :
    (Assistant.converse quietLib none 4 (.ok (.str "")) (.ok (.arr [])) [] asksOnce (.ok [])
      ({ db := {} } : ChatWorld ℚ)).executed = [⟨.lookup "gbsafe_landslide" [], []⟩] ∧
    ¬ Assistant.OnlyOffered (.ok (.str "")) (Assistant.converse quietLib none 4 (.ok (.str ""))
      (.ok (.arr [])) [] asksOnce (.ok []) ({ db := {} } : ChatWorld ℚ)).executed := by
  have hexecuted : (Assistant.converse quietLib none 4 (.ok (.str "")) (.ok (.arr [])) [] asksOnce
      (.ok []) ({ db := {} } : ChatWorld ℚ)).executed = [⟨.lookup "gbsafe_landslide" [], []⟩] := by
    rfl
  refine ⟨hexecuted, ?_⟩
  rintro ⟨hoffered, -⟩
  rw [hexecuted] at hoffered
  simpa using hoffered _ (List.mem_singleton_self _)

end Salgil
