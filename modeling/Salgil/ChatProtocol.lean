import Salgil.Converse

namespace Salgil
set_option autoImplicit true

/-- What a turn of the chat does towards the model and the screen, step by step. -/
inductive ChatAct where
  | complete (messages tools : List Json)
  | emit (event : ChatEvent)
  | stream (messages : List Json)

/-- The messages that the model is sent. -/
def ChatAct.request : ChatAct → Option (List Json)
  | .complete messages _ => some messages
  | .emit _ => none
  | .stream messages => some messages

def ChatAct.event : ChatAct → Option ChatEvent
  | .complete _ _ => none
  | .emit event => some event
  | .stream _ => none

/-- The events that a tool call comes with. -/
def ChatEvent.ofCall : ChatEvent → Bool
  | .tool _ _ | .drill _ => true
  | .notice _ | .delta _ | .done => false

def ChatAct.isCompletion : ChatAct → Bool
  | .complete _ _ => true
  | .emit _ => false
  | .stream _ => false

@[simp] theorem ChatAct.request_emit (event : ChatEvent) : (emit event).request = none := rfl

@[simp] theorem ChatAct.isCompletion_emit (event : ChatEvent) :
    (emit event).isCompletion = false := rfl

namespace Assistant

section
variable {K : Type} (lib : ChatLib) (session : Option ℕ) (tools : List Json)

/-- The acts of the rounds that are left. -/
def roundsActs (replies : ℕ → Except PyError Reply) (round : ℕ) : ℕ → Turn K → List ChatAct
  | 0, _ => []
  | remaining + 1, turn =>
    .complete turn.messages tools :: match replies round with
    | .error _ => []
    | .ok reply =>
      if reply.calls.isEmpty then []
      else
        let next := reply.calls.foldl (takeCall lib session tools round)
          { turn with messages := turn.messages ++ [reply.message] }
        (next.emitted.drop turn.emitted.length).map ChatAct.emit ++
          if next.failed.isSome then [] else roundsActs replies (round + 1) remaining next

/-- The limit of rounds is told. -/
def limitActs (ended : Bool) : List ChatAct :=
  if ended then []
  else [.emit (.notice "도구 조회 한도에 도달해 지금까지 확인한 내용으로 답합니다.")]

/-- The acts of the last answer. -/
def answerActs (messages : List Json) (deltas : Except PyError (List String)) : List ChatAct :=
  .stream messages :: match deltas with
  | .error _ => []
  | .ok deltas => ((deltas.filter (· ≠ "")).map ChatEvent.delta).map ChatAct.emit ++
      [.emit .done]

end

/-- The acts of one turn, in their order. -/
def transcript {K : Type} (lib : ChatLib) (session : Option ℕ) (maxToolRounds : ℕ)
    (prompt tools : Except PyError Json) (history : List Json)
    (replies : ℕ → Except PyError Reply) (deltas : Except PyError (List String))
    (w : ChatWorld K) : List ChatAct :=
  match prompt, tools with
  | .error _, _ | .ok _, .error _ => []
  | .ok prompt, .ok tools =>
    let offered := offeredTools session prompt tools
    let start : Turn K := { world := w, messages := systemMessages session prompt ++ history }
    let (turn, ended) := takeRounds lib session offered replies 0 maxToolRounds start
    roundsActs lib session offered replies 0 maxToolRounds start ++
      if turn.failed.isSome then []
      else limitActs ended ++ answerActs turn.messages deltas

def toolMessage (call : ToolCall) (content : String) : Json :=
  .obj [("role", .str "tool"), ("tool_call_id", .str call.id), ("name", .str call.name),
    ("content", .str content)]

/-- A lookup that is made and fails. -/
structure LookupFails (lib : ChatLib) (call : ToolCall) : Prop where
  readable : readable lib call = true
  lookup : call.name ≠ drillToolName
  failed : ∃ error, call.answer = .error error

/-- The message is the answer to the call, and says so if the lookup has failed. -/
def AnswerTo (lib : ChatLib) (call : ToolCall) (message : Json) : Prop :=
  ∃ content, message = toolMessage call content ∧ (LookupFails lib call →
    ∃ reply : JsonObject, content = lib.json.dumps (.obj reply) ∧
      reply.get "error" = .str "tool_failed" ∧ reply.get "tool" = .str call.name)

/-- After a reply with tool calls the model is next sent its message and the answers to the calls,
in their order. -/
def Follows (lib : ChatLib) (reply : Reply) (before after : List Json) : Prop :=
  reply.calls ≠ [] → ∃ answers, after = before ++ reply.message :: answers ∧
    List.Forall₂ (AnswerTo lib) reply.calls answers

/-- The protocol of one turn. -/
structure KeepsProtocol (lib : ChatLib) (maxToolRounds : ℕ) (replies : ℕ → Reply)
    (acts : List ChatAct) : Prop where
  completions : (acts.filter ChatAct.isCompletion).length ≤ maxToolRounds
  answered : ∀ k before after, (acts.filterMap ChatAct.request)[k]? = some before →
    (acts.filterMap ChatAct.request)[k + 1]? = some after → Follows lib (replies k) before after
  notice : (∃ text, .emit (.notice text) ∈ acts) ↔ ∀ k < maxToolRounds, (replies k).calls ≠ []
  final : ∃ (before : List ChatAct) (messages : List Json) (texts : List String),
    acts = before ++ .stream messages :: texts.map (fun text => .emit (.delta text)) ++
      [.emit .done] ∧ ∀ act ∈ before, act ≠ .emit .done ∧ ∀ messages, act ≠ .stream messages

section
variable {K : Type} (lib : ChatLib) (session : Option ℕ) (tools : List Json) (round : ℕ)
variable {turn : Turn K} {call : ToolCall}

theorem runTool_answer (hok : breaksOff lib call = false) (w : ChatWorld K) :
    ∃ output, (runTool lib session call w).result = .ok output ∧
      AnswerTo lib call (toolMessage call (lib.outputText output)) := by
  obtain ⟨-, hresult⟩ := runTool_executed lib session call w
  cases h : (runTool lib session call w).result with
  | error error => simp [hresult.1 ⟨error, h⟩] at hok
  | ok output =>
    refine ⟨output, rfl, _, rfl, fun hfails => ?_⟩
    obtain ⟨error, herror⟩ := hfails.failed
    have hread := hfails.readable
    unfold readable at hread
    unfold runTool at h
    split at hread
    · next value hvalue =>
      rw [hvalue] at h
      dsimp only at h
      rw [if_neg hfails.lookup, herror] at h
      cases h
      exact ⟨_, rfl, rfl, rfl⟩
    · cases hread

theorem takeCall_answer (hturn : turn.failed = none) (hok : breaksOff lib call = false) :
    (takeCall lib session tools round turn call).failed = none ∧
      ∃ message, AnswerTo lib call message ∧
        (takeCall lib session tools round turn call).messages = turn.messages ++ [message] := by
  obtain ⟨output, houtput, hanswer⟩ := runTool_answer lib session hok turn.world
  rw [takeCall, if_neg (by simp [hturn])]
  dsimp only
  rw [houtput]
  exact ⟨hturn, _, hanswer, rfl⟩

theorem takeCall_emitted (turn : Turn K) (call : ToolCall) :
    ∃ events, (takeCall lib session tools round turn call).emitted = turn.emitted ++ events ∧
      ∀ event ∈ events, event.ofCall = true := by
  rw [takeCall]
  split
  · exact ⟨[], by simp⟩
  · dsimp only
    split
    · exact ⟨_, rfl, by simp [ChatEvent.ofCall]⟩
    · refine ⟨_, List.append_assoc _ _ _, fun event hevent => ?_⟩
      rcases List.mem_append.1 hevent with hevent | hevent
      · rw [List.mem_singleton.1 hevent]
        rfl
      · split at hevent
        · rw [List.mem_singleton.1 hevent]
          rfl
        · cases hevent

theorem takeCalls_answers {calls : List ToolCall} (hturn : turn.failed = none)
    (hok : ∀ call ∈ calls, breaksOff lib call = false) :
    (calls.foldl (takeCall lib session tools round) turn).failed = none ∧
      ∃ answers, List.Forall₂ (AnswerTo lib) calls answers ∧
        (calls.foldl (takeCall lib session tools round) turn).messages =
          turn.messages ++ answers := by
  induction calls generalizing turn with
  | nil => exact ⟨hturn, [], .nil, by simp⟩
  | cons call calls ih =>
    obtain ⟨hcall, hcalls⟩ := List.forall_mem_cons.1 hok
    obtain ⟨hfailed, message, hmessage, hmessages⟩ :=
      takeCall_answer lib session tools round hturn hcall
    obtain ⟨hfailed', answers, hanswers, hmessages'⟩ := ih hfailed hcalls
    rw [List.foldl_cons]
    refine ⟨hfailed', message :: answers, .cons hmessage hanswers, ?_⟩
    rw [hmessages', hmessages, List.append_assoc, List.singleton_append]

theorem takeCalls_emitted (turn : Turn K) (calls : List ToolCall) :
    ∃ events, (calls.foldl (takeCall lib session tools round) turn).emitted =
        turn.emitted ++ events ∧ ∀ event ∈ events, event.ofCall = true := by
  induction calls generalizing turn with
  | nil => exact ⟨[], by simp⟩
  | cons call calls ih =>
    obtain ⟨events, hevents, hof⟩ :=
      takeCall_emitted lib session tools round turn call
    obtain ⟨events', hevents', hof'⟩ := ih (takeCall lib session tools round turn call)
    rw [List.foldl_cons]
    refine ⟨events ++ events', by rw [hevents', hevents, List.append_assoc], ?_⟩
    intro event hevent
    exact (List.mem_append.1 hevent).elim (hof event) (hof' event)

theorem roundsActs_only (replies : ℕ → Except PyError Reply) (remaining : ℕ) :
    ∀ act ∈ roundsActs lib session tools replies round remaining turn,
      (∃ messages, act = .complete messages tools) ∨
        ∃ event, act = .emit event ∧ event.ofCall = true := by
  induction remaining generalizing round turn with
  | zero => simp [roundsActs]
  | succ remaining ih =>
    rw [roundsActs, List.forall_mem_cons]
    refine ⟨.inl ⟨_, rfl⟩, ?_⟩
    split
    · simp
    · next reply _ =>
      split
      · simp
      · intro act hact
        obtain ⟨events, hevents, hof⟩ := takeCalls_emitted lib session tools round
          { turn with messages := turn.messages ++ [reply.message] } reply.calls
        rcases List.mem_append.1 hact with hact | hact
        · obtain ⟨event, hevent, rfl⟩ := List.mem_map.1 hact
          rw [hevents, List.drop_left] at hevent
          exact .inr ⟨event, rfl, hof event hevent⟩
        · split at hact
          · cases hact
          · exact ih (round + 1) act hact

theorem completions_of_events (events : List ChatEvent) :
    (events.map ChatAct.emit).filter ChatAct.isCompletion = [] := by
  simp [List.filter_eq_nil_iff]

theorem length_completions_le (replies : ℕ → Except PyError Reply) (remaining : ℕ) :
    ((roundsActs lib session tools replies round remaining turn).filter
      ChatAct.isCompletion).length ≤ remaining := by
  induction remaining generalizing round turn with
  | zero => simp [roundsActs]
  | succ remaining ih =>
    rw [roundsActs, List.filter_cons_of_pos rfl, List.length_cons, Nat.add_le_add_iff_right]
    split
    · simp
    · split
      · simp
      · rw [List.filter_append, completions_of_events, List.nil_append]
        split
        · simp
        · exact ih (round + 1)

theorem requests_of_events (events : List ChatEvent) :
    (events.map ChatAct.emit).filterMap ChatAct.request = [] := by
  simp [List.filterMap_map, Function.comp_def]

/-- Each request follows from the one before it. -/
def Chained (lib : ChatLib) (replies : ℕ → Reply) (round : ℕ) (requests : List (List Json)) :
    Prop :=
  ∀ k before after, requests[k]? = some before → requests[k + 1]? = some after →
    Follows lib (replies (round + k)) before after

theorem Chained.cons {lib : ChatLib} {round : ℕ} {replies : ℕ → Reply} {before after : List Json}
    {requests : List (List Json)} (hfollows : Follows lib (replies round) before after)
    (h : Chained lib replies (round + 1) (after :: requests)) :
    Chained lib replies round (before :: after :: requests) := by
  intro k first second hfirst hsecond
  cases k with
  | zero =>
    cases hfirst
    cases hsecond
    exact hfollows
  | succ k =>
    rw [← Nat.add_assoc, Nat.add_right_comm]
    exact h k first second hfirst hsecond

theorem Chained.single {lib : ChatLib} {replies : ℕ → Reply} (round : ℕ) (messages : List Json) :
    Chained lib replies round [messages] := by
  intro k before after _ hafter
  simp at hafter

theorem rounds_spec (replies : ℕ → Reply) (remaining : ℕ) (hturn : turn.failed = none)
    (hok : ∀ call ∈ askedCalls (fun k => .ok (replies k)) round remaining,
      breaksOff lib call = false) :
    (takeRounds lib session tools (fun k => .ok (replies k)) round remaining turn).1.failed =
        none ∧
      ((takeRounds lib session tools (fun k => .ok (replies k)) round remaining turn).2 = false ↔
        ∀ k < remaining, (replies (round + k)).calls ≠ []) ∧
      ∃ requests, (roundsActs lib session tools (fun k => .ok (replies k)) round remaining
            turn).filterMap ChatAct.request ++
          [(takeRounds lib session tools (fun k => .ok (replies k)) round remaining
            turn).1.messages] = turn.messages :: requests ∧
        Chained lib replies round (turn.messages :: requests) := by
  induction remaining generalizing round turn with
  | zero => exact ⟨hturn, by simp [takeRounds], [], rfl, .single round _⟩
  | succ remaining ih =>
    rw [takeRounds, roundsActs]
    rw [askedCalls] at hok
    dsimp only at hok ⊢
    by_cases hcalls : (replies round).calls.isEmpty = true
    · have hnil : (replies round).calls = [] := List.isEmpty_iff.1 hcalls
      rw [if_pos hcalls, if_pos hcalls]
      refine ⟨hturn, ⟨fun h => (Bool.noConfusion h), fun h => ?_⟩, [_], rfl, ?_⟩
      · exact absurd hnil (h 0 (Nat.succ_pos _))
      · exact .cons (fun hne => absurd hnil hne) (.single _ _)
    · rw [if_neg hcalls] at hok
      rw [if_neg hcalls, if_neg hcalls]
      have hne : (replies round).calls ≠ [] := fun hnil => hcalls (List.isEmpty_iff.2 hnil)
      have hstart : ({ turn with messages := turn.messages ++ [(replies round).message] } :
          Turn K).failed = none := hturn
      obtain ⟨hfailed, answers, hanswers, hmessages⟩ :=
        takeCalls_answers lib session tools round hstart
          fun call hcall => hok call (List.mem_append_left _ hcall)
      generalize (replies round).calls.foldl (takeCall lib session tools round) _ = next
        at hfailed hmessages ⊢
      obtain ⟨hfailed', hended, requests, hrequests, hchained⟩ :=
        ih (round + 1) hfailed fun call hcall => hok call (List.mem_append_right _ hcall)
      rw [if_neg (by simp [hfailed]), if_neg (by simp [hfailed])]
      refine ⟨hfailed', ?_, next.messages :: requests, ?_, ?_⟩
      · rw [hended]
        constructor
        · intro h k hk
          cases k with
          | zero => exact hne
          | succ k =>
            rw [← Nat.add_assoc, Nat.add_right_comm]
            exact h k (Nat.lt_of_succ_lt_succ hk)
        · intro h k hk
          have := h (k + 1) (Nat.succ_lt_succ hk)
          rwa [← Nat.add_assoc, Nat.add_right_comm] at this
      · rw [List.filterMap_cons_some (f := ChatAct.request) (b := turn.messages) rfl,
          List.filterMap_append, requests_of_events, List.nil_append, List.cons_append, hrequests]
      · refine .cons (fun _ => ⟨answers, ?_, hanswers⟩) hchained
        rw [hmessages, List.append_assoc, List.singleton_append]

theorem takeRounds_failed (replies : ℕ → Reply) (remaining : ℕ) (hturn : turn.failed = none) :
    (takeRounds lib session tools (fun k => .ok (replies k)) round remaining turn).1.failed.isSome ↔
      ∃ call ∈ askedCalls (fun k => .ok (replies k)) round remaining,
        breaksOff lib call = true := by
  induction remaining generalizing round turn with
  | zero => simp [takeRounds, askedCalls, hturn]
  | succ remaining ih =>
    rw [takeRounds, askedCalls]
    dsimp only
    by_cases hcalls : (replies round).calls.isEmpty = true
    · simp [hcalls, hturn]
    · rw [if_neg hcalls, if_neg hcalls]
      have hstart : ({ turn with messages := turn.messages ++ [(replies round).message] } :
          Turn K).failed = none := hturn
      obtain ⟨-, hfailed⟩ := takeCalls_spec lib session tools round (replies round).calls hstart
      generalize (replies round).calls.foldl (takeCall lib session tools round) _ = next
        at hfailed ⊢
      by_cases hnext : next.failed.isSome = true
      · obtain ⟨call, hcall, hbreaks⟩ := hfailed.1 hnext
        rw [if_pos hnext]
        exact iff_of_true hnext ⟨call, List.mem_append_left _ hcall, hbreaks⟩
      · rw [if_neg hnext, ih (round + 1) (Option.not_isSome_iff_eq_none.1 hnext)]
        constructor
        · rintro ⟨call, hcall, hbreaks⟩
          exact ⟨call, List.mem_append_right _ hcall, hbreaks⟩
        · rintro ⟨call, hcall, hbreaks⟩
          rcases List.mem_append.1 hcall with hcall | hcall
          · exact absurd (hfailed.2 ⟨call, hcall, hbreaks⟩) hnext
          · exact ⟨call, hcall, hbreaks⟩

theorem answerActs_eq (messages : List Json) (deltas : List String) :
    answerActs messages (.ok deltas) = .stream messages ::
      (deltas.filter (· ≠ "")).map (fun text => .emit (.delta text)) ++ [.emit .done] := by
  simp [answerActs, List.map_map, Function.comp_def]

theorem mem_limitActs {ended : Bool} {act : ChatAct} (h : act ∈ limitActs ended) :
    ended = false ∧ ∃ text, act = .emit (.notice text) := by
  cases ended with
  | true => cases h
  | false => exact ⟨rfl, _, List.mem_singleton.1 h⟩

theorem limitActs_quiet (ended : Bool) : (limitActs ended).filter ChatAct.isCompletion = [] ∧
    (limitActs ended).filterMap ChatAct.request = [] := by
  cases ended <;> exact ⟨rfl, rfl⟩

theorem answerActs_quiet (messages : List Json) (deltas : List String) :
    (answerActs messages (.ok deltas)).filter ChatAct.isCompletion = [] ∧
      (answerActs messages (.ok deltas)).filterMap ChatAct.request = [messages] := by
  constructor
  · rw [answerActs, List.filter_cons_of_neg (by simp [ChatAct.isCompletion]), List.filter_append,
      completions_of_events]
    rfl
  · rw [answerActs, List.filterMap_cons_some (f := ChatAct.request) (b := messages) rfl,
      List.filterMap_append, requests_of_events]
    rfl

theorem keeps_of_rounds {replies : ℕ → Reply} {remaining : ℕ} {acts : List ChatAct}
    {ended : Bool} {messages : List Json} {requests : List (List Json)} (deltas : List String)
    (honly : ∀ act ∈ acts, (∃ messages, act = .complete messages tools) ∨
      ∃ event, act = .emit event ∧ event.ofCall = true)
    (hcompletions : (acts.filter ChatAct.isCompletion).length ≤ remaining)
    (hended : ended = false ↔ ∀ k < remaining, (replies k).calls ≠ [])
    (hrequests : acts.filterMap ChatAct.request ++ [messages] = requests)
    (hchained : Chained lib replies 0 requests) :
    KeepsProtocol lib remaining replies
      (acts ++ (limitActs ended ++ answerActs messages (.ok deltas))) := by
  obtain ⟨hlimit, hlimit'⟩ := limitActs_quiet ended
  obtain ⟨hanswer, hanswer'⟩ := answerActs_quiet messages deltas
  constructor
  · rw [List.filter_append, List.filter_append, hlimit, hanswer, List.append_nil, List.append_nil]
    exact hcompletions
  · rw [List.filterMap_append, List.filterMap_append, hlimit', hanswer', List.nil_append,
      hrequests]
    intro k before after hbefore hafter
    have hfollows := hchained k before after hbefore hafter
    rwa [Nat.zero_add] at hfollows
  · rw [← hended]
    constructor
    · rintro ⟨text, htext⟩
      rcases List.mem_append.1 htext with htext | htext
      · rcases honly _ htext with ⟨_, hcomplete⟩ | ⟨event, hevent, hof⟩
        · cases hcomplete
        · cases hevent
          cases hof
      · rcases List.mem_append.1 htext with htext | htext
        · exact (mem_limitActs htext).1
        · simp [answerActs_eq] at htext
    · rintro rfl
      exact ⟨_, List.mem_append_right _ (List.mem_append_left _ (List.mem_singleton_self _))⟩
  · refine ⟨acts ++ limitActs ended, messages, deltas.filter (· ≠ ""), ?_, ?_⟩
    · rw [answerActs_eq]
      simp
    · intro act hact
      rcases List.mem_append.1 hact with hact | hact
      · rcases honly act hact with ⟨_, rfl⟩ | ⟨event, rfl, hof⟩
        · simp
        · refine ⟨?_, by simp⟩
          rintro ⟨⟩
          cases hof
      · obtain ⟨-, text, rfl⟩ := mem_limitActs hact
        simp

/-- A call that ends the conversation leaves it without an answer. -/
theorem not_keeps_of_breaksOff {lib : ChatLib} {session : Option ℕ} {maxToolRounds : ℕ}
    {rawPrompt rawTools : Json} {history : List Json} {replies : ℕ → Reply}
    {deltas : Except PyError (List String)} {w : ChatWorld K} {call : ToolCall}
    (hcall : call ∈ askedCalls (fun k => .ok (replies k)) 0 maxToolRounds)
    (hbreaks : breaksOff lib call = true) :
    ¬ KeepsProtocol lib maxToolRounds replies (transcript lib session maxToolRounds
      (.ok rawPrompt) (.ok rawTools) history (fun k => .ok (replies k)) deltas w) := by
  rw [transcript]
  dsimp only
  generalize hstart : ({ world := w, messages := _ } : Turn K) = start
  have hfresh : start.failed = none := by rw [← hstart]
  have hfailed := (takeRounds_failed lib session (offeredTools session rawPrompt rawTools) 0
    replies maxToolRounds hfresh).2 ⟨call, hcall, hbreaks⟩
  rw [if_pos hfailed, List.append_nil]
  intro h
  obtain ⟨before, messages, texts, heq, -⟩ := h.final
  have hstream : ChatAct.stream messages ∈ roundsActs lib session
      (offeredTools session rawPrompt rawTools) (fun k => .ok (replies k)) 0 maxToolRounds
      start := by
    rw [heq]
    simp
  rcases roundsActs_only lib session _ 0 _ _ _ hstream with ⟨_, hcomplete⟩ | ⟨_, hevent, -⟩
  · cases hcomplete
  · cases hevent

theorem events_of_events (events : List ChatEvent) :
    (events.map ChatAct.emit).filterMap ChatAct.event = events := by
  simp [List.filterMap_map, Function.comp_def, ChatAct.event]

theorem limitActs_events (ended : Bool) : (limitActs ended).filterMap ChatAct.event =
    if ended then []
    else [.notice "도구 조회 한도에 도달해 지금까지 확인한 내용으로 답합니다."] := by
  cases ended <;> rfl

theorem roundsActs_events (replies : ℕ → Except PyError Reply) (remaining : ℕ) :
    turn.emitted ++ (roundsActs lib session tools replies round remaining turn).filterMap
        ChatAct.event =
      (takeRounds lib session tools replies round remaining turn).1.emitted := by
  induction remaining generalizing round turn with
  | zero => simp [roundsActs, takeRounds]
  | succ remaining ih =>
    rw [roundsActs, takeRounds, List.filterMap_cons_none (f := ChatAct.event) rfl]
    cases replies round with
    | error error => simp
    | ok reply =>
      dsimp only
      split
      · simp
      · obtain ⟨events, hnew, -⟩ := takeCalls_emitted lib session tools round
          { turn with messages := turn.messages ++ [reply.message] } reply.calls
        generalize reply.calls.foldl (takeCall lib session tools round) _ = next at hnew ⊢
        rw [List.filterMap_append, events_of_events, hnew, List.drop_left, ← List.append_assoc,
          ← hnew]
        split
        · simp
        · exact ih (round + 1)

theorem transcript_events (lib : ChatLib) (session : Option ℕ) (maxToolRounds : ℕ)
    (prompt tools : Except PyError Json) (history : List Json)
    (replies : ℕ → Except PyError Reply) (deltas : Except PyError (List String))
    (w : ChatWorld K) :
    (transcript lib session maxToolRounds prompt tools history replies deltas w).filterMap
        ChatAct.event =
      (converse lib session maxToolRounds prompt tools history replies deltas w).emitted := by
  cases prompt with
  | error error => rfl
  | ok prompt =>
    cases tools with
    | error error => rfl
    | ok tools =>
      rw [transcript, converse]
      dsimp only
      generalize hstart : ({ world := w, messages := _ } : Turn K) = start
      have hrounds := @roundsActs_events K lib session (offeredTools session prompt tools) 0 start
        replies maxToolRounds
      have hnone : start.emitted = [] := by rw [← hstart]
      rw [hnone, List.nil_append] at hrounds
      rw [List.filterMap_append, hrounds]
      generalize takeRounds lib session _ replies 0 maxToolRounds start = rounds
      obtain ⟨turn, ended⟩ := rounds
      dsimp only
      split
      · simp
      · rw [List.filterMap_append, limitActs_events]
        cases deltas with
        | error error => cases ended <;> simp [answerActs, streamAnswer, ChatAct.event]
        | ok deltas =>
          dsimp only [answerActs]
          rw [List.filterMap_cons_none (f := ChatAct.event) rfl, List.filterMap_append,
            events_of_events]
          cases ended <;> simp [streamAnswer, ChatAct.event]

/-- A turn keeps the protocol if and only if no call has arguments that break it off. -/
theorem protocol_kept_iff (lib : ChatLib) (session : Option ℕ) (maxToolRounds : ℕ)
    (rawPrompt rawTools : Json) (history : List Json) (replies : ℕ → Reply)
    (deltas : List String) (w : ChatWorld K) :
    KeepsProtocol lib maxToolRounds replies (transcript lib session maxToolRounds (.ok rawPrompt)
        (.ok rawTools) history (fun k => .ok (replies k)) (.ok deltas) w) ↔
      ∀ call ∈ askedCalls (fun k => .ok (replies k)) 0 maxToolRounds,
        breaksOff lib call = false := by
  constructor
  · intro h call hcall
    rw [← Bool.not_eq_true]
    exact fun hbreaks => not_keeps_of_breaksOff hcall hbreaks h
  · intro hok
    rw [transcript]
    dsimp only
    generalize hstart : ({ world := w, messages := _ } : Turn K) = start
    have hfresh : start.failed = none := by rw [← hstart]
    obtain ⟨hfailed, hended, requests, hrequests, hchained⟩ := rounds_spec lib session
      (offeredTools session rawPrompt rawTools) 0 replies maxToolRounds hfresh hok
    rw [if_neg (by simp [hfailed])]
    refine keeps_of_rounds lib _ deltas (roundsActs_only lib session _ 0 _ _)
      (length_completions_le lib session _ 0 _ _) ?_ hrequests hchained
    simpa using hended

end

end Assistant

/-- `json.loads` refuses whole numbers of more than 4300 digits with a plain `ValueError`. -/
def longIntegers : ChatLib where
  json := {
    loads := fun text =>
      if text.length ≤ 4300 then .ok (.obj [])
      else .error (.other (.valueError ("Exceeds the limit (4300 digits) for integer string " ++
        "conversion: value has 4301 digits; use sys.set_int_max_str_digits() to increase the " ++
        "limit")))
    dumps := fun _ => "{}"
    repr := fun _ => "" }
  errorText := fun _ => ""
  hooks := []
  hooks_ok := noHooks_ok

theorem longIntegers_loads {text : String} (h : 4300 < text.length) :
    ∃ error, longIntegers.json.loads text = .error (.other error) :=
  ⟨_, if_neg (Nat.not_le.2 h)⟩

/-- A number of `n` digits. -/
def digitsOf (n : ℕ) : String := String.ofList (List.replicate n '1')

@[simp] theorem length_digitsOf (n : ℕ) : (digitsOf n).length = n := by
  rw [digitsOf, String.length_ofList, List.length_replicate]

/-- A model that calls a lookup with a number. -/
def asksWithNumber (n _ : ℕ) : Reply where
  message := .null
  content := .str ""
  calls := [{ id := "c1", name := "gbsafe_landslide", arguments := digitsOf n }]

theorem not_keeps_of_longNumber {n : ℕ} (h : 4300 < n) :
    ¬ Assistant.KeepsProtocol longIntegers 4 (asksWithNumber n)
      (Assistant.transcript longIntegers none 4 (.ok (.str "")) (.ok (.arr [])) []
        (fun k => .ok (asksWithNumber n k)) (.ok []) ({ db := {} } : ChatWorld ℚ)) := by
  have hcall : { id := "c1", name := "gbsafe_landslide", arguments := digitsOf n } ∈
      Assistant.askedCalls (fun k => .ok (asksWithNumber n k)) 0 4 := by
    simp [Assistant.askedCalls, asksWithNumber]
  apply Assistant.not_keeps_of_breaksOff hcall
  obtain ⟨error, herror⟩ : ∃ error, longIntegers.json.loads (digitsOf n) = .error (.other error) :=
    longIntegers_loads (by rwa [length_digitsOf])
  have hne : digitsOf n ≠ "" := by
    intro hempty
    have hlength := length_digitsOf n
    rw [hempty, String.length_empty] at hlength
    omega
  simp [Assistant.breaksOff, Assistant.readArguments, hne, herror]

theorem long_number_breaks_off :
    ¬ Assistant.KeepsProtocol longIntegers 4 (asksWithNumber 4301)
      (Assistant.transcript longIntegers none 4 (.ok (.str "")) (.ok (.arr [])) []
        (fun k => .ok (asksWithNumber 4301 k)) (.ok []) ({ db := {} } : ChatWorld ℚ)) :=
  not_keeps_of_longNumber (Nat.lt_succ_self 4300)

end Salgil
