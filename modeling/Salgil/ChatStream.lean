import Salgil.ChatProtocol
import Salgil.EventSource
import Salgil.FeatureFiles
import Salgil.JsonWriter
import Mathlib.Data.List.Forall2

namespace Salgil
set_option autoImplicit true

/-- What a generator yields that passes on what it makes of each item of another one, until one of
the two raises an exception. -/
def Yielded.through (f : α → Except ε (Option β)) : List α → Option ε → Yielded β ε
  | [], error => ⟨[], error⟩
  | a :: items, error =>
    match f a with
    | .error raised => ⟨[], some raised⟩
    | .ok none => through f items error
    | .ok (some b) =>
      let rest := through f items error
      ⟨b :: rest.items, rest.error⟩

/-- An exception of the chat: the key is missing, a chunk has another shape, or anything else that
is raised. -/
inductive ChatError where
  | notConfigured
  | attributeError
  | keyError
  | typeError
  | raised (error : PyError)

namespace Upstage

/-- `choices[0]`, if there is any choice. -/
def firstChoice (choices : Json) : Except ChatError (Option Json) :=
  if choices.truthy then
    match choices with
    | .arr (choice :: _) => .ok (some choice)
    | .str text => .ok (some (.str (pyTake 1 text)))
    | .obj _ => .error .keyError
    | _ => .error .typeError
  else .ok none

/-- The choice that a line of the response brings, if any. -/
def lineChoice (loads : String → Except JsonError Json) (line : List Char) :
    Except ChatError (Option Json) :=
  if "data:".toList.isPrefixOf line then
    let data := stripChars (line.drop 5)
    if data = [] ∨ data = "[DONE]".toList then .ok none
    else match loads (String.ofList data) with
    | .error .decode => .ok none
    | .error (.other error) => .error (.raised error)
    | .ok (.obj chunk) => firstChoice (JsonObject.get chunk "choices")
    | .ok _ => .error .attributeError
  else .ok none

/-- `UpstageClient.stream`, on the lines of the response and the exception that ends them, if
any. -/
def stream (loads : String → Except JsonError Json) (configured : Bool)
    (lines : Yielded (List Char) ChatError) : Yielded Json ChatError :=
  if configured then .through (lineChoice loads) lines.items lines.error
  else ⟨[], some .notConfigured⟩

end Upstage

namespace Assistant

/-- What a drill event shows: the output, read back from its text. -/
def readBack (lib : ChatLib) (output : Output) : Json :=
  match lib.json.loads (lib.outputText output) with
  | .ok result => result
  | .error _ => .null

/-- An event of the chat as it is sent. -/
def eventJson (lib : ChatLib) : ChatEvent → Json
  | .tool name round => .obj [("kind", .str "tool"), ("name", .str name), ("round", .int round)]
  | .drill output => .obj [("kind", .str "drill"), ("result", readBack lib output)]
  | .notice text => .obj [("kind", .str "notice"), ("text", .str text)]
  | .delta text => .obj [("kind", .str "delta"), ("text", .str text)]
  | .done => .obj [("kind", .str "done")]

def deltaJson (content : Json) : Json := .obj [("kind", .str "delta"), ("text", content)]

/-- The event for a choice of the last answer, if it has any content. -/
def choiceDelta : Json → Except ChatError (Option Json)
  | .obj choice =>
    let delta := JsonObject.get choice "delta"
    if delta.truthy then
      match delta with
      | .obj delta =>
        let content := JsonObject.get delta "content"
        .ok (if content.truthy then some (deltaJson content) else none)
      | _ => .error .attributeError
    else .ok none
  | _ => .error .attributeError

def limitNotice : ChatEvent := .notice "도구 조회 한도에 도달해 지금까지 확인한 내용으로 답합니다."

/-- All that `converse` yields, and the exception that it ends with, if any. -/
def conversation {K : Type} (lib : ChatLib) (configured : Bool) (session : Option ℕ)
    (maxToolRounds : ℕ) (prompt tools : Except PyError Json) (history : List Json)
    (replies : ℕ → Except PyError Reply) (lines : Yielded (List Char) ChatError)
    (w : ChatWorld K) : Yielded Json ChatError :=
  match prompt, tools with
  | .error error, _ | .ok _, .error error => ⟨[], some (.raised error)⟩
  | .ok prompt, .ok tools =>
    -- without a key the first completion raises
    if ¬ configured ∧ maxToolRounds ≠ 0 then ⟨[], some .notConfigured⟩
    else
      let (turn, ended) := takeRounds lib session (offeredTools session prompt tools) replies 0
        maxToolRounds { world := w, messages := systemMessages session prompt ++ history }
      let before := turn.emitted.map (eventJson lib)
      match turn.failed with
      | some error => ⟨before, some (.raised error)⟩
      | none =>
        let choices := Upstage.stream lib.json.loads configured lines
        let answer := Yielded.through choiceDelta choices.items choices.error
        ⟨before ++ (if ended then [] else [eventJson lib limitNotice]) ++ answer.items ++
          (if answer.error.isNone then [eventJson lib .done] else []), answer.error⟩

/-- The event that tells of an exception. -/
def errorJson (errorText : ChatError → String) (error : ChatError) : Json :=
  .obj [("kind", .str "error"), ("text", .str (match error with
    | .notConfigured => "SALGIL_UPSTAGE_API_KEY 가 없습니다 — 챗봇을 쓰려면 키를 설정하세요"
    | error => "응답을 받지 못했습니다: " ++ errorText error))]

/-- The events of the response of `chat`, which never raises. -/
def bodyEvents (errorText : ChatError → String) (run : Yielded Json ChatError) : List Json :=
  run.items ++ (run.error.map (errorJson errorText)).toList

/-- A chunk of the response. The texts here hold no lone surrogates; a `str` of Python may, and then
the response cannot encode its chunk and raises, outside of the `try` of `body`. -/
def chatChunk (lib : ChatLib) (event : Json) : List Char :=
  "data: ".toList ++ (lib.json.dumps event).toList ++ "\n\n".toList

def eventKind : Json → Json
  | .obj entries => JsonObject.get entries "kind"
  | _ => .null

/-- The event after which nothing comes. -/
def IsEnd (event : Json) : Prop := eventKind event = .str "done" ∨ eventKind event = .str "error"

/-- The last event, and no other, tells how the conversation ended. -/
def EndsOnce (events : List Json) (failed : Bool) : Prop :=
  ∃ before last, events = before ++ [last] ∧ (∀ event ∈ before, ¬ IsEnd event) ∧
    eventKind last = .str (if failed then "error" else "done")

/-- A message of the response is this event. -/
def Shows (number : List Char → Option JsonText.Number) (message : EventSource.Message)
    (event : Json) : Prop :=
  message.kind = "message".toList ∧ JsonText.readText number message.data = some event

end Assistant

/-- `ensure_ascii=False`. -/
def plainStyle : JsonText.Style where
  ensureAscii := false

/-- What the chat relies on: `json.dumps` writes a value without `ensure_ascii`, and `json.loads`
reads JSON texts, integers among them. -/
structure LawfulJson (number : List Char → Option JsonText.Number) (lib : JsonLib) : Prop where
  loads : ReadsJson number lib
  dumps : ∀ v, lib.dumps v = String.ofList (JsonText.write plainStyle v)
  ints : JsonText.ReadsInts number

namespace Yielded
variable {α : Type u} {β : Type v} {ε : Type w} {f : α → Except ε (Option β)} {b : β}
variable {items before : List α} {error : Option ε}

theorem mem_through (h : b ∈ (through f items error).items) : ∃ a ∈ items, f a = .ok (some b) := by
  induction items with
  | nil => cases h
  | cons a items ih =>
    have hrest : b ∈ (through f items error).items → ∃ a' ∈ a :: items, f a' = .ok (some b) := by
      intro hmem
      obtain ⟨a', ha', hf⟩ := ih hmem
      exact ⟨a', List.mem_cons_of_mem _ ha', hf⟩
    rw [through] at h
    split at h
    · cases h
    · exact hrest h
    · next hf =>
      rcases List.mem_cons.1 h with rfl | h
      · exact ⟨a, List.mem_cons_self, hf⟩
      · exact hrest h

theorem through_cons {a : α} {result : Option β} (h : f a = .ok result) (items : List α)
    (error : Option ε) : through f (a :: items) error =
      ⟨result.toList ++ (through f items error).items, (through f items error).error⟩ := by
  rw [through, h]
  cases result <;> rfl

theorem through_append {bs : List β} (h : through f before none = ⟨bs, none⟩) (items : List α)
    (error : Option ε) : through f (before ++ items) error =
      ⟨bs ++ (through f items error).items, (through f items error).error⟩ := by
  induction before generalizing bs with
  | nil =>
    cases h
    rfl
  | cons a before ih =>
    cases ha : f a with
    | error raised => simp [through, ha] at h
    | ok result =>
      rw [through_cons ha] at h
      cases hrest : through f before none with
      | mk rest restError =>
        rw [hrest] at h
        cases h
        rw [List.cons_append, through_cons ha, ih hrest, List.append_assoc]

end Yielded

namespace Assistant
variable {K : Type} {lib : ChatLib} {number : List Char → Option JsonText.Number}
variable {events : List Json} {event : Json} {errorText : ChatError → String}

theorem not_isEnd_of_kind {kind : String} {entries : JsonObject} (hdone : kind ≠ "done")
    (herror : kind ≠ "error") : ¬ IsEnd (.obj (("kind", .str kind) :: entries)) := by
  have hkind : eventKind (.obj (("kind", .str kind) :: entries)) = .str kind := rfl
  rw [IsEnd, hkind]
  simp [hdone, herror]

theorem ofCall_of_takeRounds (lib : ChatLib) (session : Option ℕ) (tools messages : List Json)
    (replies : ℕ → Except PyError Reply) (maxToolRounds : ℕ) (w : ChatWorld K) :
    ∀ event ∈ (takeRounds lib session tools replies 0 maxToolRounds
      { world := w, messages := messages }).1.emitted, event.ofCall = true := by
  intro event hevent
  rw [← roundsActs_events, List.nil_append] at hevent
  obtain ⟨act, hact, hof⟩ := List.mem_filterMap.1 hevent
  rcases roundsActs_only lib session tools 0 replies maxToolRounds act hact with
    ⟨_, rfl⟩ | ⟨event', rfl, hcall⟩
  · cases hof
  · cases hof
    exact hcall

theorem not_isEnd_ofCall {event : ChatEvent} (h : event.ofCall = true) :
    ¬ IsEnd (eventJson lib event) := by
  cases event with
  | tool name round => exact not_isEnd_of_kind (by decide) (by decide)
  | drill output => exact not_isEnd_of_kind (by decide) (by decide)
  | notice => cases h
  | delta => cases h
  | done => cases h

theorem not_isEnd_choiceDelta {choice : Json} (h : choiceDelta choice = .ok (some event)) :
    ¬ IsEnd event := by
  have hdelta : ∀ content, ¬ IsEnd (deltaJson content) := fun content =>
    not_isEnd_of_kind (by decide) (by decide)
  unfold choiceDelta at h
  split at h
  · dsimp only at h
    split at h
    · split at h
      · split at h
        · cases h
          exact hdelta _
        · cases h
      · cases h
    · cases h
  · cases h

theorem endsOnce_body (lib : ChatLib) (errorText : ChatError → String) {items : List Json}
    (error : Option ChatError) (h : ∀ event ∈ items, ¬ IsEnd event) :
    EndsOnce (bodyEvents errorText
      ⟨items ++ if error.isNone then [eventJson lib .done] else [], error⟩) error.isSome := by
  cases error with
  | none => exact ⟨items, eventJson lib .done, by simp [bodyEvents], h, rfl⟩
  | some error => exact ⟨items, errorJson errorText error, by simp [bodyEvents], h, rfl⟩

/-- However a conversation goes, its last event and no other tells how it ended. -/
theorem endsOnce_conversation (lib : ChatLib) (errorText : ChatError → String) (configured : Bool)
    (session : Option ℕ) (maxToolRounds : ℕ) (prompt tools : Except PyError Json)
    (history : List Json) (replies : ℕ → Except PyError Reply)
    (lines : Yielded (List Char) ChatError) (w : ChatWorld K) :
    EndsOnce (bodyEvents errorText (conversation lib configured session maxToolRounds prompt tools
      history replies lines w)) (conversation lib configured session maxToolRounds prompt tools
        history replies lines w).error.isSome := by
  have hfails : ∀ error, EndsOnce (bodyEvents errorText ⟨[], some error⟩) true := fun error =>
    endsOnce_body lib errorText (some error) (List.forall_mem_nil _)
  unfold conversation
  split
  · exact hfails _
  · exact hfails _
  · next prompt tools =>
    split
    · exact hfails _
    · have hcalls := ofCall_of_takeRounds lib session (offeredTools session prompt tools)
        (systemMessages session prompt ++ history) replies maxToolRounds w
      generalize takeRounds lib session (offeredTools session prompt tools) replies 0 maxToolRounds
        { world := w, messages := systemMessages session prompt ++ history } = rounds at hcalls ⊢
      obtain ⟨turn, ended⟩ := rounds
      have hbefore : ∀ event ∈ turn.emitted.map (eventJson lib), ¬ IsEnd event := by
        intro event hevent
        obtain ⟨event', hevent', rfl⟩ := List.mem_map.1 hevent
        exact not_isEnd_ofCall (hcalls event' hevent')
      dsimp only
      split
      · next error _ =>
        have hends := endsOnce_body lib errorText (some (.raised error)) hbefore
        rw [if_neg (by simp), List.append_nil] at hends
        exact hends
      · apply endsOnce_body
        intro event hevent
        rcases List.mem_append.1 hevent with hevent | hevent
        · rcases List.mem_append.1 hevent with hevent | hevent
          · exact hbefore event hevent
          · split at hevent
            · cases hevent
            · rw [List.mem_singleton.1 hevent]
              exact not_isEnd_of_kind (by decide) (by decide)
        · obtain ⟨choice, -, hchoice⟩ := Yielded.mem_through hevent
          exact not_isEnd_choiceDelta hchoice

theorem writable_kind {kind key : String} {v : Json} (hkey : key ≠ "kind")
    (h : JsonText.Writable number v) :
    JsonText.Writable number (.obj [("kind", .str kind), (key, v)]) := by
  apply JsonText.Writable.obj
  · simp [hkey.symm]
  · rw [List.forall_mem_cons, List.forall_mem_singleton]
    exact ⟨.str, h⟩

theorem writable_errorJson (errorText : ChatError → String) (error : ChatError) :
    JsonText.Writable number (errorJson errorText error) :=
  writable_kind (by decide) .str

theorem writable_eventJson {event : ChatEvent}
    (h : ∀ output, event = .drill output → JsonText.Writable number (readBack lib output)) :
    JsonText.Writable number (eventJson lib event) := by
  cases event with
  | tool name round =>
    apply JsonText.Writable.obj (by simp)
    rw [List.forall_mem_cons, List.forall_mem_cons, List.forall_mem_singleton]
    exact ⟨.str, .str, .int⟩
  | drill output => exact writable_kind (by decide) (h output rfl)
  | notice text => exact writable_kind (by decide) .str
  | delta text => exact writable_kind (by decide) .str
  | done =>
    apply JsonText.Writable.obj (by simp)
    rw [List.forall_mem_singleton]
    exact .str

theorem chatChunk_eq (hlaw : LawfulJson number lib.json) (event : Json) :
    chatChunk lib event = EventSource.dataFrame (JsonText.write plainStyle event) := by
  have hdata : "data: ".toList = "data".toList ++ [':', ' '] := by decide
  have hend : "\n\n".toList = ['\n', '\n'] := by decide
  unfold chatChunk EventSource.dataFrame EventSource.block
  rw [hdata, hend, hlaw.dumps, List.flatMap_cons, List.flatMap_nil]
  simp only [String.toList_ofList, List.append_assoc, List.cons_append, List.nil_append]

theorem yields_chatChunk (hlaw : LawfulJson number lib.json)
    (h : JsonText.Writable number event) : ∃ ms, EventSource.Yields (chatChunk lib event) ms ∧
      List.Forall₂ (Shows number) ms [event] := by
  have hclear := JsonText.clear_write plainStyle h
  have hline : EventSource.OneLine (JsonText.write plainStyle event) :=
    ⟨fun hmem => absurd (hclear _ hmem).1 (by decide),
      fun hmem => absurd (hclear _ hmem).1 (by decide)⟩
  have hshows : Shows number ⟨"message".toList, JsonText.write plainStyle event, []⟩ event :=
    ⟨rfl, JsonText.readText_write hlaw.ints plainStyle h⟩
  refine ⟨_, ?_, .cons hshows .nil⟩
  rw [chatChunk_eq hlaw]
  exact EventSource.yields_dataFrame hline

theorem reads_body (hlaw : LawfulJson number lib.json) (errorText : ChatError → String)
    {run : Yielded Json ChatError}
    (hwritable : ∀ event ∈ run.items, JsonText.Writable number event) :
    EventSource.Reads (chatChunk lib) (Shows number) (fun event => [event])
      (bodyEvents errorText run) := by
  apply EventSource.reads_of_yields
  intro event hevent
  apply yields_chatChunk hlaw
  rcases List.mem_append.1 hevent with hevent | hevent
  · exact hwritable event hevent
  · obtain ⟨error, -, rfl⟩ := Option.map_eq_some_iff.1 (Option.mem_toList.1 hevent)
    exact writable_errorJson errorText error

/-- The response of a chat tells each event of the conversation once and in order, wherever it is
cut, and it tells last and only then how the conversation ended. -/
theorem chat_delivers (hlaw : LawfulJson number lib.json) (errorText : ChatError → String)
    (configured : Bool) (session : Option ℕ) (maxToolRounds : ℕ)
    (prompt tools : Except PyError Json) (history : List Json)
    (replies : ℕ → Except PyError Reply) (lines : Yielded (List Char) ChatError)
    (w : ChatWorld K) {run : Yielded Json ChatError}
    (hrun : conversation lib configured session maxToolRounds prompt tools history replies lines w =
      run) (hwritable : ∀ event ∈ run.items, JsonText.Writable number event) :
    EventSource.Reads (chatChunk lib) (Shows number) (fun event => [event])
        (bodyEvents errorText run) ∧
      EndsOnce (bodyEvents errorText run) run.error.isSome := by
  subst hrun
  exact ⟨reads_body hlaw errorText hwritable, endsOnce_conversation ..⟩

/-- A line of the upstream response and the text of the answer that it brings. -/
structure AnswerLine where
  payload : List Char
  content : Option String

/-- What a chunk adds to the answer. -/
def chunkDelta (chunk : JsonObject) : Except ChatError (Option Json) :=
  match Upstage.firstChoice (chunk.get "choices") with
  | .error error => .error error
  | .ok none => .ok none
  | .ok (some choice) => choiceDelta choice

/-- The line holds none of the characters at which `aiter_lines` would break it, and it has a JSON
text of a chunk with this content; or it brings none, as it is no JSON text or says `[DONE]`. -/
structure AnswerLine.Sound (number : List Char → Option JsonText.Number)
    (loads : String → Except JsonError Json) (line : AnswerLine) : Prop where
  whole : ∀ c ∈ line.payload, isLineEnd c = false
  brings : (∃ chunk, IsJsonText number line.payload (.obj chunk) ∧
      chunkDelta chunk = .ok (line.content.map fun text => deltaJson (.str text))) ∨
    line.content = none ∧ (loads (String.ofList (stripChars line.payload)) = .error .decode ∨
      stripChars line.payload = "[DONE]".toList)

/-- The response of the model's server. -/
def upstreamText (answer : List AnswerLine) : List Char :=
  answer.flatMap fun line => "data: ".toList ++ line.payload ++ "\n\n".toList

/-- The texts that the answer consists of. -/
def answerTexts (answer : List AnswerLine) : List String := answer.filterMap (·.content)

variable {loads : String → Except JsonError Json} {line : AnswerLine} {answer : List AnswerLine}

theorem stripChars_space {c : Char} (hc : pyIsSpace c = true) (text : List Char) :
    stripChars (c :: text) = stripChars text := by
  rw [stripChars, List.dropWhile_cons_of_pos hc, ← stripChars]

theorem whole_of_all {text : List Char} (h : (text.all fun c => !isLineEnd c) = true) :
    ∀ c ∈ text, isLineEnd c = false := by
  intro c hc
  simpa using List.all_eq_true.1 h c hc

theorem pySplitLines_line {text : List Char} (h : ∀ c ∈ text, isLineEnd c = false)
    (rest : List Char) :
    pySplitLines (text ++ ('\n' :: '\n' :: rest)) = text :: [] :: pySplitLines rest := by
  rw [pySplitLines, splitLines_append h, List.nil_append, splitLines_cons (by decide),
    if_pos (by decide), splitLines_cons (by decide), if_pos (by decide), ← pySplitLines]

theorem lineChoice_data (loads : String → Except JsonError Json) (payload : List Char) :
    Upstage.lineChoice loads ("data: ".toList ++ payload) =
      if stripChars payload = [] ∨ stripChars payload = "[DONE]".toList then .ok none
      else match loads (String.ofList (stripChars payload)) with
      | .error .decode => .ok none
      | .error (.other error) => .error (.raised error)
      | .ok (.obj chunk) => Upstage.firstChoice (JsonObject.get chunk "choices")
      | .ok _ => .error .attributeError := by
  have hdata : "data: ".toList = "data:".toList ++ [' '] := by decide
  have hstart : "data:".toList.isPrefixOf ("data: ".toList ++ payload) = true := by
    rw [hdata, List.append_assoc, List.isPrefixOf_iff_prefix]
    exact List.prefix_append _ _
  have hdrop : ("data: ".toList ++ payload).drop 5 = ' ' :: payload := rfl
  rw [Upstage.lineChoice, if_pos hstart, hdrop, stripChars_space (by decide)]

theorem lineChoice_sound (hloads : ReadsJson number lib.json)
    (h : line.Sound number lib.json.loads) : ∃ choice,
      Upstage.lineChoice lib.json.loads ("data: ".toList ++ line.payload) = .ok choice ∧
        ∀ error, Yielded.through choiceDelta choice.toList error =
          ⟨(line.content.map fun text => deltaJson (.str text)).toList, error⟩ := by
  rw [lineChoice_data]
  rcases h.brings with ⟨chunk, hjson, hdelta⟩ | ⟨hnone, hbroken⟩
  · generalize line.payload = payload at hjson
    cases hjson with
    | @element before text _ after hbefore hobject hafter =>
      obtain ⟨body, hbody⟩ := hobject.braces
      have hloaded : lib.json.loads (String.ofList text) = .ok (.obj chunk) :=
        hloads text (.obj chunk) hobject.isJsonText
      rw [stripChars_object hobject hbefore.spaces hafter.spaces, if_neg (by simp [hbody]), hloaded]
      dsimp only
      rw [chunkDelta] at hdelta
      cases hfirst : Upstage.firstChoice (JsonObject.get chunk "choices") with
      | error error =>
        rw [hfirst] at hdelta
        cases hdelta
      | ok choice =>
        rw [hfirst] at hdelta
        refine ⟨choice, rfl, fun error => ?_⟩
        cases choice with
        | none =>
          have hcontent : line.content.map (fun text => deltaJson (.str text)) = none :=
            (Except.ok.inj hdelta).symm
          rw [hcontent]
          rfl
        | some choice =>
          have hchoice : choiceDelta choice =
              .ok (line.content.map fun text => deltaJson (.str text)) := hdelta
          rw [Option.toList_some, Yielded.through, hchoice]
          cases line.content <;> rfl
  · refine ⟨none, ?_, fun error => by rw [hnone]; rfl⟩
    split
    · rfl
    · next hdone =>
      rw [hbroken.resolve_right fun heq => hdone (.inr heq)]

/-- The answer that the service passes on has the contents of the lines, in their order, whatever
breaks the response off. -/
theorem stream_sound (hloads : ReadsJson number lib.json)
    (h : ∀ line ∈ answer, line.Sound number lib.json.loads) (error : Option ChatError) :
    ∃ choices,
      Upstage.stream lib.json.loads true ⟨pySplitLines (upstreamText answer), error⟩ =
        ⟨choices, error⟩ ∧
      Yielded.through choiceDelta choices error =
        ⟨(answerTexts answer).map fun text => deltaJson (.str text), error⟩ := by
  rw [Upstage.stream, if_pos rfl]
  induction answer with
  | nil => exact ⟨[], rfl, rfl⟩
  | cons line answer ih =>
    obtain ⟨hline, hanswer⟩ := List.forall_mem_cons.1 h
    obtain ⟨choices, hchoices, hdeltas⟩ := ih hanswer
    obtain ⟨choice, hchoice, hdelta⟩ := lineChoice_sound hloads hline
    have hwhole : ∀ c ∈ "data: ".toList ++ line.payload, isLineEnd c = false :=
      List.forall_mem_append.2 ⟨whole_of_all (by decide), hline.whole⟩
    have hsplit : pySplitLines (upstreamText (line :: answer)) =
        ("data: ".toList ++ line.payload) :: [] :: pySplitLines (upstreamText answer) := by
      rw [← pySplitLines_line hwhole, upstreamText, List.flatMap_cons, ← upstreamText,
        List.append_assoc]
      rfl
    refine ⟨choice.toList ++ choices, ?_, ?_⟩
    · rw [hsplit, Yielded.through_cons hchoice]
      have hempty : Upstage.lineChoice lib.json.loads [] = .ok none := rfl
      dsimp only at hchoices
      rw [Yielded.through_cons hempty, hchoices]
      rfl
    · rw [Yielded.through_append (hdelta none), hdeltas]
      cases hcontent : line.content <;> simp [answerTexts, hcontent]

/-- With a key, and an answer whose lines are sound, the service sends what the turn emits. -/
theorem conversation_eq_converse (hloads : ReadsJson number lib.json)
    (h : ∀ line ∈ answer, line.Sound number lib.json.loads)
    (hne : ∀ text ∈ answerTexts answer, text ≠ "") (session : Option ℕ) (maxToolRounds : ℕ)
    (prompt tools : Except PyError Json) (history : List Json)
    (replies : ℕ → Except PyError Reply) (w : ChatWorld K) :
    let turn := converse lib session maxToolRounds prompt tools history replies
      (.ok (answerTexts answer)) w
    conversation lib true session maxToolRounds prompt tools history replies
      ⟨pySplitLines (upstreamText answer), none⟩ w =
        ⟨turn.emitted.map (eventJson lib), turn.failed.map .raised⟩ := by
  obtain ⟨choices, hchoices, hdeltas⟩ := stream_sound hloads h none
  unfold conversation converse
  cases prompt with
  | error error => rfl
  | ok prompt =>
    cases tools with
    | error error => rfl
    | ok tools =>
      dsimp only
      rw [if_neg (by simp)]
      generalize takeRounds lib session (offeredTools session prompt tools) replies 0 maxToolRounds
        { world := w, messages := systemMessages session prompt ++ history } = rounds
      obtain ⟨turn, ended⟩ := rounds
      dsimp only
      cases hfailed : turn.failed with
      | some error => simp [hfailed]
      | none =>
        have hanswer : ∀ turn : Turn K, streamAnswer (.ok (answerTexts answer)) turn =
            { turn with
              emitted := turn.emitted ++ (answerTexts answer).map ChatEvent.delta ++ [.done] } := by
          intro turn
          rw [streamAnswer, List.filter_eq_self.2 fun text htext => decide_eq_true (hne text htext)]
        rw [hchoices]
        dsimp only
        rw [hdeltas, hanswer]
        cases ended <;>
          simp [hfailed, limitNotice, eventJson, deltaJson, Function.comp_def]

/-- An answer of the model reaches the browser line by line: it reads what the turn emits, and then
the exception that ended the turn, if any; a broken line costs only itself. -/
theorem answer_reaches_browser (hlaw : LawfulJson number lib.json)
    (h : ∀ line ∈ answer, line.Sound number lib.json.loads)
    (hne : ∀ text ∈ answerTexts answer, text ≠ "") (errorText : ChatError → String)
    (session : Option ℕ) (maxToolRounds : ℕ) (prompt tools : Except PyError Json)
    (history : List Json) (replies : ℕ → Except PyError Reply) (w : ChatWorld K) {turn : Turn K}
    (hturn : converse lib session maxToolRounds prompt tools history replies
      (.ok (answerTexts answer)) w = turn)
    (hdrills : ∀ output, .drill output ∈ turn.emitted →
      JsonText.Writable number (readBack lib output)) :
    List.Forall₂ (Shows number)
      (EventSource.messages ((bodyEvents errorText (conversation lib true session maxToolRounds
        prompt tools history replies ⟨pySplitLines (upstreamText answer), none⟩ w)).map
          (chatChunk lib)).flatten)
      (turn.emitted.map (eventJson lib) ++
        (turn.failed.map fun error => errorJson errorText (.raised error)).toList) := by
  subst hturn
  have hconverse := conversation_eq_converse hlaw.loads h hne session maxToolRounds prompt tools
    history replies w
  dsimp only at hconverse
  generalize converse lib session maxToolRounds prompt tools history replies
    (.ok (answerTexts answer)) w = turn at hdrills hconverse ⊢
  have hwritable : ∀ event ∈ turn.emitted.map (eventJson lib), JsonText.Writable number event := by
    intro event hevent
    obtain ⟨emitted, hemitted, rfl⟩ := List.mem_map.1 hevent
    exact writable_eventJson fun output houtput => hdrills output (houtput ▸ hemitted)
  have hreads : EventSource.Reads (chatChunk lib) (Shows number) (fun event => [event])
      (bodyEvents errorText ⟨turn.emitted.map (eventJson lib), turn.failed.map .raised⟩) :=
    reads_body hlaw errorText hwritable
  have hwhole := hreads.whole
  rw [List.flatMap_singleton'] at hwhole
  rw [hconverse]
  simpa [bodyEvents, Option.map_map, Function.comp_def] using hwhole

/-- Python's library as far as the numbers are integers. -/
def integerLib : ChatLib where
  json := {
    loads := readerLoads JsonText.integerWord
    dumps := fun v => String.ofList (JsonText.write plainStyle v)
    repr := fun _ => "" }
  errorText := fun _ => ""
  hooks := []
  hooks_ok := noHooks_ok

theorem lawful_integerLib : LawfulJson JsonText.integerWord integerLib.json where
  loads := readsJson_reader rfl
  dumps _ := rfl
  ints := JsonText.readsInts_integerWord

/-- A chunk with a word of the answer. -/
def wordChunk (word : String) : JsonObject :=
  [("choices", .arr [.obj [("delta", .obj [("content", .str word)])]])]

theorem writable_wordChunk (word : String) :
    JsonText.Writable JsonText.integerWord (.obj (wordChunk word)) := by
  have hone : ∀ {key : String} {v : Json}, JsonText.Writable JsonText.integerWord v →
      JsonText.Writable JsonText.integerWord (.obj [(key, v)]) := by
    intro key v h
    apply JsonText.Writable.obj (by simp)
    rw [List.forall_mem_singleton]
    exact h
  have hchoice : JsonText.Writable JsonText.integerWord
      (.obj [("delta", .obj [("content", .str word)])]) := hone (hone .str)
  exact hone (.arr (List.forall_mem_singleton.2 hchoice))

def wordLine (word : String) : AnswerLine :=
  ⟨JsonText.write plainStyle (.obj (wordChunk word)), some word⟩

theorem wordLine_sound {word : String}
    (hwhole : ((wordLine word).payload.all fun c => !isLineEnd c) = true)
    (hcontent : (Json.str word).truthy = true) :
    (wordLine word).Sound JsonText.integerWord integerLib.json.loads := by
  have hjson := JsonText.derives_write JsonText.readsInts_integerWord plainStyle
    (writable_wordChunk word)
  refine ⟨whole_of_all hwhole, .inl ⟨_, hjson.isJsonText, ?_⟩⟩
  show Except.ok (if (Json.str word).truthy then some (deltaJson (.str word)) else none) = _
  rw [if_pos hcontent]
  rfl

/-- A word, a broken chunk, the mark of the end, and a word after it. -/
def wordAnswer : List AnswerLine :=
  [wordLine "대피", ⟨['['], none⟩, ⟨"[DONE]".toList, none⟩, wordLine "하라"]

def noCalls : Reply := { message := .null, content := .null, calls := [] }

theorem wordAnswer_reaches_browser :
    List.Forall₂ (Shows JsonText.integerWord)
      (EventSource.messages ((bodyEvents (fun _ => "") (conversation integerLib true none 1
        (.ok (.str "prompt")) (.ok .null) [] (fun _ => .ok noCalls)
        ⟨pySplitLines (upstreamText wordAnswer), none⟩ ({ db := {} } : ChatWorld ℚ))).map
          (chatChunk integerLib)).flatten)
      [eventJson integerLib (.delta "대피"), eventJson integerLib (.delta "하라"),
        eventJson integerLib .done] := by
  have hsound : ∀ line ∈ wordAnswer, line.Sound JsonText.integerWord integerLib.json.loads := by
    rw [wordAnswer, List.forall_mem_cons, List.forall_mem_cons, List.forall_mem_cons,
      List.forall_mem_singleton]
    exact ⟨wordLine_sound (by decide) rfl, ⟨whole_of_all (by decide), .inr ⟨rfl, .inl rfl⟩⟩,
      ⟨whole_of_all (by decide), .inr ⟨rfl, .inr (by decide)⟩⟩, wordLine_sound (by decide) rfl⟩
  refine answer_reaches_browser lawful_integerLib hsound (by decide) (fun _ => "") none 1
    (.ok (.str "prompt")) (.ok .null) [] (fun _ => .ok noCalls) { db := {} } rfl ?_
  intro output houtput
  have hemitted : ChatEvent.drill output ∈ [.delta "대피", .delta "하라", .done] := houtput
  simp at hemitted

/-- The model looks something up. -/
def lookup : Reply :=
  { message := .null, content := .null, calls := [{ id := "1", name := "tsunami" }] }

/-- A word of the answer, and a chunk of another shape. -/
def brokenAnswer : List (List Char) :=
  pySplitLines (upstreamText [wordLine "대피"]) ++ ["data: 1".toList]

theorem lineChoice_one :
    Upstage.lineChoice integerLib.json.loads "data: 1".toList = .error .attributeError := by
  have hone : JsonText.Writable JsonText.integerWord (.int 1) := .int
  have hloads : integerLib.json.loads "1" = .ok (.int 1) :=
    lawful_integerLib.loads (JsonText.write plainStyle (.int 1)) (.int 1)
      (JsonText.derives_write JsonText.readsInts_integerWord plainStyle hone).isJsonText
  have hstrip : stripChars "1".toList = "1".toList := by decide
  rw [show "data: 1".toList = "data: ".toList ++ "1".toList by decide, lineChoice_data, hstrip,
    if_neg (by decide), String.ofList_toList, hloads]

theorem stream_brokenAnswer : ∃ choices,
    Upstage.stream integerLib.json.loads true ⟨brokenAnswer, none⟩ =
      ⟨choices, some .attributeError⟩ ∧
    Yielded.through choiceDelta choices (some .attributeError) =
      ⟨[deltaJson (.str "대피")], some .attributeError⟩ := by
  have hsound : ∀ line ∈ [wordLine "대피"],
      line.Sound JsonText.integerWord integerLib.json.loads :=
    List.forall_mem_singleton.2 (wordLine_sound (by decide) rfl)
  obtain ⟨choices, hchoices, hdeltas⟩ := stream_sound lawful_integerLib.loads hsound none
  refine ⟨choices, ?_, ?_⟩
  · rw [Upstage.stream, if_pos rfl] at hchoices ⊢
    dsimp only at hchoices ⊢
    rw [brokenAnswer, Yielded.through_append hchoices, Yielded.through, lineChoice_one,
      List.append_nil]
  · have happend := Yielded.through_append hdeltas [] (some .attributeError)
    rw [List.append_nil] at happend
    exact happend

theorem conversation_brokenAnswer :
    conversation integerLib true none 1 (.ok (.str "prompt")) (.ok .null) []
      (fun _ => .ok lookup) ⟨brokenAnswer, none⟩ ({ db := {} } : ChatWorld ℚ) =
      ⟨[eventJson integerLib (.tool "tsunami" 1), eventJson integerLib limitNotice,
        eventJson integerLib (.delta "대피")], some .attributeError⟩ := by
  obtain ⟨choices, hanswer, hdeltas⟩ := stream_brokenAnswer
  unfold conversation
  dsimp only
  rw [if_neg (by simp)]
  generalize hrounds : takeRounds integerLib none _ _ 0 1 _ = rounds
  have hturn : rounds.1.emitted = [.tool "tsunami" 1] ∧ rounds.1.failed = none ∧
      rounds.2 = false := by
    rw [← hrounds]
    exact ⟨rfl, rfl, rfl⟩
  obtain ⟨turn, ended⟩ := rounds
  obtain ⟨hemitted, hfailed, rfl⟩ := hturn
  dsimp only at hemitted hfailed ⊢
  rw [hfailed, hemitted, hanswer, hdeltas]
  rfl

/-- A tool is called, the rounds are over, a word of the answer comes, and a chunk of another shape
ends the conversation: all of that is told, and the error last. -/
theorem chat_delivers_broken_answer : ∃ run,
    conversation integerLib true none 1 (.ok (.str "prompt")) (.ok .null) []
      (fun _ => .ok lookup) ⟨brokenAnswer, none⟩ ({ db := {} } : ChatWorld ℚ) = run ∧
    run.items = [eventJson integerLib (.tool "tsunami" 1), eventJson integerLib limitNotice,
      eventJson integerLib (.delta "대피")] ∧
    EventSource.Reads (chatChunk integerLib) (Shows JsonText.integerWord) (fun event => [event])
      (bodyEvents (fun _ => "") run) ∧
    EndsOnce (bodyEvents (fun _ => "") run) true := by
  have hwritable : ∀ event ∈ [eventJson integerLib (.tool "tsunami" 1),
      eventJson integerLib limitNotice, eventJson integerLib (.delta "대피")],
      JsonText.Writable JsonText.integerWord event := by
    rw [List.forall_mem_cons, List.forall_mem_cons, List.forall_mem_singleton]
    exact ⟨writable_eventJson nofun, writable_eventJson nofun, writable_eventJson nofun⟩
  obtain ⟨hreads, hends⟩ := chat_delivers lawful_integerLib (fun _ => "") true none 1
    (.ok (.str "prompt")) (.ok .null) [] (fun _ => .ok lookup) ⟨brokenAnswer, none⟩ { db := {} }
    conversation_brokenAnswer hwritable
  exact ⟨_, conversation_brokenAnswer, rfl, hreads, hends⟩

end Assistant

end Salgil
