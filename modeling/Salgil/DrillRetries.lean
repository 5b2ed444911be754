import Salgil.DrillSafety

namespace Salgil
set_option autoImplicit true

namespace Assistant

/-- The call asks for a drill, and its arguments pass all checks before the database. -/
def asksDrill (lib : ChatLib) (call : ToolCall) : Bool :=
  match readArguments lib call.arguments with
  | .error _ => false
  | .ok value =>
    if call.name = drillToolName then
      match Drills.request "assistant" (drillArguments lib (paramsOf value)) with
      | .ok (.ok _) => true
      | _ => false
    else false

end Assistant

section
variable {K : Type} {lib : ChatLib} {s : ℕ} {call : ToolCall} {w : ChatWorld K}

/-- The call does what it would do in a session that has just been opened. -/
structure Alone (lib : ChatLib) (s : ℕ) (call : ToolCall) (w : ChatWorld K) : Prop where
  result : (Assistant.runTool lib (some s) call w).result =
    (Assistant.runTool lib (some s) call (.opened (some s) w.db w.announcer)).result
  db : (Assistant.runTool lib (some s) call w).world.db =
    (Assistant.runTool lib (some s) call (.opened (some s) w.db w.announcer)).world.db
  sent : (Assistant.runTool lib (some s) call w).world.announcer.sent =
    (Assistant.runTool lib (some s) call (.opened (some s) w.db w.announcer)).world.announcer.sent

/-- No call that passes the checks comes while the session refuses all work, which it does from a
failed flush or commit on. -/
def Usable (lib : ChatLib) (s : ℕ) : ChatWorld K → List (ChatStep K) → Prop
  | _, [] => True
  | w, step :: steps =>
    (∀ call, step = .call call → Assistant.asksDrill lib call = true → w.refuses = false) ∧
      Usable lib s (chatStep lib (some s) w step) steps

/-- A session that is idle and refuses nothing is as good as opened. -/
theorem ChatWorld.Idle.eq_opened (hidle : w.Idle (some s)) (hready : w.refuses = false) :
    w = .opened (some s) w.db w.announcer := by
  obtain ⟨db, written, refuses, announcer⟩ := w
  rcases hidle with hrefuses | ⟨hwritten, hpending⟩
  · rw [hrefuses] at hready
    cases hready
  · have hsame : announcer.setPending s [] = announcer := by
      rw [← hpending s rfl, Announcer.setPending, Function.update_eq_self]
    cases hwritten
    cases hready
    rw [ChatWorld.opened]
    dsimp only
    rw [hsame]

theorem runTool_of_not_asksDrill (hasks : Assistant.asksDrill lib call = false) :
    ∃ result executed, ∀ w : ChatWorld K,
      Assistant.runTool lib (some s) call w = ⟨result, executed, w⟩ := by
  unfold Assistant.asksDrill at hasks
  unfold Assistant.runTool
  cases hread : Assistant.readArguments lib call.arguments with
  | error error => cases error <;> exact ⟨_, _, fun _ => rfl⟩
  | ok value =>
    rw [hread] at hasks
    dsimp only at hasks ⊢
    by_cases hname : call.name = drillToolName
    · simp only [if_pos hname] at hasks ⊢
      unfold Assistant.startDrill
      cases hrequest : Drills.request "assistant"
          (Assistant.drillArguments lib (Assistant.paramsOf value)) with
      | error error => exact ⟨_, _, fun _ => rfl⟩
      | ok request =>
        cases request with
        | error reply => exact ⟨_, _, fun _ => rfl⟩
        | ok request =>
          rw [hrequest] at hasks
          cases hasks
    · simp only [if_neg hname]
      cases call.answer with
      | error error => exact ⟨_, _, fun _ => rfl⟩
      | ok result => exact ⟨_, _, fun _ => rfl⟩

theorem runTool_of_refuses (hrefuses : w.refuses = true) :
    (Assistant.runTool lib (some s) call w).world = w := by
  unfold Assistant.runTool
  split
  · rfl
  · rfl
  · dsimp only
    split
    · unfold Assistant.startDrill
      cases Drills.request "assistant" _ with
      | error error => rfl
      | ok request =>
        cases request with
        | error reply => rfl
        | ok request => simp [hrefuses]
    · split
      · rfl
      · rfl

theorem Alone.of_idle (hidle : w.Idle (some s))
    (hready : Assistant.asksDrill lib call = true → w.refuses = false) :
    Alone lib s call w := by
  by_cases hasks : Assistant.asksDrill lib call = true
  · have heq := hidle.eq_opened (hready hasks)
    constructor
    · rw [← heq]
    · rw [← heq]
    · rw [← heq]
  · obtain ⟨result, executed, hrun⟩ :=
      runTool_of_not_asksDrill (K := K) (s := s) (Bool.eq_false_iff.2 hasks)
    constructor
    · rw [hrun, hrun]
    · rw [hrun, hrun]
      rfl
    · rw [hrun, hrun]
      rfl

/-- What a failed call has flushed no later call commits: each call commits and sends what it
would in a session that has just been opened, or nothing. -/
theorem commits_alone_or_nothing (lib : ChatLib) (s : ℕ) (db : Database K)
    (announcer : Announcer Event) (steps : List (ChatStep K)) (call : ToolCall) :
    Alone lib s call (runChat lib (some s) (.opened (some s) db announcer) steps) ∨
      chatStep lib (some s) (runChat lib (some s) (.opened (some s) db announcer) steps)
        (.call call) = runChat lib (some s) (.opened (some s) db announcer) steps := by
  have hidle : (runChat lib (some s) (.opened (some s) db announcer) steps).Idle (some s) :=
    (ChatWorld.opened_idle (some s) db announcer).run steps
  generalize runChat lib (some s) (.opened (some s) db announcer) steps = w at hidle ⊢
  cases hrefuses : w.refuses with
  | false => exact .inl (.of_idle hidle fun _ => hrefuses)
  | true => exact .inr (runTool_of_refuses hrefuses)

theorem Usable.alone {steps before after : List (ChatStep K)} (h : Usable lib s w steps)
    (hidle : w.Idle (some s)) (heq : steps = before ++ .call call :: after) :
    Alone lib s call (runChat lib (some s) w before) := by
  induction before generalizing w steps with
  | nil =>
    rw [heq] at h
    exact .of_idle hidle (h.1 call rfl)
  | cons step before ih =>
    rw [heq] at h
    exact ih h.2 (hidle.step step) rfl

/-- A drill that could be opened is opened if and only if no failed flush or commit is left. -/
theorem alone_iff (hidle : w.Idle (some s))
    (hopens : (Assistant.runTool lib (some s) call
      (.opened (some s) w.db w.announcer)).world.db ≠ w.db) :
    Alone lib s call w ↔ w.refuses = false := by
  constructor
  · intro h
    rw [← Bool.not_eq_true]
    intro hrefuses
    have hdb := h.db
    rw [runTool_of_refuses hrefuses] at hdb
    exact hopens hdb.symm
  · exact fun hready => .of_idle hidle fun _ => hready

end

/-- Each call of a run does what it would do in a session that has just been opened. -/
theorem drill_calls_alone (lib : ChatLib) (s : ℕ) (db : Database K) (announcer : Announcer Event)
    {steps : List (ChatStep K)} (husable : Usable lib s (.opened (some s) db announcer) steps)
    {before after : List (ChatStep K)} {call : ToolCall}
    (heq : steps = before ++ .call call :: after) :
    Alone lib s call (runChat lib (some s) (.opened (some s) db announcer) before) :=
  husable.alone (ChatWorld.opened_idle (some s) db announcer) heq

/-- Reads no arguments, and those of a drill. -/
def drillLib : ChatLib where
  json := {
    loads := fun text => if text = "\x7b\x7d" then .ok (.obj [])
      else .ok (.obj [("hazard", .str "wildfire"), ("region_name", .str "봉화군")])
    dumps := fun _ => ""
    repr := fun _ => "" }
  errorText := fun _ => "This Session's transaction has been rolled back"
  hooks := []
  hooks_ok := noHooks_ok

def emptyCall : ToolCall where
  id := "c1"
  name := drillToolName
  arguments := "\x7b\x7d"

def wildfireCall (fault : Option Stage) : ToolCall where
  id := "c2"
  name := drillToolName
  arguments := "\x7b\"hazard\": \"wildfire\", \"region_name\": \"봉화군\"\x7d"
  fault := fault

/-- After a call without a hazard the next one opens its drill. -/
theorem drill_calls_alone_retry :
    Alone drillLib 0 (wildfireCall none)
      (runChat drillLib (some 0) (.opened (some 0) ({} : Database ℚ) {}) [.call emptyCall]) := by
  have husable : Usable drillLib 0 (.opened (some 0) ({} : Database ℚ) {})
      [.call emptyCall, .call (wildfireCall none)] :=
    ⟨fun _ _ _ => rfl, fun _ _ _ => by decide +kernel, trivial⟩
  exact drill_calls_alone drillLib 0 {} {} husable rfl

/-- After a failed flush the same call is turned down, where a new session would open the drill. -/
theorem retry_after_failed_flush :
    ¬ Alone drillLib 0 (wildfireCall none) (runChat drillLib (some 0)
      (.opened (some 0) ({} : Database ℚ) {}) [.call (wildfireCall (some .flush))]) := by
  have hopened := ChatWorld.opened_idle (some 0) ({} : Database ℚ) {}
  rw [alone_iff (hopened.run [.call (wildfireCall (some .flush))])]
  · decide +kernel
  · intro h
    have hlength := congrArg (·.incidents.length) h
    revert hlength
    decide +kernel

end Salgil
