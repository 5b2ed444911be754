import Salgil.KeyedList
import Salgil.PushAccounting
import Mathlib.Data.List.Induction
import Mathlib.Logic.Function.Basic

namespace Salgil
set_option autoImplicit true

/-- The subscription of an endpoint. -/
def PushTable.at? (table : PushTable) (endpoint : String) : Option PushSubscription :=
  KeyedList.at? (·.endpoint) table.rows endpoint

namespace Push

/-- A device subscribes, or subscribes again, with other keys. -/
def save (table : PushTable) (row : PushSubscription) : PushTable where
  rows := KeyedList.put (·.endpoint) table.rows row
  unique := KeyedList.nodup_put table.unique row

def forget (table : PushTable) (endpoint : String) : PushTable where
  rows := table.rows.filter (·.endpoint ≠ endpoint)
  unique := table.unique.sublist (List.filter_sublist.map _)

end Push

/-- A broadcast since its query: the rows that it read, and how the calls have ended that were made
so far. -/
structure Broadcast where
  rows : List PushSubscription
  text : String
  answers : List (PushSubscription × PushOutcome) := []
  isEnded : Bool := false

namespace Broadcast

/-- The endpoints that are gone. -/
def dead (b : Broadcast) : List String :=
  (b.answers.filter fun answer => (Push.sendOne answer.2).isSome).map (·.1.endpoint)

def answered (b : Broadcast) (row : PushSubscription) (outcome : PushOutcome) : Broadcast :=
  { b with answers := b.answers ++ [(row, outcome)] }

/-- The number that the broadcast returns. -/
def delivered (b : Broadcast) : ℕ := b.rows.length - b.dead.length

end Broadcast

/-- The subscriptions, and the broadcasts, each of which has a number of its own. -/
structure PushService where
  table : PushTable
  broadcasts : ℕ → Option Broadcast

def PushService.start : PushService where
  table := ⟨[], List.nodup_nil⟩
  broadcasts _ := none

def PushService.setBroadcast (s : PushService) (n : ℕ) (b : Broadcast) : PushService :=
  { s with broadcasts := Function.update s.broadcasts n (some b) }

inductive PushAction where
  | save (row : PushSubscription)
  | forget (endpoint : String)
  | read (n : ℕ) (regionCode : Option String) (text : String)
  | answer (n : ℕ) (row : PushSubscription) (outcome : PushOutcome)
  | finish (n : ℕ) (dead : List String)
  deriving DecidableEq

/-- A request of a device, or a part of a broadcast: its query, the end of one of its calls, which
run in threads, or its end, where the dead subscriptions are deleted. A broadcast without keys or
without rows ends at once and changes nothing. -/
inductive PushStep (settings : PushSettings) (s : PushService) :
    PushAction → PushService → Prop where
  | save : PushStep settings s (.save row) { s with table := Push.save s.table row }
  | forget : PushStep settings s (.forget endpoint) { s with table := Push.forget s.table endpoint }
  | read (hkeys : Push.configured settings = true) (hnew : s.broadcasts n = none)
    (hrows : Push.selected s.table regionCode ≠ []) :
    PushStep settings s (.read n regionCode text)
      (s.setBroadcast n { rows := Push.selected s.table regionCode, text := text })
  | answer (hb : s.broadcasts n = some b) (hrow : row ∈ b.rows)
    (hopen : row ∉ b.answers.map (·.1)) :
    PushStep settings s (.answer n row outcome) (s.setBroadcast n (b.answered row outcome))
  | finish (hb : s.broadcasts n = some b) (hopen : b.isEnded = false)
    (hall : ∀ row ∈ b.rows, row ∈ b.answers.map (·.1)) :
    PushStep settings s (.finish n b.dead)
      { s.setBroadcast n { b with isEnded := true } with
        table := if b.dead.isEmpty then s.table else Push.prune s.table b.dead }

inductive PushRun (settings : PushSettings) : List PushAction → PushService → Prop where
  | start : PushRun settings [] .start
  | step : PushRun settings actions s → PushStep settings s a s' →
      PushRun settings (actions ++ [a]) s'

/-- What an action says of an endpoint. -/
def PushAction.standing (endpoint : String) (row : Option PushSubscription) :
    PushAction → Option PushSubscription
  | .save row' => if endpoint = row'.endpoint then some row' else row
  | .forget endpoint' => if endpoint = endpoint' then none else row
  | .finish _ dead => if endpoint ∈ dead then none else row
  | .read _ _ _ | .answer _ _ _ => row

/-- The subscription that stands after the actions: what the device said last, unless a broadcast
has found it gone since. -/
def standing (endpoint : String) (actions : List PushAction) : Option PushSubscription :=
  actions.foldl (PushAction.standing endpoint) none

/-- How a call of the broadcast ended. -/
def PushAction.answerOf (n : ℕ) : PushAction → Option (PushSubscription × PushOutcome)
  | .answer m row outcome => if m = n then some (row, outcome) else none
  | _ => none

/-- The calls of the broadcast. -/
def answersOf (n : ℕ) (actions : List PushAction) : List (PushSubscription × PushOutcome) :=
  actions.filterMap (·.answerOf n)

/-- Whom a broadcast for the region is for; an empty region code counts as none. -/
def Addressed (regionCode : Option String) (row : PushSubscription) : Prop :=
  regionCode = none ∨ regionCode = some "" ∨ row.regionCode = none ∨ row.regionCode = regionCode

/-- What a broadcast has done that began after the given actions: it calls each device once whose
subscription stood then and which it is for, and those are dead that were answered so. -/
structure BroadcastTold (before : List PushAction) (regionCode : Option String)
    (answers : List (PushSubscription × PushOutcome)) (dead : List String) : Prop where
  once : (answers.map (·.1)).Nodup
  all : ∀ row, row ∈ answers.map (·.1) ↔
    standing row.endpoint before = some row ∧ Addressed regionCode row
  dead : ∀ endpoint, endpoint ∈ dead ↔
    ∃ answer ∈ answers, answer.1.endpoint = endpoint ∧ Push.Gone answer.2

/-- What holds after any actions: the table has what stands, a broadcast that has ended has told
everyone it was for, and a subscription is lost only if its device drops it or its endpoint is
answered to be gone. -/
structure PushHistory (actions : List PushAction) (s : PushService) : Prop where
  rows : ∀ endpoint, s.table.at? endpoint = standing endpoint actions
  told : ∀ n dead, .finish n dead ∈ actions → ∃ before regionCode text after,
    actions = before ++ .read n regionCode text :: after ∧
      BroadcastTold before regionCode (answersOf n actions) dead
  kept : ∀ before row after, actions = before ++ .save row :: after →
    (∀ row', .save row' ∈ after → row'.endpoint ≠ row.endpoint) →
    .forget row.endpoint ∉ after →
    (∀ n dead, .finish n dead ∈ after → ∀ answer ∈ answersOf n actions,
      answer.1.endpoint = row.endpoint → ¬ Push.Gone answer.2) →
    s.table.at? row.endpoint = some row

/-- The broadcast has read what stood when it began and what it is for. -/
def Broadcast.Began (n : ℕ) (actions : List PushAction) (b : Broadcast) : Prop :=
  ∃ before regionCode after, actions = before ++ .read n regionCode b.text :: after ∧
    ∀ row, row ∈ b.rows ↔ standing row.endpoint before = some row ∧ Addressed regionCode row

/-- What the rows and the answers of a broadcast come from. -/
structure Broadcast.Of (n : ℕ) (actions : List PushAction) (b : Broadcast) : Prop where
  began : b.Began n actions
  answers : b.answers = answersOf n actions
  once : (b.answers.map (·.1)).Nodup
  own : ∀ row ∈ b.answers.map (·.1), row ∈ b.rows
  ended : b.isEnded = true → ∀ row ∈ b.rows, row ∈ b.answers.map (·.1)

/-- What every step keeps. -/
structure PushService.Kept (actions : List PushAction) (s : PushService) : Prop where
  rows : ∀ endpoint, s.table.at? endpoint = standing endpoint actions
  broadcasts : ∀ n b, s.broadcasts n = some b → b.Of n actions
  unused : ∀ n, s.broadcasts n = none → answersOf n actions = []
  finished : ∀ n dead, .finish n dead ∈ actions →
    ∃ b, s.broadcasts n = some b ∧ b.isEnded = true ∧ dead = b.dead

section
variable {settings : PushSettings} {actions : List PushAction} {s s' : PushService}
variable {a : PushAction} {b : Broadcast} {table : PushTable} {row : PushSubscription}
variable {regionCode : Option String} {endpoint : String} {n : ℕ}

theorem standing_snoc (endpoint : String) (actions : List PushAction) (a : PushAction) :
    standing endpoint (actions ++ [a]) = a.standing endpoint (standing endpoint actions) := by
  rw [standing, List.foldl_append]
  rfl

theorem answersOf_snoc (n : ℕ) (actions : List PushAction) (a : PushAction) :
    answersOf n (actions ++ [a]) = answersOf n actions ++ (a.answerOf n).toList := by
  rw [answersOf, List.filterMap_append]
  cases ha : a.answerOf n <;> simp [answersOf, ha]

theorem mem_rows_iff : row ∈ table.rows ↔ table.at? row.endpoint = some row :=
  ⟨KeyedList.at?_of_mem table.unique, KeyedList.mem_of_at?⟩

theorem mem_selected : row ∈ Push.selected table regionCode ↔
    row ∈ table.rows ∧ Addressed regionCode row := by
  unfold Push.selected Addressed
  cases regionCode with
  | none => simp
  | some code =>
    by_cases hcode : code = ""
    · subst hcode
      simp
      rfl
    · have hfilter : (some code).filter (fun code => decide (code ≠ "")) = some code := by
        simp [Option.filter, hcode]
      rw [hfilter]
      simp [hcode, or_comm]

theorem mem_dead : endpoint ∈ b.dead ↔
    ∃ answer ∈ b.answers, answer.1.endpoint = endpoint ∧ Push.Gone answer.2 := by
  simp only [Broadcast.dead, List.mem_map, List.mem_filter, Push.sendOne_isSome]
  constructor
  · rintro ⟨answer, ⟨hmem, hgone⟩, rfl⟩
    exact ⟨answer, hmem, rfl, hgone⟩
  · rintro ⟨answer, hmem, rfl, hgone⟩
    exact ⟨answer, ⟨hmem, hgone⟩, rfl⟩

theorem at?_save (table : PushTable) (row : PushSubscription) (endpoint : String) :
    (Push.save table row).at? endpoint =
      if endpoint = row.endpoint then some row else table.at? endpoint :=
  KeyedList.at?_put _ _ _ _

theorem at?_forget (table : PushTable) (dropped endpoint : String) :
    (Push.forget table dropped).at? endpoint =
      if endpoint = dropped then none else table.at? endpoint := by
  have hat := KeyedList.at?_filter PushSubscription.endpoint (fun e => decide (e ≠ dropped))
    table.rows endpoint
  simp only [decide_eq_true_eq, ne_eq, ite_not] at hat
  exact hat

theorem rows_pruned (table : PushTable) (dead : List String) :
    (if dead.isEmpty then table else Push.prune table dead).rows =
      table.rows.filter (·.endpoint ∉ dead) := by
  cases dead with
  | nil => simp
  | cons first rest => rfl

theorem at?_pruned (table : PushTable) (dead : List String) (endpoint : String) :
    (if dead.isEmpty then table else Push.prune table dead).at? endpoint =
      if endpoint ∈ dead then none else table.at? endpoint := by
  have hat := KeyedList.at?_filter PushSubscription.endpoint (fun e => decide (e ∉ dead))
    table.rows endpoint
  simp only [decide_eq_true_eq, ite_not] at hat
  rw [PushTable.at?, rows_pruned]
  exact hat

theorem Broadcast.Began.snoc (h : b.Began n actions) (a : PushAction) :
    b.Began n (actions ++ [a]) := by
  obtain ⟨before, regionCode, after, hactions, hrows⟩ := h
  refine ⟨before, regionCode, after ++ [a], ?_, hrows⟩
  rw [hactions, List.append_assoc, List.cons_append]

theorem Broadcast.Of.snoc (h : b.Of n actions) (ha : a.answerOf n = none) :
    b.Of n (actions ++ [a]) where
  began := h.began.snoc a
  answers := by
    rw [answersOf_snoc, ha, h.answers]
    simp
  once := h.once
  own := h.own
  ended := h.ended

theorem PushService.Kept.others (h : s.Kept actions) {other : PushService}
    (hsame : other.broadcasts = s.broadcasts) (ha : ∀ n, a.answerOf n = none)
    (hfinish : ∀ n dead, a ≠ .finish n dead)
    (hrows : ∀ endpoint, other.table.at? endpoint = a.standing endpoint (s.table.at? endpoint)) :
    other.Kept (actions ++ [a]) where
  rows := by
    intro endpoint
    rw [hrows, h.rows, standing_snoc]
  broadcasts := by
    intro n b hb
    rw [hsame] at hb
    exact (h.broadcasts n b hb).snoc (ha n)
  unused := by
    intro n hn
    rw [hsame] at hn
    rw [answersOf_snoc, h.unused n hn, ha n]
    rfl
  finished := by
    intro n dead hmem
    rcases List.mem_append.1 hmem with hmem | hmem
    · rw [hsame]
      exact h.finished n dead hmem
    · exact absurd (List.mem_singleton.1 hmem).symm (hfinish n dead)

theorem setBroadcast_same (s : PushService) (n : ℕ) (b : Broadcast) :
    (s.setBroadcast n b).broadcasts n = some b := Function.update_self ..

theorem ne_of_unused (h : (s.setBroadcast n b).broadcasts m = none) : m ≠ n := by
  rintro rfl
  rw [setBroadcast_same] at h
  cases h

theorem setBroadcast_ne (s : PushService) {n m : ℕ} (b : Broadcast) (h : m ≠ n) :
    (s.setBroadcast n b).broadcasts m = s.broadcasts m := Function.update_of_ne h ..

theorem PushService.Kept.start : PushService.start.Kept [] where
  rows endpoint := rfl
  broadcasts n b hb := by cases hb
  unused n _ := rfl
  finished n dead hmem := by cases hmem

theorem PushService.Kept.read (h : s.Kept actions) (hnew : s.broadcasts n = none) (text : String) :
    (s.setBroadcast n { rows := Push.selected s.table regionCode, text := text }).Kept
      (actions ++ [.read n regionCode text]) where
  rows := by
    intro endpoint
    rw [standing_snoc]
    exact h.rows endpoint
  broadcasts := by
    intro m b hb
    by_cases hm : m = n
    · subst hm
      rw [setBroadcast_same] at hb
      cases hb
      refine ⟨⟨actions, regionCode, [], rfl, fun row => ?_⟩, ?_, List.nodup_nil, ?_, ?_⟩
      · rw [mem_selected, mem_rows_iff, h.rows]
      · rw [answersOf_snoc, h.unused m hnew]
        rfl
      · intro row hrow
        cases hrow
      · intro hended
        cases hended
    · rw [setBroadcast_ne _ _ hm] at hb
      exact (h.broadcasts m b hb).snoc rfl
  unused := by
    intro m hm
    have hne := ne_of_unused hm
    rw [setBroadcast_ne _ _ hne] at hm
    rw [answersOf_snoc, h.unused m hm]
    rfl
  finished := by
    intro m dead hmem
    rw [List.mem_append, List.mem_singleton] at hmem
    obtain ⟨b, hb, hended⟩ := h.finished m dead (hmem.resolve_right (fun heq => by cases heq))
    have hne : m ≠ n := by
      rintro rfl
      rw [hnew] at hb
      cases hb
    rw [setBroadcast_ne _ _ hne]
    exact ⟨b, hb, hended⟩

theorem PushService.Kept.answer (h : s.Kept actions) (hb : s.broadcasts n = some b)
    (hrow : row ∈ b.rows) (hopen : row ∉ b.answers.map (·.1)) (outcome : PushOutcome) :
    (s.setBroadcast n (b.answered row outcome)).Kept (actions ++ [.answer n row outcome]) where
  rows := by
    intro endpoint
    rw [standing_snoc]
    exact h.rows endpoint
  broadcasts := by
    intro m b' hb'
    by_cases hm : m = n
    · subst hm
      rw [setBroadcast_same] at hb'
      cases hb'
      have hof := h.broadcasts m b hb
      have hbegan : (b.answered row outcome).Began m _ := hof.began.snoc (.answer m row outcome)
      have hkeys : (b.answered row outcome).answers.map (·.1) = b.answers.map (·.1) ++ [row] := by
        simp [Broadcast.answered]
      refine ⟨hbegan, ?_, ?_, ?_, ?_⟩
      · simp [Broadcast.answered, answersOf_snoc, hof.answers, PushAction.answerOf]
      · rw [hkeys, List.nodup_append']
        exact ⟨hof.once, List.nodup_singleton _, by simpa using hopen⟩
      · intro row' hrow'
        rw [hkeys, List.mem_append, List.mem_singleton] at hrow'
        rcases hrow' with hrow' | rfl
        · exact hof.own row' hrow'
        · exact hrow
      · intro hended
        exact absurd (hof.ended hended row hrow) hopen
    · rw [setBroadcast_ne _ _ hm] at hb'
      apply (h.broadcasts m b' hb').snoc
      exact if_neg (Ne.symm hm)
  unused := by
    intro m hm
    have hne := ne_of_unused hm
    rw [setBroadcast_ne _ _ hne] at hm
    rw [answersOf_snoc, h.unused m hm, PushAction.answerOf, if_neg (Ne.symm hne)]
    rfl
  finished := by
    intro m dead hmem
    rw [List.mem_append, List.mem_singleton] at hmem
    obtain ⟨b', hb', hended, hdead⟩ :=
      h.finished m dead (hmem.resolve_right fun heq => by cases heq)
    have hne : m ≠ n := by
      rintro rfl
      rw [hb] at hb'
      cases hb'
      exact hopen ((h.broadcasts m b hb).ended hended row hrow)
    rw [setBroadcast_ne _ _ hne]
    exact ⟨b', hb', hended, hdead⟩

theorem PushService.Kept.finish (h : s.Kept actions) (hb : s.broadcasts n = some b)
    (hopen : b.isEnded = false) (hall : ∀ row ∈ b.rows, row ∈ b.answers.map (·.1)) :
    PushService.Kept (actions ++ [.finish n b.dead])
      { s.setBroadcast n { b with isEnded := true } with
        table := if b.dead.isEmpty then s.table else Push.prune s.table b.dead } where
  rows := by
    intro endpoint
    rw [standing_snoc, at?_pruned, h.rows]
    rfl
  broadcasts := by
    intro m b' hb'
    by_cases hm : m = n
    · subst hm
      rw [setBroadcast_same] at hb'
      cases hb'
      have hof : b.Of m (actions ++ [.finish m b.dead]) := (h.broadcasts m b hb).snoc rfl
      exact ⟨hof.began, hof.answers, hof.once, hof.own, fun _ => hall⟩
    · rw [setBroadcast_ne _ _ hm] at hb'
      exact (h.broadcasts m b' hb').snoc rfl
  unused := by
    intro m hm
    have hne := ne_of_unused hm
    rw [setBroadcast_ne _ _ hne] at hm
    rw [answersOf_snoc, h.unused m hm]
    rfl
  finished := by
    intro m dead hmem
    by_cases hm : m = n
    · subst hm
      rw [setBroadcast_same]
      rcases List.mem_append.1 hmem with hmem | hmem
      · obtain ⟨b', hb', hended, -⟩ := h.finished m dead hmem
        rw [hb] at hb'
        cases hb'
        rw [hopen] at hended
        cases hended
      · cases List.mem_singleton.1 hmem
        exact ⟨_, rfl, rfl, rfl⟩
    · rw [setBroadcast_ne _ _ hm]
      rw [List.mem_append, List.mem_singleton] at hmem
      exact h.finished m dead (hmem.resolve_right fun heq => hm (by cases heq; rfl))

theorem PushService.Kept.step (h : s.Kept actions) (hstep : PushStep settings s a s') :
    s'.Kept (actions ++ [a]) := by
  cases hstep with
  | @save row =>
    refine h.others rfl (fun _ => rfl) (fun n dead heq => ?_) (at?_save s.table row)
    cases heq
  | @forget endpoint =>
    refine h.others rfl (fun _ => rfl) (fun n dead heq => ?_) (at?_forget s.table endpoint)
    cases heq
  | read hkeys hnew hrows => exact h.read hnew _
  | answer hb hrow hopen => exact h.answer hb hrow hopen _
  | finish hb hopen hall => exact h.finish hb hopen hall

theorem kept_of_run (h : PushRun settings actions s) : s.Kept actions := by
  induction h with
  | start => exact .start
  | step _ hstep ih => exact ih.step hstep

theorem standing_of_untouched (h : ∀ a ∈ actions, a.standing endpoint (some row) = some row) :
    actions.foldl (PushAction.standing endpoint) (some row) = some row := by
  induction actions with
  | nil => rfl
  | cons a actions ih =>
    obtain ⟨ha, hactions⟩ := List.forall_mem_cons.1 h
    rw [List.foldl_cons, ha]
    exact ih hactions

theorem PushService.Kept.mem_dead (h : s.Kept actions) {dead : List String}
    (hfinish : .finish n dead ∈ actions) : endpoint ∈ dead ↔
      ∃ answer ∈ answersOf n actions, answer.1.endpoint = endpoint ∧ Push.Gone answer.2 := by
  obtain ⟨b, hb, -, rfl⟩ := h.finished n dead hfinish
  rw [← (h.broadcasts n b hb).answers]
  exact Salgil.mem_dead

/-- However subscriptions and broadcasts interleave, the table holds for each endpoint what its
device said last, broadcasts tell everyone they are for, once, and a subscription is lost only if
its device drops it or its endpoint is answered to be gone. -/
theorem push_lifecycle (h : PushRun settings actions s) : PushHistory actions s where
  rows := (kept_of_run h).rows
  told := by
    intro n dead hfinish
    obtain ⟨b, hb, hended, -⟩ := (kept_of_run h).finished n dead hfinish
    have hof := (kept_of_run h).broadcasts n b hb
    obtain ⟨before, regionCode, after, hactions, hrows⟩ := hof.began
    refine ⟨before, regionCode, b.text, after, hactions, hof.answers ▸ hof.once, fun row => ?_,
      fun endpoint => (kept_of_run h).mem_dead hfinish⟩
    rw [← hof.answers, ← hrows]
    exact ⟨hof.own row, hof.ended hended row⟩
  kept := by
    intro before row after hactions hsaves hforgets hgone
    rw [(kept_of_run h).rows, hactions, standing, List.foldl_append, List.foldl_cons,
      PushAction.standing, if_pos rfl]
    apply standing_of_untouched
    intro a ha
    cases a with
    | save row' => exact if_neg (Ne.symm (hsaves row' ha))
    | forget endpoint =>
      apply if_neg
      rintro rfl
      exact hforgets ha
    | finish n dead =>
      apply if_neg
      intro hmem
      have hfinish : .finish n dead ∈ actions := by simp [hactions, ha]
      obtain ⟨answer, hanswer, hsame, hdead⟩ := ((kept_of_run h).mem_dead hfinish).1 hmem
      exact hgone n dead ha answer hanswer hsame hdead
    | read => rfl
    | answer => rfl

theorem run_answers (outcome : PushSubscription → PushOutcome) {rows todo : List PushSubscription}
    {text : String} (hnodup : rows.Nodup) (h : PushRun settings actions s)
    {called : List PushSubscription} (hrows : rows = called ++ todo)
    (hb : s.broadcasts n = some ⟨rows, text, called.map fun row => (row, outcome row), false⟩) :
    ∃ s', PushRun settings (actions ++ todo.map fun row => .answer n row (outcome row)) s' ∧
      s'.table = s.table ∧
      s'.broadcasts n = some ⟨rows, text, rows.map fun row => (row, outcome row), false⟩ := by
  induction todo generalizing called actions s with
  | nil =>
    rw [List.append_nil] at hrows
    subst hrows
    exact ⟨s, by simpa using h, rfl, hb⟩
  | cons row todo ih =>
    have hrow : row ∈ rows := by simp [hrows]
    have hopen : row ∉ (called.map fun row => (row, outcome row)).map (·.1) := by
      rw [List.map_map]
      intro hmem
      have hmem' : row ∈ called := by simpa using hmem
      rw [hrows, List.nodup_append'] at hnodup
      exact hnodup.2.2 hmem' List.mem_cons_self
    have hstep : PushRun settings (actions ++ [.answer n row (outcome row)]) _ :=
      h.step (.answer hb hrow hopen)
    have hrows' : rows = (called ++ [row]) ++ todo := by simp [hrows]
    obtain ⟨s', hrun, htable, hb'⟩ := ih hstep hrows'
      (by rw [setBroadcast_same]; simp [Broadcast.answered])
    exact ⟨s', by simpa using hrun, htable, hb'⟩

theorem dead_map (outcome : PushSubscription → PushOutcome) (rows : List PushSubscription)
    (text : String) (isEnded : Bool) :
    Broadcast.dead ⟨rows, text, rows.map fun row => (row, outcome row), isEnded⟩ =
      (rows.filter fun row => Push.Gone (outcome row)).map (·.endpoint) := by
  rw [Broadcast.dead, List.filter_map, List.map_map]
  apply congrArg (List.map _)
  apply List.filter_congr
  intro row _
  rw [Bool.eq_iff_iff, decide_eq_true_iff]
  exact Push.sendOne_isSome _

/-- A broadcast that nothing comes between is what `broadcast` does. -/
theorem broadcast_of_parts (lib : JsonLib) (webpush : WebPush → PushOutcome)
    (title body tag : String) (data : Option JsonObject) (h : PushRun settings actions s)
    (hnew : s.broadcasts n = none) (hkeys : Push.configured settings = true)
    (hrows : Push.selected s.table regionCode ≠ []) {run : BroadcastRun}
    (hrun : Push.broadcast lib settings webpush s.table title body data regionCode tag = run) :
    ∃ parts s' b, PushRun settings (actions ++ parts) s' ∧ s'.broadcasts n = some b ∧
      s'.table.rows = run.table.rows ∧ b.delivered = run.delivered := by
  obtain ⟨-, htable, hdelivered⟩ :=
    Push.broadcast_spec lib webpush s.table title body data regionCode tag hkeys
  rw [hrun] at htable hdelivered
  have hnodup : (Push.selected s.table regionCode).Nodup := by
    unfold Push.selected
    split
    · exact s.table.unique.of_map.filter _
    · exact s.table.unique.of_map
  have hread : PushRun settings
      (actions ++ [.read n regionCode (Push.payload lib title body tag data)]) _ :=
    h.step (.read hkeys hnew hrows)
  obtain ⟨s₁, hrun₁, htable₁, hb₁⟩ := run_answers (fun row => webpush (Push.callFor settings
    (Push.payload lib title body tag data) row)) hnodup hread (List.nil_append _).symm
    (setBroadcast_same ..)
  have hfinish := hrun₁.step (.finish hb₁ rfl fun row hrow => by simpa using hrow)
  rw [dead_map, List.append_assoc, List.append_assoc] at hfinish
  refine ⟨_, _, _, hfinish, setBroadcast_same .., ?_, ?_⟩
  · rw [htable]
    apply (rows_pruned _ _).trans
    rw [htable₁]
    rfl
  · rw [hdelivered, Broadcast.delivered, dead_map, List.length_map]

end

def pushSettings : PushSettings where
  vapidPublicKey := "public"
  vapidPrivateKey := "private"
  vapidSubject := "mailto:ops@salgil.gyeongbuk.kr"
  pushTimeoutS := 10

def device (p256dh : String) : PushSubscription where
  endpoint := "https://push.example/1"
  p256dh := p256dh
  auth := "auth"
  regionCode := none
  userAgent := none

/-- A device that subscribes again while a broadcast is under way is deleted with the keys that are
gone. -/
theorem resubscription_lost : ∃ s, PushRun pushSettings
    [.save (device "old"), .read 0 none "{}", .save (device "new"),
      .answer 0 (device "old") (.webPushException (some 410)),
      .finish 0 ["https://push.example/1"]] s ∧
    s.table.at? "https://push.example/1" = none := by
  have h₁ : PushRun pushSettings [.save (device "old")] _ := PushRun.start.step .save
  have h₂ : PushRun pushSettings [.save (device "old"), .read 0 none "{}"] _ :=
    h₁.step (.read rfl rfl (List.cons_ne_nil _ _))
  have h₃ : PushRun pushSettings
      [.save (device "old"), .read 0 none "{}", .save (device "new")] _ := h₂.step .save
  have h₄ : PushRun pushSettings [.save (device "old"), .read 0 none "{}", .save (device "new"),
      .answer 0 (device "old") (.webPushException (some 410))] _ :=
    h₃.step (.answer rfl List.mem_cons_self (List.not_mem_nil))
  have h₅ : PushRun pushSettings [.save (device "old"), .read 0 none "{}", .save (device "new"),
      .answer 0 (device "old") (.webPushException (some 410)),
      .finish 0 ["https://push.example/1"]] _ :=
    h₄.step (@PushStep.finish _ _ 0 ⟨[device "old"], "{}",
      [(device "old", .webPushException (some 410))], false⟩ rfl rfl fun _ hrow => hrow)
  exact ⟨_, h₅, (push_lifecycle h₅).rows _⟩

end Salgil
