import Salgil.Json
import Mathlib.Data.List.Nodup

namespace Salgil
set_option autoImplicit true

structure PushSubscription where
  endpoint : String
  p256dh : String
  auth : String
  regionCode : Option String
  userAgent : Option String
  deriving DecidableEq

/-- The subscriptions; the column of the endpoints is unique. -/
structure PushTable where
  rows : List PushSubscription
  unique : (rows.map (·.endpoint)).Nodup

structure PushSettings where
  vapidPublicKey : String
  vapidPrivateKey : String
  vapidSubject : String
  pushTimeoutS : ℚ

/-- The arguments of one call of `webpush`. -/
structure WebPush where
  endpoint : String
  p256dh : String
  auth : String
  data : String
  vapidPrivateKey : String
  sub : String
  timeout : ℚ
  ttl : ℕ
  deriving DecidableEq

/-- How a call of `webpush` ends: it returns, raises a `WebPushException` with the status of the
response, if there is one, or raises another exception. -/
inductive PushOutcome where
  | accepted
  | webPushException (status : Option ℕ)
  | exception
  deriving DecidableEq

/-- The calls that were made, the table afterwards, and the number that is returned. -/
structure BroadcastRun where
  sent : List WebPush
  table : PushTable
  delivered : ℕ

def goneStatuses : List ℕ := [404, 410]

namespace Push

def configured (settings : PushSettings) : Bool :=
  settings.vapidPublicKey ≠ "" ∧ settings.vapidPrivateKey ≠ ""

/-- The call that is made for one device. -/
def callFor (settings : PushSettings) (payload : String) (row : PushSubscription) : WebPush where
  endpoint := row.endpoint
  p256dh := row.p256dh
  auth := row.auth
  data := payload
  vapidPrivateKey := settings.vapidPrivateKey
  sub := settings.vapidSubject
  timeout := settings.pushTimeoutS
  ttl := 600

/-- The status of a subscription that is gone, and nothing after any other outcome. -/
def sendOne (outcome : PushOutcome) : Option ℕ :=
  match outcome with
  | .accepted => none
  | .webPushException status => status.filter (· ∈ goneStatuses)
  | .exception => none

/-- The subscriptions that the query finds; an empty region code counts as none. -/
def selected (table : PushTable) (regionCode : Option String) : List PushSubscription :=
  match regionCode.filter (· ≠ "") with
  | some code => table.rows.filter fun row => row.regionCode = some code ∨ row.regionCode = none
  | none => table.rows

/-- The rows of the given endpoints are deleted. -/
def prune (table : PushTable) (endpoints : List String) : PushTable where
  rows := table.rows.filter (·.endpoint ∉ endpoints)
  unique := table.unique.sublist (List.filter_sublist.map _)

def payload (lib : JsonLib) (title body tag : String) (data : Option JsonObject) : String :=
  lib.dumps (.obj [("title", .str title), ("body", .str body), ("tag", .str tag),
    ("data", .obj (data.getD []))])

def broadcast (lib : JsonLib) (settings : PushSettings) (webpush : WebPush → PushOutcome)
    (table : PushTable) (title body : String) (data : Option JsonObject := none)
    (regionCode : Option String := none) (tag : String := "salgil-incident") : BroadcastRun :=
  if ¬ configured settings then ⟨[], table, 0⟩
  else
    let rows := selected table regionCode
    if rows.isEmpty then ⟨[], table, 0⟩
    else
      let sent := rows.map (callFor settings (payload lib title body tag data))
      let results := sent.map fun call => sendOne (webpush call)
      let dead := (rows.zip results).filterMap fun (row, status) =>
        status.map fun _ => row.endpoint
      ⟨sent, if dead.isEmpty then table else prune table dead,
        rows.length - dead.length⟩

/-- The push service says that the subscription is dead. -/
def Gone (outcome : PushOutcome) : Prop :=
  ∃ status ∈ goneStatuses, outcome = .webPushException (some status)

/-- The subscriptions that are to be told: those without a region or of the given one, and all if
none is given. -/
def recipients (table : PushTable) (regionCode : Option String) : List PushSubscription :=
  table.rows.filter fun row =>
    regionCode = none ∨ row.regionCode = none ∨ row.regionCode = regionCode

/-- Each recipient is sent to once, the dead ones among them are deleted, and those whose send
succeeded are counted. -/
structure Honest (settings : PushSettings) (webpush : WebPush → PushOutcome) (table : PushTable)
    (regionCode : Option String) (text : String) (run : BroadcastRun) : Prop where
  sent : run.sent = (recipients table regionCode).map (callFor settings text)
  deleted : ∀ row, row ∈ run.table.rows ↔ row ∈ table.rows ∧
    ¬ (row ∈ recipients table regionCode ∧ Gone (webpush (callFor settings text row)))
  delivered : run.delivered = ((recipients table regionCode).filter
    fun row => webpush (callFor settings text row) = .accepted).length

/-- There are keys or no recipients; the region code is not the empty text, unless that leaves out
nobody; and each recipient is reached or gone. -/
structure Countable (settings : PushSettings) (webpush : WebPush → PushOutcome) (table : PushTable)
    (regionCode : Option String) (text : String) : Prop where
  keys : configured settings ∨ recipients table regionCode = []
  region : configured settings → regionCode = some "" →
    ∀ row ∈ table.rows, row.regionCode = none ∨ row.regionCode = some ""
  settled : configured settings → ∀ row ∈ recipients table regionCode,
    webpush (callFor settings text row) = .accepted ∨ Gone (webpush (callFor settings text row))

section
variable {lib : JsonLib} {settings : PushSettings} {webpush : WebPush → PushOutcome}
variable {table : PushTable} {title body tag text : String} {data : Option JsonObject}
variable {regionCode : Option String}

theorem sendOne_isSome (outcome : PushOutcome) : (sendOne outcome).isSome ↔ Gone outcome := by
  cases outcome with
  | accepted => simp [sendOne, Gone]
  | exception => simp [sendOne, Gone]
  | webPushException status =>
    cases status with
    | none => simp [sendOne, Gone]
    | some status => simp [sendOne, Gone]

instance (outcome : PushOutcome) : Decidable (Gone outcome) :=
  decidable_of_iff _ (sendOne_isSome outcome)

theorem dead_eq (settings : PushSettings) (webpush : WebPush → PushOutcome) (text : String)
    (rows : List PushSubscription) :
    ((rows.zip ((rows.map (callFor settings text)).map fun call =>
        sendOne (webpush call))).filterMap fun (row, status) =>
          status.map fun _ => row.endpoint) =
      (rows.filter fun row => Gone (webpush (callFor settings text row))).map (·.endpoint) := by
  induction rows with
  | nil => rfl
  | cons row rows ih =>
    have hgone := sendOne_isSome (webpush (callFor settings text row))
    cases hsend : sendOne (webpush (callFor settings text row)) with
    | none => simp_all
    | some status => simp_all

theorem broadcast_spec (lib : JsonLib) (webpush : WebPush → PushOutcome) (table : PushTable)
    (title body : String) (data : Option JsonObject) (regionCode : Option String) (tag : String)
    (hkeys : configured settings) :
    (broadcast lib settings webpush table title body data regionCode tag).sent =
        (selected table regionCode).map (callFor settings (payload lib title body tag data)) ∧
      (broadcast lib settings webpush table title body data regionCode tag).table.rows =
        table.rows.filter (·.endpoint ∉ ((selected table regionCode).filter fun row =>
          Gone (webpush (callFor settings (payload lib title body tag data) row))).map
            (·.endpoint)) ∧
      (broadcast lib settings webpush table title body data regionCode tag).delivered =
        (selected table regionCode).length - ((selected table regionCode).filter fun row =>
          Gone (webpush (callFor settings (payload lib title body tag data) row))).length := by
  rw [broadcast, if_neg (not_not.2 hkeys)]
  dsimp only
  rw [dead_eq]
  cases hrows : selected table regionCode with
  | nil => simp
  | cons row rows =>
    rw [if_neg (by simp)]
    refine ⟨rfl, ?_, by simp⟩
    split
    · next hempty =>
      rw [List.isEmpty_iff] at hempty
      simp [hempty]
    · rfl

/-- Only the empty text is taken for a region code that it is not. -/
theorem selected_eq (hregion : regionCode ≠ some "") :
    selected table regionCode = recipients table regionCode := by
  cases regionCode with
  | none => simp [selected, recipients]
  | some code =>
    have hcode : code ≠ "" := fun h => hregion (congrArg some h)
    rw [selected, Option.filter_some, if_pos (by simpa using hcode)]
    simp [recipients, or_comm]

theorem selected_empty : selected table (some "") = table.rows := by
  rw [selected, Option.filter_some, if_neg (by simp)]

theorem recipients_empty : recipients table (some "") = table.rows ↔
    ∀ row ∈ table.rows, row.regionCode = none ∨ row.regionCode = some "" := by
  simp [recipients, List.filter_eq_self]

theorem selected_eq_iff : selected table regionCode = recipients table regionCode ↔
    (regionCode = some "" → ∀ row ∈ table.rows, row.regionCode = none ∨
      row.regionCode = some "") := by
  by_cases hregion : regionCode = some ""
  · subst hregion
    rw [selected_empty, eq_comm, recipients_empty]
    simp
  · simp [selected_eq hregion, hregion]

theorem selected_of_calls
    (h : (selected table regionCode).map (callFor settings text) =
      (recipients table regionCode).map (callFor settings text)) :
    selected table regionCode = recipients table regionCode := by
  by_cases hregion : regionCode = some ""
  · subst hregion
    have hlength := congrArg List.length h
    rw [List.length_map, List.length_map, selected_empty] at hlength
    rw [selected_empty]
    exact ((List.filter_sublist (l := table.rows)).eq_of_length hlength.symm).symm
  · exact selected_eq hregion

theorem mem_of_mem_recipients {row : PushSubscription} (h : row ∈ recipients table regionCode) :
    row ∈ table.rows :=
  List.mem_of_mem_filter h

theorem mem_endpoints {dead : List PushSubscription} (hdead : ∀ row ∈ dead, row ∈ table.rows)
    {row : PushSubscription} (hrow : row ∈ table.rows) :
    row.endpoint ∈ dead.map (·.endpoint) ↔ row ∈ dead := by
  constructor
  · intro h
    obtain ⟨other, hother, heq⟩ := List.mem_map.1 h
    rwa [← List.inj_on_of_nodup_map table.unique (hdead other hother) hrow heq]
  · exact List.mem_map_of_mem

/-- The devices that are not gone are as many as the accepted ones if and only if there are no
others. -/
theorem length_sub_gone_iff (outcome : PushSubscription → PushOutcome)
    (rows : List PushSubscription) :
    rows.length - (rows.filter fun row => Gone (outcome row)).length =
      (rows.filter fun row => outcome row = .accepted).length ↔
    ∀ row ∈ rows, outcome row = .accepted ∨ Gone (outcome row) := by
  have hnot : ∀ row, Gone (outcome row) → outcome row ≠ .accepted := by
    rintro row ⟨status, -, hstatus⟩
    rw [hstatus]
    exact PushOutcome.noConfusion
  have hgone : (rows.filter fun row => ¬ outcome row = .accepted).filter
      (fun row => Gone (outcome row)) = rows.filter fun row => Gone (outcome row) := by
    rw [List.filter_filter]
    refine List.filter_congr fun row _ => ?_
    by_cases h : Gone (outcome row)
    · simp [h, hnot row h]
    · simp [h]
  have hrows := rows.length_eq_length_filter_add fun row => decide (outcome row = .accepted)
  have hothers := (rows.filter fun row => ¬ outcome row = .accepted).length_eq_length_filter_add
    fun row => decide (Gone (outcome row))
  rw [hgone] at hothers
  simp only [decide_not] at hothers
  have hlost : (((rows.filter fun row => !decide (outcome row = .accepted)).filter
      fun row => !decide (Gone (outcome row))).length = 0) ↔
      ∀ row ∈ rows, outcome row = .accepted ∨ Gone (outcome row) := by
    rw [List.length_eq_zero_iff, List.filter_eq_nil_iff]
    simp only [List.mem_filter, Bool.not_eq_true', decide_eq_false_iff_not, not_not]
    exact forall_congr' fun row => ⟨fun h hrow => Classical.or_iff_not_imp_left.2 (h ⟨hrow, ·⟩),
      fun h hrow => (h hrow.1).resolve_left hrow.2⟩
  rw [← hlost]
  omega

/-- The accounting of a broadcast is honest if and only if no send is lost to anything but a
subscription that is gone. -/
theorem honest_iff (lib : JsonLib) (settings : PushSettings) (webpush : WebPush → PushOutcome)
    (table : PushTable) (title body : String) (data : Option JsonObject)
    (regionCode : Option String) (tag : String) :
    Honest settings webpush table regionCode (payload lib title body tag data)
        (broadcast lib settings webpush table title body data regionCode tag) ↔
      Countable settings webpush table regionCode (payload lib title body tag data) := by
  by_cases hkeys : configured settings
  · obtain ⟨hsent, hrows, hdelivered⟩ := broadcast_spec lib webpush table title body data regionCode
      tag hkeys
    constructor
    · intro h
      have hselected := selected_of_calls (hsent.symm.trans h.sent)
      rw [hselected] at hdelivered
      exact ⟨.inl hkeys, fun _ => selected_eq_iff.1 hselected,
        fun _ => (length_sub_gone_iff _ _).1 (hdelivered.symm.trans h.delivered)⟩
    · intro h
      have hselected := selected_eq_iff.2 (h.region hkeys)
      rw [hselected] at hsent hrows hdelivered
      refine ⟨hsent, fun row => ?_,
        hdelivered.trans ((length_sub_gone_iff _ _).2 (h.settled hkeys))⟩
      rw [hrows, List.mem_filter, decide_eq_true_eq]
      refine and_congr_right fun hrow => not_congr ?_
      rw [mem_endpoints (fun _ h => mem_of_mem_recipients (List.mem_of_mem_filter h)) hrow,
        List.mem_filter, decide_eq_true_eq]
  · have hrun : broadcast lib settings webpush table title body data regionCode tag =
        ⟨[], table, 0⟩ := by
      rw [broadcast, if_pos hkeys]
    rw [hrun]
    constructor
    · intro h
      exact ⟨.inr (List.map_eq_nil_iff.1 h.sent.symm), fun hyes => absurd hyes hkeys,
        fun hyes => absurd hyes hkeys⟩
    · intro h
      have hnone := h.keys.resolve_left hkeys
      constructor
      · rw [hnone, List.map_nil]
      · simp [hnone]
      · simp [hnone]

end

end Push

/-- One device without a region. -/
def oneDevice : PushTable where
  rows := [⟨"https://push.example/1", "key", "auth", none, none⟩]
  unique := by simp

/-- A device whose push service answers 500 is counted as reached. -/
theorem failed_push_counted :
    let settings : PushSettings := ⟨"public", "private", "mailto:ops@salgil.gyeongbuk.kr", 10⟩
    let run := Push.broadcast ⟨fun _ => .ok .null, fun _ => "{}", fun _ => ""⟩ settings
      (fun _ => .webPushException (some 500)) oneDevice "산불" "대피" none none
    run.delivered = 1 ∧ ¬ Push.Honest settings (fun _ => .webPushException (some 500)) oneDevice
      none "{}" run := by
  refine ⟨rfl, fun h => ?_⟩
  have hcount := h.delivered
  simp [Push.recipients, oneDevice] at hcount
  cases hcount

end Salgil
