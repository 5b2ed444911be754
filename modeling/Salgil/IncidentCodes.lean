import Salgil.FieldHistory
import Salgil.GuardedRun

namespace Salgil
set_option autoImplicit true

section
variable {K : Type} {db db' : Database K} {entry : Entry K} {now : Timestamp}

namespace Incidents

/-- The day of a moment, as the codes of that day begin. -/
def dayText (now : Timestamp) : String :=
  let (year, month, day) := civilDate now
  toString year ++ "-" ++ padded 2 month ++ padded 2 day

/-- The n-th code of a day. -/
def numbered (now : Timestamp) (n : ℕ) : String := dayText now ++ "-" ++ padded 2 n

/-- YYYY-MMDD-NN, of the day of a moment. -/
def IsCode (now : Timestamp) (code : String) : Prop :=
  ∃ tens ones : Char, tens.isDigit ∧ ones.isDigit ∧
    code = dayText now ++ "-" ++ String.ofList [tens, ones]

/-- The code that an incident is declared with. -/
def codeFor (db : Database K) (now : Timestamp) (payload : IncidentCreate) : String :=
  (payload.code.filter (· ≠ "")).getD (nextIncidentCode db now)

end Incidents

def Database.codes (db : Database K) : List String := db.incidents.map (·.code)

/-- The codes that begin with a day. -/
def Database.codesOf (db : Database K) (now : Timestamp) : List String :=
  db.codes.filter (pyStartsWith · (Incidents.dayText now))

/-- On every day an incident without a code can be declared, under a new code of that day. -/
def Database.Declarable (db : Database K) : Prop :=
  ∀ now actor regionName (payload : IncidentCreate), payload.code = none →
    ∃ incident event db', Incidents.create db now actor regionName payload =
      .ok (incident, event, db') ∧ Incidents.IsCode now incident.code ∧ incident.code ∉ db.codes

/-- On no day the next number is taken, and it has two digits. -/
def Database.HasNext (db : Database K) : Prop :=
  ∀ now, (db.codesOf now).length < 99 ∧
    Incidents.numbered now ((db.codesOf now).length + 1) ∉ db.codes

/-- The payload of the incident that an operation declares. -/
def Entry.declares (entry : Entry K) : Option IncidentCreate :=
  match entry.operation with
  | .declareIncident _ payload => some payload
  | .startDrill arguments =>
    match Drills.request "assistant" arguments with
    | .ok (.ok (payload, _)) => some payload
    | _ => none
  | _ => none

/-- A declared code leaves the next number free on each day that it begins with. -/
def LeavesNext (db : Database K) (entry : Entry K) : Prop :=
  ∀ payload code, entry.declares = some payload →
    Incidents.codeFor db entry.now payload = code → code ∉ db.codes →
    ∀ now, pyStartsWith code (Incidents.dayText now) → (db.codesOf now).length + 1 < 99 ∧
      Incidents.numbered now ((db.codesOf now).length + 2) ∉ code :: db.codes

namespace Incidents

theorem toList_pushn (c : Char) (n : ℕ) : ("".pushn c n).toList = List.replicate n c := by
  rw [String.pushn_eq_repeat_push]
  induction n with
  | zero => rfl
  | succ n ih => rw [Nat.repeat, String.toList_push, ih, List.replicate_succ']

theorem padded_two_iff {n : ℕ} :
    (∃ tens ones : Char, tens.isDigit ∧ ones.isDigit ∧ (padded 2 n).toList = [tens, ones]) ↔
      n < 100 := by
  have hlength : (toString n).length ≤ 2 ↔ n < 100 := Nat.length_repr_le_iff (by decide)
  have htext : (padded 2 n).toList =
      List.replicate (2 - (toString n).length) '0' ++ Nat.toDigits 10 n := by
    simp [padded, toList_pushn]
  have hdigits : (Nat.toDigits 10 n).length = (toString n).length := by
    rw [← Nat.toList_repr, String.length_toList]
    rfl
  constructor
  · rintro ⟨tens, ones, -, -, h⟩
    rw [htext] at h
    have htwo := congrArg List.length h
    simp only [List.length_append, List.length_replicate, List.length_cons, List.length_nil]
      at htwo
    rw [← hlength]
    omega
  · intro h
    have htwo : (padded 2 n).toList.length = 2 := by
      rw [htext, List.length_append, List.length_replicate, hdigits]
      have hle := hlength.2 h
      omega
    have hall : ∀ c ∈ (padded 2 n).toList, c.isDigit := by
      intro c hc
      rw [htext, List.mem_append] at hc
      rcases hc with hc | hc
      · rw [List.eq_of_mem_replicate hc]
        decide
      · exact Nat.isDigit_of_mem_toDigits (by decide) (by decide) hc
    obtain ⟨tens, ones, heq⟩ := List.length_eq_two.1 htwo
    rw [heq] at hall
    exact ⟨tens, ones, hall tens (by simp), hall ones (by simp), heq⟩

theorem isCode_numbered {n : ℕ} : IsCode now (numbered now n) ↔ n < 100 := by
  rw [← padded_two_iff]
  refine exists_congr fun tens => exists_congr fun ones => and_congr_right fun _ =>
    and_congr_right fun _ => ?_
  rw [numbered, ← String.toList_inj]
  simp

theorem pyStartsWith_numbered (now : Timestamp) (n : ℕ) :
    pyStartsWith (numbered now n) (dayText now) = true := by
  rw [numbered, String.append_assoc]
  exact pyStartsWith_append _ _

theorem nextIncidentCode_eq (db : Database K) (now : Timestamp) :
    nextIncidentCode db now = numbered now ((db.codesOf now).length + 1) := by
  have hcount : (db.codesOf now).length = (db.incidents.filter fun incident =>
      pyStartsWith incident.code (dayText now)).length := by
    rw [Database.codesOf, Database.codes, List.filter_map, List.length_map]
    rfl
  rw [hcount]
  rfl

theorem create_ok_iff {actor regionName : String} {payload : IncidentCreate} :
    (∃ incident event db', create db now actor regionName payload = .ok (incident, event, db')) ↔
      codeFor db now payload ∉ db.codes := by
  have htaken : (db.incidents.any (·.code = codeFor db now payload)) = true ↔
      codeFor db now payload ∈ db.codes := by
    simp [Database.codes]
  rw [codeFor] at htaken ⊢
  simp only [create]
  split
  · next h => simpa using htaken.1 h
  · next h => simpa using fun hmem => h (htaken.2 hmem)

theorem create_codes {actor regionName : String} {payload : IncidentCreate} {incident : Incident}
    {event : Event} (h : create db now actor regionName payload = .ok (incident, event, db')) :
    incident.code = codeFor db now payload ∧ db'.codes = db.codes ++ [incident.code] := by
  simp only [create] at h
  split at h
  · cases h
  · cases h
    refine ⟨rfl, ?_⟩
    simp [Database.codes, Audit.record, Database.addIncident]

theorem update_codes {actor : String} {incidentId : Uuid} {payload : IncidentUpdate}
    {updated : Incident} (h : update db now actor incidentId payload = .ok (updated, db')) :
    db'.codes = db.codes := by
  obtain ⟨target, summary, -, rfl | rfl⟩ := update_eq_ok h
  · rfl
  · simp only [Database.codes, Audit.record, Database.updateIncident, List.map_map]
    apply List.map_congr_left
    intro incident _
    simp only [Function.comp_apply]
    split <;> rfl

end Incidents

/-- A new incident can be declared just if there is a next number. -/
theorem Database.declarable_iff : db.Declarable ↔ db.HasNext := by
  have hcode : ∀ now (payload : IncidentCreate), payload.code = none →
      Incidents.codeFor db now payload =
        Incidents.numbered now ((db.codesOf now).length + 1) := by
    intro now payload hnone
    rw [Incidents.codeFor, hnone, ← Incidents.nextIncidentCode_eq]
    rfl
  constructor
  · intro h now
    obtain ⟨incident, event, db', hok, hform, hnew⟩ :=
      h now "" "" ⟨"", "", .wildfire, 1, none, none, none, by decide, by decide⟩ rfl
    rw [(Incidents.create_codes hok).1, hcode now _ rfl] at hform hnew
    rw [Incidents.isCode_numbered] at hform
    exact ⟨by omega, hnew⟩
  · intro h now actor regionName payload hnone
    obtain ⟨hroom, hfree⟩ := h now
    rw [← hcode now payload hnone] at hfree
    obtain ⟨incident, event, db', hok⟩ := Incidents.create_ok_iff.2 hfree
    refine ⟨incident, event, db', hok, ?_⟩
    rw [(Incidents.create_codes hok).1]
    refine ⟨?_, hfree⟩
    rw [hcode now payload hnone, Incidents.isCode_numbered]
    omega

theorem Database.HasNext.congr (h : db.HasNext) (hcodes : db'.codes = db.codes) : db'.HasNext := by
  intro now
  rw [codesOf, hcodes]
  exact h now

theorem Database.hasNext_append_iff {code : String} (h : db.HasNext)
    (hcodes : db'.codes = db.codes ++ [code]) : db'.HasNext ↔
      ∀ now, pyStartsWith code (Incidents.dayText now) → (db.codesOf now).length + 1 < 99 ∧
        Incidents.numbered now ((db.codesOf now).length + 2) ∉ code :: db.codes := by
  refine forall_congr' fun now => ?_
  have hmem : ∀ n, Incidents.numbered now n ∈ db'.codes ↔
      Incidents.numbered now n ∈ code :: db.codes := by
    intro n
    rw [hcodes, List.mem_append, List.mem_singleton, List.mem_cons, or_comm]
  rw [hmem]
  cases hstarts : pyStartsWith code (Incidents.dayText now) with
  | true =>
    have hlength : (db'.codesOf now).length = (db.codesOf now).length + 1 := by
      rw [codesOf, hcodes, List.filter_append, List.filter_singleton, hstarts]
      exact List.length_append
    rw [hlength]
    exact ⟨fun hnext _ => hnext, fun hnext => hnext rfl⟩
  | false =>
    have hlength : (db'.codesOf now).length = (db.codesOf now).length := by
      rw [codesOf, hcodes, List.filter_append, List.filter_singleton, hstarts]
      simp [codesOf]
    rw [hlength]
    refine iff_of_true ⟨(h now).1, fun hmem => ?_⟩ fun hnot => absurd hnot Bool.false_ne_true
    rcases List.mem_cons.1 hmem with heq | hmem
    · have hday := Incidents.pyStartsWith_numbered now ((db.codesOf now).length + 1)
      rw [heq, hstarts] at hday
      cases hday
    · exact (h now).2 hmem

theorem Call.handle_codes {call : Call K} (hdb : db.Sound) (h : call.handle db = .ok db') :
    db'.codes = db.codes := by
  rw [Database.codes, (Call.handle_logged hdb h).incidents]
  rfl

theorem perform_codes (hdb : db.Linked) (entry : Entry K) :
    (perform db entry).codes = match entry.declares with
      | none => db.codes
      | some payload => if Incidents.codeFor db entry.now payload ∈ db.codes then db.codes
        else db.codes ++ [Incidents.codeFor db entry.now payload] := by
  have hdeclare : ∀ actor regionName payload,
      (match Incidents.create db entry.now actor regionName payload with
        | .ok (_, _, db') => db'.codes
        | .error _ => db.codes) =
      if Incidents.codeFor db entry.now payload ∈ db.codes then db.codes
        else db.codes ++ [Incidents.codeFor db entry.now payload] := by
    intro actor regionName payload
    split
    · next incident event db' hok =>
      obtain ⟨hcode, hcodes⟩ := Incidents.create_codes hok
      rw [if_neg (Incidents.create_ok_iff.1 ⟨incident, event, db', hok⟩), hcodes, hcode]
    · next e herror =>
      have htaken : Incidents.codeFor db entry.now payload ∈ db.codes := by
        by_contra hnew
        obtain ⟨incident, event, db', hok⟩ := Incidents.create_ok_iff.2 hnew
        rw [herror] at hok
        cases hok
      rw [if_pos htaken]
  obtain ⟨actor, now, operation⟩ := entry
  cases operation with
  | workflow request =>
    simp only [perform, Entry.handle, Entry.declares]
    split
    · next db' hok => exact Call.handle_codes hdb.sound hok
    · rfl
  | declareIncident resolved payload =>
    simp only [perform, Entry.handle, Entry.declares]
    rw [← hdeclare actor ((resolved.filter (· ≠ "")).getD payload.regionCode) payload]
    cases Incidents.create db now actor _ payload <;> rfl
  | updateIncident incidentId payload =>
    simp only [perform, Entry.handle, Entry.declares]
    split
    · next db' hok =>
      obtain ⟨⟨updated, _⟩, hupdate, hok⟩ := bind_eq_ok.1 hok
      cases hok
      exact Incidents.update_codes hupdate
    · rfl
  | startDrill arguments =>
    simp only [perform, Entry.handle, Entry.declares, Drills.startDrill]
    cases hrequest : Drills.request "assistant" arguments with
    | error e => rfl
    | ok request =>
      cases request with
      | error reply => rfl
      | ok request =>
        obtain ⟨payload, name, lat, lon⟩ := request
        simp only [ok_bind, Drills.create]
        rw [← hdeclare "assistant" name payload]
        cases Incidents.create db now "assistant" name payload <;> rfl
  | createCommunity payload => rfl
  | createShelter payload => rfl

theorem hasNext_perform_iff (hdb : db.Linked) (h : db.HasNext) :
    (perform db entry).HasNext ↔ LeavesNext db entry := by
  have hcodes := perform_codes hdb entry
  unfold LeavesNext
  cases hdeclares : entry.declares with
  | none =>
    rw [hdeclares] at hcodes
    refine iff_of_true (h.congr hcodes) ?_
    intro payload code hnone
    cases hnone
  | some payload =>
    rw [hdeclares] at hcodes
    simp only at hcodes
    split at hcodes
    · next htaken =>
      refine iff_of_true (h.congr hcodes) ?_
      rintro _ code hsome rfl hnew
      cases hsome
      exact absurd htaken hnew
    · next hnew =>
      rw [Database.hasNext_append_iff h hcodes]
      constructor
      · rintro hnext _ code hsome rfl -
        cases hsome
        exact hnext
      · intro hallowed
        exact hallowed payload _ rfl rfl hnew

theorem Database.Empty.hasNext (h : db.Empty) : db.HasNext := by
  intro now
  simp [codesOf, codes, h.incidents]

/-- In a run of operations an incident can be declared without a code at any time, if and only if
every declared code leaves the next number of its day free. -/
theorem declarable_iff_leaves_next (h : db.Empty) (entries : List (Entry K)) :
    Throughout perform Database.Declarable db entries ↔
      AllAllowed perform LeavesNext db entries := by
  refine throughout_iff_allAllowed (fun db entry (hdb : db.Linked) => hdb.perform entry)
    (fun db entry hdb hdeclarable => ?_) (Database.Linked.of_empty h)
    (Database.declarable_iff.2 h.hasNext)
  rw [Database.declarable_iff]
  exact hasNext_perform_iff hdb (Database.declarable_iff.1 hdeclarable)

end

/-- Somebody chooses the second code of a day before there is a first one. -/
def chosenSecond : List (Entry ℚ) :=
  [⟨"operator", 1787356800, .declareIncident none { fire with code := some "2026-0822-02" }⟩]

/-- Then no incident can be declared on that day. -/
theorem no_code_left : ¬ Throughout perform Database.Declarable quietVillage chosenSecond := by
  intro h
  have hdeclarable : (runEntries quietVillage chosenSecond).Declarable :=
    h chosenSecond [] (List.append_nil _).symm
  obtain ⟨-, hfree⟩ := Database.declarable_iff.1 hdeclarable 1787356800
  exact absurd hfree (by decide +kernel)

theorem declarable_iff_leaves_next_fire :
    Throughout perform Database.Declarable quietVillage (closedFire.take 1) ∧
      (runEntries quietVillage (closedFire.take 1)).codes = ["1970-0101-01"] := by
  refine ⟨(declarable_iff_leaves_next quietVillage_empty _).2 ?_, by decide +kernel⟩
  refine allAllowed_cons.2 ⟨?_, allAllowed_nil⟩
  rintro payload code hdeclares rfl -
  cases hdeclares
  intro now _
  refine ⟨by simp [Database.codesOf, Database.codes, quietVillage], fun hmem => ?_⟩
  have hcode : Incidents.codeFor quietVillage 0 fire = "1970-0101-01" := by decide +kernel
  have htaken : Incidents.numbered now 2 = "1970-0101-01" := by
    rw [← hcode]
    simpa [Database.codesOf, Database.codes, quietVillage] using hmem
  -- the codes end in different digits
  have hlast := congrArg (fun code => code.toList.getLast?) htaken
  have htwo : (padded 2 2).toList = ['0', '2'] := by decide +kernel
  simp only [Incidents.numbered, String.toList_append, htwo] at hlast
  simp at hlast

end Salgil
