import Salgil.SpreadFrames

namespace Salgil
set_option autoImplicit true
set_option linter.unusedSectionVars false

section
variable {K : Type u} [Field K] [LinearOrder K] [IsStrictOrderedRing K] [FloorRing K] [MathLib K]

namespace SpreadCall

/-- The results of the horizons with a usable grid, in the order of the request. -/
def usableResults (call : SpreadCall K) (recipe : Recipe) (rounds : List (SpreadRound K)) :
    List (PredictionResult K) :=
  (rounds.filterMap (call.resultOf recipe)).filter (·.usableGrid)

/-- One frame of each horizon with a usable grid, in order, and then the end with their number. -/
def EachItsOwn (call : SpreadCall K) (recipe : Recipe) (rounds : List (SpreadRound K))
    (published : List (SpreadEvent K)) : Prop :=
  ∃ frames, List.Forall₂ (fun r frame =>
      frameFromResult r call.window call.hazard = .ok (some frame))
      (call.usableResults recipe rounds) frames ∧
    published = frames.map (fun frame => ⟨.frame frame, call.incidentId⟩) ++
      [⟨.complete call.hazard frames.length (rounds.map (·.1)), call.incidentId⟩]

/-- The horizon is one of the schema's, the task goes on, and a usable grid can be packed while
the row of this result and of each before it could be stored. -/
structure RoundWell (call : SpreadCall K) (recipe : Recipe) (committed : List (PredictionRun K))
    (before : List (SpreadRound K)) (round : SpreadRound K) : Prop where
  horizon : 0 ≤ round.1 ∧ round.1 ≤ 72 * 60
  answered : call.answerTo recipe round ≠ some .cancelled
  kept : ∀ r, call.resultOf recipe round = some r → r.usableGrid = true →
    r.packs = true ∧ call.Clean recipe committed (before ++ [round])

variable {call : SpreadCall K} {recipe : Recipe} {committed : List (PredictionRun K)}
variable {done rounds : List (SpreadRound K)} {round : SpreadRound K} {state : SpreadState K}
variable {mode : String} {r : PredictionResult K} {frame : Frame K}

theorem answerTo_eq_none : call.answerTo recipe round = none ↔
    ¬ (0 ≤ round.1 ∧ round.1 ≤ 72 * 60) := by
  unfold answerTo SpreadCall.request
  split
  · next h => exact iff_of_false (by simp [Except.toOption]) (not_not.2 h)
  · next h => exact iff_of_true (by simp [Except.toOption]) h

theorem RoundWell.not_halts (h : call.RoundWell recipe committed done round) :
    ¬ call.Halts recipe committed done round := by
  unfold Halts
  split
  · next hnone => exact fun _ => answerTo_eq_none.1 hnone h.horizon
  · next hcancelled => exact fun _ => h.answered hcancelled
  · exact id
  · next r hresult =>
    rintro ⟨-, husable, hpacks⟩
    have hr : call.resultOf recipe round = some r := by simp [resultOf, hresult]
    rw [(h.kept r hr husable).1] at hpacks
    cases hpacks

theorem roundWell_of_not_halts (h : ¬ call.Halts recipe committed done round)
    (hkept : ∀ r, call.resultOf recipe round = some r → r.usableGrid = true →
      r.packs = true ∧ call.Clean recipe committed (done ++ [round])) :
    call.RoundWell recipe committed done round := by
  refine ⟨?_, fun hcancelled => h ?_, hkept⟩
  · by_contra hhorizon
    rw [Halts, answerTo_eq_none.2 hhorizon] at h
    exact h trivial
  · rw [Halts, hcancelled]
    trivial

theorem usableResults_cons_of_usable (hr : call.resultOf recipe round = some r)
    (husable : r.usableGrid = true) :
    call.usableResults recipe (round :: rounds) = r :: call.usableResults recipe rounds := by
  simp [usableResults, hr, husable]

theorem usableResults_cons_of_not_usable
    (h : ∀ r, call.resultOf recipe round = some r → r.usableGrid = false) :
    call.usableResults recipe (round :: rounds) = call.usableResults recipe rounds := by
  cases hr : call.resultOf recipe round with
  | none => simp [usableResults, hr]
  | some r => simp [usableResults, hr, h r hr]

theorem Shows.usable (h : call.Shows recipe committed done round frame) :
    ∃ r, call.resultOf recipe round = some r ∧ r.usableGrid = true ∧ r.packs = true ∧
      call.Clean recipe committed (done ++ [round]) ∧
      frameFromResult r call.window call.hazard = .ok (some frame) := by
  obtain ⟨r, hr, hclean, hframe⟩ := h
  obtain ⟨husable, hpacks⟩ := exists_frame_iff.1 ⟨frame, hframe⟩
  exact ⟨r, hr, husable, hpacks, hclean, hframe⟩

end SpreadCall

section
variable {call : SpreadCall K} {recipe : Recipe} {committed : List (PredictionRun K)}
variable {done rounds : List (SpreadRound K)} {round : SpreadRound K} {state : SpreadState K}

theorem spreadLoop_length (mode : String) (hcall : call.IncidentReadable)
    (hheld : call.Held recipe committed done state.store)
    (hdraws : call.DrawsNew recipe committed (done ++ rounds)) :
    (spreadLoop mode call recipe state rounds).1.published.length ≤
      state.published.length + (call.usableResults recipe rounds).length := by
  induction rounds generalizing done state with
  | nil => exact Nat.le_add_right _ _
  | cons round rounds ih =>
    obtain ⟨hround, hrest⟩ := hdraws.tail
    have hends := spreadRound_ends mode hcall hheld hround
    have hmore : (call.usableResults recipe rounds).length ≤
        (call.usableResults recipe (round :: rounds)).length := by
      refine List.Sublist.length_le (List.Sublist.filter _ (List.Sublist.filterMap _ ?_))
      exact List.sublist_cons_self _ _
    rw [spreadLoop]
    generalize spreadRound mode call recipe state round = out at hends
    cases hends with
    | halted state' raised hhalts hpublished =>
      simp only [hpublished]
      exact Nat.le_add_right _ _
    | shown state' frame hhalts hshows hheld' hpublished hsent =>
      obtain ⟨r, hr, husable, -⟩ := hshows.usable
      have hlength := ih hheld' hrest
      rw [hpublished, List.length_append, List.length_singleton] at hlength
      rw [SpreadCall.usableResults_cons_of_usable hr husable, List.length_cons]
      exact hlength.trans (by omega)
    | silent state' hhalts hshows hheld' hpublished hsent =>
      have hlength := ih hheld' hrest
      rw [hpublished] at hlength
      exact hlength.trans (Nat.add_le_add_left hmore _)

/-- The loop ends well, and has published the frame of each usable result. -/
def SpreadCall.Owned (call : SpreadCall K) (recipe : Recipe) (rounds : List (SpreadRound K))
    (state : SpreadState K) (out : SpreadState K × Option Raised) : Prop :=
  ∃ frames, List.Forall₂ (fun r frame =>
      frameFromResult r call.window call.hazard = .ok (some frame))
      (call.usableResults recipe rounds) frames ∧
    out.2 = none ∧
    out.1.published = state.published ++ frames.map (fun frame => ⟨.frame frame, call.incidentId⟩) ∧
    out.1.sent = state.sent + frames.length

theorem SpreadCall.owned_shown {state' : SpreadState K} {out : SpreadState K × Option Raised}
    {frame : Frame K} (hr : call.resultOf recipe round = some r) (husable : r.usableGrid = true)
    (hframe : frameFromResult r call.window call.hazard = .ok (some frame))
    (hpublished : state'.published = state.published ++ [⟨.frame frame, call.incidentId⟩])
    (hsent : state'.sent = state.sent + 1) :
    call.Owned recipe (round :: rounds) state out ↔ call.Owned recipe rounds state' out := by
  rw [Owned, Owned, usableResults_cons_of_usable hr husable, hpublished, hsent]
  constructor
  · rintro ⟨frames, hframes, hnone, hpub, hcount⟩
    cases hframes with
    | cons hfirst hframes =>
      obtain rfl : frame = _ := by simpa [hframe] using hfirst
      refine ⟨_, hframes, hnone, ?_, ?_⟩
      · rw [hpub]
        simp
      · rw [hcount, List.length_cons]
        omega
  · rintro ⟨frames, hframes, hnone, hpub, hcount⟩
    refine ⟨frame :: frames, .cons hframe hframes, hnone, ?_, ?_⟩
    · rw [hpub]
      simp
    · rw [hcount, List.length_cons]
      omega

theorem SpreadCall.not_owned {out : SpreadState K × Option Raised}
    (hr : call.resultOf recipe round = some r) (husable : r.usableGrid = true)
    (hlength : out.1.published.length ≤
      state.published.length + (call.usableResults recipe rounds).length) :
    ¬ call.Owned recipe (round :: rounds) state out := by
  rintro ⟨frames, hframes, -, hpub, -⟩
  have hcount := hframes.length_eq
  rw [usableResults_cons_of_usable hr husable, List.length_cons] at hcount
  rw [hpub, List.length_append, List.length_map] at hlength
  omega

/-- The loop publishes the frames of all usable results just if every round is well. -/
theorem spreadLoop_owned_iff (mode : String) (state : SpreadState K)
    (hcall : call.IncidentReadable) (hheld : call.Held recipe committed done state.store)
    (hdraws : call.DrawsNew recipe committed (done ++ rounds)) :
    call.Owned recipe rounds state (spreadLoop mode call recipe state rounds) ↔
      AllAllowed (fun done round => done ++ [round]) (call.RoundWell recipe committed) done
        rounds := by
  induction rounds generalizing done state with
  | nil => exact iff_of_true ⟨[], .nil, rfl, by simp [spreadLoop], rfl⟩ allAllowed_nil
  | cons round rounds ih =>
    obtain ⟨hround, hrest⟩ := hdraws.tail
    have hends := spreadRound_ends mode hcall hheld hround
    rw [allAllowed_cons, spreadLoop]
    generalize spreadRound mode call recipe state round = out at hends
    cases hends with
    | halted state' raised hhalts hpublished =>
      refine iff_of_false ?_ fun h => h.1.not_halts hhalts
      rintro ⟨frames, -, hnone, -⟩
      cases hnone
    | shown state' frame hhalts hshows hheld' hpublished hsent =>
      obtain ⟨r, hr, husable, hpacks, hclean, hframe⟩ := hshows.usable
      have hwell : call.RoundWell recipe committed done round := by
        refine SpreadCall.roundWell_of_not_halts hhalts fun r' hr' _ => ?_
        obtain rfl : r = r' := Option.some.inj (hr.symm.trans hr')
        exact ⟨hpacks, hclean⟩
      rw [SpreadCall.owned_shown hr husable hframe hpublished hsent, and_iff_right hwell]
      exact ih state' hheld' hrest
    | silent state' hhalts hshows hheld' hpublished hsent =>
      by_cases husable : ∃ r, call.resultOf recipe round = some r ∧ r.usableGrid = true
      · obtain ⟨r, hr, husable⟩ := husable
        refine iff_of_false (SpreadCall.not_owned hr husable ?_) fun h => ?_
        · exact hpublished ▸ spreadLoop_length mode hcall hheld' hrest
        · obtain ⟨hpacks, hclean⟩ := h.1.kept r hr husable
          obtain ⟨frame, hframe⟩ := exists_frame_iff.2 ⟨husable, hpacks⟩
          exact hshows frame ⟨r, hr, hclean, hframe⟩
      · have hnone : ∀ r, call.resultOf recipe round = some r → r.usableGrid = false := by
          intro r hr
          by_contra hr'
          exact husable ⟨r, hr, by simpa using hr'⟩
        have hwell : call.RoundWell recipe committed done round := by
          refine SpreadCall.roundWell_of_not_halts hhalts fun r hr hr' => ?_
          exact absurd ⟨r, hr, hr'⟩ husable
        rw [SpreadCall.Owned, SpreadCall.usableResults_cons_of_not_usable hnone,
          and_iff_right hwell, ← hpublished, ← hsent]
        exact ih state' hheld' hrest

theorem runSpread_own_iff (mode : String) (hrecipe : recipeForHazard call.hazard = some recipe)
    (hcall : call.IncidentReadable) (hdraws : call.DrawsNew recipe committed rounds) :
    call.EachItsOwn recipe rounds
        (runSpread mode call { committed := committed } rounds).1.published ↔
      ∀ before round after, rounds = before ++ round :: after →
        call.RoundWell recipe committed before round := by
  have hdraws' : call.DrawsNew recipe committed ([] ++ rounds) := by simpa using hdraws
  have hown := spreadLoop_owned_iff mode { store := { committed := committed } } hcall
    SpreadCall.Held.nil hdraws'
  obtain ⟨-, hpublished⟩ := spreadLoop_spec mode { store := { committed := committed } } hcall
    SpreadCall.Held.nil hdraws'
  rw [List.nil_append] at hpublished
  have hok : Predictions.recipeForHazard call.hazard = .ok recipe := by
    rw [Predictions.recipeForHazard, hrecipe]
  rw [← allAllowed_snoc_iff, ← hown]
  simp only [runSpread, hok]
  generalize spreadLoop mode call recipe { store := { committed := committed } } rounds = out
    at hpublished
  obtain ⟨state, raised⟩ := out
  simp only at hpublished
  cases raised with
  | some raised =>
    -- the end is not published
    refine iff_of_false ?_ ?_
    · rintro ⟨frames, -, hend⟩
      have hmem : (⟨.complete call.hazard frames.length (rounds.map (·.1)), call.incidentId⟩ :
          SpreadEvent K) ∈ state.published := by
        rw [hend]
        exact List.mem_append_right _ (List.mem_singleton_self _)
      rw [hpublished] at hmem
      obtain ⟨x, -, hx⟩ := List.mem_map.1 hmem
      simp at hx
    · rintro ⟨frames, -, hnone, -⟩
      cases hnone
  | none =>
    constructor
    · rintro ⟨frames, hframes, hend⟩
      obtain ⟨hpub, hlast⟩ := List.append_inj' hend rfl
      simp only [List.cons.injEq, SpreadEvent.mk.injEq, SpreadData.complete.injEq] at hlast
      exact ⟨frames, hframes, rfl, by simpa using hpub, by simpa using hlast.1.1.2.1⟩
    · rintro ⟨frames, hframes, -, hpub, hsent⟩
      refine ⟨frames, hframes, ?_⟩
      simp only [List.nil_append] at hpub
      simp only [Nat.zero_add] at hsent
      simp only [hpub, hsent]

end

/-- Each horizon with a usable grid has its own frame, and the run its end, just if every horizon
is one of the schema's, nothing is cancelled, and where there is a usable grid, it can be packed and
the rows up to it could be stored. -/
theorem each_its_own_iff (mode : String) (payload : SpreadRequest K) {recipe : Recipe}
    {committed : List (PredictionRun K)} {rounds : List (SpreadRound K)}
    (hrecipe : recipeForHazard payload.hazard = some recipe)
    (hdraws : payload.call.DrawsNew recipe committed rounds) :
    payload.call.EachItsOwn recipe rounds
        (runSpread mode payload.call { committed := committed } rounds).1.published ↔
      ∀ before round after, rounds = before ++ round :: after →
        payload.call.RoundWell recipe committed before round :=
  runSpread_own_iff mode hrecipe payload.incidentReadable hdraws

end

/-- Three horizons; the schema does not take the one in the middle. -/
noncomputable def lateHorizon : List (SpreadRound ℝ) :=
  [answered 0 1 (burning 1), answered 5000 2 (burning 1), answered 30 3 (burning 1)]

theorem published_lateHorizon :
    (runSpread "http" fireSpread.call { committed := [] } lateHorizon).1.published =
      [⟨.frame (burningFrame 1), none⟩] := by
  have hrecipe : Predictions.recipeForHazard fireSpread.call.hazard = .ok .wildfireSpread := rfl
  have hid : (burning 1).predictionId = "p" := rfl
  have hincident : fireSpread.call.incidentId = none := rfl
  simp [runSpread, hrecipe, spreadLoop, lateHorizon, spreadRound, answered, SpreadCall.request,
    Predictions.run, Predictions.incidentUuid, hincident, RunStore.flush, RunStore.ids,
    Predictions.resultRow, hid, pyUuid_p, frameFromResult_burning float32_one]

/-- The frame of the last horizon and the end of the run are lost with the one in the middle. -/
theorem late_horizon_ends_run : ¬ fireSpread.call.EachItsOwn .wildfireSpread lateHorizon
    (runSpread "http" fireSpread.call { committed := [] } lateHorizon).1.published := by
  rw [published_lateHorizon]
  rintro ⟨frames, -, hend⟩
  cases frames with
  | nil => simp at hend
  | cons frame frames => simp at hend

/-- Three horizons; the server does not answer for the one in the middle. -/
noncomputable def serverDown : List (SpreadRound ℝ) :=
  [answered 0 1 (burning 0), (15, {
      answer := fun _ => .error (.salgil (.upstream "ML 추론 서버 응답이 시간 안에 오지 않았습니다"))
      drawnId := 2 }), answered 30 3 (burning 1)]

theorem serverDown_plain {round : SpreadRound ℝ} (h : round ∈ serverDown) :
    fireSpread.call.givenTo .wildfireSpread round = none ∧ round.2.refused = false ∧
      (0 ≤ round.1 ∧ round.1 ≤ 72 * 60) ∧
      fireSpread.call.answerTo .wildfireSpread round ≠ some .cancelled ∧
      ∀ r, fireSpread.call.resultOf .wildfireSpread round = some r → r.packs = true := by
  have hpacks : (burning 0).packs = true ∧ (burning 1).packs = true := by
    simp [PredictionResult.packs, PredictionResult.cells, burning, pySliceTo, float32_zero,
      float32_one]
  simp only [serverDown, List.mem_cons, List.not_mem_nil, or_false] at h
  rcases h with rfl | rfl | rfl <;>
    simp [SpreadCall.givenTo, SpreadCall.resultOf, SpreadCall.answerTo, answered,
      SpreadCall.request, Except.toOption, givenId_burning, hpacks]

theorem each_its_own_server_down : fireSpread.call.EachItsOwn .wildfireSpread serverDown
    (runSpread "http" fireSpread.call { committed := [] } serverDown).1.published := by
  have hids : ∀ rounds : List (SpreadRound ℝ), (∀ round ∈ rounds, round ∈ serverDown) →
      rounds.filterMap (fireSpread.call.givenTo .wildfireSpread) = [] := by
    intro rounds hrounds
    rw [List.filterMap_eq_nil_iff]
    exact fun round hround => (serverDown_plain (hrounds round hround)).1
  have hdraws : fireSpread.call.DrawsNew .wildfireSpread [] serverDown := by
    refine ⟨by simp [serverDown, answered], by simp, fun round _ => ?_⟩
    rw [hids _ fun _ h => h]
    exact List.not_mem_nil
  refine (each_its_own_iff "http" fireSpread (by decide) hdraws).2 ?_
  intro before round after hrounds
  have hround : round ∈ serverDown := by
    rw [hrounds]
    exact List.mem_append_right _ List.mem_cons_self
  have hbefore : ∀ x ∈ before ++ [round], x ∈ serverDown := by
    intro x hx
    rw [hrounds, List.append_cons]
    exact List.mem_append_left _ hx
  obtain ⟨-, -, hhorizon, hanswered, hpacks⟩ := serverDown_plain hround
  refine ⟨hhorizon, hanswered, fun r hr _ => ⟨hpacks r hr, ?_, ?_, ?_⟩⟩
  · exact fun x hx _ => (serverDown_plain (hbefore x hx)).2.1
  · simp
  · rw [hids _ hbefore]
    exact List.nodup_nil

end Salgil
