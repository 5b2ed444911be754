import Salgil.Base64
import Salgil.Binary32
import Salgil.LiveUpdates
import Salgil.SpreadFrames

namespace Salgil
set_option autoImplicit true
set_option linter.unusedSectionVars false

section
variable {K : Type u} [Field K] [LinearOrder K] [IsStrictOrderedRing K] [FloorRing K]

/-- The bytes of `struct.pack("<f", value)`. -/
def packBytes (value : K) : Except PyError (List UInt8) :=
  match float32 value with
  | some _ => .ok (littleEndian 4 (float32Bits value))
  | none => .error (.overflowError "float too large to pack with f format")

/-- The text that `encode_values` returns. -/
def encodeText (values : List K) : Except PyError String := do
  let packed ← values.mapM packBytes
  return String.ofList (Base64.encode packed.flatten)

/-- The event data that `frame_from_result` returns; `float` is the text of a float. -/
def frameData (float : K → String) (r : PredictionResult K) (window : SpreadWindow K)
    (hazard : String) : Except PyError (Option JsonObject) :=
  match r.grid, r.outputs with
  | some grid, tensor :: _ =>
    let expected := grid.width * grid.height
    if tensor.data.length < expected then .ok none
    else do
      let values ← encodeText (pySliceTo tensor.data expected)
      return some [
        ("prediction_id", .str r.predictionId),
        ("recipe", .str r.recipe.value),
        ("hazard", .str hazard),
        ("horizon_minutes", .int (r.horizonMinutes.getD 0)),
        ("width", .int grid.width),
        ("height", .int grid.height),
        ("bbox", .arr ((grid.bboxOr window).map fun x => .float (float x))),
        ("values_b64", .str values),
        ("is_derived", .bool true),
        ("is_stub", .bool r.isStub),
        ("feature_mode", .str r.featureMode.value),
        ("derived_notice", .str r.derivedNotice)]
  | _, _ => .ok none

/-- What is published of a frame. -/
def frameEvent (data : JsonObject) (incidentId : Option String) : Event where
  kind := "prediction.frame"
  data := data
  incidentId := incidentId

/-- The binary32 numbers of bytes, four by four. -/
def readFloats : List UInt8 → Option (List K)
  | [] => some []
  | a :: b :: c :: d :: bytes =>
    match ofFloat32Bits (ofLittleEndian [a, b, c, d]), readFloats bytes with
    | some x, some xs => some (x :: xs)
    | _, _ => none
  | _ => none

/-- The numbers that a screen reads from the text. -/
def readValues (text : String) : Option (List K) := (Base64.decode text.toList).bind readFloats

/-- What a screen is told of a frame besides its box and its values. -/
def Frame.header (frame : Frame K) : JsonObject :=
  [("prediction_id", .str frame.predictionId), ("recipe", .str frame.recipe),
    ("hazard", .str frame.hazard), ("horizon_minutes", .int frame.horizonMinutes),
    ("width", .int frame.width), ("height", .int frame.height),
    ("is_derived", .bool frame.isDerived), ("is_stub", .bool frame.isStub),
    ("feature_mode", .str frame.featureMode),
    ("derived_notice", .str frame.derivedNotice)]

/-- A screen can draw the frame from the payload of a message; `value` is what it makes of the text
of a float. -/
structure Draws (value : String → Option K) (payload : JsonObject) (frame : Frame K) : Prop where
  header : ∀ entry ∈ frame.header, payload.get entry.1 = entry.2
  bbox : ∃ texts, payload.get "bbox" = .arr (texts.map Json.float) ∧
    List.Forall₂ (fun text x => value text = some x) texts frame.bbox
  values : ∃ text, payload.get "values_b64" = .str text ∧ readValues text = some frame.values

/-- The text is a number of JSON, and is read as the float. -/
structure ShowsFloat (number : List Char → Option JsonText.Number) (value : String → Option K)
    (text : String) (x : K) : Prop where
  writable : JsonText.Writable number (.float text)
  value : value text = some x

end

section
variable {K : Type u} [Field K] [LinearOrder K] [IsStrictOrderedRing K] [FloorRing K]
variable {number : List Char → Option JsonText.Number} {float : K → String}
variable {value : String → Option K}
variable {r : PredictionResult K} {window : SpreadWindow K} {hazard : String} {frame : Frame K}
variable {values cells : List K} {data payload : JsonObject} {incidentId : Option String}

theorem readFloats_littleEndian {value cell : K} (h : float32 value = some cell)
    (bytes : List UInt8) : readFloats (littleEndian 4 (float32Bits value) ++ bytes) =
      (readFloats bytes).map (cell :: ·) := by
  obtain ⟨hlt, hcell⟩ := ofFloat32Bits_float32Bits h
  have hread : ofLittleEndian (littleEndian 4 (float32Bits value)) = float32Bits value :=
    ofLittleEndian_littleEndian hlt
  simp only [littleEndian] at hread ⊢
  simp only [List.cons_append, List.nil_append]
  rw [readFloats, hread, hcell]
  cases (readFloats bytes : Option (List K)) <;> rfl

theorem packBytes_eq {value cell : K} (h : float32 value = some cell) :
    packBytes value = .ok (littleEndian 4 (float32Bits value)) := by
  rw [packBytes, h]

/-- A screen reads the numbers that the values are rounded to. -/
theorem readValues_encodeText
    (h : List.Forall₂ (fun value cell => float32 value = some cell) values cells) :
    ∃ text, encodeText values = .ok text ∧ readValues text = some cells := by
  have hpacked : values.mapM packBytes =
      .ok (values.map fun value => littleEndian 4 (float32Bits value)) := by
    rw [mapM_eq_ok]
    induction h with
    | nil => exact .nil
    | cons hcell _ ih => exact .cons (packBytes_eq hcell) ih
  refine ⟨_, by rw [encodeText, hpacked, ok_bind]; rfl, ?_⟩
  rw [readValues, String.toList_ofList, Base64.decode_encode, Option.bind_some]
  clear hpacked
  induction h with
  | nil => rfl
  | cons hcell _ ih =>
    rw [List.map_cons, List.flatten_cons, readFloats_littleEndian hcell, ih, Option.map_some]

theorem writable_frameEntries {bbox : List K} {i j k : ℤ} {t₁ t₂ t₃ t₄ t₅ t₆ : String}
    {isStub : Bool} (hbbox : ∀ x ∈ bbox, JsonText.Writable number (.float (float x))) :
    JsonText.Writable number (.obj [("prediction_id", .str t₁), ("recipe", .str t₂),
      ("hazard", .str t₃), ("horizon_minutes", .int i), ("width", .int j), ("height", .int k),
      ("bbox", .arr (bbox.map fun x => .float (float x))), ("values_b64", .str t₄),
      ("is_derived", .bool true), ("is_stub", .bool isStub), ("feature_mode", .str t₅),
      ("derived_notice", .str t₆)]) := by
  refine .obj (show ["prediction_id", "recipe", "hazard", "horizon_minutes", "width", "height",
    "bbox", "values_b64", "is_derived", "is_stub", "feature_mode", "derived_notice"].Nodup by
      decide) ?_
  have harr : JsonText.Writable number (.arr (bbox.map fun x => .float (float x))) := by
    apply JsonText.Writable.arr
    rwa [List.forall_mem_map]
  simp only [List.forall_mem_cons]
  exact ⟨.str, .str, .str, .int, .int, .int, harr, .str, .bool, .bool, .str, .str,
    List.forall_mem_nil _⟩

theorem frameData_of_frame (hfloat : ∀ x ∈ frame.bbox, ShowsFloat number value (float x) x)
    (h : frameFromResult r window hazard = .ok (some frame)) :
    ∃ data, frameData float r window hazard = .ok (some data) ∧ Draws value data frame ∧
      JsonText.Writable number (.obj data) := by
  unfold frameFromResult at h
  split at h
  · next grid tensor rest hgrid houtputs =>
    rw [frameData, hgrid, houtputs]
    dsimp only at h ⊢
    split at h
    · cases h
    · next hlength =>
      obtain ⟨cells, hcells, h⟩ := bind_eq_ok.1 h
      cases h
      obtain ⟨text, htext, hread⟩ := readValues_encodeText (encodeValues_eq_ok.1 hcells)
      rw [if_neg hlength, htext]
      refine ⟨_, rfl, ⟨?_, ⟨(grid.bboxOr window).map float, ?_, ?_⟩, text, rfl, hread⟩, ?_⟩
      · simp [Frame.header, JsonObject.get, List.lookup_cons]
      · rw [List.map_map]
        rfl
      · rw [List.forall₂_map_left_iff, List.forall₂_same]
        exact fun x hx => (hfloat x hx).value
      · exact writable_frameEntries fun x hx => (hfloat x hx).writable
  · cases h

theorem sendable_frameEvent (h : JsonText.Writable number (.obj data))
    (incidentId : Option String) : Sendable number (frameEvent data incidentId) where
  kind_ne := (by decide : "prediction.frame" ≠ "")
  kind := (⟨by decide, by decide⟩ : EventSource.OneLine "prediction.frame".toList)
  data := h

theorem header_keys : ∀ entry ∈ frame.header,
    entry.1 ≠ "at" ∧ entry.1 ≠ "incident_id" := by
  simp [Frame.header]

/-- The moment and the incident that a message tells leave the frame as it is. -/
theorem Draws.of_announces {stamped : StampedEvent} (h : Draws value stamped.event.data frame)
    (hannounces : Announces payload stamped) : Draws value payload frame where
  header := by
    intro entry hentry
    obtain ⟨hat, hincident⟩ := header_keys entry hentry
    rw [hannounces.data entry.1 hat hincident, h.header entry hentry]
  bbox := by
    obtain ⟨texts, htexts, hread⟩ := h.bbox
    refine ⟨texts, ?_, hread⟩
    rw [hannounces.data _ (by decide) (by decide), htexts]
  values := by
    obtain ⟨text, htext, hread⟩ := h.values
    refine ⟨text, ?_, hread⟩
    rw [hannounces.data _ (by decide) (by decide), htext]

/-- A frame reaches the screens as it is: a screen that reads the message reads the frame's header,
its box and, for each cell, the binary32 number that the cell's value is rounded to. -/
theorem frame_reaches_screen (hints : JsonText.ReadsInts number)
    (h : frameFromResult r window hazard = .ok (some frame))
    (hfloat : ∀ x ∈ frame.bbox, ShowsFloat number value (float x) x) (incidentId : Option String)
    (madeAt : String) :
    ∃ data, frameData float r window hazard = .ok (some data) ∧
      ∃ message payload, EventSource.Yields
          (StampedEvent.encode ⟨frameEvent data incidentId, madeAt⟩) [message] ∧
        message.kind = "prediction.frame".toList ∧
        JsonText.readText number message.data = some (.obj payload) ∧
        Draws value payload frame ∧
        List.Forall₂ (fun value cell => float32 value = some cell) r.cells frame.values := by
  obtain ⟨data, hdata, hdraws, hwritable⟩ := frameData_of_frame hfloat h
  obtain ⟨message, hyields, hkind, payload, hread, hannounces⟩ :=
    @yields_encode number ⟨frameEvent data incidentId, madeAt⟩ hints
      (sendable_frameEvent hwritable incidentId)
  exact ⟨data, hdata, message, payload, hyields, hkind, hread, hdraws.of_announces hannounces,
    (frameFromResult_some h).2.values⟩

end

/-- The text of a float, as far as it is an integer, and what is read from it. -/
noncomputable def floatText (x : ℝ) : String := JsonText.wholeText ⌊x⌋

noncomputable def floatValue (text : String) : Option ℝ :=
  Option.map (Int.cast : ℤ → ℝ) (JsonText.wholeValue text)

theorem showsFloat_floatText (i : ℤ) :
    ShowsFloat JsonText.wholeWord floatValue (floatText i) i := by
  rw [floatText, Int.floor_intCast]
  constructor
  · exact JsonText.writable_wholeText i
  · rw [floatValue, JsonText.wholeValue_wholeText, Option.map_some]

/-- A prediction of two rows of two cells. -/
noncomputable def front : PredictionResult ℝ :=
  { burning 0 with
    grid := some ⟨2, 2, some "EPSG:4326", some [129, 36, 130, 37]⟩
    outputs := [⟨"risk", [0, 1 / 2, 1, 0]⟩] }

noncomputable def frontFrame : Frame ℝ :=
  { burningFrame 0 with width := 2, height := 2, values := [0, 1 / 2, 1, 0] }

theorem frameFromResult_front :
    frameFromResult front fireSpread.call.window "wildfire" = .ok (some frontFrame) := by
  have hhalf : float32 (2⁻¹ : ℝ) = some 2⁻¹ := by simpa using float32_half (K := ℝ)
  simp [frameFromResult, front, burning, pySliceTo, encodeValues, packFloat, float32_zero,
    hhalf, float32_one, frontFrame, burningFrame, GridSpec.bboxOr, Recipe.value,
    FeatureMode.value]

theorem showsFloat_front :
    ∀ x ∈ frontFrame.bbox, ShowsFloat JsonText.wholeWord floatValue (floatText x) x := by
  have hwhole : ∀ x ∈ frontFrame.bbox, ∃ i : ℤ, x = i := by
    simp only [frontFrame, burningFrame, List.forall_mem_cons]
    exact ⟨⟨129, by simp⟩, ⟨36, by simp⟩, ⟨130, by simp⟩, ⟨37, by simp⟩, List.forall_mem_nil _⟩
  intro x hx
  obtain ⟨i, rfl⟩ := hwhole x hx
  exact showsFloat_floatText i

theorem frame_reaches_screen_front :
    ∃ data, frameData floatText front fireSpread.call.window "wildfire" = .ok (some data) ∧
      ∃ message payload, EventSource.Yields
          (StampedEvent.encode ⟨frameEvent data none, "2026-05-01T00:00:00+00:00"⟩) [message] ∧
        JsonText.readText JsonText.wholeWord message.data = some (.obj payload) ∧
        Draws floatValue payload frontFrame := by
  obtain ⟨data, hdata, message, payload, hyields, -, hread, hdraws, -⟩ :=
    frame_reaches_screen JsonText.readsInts_wholeWord frameFromResult_front showsFloat_front none
      "2026-05-01T00:00:00+00:00"
  exact ⟨data, hdata, message, payload, hyields, hread, hdraws⟩

end Salgil
