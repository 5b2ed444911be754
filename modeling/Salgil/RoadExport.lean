import Salgil.FeatureFiles
import Salgil.JsonWriter
import Salgil.LoadGraph
import Mathlib.Data.List.ReduceOption

namespace Salgil
set_option autoImplicit true
set_option linter.unusedSectionVars false

/-- What Python raises where a value of JSON does not have the shape that the code expects. -/
inductive ShapeError where
  | attributeError
  | typeError
  | keyError
  | indexError

namespace Json

/-- `value.get(key)`. -/
def get : Json → String → Except ShapeError Json
  | .obj entries, key => .ok (JsonObject.get entries key)
  | _, _ => .error .attributeError

/-- `value.items()`. -/
def items : Json → Except ShapeError JsonObject
  | .obj entries => .ok entries
  | _ => .error .attributeError

/-- `value[key]` for the name of an entry. -/
def entry : Json → String → Except ShapeError Json
  | .obj entries, key => match entries.lookup key with
    | some value => .ok value
    | none => .error .keyError
  | _, _ => .error .typeError

/-- `for item in value`. -/
def iter : Json → Except ShapeError (List Json)
  | .arr values => .ok values
  | .obj entries => .ok (entries.map fun entry => .str entry.1)
  | .str value => .ok (value.toList.map fun c => .str (String.ofList [c]))
  | _ => .error .typeError

/-- `value[n]` for a position. -/
def index (n : ℕ) : Json → Except ShapeError Json
  | .arr values => match values[n]? with
    | some value => .ok value
    | none => .error .indexError
  | .str value => match value.toList[n]? with
    | some c => .ok (.str (String.ofList [c]))
    | none => .error .indexError
  | .obj _ => .error .keyError
  | _ => .error .typeError

/-- The number that `round` gets; `float` says what number a float's text is of. -/
def number {K : Type} [IntCast K] (float : String → K) : Json → Except ShapeError K
  | .int value => .ok value
  | .float text => .ok (float text)
  | .bool value => .ok ((if value then 1 else 0 : ℤ) : K)
  | _ => .error .typeError

end Json

/-- `[p["lon"], p["lat"]]`. -/
def exportPoint (p : Json) : Except ShapeError Json := do
  let lon ← p.entry "lon"
  let lat ← p.entry "lat"
  return .arr [lon, lat]

/-- The feature of an element, if `to_geojson` does not leave it out. -/
def exportElement (lib : JsonLib) (element : Json) : Except ShapeError (Option Json) := do
  let geometry ← ((← element.get "geometry").or (.arr [])).iter
  if geometry.length < 2 then return none
  let id ← element.get "id"
  let tags ← ((← element.get "tags").or (.obj [])).items
  let coordinates ← geometry.mapM exportPoint
  return some (.obj [("type", .str "Feature"), ("id", .str (lib.str id)),
    ("properties", .obj (tags.map fun tag => (tag.1, .str (lib.str tag.2)))),
    ("geometry", .obj [("type", .str "LineString"), ("coordinates", .arr coordinates)])])

def toGeojson (lib : JsonLib) (payload : Json) : Except ShapeError Json := do
  let elements ← match payload with
    | .obj entries => ((entries.lookup "elements").getD (.arr [])).iter
    | _ => .error .attributeError
  let features ← elements.mapM (exportElement lib)
  return .obj [("type", .str "FeatureCollection"), ("features", .arr features.reduceOption)]

/-- What `build_road_network` writes to its output file. -/
def roadFile (lib : JsonLib) (payload : Json) : Except ShapeError (List Char) := do
  let collection ← toGeojson lib payload
  return JsonText.write {} collection

/-- How reading a road network file fails. -/
inductive RoadFileError where
  | features (error : FeatureError)
  | shape (error : ShapeError)

section
variable {K : Type} [Field K] [LinearOrder K] [IsStrictOrderedRing K] [FloorRing K] [MathLib K]

/-- The longitude and the latitude of a point of a line. -/
def loadPoint (float : String → K) (point : Json) : Except ShapeError (K × K) := do
  let lon ← point.index 0
  let lat ← point.index 1
  let lat ← lat.number float
  let lon ← lon.number float
  return (lon, lat)

/-- `str(feature.get("id") or tags.get("@id") or "") or None`. -/
def loadWayId (lib : JsonLib) (id : Json) (tags : Tags) : Option String :=
  let id := if id.truthy then lib.str id else (tags.lookup "@id").getD ""
  if id = "" then none else some id

/-- One round of the loop of `load_road_graph` over the features of the file. -/
def loadFeature (lib : JsonLib) (float : String → K) (profile : ModeProfile K)
    (graph : RoadGraph K) (feature : Json) : Except ShapeError (RoadGraph K) := do
  let geometry := (← feature.get "geometry").or (.obj [])
  match ← geometry.get "type" with
  | .str "LineString" =>
    let properties ← ((← feature.get "properties").or (.obj [])).items
    let tags : Tags := properties.map fun entry => (entry.1, lib.str entry.2)
    if (profile.passable tags).1 = false then return graph
    let coordinates := (← geometry.get "coordinates").or (.arr [])
    let points ← coordinates.iter
    if points.length < 2 then return graph
    let id ← feature.get "id"
    let first ← loadPoint float (← coordinates.index 0)
    let points ← (points.drop 1).mapM (loadPoint float)
    let (graph, _) := points.foldl (addPoint (loadWayId lib id tags) tags)
      (graph, nodeId first.1 first.2)
    return { graph with wayCount := graph.wayCount + 1 }
  | _ => return graph

/-- The graph that `load_road_graph` makes of the file before it is contracted. -/
def fileGraph (lib : JsonLib) (float : String → K) (source : String) (profile : ModeProfile K)
    (file : List Char) : Except RoadFileError (RoadGraph K) :=
  let features := iterFeatures lib file
  match features.items.foldlM (loadFeature lib float profile) { source := source } with
  | .error error => .error (.shape error)
  | .ok graph => match features.error with
    | some error => .error (.features error)
    | none => .ok graph

end

/-- A way as Overpass describes it: the tags of a way differ in their names, and its coordinates
are numbers of JSON, the longitude first here. -/
structure OverpassWay (number : List Char → Option JsonText.Number) where
  id : Json
  tags : JsonObject
  geometry : List (JsonText.Number × JsonText.Number)
  tags_nodup : (tags.map (·.1)).Nodup
  writable : ∀ point ∈ geometry,
    JsonText.Writable number point.1.toJson ∧ JsonText.Writable number point.2.toJson

section
variable {number : List Char → Option JsonText.Number}

/-- The object is that of the point. -/
def IsPoint (p : Json) (point : JsonText.Number × JsonText.Number) : Prop :=
  ∃ entries, p = .obj entries ∧ entries.lookup "lon" = some point.1.toJson ∧
    entries.lookup "lat" = some point.2.toJson

/-- The element is that of the way. One without geometry or tags has none of them. -/
def IsElement (element : Json) (way : OverpassWay number) : Prop :=
  ∃ (entries : JsonObject) (points : List Json), element = .obj entries ∧
    entries.get "id" = way.id ∧ (entries.get "tags").or (.obj []) = .obj way.tags ∧
    (entries.get "geometry").or (.arr []) = .arr points ∧ List.Forall₂ IsPoint points way.geometry

/-- The payload is Overpass' answer with the ways. -/
def IsAnswer (payload : Json) (ways : List (OverpassWay number)) : Prop :=
  ∃ entries elements, payload = .obj entries ∧ entries.lookup "elements" = some (.arr elements) ∧
    List.Forall₂ IsElement elements ways

/-- What number a coordinate is. -/
def coordinate {K : Type} [IntCast K] (float : String → K) : JsonText.Number → K
  | .int value => value
  | .float text => float text

namespace OverpassWay

/-- The way is drawn: it has a first and a last point. -/
def Drawn (way : OverpassWay number) : Prop := 2 ≤ way.geometry.length

instance (way : OverpassWay number) : Decidable way.Drawn :=
  inferInstanceAs (Decidable (2 ≤ way.geometry.length))

/-- The way with the texts of its id and its tags, which is all that the roads need. -/
def feature {K : Type} [IntCast K] (lib : JsonLib) (float : String → K)
    (way : OverpassWay number) : Feature K where
  geometryType := some "LineString"
  coordinates := way.geometry.map fun point => (coordinate float point.1, coordinate float point.2)
  properties := way.tags.map fun tag => (tag.1, lib.str tag.2)
  featureId := some (lib.str way.id)

def coordinates (way : OverpassWay number) : List Json :=
  way.geometry.map fun point => .arr [point.1.toJson, point.2.toJson]

def lineString (way : OverpassWay number) : JsonObject :=
  [("type", .str "LineString"), ("coordinates", .arr way.coordinates)]

/-- The entries of the feature that the file has of the way. -/
def entries (lib : JsonLib) (way : OverpassWay number) : JsonObject :=
  [("type", .str "Feature"), ("id", .str (lib.str way.id)),
    ("properties", .obj (way.tags.map fun tag => (tag.1, .str (lib.str tag.2)))),
    ("geometry", .obj way.lineString)]

end OverpassWay

section
variable {lib : JsonLib} {payload element : Json} {way : OverpassWay number}
variable {ways : List (OverpassWay number)} {points : List Json}

theorem exportPoints (h : List.Forall₂ IsPoint points way.geometry) :
    points.mapM exportPoint = .ok way.coordinates := by
  rw [OverpassWay.coordinates, mapM_eq_ok, List.forall₂_map_right_iff]
  apply h.imp
  rintro p point ⟨entries, rfl, hlon, hlat⟩
  simp [exportPoint, Json.entry, hlon, hlat]

theorem exportElement_way (h : IsElement element way) : exportElement lib element =
    .ok (if way.Drawn then some (.obj (way.entries lib)) else none) := by
  obtain ⟨entries, points, rfl, hid, htags, hgeometry, hpoints⟩ := h
  have hlength := hpoints.length_eq
  simp only [exportElement, Json.get, ok_bind, hgeometry, Json.iter, hlength]
  by_cases hdrawn : way.Drawn
  · rw [if_neg (Nat.not_lt.2 hdrawn), if_pos hdrawn]
    simp [Json.items, hid, htags, exportPoints hpoints, OverpassWay.entries, OverpassWay.lineString]
  · rw [if_pos (Nat.lt_of_not_ge hdrawn), if_neg hdrawn]
    rfl

/-- The collection of the ways that are drawn. -/
def collectionOf (lib : JsonLib) (ways : List (OverpassWay number)) : JsonObject :=
  [("type", .str "FeatureCollection"),
    ("features", .arr ((ways.filter (·.Drawn)).map fun way => .obj (way.entries lib)))]

theorem reduceOption_drawn (lib : JsonLib) (ways : List (OverpassWay number)) :
    (ways.map fun way =>
        if way.Drawn then some (Json.obj (way.entries lib)) else none).reduceOption =
      (ways.filter (·.Drawn)).map fun way => .obj (way.entries lib) := by
  induction ways with
  | nil => rfl
  | cons way ways ih =>
    by_cases hdrawn : way.Drawn
    · rw [List.map_cons, if_pos hdrawn, List.reduceOption_cons_of_some, ih,
        List.filter_cons_of_pos (by simpa using hdrawn), List.map_cons]
    · rw [List.map_cons, if_neg hdrawn, List.reduceOption_cons_of_none, ih,
        List.filter_cons_of_neg (by simpa using hdrawn)]

theorem toGeojson_answer (h : IsAnswer payload ways) :
    toGeojson lib payload = .ok (.obj (collectionOf lib ways)) := by
  obtain ⟨entries, elements, rfl, helements, hways⟩ := h
  have hfeatures : elements.mapM (exportElement lib) =
      .ok (ways.map fun way => if way.Drawn then some (.obj (way.entries lib)) else none) := by
    rw [mapM_eq_ok, List.forall₂_map_right_iff]
    exact hways.imp fun _ _ => exportElement_way
  simp [toGeojson, helements, Json.iter, hfeatures, reduceOption_drawn, collectionOf]

theorem writable_entries (lib : JsonLib) (way : OverpassWay number) :
    JsonText.Writable number (.obj (way.entries lib)) := by
  refine .obj (show ["type", "id", "properties", "geometry"].Nodup by decide) ?_
  have htags : JsonText.Writable number
      (.obj (way.tags.map fun tag => (tag.1, .str (lib.str tag.2)))) := by
    apply JsonText.Writable.obj
    · rw [List.map_map]
      exact way.tags_nodup
    · rw [List.forall_mem_map]
      intro tag _
      exact .str
  have hgeometry : JsonText.Writable number (.obj way.lineString) := by
    refine .obj (show ["type", "coordinates"].Nodup by decide) ?_
    simp only [OverpassWay.lineString, List.forall_mem_cons]
    refine ⟨.str, .arr ?_, List.forall_mem_nil _⟩
    rw [OverpassWay.coordinates, List.forall_mem_map]
    intro point hpoint
    apply JsonText.Writable.arr
    simp only [List.forall_mem_cons]
    exact ⟨(way.writable point hpoint).1, (way.writable point hpoint).2, List.forall_mem_nil _⟩
  simp only [OverpassWay.entries, List.forall_mem_cons]
  exact ⟨.str, .str, htags, hgeometry, List.forall_mem_nil _⟩

theorem writable_collection (lib : JsonLib) (ways : List (OverpassWay number)) :
    JsonText.Writable number (.obj (collectionOf lib ways)) := by
  refine .obj (show ["type", "features"].Nodup by decide) ?_
  simp only [collectionOf, List.forall_mem_cons]
  refine ⟨.str, .arr ?_, List.forall_mem_nil _⟩
  rw [List.forall_mem_map]
  intro way _
  exact writable_entries lib way

theorem looksLike_collection (lib : JsonLib) (ways : List (OverpassWay number)) :
    looksLikeCollection (JsonText.write {} (.obj (collectionOf lib ways))) = true := by
  obtain ⟨rest, hrest⟩ : ∃ rest, JsonText.write {} (.obj (collectionOf lib ways)) =
      "\x7b\"type\": \"FeatureCollection\"".toList ++ rest := ⟨_, rfl⟩
  have hinfix : "\"FeatureCollection\"".toList <:+:
      ("\x7b\"type\": \"FeatureCollection\"".toList ++ rest).take 400 := by
    rw [List.take_append]
    exact ⟨"\x7b\"type\": ".toList, _, rfl⟩
  rw [hrest, looksLikeCollection, decide_eq_true_iff]
  exact ⟨rfl, hinfix⟩

theorem iterFeatures_collectionOf (lib : JsonLib) {reader : JsonLib}
    (hints : JsonText.ReadsInts number) (hreads : ReadsJson number reader)
    (ways : List (OverpassWay number)) :
    iterFeatures reader (JsonText.write {} (.obj (collectionOf lib ways))) =
      ⟨(ways.filter (·.Drawn)).map fun way => .obj (way.entries lib), none⟩ := by
  have hwritable := writable_collection lib ways
  have htext := (JsonText.derives_write hints {} hwritable).isJsonText
  have hclear := JsonText.clear_write {} hwritable
  have hnewlines : universalNewlines (JsonText.write {} (.obj (collectionOf lib ways))) =
      JsonText.write {} (.obj (collectionOf lib ways)) :=
    JsonText.newlines_of_printable fun c hc => (hclear c hc).1
  have hfeatures : ((ways.filter (·.Drawn)).map fun way => way.entries lib).map Json.obj =
      (ways.filter (·.Drawn)).map fun way => .obj (way.entries lib) := by
    rw [List.map_map]
    rfl
  rw [← hfeatures]
  apply iterFeatures_collection hreads ⟨_, htext, rfl, by rw [hfeatures]; rfl⟩
  rw [hnewlines]
  exact looksLike_collection lib ways

end

section
variable {K : Type} [Field K] [LinearOrder K] [IsStrictOrderedRing K] [FloorRing K] [MathLib K]
variable {lib : JsonLib} {float : String → K} {profile : ModeProfile K}

theorem number_toJson (n : JsonText.Number) : n.toJson.number float = .ok (coordinate float n) := by
  cases n with
  | int value => rfl
  | float text => rfl

theorem loadPoint_toJson (point : JsonText.Number × JsonText.Number) :
    loadPoint float (.arr [point.1.toJson, point.2.toJson]) =
      .ok (coordinate float point.1, coordinate float point.2) := by
  simp [loadPoint, Json.index, number_toJson]

theorem loadPoints_toJson (points : List (JsonText.Number × JsonText.Number)) :
    (points.map fun point => .arr [point.1.toJson, point.2.toJson]).mapM (loadPoint float) =
      .ok (points.map fun point => (coordinate float point.1, coordinate float point.2)) := by
  rw [mapM_eq_ok, List.forall₂_map_left_iff, List.forall₂_map_right_iff, List.forall₂_same]
  intro point _
  exact loadPoint_toJson point

theorem obj_or (entries : JsonObject) : (Json.obj entries).or (.obj []) = .obj entries := by
  cases entries <;> rfl

theorem arr_or (values : List Json) : (Json.arr values).or (.arr []) = .arr values := by
  cases values <;> rfl

theorem loadWayId_text (lib : JsonLib) (id : String) (f : Feature K) (h : f.featureId = some id) :
    loadWayId lib (.str id) f.properties = f.wayId := by
  rw [Feature.wayId, h, loadWayId]
  by_cases hid : id = ""
  · cases htag : f.properties.lookup "@id" with
    | none =>
      rw [hid]
      rfl
    | some tag => by_cases htag' : tag = "" <;> simp [hid, htag', Json.truthy, Option.filter]
  · simp [hid, Json.truthy, JsonLib.str, Option.filter]

theorem loadFeature_entries (graph : RoadGraph K) (way : OverpassWay number) :
    loadFeature lib float profile graph (.obj (way.entries lib)) =
      .ok (addFeature profile graph (way.feature lib float)) := by
  have hid := loadWayId_text lib (lib.str way.id) (way.feature lib float) rfl
  have htags : (way.tags.map fun tag => (tag.1, Json.str (lib.str tag.2))).map
      (fun entry => (entry.1, lib.str entry.2)) = (way.feature lib float).properties := by
    rw [List.map_map]
    rfl
  have hgeometry : (Json.obj (way.entries lib)).get "geometry" = .ok (.obj way.lineString) := rfl
  have hproperties : (Json.obj (way.entries lib)).get "properties" =
      .ok (.obj (way.tags.map fun tag => (tag.1, .str (lib.str tag.2)))) := rfl
  have hget : (Json.obj (way.entries lib)).get "id" = .ok (.str (lib.str way.id)) := rfl
  have htype : (Json.obj way.lineString).get "type" = .ok (.str "LineString") := rfl
  have hcoordinates : (Json.obj way.lineString).get "coordinates" =
      .ok (.arr way.coordinates) := rfl
  simp only [loadFeature, hgeometry, hproperties, hget, htype, hcoordinates, ok_bind, obj_or,
    arr_or, Json.items, Json.iter, htags, hid]
  have hline : ¬ (way.feature lib float).geometryType ≠ some "LineString" := fun h => h rfl
  rw [addFeature, if_neg hline]
  by_cases hpassable : (profile.passable (way.feature lib float).properties).1 = false
  · rw [if_pos hpassable, if_pos hpassable]
    rfl
  · rw [if_neg hpassable, if_neg hpassable]
    obtain hnil | ⟨first, hone | ⟨second, rest, hmore⟩⟩ : way.geometry = [] ∨ ∃ first,
        way.geometry = [first] ∨ ∃ second rest, way.geometry = first :: second :: rest := by
      rcases way.geometry with _ | ⟨first, _ | ⟨second, rest⟩⟩ <;> simp
    · simp [OverpassWay.coordinates, OverpassWay.feature, hnil]
    · simp [OverpassWay.coordinates, OverpassWay.feature, hone]
    · have hfirst : (Json.arr way.coordinates).index 0 =
          .ok (.arr [first.1.toJson, first.2.toJson]) := by
        rw [OverpassWay.coordinates, hmore]
        rfl
      have hlength : ¬ way.coordinates.length < 2 := by simp [OverpassWay.coordinates, hmore]
      have hdrop : (way.coordinates.drop 1).mapM (loadPoint float) = .ok ((second :: rest).map
          fun point => (coordinate float point.1, coordinate float point.2)) := by
        rw [OverpassWay.coordinates, hmore]
        exact loadPoints_toJson _
      have hfeature : (way.feature lib float).coordinates = (first :: second :: rest).map
          fun point => (coordinate float point.1, coordinate float point.2) := by
        rw [OverpassWay.feature, hmore]
      rw [if_neg hlength, hfirst, ok_bind, loadPoint_toJson, ok_bind, hdrop, ok_bind, hfeature]
      rfl

theorem addFeature_not_drawn {way : OverpassWay number} (graph : RoadGraph K) (h : ¬ way.Drawn) :
    addFeature profile graph (way.feature lib float) = graph := by
  have hlength : (way.feature lib float).coordinates.length < 2 := by
    rw [OverpassWay.feature, List.length_map]
    exact Nat.lt_of_not_ge h
  unfold addFeature
  split
  · rfl
  · split
    · rfl
    · split
      · next hpoints =>
        rw [hpoints, List.length_cons, List.length_cons] at hlength
        omega
      · rfl

theorem loadFeatures_entries (graph : RoadGraph K) (ways : List (OverpassWay number)) :
    ((ways.filter (·.Drawn)).map fun way => Json.obj (way.entries lib)).foldlM
        (loadFeature lib float profile) graph =
      .ok ((ways.map fun way => way.feature lib float).foldl (addFeature profile) graph) := by
  induction ways generalizing graph with
  | nil => rfl
  | cons way ways ih =>
    rw [List.map_cons, List.foldl_cons]
    by_cases hdrawn : way.Drawn
    · rw [List.filter_cons_of_pos (by simpa using hdrawn), List.map_cons, List.foldlM_cons,
        loadFeature_entries, ok_bind]
      exact ih _
    · rw [List.filter_cons_of_neg (by simpa using hdrawn), addFeature_not_drawn graph hdrawn]
      exact ih graph

end

/-- The file that `build_road_network` writes of Overpass' answer holds the ways that are drawn, and
its roads are those of the ways themselves, with their ids, their tags and their points. -/
theorem fileGraph_roadFile {K : Type} [Field K] [LinearOrder K] [IsStrictOrderedRing K]
    [FloorRing K] [MathLib K] {lib : JsonLib} (hints : JsonText.ReadsInts number)
    (hreads : ReadsJson number lib) (float : String → K) (source : String)
    (profile : ModeProfile K) {payload : Json} {ways : List (OverpassWay number)}
    (h : IsAnswer payload ways) :
    ∃ file, roadFile lib payload = .ok file ∧
      iterFeatures lib file =
        ⟨(ways.filter (·.Drawn)).map fun way => .obj (way.entries lib), none⟩ ∧
      fileGraph lib float source profile file =
        .ok (rawGraph source profile (ways.map fun way => way.feature lib float)) := by
  have hiter := iterFeatures_collectionOf lib hints hreads ways
  refine ⟨_, by rw [roadFile, toGeojson_answer h, ok_bind]; rfl, hiter, ?_⟩
  rw [fileGraph, hiter]
  dsimp only
  rw [loadFeatures_entries]
  rfl

end

/-- Overpass' answer with a road of two points, and with a way that has one point. -/
def roadAnswer : Json :=
  .obj [("version", .float "0.6"), ("elements", .arr [
    .obj [("type", .str "way"), ("id", .int 7),
      ("geometry", .arr [.obj [("lat", .int 36), ("lon", .int 129)],
        .obj [("lat", .float "37.0"), ("lon", .float "129.0")]]),
      ("tags", .obj [("highway", .str "residential"), ("lanes", .int 2)])],
    .obj [("id", .int 8), ("geometry", .arr [.obj [("lat", .int 36), ("lon", .int 129)]])]])]

theorem writable_point {lat lon : JsonText.Number}
    (hlon : JsonText.Writable number lon.toJson) (hlat : JsonText.Writable number lat.toJson)
    {points : List (JsonText.Number × JsonText.Number)}
    (h : ∀ point ∈ points,
      JsonText.Writable number point.1.toJson ∧ JsonText.Writable number point.2.toJson) :
    ∀ point ∈ (lon, lat) :: points,
      JsonText.Writable number point.1.toJson ∧ JsonText.Writable number point.2.toJson :=
  List.forall_mem_cons.2 ⟨⟨hlon, hlat⟩, h⟩

theorem nodup_roadTags :
    ([("highway", Json.str "residential"), ("lanes", .int 2)].map (·.1)).Nodup := by
  decide

theorem nodup_noTags : (([] : JsonObject).map (·.1)).Nodup := List.nodup_nil

def answeredRoad : OverpassWay JsonText.wholeWord where
  id := .int 7
  tags := [("highway", .str "residential"), ("lanes", .int 2)]
  geometry := [(.int 129, .int 36), (.float "129.0", .float "37.0")]
  tags_nodup := nodup_roadTags
  writable := writable_point .int .int (writable_point (JsonText.writable_wholeText 129)
    (JsonText.writable_wholeText 37) (List.forall_mem_nil _))

def answeredPoint : OverpassWay JsonText.wholeWord where
  id := .int 8
  tags := []
  geometry := [(.int 129, .int 36)]
  tags_nodup := nodup_noTags
  writable := writable_point .int .int (List.forall_mem_nil _)

/-- The number that a text of a float is of. -/
noncomputable def floatNumber (text : String) : ℝ :=
  (((JsonText.wholeValue text).getD 0 : ℤ) : ℝ)

def wholeReader : JsonLib where
  loads := readerLoads JsonText.wholeWord
  dumps _ := ""
  repr _ := ""

theorem isAnswer_roadAnswer : IsAnswer roadAnswer [answeredRoad, answeredPoint] := by
  refine ⟨_, _, rfl, rfl, .cons ⟨_, _, rfl, rfl, rfl, rfl, ?_⟩
    (.cons ⟨_, _, rfl, rfl, rfl, rfl, ?_⟩ .nil)⟩
  · exact .cons ⟨_, rfl, rfl, rfl⟩ (.cons ⟨_, rfl, rfl, rfl⟩ .nil)
  · exact .cons ⟨_, rfl, rfl, rfl⟩ .nil

theorem fileGraph_roadFile_two :
    ∃ file, roadFile wholeReader roadAnswer = .ok file ∧
      fileGraph wholeReader floatNumber "roads.geojson" (profileFor .foot) file =
        .ok (rawGraph "roads.geojson" (profileFor .foot)
          [answeredRoad.feature wholeReader floatNumber,
            answeredPoint.feature wholeReader floatNumber]) := by
  have hreads := readsJson_reader (rfl : wholeReader.loads = _)
  obtain ⟨file, hfile, -, hgraph⟩ := fileGraph_roadFile JsonText.readsInts_wholeWord hreads
    floatNumber "roads.geojson" (profileFor .foot) isAnswer_roadAnswer
  exact ⟨file, hfile, hgraph⟩

end Salgil
