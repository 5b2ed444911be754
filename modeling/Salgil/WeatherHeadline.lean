import Salgil.Weather
import Mathlib.Data.Int.ConditionallyCompleteOrder
import Mathlib.Data.List.Perm.Basic
import Mathlib.Data.Set.Finite.Lemmas
import Mathlib.Data.Set.Finite.List

namespace Salgil
set_option autoImplicit true

namespace Weather
variable {F : Type} {lib : WeatherLib F} {records : List Record} {g g' : Gathered F} {r : Record}

/-- The number that a record has for a headline field. -/
def valueFor (lib : WeatherLib F) (field : HeadlineField) (r : Record) : Option F :=
  if ((kindOf lib r).bind fun kind => headlineKinds.lookup kind) = some field then
    (numeric lib r).toOption.join
  else none

/-- The times of the records that have a kind. -/
def asOfs (lib : WeatherLib F) (records : List Record) : List Moment :=
  records.filterMap fun r => if (kindOf lib r).isSome then r.asOf else none

def anyStale (lib : WeatherLib F) (records : List Record) : Bool :=
  records.any fun r => (kindOf lib r).isSome && r.stale

/-- A record without a kind is passed over; another one is read. -/
def Readable (lib : WeatherLib F) (r : Record) : Prop :=
  ∀ kind, kindOf lib r = some kind → ∃ reading, readingOf lib kind r = .ok reading

/-- The last of the moments, or none if there are none. -/
def Newest (moments : List Moment) : Option Moment → Prop
  | none => moments = []
  | some m => m ∈ moments ∧ ∀ m' ∈ moments, m'.at_ ≤ m.at_

def Uniform (moments : List Moment) : Prop :=
  ∀ m ∈ moments, ∀ m' ∈ moments, m.aware = m'.aware

/-- What has been gathered of the records. -/
structure Gathers (lib : WeatherLib F) (records : List Record) (g : Gathered F) : Prop where
  headline : ∀ field, g.headline field = (records.filterMap (valueFor lib field)).getLast?
  stale : g.stale = anyStale lib records
  observed : Newest (asOfs lib records) g.observed
  readable : ∀ r ∈ records, Readable lib r
  uniform : Uniform (asOfs lib records)

theorem Newest.later {moments : List Moment} {observed newest asOf : Option Moment}
    (h : Newest moments observed) (hlater : Weather.later observed asOf = .ok newest) :
    Newest (moments ++ asOf.toList) newest := by
  cases asOf with
  | none =>
    cases hlater
    simpa using h
  | some m =>
    cases observed with
    | none =>
      cases hlater
      rw [Newest] at h
      simp [h, Newest]
    | some old =>
      simp only [Weather.later] at hlater
      split at hlater
      · cases hlater
      cases hlater
      obtain ⟨hmem, hle⟩ := h
      by_cases hlt : old.at_ < m.at_
      · rw [if_pos hlt]
        refine ⟨by simp, fun m' hm' => ?_⟩
        rcases List.mem_append.1 hm' with hm' | hm'
        · exact (hle m' hm').trans hlt.le
        · rw [List.mem_singleton.1 hm']
      · rw [if_neg hlt]
        refine ⟨List.mem_append_left _ hmem, fun m' hm' => ?_⟩
        rcases List.mem_append.1 hm' with hm' | hm'
        · exact hle m' hm'
        · rw [List.mem_singleton.1 hm']
          exact not_lt.1 hlt

theorem Newest.uniform {moments : List Moment} {observed newest asOf : Option Moment}
    (h : Newest moments observed) (huniform : Uniform moments)
    (hlater : Weather.later observed asOf = .ok newest) : Uniform (moments ++ asOf.toList) := by
  cases asOf with
  | none => simpa using huniform
  | some m =>
    have hsame : ∀ old ∈ moments, old.aware = m.aware := by
      intro old hold
      cases observed with
      | none =>
        rw [Newest] at h
        simp [h] at hold
      | some newest' =>
        simp only [Weather.later] at hlater
        split at hlater
        · cases hlater
        next heq =>
        rw [huniform old hold newest' h.1]
        exact (not_not.1 heq).symm
    intro a ha b hb
    rw [List.mem_append, Option.toList_some, List.mem_singleton] at ha hb
    rcases ha with ha | rfl
    · rcases hb with hb | rfl
      · exact huniform a ha b hb
      · exact hsame a ha
    · rcases hb with hb | rfl
      · exact (hsame b hb).symm
      · rfl

theorem Newest.exists_later {moments : List Moment} {observed asOf : Option Moment}
    (h : Newest moments observed) (huniform : Uniform (moments ++ asOf.toList)) :
    ∃ newest, Weather.later observed asOf = .ok newest := by
  cases asOf with
  | none => exact ⟨observed, rfl⟩
  | some m =>
    cases observed with
    | none => exact ⟨some m, rfl⟩
    | some old =>
      have hsame : m.aware = old.aware :=
        huniform m (by simp) old (List.mem_append_left _ h.1)
      exact ⟨_, by rw [Weather.later, if_neg (not_not.2 hsame)]⟩

theorem Newest.unique {moments : List Moment} {a b : Option Moment} (huniform : Uniform moments)
    (ha : Newest moments a) (hb : Newest moments b) : a = b := by
  cases a with
  | none =>
    cases b with
    | none => rfl
    | some b =>
      rw [Newest] at ha
      simp [ha, Newest] at hb
  | some a =>
    cases b with
    | none =>
      rw [Newest] at hb
      simp [hb, Newest] at ha
    | some b =>
      obtain ⟨hamem, hale⟩ := ha
      obtain ⟨hbmem, hble⟩ := hb
      have hat : a.at_ = b.at_ := le_antisymm (hble a hamem) (hale b hbmem)
      have haware := huniform a hamem b hbmem
      cases a
      cases b
      simp_all

theorem Newest.perm {moments moments' : List Moment} {observed : Option Moment}
    (h : Newest moments observed) (hperm : moments.Perm moments') : Newest moments' observed := by
  cases observed with
  | none => exact List.perm_nil.1 (hperm.symm.trans (h ▸ List.Perm.refl _))
  | some m => exact ⟨hperm.mem_iff.1 h.1, fun m' hm' => h.2 m' (hperm.mem_iff.2 hm')⟩

theorem Gathers.nil (lib : WeatherLib F) : Gathers lib [] {} where
  headline _ := rfl
  stale := rfl
  observed := rfl
  readable := by simp
  uniform := by simp [Uniform, asOfs]

theorem filterMap_snoc (f : α → Option β) (l : List α) (a : α) :
    (l ++ [a]).filterMap f = l.filterMap f ++ (f a).toList := by
  rw [List.filterMap_append]
  cases h : f a with
  | none => simp [h]
  | some b => simp [h]

theorem asOfs_snoc (lib : WeatherLib F) (records : List Record) (r : Record) :
    asOfs lib (records ++ [r]) =
      asOfs lib records ++ (if (kindOf lib r).isSome then r.asOf else none).toList :=
  filterMap_snoc _ _ _

theorem anyStale_snoc (lib : WeatherLib F) (records : List Record) (r : Record) :
    anyStale lib (records ++ [r]) =
      (anyStale lib records || ((kindOf lib r).isSome && r.stale)) := by
  simp [anyStale]

theorem getLast?_filterMap_snoc (f : α → Option β) (l : List α) (a : α) :
    ((l ++ [a]).filterMap f).getLast? = (f a).or (l.filterMap f).getLast? := by
  rw [filterMap_snoc]
  cases f a with
  | none => simp
  | some b => simp

theorem readingOf_eq_ok {kind : String} {reading : WeatherReading F}
    (h : readingOf lib kind r = .ok reading) :
    reading.kind = kind ∧ numeric lib r = .ok reading.value ∧ reading.stale = r.stale := by
  obtain ⟨value, hvalue, h⟩ := bind_eq_ok.1 h
  obtain ⟨unit, -, h⟩ := bind_eq_ok.1 h
  obtain ⟨station, -, h⟩ := bind_eq_ok.1 h
  cases h
  exact ⟨rfl, hvalue, rfl⟩

theorem putForward_eq (headline : HeadlineField → Option F) {reading : WeatherReading F}
    {kind : String} (hkind : kindOf lib r = some kind) (hreading : reading.kind = kind)
    (hvalue : numeric lib r = .ok reading.value) (field : HeadlineField) :
    putForward headline reading field = (valueFor lib field r).or (headline field) := by
  rw [putForward, valueFor, hkind, hvalue, hreading, Option.bind_some, Except.toOption,
    Option.join_some]
  cases hlookup : headlineKinds.lookup kind with
  | none => simp
  | some f =>
    cases hv : reading.value with
    | none => simp
    | some v =>
      by_cases hf : field = f
      · subst hf
        simp
      · simp [hf, Ne.symm hf]

theorem Gathers.snoc (h : Gathers lib records g) (hstep : gather lib g r = .ok g') :
    Gathers lib (records ++ [r]) g' := by
  rw [gather] at hstep
  cases hkind : kindOf lib r with
  | none =>
    rw [hkind] at hstep
    cases hstep
    constructor
    · intro field
      rw [getLast?_filterMap_snoc, ← h.headline, valueFor, hkind]
      simp
    · rw [anyStale_snoc, hkind, h.stale]
      simp
    · rw [asOfs_snoc, hkind]
      simpa using h.observed
    · intro r' hr'
      rcases List.mem_append.1 hr' with hr' | hr'
      · exact h.readable r' hr'
      · rw [List.mem_singleton.1 hr', Readable, hkind]
        simp
    · rw [asOfs_snoc, hkind]
      simpa using h.uniform
  | some kind =>
    rw [hkind] at hstep
    obtain ⟨reading, hreading, hstep⟩ := bind_eq_ok.1 hstep
    obtain ⟨observed, hobserved, hstep⟩ := bind_eq_ok.1 hstep
    cases hstep
    obtain ⟨hreadingKind, hvalue, hstale⟩ := readingOf_eq_ok hreading
    constructor
    · intro field
      rw [getLast?_filterMap_snoc, ← h.headline]
      exact putForward_eq g.headline hkind hreadingKind hvalue field
    · rw [anyStale_snoc, hkind, ← h.stale]
      simp
    · rw [asOfs_snoc, hkind]
      exact h.observed.later hobserved
    · intro r' hr'
      rcases List.mem_append.1 hr' with hr' | hr'
      · exact h.readable r' hr'
      · rw [List.mem_singleton.1 hr']
        intro kind' hkind'
        rw [hkind] at hkind'
        cases hkind'
        exact ⟨reading, hreading⟩
    · rw [asOfs_snoc, hkind]
      exact h.observed.uniform h.uniform hobserved

theorem Gathers.exists_snoc (h : Gathers lib records g) (hread : Readable lib r)
    (huniform : Uniform (asOfs lib (records ++ [r]))) : ∃ g', gather lib g r = .ok g' := by
  rw [gather]
  cases hkind : kindOf lib r with
  | none => exact ⟨g, rfl⟩
  | some kind =>
    obtain ⟨reading, hreading⟩ := hread kind hkind
    rw [asOfs_snoc, hkind, Option.isSome_some, if_pos rfl] at huniform
    obtain ⟨observed, hobserved⟩ := h.observed.exists_later huniform
    dsimp only
    rw [hreading, ok_bind, hobserved, ok_bind]
    exact ⟨_, rfl⟩

theorem gathers_of_ok (h : records.foldlM (gather lib) {} = .ok g) : Gathers lib records g := by
  induction records using List.reverseRecOn generalizing g with
  | nil =>
    cases h
    exact .nil lib
  | append_singleton records r ih =>
    rw [List.foldlM_append] at h
    obtain ⟨before, hbefore, h⟩ := bind_eq_ok.1 h
    rw [List.foldlM_cons] at h
    obtain ⟨after, hafter, h⟩ := bind_eq_ok.1 h
    cases h
    exact (ih hbefore).snoc hafter

theorem exists_gathers (hread : ∀ r ∈ records, Readable lib r)
    (huniform : Uniform (asOfs lib records)) :
    ∃ g, records.foldlM (gather lib) {} = .ok g ∧ Gathers lib records g := by
  induction records using List.reverseRecOn with
  | nil => exact ⟨_, rfl, .nil lib⟩
  | append_singleton records r ih =>
    have hbefore : Uniform (asOfs lib records) := by
      intro m hm m' hm'
      rw [asOfs_snoc] at huniform
      exact huniform m (List.mem_append_left _ hm) m' (List.mem_append_left _ hm')
    obtain ⟨g, hg, hgathers⟩ := ih (fun r' hr' => hread r' (List.mem_append_left _ hr')) hbefore
    obtain ⟨g', hg'⟩ := hgathers.exists_snoc (hread r (by simp)) huniform
    refine ⟨g', ?_, hgathers.snoc hg'⟩
    rw [List.foldlM_append, hg, ok_bind, List.foldlM_cons, hg', ok_bind]
    rfl

/-- The record is an observation of the headline's kind, and its value is a number. -/
structure Observes (lib : WeatherLib F) (field : HeadlineField) (r : Record) (value : F) :
    Prop where
  value : valueFor lib field r = some value
  observed : r.isForecast = false

/-- The time of a record; a record without one comes before all others. -/
def Record.time (r : Record) : WithBot ℤ := r.asOf.map (·.at_)

/-- The value is that of an observation of the kind, and none of the kind is newer. -/
def Latest (lib : WeatherLib F) (records : List Record) (field : HeadlineField) (value : F) :
    Prop :=
  ∃ r ∈ records, Observes lib field r value ∧
    ∀ r' ∈ records, ∀ value', Observes lib field r' value' → r'.time ≤ r.time

/-- The headline is made of the latest observations, and the order of the records does not show. -/
structure LatestHeadline (lib : WeatherLib F) (region : ResolvedRegion) (envelope : Envelope)
    (now : Moment) (snapshot : WeatherSnapshot F) : Prop where
  value : ∀ field value, snapshot.headline field = some value →
    Latest lib envelope.records field value
  missing : ∀ field, snapshot.headline field = none →
    ∀ r ∈ envelope.records, ∀ value, ¬ Observes lib field r value
  order : ∀ records, records.Perm envelope.records → ∃ other,
    weather lib region { envelope with records := records } now = .ok other ∧
      other.headline = snapshot.headline ∧ other.observedAt = snapshot.observedAt ∧
      other.stale = snapshot.stale

/-- The numbers of one headline's kind are all the same, forecasts among them, and one of them is
observed. -/
structure Unanimous (lib : WeatherLib F) (records : List Record) : Prop where
  same : ∀ field, ∀ r ∈ records, ∀ r' ∈ records, ∀ value value',
    valueFor lib field r = some value → valueFor lib field r' = some value' → value = value'
  observed : ∀ field, ∀ r ∈ records, ∀ value, valueFor lib field r = some value →
    ∃ r' ∈ records, ∃ value', Observes lib field r' value'

variable {region : ResolvedRegion} {envelope : Envelope} {now : Moment}
variable {snapshot : WeatherSnapshot F}

theorem weather_eq_ok (h : weather lib region envelope now = .ok snapshot) :
    ∃ g, Gathers lib envelope.records g ∧ snapshot.headline = g.headline ∧
      snapshot.observedAt = g.observed ∧ snapshot.stale = g.stale := by
  obtain ⟨g, hg, h⟩ := bind_eq_ok.1 h
  cases h
  refine ⟨g, gathers_of_ok hg, ?_, rfl, rfl⟩
  funext field
  cases field <;> rfl

theorem exists_weather (hread : ∀ r ∈ envelope.records, Readable lib r)
    (huniform : Uniform (asOfs lib envelope.records)) :
    ∃ snapshot, weather lib region envelope now = .ok snapshot := by
  obtain ⟨g, hg, -⟩ := exists_gathers hread huniform
  rw [weather, hg, ok_bind]
  exact ⟨_, rfl⟩

/-- Whatever the order of the records, the weather can be read, and the times and the staleness
are the same. -/
theorem weather_perm (h : weather lib region envelope now = .ok snapshot) {records : List Record}
    (hperm : records.Perm envelope.records) : ∃ other g,
      weather lib region { envelope with records := records } now = .ok other ∧
      Gathers lib records g ∧ other.headline = g.headline ∧
      other.observedAt = snapshot.observedAt ∧ other.stale = snapshot.stale := by
  obtain ⟨g, hg, -, hobserved, hstale⟩ := weather_eq_ok h
  have hasOfs : (asOfs lib records).Perm (asOfs lib envelope.records) := hperm.filterMap _
  have huniform : Uniform (asOfs lib records) := fun m hm m' hm' =>
    hg.uniform m (hasOfs.mem_iff.1 hm) m' (hasOfs.mem_iff.1 hm')
  obtain ⟨other, hother⟩ :
      ∃ other, weather lib region { envelope with records := records } now = .ok other :=
    exists_weather (fun r hr => hg.readable r (hperm.mem_iff.1 hr)) huniform
  obtain ⟨g', hg', hheadline, hobserved', hstale'⟩ := weather_eq_ok hother
  refine ⟨other, g', hother, hg', hheadline, ?_, ?_⟩
  · rw [hobserved, hobserved']
    exact (hg'.observed).unique huniform (hg.observed.perm hasOfs.symm)
  · rw [hstale, hstale', hg.stale, hg'.stale]
    exact hperm.any_eq

theorem Gathers.mem_of_headline (h : Gathers lib records g) {field : HeadlineField} {value : F}
    (hvalue : g.headline field = some value) :
    ∃ r ∈ records, valueFor lib field r = some value := by
  rw [h.headline] at hvalue
  exact List.mem_filterMap.1 (List.mem_of_getLast? hvalue)

theorem Gathers.headline_ne_none (h : Gathers lib records g) {field : HeadlineField} {value : F}
    (hr : r ∈ records) (hvalue : valueFor lib field r = some value) : g.headline field ≠ none := by
  rw [h.headline, Ne, List.getLast?_eq_none_iff]
  exact List.ne_nil_of_mem (List.mem_filterMap.2 ⟨r, hr, hvalue⟩)

theorem Gathers.headline_last (h : Gathers lib (records ++ [r]) g) {field : HeadlineField}
    {value : F} (hvalue : valueFor lib field r = some value) : g.headline field = some value := by
  rw [h.headline, getLast?_filterMap_snoc, hvalue]
  rfl

/-- Any record can be put last, so its number is that of the headline. -/
theorem LatestHeadline.headline_eq (h : LatestHeadline lib region envelope now snapshot)
    (hr : r ∈ envelope.records) {field : HeadlineField} {value : F}
    (hvalue : valueFor lib field r = some value) : snapshot.headline field = some value := by
  obtain ⟨before, after, hsplit⟩ := List.append_of_mem hr
  have hperm : (before ++ after ++ [r]).Perm envelope.records := by
    rw [hsplit, List.append_assoc]
    exact (List.perm_append_singleton r after).append_left before
  obtain ⟨other, hother, hheadline, -, -⟩ := h.order _ hperm
  obtain ⟨g, hg, hg', -, -⟩ := weather_eq_ok hother
  rw [← hheadline, hg']
  exact hg.headline_last hvalue

theorem exists_latest {field : HeadlineField} {value : F} (hr : r ∈ records)
    (hobserves : Observes lib field r value) : ∃ value', Latest lib records field value' := by
  have hfinite : {r | r ∈ records ∧ ∃ value, Observes lib field r value}.Finite :=
    (List.finite_toSet records).subset fun r hr => hr.1
  obtain ⟨newest, ⟨hmem, value', hobserved⟩, hmax⟩ :=
    Set.exists_max_image _ Record.time hfinite ⟨r, hr, value, hobserves⟩
  exact ⟨value', newest, hmem, hobserved, fun r' hr' v hv => hmax r' ⟨hr', v, hv⟩⟩

/-- The headline is made of the latest observations, whatever the order of the records, if and
only if it makes no difference which record of a kind is taken. -/
theorem latestHeadline_iff (h : weather lib region envelope now = .ok snapshot) :
    LatestHeadline lib region envelope now snapshot ↔ Unanimous lib envelope.records := by
  obtain ⟨g, hg, hheadline, -, -⟩ := weather_eq_ok h
  constructor
  · intro hlatest
    constructor
    · intro field r hr r' hr' value value' hvalue hvalue'
      have hsome := hlatest.headline_eq hr hvalue
      rw [hlatest.headline_eq hr' hvalue'] at hsome
      exact (Option.some.inj hsome).symm
    · intro field r hr value hvalue
      obtain ⟨r', hr', hobserves, -⟩ := hlatest.value field value (hlatest.headline_eq hr hvalue)
      exact ⟨r', hr', value, hobserves⟩
  · intro hsame
    -- the headline of any order has the one value of its kind
    have hone : ∀ {records g'}, records.Perm envelope.records → Gathers lib records g' →
        g'.headline = g.headline := by
      intro records g' hperm hg'
      funext field
      cases hvalue : g.headline field with
      | none =>
        cases hvalue' : g'.headline field with
        | none => rfl
        | some value =>
          obtain ⟨r, hr, hr'⟩ := hg'.mem_of_headline hvalue'
          exact absurd hvalue (hg.headline_ne_none (hperm.mem_iff.1 hr) hr')
      | some value =>
        obtain ⟨r, hr, hr'⟩ := hg.mem_of_headline hvalue
        obtain ⟨value', hvalue'⟩ := Option.ne_none_iff_exists'.1
          (hg'.headline_ne_none (hperm.mem_iff.2 hr) hr')
        obtain ⟨r₁, hr₁, hr₁'⟩ := hg'.mem_of_headline hvalue'
        rw [hvalue', hsame.same field r₁ (hperm.mem_iff.1 hr₁) r hr value' value hr₁' hr']
    constructor
    · intro field value hvalue
      rw [hheadline] at hvalue
      obtain ⟨r, hr, hr'⟩ := hg.mem_of_headline hvalue
      obtain ⟨r', hr₁, value', hobserves⟩ := hsame.observed field r hr value hr'
      obtain ⟨latest, r₂, hr₂, hlatest, hmax⟩ := exists_latest hr₁ hobserves
      rw [hsame.same field r hr r₂ hr₂ value latest hr' hlatest.value]
      exact ⟨r₂, hr₂, hlatest, hmax⟩
    · intro field hnone r hr value hobserves
      rw [hheadline] at hnone
      exact hg.headline_ne_none hr hobserves.value hnone
    · intro records hperm
      obtain ⟨other, g', hother, hg', hheadline', hobserved, hstale⟩ := weather_perm h hperm
      exact ⟨other, hother, by rw [hheadline', hheadline, hone hperm hg'], hobserved, hstale⟩

/-- Whole numbers are read as they are. -/
def wholeNumbers : WeatherLib ℤ where
  json := { loads := fun _ => .ok .null, dumps := fun _ => "", repr := fun _ => "" }
  float := fun
    | .int value => .ok value
    | _ => .error .typeOrValue

/-- A temperature of the observation or the forecast for an hour. -/
def temperatureAt (hour : ℤ) (value : ℤ) (isForecast : Bool) : Record where
  payload := [("kind", .str "temperature"), ("value", .int value),
    ("is_forecast", .bool isForecast)]
  source := none
  freshness := some ⟨some "fresh", some ⟨true, hour⟩⟩

def todaysEnvelope (records : List Record) : Envelope := ⟨records, [], [], .data⟩

theorem valueFor_temperatureAt (field : HeadlineField) (hour value : ℤ) (isForecast : Bool) :
    valueFor wholeNumbers field (temperatureAt hour value isForecast) =
      if field = .temperatureC then some value else none := by
  cases field <;> rfl

theorem latestHeadline_repeated_value :
    ∃ snapshot, weather wholeNumbers ⟨true, none, none⟩
        (todaysEnvelope [temperatureAt 8 24 false, temperatureAt 9 24 true]) ⟨true, 9⟩ =
          .ok snapshot ∧
      LatestHeadline wholeNumbers ⟨true, none, none⟩
        (todaysEnvelope [temperatureAt 8 24 false, temperatureAt 9 24 true]) ⟨true, 9⟩
        snapshot := by
  have hall : ∀ r ∈ [temperatureAt 8 24 false, temperatureAt 9 24 true], ∀ field value,
      valueFor wholeNumbers field r = some value → field = .temperatureC ∧ value = 24 := by
    intro r hr field value hvalue
    rw [List.mem_pair] at hr
    rcases hr with rfl | rfl <;>
    · rw [valueFor_temperatureAt, ite_eq_iff] at hvalue
      simpa [eq_comm] using hvalue
  refine ⟨_, rfl, (latestHeadline_iff rfl).2 ⟨?_, ?_⟩⟩
  · intro field r hr r' hr' value value' hvalue hvalue'
    rw [(hall r hr field value hvalue).2, (hall r' hr' field value' hvalue').2]
  · intro field r hr value hvalue
    rw [(hall r hr field value hvalue).1]
    exact ⟨temperatureAt 8 24 false, List.mem_cons_self, 24, rfl, rfl⟩

/-- The forecast for the afternoon is put forward as the temperature of the morning. -/
theorem forecast_in_headline :
    ∃ snapshot, weather wholeNumbers ⟨true, none, none⟩
        (todaysEnvelope [temperatureAt 8 24 false, temperatureAt 15 31 true]) ⟨true, 9⟩ =
          .ok snapshot ∧ snapshot.temperatureC = some 31 ∧
      ¬ LatestHeadline wholeNumbers ⟨true, none, none⟩
        (todaysEnvelope [temperatureAt 8 24 false, temperatureAt 15 31 true]) ⟨true, 9⟩
          snapshot := by
  refine ⟨_, rfl, rfl, fun h => ?_⟩
  obtain ⟨r, hr, hobserves, -⟩ := h.value .temperatureC 31 rfl
  have hvalue := hobserves.value
  rcases List.mem_pair.1 hr with rfl | rfl
  · rw [valueFor_temperatureAt] at hvalue
    cases hvalue
  · cases hobserves.observed

end Weather

end Salgil
