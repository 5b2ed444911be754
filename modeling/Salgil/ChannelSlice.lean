import Salgil.DeclaredErrors
import Salgil.RowMajor
import Salgil.SpreadAgreement
import Mathlib.Data.List.Permutation

namespace Salgil
set_option autoImplicit true
set_option linter.unusedSectionVars false

/-- The axes of a tensor; the others have size one. -/
inductive Axis where
  | height
  | width
  | channel
  | unit
  deriving DecidableEq, Repr

/-- A tensor with one height axis, one width axis and one channel axis, in any order and with axes
of size one in any place. -/
structure ChannelTensor where
  height : ℕ
  width : ℕ
  channels : ℕ
  layout : List Axis
  many : 1 < channels
  layout_perm : (layout.filter (· ≠ .unit)).Perm [.height, .width, .channel]

namespace ChannelTensor

def size (t : ChannelTensor) : Axis → ℕ
  | .height => t.height
  | .width => t.width
  | .channel => t.channels
  | .unit => 1

def shape (t : ChannelTensor) : List ℕ := t.layout.map t.size

/-- The elements as the tensor lists them. -/
def elements (t : ChannelTensor) : List (Axis → ℕ) := cells t.size t.layout

/-- The elements row by row, those of one place together. -/
def byRows (t : ChannelTensor) : List (Axis → ℕ) := cells t.size [.height, .width, .channel]

/-- The elements with the channel, row by row. -/
def channelElements (t : ChannelTensor) (channel : ℤ) : List (Axis → ℕ) :=
  t.byRows.filter fun cell => (cell .channel : ℤ) = channel

/-- The axes that matter to the order of the elements. -/
def wide (axes : List Axis) (t : ChannelTensor) : List Axis := axes.filter (t.size · ≠ 1)

def payload {K : Type} (t : ChannelTensor) (name : String) (value : (Axis → ℕ) → K) :
    TensorPayload K := ⟨name, t.elements.map value⟩

/-- The channel exists, and it is the only one that the step meets: the place is the only one, or
the step is the number of channels and the channels of a place are listed together, place by place
in the rows. -/
def Straight (t : ChannelTensor) (channel : ℤ) (count : ℕ) : Prop :=
  0 ≤ channel ∧ channel < t.channels ∧ (t.height * t.width = 1 ∨
    count = t.channels ∧ t.wide t.layout = t.wide [.height, .width, .channel])

variable {t : ChannelTensor} {channel : ℤ} {count k : ℕ}

theorem wide_perm (t : ChannelTensor) :
    (t.wide t.layout).Perm (t.wide [.height, .width, .channel]) := by
  have hunit : t.wide t.layout = t.wide (t.layout.filter (· ≠ .unit)) := by
    rw [wide, wide, List.filter_filter]
    apply List.filter_congr
    intro a _
    cases a <;> simp [size]
  rw [hunit]
  exact t.layout_perm.filter _

theorem length_elements (t : ChannelTensor) : t.elements.length = t.shape.prod :=
  length_cells _ _

theorem length_byRows (t : ChannelTensor) :
    t.byRows.length = t.height * t.width * t.channels := by
  rw [byRows, length_cells]
  simp [volume, size, mul_assoc]

theorem shape_prod (t : ChannelTensor) : t.shape.prod = t.height * t.width * t.channels := by
  have hperm := (t.wide_perm.map t.size).prod_eq
  rw [← length_elements, elements, ← cells_filter, length_cells, ← length_byRows, byRows,
    ← cells_filter, length_cells]
  exact hperm

theorem elements_eq (h : t.wide t.layout = t.wide [.height, .width, .channel]) :
    t.elements = t.byRows := by
  rw [elements, byRows, ← cells_filter, ← cells_filter t.size [.height, .width, .channel]]
  exact congrArg _ h

theorem elements_place {cell : Axis → ℕ} {n : ℕ} (h : t.elements[n]? = some cell) :
    place t.size (t.wide t.layout) cell = n := by
  have hnodup : (t.wide t.layout).Nodup :=
    t.wide_perm.nodup_iff.2 (List.Nodup.filter _ (by decide))
  apply place_of_getElem? hnodup
  rw [wide, cells_filter]
  exact h

theorem byRows_place {cell : Axis → ℕ} {n : ℕ} (h : t.byRows[n]? = some cell) :
    n = (cell .height * t.width + cell .width) * t.channels + cell .channel ∧
      cell .width < t.width ∧ cell .channel < t.channels := by
  have hplace := place_of_getElem? (by decide) h
  have hmem := List.mem_of_getElem? h
  refine ⟨?_, lt_size_of_mem_cells hmem (a := .width) (by decide),
    lt_size_of_mem_cells hmem (a := .channel) (by decide)⟩
  rw [← hplace]
  simp [place, volume, size]
  ring

/-- The channel is what comes at its own index and every so many elements after it. -/
theorem channelElements_eq (hk : k < t.channels) :
    t.channelElements k = everyNth t.channels t.byRows k := by
  have hpos : 0 < t.channels := (Nat.zero_le k).trans_lt hk
  rw [channelElements, eq_comm]
  apply everyNth_eq_filter hpos
  intro j cell hcell
  obtain ⟨rfl, -, hchannel⟩ := byRows_place hcell
  rw [decide_eq_true_eq, Nat.cast_inj]
  constructor
  · rintro rfl
    exact ⟨Nat.le_add_left _ _, by simp⟩
  · intro ⟨hle, hdvd⟩
    have hmod := (Nat.modEq_iff_dvd' hle).2 hdvd
    rw [Nat.ModEq, Nat.mod_eq_of_lt hk, Nat.mul_add_mod', Nat.mod_eq_of_lt hchannel] at hmod
    exact hmod.symm

theorem channelElements_bounds (h : t.channelElements channel ≠ []) :
    0 ≤ channel ∧ channel < t.channels := by
  obtain ⟨cell, hcell⟩ := List.exists_mem_of_ne_nil _ h
  obtain ⟨hmem, hchannel⟩ := List.mem_filter.1 hcell
  have hlt := lt_size_of_mem_cells hmem (a := .channel) (by decide)
  rw [decide_eq_true_eq] at hchannel
  rw [← hchannel]
  exact ⟨Int.natCast_nonneg _, Int.ofNat_lt.2 hlt⟩

theorem pickChannel_natCast (values : List α) (k : ℕ) (hcount : 1 < count) :
    pickChannel values (some (k : ℤ)) count = everyNth count values k := by
  have hfirst : ¬ (k : ℤ) < 0 := by omega
  simp only [pickChannel, hcount, if_true, pySliceStep, hfirst, if_false, Int.toNat_natCast]

theorem one_lt_count (hplaces : t.height * t.width ≠ 0)
    (hlength : (pickChannel t.elements (some channel) count).length = t.height * t.width) :
    1 < count := by
  by_contra hcount
  have hall : pickChannel t.elements (some channel) count = t.elements := if_neg hcount
  rw [hall, length_elements, shape_prod] at hlength
  have hmany := t.many
  have hone : t.channels = 1 := Nat.eq_of_mul_eq_mul_left (Nat.pos_of_ne_zero hplaces) (by omega)
  omega

theorem wide_of_one (hone : t.height * t.width = 1) :
    t.wide t.layout = t.wide [.height, .width, .channel] := by
  have hheight : t.height = 1 := Nat.dvd_one.1 ⟨_, hone.symm⟩
  have hwidth : t.width = 1 := Nat.dvd_one.1 ⟨_, (Nat.mul_comm _ _).trans hone |>.symm⟩
  have hchannels : t.channels ≠ 1 := t.many.ne'
  have hwide : t.wide [.height, .width, .channel] = [.channel] := by
    simp [wide, size, hheight, hwidth, hchannels]
  have hperm := t.wide_perm
  rw [hwide] at hperm ⊢
  exact List.perm_singleton.1 hperm

theorem Straight.taken (h : t.Straight channel count)
    (hlength : (pickChannel t.elements (some channel) count).length = t.height * t.width) :
    pickChannel t.elements (some channel) count = t.channelElements channel := by
  obtain ⟨hchannel, hlt, hcase⟩ := h
  obtain ⟨k, rfl⟩ := Int.eq_ofNat_of_zero_le hchannel
  have hk : k < t.channels := by exact_mod_cast hlt
  rw [channelElements_eq hk]
  rcases hcase with hone | ⟨rfl, horder⟩
  · have hcount := one_lt_count (by omega) hlength
    rw [pickChannel_natCast _ _ hcount, elements_eq (wide_of_one hone)] at hlength ⊢
    apply List.ext_getElem?
    intro n
    cases n with
    | zero => rw [everyNth_getElem? (by omega), everyNth_getElem? (by omega), zero_mul, zero_mul]
    | succ n =>
      -- the channel has one element only, and so has what is taken
      have hpast : t.byRows.length ≤ k + (n + 1) * t.channels := by
        rw [length_byRows, hone, Nat.add_mul]
        omega
      rw [List.getElem?_eq_none (by omega), everyNth_getElem? (by omega),
        List.getElem?_eq_none hpast]
  · rw [pickChannel_natCast _ _ t.many, elements_eq horder]

theorem digits_inj {a b c d n : ℕ} (h : a * n + c = b * n + d) (hc : c < n) (hd : d < n) :
    a = b ∧ c = d := by
  have hmod := congrArg (· % n) h
  simp only [Nat.mul_add_mod', Nat.mod_eq_of_lt hc, Nat.mod_eq_of_lt hd] at hmod
  subst hmod
  exact ⟨Nat.eq_of_mul_eq_mul_right (by omega) (Nat.add_right_cancel h), rfl⟩

theorem place_taken (hk : k < t.channels) (hcount : 1 < count)
    (h : everyNth count t.elements k = t.channelElements k) {i j : ℕ} (hi : i < t.height)
    (hj : j < t.width) : ∃ cell : Axis → ℕ, cell .height = i ∧ cell .width = j ∧
      cell .channel = k ∧ place t.size (t.wide t.layout) cell = k + (i * t.width + j) * count := by
  have hindex : k + (i * t.width + j) * t.channels < t.byRows.length := by
    have hplace : i * t.width + j + 1 ≤ t.height * t.width :=
      calc i * t.width + j + 1 ≤ i * t.width + t.width := Nat.add_le_add_left hj _
        _ = (i + 1) * t.width := (Nat.succ_mul i t.width).symm
        _ ≤ t.height * t.width := Nat.mul_le_mul_right t.width hi
    have hmul := Nat.mul_le_mul_right t.channels hplace
    rw [length_byRows]
    rw [Nat.add_mul] at hmul
    omega
  obtain ⟨cell, hcell⟩ : ∃ cell, t.byRows[k + (i * t.width + j) * t.channels]? = some cell :=
    ⟨_, List.getElem?_eq_getElem hindex⟩
  have hsame := congrArg (·[i * t.width + j]?) h
  simp only [channelElements_eq hk, everyNth_getElem? (Nat.zero_lt_of_lt hcount),
    everyNth_getElem? (Nat.zero_lt_of_lt hk)] at hsame
  obtain ⟨hrows, hwidth, hchannel⟩ := byRows_place hcell
  rw [Nat.add_comm] at hrows
  obtain ⟨hplace, hlast⟩ := digits_inj hrows hk hchannel
  obtain ⟨hrow, hcolumn⟩ := digits_inj hplace hj hwidth
  exact ⟨cell, hrow.symm, hcolumn.symm, hlast.symm, elements_place (hsame.trans hcell)⟩

theorem wide_of_taken (hk : k < t.channels) (hcount : 1 < count)
    (h : everyNth count t.elements k = t.channelElements k) (hheight : 1 < t.height)
    (hwidth : 1 < t.width) :
    count = t.channels ∧ t.wide t.layout = t.wide [.height, .width, .channel] := by
  have hmany := t.many
  have hwide : t.wide [.height, .width, .channel] = [.height, .width, .channel] := by
    simp [wide, size, hheight.ne', hwidth.ne', hmany.ne']
  have hmem := List.mem_permutations'.2 (hwide ▸ t.wide_perm)
  obtain ⟨first, hrow₀, hcol₀, hch₀, hfirst⟩ :=
    place_taken hk hcount h (i := 0) (j := 0) (by omega) (by omega)
  obtain ⟨right, hrow₁, hcol₁, hch₁, hright⟩ :=
    place_taken hk hcount h (i := 0) (j := 1) (by omega) hwidth
  obtain ⟨below, hrow₂, hcol₂, hch₂, hbelow⟩ :=
    place_taken hk hcount h (i := 1) (j := 0) hheight (by omega)
  rw [hwide]
  simp only [List.permutations', List.permutations'Aux, List.flatMap_cons, List.flatMap_nil,
    List.map_cons, List.map_nil, List.cons_append, List.nil_append, List.append_nil,
    List.mem_cons, List.not_mem_nil, or_false] at hmem
  have hbig : 1 < t.width * count := hcount.trans_le (Nat.le_mul_of_pos_left count (by omega))
  rcases hmem with horder | horder | horder | horder | horder | horder
  all_goals
    rw [horder] at hfirst hright hbelow ⊢
    simp only [place, volume, size, List.map_cons, List.map_nil, List.prod_cons, List.prod_nil,
      hrow₀, hcol₀, hch₀, hrow₁, hcol₁, hch₁, hrow₂, hcol₂, hch₂, zero_mul, one_mul, mul_one,
      zero_add, add_zero] at hfirst hright hbelow
  · exact ⟨by omega, rfl⟩
  · -- the columns before the rows: a step to the right is longer than one down
    have hright' : t.channels ≤ t.height * t.channels := Nat.le_mul_of_pos_left _ (by omega)
    have hbelow' : count < t.width * count :=
      lt_mul_of_one_lt_left (Nat.zero_lt_of_lt hcount) hwidth
    omega
  -- otherwise the innermost axis is not the channel's, and its elements are one apart
  · omega
  · omega
  · omega
  · omega

theorem wide_of_line {a : Axis} (hcount : 1 < count)
    (hwide : t.wide [.height, .width, .channel] = [a, .channel])
    {first next : Axis → ℕ} (hfirst : place t.size (t.wide t.layout) first = k)
    (hnext : place t.size (t.wide t.layout) next = k + count) (hfirst₀ : first a = 0)
    (hnext₁ : next a = 1) (hfirstk : first .channel = k) (hnextk : next .channel = k) :
    count = t.channels ∧ t.wide t.layout = t.wide [.height, .width, .channel] := by
  have hmem := List.mem_permutations'.2 (hwide ▸ t.wide_perm)
  rw [hwide]
  simp only [List.permutations', List.permutations'Aux, List.flatMap_cons, List.flatMap_nil,
    List.map_cons, List.map_nil, List.append_nil, List.mem_cons, List.not_mem_nil,
    or_false] at hmem
  rcases hmem with horder | horder
  all_goals
    rw [horder] at hfirst hnext ⊢
    simp only [place, volume, size, List.map_cons, List.map_nil, List.prod_cons, List.prod_nil,
      hfirst₀, hnext₁, hfirstk, hnextk, zero_mul, one_mul, mul_one, zero_add, add_zero]
      at hfirst hnext
  · exact ⟨by omega, rfl⟩
  · omega

/-- What is taken is the channel only where the channel is straight. -/
theorem straight_of_taken (hplaces : t.height * t.width ≠ 0)
    (hlength : (pickChannel t.elements (some channel) count).length = t.height * t.width)
    (h : pickChannel t.elements (some channel) count = t.channelElements channel) :
    t.Straight channel count := by
  have hcount := one_lt_count hplaces hlength
  have hmany := t.many
  have hsome : t.channelElements channel ≠ [] := by
    rw [← h, ← List.length_pos_iff, hlength]
    exact Nat.pos_of_ne_zero hplaces
  obtain ⟨hchannel, hlt⟩ := channelElements_bounds hsome
  obtain ⟨k, rfl⟩ := Int.eq_ofNat_of_zero_le hchannel
  have hk : k < t.channels := by exact_mod_cast hlt
  have hheight : 0 < t.height := Nat.pos_of_mul_pos_right (Nat.pos_of_ne_zero hplaces)
  have hwidth : 0 < t.width := Nat.pos_of_mul_pos_left (Nat.pos_of_ne_zero hplaces)
  rw [pickChannel_natCast _ _ hcount] at h
  refine ⟨hchannel, hlt, ?_⟩
  by_cases hrows : 1 < t.height
  · by_cases hcolumns : 1 < t.width
    · exact .inr (wide_of_taken hk hcount h hrows hcolumns)
    · obtain ⟨first, hrow₀, -, hch₀, hfirst⟩ :=
        place_taken hk hcount h (i := 0) (j := 0) hheight hwidth
      obtain ⟨below, hrow₁, -, hch₁, hbelow⟩ :=
        place_taken hk hcount h (i := 1) (j := 0) hrows hwidth
      have hone : t.width = 1 := by omega
      have hwide : t.wide [.height, .width, .channel] = [.height, .channel] := by
        simp [wide, size, hrows.ne', hone, hmany.ne']
      rw [hone] at hfirst hbelow
      exact .inr (wide_of_line hcount hwide (by omega) (by omega) hrow₀ hrow₁ hch₀ hch₁)
  · by_cases hcolumns : 1 < t.width
    · obtain ⟨first, -, hcol₀, hch₀, hfirst⟩ :=
        place_taken hk hcount h (i := 0) (j := 0) hheight hwidth
      obtain ⟨right, -, hcol₁, hch₁, hright⟩ :=
        place_taken hk hcount h (i := 0) (j := 1) hheight hcolumns
      have hone : t.height = 1 := by omega
      have hwide : t.wide [.height, .width, .channel] = [.width, .channel] := by
        simp [wide, size, hcolumns.ne', hone, hmany.ne']
      exact .inr (wide_of_line hcount hwide (by omega) (by omega) hcol₀ hcol₁ hch₀ hch₁)
    · exact .inl (by
        have hrow : t.height = 1 := by omega
        have hcolumn : t.width = 1 := by omega
        rw [hrow, hcolumn])

/-- The channel is taken if there are no places or it is straight, and not otherwise. -/
theorem taken_iff
    (hlength : (pickChannel t.elements (some channel) count).length = t.height * t.width) :
    pickChannel t.elements (some channel) count = t.channelElements channel ↔
      t.height * t.width = 0 ∨ t.Straight channel count := by
  by_cases hplaces : t.height * t.width = 0
  · refine iff_of_true ?_ (.inl hplaces)
    have hnone : t.byRows = [] := by
      rw [← List.length_eq_zero_iff, length_byRows, hplaces, zero_mul]
    rw [channelElements, hnone, List.filter_nil, ← List.length_eq_zero_iff, hlength, hplaces]
  · constructor
    · exact fun h => .inr (straight_of_taken hplaces hlength h)
    · intro h
      exact (h.resolve_left hplaces).taken hlength

end ChannelTensor

section
variable {K : Type} [Field K] [LinearOrder K] [IsStrictOrderedRing K] [FloorRing K] [MathLib K]

/-- The result with this tensor in front. -/
def PredictionResult.withTensor (base : PredictionResult K) (tensor : TensorPayload K)
    (rest : List (TensorPayload K)) : PredictionResult K := { base with outputs := tensor :: rest }

/-- What a request makes of a prediction of the tensor at the horizon, whatever its values are: the
slice that is built holds the elements of the channel and no other, row by row, or none is built,
and a warning says so. -/
def ChannelExtracted (base : PredictionResult K) (t : ChannelTensor) (name : String)
    (rest : List (TensorPayload K)) (hazard : String) (channel horizon : ℤ) : Prop :=
  ∀ (value : (Axis → ℕ) → K) (predict : Predictor K) (lat lon : K) (horizons : List ℤ)
    (regionCode : Option String) field accepted warnings,
    hazardField predict hazard lat lon horizons regionCode = .ok (field, accepted, warnings) →
    horizon ∈ horizons →
    (∀ recipe, recipeForHazard hazard = some recipe →
      answer predict recipe hazard regionCode (bboxAround lat lon predictionRadiusM) horizon =
        some (base.withTensor (t.payload name value) rest)) →
    (∃ built ∈ acceptedResults predict hazard lat lon horizons regionCode,
      built.1.horizonMinutes = horizon ∧ built.1.height = t.height ∧ built.1.width = t.width ∧
        built.1.values = toProbability name ((t.channelElements channel).map value)) ∨
    ((∀ built ∈ acceptedResults predict hazard lat lon horizons regionCode,
      built.1.horizonMinutes ≠ horizon) ∧ ∃ w ∈ warnings, w.Misses horizon)

variable {base : PredictionResult K} {t : ChannelTensor} {name hazard : String}
variable {rest : List (TensorPayload K)} {channel horizon : ℤ} {recipe : Recipe}

theorem probability_ne (tensor : TensorPayload K) :
    tensor.probability 51 ≠ tensor.probability (-51) := by
  unfold TensorPayload.probability sigmoid
  split
  · have hhigh : (50 : K) < 51 := by norm_num
    have hlow : ¬ (50 : K) < -51 := by norm_num
    have hfloor : (-51 : K) < -50 := by norm_num
    simp [hhigh, hlow, hfloor]
  · norm_num

theorem mem_acceptedResults {predict : Predictor K} {lat lon : K} {horizons : List ℤ}
    {regionCode : Option String} (hrecipe : recipeForHazard hazard = some recipe)
    (hmem : horizon ∈ horizons) {r : PredictionResult K}
    (hanswer : answer predict recipe hazard regionCode (bboxAround lat lon predictionRadiusM)
      horizon = some r) {built : HazardSlice K × PredictionResult K} :
    built ∈ acceptedResults predict hazard lat lon horizons regionCode ∧
        built.1.horizonMinutes = horizon ↔
      acceptedSlice hazard (bboxAround lat lon predictionRadiusM) horizon r = some built.1 ∧
        built.2 = r := by
  have hbuilt : ∀ h, acceptedAt predict recipe hazard regionCode
      (bboxAround lat lon predictionRadiusM) h = some built → built.1.horizonMinutes = h := by
    intro h hat
    obtain ⟨r', -, hr'⟩ := Option.bind_eq_some_iff.1 hat
    obtain ⟨slice, hslice, rfl⟩ := Option.map_eq_some_iff.1 hr'
    exact acceptedSlice_horizon hslice
  have hat : acceptedAt predict recipe hazard regionCode (bboxAround lat lon predictionRadiusM)
      horizon = (acceptedSlice hazard (bboxAround lat lon predictionRadiusM) horizon r).map
        fun slice => (slice, r) := by
    rw [acceptedAt, hanswer, Option.bind_some]
  simp only [acceptedResults, hrecipe, List.mem_filterMap]
  constructor
  · rintro ⟨⟨h, -, hsome⟩, hhorizon⟩
    obtain rfl : h = horizon := (hbuilt h hsome).symm.trans hhorizon
    rw [hat] at hsome
    obtain ⟨slice, hslice, rfl⟩ := Option.map_eq_some_iff.1 hsome
    exact ⟨hslice, rfl⟩
  · rintro ⟨hslice, hresult⟩
    have hsome := hat.trans (by rw [hslice, Option.map_some, ← hresult])
    exact ⟨⟨horizon, mem_sortedSet.2 hmem, hsome⟩, hbuilt horizon hsome⟩

theorem channelValues_payload (value : (Axis → ℕ) → K)
    (hchannel : hazardChannel hazard base = some channel) :
    (base.withTensor (t.payload name value) rest).channelValues hazard (t.payload name value) =
      (pickChannel t.elements (some channel) base.channelCount).map value := by
  rw [← pickChannel_map, ← hchannel]
  rfl

theorem acceptedSlice_payload (assumed : Bbox K) (value : (Axis → ℕ) → K) {grid : GridSpec K}
    (hgrid : base.grid = some grid) (hchannel : hazardChannel hazard base = some channel)
    {slice : HazardSlice K} :
    acceptedSlice hazard assumed horizon (base.withTensor (t.payload name value) rest) =
        some slice ↔
      ((grid.corners.isSome = true → grid.otherCrs = false) ∧
        ((pickChannel t.elements (some channel) base.channelCount).length : ℤ) =
          grid.height * grid.width) ∧
      slice = ⟨horizon, grid.height, grid.width, grid.corners.getD assumed, toProbability name
        ((pickChannel t.elements (some channel) base.channelCount).map value)⟩ := by
  have hvalues : (base.withTensor (t.payload name value) rest).channelValues hazard
      (t.payload name value) =
        (pickChannel t.elements (some channel) base.channelCount).map value :=
    channelValues_payload value hchannel
  have hgrid' : (base.withTensor (t.payload name value) rest).grid = some grid := hgrid
  rw [acceptedSlice_iff assumed horizon hgrid' rfl, hvalues, ← toProbability_eq]
  refine and_congr_left' ⟨fun h => ⟨h.wgs84, ?_⟩, fun h => ⟨h.1, ?_⟩⟩
  · rw [← h.length, hvalues, List.length_map]
  · rw [hvalues, List.length_map]
    exact h.2

theorem hazardField_constant (hrecipe : recipeForHazard hazard = some recipe)
    (hhorizon : 0 ≤ horizon ∧ horizon ≤ 72 * 60) (r : PredictionResult K) :
    ∃ out, hazardField (fun _ => .ok r) hazard 0 0 [horizon] none = .ok out := by
  have hsorted : sortedSet [horizon] = [horizon] := rfl
  obtain ⟨request, hrequest⟩ : ∃ request, predictionRequest recipe hazard none
      (bboxAround (0 : K) 0 predictionRadiusM) horizon = .ok request := ⟨_, dif_pos hhorizon⟩
  simp [hazardField, hrecipe, hsorted, readHorizon, hrequest]

theorem answer_constant (recipe : Recipe) (hazard : String)
    (hhorizon : 0 ≤ horizon ∧ horizon ≤ 72 * 60) (bbox : Bbox K) (r : PredictionResult K) :
    answer (fun _ => .ok r) recipe hazard none bbox horizon = some r := by
  obtain ⟨request, hrequest⟩ : ∃ request, predictionRequest recipe hazard none bbox horizon =
      .ok request := ⟨_, dif_pos hhorizon⟩
  rw [answer, hrequest, ok_bind]
  rfl

theorem ChannelExtracted.taken
    (h : ChannelExtracted base t name rest hazard channel horizon)
    (hrecipe : recipeForHazard hazard = some recipe) (hhorizon : 0 ≤ horizon ∧ horizon ≤ 72 * 60)
    (hchannel : hazardChannel hazard base = some channel) {grid : GridSpec K}
    (hgrid : base.grid = some grid) (hcrs : grid.corners.isSome = true → grid.otherCrs = false)
    (hlength : ((pickChannel t.elements (some channel) base.channelCount).length : ℤ) =
      grid.height * grid.width) (value : (Axis → ℕ) → K) :
    grid.height = t.height ∧ grid.width = t.width ∧
      toProbability name ((pickChannel t.elements (some channel) base.channelCount).map value) =
        toProbability name ((t.channelElements channel).map value) := by
  obtain ⟨⟨field, accepted, warnings⟩, hfield⟩ := hazardField_constant hrecipe hhorizon
    (base.withTensor (t.payload name value) rest)
  have hanswer := answer_constant recipe hazard hhorizon (bboxAround 0 0 predictionRadiusM)
    (base.withTensor (t.payload name value) rest)
  have hbuilt := @mem_acceptedResults K _ _ _ _ _ _ _ _ _ 0 0 _ _ hrecipe
    (List.mem_singleton_self horizon) _ hanswer
  have hslice := (@acceptedSlice_payload K _ _ _ _ _ _ t name _ rest _ horizon
    (bboxAround 0 0 predictionRadiusM) value grid hgrid hchannel _).2 ⟨⟨hcrs, hlength⟩, rfl⟩
  rcases h value _ 0 0 [horizon] none field accepted warnings hfield
    (List.mem_singleton_self horizon) (fun recipe' hrecipe' => by
      obtain rfl := Option.some.inj (hrecipe.symm.trans hrecipe')
      exact hanswer) with ⟨built, hmem, hat, hheight, hwidth, hvalues⟩ | ⟨hnone, -⟩
  · have hsame := (hbuilt.1 ⟨hmem, hat⟩).1
    rw [hslice, Option.some.injEq] at hsame
    rw [← hsame] at hheight hwidth hvalues
    exact ⟨hheight, hwidth, hvalues⟩
  · have hin := (@hbuilt (_, _)).2 ⟨hslice, rfl⟩
    exact absurd hin.2 (hnone _ hin.1)

/-- The channel is extracted from a tensor, if and only if a grid that is read is the tensor's own
and the channel is straight, or there are no places. -/
theorem channel_extracted_iff (hrecipe : recipeForHazard hazard = some recipe)
    (hhorizon : 0 ≤ horizon ∧ horizon ≤ 72 * 60)
    (hchannel : hazardChannel hazard base = some channel) :
    ChannelExtracted base t name rest hazard channel horizon ↔
      ∀ grid, base.grid = some grid → (grid.corners.isSome = true → grid.otherCrs = false) →
        ((pickChannel t.elements (some channel) base.channelCount).length : ℤ) =
          grid.height * grid.width →
        grid.height = t.height ∧ grid.width = t.width ∧
          (t.height * t.width = 0 ∨ t.Straight channel base.channelCount) := by
  constructor
  · intro h grid hgrid hcrs hlength
    have hread := h.taken hrecipe hhorizon hchannel hgrid hcrs hlength
    obtain ⟨hheight, hwidth, -⟩ := hread fun _ => 0
    refine ⟨hheight, hwidth, ?_⟩
    rw [hheight, hwidth] at hlength
    apply (t.taken_iff (by exact_mod_cast hlength)).1
    apply eq_of_map_eq (probability_ne (t.payload name fun _ => (0 : K)))
    intro value
    rw [← toProbability_eq, ← toProbability_eq]
    exact (hread value).2.2
  · intro h value predict lat lon horizons regionCode field accepted warnings hfield hmem hanswer
    have hbuilt := @mem_acceptedResults K _ _ _ _ _ _ _ _ predict lat lon horizons regionCode
      hrecipe hmem _ (hanswer recipe hrecipe)
    cases hslice : acceptedSlice hazard (bboxAround lat lon predictionRadiusM) horizon
        (base.withTensor (t.payload name value) rest) with
    | some slice =>
      obtain ⟨hin, hat⟩ := (@hbuilt (slice, _)).2 ⟨hslice, rfl⟩
      obtain ⟨_, _, grid, _, -, hgrid, -, -⟩ := acceptedSlice_eq_some hslice
      obtain ⟨⟨hcrs, hlength⟩, rfl⟩ := (acceptedSlice_payload _ value hgrid hchannel).1 hslice
      obtain ⟨hheight, hwidth, hcase⟩ := h grid hgrid hcrs hlength
      have htaken := (t.taken_iff (by rw [hheight, hwidth] at hlength; exact_mod_cast hlength)).2
        hcase
      exact .inl ⟨_, hin, hat, hheight, hwidth,
        congrArg (fun taken => toProbability name (taken.map value)) htaken⟩
    | none =>
      refine .inr ⟨fun built hin hat => ?_, ?_⟩
      · have hsome := (hbuilt.1 ⟨hin, hat⟩).1
        rw [hslice] at hsome
        cases hsome
      · refine hazardField_warns hfield hmem fun recipe' hrecipe' => ?_
        rw [acceptedAt, hanswer recipe' hrecipe', Option.bind_some, hslice, Option.map_none]

end

/-- A prediction of two hazards, without its tensor. -/
noncomputable def weatherResult : PredictionResult ℝ where
  predictionId := "p"
  recipe := .weatherExtremes
  model := { name := "weather_extremes" }
  grid := some ⟨2, 2, none, none⟩
  channels := [⟨0, some "heatwave"⟩, ⟨1, some "cold_wave"⟩]
  featureMode := .real

/-- The channels of a place come together. -/
def channelsLast : ChannelTensor where
  height := 2
  width := 2
  channels := 2
  layout := [.unit, .height, .width, .channel]
  many := by decide
  layout_perm := by decide

theorem channel_extracted_iff_last :
    ChannelExtracted weatherResult channelsLast "risk" [] "cold_wave" 1 30 := by
  have hrecipe : recipeForHazard "cold_wave" = some .weatherExtremes := rfl
  refine (channel_extracted_iff hrecipe (by decide) rfl).2 ?_
  intro grid hgrid _ _
  cases hgrid
  exact ⟨rfl, rfl, .inr ⟨by decide, by decide, .inr ⟨rfl, by decide⟩⟩⟩

/-- The places of a channel come together. -/
def channelsFirst : ChannelTensor where
  height := 2
  width := 2
  channels := 2
  layout := [.unit, .channel, .height, .width]
  many := by decide
  layout_perm := by decide

/-- Of channels that come one after the other every second element is taken: half of the heatwave
and half of the cold wave. -/
theorem channels_first_mixed :
    (pickChannel channelsFirst.elements (some 0) 2).map (· .channel) = [0, 0, 1, 1] ∧
    ¬ ChannelExtracted weatherResult channelsFirst "risk" [] "heatwave" 0 30 := by
  have htaken : (pickChannel channelsFirst.elements (some 0) 2).map (· .channel) =
      [0, 0, 1, 1] := by decide
  refine ⟨htaken, fun h => ?_⟩
  have hchannel : (channelsFirst.channelElements 0).map (· .channel) = [0, 0, 0, 0] := by decide
  have hlogits : ¬ ("risk" = "logits" ∨ "risk".endsWith "_logits") := by decide +kernel
  have hrecipe : recipeForHazard "heatwave" = some .weatherExtremes := rfl
  have hcount : weatherResult.channelCount = 2 := rfl
  have hsame := (h.taken hrecipe (by decide) rfl rfl nofun rfl
    fun cell => (cell .channel : ℝ)).2.2
  have hcast (l : List (Axis → ℕ)) : l.map (fun cell => (cell .channel : ℝ)) =
      (l.map (· .channel)).map Nat.cast := by rw [List.map_map]; rfl
  simp only [toProbability, hlogits, if_false, hcount, hcast, htaken, hchannel] at hsame
  simp at hsame

end Salgil
