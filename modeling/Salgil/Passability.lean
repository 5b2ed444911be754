import Salgil.LoadGraph

namespace Salgil
set_option autoImplicit true
set_option linter.unusedSectionVars false

/-- Every tag is known as in the other map, or not known. -/
def Tags.Within (tags other : Tags) : Prop :=
  ∀ key, tags.lookup key = none ∨ tags.lookup key = other.lookup key

/-- The other map knows one more tag. -/
structure Tags.Adds (tags other : Tags) (key value : String) : Prop where
  absent : tags.lookup key = none
  added : other.lookup key = some value
  rest : ∀ k, k ≠ key → other.lookup k = tags.lookup k

/-- None of the rules turns the way down. -/
structure ModeProfile.Admits (p : ModeProfile K) (tags : Tags) : Prop where
  highway : tags.clean "highway" ≠ ""
  grade : tags.clean "highway" ∈ p.grades
  access : ∀ tag ∈ p.accessTags, tags.clean tag ∉ blockingAccess
  unconditional : ∀ tag ∈ p.accessTags ++ ["maxweight", "maxheight", "width"],
    (tags.lookup (tag ++ ":conditional")).getD "" = ""
  extra : ∀ tag ∈ p.extraBlockedTags, tags.clean tag ∉ blockingAccess
  smoothness : tags.clean "smoothness" ∉ impassableSmoothness
  surface : p.strictSurface → tags.clean "surface" ∉ unreliableSurface
  ford : ¬ p.allowFord → tags.clean "ford" ∈ falsy

/-- An acceptance without a reason, or a refusal with one. -/
def Reasoned (verdict : Bool × Option String) : Prop :=
  verdict = (true, none) ∨ ∃ reason, reason ≠ "" ∧ verdict = (false, some reason)

section
variable {p : ModeProfile K} {tags other : Tags} {key value : String}

theorem Tags.Adds.within (h : tags.Adds other key value) : tags.Within other := by
  intro k
  by_cases hk : k = key
  · exact .inl (hk ▸ h.absent)
  · exact .inr (h.rest k hk).symm

theorem Tags.clean_of_absent (h : tags.lookup key = none) : tags.clean key = "" := by
  rw [clean, h, Option.getD_none]
  simp [pyLower, pyStrip]

theorem Tags.Within.clean (h : tags.Within other) (key : String) :
    tags.clean key = "" ∨ tags.clean key = other.clean key := by
  rcases h key with habsent | hsame
  · exact .inl (clean_of_absent habsent)
  · rw [Tags.clean, Tags.clean, hsame]
    exact .inr rfl

/-- What a rule accepts of the larger map and of the empty text it accepts of the smaller one. -/
theorem Tags.Within.keeps (accepts : String → Prop) (h : tags.Within other)
    (hempty : accepts "") (hother : accepts (other.clean key)) : accepts (tags.clean key) := by
  rcases h.clean key with heq | heq
  · rwa [heq]
  · rwa [heq]

theorem ModeProfile.passable_cases (p : ModeProfile K) (tags : Tags) :
    p.Admits tags ∧ p.passable tags = (true, none) ∨
      ¬ p.Admits tags ∧ ∃ reason, reason ≠ "" ∧ p.passable tags = (false, some reason) := by
  have hrefused : ∀ {reason}, ¬ p.Admits tags → reason ≠ "" →
      p.Admits tags ∧ (false, some reason) = (true, none) ∨
      ¬ p.Admits tags ∧ ∃ reason', reason' ≠ "" ∧ (false, some reason) = (false, some reason') :=
    fun hnot hreason => .inr ⟨hnot, _, hreason, rfl⟩
  simp only [passable]
  split
  · next h => exact hrefused (fun ha => ha.highway h) (by decide)
  next hhighway =>
  split
  · next h => exact hrefused (fun ha => h ha.grade) (by simp)
  next hgrade =>
  split
  · next tag hfind =>
    have hblocked : tags.clean tag ∈ blockingAccess := by simpa using List.find?_some hfind
    exact hrefused (fun ha => ha.access tag (List.mem_of_find?_eq_some hfind) hblocked) (by simp)
  next haccess =>
  split
  · next tag hfind =>
    have hset : (tags.lookup (tag ++ ":conditional")).getD "" ≠ "" := by
      simpa using List.find?_some hfind
    exact hrefused (fun ha => hset (ha.unconditional tag (List.mem_of_find?_eq_some hfind)))
      (by simp)
  next hconditional =>
  split
  · next tag hfind =>
    have hblocked : tags.clean tag ∈ blockingAccess := by simpa using List.find?_some hfind
    exact hrefused (fun ha => ha.extra tag (List.mem_of_find?_eq_some hfind) hblocked) (by simp)
  next hextra =>
  split
  · next h => exact hrefused (fun ha => ha.smoothness h) (by simp)
  next hsmoothness =>
  split
  · next h => exact hrefused (fun ha => ha.surface h.1 h.2) (by simp)
  next hsurface =>
  split
  · next h => exact hrefused (fun ha => h.2.2 (ha.ford h.1)) (by decide)
  next hford =>
  refine .inl ⟨⟨hhighway, not_not.1 hgrade, ?_, ?_, ?_, hsmoothness, ?_, ?_⟩, rfl⟩
  · exact fun tag htag => of_decide_eq_false (Bool.eq_false_of_not_eq_true
      (List.find?_eq_none.1 haccess tag htag))
  · intro tag htag
    simpa using List.find?_eq_none.1 hconditional tag htag
  · exact fun tag htag => of_decide_eq_false (Bool.eq_false_of_not_eq_true
      (List.find?_eq_none.1 hextra tag htag))
  · exact fun hstrict hbad => hsurface ⟨hstrict, hbad⟩
  · intro hnot
    by_contra hfalsy
    refine hford ⟨hnot, ?_, hfalsy⟩
    intro hempty
    exact hfalsy (hempty ▸ by decide)

theorem ModeProfile.passable_iff : (p.passable tags).1 = true ↔ p.Admits tags := by
  rcases p.passable_cases tags with ⟨ha, heq⟩ | ⟨hnot, reason, -, heq⟩
  · simp [heq, ha]
  · simp [heq, hnot]

theorem ModeProfile.passable_reasoned (p : ModeProfile K) (tags : Tags) :
    Reasoned (p.passable tags) := by
  rcases p.passable_cases tags with ⟨-, heq⟩ | ⟨-, hreason⟩
  · exact .inl heq
  · exact .inr hreason

/-- Every rule but the one about the grade accepts a tag that is not known. -/
theorem ModeProfile.Admits.of_within (h : p.Admits other) (hwithin : tags.Within other)
    (hhighway : tags.lookup "highway" = other.lookup "highway") : p.Admits tags := by
  have hclean : tags.clean "highway" = other.clean "highway" := by
    rw [Tags.clean, Tags.clean, hhighway]
  constructor
  · exact hclean ▸ h.highway
  · exact hclean ▸ h.grade
  · intro tag htag
    exact hwithin.keeps (· ∉ blockingAccess) (by decide) (h.access tag htag)
  · intro tag htag
    rcases hwithin (tag ++ ":conditional") with habsent | hsame
    · rw [habsent, Option.getD_none]
    · rw [hsame]
      exact h.unconditional tag htag
  · intro tag htag
    exact hwithin.keeps (· ∉ blockingAccess) (by decide) (h.extra tag htag)
  · exact hwithin.keeps (· ∉ impassableSmoothness) (by decide) h.smoothness
  · intro hstrict
    exact hwithin.keeps (· ∉ unreliableSurface) (by decide) (h.surface hstrict)
  · intro hnot
    exact hwithin.keeps (· ∈ falsy) (by decide) (h.ford hnot)

/-- Each rule of the other profile is one of this profile's too. -/
structure ModeProfile.Stricter (p q : ModeProfile K) : Prop where
  grades : p.grades ⊆ q.grades
  access : q.accessTags ⊆ p.accessTags
  extra : q.extraBlockedTags ⊆ p.extraBlockedTags
  surface : q.strictSurface → p.strictSurface
  ford : p.allowFord → q.allowFord

theorem ModeProfile.Stricter.admits {q : ModeProfile K} (hpq : p.Stricter q)
    (h : p.Admits tags) : q.Admits tags where
  highway := h.highway
  grade := hpq.grades h.grade
  access tag htag := h.access tag (hpq.access htag)
  unconditional tag htag := by
    apply h.unconditional tag
    rcases List.mem_append.1 htag with htag | htag
    · exact List.mem_append_left _ (hpq.access htag)
    · exact List.mem_append_right _ htag
  extra tag htag := h.extra tag (hpq.extra htag)
  smoothness := h.smoothness
  surface hstrict := h.surface (hpq.surface hstrict)
  ford hnot := h.ford fun hford => hnot (hpq.ford hford)

end

section
variable {K : Type u} [Field K] [LinearOrder K] [IsStrictOrderedRing K] [FloorRing K]

theorem assisted_stricter :
    (profileFor .assisted : ModeProfile K).Stricter (profileFor .foot) where
  grades := fun _ => List.mem_of_mem_filter
  access := by simp [profileFor]
  extra := List.Subset.refl _
  surface := by simp [profileFor]
  ford := id

/-- The other graph has every node, and every edge at least as often and in the same order. -/
structure RoadGraph.Subgraph (g g' : RoadGraph K) : Prop where
  nodes : ∀ n ∈ g.nodes.keys, n ∈ g'.nodes.keys
  edges : ∀ n, (g.neighbours n).Sublist (g'.neighbours n)

variable {g g' : RoadGraph K}

theorem RoadGraph.Subgraph.of_nodes {h h' : RoadGraph K} (hsub : g.Subgraph g')
    (hg : h.nodes = g.nodes) (hg' : h'.nodes = g'.nodes) : h.Subgraph h' := by
  constructor
  · rw [hg, hg']
    exact hsub.nodes
  · intro n
    rw [neighbours, neighbours, hg, hg']
    exact hsub.edges n

theorem RoadGraph.Subgraph.addSegment (h : g.Subgraph g') (a b : NodeId K) (lengthM : K)
    (wayId : Option String) (tags : Tags) :
    (g.addSegment a b lengthM wayId tags).Subgraph (g'.addSegment a b lengthM wayId tags) := by
  constructor
  · intro n hn
    rw [mem_keys_addSegment] at hn ⊢
    exact hn.imp_right (Or.imp_right (h.nodes n))
  · intro n
    rw [neighbours_addSegment, neighbours_addSegment]
    exact ((h.edges n).append (List.Sublist.refl _)).append (List.Sublist.refl _)

theorem RoadGraph.Subgraph.addSegment_right (h : g.Subgraph g') (a b : NodeId K) (lengthM : K)
    (wayId : Option String) (tags : Tags) :
    g.Subgraph (g'.addSegment a b lengthM wayId tags) := by
  constructor
  · intro n hn
    rw [mem_keys_addSegment]
    exact .inr (.inr (h.nodes n hn))
  · intro n
    rw [neighbours_addSegment, List.append_assoc]
    exact (h.edges n).trans (List.sublist_append_left _ _)

variable [MathLib K]

theorem RoadGraph.Subgraph.addPoints (h : g.Subgraph g') (wayId : Option String) (tags : Tags)
    (points : List (K × K)) (n : NodeId K) :
    (points.foldl (addPoint wayId tags) (g, n)).1.Subgraph
      (points.foldl (addPoint wayId tags) (g', n)).1 := by
  induction points generalizing g g' n with
  | nil => exact h
  | cons point points ih =>
    rw [List.foldl_cons, List.foldl_cons, addPoint, addPoint]
    dsimp only
    split
    · exact ih h n
    · exact ih (h.addSegment _ _ _ _ _) _

theorem RoadGraph.Subgraph.addPoints_right (h : g.Subgraph g') (wayId : Option String)
    (tags : Tags) (points : List (K × K)) (n : NodeId K) :
    g.Subgraph (points.foldl (addPoint wayId tags) (g', n)).1 := by
  induction points generalizing g' n with
  | nil => exact h
  | cons point points ih =>
    rw [List.foldl_cons, addPoint]
    dsimp only
    split
    · exact ih h n
    · exact ih (h.addSegment_right _ _ _ _ _) _

theorem RoadGraph.Subgraph.addFeature_right (h : g.Subgraph g') (q : ModeProfile K)
    (f : Feature K) : g.Subgraph (addFeature q g' f) := by
  rw [addFeature]
  split
  · exact h
  · split
    · exact h
    · split
      · exact (h.addPoints_right f.wayId f.properties _ _).of_nodes rfl rfl
      · exact h

theorem RoadGraph.Subgraph.addFeature {p q : ModeProfile K} (h : g.Subgraph g')
    (hpq : p.Stricter q) (f : Feature K) :
    (addFeature p g f).Subgraph (Salgil.addFeature q g' f) := by
  by_cases hgeometry : f.geometryType ≠ some "LineString"
  · rw [Salgil.addFeature, Salgil.addFeature, if_pos hgeometry, if_pos hgeometry]
    exact h
  · by_cases hp : (p.passable f.properties).1 = false
    · rw [Salgil.addFeature, if_neg hgeometry, if_pos hp]
      exact h.addFeature_right q f
    · have hq : (q.passable f.properties).1 = true :=
        ModeProfile.passable_iff.2 (hpq.admits (ModeProfile.passable_iff.1 (by simpa using hp)))
      rw [Salgil.addFeature, Salgil.addFeature, if_neg hgeometry, if_neg hgeometry, if_neg hp,
        if_neg (by simp [hq])]
      split
      · exact (h.addPoints f.wayId f.properties _ _).of_nodes rfl rfl
      · exact h

theorem rawGraph_subgraph {p q : ModeProfile K} (hpq : p.Stricter q) (source : String)
    (features : List (Feature K)) :
    (rawGraph source p features).Subgraph (rawGraph source q features) := by
  have hfold : ∀ g g' : RoadGraph K, g.Subgraph g' →
      (features.foldl (addFeature p) g).Subgraph (features.foldl (addFeature q) g') := by
    induction features with
    | nil => exact fun g g' h => h
    | cons f features ih => exact fun g g' h => ih _ _ (h.addFeature hpq f)
  exact hfold _ _ ⟨fun n hn => hn, fun n => List.Sublist.refl _⟩

/-- Passability shrinks with what is known: with one more tag, and from walking to assisted
walking. -/
structure Shrinks (K : Type u) [Field K] [LinearOrder K] [IsStrictOrderedRing K] [FloorRing K]
    [MathLib K] : Prop where
  more : ∀ (p : ModeProfile K) (tags other : Tags) (key value : String),
    tags.Adds other key value → key ≠ "highway" → (p.passable tags).1 = false →
      (p.passable other).1 = false
  reasoned : ∀ (p : ModeProfile K) (tags : Tags), Reasoned (p.passable tags)
  assisted : ∀ tags : Tags, ((profileFor .assisted : ModeProfile K).passable tags).1 = true →
    ((profileFor .foot : ModeProfile K).passable tags).1 = true
  subgraph : ∀ (source : String) (features : List (Feature K)),
    (rawGraph source (profileFor .assisted) features).Subgraph
      (rawGraph source (profileFor .foot) features)

theorem passability_shrinks (K : Type u) [Field K] [LinearOrder K] [IsStrictOrderedRing K]
    [FloorRing K] [MathLib K] : Shrinks K where
  more p tags other key value hadds hkey hrefused := by
    rw [← Bool.not_eq_true, ModeProfile.passable_iff] at hrefused ⊢
    intro hother
    exact hrefused (hother.of_within hadds.within (hadds.rest "highway" (Ne.symm hkey)).symm)
  reasoned := ModeProfile.passable_reasoned
  assisted tags h :=
    ModeProfile.passable_iff.2 (assisted_stricter.admits (ModeProfile.passable_iff.1 h))
  subgraph := rawGraph_subgraph assisted_stricter

end

/-- A ford closes a village road to walkers, and nothing opens it again for those in need of
help. -/
theorem passability_shrinks_real :
    ((profileFor .foot : ModeProfile ℚ).passable [("highway", "Residential ")]).1 = true ∧
      ((profileFor .foot : ModeProfile ℚ).passable
        [("highway", "Residential "), ("ford", "yes")]).1 = false ∧ Shrinks ℝ :=
  ⟨by decide +kernel, by decide +kernel, passability_shrinks ℝ⟩

end Salgil
