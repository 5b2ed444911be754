import Salgil.JsonReaderExact
import Salgil.TextLines
import Mathlib.Data.List.Infix

namespace Salgil
set_option autoImplicit true

/-- What a generator yields, and the exception that it ends with, if any. -/
structure Yielded (α : Type u) (ε : Type v) where
  items : List α
  error : Option ε

/-- An exception of `_iter_features`: from `json.loads`, or for a payload of another shape. -/
inductive FeatureError where
  | json (error : JsonError)
  | attributeError
  | typeError

/-- The text seems to be that of a FeatureCollection. -/
def looksLikeCollection (text : List Char) : Bool :=
  let stripped := text.dropWhile pyIsSpace
  ['{'].isPrefixOf stripped ∧ "\"FeatureCollection\"".toList <:+: stripped.take 400

/-- `yield from payload.get("features", [])`. -/
def payloadFeatures : Json → Yielded Json FeatureError
  | .obj entries =>
    match entries.lookup "features" with
    | none => ⟨[], none⟩
    | some (.arr features) => ⟨features, none⟩
    | some (.obj entries) => ⟨entries.map fun entry => .str entry.1, none⟩
    | some (.str value) => ⟨value.toList.map fun c => .str (String.ofList [c]), none⟩
    | some _ => ⟨[], some .typeError⟩
  | _ => ⟨[], some .attributeError⟩

/-- The features of the lines, each of which stands on a line of its own. -/
def lineFeatures (loads : String → Except JsonError Json) :
    List (List Char) → Yielded Json FeatureError
  | [] => ⟨[], none⟩
  | line :: lines =>
    let line := (stripChars line).dropWhile (· = '\x1e')
    if line.isEmpty then lineFeatures loads lines
    else match loads (String.ofList line) with
    | .ok feature =>
      let rest := lineFeatures loads lines
      ⟨feature :: rest.items, rest.error⟩
    | .error .decode => lineFeatures loads lines
    | .error (.other error) => ⟨[], some (.json (.other error))⟩

/-- `_iter_features` on the characters of a file. -/
def iterFeatures (lib : JsonLib) (file : List Char) : Yielded Json FeatureError :=
  let text := universalNewlines file
  if looksLikeCollection text then
    match lib.loads (String.ofList text) with
    | .ok payload => payloadFeatures payload
    | .error error => ⟨[], some (.json error)⟩
  else lineFeatures lib.loads (pySplitLines text)

/-- The file is a JSON text of a FeatureCollection that holds the features. -/
def IsCollection (number : List Char → Option JsonText.Number) (features : List JsonObject)
    (file : List Char) : Prop :=
  ∃ entries, IsJsonText number file (.obj entries) ∧
    entries.lookup "type" = some (.str "FeatureCollection") ∧
    entries.lookup "features" = some (.arr (features.map .obj))

/-- The file has a JSON text of each feature on a line of its own, after a record separator or
none. -/
inductive IsSequence (number : List Char → Option JsonText.Number) :
    List JsonObject → List Char → Prop
  | nil : IsSequence number [] []
  | cons (h : IsJsonText number text (.obj feature)) (hline : '\n' ∉ text)
    (hseparator : separator = [] ∨ separator = ['\x1e'])
    (hrest : IsSequence number features file) :
    IsSequence number (feature :: features) (separator ++ (text ++ '\n' :: file))

/-- Within no line of the file, as it ends with a line feed, there is another end of a line. -/
def WholeLines (file : List Char) : Prop :=
  ∀ line ∈ file.splitOn '\n', ∀ c ∈ stripChars line, isLineEnd c = false

instance (file : List Char) : Decidable (WholeLines file) :=
  decidable_of_iff ((file.splitOn '\n').all fun line => (stripChars line).all (! isLineEnd ·))
    (by simp [WholeLines])

/-- `json.loads` reads every JSON text as its value. -/
def ReadsJson (number : List Char → Option JsonText.Number) (lib : JsonLib) : Prop :=
  ∀ text v, IsJsonText number text v → lib.loads (String.ofList text) = .ok v

/-- `json.loads` reads no text that begins with a record separator, and none that begins with an
object and has something other than whitespace after it. -/
def RejectsMore (number : List Char → Option JsonText.Number) (lib : JsonLib) : Prop :=
  (∀ rest, lib.loads (String.ofList ('\x1e' :: rest)) = .error .decode) ∧
  ∀ before text entries rest, JsonText.Blank before →
    JsonText.Derives number text (.value (.obj entries)) →
    (∀ c ∈ rest.head?, JsonText.isWs c = true) → ¬ JsonText.Blank rest →
    lib.loads (String.ofList (before ++ (text ++ rest))) = .error .decode

namespace JsonText
variable {number : List Char → Option Number} {text w : List Char} {p : Part}

theorem isSpace_of_isWs {c : Char} (h : isWs c = true) : pyIsSpace c = true := by
  rw [isWs, decide_eq_true_iff] at h
  rcases h with rfl | rfl | rfl | rfl <;> decide

theorem Blank.newlines (h : Blank w) : Blank (universalNewlines w) := by
  intro c hc
  rcases mem_universalNewlines hc with rfl | ⟨hc, -⟩
  · rfl
  · exact h c hc

theorem Blank.spaces (h : Blank w) : ∀ c ∈ w, pyIsSpace c = true :=
  fun c hc => isSpace_of_isWs (h c hc)

theorem Blank.newline_spaces (h : Blank w) :
    ∀ c ∈ universalNewlines w, pyIsSpace c = true ∧ c ≠ '\r' := by
  intro c hc
  have hspace := h.newlines.spaces c hc
  rcases mem_universalNewlines hc with rfl | ⟨-, hne⟩
  · exact ⟨hspace, by decide⟩
  · exact ⟨hspace, hne⟩

theorem newlines_of_printable (h : ∀ c ∈ text, 0x20 ≤ c.toNat) : universalNewlines text = text := by
  apply universalNewlines_eq_self
  intro hmem
  exact absurd (h _ hmem) (by decide)

theorem newlines_append_cons {c : Char} {rest : List Char} (hcr : c ≠ '\r') (hlf : c ≠ '\n') :
    universalNewlines (text ++ c :: rest) =
      universalNewlines text ++ c :: universalNewlines rest := by
  rw [universalNewlines_append, universalNewlines_cons hcr]
  right
  rintro c' hc'
  cases hc'
  exact hlf

theorem Derives.newlines (h : Derives number text p) :
    Derives number (universalNewlines text) p := by
  induction h with
  | nullWord => exact .nullWord
  | trueWord => exact .trueWord
  | falseWord => exact .falseWord
  | numberWord hne hchars hn =>
    rw [universalNewlines_eq_self]
    · exact .numberWord hne hchars hn
    · intro hmem
      have := hchars _ hmem
      revert this
      decide
  | str h =>
    rw [universalNewlines_cons (by decide), newlines_append_cons (by decide) (by decide),
      newlines_of_printable h.printable]
    exact .str h
  | emptyArr hw =>
    rw [universalNewlines_cons (by decide), newlines_append_cons (by decide) (by decide)]
    exact .emptyArr hw.newlines
  | arr h ih =>
    rw [universalNewlines_cons (by decide), newlines_append_cons (by decide) (by decide)]
    exact .arr ih
  | emptyObj hw =>
    rw [universalNewlines_cons (by decide), newlines_append_cons (by decide) (by decide)]
    exact .emptyObj hw.newlines
  | obj h ih =>
    rw [universalNewlines_cons (by decide), newlines_append_cons (by decide) (by decide)]
    exact .obj ih
  | element hw h hw' ih =>
    obtain ⟨⟨c, rest, hcons, hc⟩, c', rest', hconcat, hc'⟩ := h.ends
    rw [universalNewlines_append, universalNewlines_append]
    · exact .element hw.newlines ih hw'.newlines
    · left
      rintro c'' hc'' rfl
      rw [hconcat, List.getLast?_concat] at hc''
      cases hc''
      cases hc'
    · right
      rintro c'' hc'' rfl
      rw [hcons] at hc''
      cases hc''
      cases hc
  | single h ih => exact .single ih
  | more h hrest ih ihrest =>
    rw [newlines_append_cons (by decide) (by decide)]
    exact .more ih ihrest
  | member hw hkey hw' h ih =>
    rw [newlines_append_cons (by decide) (by decide), newlines_append_cons (by decide) (by decide),
      newlines_append_cons (by decide) (by decide), newlines_of_printable hkey.printable]
    exact .member hw.newlines hkey hw'.newlines ih
  | lone h ih => exact .lone ih
  | others h hrest ih ihrest =>
    rw [newlines_append_cons (by decide) (by decide)]
    exact .others ih ihrest

end JsonText

section
variable {number : List Char → Option JsonText.Number} {lib : JsonLib} {features : List JsonObject}
variable {loads : String → Except JsonError Json} {lines : List (List Char)}
variable {file line text before after rest : List Char} {entries : JsonObject}

/-- A FeatureCollection that is seen to be one is read whole. -/
theorem iterFeatures_collection (hloads : ReadsJson number lib)
    (h : IsCollection number features file)
    (hlooks : looksLikeCollection (universalNewlines file) = true) :
    iterFeatures lib file = ⟨features.map .obj, none⟩ := by
  obtain ⟨entries, htext, -, hfeatures⟩ := h
  rw [iterFeatures, if_pos hlooks, hloads _ _ (JsonText.Derives.newlines htext)]
  simp [payloadFeatures, hfeatures]

theorem lineFeatures_of_space (h : ∀ c ∈ line, pyIsSpace c = true) :
    lineFeatures loads (line :: lines) = lineFeatures loads lines := by
  rw [lineFeatures, stripChars_of_space h]
  rfl

theorem stripChars_object (h : JsonText.Derives number text (.value (.obj entries)))
    (hbefore : ∀ c ∈ before, pyIsSpace c = true) (hafter : ∀ c ∈ after, pyIsSpace c = true) :
    stripChars (before ++ (text ++ after)) = text := by
  obtain ⟨body, hbody⟩ := h.braces
  exact stripChars_append hbefore hafter ⟨'{', _, hbody, by decide⟩
    ⟨'}', '{' :: body, hbody, by decide⟩

theorem lineFeatures_of_object (h : JsonText.Derives number text (.value (.obj entries)))
    (hloads : loads (String.ofList text) = .ok (.obj entries))
    (hbefore : ∀ c ∈ before, pyIsSpace c = true) (hafter : ∀ c ∈ after, pyIsSpace c = true) :
    lineFeatures loads ((before ++ (text ++ after)) :: lines) =
      ⟨.obj entries :: (lineFeatures loads lines).items, (lineFeatures loads lines).error⟩ := by
  obtain ⟨body, hbody⟩ := h.braces
  have hdrop : text.dropWhile (· = '\x1e') = text := by
    rw [hbody]
    rfl
  have hempty : text.isEmpty = false := by
    rw [hbody]
    rfl
  rw [lineFeatures, stripChars_object h hbefore hafter, hdrop, if_neg (by simp [hempty]), hloads]

theorem space_concat {c : Char} (hline : ∀ c ∈ line, pyIsSpace c = true)
    (hc : pyIsSpace c = true) : ∀ c' ∈ line ++ [c], pyIsSpace c' = true := by
  intro c' hc'
  rcases List.mem_append.1 hc' with hc' | hc'
  · exact hline c' hc'
  · rwa [List.mem_singleton.1 hc']

theorem exists_line_of_spaces (loads : String → Except JsonError Json)
    (hline : ∀ c ∈ line, pyIsSpace c = true)
    (hspace : ∀ c ∈ text, pyIsSpace c = true ∧ c ≠ '\r') :
    ∃ line', (∀ c ∈ line', pyIsSpace c = true) ∧ ∀ rest,
      lineFeatures loads (splitLines line (text ++ rest)) =
        lineFeatures loads (splitLines line' rest) := by
  induction text generalizing line with
  | nil => exact ⟨line, hline, fun _ => rfl⟩
  | cons c text ih =>
    obtain ⟨⟨hc, hne⟩, htext⟩ := List.forall_mem_cons.1 hspace
    by_cases hend : isLineEnd c = true
    · obtain ⟨line', hline', heq⟩ := @ih [] (by simp) htext
      refine ⟨line', hline', fun rest => ?_⟩
      rw [List.cons_append, splitLines_cons hne, if_pos hend, lineFeatures_of_space hline, heq]
    · obtain ⟨line', hline', heq⟩ := ih (space_concat hline hc) htext
      refine ⟨line', hline', fun rest => ?_⟩
      rw [List.cons_append, splitLines_cons hne, if_neg hend, heq]

theorem lineFeatures_newline : lineFeatures loads (splitLines [] ('\n' :: rest)) =
    lineFeatures loads (splitLines [] rest) := by
  rw [splitLines_cons (by decide), if_pos (by decide), lineFeatures_of_space (by simp)]

theorem lineFeatures_of_spaces (hline : ∀ c ∈ line, pyIsSpace c = true)
    (hspace : ∀ c ∈ text, pyIsSpace c = true ∧ c ≠ '\r') (hrest : ∀ c ∈ rest.head?, c = '\n') :
    lineFeatures loads (splitLines line (text ++ rest)) =
      lineFeatures loads (splitLines [] rest) := by
  obtain ⟨line', hline', heq⟩ := exists_line_of_spaces loads hline hspace
  rw [heq]
  cases rest with
  | nil =>
    rw [splitLines]
    split
    · rfl
    · exact lineFeatures_of_space hline'
  | cons c rest =>
    obtain rfl := hrest c rfl
    rw [splitLines_cons (by decide), if_pos (by decide), lineFeatures_of_space hline',
      lineFeatures_newline]

theorem lineFeatures_object_line (h : JsonText.Derives number text (.value (.obj entries)))
    (hloads : loads (String.ofList text) = .ok (.obj entries))
    (hbefore : ∀ c ∈ before, pyIsSpace c = true) (hafter : ∀ c ∈ after, pyIsSpace c = true)
    {blanks : List Char} (hblanks : ∀ c ∈ blanks, pyIsSpace c = true ∧ c ≠ '\r')
    (hrest : ∀ c ∈ rest.head?, c = '\n') :
    lineFeatures loads (splitLines (before ++ (text ++ after)) (blanks ++ rest)) =
      ⟨.obj entries :: (lineFeatures loads (splitLines [] rest)).items,
        (lineFeatures loads (splitLines [] rest)).error⟩ := by
  induction blanks generalizing after with
  | nil =>
    cases rest with
    | nil =>
      obtain ⟨body, hbody⟩ := h.braces
      rw [List.append_nil, splitLines, if_neg (by simp [hbody]),
        lineFeatures_of_object h hloads hbefore hafter]
      rfl
    | cons c rest =>
      obtain rfl := hrest c rfl
      rw [List.nil_append, splitLines_cons (by decide), if_pos (by decide),
        lineFeatures_of_object h hloads hbefore hafter, lineFeatures_newline]
  | cons c blanks ih =>
    obtain ⟨⟨hc, hne⟩, hblanks⟩ := List.forall_mem_cons.1 hblanks
    rw [List.cons_append, splitLines_cons hne]
    split
    · rw [lineFeatures_of_object h hloads hbefore hafter,
        lineFeatures_of_spaces (by simp) hblanks hrest]
    · rw [List.append_assoc, List.append_assoc]
      exact ih (space_concat hafter hc) hblanks

theorem universalNewlines_concat (text : List Char) :
    ∃ text', universalNewlines (text ++ ['\n']) = text' ++ ['\n'] ∧
      ∀ c ∈ text', c = '\n' ∨ c ∈ text ∧ c ≠ '\r' := by
  rcases List.eq_nil_or_concat text with rfl | ⟨text, c, rfl⟩
  · exact ⟨[], rfl, by simp⟩
  · rw [List.concat_eq_append, List.append_assoc]
    by_cases hc : c = '\r'
    · subst hc
      refine ⟨universalNewlines text, ?_, fun c hmem => ?_⟩
      · rw [universalNewlines_append (.inr (by simp))]
        rfl
      · rcases mem_universalNewlines hmem with hc | ⟨hmem, hc⟩
        · exact .inl hc
        · exact .inr ⟨List.mem_append_left _ hmem, hc⟩
    · refine ⟨universalNewlines (text ++ [c]), ?_, fun c hmem => mem_universalNewlines hmem⟩
      rw [← List.append_assoc, universalNewlines_append (.inl (by simpa using hc))]
      rfl

theorem universalNewlines_line {separator blanks : List Char}
    (hseparator : ∀ c ∈ separator, c ≠ '\r') (hbraces : ∃ body, text = '{' :: (body ++ ['}']))
    (htext : '\r' ∉ text) (hblanks : universalNewlines (after ++ ['\n']) = blanks ++ ['\n']) :
    universalNewlines (separator ++ (before ++ (text ++ after) ++ '\n' :: rest)) =
      separator ++ universalNewlines before ++
        (text ++ (blanks ++ '\n' :: universalNewlines rest)) := by
  obtain ⟨body, hbody⟩ := hbraces
  have hsplit : separator ++ (before ++ (text ++ after) ++ '\n' :: rest) =
      separator ++ (before ++ (text ++ ((after ++ ['\n']) ++ rest))) := by simp
  have hlast : ∀ c ∈ separator.getLast?, c ≠ '\r' := fun c hc =>
    hseparator c (List.mem_of_getLast? hc)
  have hbrace : text.getLast? = some '}' := by
    rw [hbody, ← List.cons_append, List.getLast?_concat]
  rw [hsplit, universalNewlines_append (.inl hlast), universalNewlines_eq_self fun h =>
      hseparator _ h rfl, universalNewlines_append (.inr (by simp [hbody])),
    universalNewlines_append (.inl (by simp [hbrace])), universalNewlines_eq_self htext,
    universalNewlines_append (.inl (by simp)), hblanks]
  simp

theorem wholeLines_cons (hline : '\n' ∉ line) (h : WholeLines (line ++ '\n' :: rest)) :
    (∀ c ∈ stripChars line, isLineEnd c = false) ∧ WholeLines rest := by
  have hsplit : (line ++ '\n' :: rest).splitOn '\n' = line :: rest.splitOn '\n' := by
    rw [List.splitOn_eq_splitOnP, List.splitOn_eq_splitOnP,
      List.splitOnP_append_cons_of_forall_mem (fun c hc => ?_) _ (by simp)]
    rw [beq_eq_false_iff_ne]
    rintro rfl
    exact hline hc
  rw [WholeLines, hsplit] at h
  exact List.forall_mem_cons.1 h

theorem sequence_line {separator : List Char}
    (hobject : JsonText.Derives number text (.value (.obj entries)))
    (hbefore : JsonText.Blank before) (hafter : JsonText.Blank after)
    (hline : '\n' ∉ before ++ (text ++ after))
    (hseparator : separator = [] ∨ separator = ['\x1e'])
    (hwhole : WholeLines (separator ++ (before ++ (text ++ after) ++ '\n' :: rest))) :
    (∀ c ∈ text, isLineEnd c = false) ∧ WholeLines rest ∧
      ∃ blanks, JsonText.Blank blanks ∧ '\r' ∉ blanks ∧
        universalNewlines (separator ++ (before ++ (text ++ after) ++ '\n' :: rest)) =
          separator ++ universalNewlines before ++
            (text ++ (blanks ++ '\n' :: universalNewlines rest)) := by
  have hseparator' : ∀ c ∈ separator, pyIsSpace c = true ∧ c ≠ '\r' ∧ c ≠ '\n' := by
    rcases hseparator with rfl | rfl
    · simp
    · intro c hc
      rw [List.mem_singleton.1 hc]
      decide
  have hnotIn : '\n' ∉ separator ++ (before ++ (text ++ after)) := by
    rw [List.mem_append, not_or]
    exact ⟨fun hmem => (hseparator' _ hmem).2.2 rfl, hline⟩
  rw [← List.append_assoc] at hwhole
  obtain ⟨hends, hrest⟩ := wholeLines_cons hnotIn hwhole
  have hstrip : stripChars (separator ++ (before ++ (text ++ after))) = text := by
    rw [← List.append_assoc]
    apply stripChars_object hobject _ hafter.spaces
    intro c hc
    rcases List.mem_append.1 hc with hc | hc
    · exact (hseparator' c hc).1
    · exact hbefore.spaces c hc
  rw [hstrip] at hends
  obtain ⟨blanks, hblanks, hmem⟩ := universalNewlines_concat after
  refine ⟨hends, hrest, blanks, fun c hc => ?_, fun hc => ?_, ?_⟩
  · rcases hmem c hc with rfl | ⟨hc, -⟩
    · rfl
    · exact hafter c hc
  · rcases hmem _ hc with hc | ⟨-, hne⟩
    · cases hc
    · exact hne rfl
  · have hcr : '\r' ∉ text := fun hmem => absurd (hends _ hmem) (by decide)
    exact universalNewlines_line (fun c hc => (hseparator' c hc).2.1) hobject.braces hcr hblanks

theorem lineFeatures_sequence (hloads : ReadsJson number lib) (h : IsSequence number features file)
    (hwhole : WholeLines file) :
    lineFeatures lib.loads (splitLines [] (universalNewlines file)) =
      ⟨features.map .obj, none⟩ := by
  induction h with
  | nil => rfl
  | @cons text feature separator features file h hline hseparator hrest ih =>
    cases h with
    | @element before text feature after hbefore hobject hafter =>
      obtain ⟨hends, hwhole, blanks, hblanks, hcr, hnewlines⟩ :=
        sequence_line hobject hbefore hafter hline hseparator hwhole
      have hbefore' : ∀ c ∈ separator ++ universalNewlines before,
          pyIsSpace c = true ∧ c ≠ '\r' := by
        intro c hc
        rcases List.mem_append.1 hc with hc | hc
        · rcases hseparator with rfl | rfl
          · cases hc
          · rw [List.mem_singleton.1 hc]
            decide
        · exact hbefore.newline_spaces c hc
      have hblanks' : ∀ c ∈ blanks, pyIsSpace c = true ∧ c ≠ '\r' := fun c hc =>
        ⟨hblanks.spaces c hc, ne_of_mem_of_not_mem hc hcr⟩
      have hread := hloads _ _ hobject.isJsonText
      obtain ⟨line, hspace, heq⟩ := exists_line_of_spaces lib.loads (List.forall_mem_nil _) hbefore'
      rw [hnewlines, heq, splitLines_append hends, ← List.append_nil (line ++ text),
        List.append_assoc,
        lineFeatures_object_line hobject hread hspace (by simp) hblanks' (by simp),
        lineFeatures_newline, ih hwhole]
      rfl

theorem sizeOf_lookup_lt {key : String} {v : Json} (h : entries.lookup key = some v) :
    sizeOf v < sizeOf entries := by
  induction entries with
  | nil => cases h
  | cons entry entries ih =>
    obtain ⟨key', v'⟩ := entry
    rw [List.lookup_cons] at h
    split at h
    · cases h
      simp only [List.cons.sizeOf_spec, Prod.mk.sizeOf_spec]
      omega
    · have := ih h
      simp only [List.cons.sizeOf_spec]
      omega

/-- No object is what its own features are. -/
theorem lookup_ne_self (entries : JsonObject) :
    entries.lookup "features" ≠ some (.arr [.obj entries]) := by
  intro h
  have hlt := sizeOf_lookup_lt h
  simp only [Json.arr.sizeOf_spec, List.cons.sizeOf_spec, Json.obj.sizeOf_spec] at hlt
  omega

theorem payloadFeatures_ne_self (entries : JsonObject) :
    payloadFeatures (.obj entries) ≠ ⟨[.obj entries], none⟩ := by
  intro h
  rw [payloadFeatures] at h
  split at h
  · cases h
  · next hlookup =>
    obtain rfl := congrArg Yielded.items h
    exact lookup_ne_self entries hlookup
  · next entries' _ =>
    cases entries' <;> simp at h
  · next value _ =>
    cases hvalue : value.toList <;> simp [hvalue] at h
  · cases h

/-- A FeatureCollection on one line is read if and only if it is seen to be one: otherwise it is
yielded itself. -/
theorem collection_on_line_iff (hloads : ReadsJson number lib)
    (h : IsCollection number features file)
    (hline : ∀ c ∈ stripChars file, isLineEnd c = false) :
    iterFeatures lib file = ⟨features.map .obj, none⟩ ↔
      looksLikeCollection (universalNewlines file) = true := by
  refine ⟨fun heq => ?_, iterFeatures_collection hloads h⟩
  by_contra hlooks
  obtain ⟨entries, htext, -, hfeatures⟩ := h
  rw [iterFeatures, if_neg hlooks, pySplitLines] at heq
  cases htext with
  | @element before text v after hbefore hobject hafter =>
    obtain ⟨body, hbody⟩ := hobject.braces
    rw [stripChars_object hobject hbefore.spaces hafter.spaces] at hline
    have hcr : '\r' ∉ text := fun hmem => absurd (hline _ hmem) (by decide)
    have hlast : text.getLast? = some '}' := by
      rw [hbody, ← List.cons_append, List.getLast?_concat]
    obtain ⟨line, hspace, hread⟩ :=
      exists_line_of_spaces lib.loads (List.forall_mem_nil _) hbefore.newline_spaces
    rw [universalNewlines_append (.inr (by simp [hbody])),
      universalNewlines_append (.inl (by simp [hlast])), universalNewlines_eq_self hcr, hread,
      splitLines_append hline, ← List.append_nil (line ++ text), List.append_assoc,
      ← List.append_nil (universalNewlines after),
      lineFeatures_object_line hobject (hloads _ _ hobject.isJsonText) hspace (by simp)
        hafter.newline_spaces (by simp)] at heq
    have hself : features.map Json.obj = [.obj entries] := (congrArg Yielded.items heq).symm
    rw [hself] at hfeatures
    exact lookup_ne_self entries hfeatures

theorem readsJson_reader (hloads : lib.loads = readerLoads number) : ReadsJson number lib := by
  intro text v h
  rw [hloads, readerLoads, String.toList_ofList, JsonText.readText_of_isJsonText h]

theorem rejectsMore_reader (hloads : lib.loads = readerLoads number) : RejectsMore number lib := by
  rw [RejectsMore, hloads]
  constructor
  · intro rest
    rw [readerLoads, String.toList_ofList]
    rfl
  · intro before text entries rest hbefore h hhead hmore
    have hskip : JsonText.skipWs rest ≠ [] := by
      intro hskip
      exact hmore (List.dropWhile_eq_nil_iff.1 hskip)
    rw [readerLoads, String.toList_ofList, JsonText.readText_append hbefore h fun c hc =>
      JsonText.isWs_not_numberChar (hhead c hc), if_neg hskip]

theorem IsSequence.not_blank (h : IsSequence number features file) (hne : features ≠ []) :
    ¬ JsonText.Blank (universalNewlines file) := by
  cases h with
  | nil => exact absurd rfl hne
  | cons htext =>
    intro hblank
    cases htext with
    | element hbefore hobject hafter =>
      obtain ⟨body, hbody⟩ := hobject.braces
      have hmem := hblank '{' (mem_universalNewlines_of_mem (by simp [hbody]) (by decide))
      cases hmem

/-- A sequence whose lines hold together is read if and only if it is not taken for a
FeatureCollection. -/
theorem whole_sequence_iff (hloads : ReadsJson number lib) (hrejects : RejectsMore number lib)
    (h : IsSequence number features file) (hwhole : WholeLines file) :
    iterFeatures lib file = ⟨features.map .obj, none⟩ ↔
      looksLikeCollection (universalNewlines file) = false := by
  refine ⟨fun heq => ?_, fun hlooks => ?_⟩
  · by_contra hlooks
    rw [Bool.not_eq_false] at hlooks
    rw [iterFeatures, if_pos hlooks] at heq
    cases h with
    | nil => cases hlooks
    | @cons text feature separator features file h hline hseparator hrest =>
      cases h with
      | @element before text feature after hbefore hobject hafter =>
        obtain ⟨-, -, blanks, hblanks, -, hnewlines⟩ :=
          sequence_line hobject hbefore hafter hline hseparator hwhole
        rw [hnewlines] at heq
        rcases hseparator with rfl | rfl
        · rw [List.nil_append] at heq
          by_cases hnil : features = []
          · subst hnil
            cases hrest with
            | nil =>
              have hend : JsonText.Blank (blanks ++ '\n' :: universalNewlines []) := by
                intro c hc
                rcases List.mem_append.1 hc with hc | hc
                · exact hblanks c hc
                · rw [List.mem_singleton.1 hc]
                  rfl
              rw [hloads _ _ (.element hbefore.newlines hobject hend)] at heq
              exact payloadFeatures_ne_self _ heq
          · have hmore : ¬ JsonText.Blank (blanks ++ '\n' :: universalNewlines file) := by
              intro hblank
              apply hrest.not_blank hnil
              intro c hc
              exact hblank c (List.mem_append_right _ (List.mem_cons_of_mem _ hc))
            have hhead : ∀ c ∈ (blanks ++ '\n' :: universalNewlines file).head?,
                JsonText.isWs c = true := by
              cases blanks with
              | nil => simp [JsonText.isWs]
              | cons c blanks => simpa using hblanks c
            rw [hrejects.2 _ _ _ _ hbefore.newlines hobject hhead hmore] at heq
            cases heq
        · rw [List.append_assoc, List.singleton_append, hrejects.1] at heq
          cases heq
  · rw [iterFeatures, if_neg (by simp [hlooks])]
    exact lineFeatures_sequence hloads h hwhole

/-- Both kinds of files are read whole: a FeatureCollection that is seen to be one, which one on a
line of its own has to be, and a sequence that has no line end within a feature if and only if it
is not taken for a FeatureCollection. -/
theorem iterFeatures_complete (hloads : ReadsJson number lib) (hrejects : RejectsMore number lib)
    (features : List JsonObject) (file : List Char) :
    (IsCollection number features file →
      (looksLikeCollection (universalNewlines file) = true →
        iterFeatures lib file = ⟨features.map .obj, none⟩) ∧
      ((∀ c ∈ stripChars file, isLineEnd c = false) →
        iterFeatures lib file = ⟨features.map .obj, none⟩ →
        looksLikeCollection (universalNewlines file) = true)) ∧
    (IsSequence number features file → WholeLines file →
      (iterFeatures lib file = ⟨features.map .obj, none⟩ ↔
        looksLikeCollection (universalNewlines file) = false)) := by
  refine ⟨fun h => ⟨iterFeatures_collection hloads h, fun hline heq => ?_⟩, fun h hwhole => ?_⟩
  · exact (collection_on_line_iff hloads h hline).1 heq
  · exact whole_sequence_iff hloads hrejects h hwhole

end

/-- A `json.loads` that reads JSON texts without numbers. -/
def wordReader : JsonLib where
  loads := readerLoads fun _ => none
  dumps _ := ""
  repr _ := ""

def namedFeature (name : String) : JsonObject :=
  [("type", .str "Feature"), ("geometry", .null), ("properties", .obj [("name", .str name)])]

def featureText (name : List Char) : List Char :=
  "\x7b\"type\":\"Feature\",\"geometry\":null,\"properties\":\x7b\"name\":\"".toList ++ name ++
    "\"\x7d\x7d".toList

def collectionText : List Char :=
  "\x7b \"features\": [".toList ++ featureText ['a'] ++
    "],\r\n\"type\":\"FeatureCollection\" \x7d".toList

theorem iterFeatures_complete_both :
    iterFeatures wordReader collectionText = ⟨[.obj (namedFeature "a")], none⟩ ∧
    iterFeatures wordReader (['\x1e'] ++ (featureText ['a'] ++ ['\n'])) =
      ⟨[.obj (namedFeature "a")], none⟩ := by
  have hread := readsJson_reader (rfl : wordReader.loads = _)
  have hreject := rejectsMore_reader (rfl : wordReader.loads = _)
  have hcomplete := iterFeatures_complete hread hreject [namedFeature "a"]
  have hcollection : IsCollection (fun _ => none) [namedFeature "a"] collectionText :=
    ⟨[("features", .arr [.obj (namedFeature "a")]), ("type", .str "FeatureCollection")],
      JsonText.readText_eq_some.1 rfl, rfl, rfl⟩
  have htext : IsJsonText (fun _ => none) (featureText ['a']) (.obj (namedFeature "a")) :=
    JsonText.readText_eq_some.1 rfl
  have hsequence := IsSequence.cons htext (by decide) (.inr rfl) .nil
  exact ⟨((hcomplete _).1 hcollection).1 (by decide +kernel),
    ((hcomplete _).2 hsequence (by decide)).2 (by decide)⟩

/-- A name may hold a line separator, which JSON leaves as it is but `splitlines` does not. -/
theorem separator_in_name_loses_feature :
    ReadsJson (fun _ => none) wordReader ∧
      IsSequence (fun _ => none) [namedFeature "\u2028"] (featureText ['\u2028'] ++ ['\n']) ∧
      iterFeatures wordReader (featureText ['\u2028'] ++ ['\n']) ≠
        ⟨[.obj (namedFeature "\u2028")], none⟩ := by
  have htext : IsJsonText (fun _ => none) (featureText ['\u2028'])
      (.obj (namedFeature "\u2028")) := JsonText.readText_eq_some.1 rfl
  refine ⟨readsJson_reader rfl, .cons htext (by decide) (.inl rfl) .nil, ?_⟩
  have hread : iterFeatures wordReader (featureText ['\u2028'] ++ ['\n']) = ⟨[], none⟩ := rfl
  rw [hread]
  simp

end Salgil
