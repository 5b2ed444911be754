import Salgil.JsonReader

namespace Salgil
set_option autoImplicit true

namespace JsonText

section
variable {number : List Char → Option Number} {text value rest : List Char} {fuel : ℕ}

/-- What has been read of a string, of which `high` may be pending. -/
def ReadsBody (text value rest : List Char) : Option ℕ → Prop
  | none => ∃ body, text = body ++ '"' :: rest ∧ StringBody body value
  | some high => ∃ a b c d low body value',
    text = '\\' :: 'u' :: a :: b :: c :: d :: (body ++ '"' :: rest) ∧ hex4 a b c d = some low ∧
      isLow low = true ∧ value = paired high low :: value' ∧ StringBody body value'

theorem readString_sound {high : Option ℕ} (h : readString high text = some (value, rest)) :
    ReadsBody text value rest high := by
  fun_induction readString high text generalizing value rest with
  | case1 =>
    cases h
    exact ⟨[], rfl, .nil⟩
  | case2 a b c d text ihhigh ih =>
    obtain ⟨n, hn, h⟩ := Option.bind_eq_some_iff.1 h
    split at h
    · next hhigh =>
      obtain ⟨a', b', c', d', low, body, value', rfl, hlow, hl, rfl, hbody⟩ := ihhigh n h
      exact ⟨_, rfl, .pair hn hlow hhigh hl hbody⟩
    · next hhigh =>
      split at h
      · cases h
      · next hlow =>
        obtain ⟨⟨value', rest'⟩, hread, heq⟩ := Option.map_eq_some_iff.1 h
        cases heq
        obtain ⟨body, rfl, hbody⟩ := ih hread
        exact ⟨_, rfl, .unicode hn (Bool.not_eq_true _ ▸ hhigh) (Bool.not_eq_true _ ▸ hlow) hbody⟩
  | case3 high a b c d text ih =>
    obtain ⟨n, hn, h⟩ := Option.bind_eq_some_iff.1 h
    split at h
    · next hlow =>
      obtain ⟨⟨value', rest'⟩, hread, heq⟩ := Option.map_eq_some_iff.1 h
      cases heq
      obtain ⟨body, rfl, hbody⟩ := ih hread
      exact ⟨a, b, c, d, n, body, value', rfl, hn, hlow, rfl, hbody⟩
    · cases h
  | case4 c text _ ih =>
    obtain ⟨c', hc, h⟩ := Option.bind_eq_some_iff.1 h
    obtain ⟨⟨value', rest'⟩, hread, heq⟩ := Option.map_eq_some_iff.1 h
    cases heq
    obtain ⟨body, rfl, hbody⟩ := ih hread
    exact ⟨_, rfl, .escape hc hbody⟩
  | case5 c text _ _ _ hc ih =>
    obtain ⟨⟨value', rest'⟩, hread, heq⟩ := Option.map_eq_some_iff.1 h
    cases heq
    obtain ⟨body, rfl, hbody⟩ := ih hread
    exact ⟨_, rfl, .plain hc hbody⟩
  | case6 => cases h
  | case7 => cases h

theorem blank_takeWhile (text : List Char) : Blank (text.takeWhile isWs) :=
  fun _ hc => List.mem_takeWhile_imp hc

theorem takeWhile_append_skipWs (text : List Char) : text.takeWhile isWs ++ skipWs text = text :=
  List.takeWhile_append_dropWhile

/-- What is read is what the grammar derives. -/
def SoundRead (number : List Char → Option Number)
    (read : Kind → List Char → Option (Part × List Char)) : Prop :=
  ∀ {k text p rest}, read k text = some (p, rest) →
    p.kind = k ∧ ∃ t, text = t ++ rest ∧ Derives number t p

section
variable {read : Kind → List Char → Option (Part × List Char)} {p : Part}

theorem readValue_sound (hread : SoundRead number read)
    (h : readValue number read text = some (p, rest)) :
    p.kind = .value ∧ ∃ t, text = t ++ rest ∧ Derives number t p := by
  unfold readValue at h
  dsimp only at h
  split at h
  · next hne =>
    obtain ⟨n, hn, heq⟩ := Option.map_eq_some_iff.1 h
    cases heq
    refine ⟨rfl, _, (List.takeWhile_append_dropWhile).symm, .numberWord hne ?_ hn⟩
    exact fun c hc => List.mem_takeWhile_imp hc
  · split at h
    · cases h
      exact ⟨rfl, _, rfl, .nullWord⟩
    · cases h
      exact ⟨rfl, _, rfl, .trueWord⟩
    · cases h
      exact ⟨rfl, _, rfl, .falseWord⟩
    · obtain ⟨⟨value, rest'⟩, hstring, heq⟩ := Option.map_eq_some_iff.1 h
      cases heq
      obtain ⟨body, rfl, hbody⟩ := readString_sound hstring
      exact ⟨rfl, _, by simp, .str hbody⟩
    · next text' _ =>
      split at h
      · next helements =>
        cases h
        obtain ⟨-, body, rfl, hbody⟩ := hread helements
        exact ⟨rfl, _, by simp, .arr hbody⟩
      · split at h
        · next hskip =>
          cases h
          refine ⟨rfl, _, ?_, .emptyArr (blank_takeWhile text')⟩
          rw [List.cons_append, List.append_assoc, List.singleton_append, ← hskip,
            takeWhile_append_skipWs]
        · cases h
    · next text' _ =>
      split at h
      · next hmembers =>
        cases h
        obtain ⟨-, body, rfl, hbody⟩ := hread hmembers
        exact ⟨rfl, _, by simp, .obj hbody⟩
      · split at h
        · next hskip =>
          cases h
          refine ⟨rfl, _, ?_, .emptyObj (blank_takeWhile text')⟩
          rw [List.cons_append, List.append_assoc, List.singleton_append, ← hskip,
            takeWhile_append_skipWs]
        · cases h
    · cases h

theorem readElement_sound (hread : SoundRead number read)
    (h : readElement read text = some (p, rest)) :
    p.kind = .element ∧ ∃ t, text = t ++ rest ∧ Derives number t p := by
  rw [readElement] at h
  split at h
  · next v rest' hvalue =>
    cases h
    obtain ⟨-, body, hbody, hderives⟩ := hread hvalue
    refine ⟨rfl, _, ?_, .element (blank_takeWhile text) hderives (blank_takeWhile rest')⟩
    rw [List.append_assoc, List.append_assoc, takeWhile_append_skipWs, ← hbody,
      takeWhile_append_skipWs]
  · cases h

theorem readElements_sound (hread : SoundRead number read)
    (h : readElements read text = some (p, rest)) :
    p.kind = .elements ∧ ∃ t, text = t ++ rest ∧ Derives number t p := by
  rw [readElements] at h
  split at h
  · next v rest' helement =>
    obtain ⟨-, body, rfl, hbody⟩ := hread helement
    split at h
    · next vs rest'' helements =>
      cases h
      obtain ⟨-, body', rfl, hbody'⟩ := hread helements
      exact ⟨rfl, _, by simp, .more hbody hbody'⟩
    · cases h
  · next v rest' _ helement =>
    cases h
    obtain ⟨-, body, rfl, hbody⟩ := hread helement
    exact ⟨rfl, body, rfl, .single hbody⟩
  · cases h

theorem readMember_sound (hread : SoundRead number read)
    (h : readMember read text = some (p, rest)) :
    p.kind = .member ∧ ∃ t, text = t ++ rest ∧ Derives number t p := by
  rw [readMember] at h
  split at h
  · next text' hskip =>
    split at h
    · next key text'' hstring =>
      obtain ⟨body, rfl, hkey⟩ := readString_sound hstring
      split at h
      · next text''' hskip' =>
        split at h
        · next v rest' helement =>
          cases h
          obtain ⟨-, body', rfl, hbody'⟩ := hread helement
          have htext := takeWhile_append_skipWs text
          have htext' := takeWhile_append_skipWs text''
          rw [hskip] at htext
          rw [hskip'] at htext'
          refine ⟨rfl, _, ?_, .member (blank_takeWhile text) hkey (blank_takeWhile text'')
            hbody'⟩
          simp only [List.append_assoc, List.cons_append, htext', htext]
        · cases h
      · cases h
    · cases h
  · cases h

theorem readMembers_sound (hread : SoundRead number read)
    (h : readMembers read text = some (p, rest)) :
    p.kind = .members ∧ ∃ t, text = t ++ rest ∧ Derives number t p := by
  rw [readMembers] at h
  split at h
  · next key v rest' hmember =>
    obtain ⟨-, body, rfl, hbody⟩ := hread hmember
    split at h
    · next ms rest'' hmembers =>
      cases h
      obtain ⟨-, body', rfl, hbody'⟩ := hread hmembers
      exact ⟨rfl, _, by simp, .others hbody hbody'⟩
    · cases h
  · next key v rest' _ hmember =>
    cases h
    obtain ⟨-, body, rfl, hbody⟩ := hread hmember
    exact ⟨rfl, body, rfl, .lone hbody⟩
  · cases h

end

theorem readPart_sound : SoundRead number (readPart number fuel) := by
  induction fuel with
  | zero =>
    intro k text p rest h
    cases h
  | succ fuel ih =>
    intro k text p rest h
    cases k with
    | value => exact readValue_sound ih h
    | element => exact readElement_sound ih h
    | elements => exact readElements_sound ih h
    | member => exact readMember_sound ih h
    | members => exact readMembers_sound ih h

/-- The reader reads the JSON texts and no others. -/
theorem readText_eq_some {v : Json} : readText number text = some v ↔ IsJsonText number text v := by
  refine ⟨fun h => ?_, readText_of_isJsonText⟩
  rw [readText] at h
  split at h
  · next hread =>
    cases h
    obtain ⟨-, body, rfl, hbody⟩ := readPart_sound hread
    rwa [List.append_nil]
  · cases h

theorem readText_append {before : List Char} {v : Json} (hbefore : Blank before)
    (h : Derives number text (.value v)) (hrest : ∀ c ∈ rest.head?, isNumberChar c = false) :
    readText number (before ++ (text ++ rest)) = if skipWs rest = [] then some v else none := by
  obtain ⟨⟨c, text', hcons, hc⟩, -⟩ := h.ends
  have hskip : skipWs (before ++ (text ++ rest)) = text ++ rest := by
    apply skipWs_append hbefore
    intro c' hc'
    rw [hcons] at hc'
    cases hc'
    exact hc
  have hread : readPart number (5 * (before ++ (text ++ rest)).length + 1) .value (text ++ rest) =
      some (.value v, rest) := by
    apply readPart_of_derives h _ hrest
    simp [Part.kind, Kind.rank]
    omega
  rw [readText, readPart, readElement, hskip, hread]
  dsimp only
  cases hleft : skipWs rest <;> simp

end

end JsonText

/-- `json.loads`, as far as texts are JSON texts. -/
def readerLoads (number : List Char → Option JsonText.Number) (text : String) :
    Except JsonError Json :=
  match JsonText.readText number text.toList with
  | some v => .ok v
  | none => .error .decode

end Salgil
