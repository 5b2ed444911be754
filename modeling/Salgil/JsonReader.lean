import Salgil.JsonGrammar
import Mathlib.Data.List.TakeWhile

namespace Salgil
set_option autoImplicit true

namespace JsonText

def skipWs (text : List Char) : List Char := text.dropWhile isWs

/-- The characters of a string up to its closing quote, and what comes after it; `high` is the first
half of a pair whose second half has to come next. -/
def readString : Option ℕ → List Char → Option (List Char × List Char)
  | none, '"' :: rest => some ([], rest)
  | none, '\\' :: 'u' :: a :: b :: c :: d :: rest =>
    (hex4 a b c d).bind fun n =>
      if isHigh n then readString (some n) rest
      else if isLow n then none
      else (readString none rest).map fun read => (Char.ofNat n :: read.1, read.2)
  | some high, '\\' :: 'u' :: a :: b :: c :: d :: rest =>
    (hex4 a b c d).bind fun n =>
      if isLow n then (readString none rest).map fun read => (paired high n :: read.1, read.2)
      else none
  | none, '\\' :: c :: rest =>
    (escaped c).bind fun c' => (readString none rest).map fun read => (c' :: read.1, read.2)
  | none, c :: rest =>
    if isPlain c then (readString none rest).map fun read => (c :: read.1, read.2) else none
  | _, _ => none

/-- What is to be read. -/
inductive Kind where
  | value
  | element
  | elements
  | member
  | members

def Part.kind : Part → Kind
  | .value _ => .value
  | .element _ => .element
  | .elements _ => .elements
  | .member _ _ => .member
  | .members _ => .members

section
variable (number : List Char → Option Number)
variable (read : Kind → List Char → Option (Part × List Char))

/-- Reads a value; `read` reads the parts of it. -/
def readValue (text : List Char) : Option (Part × List Char) :=
  let token := text.takeWhile isNumberChar
  if token ≠ [] then
    (number token).map fun n => (.value n.toJson, text.dropWhile isNumberChar)
  else match text with
  | 'n' :: 'u' :: 'l' :: 'l' :: rest => some (.value .null, rest)
  | 't' :: 'r' :: 'u' :: 'e' :: rest => some (.value (.bool true), rest)
  | 'f' :: 'a' :: 'l' :: 's' :: 'e' :: rest => some (.value (.bool false), rest)
  | '"' :: rest => (readString none rest).map fun read =>
    (.value (.str (String.ofList read.1)), read.2)
  | '[' :: rest =>
    match read .elements rest with
    | some (.elements vs, ']' :: rest) => some (.value (.arr vs), rest)
    | _ =>
      match skipWs rest with
      | ']' :: rest => some (.value (.arr []), rest)
      | _ => none
  | '{' :: rest =>
    match read .members rest with
    | some (.members ms, '}' :: rest) => some (.value (.obj (dictOf ms)), rest)
    | _ =>
      match skipWs rest with
      | '}' :: rest => some (.value (.obj []), rest)
      | _ => none
  | _ => none

def readElement (text : List Char) : Option (Part × List Char) :=
  match read .value (skipWs text) with
  | some (.value v, rest) => some (.element v, skipWs rest)
  | _ => none

def readElements (text : List Char) : Option (Part × List Char) :=
  match read .element text with
  | some (.element v, ',' :: rest) =>
    match read .elements rest with
    | some (.elements vs, rest) => some (.elements (v :: vs), rest)
    | _ => none
  | some (.element v, rest) => some (.elements [v], rest)
  | _ => none

def readMember (text : List Char) : Option (Part × List Char) :=
  match skipWs text with
  | '"' :: rest =>
    match readString none rest with
    | some (key, rest) =>
      match skipWs rest with
      | ':' :: rest =>
        match read .element rest with
        | some (.element v, rest) => some (.member (String.ofList key) v, rest)
        | _ => none
      | _ => none
    | none => none
  | _ => none

def readMembers (text : List Char) : Option (Part × List Char) :=
  match read .member text with
  | some (.member key v, ',' :: rest) =>
    match read .members rest with
    | some (.members ms, rest) => some (.members ((key, v) :: ms), rest)
    | _ => none
  | some (.member key v, rest) => some (.members [(key, v)], rest)
  | _ => none

end

/-- Reads one part of a text, and gives what comes after it. -/
def readPart (number : List Char → Option Number) :
    ℕ → Kind → List Char → Option (Part × List Char)
  | 0, _, _ => none
  | fuel + 1, .value, text => readValue number (readPart number fuel) text
  | fuel + 1, .element, text => readElement (readPart number fuel) text
  | fuel + 1, .elements, text => readElements (readPart number fuel) text
  | fuel + 1, .member, text => readMember (readPart number fuel) text
  | fuel + 1, .members, text => readMembers (readPart number fuel) text

/-- The value of a JSON text. -/
def readText (number : List Char → Option Number) (text : List Char) : Option Json :=
  match readPart number (5 * text.length + 2) .element text with
  | some (.element v, []) => some v
  | _ => none

/-- A text that may come after a part. -/
def MayFollow : Part → List Char → Prop
  | .value _, rest => ∀ c ∈ rest.head?, isNumberChar c = false
  | .element _, rest | .member _ _, rest =>
    ∀ c ∈ rest.head?, isNumberChar c = false ∧ isWs c = false
  | .elements _, rest | .members _, rest =>
    ∀ c ∈ rest.head?, isNumberChar c = false ∧ isWs c = false ∧ c ≠ ','

/-- How much deeper than a value a part is read. -/
def Kind.rank : Kind → ℕ
  | .value => 1
  | .element => 2
  | .elements => 3
  | .member => 3
  | .members => 4

section
variable {number : List Char → Option Number} {text body value rest w : List Char} {fuel : ℕ}

theorem readString_of_body (h : StringBody body value) (rest : List Char) :
    readString none (body ++ '"' :: rest) = some (value, rest) := by
  induction h with
  | nil => rfl
  | @plain c text value hc _ ih =>
    have hc' := hc
    rw [isPlain, decide_eq_true_iff] at hc'
    rw [List.cons_append, readString]
    · rw [if_pos hc, ih]
      rfl
    · exact fun heq => hc'.2.1 heq
    · exact fun _ _ _ _ _ heq _ => hc'.2.2 heq
    · exact fun _ _ heq _ => hc'.2.2 heq
  | @escape c c' text value hc _ ih =>
    have hne : c ≠ 'u' := by
      rintro rfl
      cases hc
    rw [List.cons_append, List.cons_append, readString]
    · rw [hc, ih]
      rfl
    · intro a b d e rest' heq
      exact absurd heq hne
  | unicode hn hhigh hlow _ ih =>
    simp [readString, hn, hhigh, hlow, ih]
  | pair hhigh hlow hh hl _ ih =>
    simp [readString, hhigh, hlow, hh, hl, ih]

theorem skipWs_append (hw : Blank w) (hrest : ∀ c ∈ rest.head?, isWs c = false) :
    skipWs (w ++ rest) = rest := by
  rw [skipWs, List.dropWhile_append_of_pos hw]
  cases rest with
  | nil => rfl
  | cons c rest => rw [List.dropWhile_cons_of_neg (by simp [hrest c rfl])]

theorem readValue_number {token : List Char} {n : Number}
    (read : Kind → List Char → Option (Part × List Char)) (hne : token ≠ [])
    (hchars : ∀ c ∈ token, isNumberChar c = true) (hn : number token = some n)
    (hrest : ∀ c ∈ rest.head?, isNumberChar c = false) :
    readValue number read (token ++ rest) = some (.value n.toJson, rest) := by
  have hnil : rest.takeWhile isNumberChar = [] ∧ rest.dropWhile isNumberChar = rest := by
    cases rest with
    | nil => exact ⟨rfl, rfl⟩
    | cons c rest => simp [hrest c rfl]
  have htake : (token ++ rest).takeWhile isNumberChar = token := by
    rw [List.takeWhile_append_of_pos hchars, hnil.1, List.append_nil]
  have hdrop : (token ++ rest).dropWhile isNumberChar = rest := by
    rw [List.dropWhile_append_of_pos hchars, hnil.2]
  unfold readValue
  dsimp only
  rw [htake, hdrop, if_pos hne, hn]
  rfl

section
variable (number) (read : Kind → List Char → Option (Part × List Char)) (rest : List Char)

theorem readValue_quote : readValue number read ('"' :: rest) =
    (readString none rest).map fun read => (.value (.str (String.ofList read.1)), read.2) := rfl

theorem readValue_bracket : readValue number read ('[' :: rest) =
    match read .elements rest with
    | some (.elements vs, ']' :: rest) => some (.value (.arr vs), rest)
    | _ =>
      match skipWs rest with
      | ']' :: rest => some (.value (.arr []), rest)
      | _ => none := rfl

theorem readValue_brace : readValue number read ('{' :: rest) =
    match read .members rest with
    | some (.members ms, '}' :: rest) => some (.value (.obj (dictOf ms)), rest)
    | _ =>
      match skipWs rest with
      | '}' :: rest => some (.value (.obj []), rest)
      | _ => none := rfl

end

section
variable {read : Kind → List Char → Option (Part × List Char)} {v : Json} {vs : List Json}
variable {key : String} {ms : List (String × Json)} {rest' : List Char}

theorem readValue_elements (h : read .elements (body ++ ']' :: rest) =
    some (.elements vs, ']' :: rest)) :
    readValue number read ('[' :: (body ++ ']' :: rest)) = some (.value (.arr vs), rest) := by
  rw [readValue_bracket, h]
  rfl

theorem readValue_members (h : read .members (body ++ '}' :: rest) =
    some (.members ms, '}' :: rest)) :
    readValue number read ('{' :: (body ++ '}' :: rest)) =
      some (.value (.obj (dictOf ms)), rest) := by
  rw [readValue_brace, h]
  rfl

theorem readElement_value (hw : Blank w) (hbody : ∀ c ∈ (body ++ rest).head?, isWs c = false)
    (h : read .value (body ++ rest) = some (.value v, rest')) :
    readElement read (w ++ (body ++ rest)) = some (.element v, skipWs rest') := by
  rw [readElement, skipWs_append hw hbody, h]

theorem readMember_element {key' : List Char} {w' : List Char} (hw : Blank w)
    (hkey : StringBody key' value) (hw' : Blank w')
    (h : read .element text = some (.element v, rest)) :
    readMember read (w ++ '"' :: (key' ++ '"' :: (w' ++ ':' :: text))) =
      some (.member (String.ofList value) v, rest) := by
  have hskip : skipWs (w ++ '"' :: (key' ++ '"' :: (w' ++ ':' :: text))) =
      '"' :: (key' ++ '"' :: (w' ++ ':' :: text)) := skipWs_append hw (by simp [isWs])
  have hskip' : skipWs (w' ++ ':' :: text) = ':' :: text := skipWs_append hw' (by simp [isWs])
  simp only [readMember, hskip, readString_of_body hkey, hskip', h]

theorem readElements_last (h : read .element text = some (.element v, rest))
    (hrest : ∀ c ∈ rest.head?, c ≠ ',') :
    readElements read text = some (.elements [v], rest) := by
  rw [readElements, h]
  split
  · next heq =>
    cases heq
    exact absurd rfl (hrest ',' rfl)
  · next heq =>
    cases heq
    rfl
  · next hnot => exact absurd rfl (hnot _ _)

theorem readElements_more (h : read .element text = some (.element v, ',' :: rest))
    (h' : read .elements rest = some (.elements vs, rest')) :
    readElements read text = some (.elements (v :: vs), rest') := by
  simp only [readElements, h, h']

theorem readMembers_last (h : read .member text = some (.member key v, rest))
    (hrest : ∀ c ∈ rest.head?, c ≠ ',') :
    readMembers read text = some (.members [(key, v)], rest) := by
  rw [readMembers, h]
  split
  · next heq =>
    cases heq
    exact absurd rfl (hrest ',' rfl)
  · next heq =>
    cases heq
    rfl
  · next hnot => exact absurd rfl (hnot _ _ _)

theorem readMembers_more (h : read .member text = some (.member key v, ',' :: rest))
    (h' : read .members rest = some (.members ms, rest')) :
    readMembers read text = some (.members ((key, v) :: ms), rest') := by
  simp only [readMembers, h, h']

end

theorem readPart_no_elements (hw : Blank w) :
    readPart number fuel .elements (w ++ ']' :: rest) = none := by
  have hvalue : ∀ fuel, readPart number fuel .value (']' :: rest) = none := by
    intro fuel
    cases fuel <;> rfl
  have helement : ∀ fuel, readPart number fuel .element (w ++ ']' :: rest) = none := by
    intro fuel
    cases fuel with
    | zero => rfl
    | succ fuel => rw [readPart, readElement, skipWs_append hw (by simp [isWs]), hvalue]
  cases fuel with
  | zero => rfl
  | succ fuel => rw [readPart, readElements, helement]

theorem readPart_no_members (hw : Blank w) :
    readPart number fuel .members (w ++ '}' :: rest) = none := by
  have hmember : ∀ fuel, readPart number fuel .member (w ++ '}' :: rest) = none := by
    intro fuel
    cases fuel with
    | zero => rfl
    | succ fuel =>
      rw [readPart, readMember, skipWs_append hw (by simp [isWs])]
      rfl
  cases fuel with
  | zero => rfl
  | succ fuel => rw [readPart, readMembers, hmember]

theorem exists_fuel {n : ℕ} {k : Kind} (h : n + k.rank ≤ fuel) : ∃ fuel', fuel = fuel' + 1 := by
  apply Nat.exists_eq_succ_of_ne_zero
  rintro rfl
  cases k <;> simp [Kind.rank] at h

/-- Every JSON text is read, and what comes after it stays. -/
theorem readPart_of_derives {p : Part} (h : Derives number text p)
    (hfuel : 5 * text.length + p.kind.rank ≤ fuel) (hrest : MayFollow p rest) :
    readPart number fuel p.kind (text ++ rest) = some (p, rest) := by
  induction h generalizing fuel rest with
  | nullWord =>
    obtain ⟨fuel, rfl⟩ := exists_fuel hfuel
    rfl
  | trueWord =>
    obtain ⟨fuel, rfl⟩ := exists_fuel hfuel
    rfl
  | falseWord =>
    obtain ⟨fuel, rfl⟩ := exists_fuel hfuel
    rfl
  | numberWord hne hchars hn =>
    obtain ⟨fuel, rfl⟩ := exists_fuel hfuel
    exact readValue_number _ hne hchars hn hrest
  | str h =>
    obtain ⟨fuel, rfl⟩ := exists_fuel hfuel
    rw [List.cons_append, List.append_assoc, Part.kind, readPart, readValue_quote,
      List.singleton_append, readString_of_body h]
    rfl
  | @emptyArr w hw =>
    obtain ⟨fuel, rfl⟩ := exists_fuel hfuel
    rw [List.cons_append, List.append_assoc, Part.kind, readPart, readValue_bracket,
      List.singleton_append, readPart_no_elements hw, skipWs_append hw (by simp [isWs])]
    rfl
  | @arr body vs h ih =>
    obtain ⟨fuel, rfl⟩ := exists_fuel hfuel
    have hsub : readPart number fuel .elements (body ++ ']' :: rest) =
        some (.elements vs, ']' :: rest) := by
      apply ih
      · simp [Part.kind, Kind.rank] at hfuel ⊢
        omega
      · rintro c ⟨⟩
        decide
    rw [List.cons_append, List.append_assoc, List.singleton_append]
    exact readValue_elements hsub
  | @emptyObj w hw =>
    obtain ⟨fuel, rfl⟩ := exists_fuel hfuel
    rw [List.cons_append, List.append_assoc, Part.kind, readPart, readValue_brace,
      List.singleton_append, readPart_no_members hw, skipWs_append hw (by simp [isWs])]
    rfl
  | @obj body ms h ih =>
    obtain ⟨fuel, rfl⟩ := exists_fuel hfuel
    have hsub : readPart number fuel .members (body ++ '}' :: rest) =
        some (.members ms, '}' :: rest) := by
      apply ih
      · simp [Part.kind, Kind.rank] at hfuel ⊢
        omega
      · rintro c ⟨⟩
        decide
    rw [List.cons_append, List.append_assoc, List.singleton_append]
    exact readValue_members hsub
  | @element w body v w' hw h hw' ih =>
    obtain ⟨fuel, rfl⟩ := exists_fuel hfuel
    obtain ⟨⟨c, body', hcons, hc⟩, -⟩ := h.ends
    have hsub : readPart number fuel .value (body ++ (w' ++ rest)) =
        some (.value v, w' ++ rest) := by
      apply ih
      · simp [Part.kind, Kind.rank] at hfuel ⊢
        omega
      · intro c hc
        cases w' with
        | nil => exact (hrest c hc).1
        | cons c' w' =>
          cases hc
          exact isWs_not_numberChar (hw' c List.mem_cons_self)
    have hbody : ∀ c ∈ (body ++ (w' ++ rest)).head?, isWs c = false := by
      intro c' hc'
      rw [hcons] at hc'
      cases hc'
      exact hc
    rw [List.append_assoc, List.append_assoc, Part.kind, readPart,
      readElement_value hw hbody hsub, skipWs_append hw' fun c hc => (hrest c hc).2]
  | @single body v h ih =>
    obtain ⟨fuel, rfl⟩ := exists_fuel hfuel
    have hsub : readPart number fuel .element (body ++ rest) = some (.element v, rest) := by
      apply ih
      · simp [Part.kind, Kind.rank] at hfuel ⊢
        omega
      · exact fun c hc => ⟨(hrest c hc).1, (hrest c hc).2.1⟩
    exact readElements_last hsub fun c hc => (hrest c hc).2.2
  | @more body v body' vs h h' ih ih' =>
    obtain ⟨fuel, rfl⟩ := exists_fuel hfuel
    have hsub : readPart number fuel .element (body ++ ',' :: (body' ++ rest)) =
        some (.element v, ',' :: (body' ++ rest)) := by
      apply ih
      · simp [Part.kind, Kind.rank] at hfuel ⊢
        omega
      · rintro c ⟨⟩
        decide
    have hsub' : readPart number fuel .elements (body' ++ rest) = some (.elements vs, rest) := by
      apply ih'
      · simp [Part.kind, Kind.rank] at hfuel ⊢
        omega
      · exact hrest
    rw [List.append_assoc, List.cons_append]
    exact readElements_more hsub hsub'
  | @member w key value w' body v hw hkey hw' h ih =>
    obtain ⟨fuel, rfl⟩ := exists_fuel hfuel
    have hsub : readPart number fuel .element (body ++ rest) = some (.element v, rest) := by
      apply ih
      · simp [Part.kind, Kind.rank] at hfuel ⊢
        omega
      · exact hrest
    rw [List.append_assoc, List.cons_append, List.append_assoc, List.cons_append,
      List.append_assoc, List.cons_append]
    exact readMember_element hw hkey hw' hsub
  | @lone body key v h ih =>
    obtain ⟨fuel, rfl⟩ := exists_fuel hfuel
    have hsub : readPart number fuel .member (body ++ rest) = some (.member key v, rest) := by
      apply ih
      · simp [Part.kind, Kind.rank] at hfuel ⊢
        omega
      · exact fun c hc => ⟨(hrest c hc).1, (hrest c hc).2.1⟩
    exact readMembers_last hsub fun c hc => (hrest c hc).2.2
  | @others body key v body' ms h h' ih ih' =>
    obtain ⟨fuel, rfl⟩ := exists_fuel hfuel
    have hsub : readPart number fuel .member (body ++ ',' :: (body' ++ rest)) =
        some (.member key v, ',' :: (body' ++ rest)) := by
      apply ih
      · simp [Part.kind, Kind.rank] at hfuel ⊢
        omega
      · rintro c ⟨⟩
        decide
    have hsub' : readPart number fuel .members (body' ++ rest) = some (.members ms, rest) := by
      apply ih'
      · simp [Part.kind, Kind.rank] at hfuel ⊢
        omega
      · exact hrest
    rw [List.append_assoc, List.cons_append]
    exact readMembers_more hsub hsub'

/-- The reader gives every JSON text its value, so it has only one. -/
theorem readText_of_isJsonText {v : Json} (h : IsJsonText number text v) :
    readText number text = some v := by
  have hread : readPart number (5 * text.length + 2) .element (text ++ []) =
      some (.element v, []) :=
    readPart_of_derives h le_rfl fun c hc => nomatch hc
  rw [List.append_nil] at hread
  rw [readText, hread]

end

end JsonText

end Salgil
