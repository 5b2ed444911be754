import Salgil.JsonReader
import Salgil.KeyedList
import Mathlib.Data.List.Induction
import Mathlib.Data.List.Nodup

namespace Salgil
set_option autoImplicit true

namespace JsonText

/-- How `json.dumps` is called: `ensure_ascii`, and whether `separators` is `(",", ":")` or left
out. -/
structure Style where
  ensureAscii : Bool := true
  compact : Bool := false

/-- What comes after a comma or a colon. -/
def Style.gap (style : Style) : List Char := if style.compact then [] else [' ']

/-- The character that stands after a backslash for another one. -/
def shortEscape : Char → Option Char
  | '"' => some '"'
  | '\\' => some '\\'
  | '\x08' => some 'b'
  | '\x0c' => some 'f'
  | '\n' => some 'n'
  | '\r' => some 'r'
  | '\t' => some 't'
  | _ => none

def unicodeEscape (n : ℕ) : List Char := '\\' :: 'u' :: hexDigits 4 n

/-- One character of a string as `json.dumps` writes it. -/
def writeChar (ensureAscii : Bool) (c : Char) : List Char :=
  match shortEscape c with
  | some c' => ['\\', c']
  | none =>
    if 0x20 ≤ c.toNat ∧ (c.toNat < 0x7F ∨ ensureAscii = false) then [c]
    else if c.toNat < 0x10000 then unicodeEscape c.toNat
    else unicodeEscape (0xD800 + (c.toNat - 0x10000) / 0x400) ++
      unicodeEscape (0xDC00 + (c.toNat - 0x10000) % 0x400)

def writeString (ensureAscii : Bool) (text : List Char) : List Char :=
  '"' :: (text.flatMap (writeChar ensureAscii) ++ ['"'])

/-- The text of a float, for which `json.dumps` has words of its own where it is no number. -/
def writeFloat (text : String) : List Char :=
  if text = "nan" then "NaN".toList
  else if text = "inf" then "Infinity".toList
  else if text = "-inf" then "-Infinity".toList
  else text.toList

mutual

/-- `json.dumps(value)`. -/
def write (style : Style) : Json → List Char
  | .null => ['n', 'u', 'l', 'l']
  | .bool true => ['t', 'r', 'u', 'e']
  | .bool false => ['f', 'a', 'l', 's', 'e']
  | .int value => (toString value).toList
  | .float text => writeFloat text
  | .str value => writeString style.ensureAscii value.toList
  | .arr values => '[' :: (writeItems style values ++ [']'])
  | .obj entries => '{' :: (writeEntries style entries ++ ['}'])

def writeItems (style : Style) : List Json → List Char
  | [] => []
  | [v] => write style v
  | v :: v' :: vs => write style v ++ ',' :: (style.gap ++ writeItems style (v' :: vs))

def writeEntries (style : Style) : List (String × Json) → List Char
  | [] => []
  | [entry] => writeEntry style entry
  | entry :: entry' :: entries =>
    writeEntry style entry ++ ',' :: (style.gap ++ writeEntries style (entry' :: entries))

def writeEntry (style : Style) : String × Json → List Char
  | (key, v) => writeString style.ensureAscii key.toList ++ ':' :: (style.gap ++ write style v)

end

example : write {} (.arr [.int 1, .arr [], .null]) = "[1, [], null]".toList := by decide

/-- A value that can be written and read: the names in a dictionary differ, as they do in Python,
and a float is a number of the grammar, neither infinite nor `nan`. -/
inductive Writable (number : List Char → Option Number) : Json → Prop
  | null : Writable number .null
  | bool : Writable number (.bool value)
  | int : Writable number (.int value)
  | float (hne : text ≠ "") (hchars : ∀ c ∈ text.toList, isNumberChar c = true)
    (hn : number text.toList = some (.float text)) : Writable number (.float text)
  | str : Writable number (.str value)
  | arr (h : ∀ v ∈ values, Writable number v) : Writable number (.arr values)
  | obj (hkeys : (entries.map (·.1)).Nodup) (h : ∀ entry ∈ entries, Writable number entry.2) :
    Writable number (.obj entries)

/-- The integers are among the numbers. -/
def ReadsInts (number : List Char → Option Number) : Prop :=
  ∀ i : ℤ, number (toString i).toList = some (.int i)

/-- No control characters, and only ASCII ones if so chosen. -/
def Clear (ensureAscii : Bool) (text : List Char) : Prop :=
  ∀ c ∈ text, 0x20 ≤ c.toNat ∧ (ensureAscii = true → c.toNat < 0x7F)

section
variable {number : List Char → Option Number} {text value w : List Char} {c : Char} {v : Json}
variable {style : Style} {values : List Json} {entries : List (String × Json)}

theorem gap_blank (style : Style) : Blank style.gap := by
  intro c hc
  unfold Style.gap at hc
  split at hc
  · cases hc
  · rw [List.mem_singleton.1 hc]
    rfl

theorem escaped_shortEscape {c' : Char} (h : shortEscape c = some c') : escaped c' = some c := by
  unfold shortEscape at h
  split at h
  all_goals
    cases h
  all_goals rfl

theorem isPlain_of_shortEscape (h : shortEscape c = none) (hc : 0x20 ≤ c.toNat) :
    isPlain c = true := by
  rw [isPlain, decide_eq_true_iff]
  refine ⟨hc, ?_, ?_⟩
  · rintro rfl
    cases h
  · rintro rfl
    cases h

theorem hex4_hexDigits {n : ℕ} (hn : n < 0x10000) :
    ∃ a b c d, hexDigits 4 n = [a, b, c, d] ∧ hex4 a b c d = some n := by
  refine ⟨_, _, _, _, rfl, ?_⟩
  simp only [hex4, hexValue_hexDigit (Nat.mod_lt _ (by decide : 0 < 16)), Option.bind_eq_bind,
    Option.bind_some, Option.some.injEq, Option.pure_def]
  omega

theorem char_ranges (c : Char) :
    c.toNat < 0xD800 ∨ 0xDFFF < c.toNat ∧ c.toNat < 0x110000 := c.valid

theorem paired_halves (hc : 0x10000 ≤ c.toNat) :
    paired (0xD800 + (c.toNat - 0x10000) / 0x400) (0xDC00 + (c.toNat - 0x10000) % 0x400) = c := by
  have hn : 0x10000 + (0xD800 + (c.toNat - 0x10000) / 0x400 - 0xD800) * 0x400 +
      (0xDC00 + (c.toNat - 0x10000) % 0x400 - 0xDC00) = c.toNat := by omega
  rw [paired, hn, Char.ofNat_toNat]

theorem stringBody_writeChar (ensureAscii : Bool) (c : Char) (h : StringBody text value) :
    StringBody (writeChar ensureAscii c ++ text) (c :: value) := by
  unfold writeChar
  split
  · next c' hc' => exact .escape (escaped_shortEscape hc') h
  · next hshort =>
    have hrange := char_ranges c
    split
    · next hprintable => exact .plain (isPlain_of_shortEscape hshort hprintable.1) h
    · split
      · next hbmp =>
        obtain ⟨a, b, d, e, hdigits, hhex⟩ := hex4_hexDigits hbmp
        have hhigh : isHigh c.toNat = false := by
          rw [isHigh, decide_eq_false_iff_not]
          omega
        have hlow : isLow c.toNat = false := by
          rw [isLow, decide_eq_false_iff_not]
          omega
        have hbody := StringBody.unicode hhex hhigh hlow h
        rw [Char.ofNat_toNat] at hbody
        rw [unicodeEscape, hdigits]
        exact hbody
      · next hbmp =>
        have hhigh : 0xD800 + (c.toNat - 0x10000) / 0x400 < 0xDC00 := by omega
        have hlow : 0xDC00 + (c.toNat - 0x10000) % 0x400 < 0xE000 := by omega
        obtain ⟨a, b, d, e, hdigits, hhex⟩ := hex4_hexDigits (hhigh.trans (by decide))
        obtain ⟨a', b', d', e', hdigits', hhex'⟩ := hex4_hexDigits (hlow.trans (by decide))
        have hbody := StringBody.pair hhex hhex' (by rw [isHigh, decide_eq_true_iff]; omega)
          (by rw [isLow, decide_eq_true_iff]; omega) h
        rw [paired_halves (by omega)] at hbody
        rw [unicodeEscape, unicodeEscape, hdigits, hdigits']
        exact hbody

theorem stringBody_write (ensureAscii : Bool) (value : List Char) :
    StringBody (value.flatMap (writeChar ensureAscii)) value := by
  induction value with
  | nil => exact .nil
  | cons c value ih =>
    rw [List.flatMap_cons]
    exact stringBody_writeChar ensureAscii c ih

theorem derives_writeString (ensureAscii : Bool) (value : String) :
    Derives number (writeString ensureAscii value.toList) (.value (.str value)) := by
  have h : Derives number _ _ := .str (stringBody_write ensureAscii value.toList)
  rw [String.ofList_toList] at h
  exact h

theorem insertEntry_eq (entries : List (String × Json)) (entry : String × Json) :
    insertEntry entries entry = KeyedList.put (·.1) entries entry := rfl

theorem nodup_insertEntry (h : (entries.map (·.1)).Nodup) (entry : String × Json) :
    ((insertEntry entries entry).map (·.1)).Nodup := KeyedList.nodup_put h entry

theorem mem_insertEntry {entry other : String × Json} (h : other ∈ insertEntry entries entry) :
    other ∈ entries ∨ other = entry := KeyedList.mem_put h

theorem lookup_insertEntry (entries : List (String × Json)) (name key : String) (v : Json) :
    (insertEntry entries (name, v)).lookup key =
      if key = name then some v else entries.lookup key := by
  rw [KeyedList.lookup_eq_at?, KeyedList.lookup_eq_at?, insertEntry_eq, KeyedList.at?_put]
  split <;> rfl

theorem insertEntry_new {entry : String × Json} (h : entry.1 ∉ entries.map (·.1)) :
    insertEntry entries entry = entries ++ [entry] := KeyedList.put_new h

theorem dictOf_eq_self (h : (entries.map (·.1)).Nodup) : dictOf entries = entries := by
  induction entries using List.reverseRecOn with
  | nil => rfl
  | append_singleton entries entry ih =>
    rw [List.map_append, List.nodup_append'] at h
    obtain ⟨hentries, -, hdisjoint⟩ := h
    have hnot : entry.1 ∉ entries.map (·.1) := fun hmem =>
      hdisjoint hmem (List.mem_singleton_self _)
    rw [dictOf, List.foldl_append, ← dictOf, ih hentries]
    exact insertEntry_new hnot

theorem derives_writeItems (hne : values ≠ []) (hw : Blank w)
    (h : ∀ v ∈ values, Derives number (write style v) (.value v)) :
    Derives number (w ++ writeItems style values) (.elements values) := by
  induction values generalizing w with
  | nil => exact absurd rfl hne
  | cons v values ih =>
    obtain ⟨hv, hvalues⟩ := List.forall_mem_cons.1 h
    have helement := Derives.element hw hv (List.forall_mem_nil _)
    rw [List.append_nil] at helement
    cases values with
    | nil => exact .single helement
    | cons v' values =>
      rw [writeItems, ← List.append_assoc]
      exact .more helement (ih (List.cons_ne_nil _ _) (gap_blank style) hvalues)

theorem derives_writeEntry {entry : String × Json} (hw : Blank w)
    (h : Derives number (write style entry.2) (.value entry.2)) :
    Derives number (w ++ writeEntry style entry) (.member entry.1 entry.2) := by
  obtain ⟨key, v⟩ := entry
  have hnil : Blank [] := List.forall_mem_nil _
  have helement := Derives.element (gap_blank style) h hnil
  have hmember := Derives.member hw (stringBody_write style.ensureAscii key.toList) hnil helement
  rw [String.ofList_toList] at hmember
  simpa [writeEntry, writeString] using hmember

theorem derives_writeEntries (hne : entries ≠ []) (hw : Blank w)
    (h : ∀ entry ∈ entries, Derives number (write style entry.2) (.value entry.2)) :
    Derives number (w ++ writeEntries style entries) (.members entries) := by
  induction entries generalizing w with
  | nil => exact absurd rfl hne
  | cons entry entries ih =>
    obtain ⟨hentry, hentries⟩ := List.forall_mem_cons.1 h
    have hmember := derives_writeEntry hw hentry
    cases entries with
    | nil => exact .lone hmember
    | cons entry' entries =>
      rw [writeEntries, ← List.append_assoc]
      exact .others hmember (ih (List.cons_ne_nil _ _) (gap_blank style) hentries)

theorem toString_int_chars (i : ℤ) :
    (toString i).toList ≠ [] ∧ ∀ c ∈ (toString i).toList, isNumberChar c = true := by
  have hdigit : ∀ {n c}, c ∈ Nat.toDigits 10 n → isNumberChar c = true := by
    intro n c hc
    rw [isNumberChar, decide_eq_true_iff]
    exact .inl (Nat.isDigit_of_mem_toDigits (by decide) (by decide) hc)
  rw [Int.toString_eq_repr, Int.repr_eq_if]
  split
  · next hpos =>
    rw [Nat.toList_repr]
    exact ⟨Nat.toDigits_ne_nil, fun c hc => hdigit hc⟩
  · next hneg =>
    rw [String.toList_append, Nat.toList_repr]
    constructor
    · simp
    · intro c hc
      rcases List.mem_append.1 hc with hminus | hc
      · rw [List.mem_singleton.1 hminus]
        rfl
      · exact hdigit hc

theorem writeFloat_number {text : String} (hchars : ∀ c ∈ text.toList, isNumberChar c = true) :
    writeFloat text = text.toList := by
  have hword : ∀ word : String, 'n' ∈ word.toList → text ≠ word := by
    rintro word hn rfl
    cases hchars 'n' hn
  rw [writeFloat, if_neg (hword _ (by decide)), if_neg (hword _ (by decide)),
    if_neg (hword _ (by decide))]

theorem derives_write (hints : ReadsInts number) (style : Style) (h : Writable number v) :
    Derives number (write style v) (.value v) := by
  induction h with
  | null => exact .nullWord
  | @bool value =>
    cases value with
    | true => exact .trueWord
    | false => exact .falseWord
  | @int i =>
    obtain ⟨hne, hchars⟩ := toString_int_chars i
    exact .numberWord hne hchars (hints i)
  | @float text hne hchars hn =>
    rw [write, writeFloat_number hchars]
    exact .numberWord (by simpa using hne) hchars hn
  | str => exact derives_writeString _ _
  | @arr values _ ih =>
    cases values with
    | nil => exact .emptyArr (List.forall_mem_nil _)
    | cons v values =>
      exact .arr (derives_writeItems (List.cons_ne_nil _ _) (List.forall_mem_nil _) ih)
  | @obj entries hkeys _ ih =>
    cases entries with
    | nil => exact .emptyObj (List.forall_mem_nil _)
    | cons entry entries =>
      have hmembers :=
        derives_writeEntries (List.cons_ne_nil entry entries) (List.forall_mem_nil _) ih
      have hobj := Derives.obj hmembers
      rw [dictOf_eq_self hkeys] at hobj
      exact hobj

theorem Clear.append {ensureAscii : Bool} {text' : List Char} (h : Clear ensureAscii text)
    (h' : Clear ensureAscii text') : Clear ensureAscii (text ++ text') :=
  List.forall_mem_append.2 ⟨h, h'⟩

theorem Clear.cons {ensureAscii : Bool} (hc : 0x20 ≤ c.toNat ∧ c.toNat < 0x7F)
    (h : Clear ensureAscii text) : Clear ensureAscii (c :: text) :=
  List.forall_mem_cons.2 ⟨⟨hc.1, fun _ => hc.2⟩, h⟩

theorem clear_writeChar (ensureAscii : Bool) (c : Char) :
    Clear ensureAscii (writeChar ensureAscii c) := by
  have hescape : ∀ n, ∀ c' ∈ unicodeEscape n, 0x20 ≤ c'.toNat ∧ c'.toNat < 0x7F := by
    intro n c' hc'
    have hdigit : ∀ k < 16, 0x20 ≤ (hexDigit k).toNat ∧ (hexDigit k).toNat < 0x7F := by decide
    rw [unicodeEscape, List.mem_cons, List.mem_cons] at hc'
    rcases hc' with rfl | rfl | hc'
    · decide
    · decide
    · obtain ⟨k, hk, rfl⟩ := hexChars_hexDigits 4 n c' hc'
      exact hdigit k hk
  intro c' hc'
  unfold writeChar at hc'
  split at hc'
  · next short hshort =>
    have hprintable : 0x20 ≤ short.toNat ∧ short.toNat < 0x7F := by
      unfold shortEscape at hshort
      split at hshort
      all_goals
        cases hshort
      all_goals decide
    rw [List.mem_cons, List.mem_singleton] at hc'
    rcases hc' with rfl | rfl
    · exact ⟨by decide, fun _ => by decide⟩
    · exact ⟨hprintable.1, fun _ => hprintable.2⟩
  · split at hc'
    · next hplain =>
      rw [List.mem_singleton.1 hc']
      refine ⟨hplain.1, fun hascii => hplain.2.resolve_right ?_⟩
      rw [hascii]
      decide
    · split at hc'
      · exact ⟨(hescape _ c' hc').1, fun _ => (hescape _ c' hc').2⟩
      · rcases List.mem_append.1 hc' with hc' | hc'
        · exact ⟨(hescape _ c' hc').1, fun _ => (hescape _ c' hc').2⟩
        · exact ⟨(hescape _ c' hc').1, fun _ => (hescape _ c' hc').2⟩

theorem clear_writeString (ensureAscii : Bool) (value : List Char) :
    Clear ensureAscii (writeString ensureAscii value) := by
  have hbody : Clear ensureAscii (value.flatMap (writeChar ensureAscii)) := by
    intro c hc
    obtain ⟨c', -, hc'⟩ := List.mem_flatMap.1 hc
    exact clear_writeChar ensureAscii c' c hc'
  exact .cons (by decide) (hbody.append (.cons (by decide) (List.forall_mem_nil _)))

theorem clear_gap (style : Style) : Clear style.ensureAscii style.gap := by
  unfold Style.gap
  split
  · exact List.forall_mem_nil _
  · exact .cons (by decide) (List.forall_mem_nil _)

theorem clear_writeItems (h : ∀ v ∈ values, Clear style.ensureAscii (write style v)) :
    Clear style.ensureAscii (writeItems style values) := by
  induction values with
  | nil => exact List.forall_mem_nil _
  | cons v values ih =>
    obtain ⟨hv, hvalues⟩ := List.forall_mem_cons.1 h
    cases values with
    | nil => exact hv
    | cons v' values =>
      rw [writeItems]
      exact hv.append (.cons (by decide) ((clear_gap style).append (ih hvalues)))

theorem clear_writeEntries (h : ∀ entry ∈ entries, Clear style.ensureAscii (write style entry.2)) :
    Clear style.ensureAscii (writeEntries style entries) := by
  have hentry : ∀ entry : String × Json, Clear style.ensureAscii (write style entry.2) →
      Clear style.ensureAscii (writeEntry style entry) := by
    rintro ⟨key, v⟩ hv
    rw [writeEntry]
    exact (clear_writeString _ _).append (.cons (by decide) ((clear_gap style).append hv))
  induction entries with
  | nil => exact List.forall_mem_nil _
  | cons entry entries ih =>
    obtain ⟨hfirst, hentries⟩ := List.forall_mem_cons.1 h
    cases entries with
    | nil => exact hentry entry hfirst
    | cons entry' entries =>
      rw [writeEntries]
      exact (hentry entry hfirst).append
        (.cons (by decide) ((clear_gap style).append (ih hentries)))

theorem clear_of_ascii (ensureAscii : Bool)
    (h : (text.all fun c => 0x20 ≤ c.toNat ∧ c.toNat < 0x7F) = true) : Clear ensureAscii text := by
  intro c hc
  have hrange := of_decide_eq_true (List.all_eq_true.1 h c hc)
  exact ⟨hrange.1, fun _ => hrange.2⟩

theorem clear_of_numberChars (ensureAscii : Bool) (h : ∀ c ∈ text, isNumberChar c = true) :
    Clear ensureAscii text := by
  apply clear_of_ascii
  rw [List.all_eq_true]
  intro c hc
  have hnumber := h c hc
  rw [isNumberChar, decide_eq_true_iff, Char.isDigit, Bool.and_eq_true, decide_eq_true_iff,
    decide_eq_true_iff] at hnumber
  rw [decide_eq_true_iff]
  rcases hnumber with ⟨hfirst, hlast⟩ | hother
  · have hle : ∀ {a b : Char}, a.val ≤ b.val → a.toNat ≤ b.toNat := fun hle => hle
    exact ⟨le_trans (by decide) (hle hfirst), lt_of_le_of_lt (hle hlast) (by decide)⟩
  · simp only [List.mem_cons, List.not_mem_nil, or_false] at hother
    rcases hother with rfl | rfl | rfl | rfl | rfl <;> decide

/-- No control character is written, and with `ensure_ascii` only ASCII. -/
theorem clear_write (style : Style) (h : Writable number v) :
    Clear style.ensureAscii (write style v) := by
  have hnil : Clear style.ensureAscii [] := List.forall_mem_nil _
  induction h with
  | null =>
    rw [write]
    exact clear_of_ascii _ (by decide)
  | @bool value =>
    cases value with
    | true =>
      rw [write]
      exact clear_of_ascii _ (by decide)
    | false =>
      rw [write]
      exact clear_of_ascii _ (by decide)
  | @int i => exact clear_of_numberChars _ (toString_int_chars i).2
  | float _ hchars _ =>
    rw [write, writeFloat_number hchars]
    exact clear_of_numberChars _ hchars
  | str => exact clear_writeString _ _
  | arr _ ih => exact .cons (by decide) ((clear_writeItems ih).append (.cons (by decide) hnil))
  | obj _ _ ih => exact .cons (by decide) ((clear_writeEntries ih).append (.cons (by decide) hnil))

theorem readText_write (hints : ReadsInts number) (style : Style) (h : Writable number v) :
    readText number (write style v) = some v :=
  readText_of_isJsonText (derives_write hints style h).isJsonText

/-- The words of digits, with a sign or without, are numbers. -/
def integerWord (token : List Char) : Option Number :=
  match token with
  | '-' :: digits => if digits.all Char.isDigit then
      some (.int (-(Nat.ofDigitChars 10 digits 0 : ℕ))) else none
  | digits => if digits.all Char.isDigit then
      some (.int (Nat.ofDigitChars 10 digits 0 : ℕ)) else none

theorem readsInts_integerWord : ReadsInts integerWord := by
  have hdigits : ∀ n : ℕ, (Nat.toDigits 10 n).all Char.isDigit = true := fun n =>
    List.all_eq_true.2 fun c hc => Nat.isDigit_of_mem_toDigits (by decide) (by decide) hc
  intro i
  rw [Int.toString_eq_repr, Int.repr_eq_if]
  split
  · next hpos =>
    have hne : Nat.toDigits 10 i.toNat ≠ [] := Nat.toDigits_ne_nil
    obtain ⟨c, rest, hcons⟩ := List.exists_cons_of_ne_nil hne
    have hc : c ≠ '-' := by
      rintro rfl
      have := List.all_eq_true.1 (hdigits i.toNat) '-' (hcons ▸ List.mem_cons_self)
      cases this
    rw [Nat.toList_repr, integerWord]
    · rw [if_pos (hdigits _), Nat.ofDigitChars_ten_toDigits, Int.toNat_of_nonneg hpos]
    · rintro digits heq
      rw [hcons] at heq
      exact hc (List.cons.inj heq).1
  · next hneg =>
    have hminus : ("-" ++ (-i).toNat.repr).toList = '-' :: Nat.toDigits 10 (-i).toNat := by
      rw [String.toList_append, Nat.toList_repr]
      rfl
    rw [hminus, integerWord, if_pos (hdigits _), Nat.ofDigitChars_ten_toDigits,
      Int.toNat_of_nonneg (by omega), Int.neg_neg]

/-- The words of integers, and of floats with a single nought after the point. -/
def wholeWord (token : List Char) : Option Number :=
  let digits := token.takeWhile (· ≠ '.')
  if token = digits ++ ".0".toList then
    (integerWord digits).map fun _ => .float (String.ofList token)
  else integerWord token

/-- The text of a float that is an integer. -/
def wholeText (i : ℤ) : String := toString i ++ ".0"

def wholeValue (text : String) : Option ℤ :=
  match integerWord (text.toList.takeWhile (· ≠ '.')) with
  | some (.int i) => some i
  | _ => none

theorem not_point_of_integerWord {token : List Char} {n : Number} (h : integerWord token = some n) :
    ∀ c ∈ token, decide (c ≠ '.') = true := by
  have hdigits : ∀ {digits : List Char}, digits.all Char.isDigit = true →
      ∀ c ∈ digits, decide (c ≠ '.') = true := by
    rintro digits hall c hc
    rw [decide_eq_true_iff]
    rintro rfl
    cases List.all_eq_true.1 hall _ hc
  unfold integerWord at h
  split at h
  · split at h
    · next hall => exact List.forall_mem_cons.2 ⟨by decide, hdigits hall⟩
    · cases h
  · split at h
    · next hall => exact hdigits hall
    · cases h

theorem not_point_int (i : ℤ) : ∀ c ∈ (toString i).toList, decide (c ≠ '.') = true :=
  not_point_of_integerWord (readsInts_integerWord i)

theorem takeWhile_wholeText (i : ℤ) :
    (wholeText i).toList.takeWhile (· ≠ '.') = (toString i).toList := by
  rw [wholeText, String.toList_append, List.takeWhile_append_of_pos (not_point_int i)]
  exact List.append_nil _

theorem readsInts_wholeWord : ReadsInts wholeWord := by
  intro i
  simp only [wholeWord, List.takeWhile_eq_self_iff.2 (not_point_int i)]
  rw [if_neg (by simp), readsInts_integerWord]

theorem wholeValue_wholeText (i : ℤ) : wholeValue (wholeText i) = some i := by
  rw [wholeValue, takeWhile_wholeText, readsInts_integerWord]

theorem writable_wholeText (i : ℤ) : Writable wholeWord (.float (wholeText i)) := by
  have htext : (wholeText i).toList = (toString i).toList ++ ".0".toList :=
    String.toList_append
  obtain ⟨hne, hchars⟩ := toString_int_chars i
  apply Writable.float
  · intro hempty
    rw [hempty] at htext
    exact hne (List.append_eq_nil_iff.1 htext.symm).1
  · rw [htext]
    intro c hc
    rcases List.mem_append.1 hc with hc | hc
    · exact hchars c hc
    · exact List.all_eq_true.1 (by decide : ".0".toList.all isNumberChar = true) c hc
  · simp only [wholeWord, takeWhile_wholeText, ← htext, ↓reduceIte, String.ofList_toList]
    rw [readsInts_integerWord, Option.map_some]

end

end JsonText

end Salgil
