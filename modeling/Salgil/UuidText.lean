import Salgil.Profiles

namespace Salgil
set_option autoImplicit true

/-- The value of a `uuid.UUID`. -/
abbrev Uuid128 := Fin (2 ^ 128)

instance neZero_uuid128 : NeZero (2 ^ 128) := ⟨by decide⟩

def hexValue (c : Char) : Option ℕ :=
  if '0' ≤ c ∧ c ≤ '9' then some (c.toNat - 48)
  else if 'a' ≤ c ∧ c ≤ 'f' then some (c.toNat - 87)
  else if 'A' ≤ c ∧ c ≤ 'F' then some (c.toNat - 55)
  else none

def hexDigit (n : ℕ) : Char := Char.ofNat (if n < 10 then 48 + n else 87 + n)

/-- The last digits of a number, most significant first. -/
def hexDigits : ℕ → ℕ → List Char
  | 0, _ => []
  | width + 1, n => hexDigits width (n / 16) ++ [hexDigit (n % 16)]

/-- The rest of the digits of an integer; one underscore may stand before each of them. -/
def readHexDigits (acc : ℕ) : List Char → Option ℕ
  | [] => some acc
  | '_' :: c :: rest => (hexValue c).bind fun digit => readHexDigits (acc * 16 + digit) rest
  | c :: rest => (hexValue c).bind fun digit => readHexDigits (acc * 16 + digit) rest

def dropHexPrefix (digits : List Char) : List Char :=
  match digits with
  | '0' :: x :: rest =>
    if x = 'x' ∨ x = 'X' then
      match rest with
      | '_' :: rest => rest
      | rest => rest
    else digits
  | _ => digits

/-- `int(text, 16)` for a text without minus signs. -/
def pyHexInt (text : List Char) : Option ℕ :=
  let text := ((text.dropWhile pyIsSpace).reverse.dropWhile pyIsSpace).reverse
  let text := match text with
    | '+' :: rest => rest
    | text => text
  match dropHexPrefix text with
  | [] => none
  | c :: rest => (hexValue c).bind fun digit => readHexDigits digit rest

/-- `text.replace(pattern, "")`; `skip` characters of an occurrence are still to be left out. -/
def pyRemove (pattern : List Char) : List Char → ℕ → List Char
  | [], _ => []
  | _ :: text, skip + 1 => pyRemove pattern text skip
  | c :: text, 0 =>
    if pattern.isPrefixOf (c :: text) then pyRemove pattern text (pattern.length - 1)
    else c :: pyRemove pattern text 0

def isBrace (c : Char) : Bool := c = '{' ∨ c = '}'

/-- `uuid.UUID(text)`. -/
def pyUuid (text : String) : Except PyError Uuid128 :=
  let hex := pyRemove "uuid:".toList (pyRemove "urn:".toList text.toList 0) 0
  let hex := ((hex.dropWhile isBrace).reverse.dropWhile isBrace).reverse.filter (· ≠ '-')
  if hex.length ≠ 32 then .error (.valueError "badly formed hexadecimal UUID string")
  else match pyHexInt hex with
    | none => .error (.valueError
        ("invalid literal for int() with base 16: '" ++ String.ofList hex ++ "'"))
    | some n =>
      if h : n < 2 ^ 128 then .ok ⟨n, h⟩
      else .error (.valueError "int is out of range (need a 128-bit value)")

/-- `str(value)`. -/
def uuidText (value : Uuid128) : String :=
  let hex := hexDigits 32 value
  String.ofList (hex.take 8 ++ '-' :: (hex.drop 8).take 4 ++ '-' :: (hex.drop 12).take 4 ++
    '-' :: (hex.drop 16).take 4 ++ '-' :: hex.drop 20)

/-- `_is_uuid`. -/
def isUuid (text : String) : Bool := (pyUuid text).toOption.isSome

theorem hexValue_hexDigit {n : ℕ} (h : n < 16) : hexValue (hexDigit n) = some n := by
  revert n
  decide

/-- The characters of a number are digits. -/
def HexChars (text : List Char) : Prop := ∀ c ∈ text, ∃ n < 16, c = hexDigit n

theorem hexChars_hexDigits (width n : ℕ) : HexChars (hexDigits width n) := by
  induction width generalizing n with
  | zero => simp [HexChars, hexDigits]
  | succ width ih =>
    intro c hc
    rcases List.mem_append.1 hc with hc | hc
    · exact ih (n / 16) c hc
    · exact ⟨n % 16, Nat.mod_lt _ (by decide), List.mem_singleton.1 hc⟩

theorem length_hexDigits (width n : ℕ) : (hexDigits width n).length = width := by
  induction width generalizing n with
  | zero => rfl
  | succ width ih => simp [hexDigits, ih]

theorem HexChars.ne {text : List Char} (h : HexChars text) {c d : Char} (hc : c ∈ text)
    (hd : ∀ n < 16, hexDigit n ≠ d) : c ≠ d := by
  obtain ⟨n, hn, rfl⟩ := h c hc
  exact hd n hn

/-- The number that a list of digits stands for. -/
def hexNumber (acc : ℕ) (text : List Char) : ℕ :=
  text.foldl (fun acc c => acc * 16 + (hexValue c).getD 0) acc

theorem readHexDigits_eq {text : List Char} (h : HexChars text) (acc : ℕ) :
    readHexDigits acc text = some (hexNumber acc text) := by
  induction text generalizing acc with
  | nil => rfl
  | cons c text ih =>
    obtain ⟨n, hn, rfl⟩ := h c List.mem_cons_self
    have hrest : HexChars text := fun c hc => h c (List.mem_cons_of_mem _ hc)
    have hstep : readHexDigits acc (hexDigit n :: text) =
        (hexValue (hexDigit n)).bind fun digit => readHexDigits (acc * 16 + digit) text := by
      have hne : hexDigit n ≠ '_' := h.ne List.mem_cons_self (by decide)
      rw [readHexDigits.eq_def]
      split
      · next heq => cases heq
      · next heq =>
        rw [List.cons.injEq] at heq
        exact absurd heq.1 hne
      · next heq =>
        rw [List.cons.injEq] at heq
        rw [heq.1, heq.2]
    rw [hstep, hexValue_hexDigit hn, Option.bind_some, ih hrest]
    simp [hexNumber, hexValue_hexDigit hn]

theorem hexNumber_hexDigits (width n acc : ℕ) :
    hexNumber acc (hexDigits width n) = acc * 16 ^ width + n % 16 ^ width := by
  induction width generalizing n with
  | zero => simp [hexNumber, hexDigits, Nat.mod_one]
  | succ width ih =>
    have hdigit : hexValue (hexDigit (n % 16)) = some (n % 16) :=
      hexValue_hexDigit (Nat.mod_lt _ (by decide))
    have happend : hexNumber acc (hexDigits width (n / 16) ++ [hexDigit (n % 16)]) =
        hexNumber acc (hexDigits width (n / 16)) * 16 + n % 16 := by
      simp [hexNumber, hdigit]
    rw [hexDigits, happend, ih, pow_succ, Nat.mul_comm (16 ^ width) 16, Nat.mod_mul,
      Nat.mul_left_comm acc]
    omega

theorem pyRemove_eq_self {pattern text : List Char} {p : Char} (hpattern : pattern.head? = some p)
    (h : p ∉ text) : pyRemove pattern text 0 = text := by
  induction text with
  | nil => rfl
  | cons c text ih =>
    rw [List.mem_cons, not_or] at h
    cases pattern with
    | nil => cases hpattern
    | cons q pattern =>
      obtain rfl : q = p := Option.some.inj hpattern
      have hne : (q == c) = false := by simpa using h.1
      simp [pyRemove, List.isPrefixOf, hne, ih h.2]

theorem strip_eq_self {p : Char → Bool} {text : List Char} (h : ∀ c ∈ text, p c = false) :
    ((text.dropWhile p).reverse.dropWhile p).reverse = text := by
  have hdrop : ∀ l : List Char, (∀ c ∈ l, p c = false) → l.dropWhile p = l := by
    intro l hl
    cases l with
    | nil => rfl
    | cons c l => simp [hl c List.mem_cons_self]
  rw [hdrop text h, hdrop text.reverse fun c hc => h c (List.mem_reverse.1 hc),
    List.reverse_reverse]

theorem dropHexPrefix_eq_self {text : List Char} (h : HexChars text) :
    dropHexPrefix text = text := by
  unfold dropHexPrefix
  split
  · next x rest =>
    have hx : x ∈ '0' :: x :: rest := List.mem_cons_of_mem _ List.mem_cons_self
    rw [if_neg]
    exact not_or.2 ⟨h.ne hx (by decide), h.ne hx (by decide)⟩
  · rfl

theorem pyHexInt_eq {text : List Char} (h : HexChars text) (hne : text ≠ []) :
    pyHexInt text = some (hexNumber 0 text) := by
  have hspace : ∀ c ∈ text, pyIsSpace c = false := by
    intro c hc
    obtain ⟨n, hn, rfl⟩ := h c hc
    have hdigit : ∀ n < 16, pyIsSpace (hexDigit n) = false := by decide
    exact hdigit n hn
  cases text with
  | nil => exact absurd rfl hne
  | cons c rest =>
    have hc := h c List.mem_cons_self
    obtain ⟨n, hn, rfl⟩ := hc
    have hrest : HexChars rest := fun c hc => h c (List.mem_cons_of_mem _ hc)
    have hplus : hexDigit n ≠ '+' := h.ne List.mem_cons_self (by decide)
    have hsign : (match hexDigit n :: rest with
        | '+' :: rest => rest
        | text => text) = hexDigit n :: rest := by
      split
      · next heq =>
        rw [List.cons.injEq] at heq
        exact absurd heq.1 hplus
      · rfl
    rw [pyHexInt, strip_eq_self hspace]
    simp only [hsign, dropHexPrefix_eq_self h, hexValue_hexDigit hn, Option.bind_some,
      readHexDigits_eq hrest]
    simp [hexNumber, hexValue_hexDigit hn]

theorem take_drop_append (text : List Char) (m n : ℕ) :
    (text.drop m).take n ++ text.drop (m + n) = text.drop m := by
  rw [← List.drop_drop, List.take_append_drop]

theorem filter_uuidText (value : Uuid128) :
    (uuidText value).toList.filter (· ≠ '-') = hexDigits 32 value := by
  have hhex := hexChars_hexDigits 32 value
  have hkeep : ∀ part : List Char, (∀ c ∈ part, c ∈ hexDigits 32 value) →
      part.filter (· ≠ '-') = part := by
    intro part hpart
    refine List.filter_eq_self.2 fun c hc => ?_
    have hne : c ≠ '-' := hhex.ne (hpart c hc) (by decide)
    simpa using hne
  have hpart : ∀ m n, ((hexDigits 32 value).drop m |>.take n).filter (· ≠ '-') =
      ((hexDigits 32 value).drop m).take n := by
    intro m n
    exact hkeep _ fun c hc => List.mem_of_mem_drop (List.mem_of_mem_take hc)
  have hfirst := hkeep ((hexDigits 32 value).take 8) fun c hc => List.mem_of_mem_take hc
  have hlast := hkeep ((hexDigits 32 value).drop 20) fun c hc => List.mem_of_mem_drop hc
  rw [uuidText, String.toList_ofList]
  simp only [List.filter_append, List.filter_cons, hfirst, hpart, hlast, ne_eq, not_true_eq_false,
    decide_false, Bool.false_eq_true, ↓reduceIte, List.append_assoc]
  rw [take_drop_append _ 16 4, take_drop_append _ 12 4, take_drop_append _ 8 4,
    List.take_append_drop]

theorem pyUuid_uuidText (value : Uuid128) : pyUuid (uuidText value) = .ok value := by
  have hhex := hexChars_hexDigits 32 value
  have hchars : ∀ c ∈ (uuidText value).toList, c = '-' ∨ c ∈ hexDigits 32 value := by
    intro c hc
    by_cases hdash : c = '-'
    · exact .inl hdash
    · right
      rw [← filter_uuidText]
      exact List.mem_filter.2 ⟨hc, by simpa using hdash⟩
  have hother : ∀ d : Char, d ≠ '-' → (∀ n < 16, hexDigit n ≠ d) → d ∉ (uuidText value).toList := by
    intro d hdash hd hmem
    rcases hchars d hmem with h | h
    · exact hdash h
    · exact hhex.ne h hd rfl
  have hu := hother 'u' (by decide) (by decide)
  have hbrace : ∀ c ∈ (uuidText value).toList, isBrace c = false := by
    intro c hc
    have hopen : c ≠ '{' := fun h => hother '{' (by decide) (by decide) (h ▸ hc)
    have hclose : c ≠ '}' := fun h => hother '}' (by decide) (by decide) (h ▸ hc)
    simp [isBrace, hopen, hclose]
  have hlength := length_hexDigits 32 value
  have hne : hexDigits 32 value ≠ [] := by
    intro h
    rw [h] at hlength
    cases hlength
  have hnumber : hexNumber 0 (hexDigits 32 value) = value.val := by
    rw [hexNumber_hexDigits, Nat.zero_mul, Nat.zero_add]
    exact Nat.mod_eq_of_lt value.isLt
  have hurn : pyRemove "urn:".toList (uuidText value).toList 0 = (uuidText value).toList :=
    pyRemove_eq_self (p := 'u') (by decide) hu
  have huuid : pyRemove "uuid:".toList (uuidText value).toList 0 = (uuidText value).toList :=
    pyRemove_eq_self (p := 'u') (by decide) hu
  simp only [pyUuid, hurn, huuid, strip_eq_self hbrace, filter_uuidText, hlength, ne_eq,
    not_true_eq_false, ↓reduceIte, pyHexInt_eq hhex hne, hnumber, value.isLt, ↓reduceDIte]

theorem isUuid_iff {text : String} : isUuid text = true ↔ ∃ value, pyUuid text = .ok value := by
  unfold isUuid
  cases pyUuid text <;> simp [Except.toOption]

end Salgil
