import Salgil.UuidText
import Mathlib.Data.List.SplitBy

namespace Salgil
set_option autoImplicit true

def upperHexDigit (n : ℕ) : Char := Char.ofNat (if n < 10 then 48 + n else 55 + n)

def percentByte (byte : UInt8) : List Char :=
  ['%', upperHexDigit (byte.toNat / 16), upperHexDigit (byte.toNat % 16)]

/-- The characters that a component of an address may hold as they are. -/
def isUnreserved (c : Char) : Bool :=
  c ∈ "ABCDEFGHIJKLMNOPQRSTUVWXYZabcdefghijklmnopqrstuvwxyz0123456789-_.!~*'()".toList

/-- `encodeURIComponent`: every other character as the bytes of its UTF-8. -/
def encodeComponent (text : List Char) : List Char :=
  text.flatMap fun c =>
    if isUnreserved c then [c] else (String.utf8EncodeChar c).flatMap percentByte

/-- The bytes of a text, where a percent sign and two hexadecimal digits stand for one. -/
def unquoteToBytes : List Char → List UInt8
  | [] => []
  | '%' :: high :: low :: rest =>
    match hexValue high, hexValue low with
    | some high', some low' => UInt8.ofNat (16 * high' + low') :: unquoteToBytes rest
    | _, _ => 37 :: unquoteToBytes (high :: low :: rest)
  | c :: rest => UInt8.ofNat c.toNat :: unquoteToBytes rest

/-- Strict UTF-8. -/
def decodeUtf8 (bytes : List UInt8) : Option (List Char) :=
  bytes.toByteArray.utf8Decode?.map (·.toList)

def isAsciiChar (c : Char) : Bool := c.toNat < 128

/-- One run of ASCII characters or of others; only the first kind is unquoted. -/
def unquoteRun (run : List Char) : Option (List Char) :=
  if run.all isAsciiChar then decodeUtf8 (unquoteToBytes run) else some run

/-- `unquote(text, errors="strict")`; none is the error of the decoding. -/
def unquote (text : List Char) : Option (List Char) :=
  if '%' ∉ text then some text
  else ((text.splitBy fun a b => isAsciiChar a == isAsciiChar b).mapM unquoteRun).map List.flatten

theorem hexValue_upperHexDigit {n : ℕ} (h : n < 16) : hexValue (upperHexDigit n) = some n := by
  have htable : ∀ k < 16, hexValue (upperHexDigit k) = some k := by decide
  exact htable n h

theorem isUnreserved_upperHexDigit {n : ℕ} (h : n < 16) :
    isUnreserved (upperHexDigit n) = true := by
  have htable : ∀ k < 16, isUnreserved (upperHexDigit k) = true := by decide
  exact htable n h

theorem unquoteToBytes_percentByte (byte : UInt8) (rest : List Char) :
    unquoteToBytes (percentByte byte ++ rest) = byte :: unquoteToBytes rest := by
  have hbyte : byte.toNat < 256 := byte.toNat_lt
  have hhigh : byte.toNat / 16 < 16 := by omega
  have hlow : byte.toNat % 16 < 16 := by omega
  simp only [percentByte, List.cons_append, List.nil_append, unquoteToBytes,
    hexValue_upperHexDigit hhigh, hexValue_upperHexDigit hlow]
  rw [Nat.div_add_mod, UInt8.ofNat_toNat]

theorem unquoteToBytes_percentBytes (bytes : List UInt8) (rest : List Char) :
    unquoteToBytes (bytes.flatMap percentByte ++ rest) = bytes ++ unquoteToBytes rest := by
  induction bytes with
  | nil => rfl
  | cons byte bytes ih =>
    rw [List.flatMap_cons, List.append_assoc, unquoteToBytes_percentByte, ih, List.cons_append]

theorem unquoteToBytes_cons {c : Char} (h : c ≠ '%') (rest : List Char) :
    unquoteToBytes (c :: rest) = UInt8.ofNat c.toNat :: unquoteToBytes rest := by
  rw [unquoteToBytes]
  rintro high low rest' hpercent
  exact absurd hpercent h

theorem unreserved_all {P : Char → Bool} (h : ("ABCDEFGHIJKLMNOPQRSTUVWXYZ" ++
    "abcdefghijklmnopqrstuvwxyz0123456789-_.!~*'()").toList.all P = true) {c : Char}
    (hc : isUnreserved c = true) : P c = true := by
  have hmem : c ∈ ("ABCDEFGHIJKLMNOPQRSTUVWXYZ" ++
      "abcdefghijklmnopqrstuvwxyz0123456789-_.!~*'()").toList := of_decide_eq_true hc
  exact List.all_eq_true.1 h c hmem

theorem unreserved_ascii {c : Char} (h : isUnreserved c = true) : c.toNat < 128 ∧ c ≠ '%' := by
  have hall := unreserved_all (P := fun c => c.toNat < 128 ∧ c ≠ '%') (by decide) h
  simpa using hall

theorem utf8_of_ascii {c : Char} (h : c.toNat < 128) :
    String.utf8EncodeChar c = [UInt8.ofNat c.toNat] := by
  have hle : c.val.toNat ≤ 127 := by
    change c.toNat ≤ 127
    omega
  rw [String.utf8EncodeChar]
  exact if_pos hle

theorem unquoteToBytes_encodeComponent (text : List Char) :
    unquoteToBytes (encodeComponent text) = text.flatMap String.utf8EncodeChar := by
  induction text with
  | nil => rfl
  | cons c text ih =>
    rw [encodeComponent, List.flatMap_cons, ← encodeComponent, List.flatMap_cons]
    split
    · next hplain =>
      obtain ⟨hascii, hpercent⟩ := unreserved_ascii hplain
      rw [List.singleton_append, unquoteToBytes_cons hpercent, ih, utf8_of_ascii hascii,
        List.singleton_append]
    · rw [unquoteToBytes_percentBytes, ih]

/-- The bytes of a text are the only ones that are read as it. -/
theorem decodeUtf8_iff {bytes : List UInt8} {text : List Char} :
    decodeUtf8 bytes = some text ↔ text.flatMap String.utf8EncodeChar = bytes := by
  constructor
  · intro h
    obtain ⟨chars, hchars, rfl⟩ := Option.map_eq_some_iff.1 h
    have hsome : bytes.toByteArray.utf8Decode?.isSome := by
      rw [hchars]
      rfl
    have hback := ByteArray.utf8Encode_get_utf8Decode? (h := hsome)
    simp only [hchars, Option.get_some] at hback
    exact List.toByteArray_inj.1 hback
  · rintro rfl
    have h := List.utf8Decode?_utf8Encode (l := text)
    rw [List.utf8Encode] at h
    rw [decodeUtf8, h]
    rfl

theorem mem_encodeComponent {text : List Char} {c : Char} (hc : c ∈ encodeComponent text) :
    isUnreserved c = true ∨ c = '%' := by
  obtain ⟨d, -, hmem⟩ := List.mem_flatMap.1 hc
  split at hmem
  · next hplain =>
    obtain rfl : c = d := List.mem_singleton.1 hmem
    exact .inl hplain
  · obtain ⟨byte, -, hbyte⟩ := List.mem_flatMap.1 hmem
    have hsize : byte.toNat < 256 := byte.toNat_lt
    simp only [percentByte, List.mem_cons, List.not_mem_nil, or_false] at hbyte
    rcases hbyte with rfl | rfl | rfl
    · exact .inr rfl
    · exact .inl (isUnreserved_upperHexDigit (by omega))
    · exact .inl (isUnreserved_upperHexDigit (by omega))

theorem encodeComponent_ascii (text : List Char) :
    ∀ c ∈ encodeComponent text, isAsciiChar c = true := by
  intro c hc
  rcases mem_encodeComponent hc with hplain | rfl
  · exact decide_eq_true (unreserved_ascii hplain).1
  · decide

theorem utf8EncodeChar_cons (c : Char) : ∃ byte bytes, String.utf8EncodeChar c = byte :: bytes := by
  rw [String.utf8EncodeChar]
  split
  · exact ⟨_, _, rfl⟩
  · split
    · exact ⟨_, _, rfl⟩
    · split
      · exact ⟨_, _, rfl⟩
      · exact ⟨_, _, rfl⟩

theorem encodeComponent_plain {text : List Char} (h : '%' ∉ encodeComponent text) :
    encodeComponent text = text := by
  induction text with
  | nil => rfl
  | cons c text ih =>
    rw [encodeComponent, List.flatMap_cons, ← encodeComponent] at h ⊢
    rw [List.mem_append, not_or] at h
    rw [ih h.2]
    split at h
    · next hplain => rw [if_pos hplain, List.singleton_append]
    · obtain ⟨byte, bytes, hbytes⟩ := utf8EncodeChar_cons c
      rw [hbytes] at h
      exact absurd List.mem_cons_self h.1

theorem unquote_of_ascii {text : List Char} (hascii : ∀ c ∈ text, isAsciiChar c = true)
    (hpercent : '%' ∈ text) : unquote text = decodeUtf8 (unquoteToBytes text) := by
  have hchain : text.IsChain fun a b => isAsciiChar a == isAsciiChar b := by
    apply List.Pairwise.isChain
    apply List.pairwise_of_forall_mem_list
    intro a ha b hb
    rw [hascii a ha, hascii b hb]
    rfl
  rw [unquote, if_neg (not_not.2 hpercent),
    List.splitBy_of_isChain (List.ne_nil_of_mem hpercent) hchain, List.mapM_cons, List.mapM_nil,
    unquoteRun, if_pos (List.all_eq_true.2 hascii)]
  cases decodeUtf8 (unquoteToBytes text) with
  | none => rfl
  | some decoded =>
    change some [decoded].flatten = some decoded
    rw [List.flatten_singleton]

theorem unquote_encodeComponent (text : List Char) :
    unquote (encodeComponent text) = some text := by
  by_cases hpercent : '%' ∈ encodeComponent text
  · rw [unquote_of_ascii (encodeComponent_ascii text) hpercent, unquoteToBytes_encodeComponent,
      decodeUtf8_iff.2 rfl]
  · rw [unquote, if_pos hpercent, encodeComponent_plain hpercent]

theorem unquoteToBytes_ne_nil {text : List Char} (h : text ≠ []) : unquoteToBytes text ≠ [] := by
  intro hnil
  unfold unquoteToBytes at hnil
  split at hnil
  · exact h rfl
  · split at hnil <;> cases hnil
  · cases hnil

theorem unquoteRun_ne_nil {run part : List Char} (h : unquoteRun run = some part)
    (hrun : run ≠ []) : part ≠ [] := by
  rintro rfl
  unfold unquoteRun at h
  split at h
  · rw [decodeUtf8_iff, List.flatMap_nil] at h
    exact unquoteToBytes_ne_nil hrun h.symm
  · exact hrun (Option.some.inj h)

theorem unquote_ne_nil {text decoded : List Char} (h : unquote text = some decoded)
    (htext : text ≠ []) : decoded ≠ [] := by
  unfold unquote at h
  split at h
  · rwa [← Option.some.inj h]
  · obtain ⟨parts, hparts, rfl⟩ := Option.map_eq_some_iff.1 h
    cases hruns : text.splitBy fun a b => isAsciiChar a == isAsciiChar b with
    | nil => exact absurd (List.splitBy_eq_nil.1 hruns) htext
    | cons run runs =>
      have hrun : run ≠ [] := by
        apply List.ne_nil_of_mem_splitBy
        rw [hruns]
        exact List.mem_cons_self
      rw [hruns, List.mapM_cons] at hparts
      obtain ⟨part, hpart, hparts⟩ := Option.bind_eq_some_iff.1 hparts
      obtain ⟨parts, -, hcons⟩ := Option.bind_eq_some_iff.1 hparts
      cases hcons
      rw [List.flatten_cons]
      exact List.append_ne_nil_of_left_ne_nil (unquoteRun_ne_nil hpart hrun) _

end Salgil
