import Salgil.Json
import Salgil.UuidText

namespace Salgil
set_option autoImplicit true

namespace JsonText

/-- Insignificant whitespace. -/
def isWs (c : Char) : Bool := c = ' ' ∨ c = '\t' ∨ c = '\n' ∨ c = '\r'

def Blank (text : List Char) : Prop := ∀ c ∈ text, isWs c = true

def isNumberChar (c : Char) : Bool := c.isDigit ∨ c ∈ ['-', '+', '.', 'e', 'E']

/-- A number as Python has it; a float is the text it shows. -/
inductive Number where
  | int (value : ℤ)
  | float (text : String)

def Number.toJson : Number → Json
  | .int value => .int value
  | .float text => .float text

/-- A character that stands for itself in a string. -/
def isPlain (c : Char) : Bool := 0x20 ≤ c.toNat ∧ c ≠ '"' ∧ c ≠ '\\'

/-- The character that a backslash and one other stand for. -/
def escaped : Char → Option Char
  | '"' => some '"'
  | '\\' => some '\\'
  | '/' => some '/'
  | 'b' => some '\x08'
  | 'f' => some '\x0c'
  | 'n' => some '\n'
  | 'r' => some '\r'
  | 't' => some '\t'
  | _ => none

def hex4 (a b c d : Char) : Option ℕ := do
  return (← hexValue a) * 4096 + (← hexValue b) * 256 + (← hexValue c) * 16 + (← hexValue d)

def isHigh (n : ℕ) : Bool := 0xD800 ≤ n ∧ n < 0xDC00

def isLow (n : ℕ) : Bool := 0xDC00 ≤ n ∧ n < 0xE000

def paired (high low : ℕ) : Char := Char.ofNat (0x10000 + (high - 0xD800) * 0x400 + (low - 0xDC00))

/-- What stands between the quotes of a string, and its characters. -/
inductive StringBody : List Char → List Char → Prop
  | nil : StringBody [] []
  | plain (hc : isPlain c = true) (h : StringBody text value) : StringBody (c :: text) (c :: value)
  | escape (hc : escaped c = some c') (h : StringBody text value) :
    StringBody ('\\' :: c :: text) (c' :: value)
  | unicode (hn : hex4 a b c d = some n) (hhigh : isHigh n = false) (hlow : isLow n = false)
    (h : StringBody text value) :
    StringBody ('\\' :: 'u' :: a :: b :: c :: d :: text) (Char.ofNat n :: value)
  | pair (hhigh : hex4 a b c d = some high) (hlow : hex4 a' b' c' d' = some low)
    (hh : isHigh high = true) (hl : isLow low = true) (h : StringBody text value) :
    StringBody ('\\' :: 'u' :: a :: b :: c :: d :: '\\' :: 'u' :: a' :: b' :: c' :: d' :: text)
      (paired high low :: value)

/-- The dictionary of the members: a name that comes again keeps its place and takes the new
value. -/
def insertEntry (entries : JsonObject) (entry : String × Json) : JsonObject :=
  if entries.any (·.1 = entry.1) then
    entries.map fun other => if other.1 = entry.1 then entry else other
  else entries ++ [entry]

def dictOf (members : List (String × Json)) : JsonObject := members.foldl insertEntry []

/-- The nonterminals of the grammar. -/
inductive Part where
  | value (v : Json)
  | element (v : Json)
  | elements (vs : List Json)
  | member (key : String) (v : Json)
  | members (ms : List (String × Json))

/-- The JSON grammar; `number` tells the numbers among the words of digits, signs, points and
exponents. -/
inductive Derives (number : List Char → Option Number) : List Char → Part → Prop
  | nullWord : Derives number ['n', 'u', 'l', 'l'] (.value .null)
  | trueWord : Derives number ['t', 'r', 'u', 'e'] (.value (.bool true))
  | falseWord : Derives number ['f', 'a', 'l', 's', 'e'] (.value (.bool false))
  | numberWord (hne : token ≠ []) (hchars : ∀ c ∈ token, isNumberChar c = true)
    (hn : number token = some n) : Derives number token (.value n.toJson)
  | str (h : StringBody text value) :
    Derives number ('"' :: (text ++ ['"'])) (.value (.str (String.ofList value)))
  | emptyArr (hw : Blank w) : Derives number ('[' :: (w ++ [']'])) (.value (.arr []))
  | arr (h : Derives number text (.elements vs)) :
    Derives number ('[' :: (text ++ [']'])) (.value (.arr vs))
  | emptyObj (hw : Blank w) : Derives number ('{' :: (w ++ ['}'])) (.value (.obj []))
  | obj (h : Derives number text (.members ms)) :
    Derives number ('{' :: (text ++ ['}'])) (.value (.obj (dictOf ms)))
  | element (hw : Blank w) (h : Derives number text (.value v)) (hw' : Blank w') :
    Derives number (w ++ (text ++ w')) (.element v)
  | single (h : Derives number text (.element v)) : Derives number text (.elements [v])
  | more (h : Derives number text (.element v)) (hrest : Derives number text' (.elements vs)) :
    Derives number (text ++ ',' :: text') (.elements (v :: vs))
  | member (hw : Blank w) (hkey : StringBody key value) (hw' : Blank w')
    (h : Derives number text (.element v)) :
    Derives number (w ++ '"' :: (key ++ '"' :: (w' ++ ':' :: text)))
      (.member (String.ofList value) v)
  | lone (h : Derives number text (.member key v)) : Derives number text (.members [(key, v)])
  | others (h : Derives number text (.member key v))
    (hrest : Derives number text' (.members ms)) :
    Derives number (text ++ ',' :: text') (.members ((key, v) :: ms))

end JsonText

/-- The text is a JSON text of the value. -/
def IsJsonText (number : List Char → Option JsonText.Number) (text : List Char) (v : Json) : Prop :=
  JsonText.Derives number text (.element v)

namespace JsonText

theorem Derives.isJsonText (h : Derives number text (.value v)) : IsJsonText number text v := by
  have hblank : Blank [] := List.forall_mem_nil _
  rw [IsJsonText, ← List.append_nil text, ← List.nil_append (text ++ [])]
  exact .element hblank h hblank

theorem isNumberChar_not_ws {c : Char} (h : isNumberChar c = true) : isWs c = false := by
  rw [isNumberChar, decide_eq_true_iff] at h
  rw [isWs, decide_eq_false_iff_not]
  rintro (rfl | rfl | rfl | rfl) <;> revert h <;> decide

theorem isWs_not_numberChar {c : Char} (h : isWs c = true) : isNumberChar c = false := by
  cases hnumber : isNumberChar c with
  | false => rfl
  | true =>
    rw [isNumberChar_not_ws hnumber] at h
    cases h

theorem StringBody.printable (h : StringBody text value) : ∀ c ∈ text, 0x20 ≤ c.toNat := by
  have hdigit : ∀ {c n}, hexValue c = some n → 0x20 ≤ c.toNat := by
    intro c n hn
    have hle : ∀ {a : Char}, a ≤ c → a.toNat ≤ c.toNat := fun hle => hle
    unfold hexValue at hn
    split at hn
    · next hc => exact le_trans (by decide) (hle hc.1)
    · split at hn
      · next hc => exact le_trans (by decide) (hle hc.1)
      · split at hn
        · next hc => exact le_trans (by decide) (hle hc.1)
        · cases hn
  have hhex : ∀ {a b c d n}, hex4 a b c d = some n → ∀ e ∈ [a, b, c, d], 0x20 ≤ e.toNat := by
    intro a b c d n hn
    simp only [hex4, Option.bind_eq_bind, Option.bind_eq_some_iff] at hn
    obtain ⟨na, ha, nb, hb, nc, hc, nd, hd, -⟩ := hn
    simp [hdigit ha, hdigit hb, hdigit hc, hdigit hd]
  induction h with
  | nil => simp
  | plain hc _ ih =>
    rw [isPlain, decide_eq_true_iff] at hc
    exact List.forall_mem_cons.2 ⟨hc.1, ih⟩
  | @escape c c' text value hc _ ih =>
    have hprintable : 0x20 ≤ c.toNat := by
      unfold escaped at hc
      split at hc
      all_goals first | decide | cases hc
    exact List.forall_mem_cons.2 ⟨by decide, List.forall_mem_cons.2 ⟨hprintable, ih⟩⟩
  | unicode hn _ _ _ ih =>
    have := hhex hn
    simp_all
  | pair hhigh hlow _ _ _ ih =>
    have := hhex hhigh
    have := hhex hlow
    simp_all

theorem Derives.ends (h : Derives number text (.value v)) :
    (∃ c rest, text = c :: rest ∧ isWs c = false) ∧
      ∃ c rest, text = rest ++ [c] ∧ isWs c = false := by
  generalize hp : Part.value v = p at h
  cases h with
  | nullWord => exact ⟨⟨'n', _, rfl, rfl⟩, 'l', ['n', 'u', 'l'], rfl, rfl⟩
  | trueWord => exact ⟨⟨'t', _, rfl, rfl⟩, 'e', ['t', 'r', 'u'], rfl, rfl⟩
  | falseWord => exact ⟨⟨'f', _, rfl, rfl⟩, 'e', ['f', 'a', 'l', 's'], rfl, rfl⟩
  | numberWord hne hchars _ =>
    constructor
    · obtain ⟨c, rest, rfl⟩ := List.exists_cons_of_ne_nil hne
      exact ⟨c, rest, rfl, isNumberChar_not_ws (hchars c List.mem_cons_self)⟩
    · refine ⟨text.getLast hne, text.dropLast, (List.dropLast_append_getLast hne).symm, ?_⟩
      exact isNumberChar_not_ws (hchars _ (List.getLast_mem hne))
  | str _ => exact ⟨⟨'"', _, rfl, rfl⟩, '"', _, (List.cons_append ..).symm, rfl⟩
  | emptyArr _ => exact ⟨⟨'[', _, rfl, rfl⟩, ']', _, (List.cons_append ..).symm, rfl⟩
  | arr _ => exact ⟨⟨'[', _, rfl, rfl⟩, ']', _, (List.cons_append ..).symm, rfl⟩
  | emptyObj _ => exact ⟨⟨'{', _, rfl, rfl⟩, '}', _, (List.cons_append ..).symm, rfl⟩
  | obj _ => exact ⟨⟨'{', _, rfl, rfl⟩, '}', _, (List.cons_append ..).symm, rfl⟩
  | element => cases hp
  | single => cases hp
  | more => cases hp
  | member => cases hp
  | lone => cases hp
  | others => cases hp

theorem Derives.braces (h : Derives number text (.value (.obj entries))) :
    ∃ body, text = '{' :: (body ++ ['}']) := by
  generalize hp : Part.value (.obj entries) = p at h
  cases h with
  | @numberWord token n hne hchars hn => cases n <;> cases hp
  | emptyObj => exact ⟨_, rfl⟩
  | obj => exact ⟨_, rfl⟩
  | _ => cases hp

end JsonText

end Salgil
