import Mathlib.Data.List.Basic
import Mathlib.Data.UInt

namespace Salgil
set_option autoImplicit true

namespace Base64

/-- The characters that stand for six bits each. -/
def alphabet : List Char :=
  "ABCDEFGHIJKLMNOPQRSTUVWXYZabcdefghijklmnopqrstuvwxyz0123456789+/".toList

def sextetChar (n : ℕ) : Char := alphabet.getD (n % 64) '='

/-- The six bits that a character stands for. -/
def sextet (c : Char) : Option ℕ := alphabet.idxOf? c

/-- The characters of 24 bits. -/
def quantum (n : ℕ) : List Char :=
  [sextetChar (n / 262144), sextetChar (n / 4096), sextetChar (n / 64), sextetChar n]

/-- The text of bytes, three by three; what is missing in the last group is padded. -/
def encode : List UInt8 → List Char
  | [] => []
  | [a] => (quantum (a.toNat * 65536)).take 2 ++ ['=', '=']
  | [a, b] => (quantum (a.toNat * 65536 + b.toNat * 256)).take 3 ++ ['=']
  | a :: b :: c :: bytes =>
    quantum (a.toNat * 65536 + b.toNat * 256 + c.toNat) ++ encode bytes

/-- The three bytes of four sextets. -/
def firstByte (a b : ℕ) : UInt8 := UInt8.ofNat (a * 4 + b / 16)

def secondByte (b c : ℕ) : UInt8 := UInt8.ofNat (b * 16 + c / 4)

def thirdByte (c d : ℕ) : UInt8 := UInt8.ofNat (c * 64 + d)

/-- The bytes of a padded group, which must be the last one. -/
def decodeLast (a b c : Char) : Option (List UInt8) := do
  let a ← sextet a
  let b ← sextet b
  if c = '=' then return [firstByte a b]
  let c ← sextet c
  return [firstByte a b, secondByte b c]

/-- The bytes of a text, four characters by four. -/
def decode : List Char → Option (List UInt8)
  | [] => some []
  | a :: b :: c :: d :: text =>
    if d = '=' then if text = [] then decodeLast a b c else none
    else do
      let a ← sextet a
      let b ← sextet b
      let c ← sextet c
      let d ← sextet d
      let bytes ← decode text
      return firstByte a b :: secondByte b c :: thirdByte c d :: bytes
  | _ => none

theorem sextet_sextetChar (n : ℕ) : sextet (sextetChar n) = some (n % 64) := by
  have hall : ∀ n < 64, sextet (alphabet.getD n '=') = some n := by decide +kernel
  exact hall _ (Nat.mod_lt _ (by decide))

theorem sextetChar_ne (n : ℕ) : sextetChar n ≠ '=' := by
  intro h
  have hsome := sextet_sextetChar n
  rw [h] at hsome
  cases hsome

theorem firstByte_eq {n : ℕ} {a : UInt8} (h : n / 65536 = a.toNat) :
    firstByte (n / 262144 % 64) (n / 4096 % 64) = a := by
  have ha := a.toNat_lt
  rw [firstByte, ← UInt8.toNat_inj, UInt8.toNat_ofNat']
  omega

theorem secondByte_eq {n : ℕ} {b : UInt8} (h : n / 256 % 256 = b.toNat) :
    secondByte (n / 4096 % 64) (n / 64 % 64) = b := by
  rw [secondByte, ← UInt8.toNat_inj, UInt8.toNat_ofNat']
  omega

theorem thirdByte_eq {n : ℕ} {c : UInt8} (h : n % 256 = c.toNat) :
    thirdByte (n / 64 % 64) (n % 64) = c := by
  rw [thirdByte, ← UInt8.toNat_inj, UInt8.toNat_ofNat']
  omega

theorem decode_encode (bytes : List UInt8) : decode (encode bytes) = some bytes := by
  induction bytes using encode.induct with
  | case1 => rfl
  | case2 a =>
    have hfirst := firstByte_eq (n := a.toNat * 65536) (a := a) (by omega)
    simp [encode, quantum, decode, decodeLast, sextet_sextetChar, hfirst]
  | case3 a b =>
    have hb := b.toNat_lt
    have hfirst := firstByte_eq (n := a.toNat * 65536 + b.toNat * 256) (a := a) (by omega)
    have hsecond := secondByte_eq (n := a.toNat * 65536 + b.toNat * 256) (b := b) (by omega)
    simp [encode, quantum, decode, decodeLast, sextet_sextetChar, sextetChar_ne, hfirst, hsecond]
  | case4 a b c bytes ih =>
    have hb := b.toNat_lt
    have hc := c.toNat_lt
    generalize hn : a.toNat * 65536 + b.toNat * 256 + c.toNat = n
    have hfirst := firstByte_eq (n := n) (a := a) (by omega)
    have hsecond := secondByte_eq (n := n) (b := b) (by omega)
    have hthird := thirdByte_eq (n := n) (c := c) (by omega)
    simp [encode, hn, quantum, decode, sextet_sextetChar, sextetChar_ne, ih, hfirst, hsecond,
      hthird]

example : encode [0, 0, 128, 63] = "AACAPw==".toList := by decide

end Base64

end Salgil
