import Salgil.Profiles
import Mathlib.Data.List.TakeWhile

namespace Salgil
set_option autoImplicit true

/-- `text.strip()`. -/
def stripChars (text : List Char) : List Char :=
  ((text.dropWhile pyIsSpace).reverse.dropWhile pyIsSpace).reverse

/-- What the newlines of a file become where it is read as a text. -/
def universalNewlines : List Char → List Char
  | [] => []
  | '\r' :: '\n' :: rest => '\n' :: universalNewlines rest
  | '\r' :: rest => '\n' :: universalNewlines rest
  | c :: rest => c :: universalNewlines rest

/-- The characters at which `str.splitlines` ends a line. -/
def isLineEnd (c : Char) : Bool :=
  c.toNat ∈ [0x0A, 0x0B, 0x0C, 0x0D, 0x1C, 0x1D, 0x1E, 0x85, 0x2028, 0x2029]

/-- The lines of a text, after what has been read of the first one. -/
def splitLines (line : List Char) : List Char → List (List Char)
  | [] => if line.isEmpty then [] else [line]
  | '\r' :: '\n' :: rest => line :: splitLines [] rest
  | c :: rest => if isLineEnd c then line :: splitLines [] rest else splitLines (line ++ [c]) rest

/-- `text.splitlines()`. -/
def pySplitLines (text : List Char) : List (List Char) := splitLines [] text

example : pySplitLines ['a', '\r', '\n', '\n', 'b'] = [['a'], [], ['b']] := by decide

section
variable {line text rest before after : List Char} {c : Char}

theorem pyStrip_eq (s : String) : pyStrip s = String.ofList (stripChars s.toList) := rfl

theorem stripChars_of_space (h : ∀ c ∈ text, pyIsSpace c = true) : stripChars text = [] := by
  have hnil : text.dropWhile pyIsSpace = [] := List.dropWhile_eq_nil_iff.2 h
  rw [stripChars, hnil]
  rfl

theorem stripChars_append (hbefore : ∀ c ∈ before, pyIsSpace c = true)
    (hafter : ∀ c ∈ after, pyIsSpace c = true)
    (hfirst : ∃ c rest, text = c :: rest ∧ pyIsSpace c = false)
    (hlast : ∃ c rest, text = rest ++ [c] ∧ pyIsSpace c = false) :
    stripChars (before ++ (text ++ after)) = text := by
  obtain ⟨c, rest, hcons, hc⟩ := hfirst
  obtain ⟨c', rest', hconcat, hc'⟩ := hlast
  have hleft : (before ++ (text ++ after)).dropWhile pyIsSpace = text ++ after := by
    rw [List.dropWhile_append_of_pos hbefore, hcons, List.cons_append,
      List.dropWhile_cons_of_neg (by simp [hc])]
  rw [stripChars, hleft, List.reverse_append,
    List.dropWhile_append_of_pos fun c hmem => hafter c (List.mem_reverse.1 hmem), hconcat,
    List.reverse_append, List.reverse_singleton, List.singleton_append,
    List.dropWhile_cons_of_neg (by simp [hc']), List.reverse_cons, List.reverse_reverse]

theorem universalNewlines_cons (hc : c ≠ '\r') :
    universalNewlines (c :: rest) = c :: universalNewlines rest := by
  rw [universalNewlines]
  · exact fun _ hcr _ => absurd hcr hc
  · exact fun hcr => absurd hcr hc

theorem universalNewlines_cr (h : ∀ c ∈ rest.head?, c ≠ '\n') :
    universalNewlines ('\r' :: rest) = '\n' :: universalNewlines rest := by
  rw [universalNewlines]
  rintro rest' rfl
  exact h '\n' rfl rfl

theorem mem_universalNewlines (h : c ∈ universalNewlines text) :
    c = '\n' ∨ c ∈ text ∧ c ≠ '\r' := by
  fun_induction universalNewlines text with
  | case1 => cases h
  | case2 rest ih => grind
  | case3 rest hne ih => grind
  | case4 c rest hne hne' ih => grind

theorem mem_universalNewlines_of_mem (h : c ∈ text) (hc : c ≠ '\r') :
    c ∈ universalNewlines text := by
  fun_induction universalNewlines text with
  | case1 => cases h
  | case2 rest ih => grind
  | case3 rest hne ih => grind
  | case4 c rest hne hne' ih => grind

theorem universalNewlines_eq_self (h : '\r' ∉ text) : universalNewlines text = text := by
  induction text with
  | nil => rfl
  | cons c text ih =>
    rw [List.mem_cons, not_or] at h
    rw [universalNewlines_cons (Ne.symm h.1), ih h.2]

/-- A carriage return at the end of one part would take the newline at the start of the other. -/
theorem universalNewlines_append
    (h : (∀ c ∈ text.getLast?, c ≠ '\r') ∨ ∀ c ∈ rest.head?, c ≠ '\n') :
    universalNewlines (text ++ rest) = universalNewlines text ++ universalNewlines rest := by
  have htail : ∀ {first : Char} {text : List Char},
      ((∀ c ∈ (first :: text).getLast?, c ≠ '\r') ∨ ∀ c ∈ rest.head?, c ≠ '\n') →
        (∀ c ∈ text.getLast?, c ≠ '\r') ∨ ∀ c ∈ rest.head?, c ≠ '\n' := by
    intro first text h
    refine h.imp_left fun h c' hc' => h c' ?_
    rw [List.getLast?_cons, Option.mem_def.1 hc']
    rfl
  fun_induction universalNewlines text with
  | case1 => rfl
  | case2 text ih =>
    rw [List.cons_append, List.cons_append, universalNewlines, ih (htail (htail h)),
      List.cons_append]
  | case3 text hne ih =>
    have hhead : ∀ c ∈ (text ++ rest).head?, c ≠ '\n' := by
      cases text with
      | nil => exact h.resolve_left fun h => h '\r' rfl rfl
      | cons c text =>
        rintro c' hc' rfl
        cases hc'
        exact hne text rfl
    rw [List.cons_append, universalNewlines_cr hhead, ih (htail h), List.cons_append]
  | case4 c text hne hne' ih =>
    have hc : c ≠ '\r' := hne'
    rw [List.cons_append, universalNewlines_cons hc, ih (htail h), List.cons_append]

theorem splitLines_cons (hc : c ≠ '\r') : splitLines line (c :: rest) =
    if isLineEnd c then line :: splitLines [] rest else splitLines (line ++ [c]) rest := by
  rw [splitLines]
  rintro rest' rfl
  exact absurd rfl hc

theorem splitLines_append (h : ∀ c ∈ text, isLineEnd c = false) :
    splitLines line (text ++ rest) = splitLines (line ++ text) rest := by
  induction text generalizing line with
  | nil => rw [List.nil_append, List.append_nil]
  | cons c text ih =>
    obtain ⟨hc, htext⟩ := List.forall_mem_cons.1 h
    have hne : c ≠ '\r' := by
      rintro rfl
      cases hc
    rw [List.cons_append, splitLines_cons hne, if_neg (by simp [hc]), ih htext, List.append_assoc,
      List.singleton_append]

end

end Salgil
