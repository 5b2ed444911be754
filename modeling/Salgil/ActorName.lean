import Salgil.PercentEncoding
import Salgil.ProductionStart
import Salgil.TextLines

namespace Salgil
set_option autoImplicit true

/-- `actor_name`: who is named in the records of a request; `header` is the `X-Actor` that it sent.
A header that cannot be decoded is taken as it is. -/
def actorName (header : Option String) (current : Principal) : String :=
  match header with
  | some header =>
    if header ≠ "" ∧ pyStrip header ≠ "" then
      let raw := pyStrip header
      pyTake 64 (((unquote raw.toList).map String.ofList).getD raw)
    else current.role ++ ":" ++ current.keyId
  | none => current.role ++ ":" ++ current.keyId

/-- What the interfaces send for a name. -/
def actorHeader (name : String) : String := String.ofList (encodeComponent name.toList)

theorem stripChars_self {text : List Char} (h : ∀ c ∈ text, pyIsSpace c = false) :
    stripChars text = text := by
  have hdrop : ∀ l : List Char, (∀ c ∈ l, pyIsSpace c = false) → l.dropWhile pyIsSpace = l := by
    intro l hl
    cases l with
    | nil => rfl
    | cons c l => exact List.dropWhile_cons_of_neg (by simp [hl c List.mem_cons_self])
  rw [stripChars, hdrop text h, hdrop _ fun c hc => h c (List.mem_reverse.1 hc),
    List.reverse_reverse]

theorem encodeComponent_unspaced (text : List Char) :
    ∀ c ∈ encodeComponent text, pyIsSpace c = false := by
  intro c hc
  rcases mem_encodeComponent hc with hplain | rfl
  · simpa using unreserved_all (P := fun c => !pyIsSpace c) (by decide) hplain
  · decide

theorem encodeComponent_ne_nil {text : List Char} (h : text ≠ []) : encodeComponent text ≠ [] := by
  intro hnil
  have hback := unquote_encodeComponent text
  rw [hnil] at hback
  exact h (Option.some.inj hback).symm

theorem pyStrip_actorHeader (name : String) : pyStrip (actorHeader name) = actorHeader name := by
  rw [pyStrip_eq, actorHeader, String.toList_ofList, stripChars_self (encodeComponent_unspaced _)]

theorem ofList_eq_empty {text : List Char} : String.ofList text = "" ↔ text = [] := by
  rw [← String.toList_inj, String.toList_ofList]
  rfl

theorem actorName_encoded {name : String} (h : name ≠ "") (current : Principal) :
    actorName (some (actorHeader name)) current = pyTake 64 name := by
  have hname : name.toList ≠ [] := by
    rw [Ne, ← ofList_eq_empty, String.ofList_toList]
    exact h
  have hheader : actorHeader name ≠ "" := by
    rw [actorHeader, Ne, ofList_eq_empty]
    exact encodeComponent_ne_nil hname
  rw [actorName]
  simp only [pyStrip_actorHeader]
  rw [if_pos ⟨hheader, hheader⟩, actorHeader, String.toList_ofList, unquote_encodeComponent]
  simp

theorem actorName_plain {header : String} (hpercent : '%' ∉ header.toList)
    (hstrip : pyStrip header ≠ "") (current : Principal) :
    actorName (some header) current = pyTake 64 (pyStrip header) := by
  have hheader : header ≠ "" := by
    rintro rfl
    exact hstrip rfl
  have hraw : '%' ∉ (pyStrip header).toList := by
    intro hmem
    rw [pyStrip, String.toList_ofList, List.mem_reverse] at hmem
    have hreverse := (List.dropWhile_suffix pyIsSpace).subset hmem
    rw [List.mem_reverse] at hreverse
    exact hpercent ((List.dropWhile_suffix pyIsSpace).subset hreverse)
  rw [actorName]
  simp only
  rw [if_pos ⟨hheader, hstrip⟩, unquote, if_pos hraw]
  simp

theorem length_pyTake (n : ℕ) (text : String) : (pyTake n text).length ≤ n := by
  rw [pyTake, String.length_ofList, List.length_take]
  exact Nat.min_le_left _ _

theorem pyTake_ne_empty {n : ℕ} {text : String} (htext : text ≠ "") (hn : n ≠ 0) :
    pyTake n text ≠ "" := by
  have hchars : text.toList ≠ [] := by
    rw [Ne, ← ofList_eq_empty, String.ofList_toList]
    exact htext
  rw [pyTake, Ne, ofList_eq_empty, List.take_eq_nil_iff, not_or]
  exact ⟨hn, hchars⟩

theorem authenticate_label {settings : Settings} {headers : AuthHeaders} {current : Principal}
    (h : authenticate headers settings = .ok current) :
    current.role.length ≤ 8 ∧ current.keyId.length ≤ 9 := by
  have hroles : settings.ValidRoles := by
    cases hmap : settings.apiKeyMap with
    | error raised =>
      rw [authenticate, Settings.authEnabled, hmap] at h
      cases h
    | ok mapping => exact Settings.apiKeyMap_isOk.1 ⟨mapping, hmap⟩
  by_cases hkeys : settings.kept.keys = []
  · rw [authenticate_disabled hroles hkeys] at h
    cases h
    decide
  · obtain ⟨token, -, hconfigured, -, hid⟩ := (authenticate_ok hroles hkeys).1 h
    have hshort : ∀ role ∈ roles, role.length ≤ 8 := by decide
    refine ⟨hshort _ (Settings.role_of_configured hroles hconfigured), ?_⟩
    have hprefix := length_pyTake 4 token
    have hdots : "…".length = 1 := by decide
    rw [hid, String.length_append, hdots]
    omega

theorem actorName_fits {settings : Settings} {headers : AuthHeaders} {current : Principal}
    (h : authenticate headers settings = .ok current) (header : Option String) :
    actorName header current ≠ "" ∧ (actorName header current).length ≤ 64 := by
  obtain ⟨hrole, hkey⟩ := authenticate_label h
  have hcolon : ":".length = 1 := by decide
  have hlabel : current.role ++ ":" ++ current.keyId ≠ "" ∧
      (current.role ++ ":" ++ current.keyId).length ≤ 64 := by
    constructor
    · intro hempty
      have hlength := congrArg String.length hempty
      rw [String.length_append, String.length_append, hcolon, String.length_empty] at hlength
      omega
    · rw [String.length_append, String.length_append, hcolon]
      omega
  cases header with
  | none => exact hlabel
  | some header =>
    rw [actorName]
    simp only
    split
    · next hgiven =>
      refine ⟨pyTake_ne_empty ?_ (by decide), length_pyTake 64 _⟩
      have hraw : (pyStrip header).toList ≠ [] := by
        rw [Ne, ← ofList_eq_empty, String.ofList_toList]
        exact hgiven.2
      cases hdecoded : unquote (pyStrip header).toList with
      | none => exact hgiven.2
      | some decoded =>
        rw [Option.map_some, Option.getD_some, Ne, ofList_eq_empty]
        exact unquote_ne_nil hdecoded hraw
    · exact hlabel

/-- The records name whom the interfaces send, and always somebody whom they can hold. -/
theorem actor_recorded {settings : Settings} {headers : AuthHeaders} {current : Principal}
    (h : authenticate headers settings = .ok current) :
    (∀ name, name ≠ "" → actorName (some (actorHeader name)) current = pyTake 64 name) ∧
    (∀ header, '%' ∉ header.toList → pyStrip header ≠ "" →
      actorName (some header) current = pyTake 64 (pyStrip header)) ∧
    ∀ header, actorName header current ≠ "" ∧ (actorName header current).length ≤ 64 :=
  ⟨fun _ hname => actorName_encoded hname current,
    fun _ hpercent hstrip => actorName_plain hpercent hstrip current, actorName_fits h⟩

/-- The example of the source. -/
theorem actor_recorded_kim :
    authenticate { xApiKey := some "dev-operator" } devSettings = .ok ⟨"dev-…", "operator"⟩ ∧
    actorName (some "%EA%B9%80%EA%B3%BC%EC%9E%A5") ⟨"dev-…", "operator"⟩ = "김과장" := by
  have hpass : authenticate { xApiKey := some "dev-operator" } devSettings =
      .ok ⟨"dev-…", "operator"⟩ := by decide +kernel
  have hheader : actorHeader "김과장" = "%EA%B9%80%EA%B3%BC%EC%9E%A5" := by decide +kernel
  have hname : pyTake 64 "김과장" = "김과장" := by decide
  rw [← hheader, (actor_recorded hpass).1 "김과장" (by decide), hname]
  exact ⟨hpass, rfl⟩

end Salgil
