import Salgil.Json
import Salgil.Profiles
import Mathlib.Data.List.Induction
import Mathlib.Data.List.TakeWhile

namespace Salgil
set_option autoImplicit true
set_option linter.unusedSectionVars false

/-- `text.split(sep)`, for a separator of one character. -/
def pySplit (sep : Char) (text : String) : List String :=
  (text.toList.splitOn sep).map String.ofList

/-- `text.partition(sep)`. -/
def pyPartition (sep : Char) (text : String) : String × String × String :=
  match text.toList.dropWhile (· ≠ sep) with
  | [] => (text, "", "")
  | _ :: after => (String.ofList (text.toList.takeWhile (· ≠ sep)), sep.toString,
      String.ofList after)

def Dict.items (d : Dict κ α) : List (κ × α) :=
  d.keys.filterMap fun k => (d.get? k).map (k, ·)

def pyIsAscii (text : String) : Bool := text.toList.all (·.toNat < 128)

/-- What the check of a request may raise. The `ValueError` for a role that does not exist is known
by the role. -/
inductive AuthRaised where
  | authError (detail : String)
  | unknownRole (role : String)
  | typeError (message : String)
  deriving DecidableEq, Repr

def roles : List String := ["operator", "approver", "field", "admin"]

structure Principal where
  keyId : String
  role : String
  deriving DecidableEq, Repr

structure Settings where
  apiKeys : String

/-- The headers that are read, where they are sent. -/
structure AuthHeaders where
  authorization : Option String := none
  xApiKey : Option String := none

namespace Settings

/-- The key of an entry of the setting; an entry without a key is skipped. -/
def entryKey (entry : String) : String := pyStrip (pyPartition ':' (pyStrip entry)).1

def entryRole (entry : String) : String :=
  let role := pyStrip (pyPartition ':' (pyStrip entry)).2.2
  if role = "" then "operator" else role

/-- One round of the loop. -/
def addEntry (mapping : Dict String String) (entry : String) :
    Except AuthRaised (Dict String String) :=
  if pyStrip entry = "" then .ok mapping
  else if entryKey entry = "" then .ok mapping
  else if entryRole entry ∉ roles then .error (.unknownRole (entryRole entry))
  else .ok (mapping.set (entryKey entry) (entryRole entry))

def apiKeyMap (settings : Settings) : Except AuthRaised (Dict String String) :=
  (pySplit ',' settings.apiKeys).foldlM addEntry .empty

def authEnabled (settings : Settings) : Except AuthRaised Bool := do
  let mapping ← settings.apiKeyMap
  pure (mapping.keys ≠ [])

end Settings

def extractToken (headers : AuthHeaders) : Option String :=
  let apiKey :=
    match headers.xApiKey with
    | some key => if key = "" then none else some (pyStrip key)
    | none => none
  match headers.authorization with
  | some header =>
    if header = "" then apiKey
    else
      let (scheme, _, token) := pyPartition ' ' header
      if pyLower scheme = "bearer" ∧ pyStrip token ≠ "" then some (pyStrip token) else apiKey
  | none => apiKey

/-- `hmac.compare_digest` on texts. -/
def compareDigest (a b : String) : Except AuthRaised Bool :=
  if pyIsAscii a ∧ pyIsAscii b then .ok (a = b)
  else .error (.typeError "comparing strings with non-ASCII characters is not supported")

/-- The loop over the keys, up to the first one that is the token. -/
def findKey (token : String) : List (String × String) → Except AuthRaised (Option Principal)
  | [] => .ok none
  | (candidate, role) :: items => do
    if ← compareDigest candidate token then
      return some ⟨pyTake 4 candidate ++ "…", role⟩
    findKey token items

def authenticate (headers : AuthHeaders) (settings : Settings) : Except AuthRaised Principal := do
  if !(← settings.authEnabled) then return ⟨"anonymous", "admin"⟩
  match extractToken headers with
  | none => .error (.authError "Authorization: Bearer <api-key> 또는 X-API-Key 헤더가 필요합니다")
  | some token =>
    if token = "" then
      .error (.authError "Authorization: Bearer <api-key> 또는 X-API-Key 헤더가 필요합니다")
    else
      let mapping ← settings.apiKeyMap
      match ← findKey token mapping.items with
      | some principal => .ok principal
      | none => .error (.authError "알 수 없는 API 키입니다")

namespace Dict
variable [DecidableEq κ]

theorem map_fst_items (d : Dict κ α) : d.items.map (·.1) = d.keys := by
  have hlist : ∀ l : List κ, (∀ k ∈ l, (d.get? k).isSome) →
      (l.filterMap fun k => (d.get? k).map (k, ·)).map (·.1) = l := by
    intro l hl
    induction l with
    | nil => rfl
    | cons k l ih =>
      obtain ⟨v, hv⟩ := Option.isSome_iff_exists.1 (hl k List.mem_cons_self)
      rw [List.filterMap_cons_some (by rw [hv]; rfl), List.map_cons,
        ih fun k' hk' => hl k' (List.mem_cons_of_mem _ hk')]
  exact hlist d.keys fun k hk => (d.mem_keys k).1 hk

theorem find?_items (d : Dict κ α) (k : κ) :
    d.items.find? (·.1 = k) = (d.get? k).map (k, ·) := by
  have hlist : ∀ l : List κ, (∀ k' ∈ l, (d.get? k').isSome) →
      (l.filterMap fun k' => (d.get? k').map (k', ·)).find? (·.1 = k) =
        if k ∈ l then (d.get? k).map (k, ·) else none := by
    intro l hl
    induction l with
    | nil => rfl
    | cons k' l ih =>
      obtain ⟨v, hv⟩ := Option.isSome_iff_exists.1 (hl k' List.mem_cons_self)
      rw [List.filterMap_cons_some (by rw [hv]; rfl), List.find?_cons]
      by_cases heq : k' = k
      · subst heq
        simp [hv]
      · rw [ih fun k'' hk'' => hl k'' (List.mem_cons_of_mem _ hk'')]
        simp [heq, Ne.symm heq]
  rw [items, hlist d.keys fun k' hk' => (d.mem_keys k').1 hk']
  split
  · rfl
  · next hk =>
    rw [d.mem_keys, Option.not_isSome_iff_eq_none] at hk
    rw [hk]
    rfl

end Dict

namespace Settings

/-- Every entry that names a key names a role that exists. -/
def ValidRoles (settings : Settings) : Prop :=
  ∀ entry ∈ pySplit ',' settings.apiKeys, entryKey entry ≠ "" → entryRole entry ∈ roles

instance (settings : Settings) : Decidable settings.ValidRoles :=
  inferInstanceAs (Decidable (∀ entry ∈ _, _))

/-- The last of the entries for the key gives its role. -/
def GivesRole (entries : List String) (key role : String) : Prop :=
  ∃ before entry after, entries = before ++ entry :: after ∧ entryKey entry = key ∧
    entryRole entry = role ∧ ∀ later ∈ after, entryKey later ≠ key

def Configured (settings : Settings) (key role : String) : Prop :=
  key ≠ "" ∧ GivesRole (pySplit ',' settings.apiKeys) key role

theorem entryKey_empty {entry : String} (h : pyStrip entry = "") : entryKey entry = "" := by
  rw [entryKey, h]
  rfl

/-- A round of the loop where the role exists. -/
def keep (mapping : Dict String String) (entry : String) : Dict String String :=
  if entryKey entry = "" then mapping else mapping.set (entryKey entry) (entryRole entry)

theorem addEntry_eq {mapping : Dict String String} {entry : String}
    (h : entryKey entry ≠ "" → entryRole entry ∈ roles) :
    addEntry mapping entry = .ok (keep mapping entry) := by
  unfold addEntry keep
  split
  · next hempty => rw [if_pos (entryKey_empty hempty)]
  · split
    · rfl
    · next hkey => rw [if_neg (not_not.2 (h hkey))]

theorem addEntries_eq {entries : List String}
    (h : ∀ entry ∈ entries, entryKey entry ≠ "" → entryRole entry ∈ roles)
    (mapping : Dict String String) :
    entries.foldlM addEntry mapping = .ok (entries.foldl keep mapping) := by
  induction entries generalizing mapping with
  | nil => rfl
  | cons entry entries ih =>
    rw [List.foldlM_cons, addEntry_eq (h entry List.mem_cons_self), ok_bind, List.foldl_cons]
    exact ih (fun e he => h e (List.mem_cons_of_mem _ he)) _

theorem givesRole_snoc {entries : List String} {entry key role : String} :
    GivesRole (entries ++ [entry]) key role ↔
      (entryKey entry = key ∧ entryRole entry = role) ∨
        (entryKey entry ≠ key ∧ GivesRole entries key role) := by
  constructor
  · rintro ⟨before, e, after, heq, hkey, hrole, hafter⟩
    rcases List.eq_nil_or_concat after with rfl | ⟨after, last, rfl⟩
    · obtain ⟨rfl, hlast⟩ := List.append_inj' heq rfl
      cases hlast
      exact .inl ⟨hkey, hrole⟩
    · have heq' : entries ++ [entry] = (before ++ e :: after) ++ [last] := by simpa using heq
      obtain ⟨rfl, hlast⟩ := List.append_inj' heq' rfl
      cases hlast
      refine .inr ⟨hafter entry (by simp), before, e, after, rfl, hkey, hrole, ?_⟩
      exact fun later hlater => hafter later (by simp [hlater])
  · rintro (⟨hkey, hrole⟩ | ⟨hne, before, e, after, rfl, hkey, hrole, hafter⟩)
    · exact ⟨entries, entry, [], rfl, hkey, hrole, nofun⟩
    · refine ⟨before, e, after ++ [entry], by simp, hkey, hrole, ?_⟩
      intro later hlater
      rcases List.mem_append.1 hlater with hlater | hlater
      · exact hafter later hlater
      · rwa [List.mem_singleton.1 hlater]

theorem get?_foldl_keep (entries : List String) {key role : String} :
    (entries.foldl keep .empty).get? key = some role ↔
      key ≠ "" ∧ GivesRole entries key role := by
  induction entries using List.reverseRecOn with
  | nil =>
    refine iff_of_false nofun ?_
    rintro ⟨-, before, entry, after, heq, -⟩
    simp at heq
  | append_singleton entries entry ih =>
    rw [List.foldl_concat, givesRole_snoc]
    by_cases hempty : entryKey entry = ""
    · rw [keep, if_pos hempty, ih]
      constructor
      · exact fun ⟨hkey, hgives⟩ => ⟨hkey, .inr ⟨hempty ▸ hkey.symm, hgives⟩⟩
      · rintro ⟨hkey, ⟨rfl, -⟩ | ⟨-, hgives⟩⟩
        · exact absurd hempty hkey
        · exact ⟨hkey, hgives⟩
    · rw [keep, if_neg hempty]
      by_cases hkey : entryKey entry = key
      · subst hkey
        simp [hempty]
      · rw [Dict.get?_set_of_ne _ _ (Ne.symm hkey), ih]
        simp [hkey]

theorem mem_takeWhile_snoc {l : List String} {k token c : String} :
    c ∈ (l ++ [k]).takeWhile (· ≠ token) ↔
      c ∈ l.takeWhile (· ≠ token) ∨ (token ∉ l ∧ k ≠ token ∧ c = k) := by
  by_cases hmem : token ∈ l
  · have hshort : (l ++ [k]).takeWhile (· ≠ token) = l.takeWhile (· ≠ token) := by
      rw [List.takeWhile_append, if_neg]
      intro hlength
      have hall := (List.takeWhile_prefix (p := fun x => decide (x ≠ token)) (l := l)).eq_of_length
        hlength
      have hne := List.mem_takeWhile_imp (hall.symm ▸ hmem)
      simp at hne
    rw [hshort]
    simp [hmem]
  · have hall : l.takeWhile (· ≠ token) = l := by
      rw [List.takeWhile_eq_self_iff]
      intro x hx
      exact decide_eq_true fun heq => hmem (heq ▸ hx)
    rw [List.takeWhile_append, hall, if_pos rfl]
    by_cases hk : k = token
    · simp [hk]
    · simp [hmem, hk]

/-- The keys that the entries name, as often as they name them. -/
def namedKeys (entries : List String) : List String := (entries.map entryKey).filter (· ≠ "")

theorem namedKeys_snoc (entries : List String) (entry : String) :
    namedKeys (entries ++ [entry]) =
      namedKeys entries ++ if entryKey entry = "" then [] else [entryKey entry] := by
  rw [namedKeys, List.map_append, List.filter_append, namedKeys]
  by_cases h : entryKey entry = "" <;> simp [h]

theorem mem_keys_foldl_keep (entries : List String) (c : String) :
    c ∈ (entries.foldl keep .empty).keys ↔ c ∈ namedKeys entries := by
  induction entries using List.reverseRecOn with
  | nil => simp [namedKeys, Dict.empty]
  | append_singleton entries entry ih =>
    rw [List.foldl_concat, namedKeys_snoc, keep]
    by_cases hempty : entryKey entry = ""
    · simpa [hempty] using ih
    · rw [if_neg hempty, if_neg hempty, Dict.mem_keys_set, ih, List.mem_append,
        List.mem_singleton, or_comm]

theorem mem_takeWhile_keys (entries : List String) (token c : String) :
    c ∈ (entries.foldl keep .empty).keys.takeWhile (· ≠ token) ↔
      c ∈ (namedKeys entries).takeWhile (· ≠ token) := by
  induction entries using List.reverseRecOn with
  | nil => rfl
  | append_singleton entries entry ih =>
    have hmem := mem_keys_foldl_keep entries
    rw [List.foldl_concat, namedKeys_snoc, keep]
    by_cases hempty : entryKey entry = ""
    · simpa [hempty] using ih
    rw [if_neg hempty, if_neg hempty, mem_takeWhile_snoc, ← hmem token, ← ih]
    by_cases hset : ((entries.foldl keep .empty).get? (entryKey entry)).isSome
    · -- a key that is there keeps its place
      have hkeys : ((entries.foldl keep .empty).set (entryKey entry) (entryRole entry)).keys =
          (entries.foldl keep .empty).keys := if_pos hset
      rw [hkeys]
      refine ⟨.inl, ?_⟩
      rintro (hc | ⟨htoken, -, rfl⟩)
      · exact hc
      · have hall : (entries.foldl keep .empty).keys.takeWhile (· ≠ token) =
            (entries.foldl keep .empty).keys := by
          rw [List.takeWhile_eq_self_iff]
          exact fun x hx => decide_eq_true fun heq => htoken (heq ▸ hx)
        rw [hall]
        exact (Dict.mem_keys _ _).2 hset
    · have hkeys : ((entries.foldl keep .empty).set (entryKey entry) (entryRole entry)).keys =
          (entries.foldl keep .empty).keys ++ [entryKey entry] := if_neg hset
      rw [hkeys, mem_takeWhile_snoc]

end Settings

theorem compareDigest_ascii {a b : String} (ha : pyIsAscii a) (hb : pyIsAscii b) :
    compareDigest a b = .ok (a = b) := if_pos ⟨ha, hb⟩

theorem compareDigest_other {a b : String} (h : pyIsAscii b → ¬ pyIsAscii a) :
    compareDigest a b =
      .error (.typeError "comparing strings with non-ASCII characters is not supported") :=
  if_neg fun hboth => h hboth.2 hboth.1

theorem findKey_eq_ok {items : List (String × String)} (htoken : items ≠ [] → pyIsAscii token)
    (h : ∀ c ∈ (items.map (·.1)).takeWhile (· ≠ token), pyIsAscii c) :
    findKey token items = .ok ((items.find? (·.1 = token)).map fun item =>
      ⟨pyTake 4 item.1 ++ "…", item.2⟩) := by
  induction items with
  | nil => rfl
  | cons item items ih =>
    obtain ⟨candidate, role⟩ := item
    have hascii : pyIsAscii token := htoken (List.cons_ne_nil _ _)
    by_cases heq : candidate = token
    · subst heq
      simp [findKey, compareDigest_ascii hascii hascii]
    · have hcandidate : pyIsAscii candidate := h candidate (by simp [heq])
      have htake : (((candidate, role) :: items).map (·.1)).takeWhile (· ≠ token) =
          candidate :: (items.map (·.1)).takeWhile (· ≠ token) :=
        List.takeWhile_cons_of_pos (by simp [heq])
      have hrest : ∀ c ∈ (items.map (·.1)).takeWhile (· ≠ token), pyIsAscii c :=
        fun c hc => h c (htake ▸ List.mem_cons_of_mem _ hc)
      rw [findKey, compareDigest_ascii hcandidate hascii, ok_bind, if_neg (by simp [heq]),
        ih (fun _ => hascii) hrest, List.find?_cons_of_neg (by simp [heq])]

/-- The loop stops at the first comparison that cannot be made. -/
theorem findKey_eq_error {items : List (String × String)} (hitems : items ≠ [])
    (h : pyIsAscii token → ∃ c ∈ (items.map (·.1)).takeWhile (· ≠ token), ¬ pyIsAscii c) :
    findKey token items = .error (.typeError
      "comparing strings with non-ASCII characters is not supported") := by
  induction items with
  | nil => exact absurd rfl hitems
  | cons item items ih =>
    obtain ⟨candidate, role⟩ := item
    by_cases hboth : pyIsAscii token ∧ pyIsAscii candidate
    · obtain ⟨c, hc, hother⟩ := h hboth.1
      have hne : candidate ≠ token := by
        rintro rfl
        simp at hc
      have htake : (((candidate, role) :: items).map (·.1)).takeWhile (· ≠ token) =
          candidate :: (items.map (·.1)).takeWhile (· ≠ token) :=
        List.takeWhile_cons_of_pos (by simp [hne])
      have hrest : c ∈ (items.map (·.1)).takeWhile (· ≠ token) := by
        rw [htake, List.mem_cons] at hc
        rcases hc with rfl | hrest
        · exact absurd hboth.2 hother
        · exact hrest
      have hmore : items ≠ [] := by
        rintro rfl
        simp at hrest
      rw [findKey, compareDigest_ascii hboth.2 hboth.1, ok_bind, if_neg (by simp [hne])]
      exact ih hmore fun _ => ⟨c, hrest, hother⟩
    · rw [findKey, compareDigest_other fun htoken hcandidate => hboth ⟨htoken, hcandidate⟩]
      rfl

/-- The token that is looked for; an empty one is none. -/
def AuthHeaders.Sends (headers : AuthHeaders) (token : String) : Prop :=
  extractToken headers = some token ∧ token ≠ ""

/-- A configured key is let in with its role, and anything else is refused. -/
structure AcceptsConfigured (settings : Settings) (headers : AuthHeaders) : Prop where
  accepted : ∀ token role, extractToken headers = some token → settings.Configured token role →
    authenticate headers settings = .ok ⟨pyTake 4 token ++ "…", role⟩
  refused : (∀ token role, extractToken headers = some token → ¬ settings.Configured token role) →
    ∃ detail, authenticate headers settings = .error (.authError detail)

/-- No comparison meets a text that it cannot compare: the token is ASCII, and so are the keys that
stand before it. -/
def Comparable (settings : Settings) (headers : AuthHeaders) : Prop :=
  ∀ token, headers.Sends token → pyIsAscii token ∧
    ∀ c ∈ (Settings.namedKeys (pySplit ',' settings.apiKeys)).takeWhile (· ≠ token), pyIsAscii c

section
variable {settings : Settings} {headers : AuthHeaders}

namespace Settings

/-- The mapping of a setting with valid roles. -/
def kept (settings : Settings) : Dict String String :=
  (pySplit ',' settings.apiKeys).foldl keep .empty

theorem apiKeyMap_eq (h : settings.ValidRoles) : settings.apiKeyMap = .ok settings.kept :=
  addEntries_eq h _

theorem kept_get? {key role : String} :
    settings.kept.get? key = some role ↔ settings.Configured key role :=
  get?_foldl_keep _

theorem kept_keys_eq_nil :
    settings.kept.keys = [] ↔ namedKeys (pySplit ',' settings.apiKeys) = [] := by
  rw [List.eq_nil_iff_forall_not_mem, List.eq_nil_iff_forall_not_mem]
  exact forall_congr' fun c => not_congr (mem_keys_foldl_keep _ c)

theorem authEnabled_eq (h : settings.ValidRoles) :
    settings.authEnabled = .ok (settings.kept.keys ≠ []) := by
  rw [authEnabled, apiKeyMap_eq h, ok_bind]
  rfl

theorem kept_items_ne_nil (h : settings.kept.keys ≠ []) : settings.kept.items ≠ [] := by
  rintro hitems
  rw [← Dict.map_fst_items, hitems] at h
  exact h rfl

end Settings

theorem authenticate_disabled (hroles : settings.ValidRoles) (h : settings.kept.keys = []) :
    authenticate headers settings = .ok ⟨"anonymous", "admin"⟩ := by
  simp [authenticate, Settings.authEnabled_eq hroles, h]

theorem authenticate_silent (hroles : settings.ValidRoles) (h : settings.kept.keys ≠ [])
    (hsilent : ∀ token, ¬ headers.Sends token) :
    ∃ detail, authenticate headers settings = .error (.authError detail) := by
  refine ⟨"Authorization: Bearer <api-key> 또는 X-API-Key 헤더가 필요합니다", ?_⟩
  cases hextract : extractToken headers with
  | none => simp [authenticate, Settings.authEnabled_eq hroles, h, hextract]
  | some token =>
    obtain rfl : token = "" := by
      by_contra hne
      exact hsilent token ⟨hextract, hne⟩
    simp [authenticate, Settings.authEnabled_eq hroles, h, hextract]

theorem authenticate_token (hroles : settings.ValidRoles) (h : settings.kept.keys ≠ [])
    (hsends : headers.Sends token) :
    authenticate headers settings = findKey token settings.kept.items >>= fun
      | some principal => .ok principal
      | none => .error (.authError "알 수 없는 API 키입니다") := by
  simp [authenticate, Settings.authEnabled_eq hroles, h, hsends.1, hsends.2,
    Settings.apiKeyMap_eq hroles]

theorem comparable_token (hsends : headers.Sends token) :
    Comparable settings headers ↔ pyIsAscii token ∧
      ∀ c ∈ (settings.kept.items.map (·.1)).takeWhile (· ≠ token), pyIsAscii c := by
  rw [Dict.map_fst_items]
  have hbefore : (∀ c ∈ settings.kept.keys.takeWhile (· ≠ token), pyIsAscii c) ↔
      ∀ c ∈ (Settings.namedKeys (pySplit ',' settings.apiKeys)).takeWhile (· ≠ token),
        pyIsAscii c :=
    forall_congr' fun c => imp_congr (Settings.mem_takeWhile_keys _ _ _) .rfl
  rw [hbefore]
  constructor
  · exact fun h => h token hsends
  · intro h token' hsends'
    obtain rfl : token = token' := Option.some.inj (hsends.1.symm.trans hsends'.1)
    exact h

/-- The keys are found exactly, if and only if there are some and no comparison fails. -/
theorem accepts_configured_iff (hroles : settings.ValidRoles) :
    AcceptsConfigured settings headers ↔
      Settings.namedKeys (pySplit ',' settings.apiKeys) ≠ [] ∧ Comparable settings headers := by
  rw [Ne, ← Settings.kept_keys_eq_nil]
  by_cases hkeys : settings.kept.keys = []
  · refine iff_of_false (fun h => ?_) fun h => h.1 hkeys
    have hnone : ∀ token role, ¬ settings.Configured token role := by
      intro token role hconfigured
      have hmem : token ∈ settings.kept.keys :=
        (Dict.mem_keys _ _).2 (Option.isSome_of_eq_some (Settings.kept_get?.2 hconfigured))
      rw [hkeys] at hmem
      exact List.not_mem_nil hmem
    obtain ⟨detail, herror⟩ := h.refused fun token role _ => hnone token role
    rw [authenticate_disabled hroles hkeys] at herror
    cases herror
  by_cases hsilent : ∀ token, ¬ headers.Sends token
  · refine iff_of_true ⟨?_, fun _ => authenticate_silent hroles hkeys hsilent⟩
      ⟨hkeys, fun token hsends => absurd hsends (hsilent token)⟩
    exact fun token role hextract hconfigured => absurd ⟨hextract, hconfigured.1⟩ (hsilent token)
  obtain ⟨token, hsends⟩ := not_forall_not.1 hsilent
  rw [comparable_token hsends]
  have hitems := Settings.kept_items_ne_nil hkeys
  by_cases hcomparable : pyIsAscii token ∧
      ∀ c ∈ (settings.kept.items.map (·.1)).takeWhile (· ≠ token), pyIsAscii c
  · refine iff_of_true ?_ ⟨hkeys, hcomparable⟩
    have hfind := findKey_eq_ok (fun _ => hcomparable.1) hcomparable.2
    rw [Dict.find?_items] at hfind
    have hresult := authenticate_token hroles hkeys hsends
    rw [hfind, ok_bind] at hresult
    constructor
    · intro token' role hextract hconfigured
      obtain rfl : token = token' := Option.some.inj (hsends.1.symm.trans hextract)
      rw [hresult, Settings.kept_get?.2 hconfigured]
      rfl
    · intro hrefused
      have hnone : settings.kept.get? token = none := by
        rw [Option.eq_none_iff_forall_ne_some]
        exact fun role hget => hrefused token role hsends.1 (Settings.kept_get?.1 hget)
      rw [hresult, hnone]
      exact ⟨_, rfl⟩
  · refine iff_of_false (fun h => ?_) fun h => hcomparable h.2
    have hresult := authenticate_token hroles hkeys hsends
    rw [findKey_eq_error hitems (by simpa using hcomparable), error_bind] at hresult
    by_cases hknown : ∃ role, settings.Configured token role
    · obtain ⟨role, hconfigured⟩ := hknown
      have haccepted := h.accepted token role hsends.1 hconfigured
      rw [hresult] at haccepted
      cases haccepted
    · obtain ⟨detail, herror⟩ := h.refused fun token' role hextract hconfigured => by
        obtain rfl : token = token' := Option.some.inj (hsends.1.symm.trans hextract)
        exact hknown ⟨role, hconfigured⟩
      rw [hresult] at herror
      cases herror

end

/-- The keys of the development set-up. -/
def devSettings : Settings := ⟨"dev-operator:operator,dev-approver:approver,dev-field:field"⟩

theorem accepts_configured_iff_approver :
    AcceptsConfigured devSettings { authorization := some "Bearer dev-approver" } := by
  have hsends : AuthHeaders.Sends { authorization := some "Bearer dev-approver" } "dev-approver" :=
    ⟨by decide +kernel, by decide⟩
  exact (accepts_configured_iff (by decide)).2
    ⟨by decide, (comparable_token hsends).2 (by decide)⟩

/-- A token with a character that is not ASCII is no key, but it is not refused. -/
theorem accented_token_raises :
    authenticate { xApiKey := some "clé" } devSettings =
      .error (.typeError "comparing strings with non-ASCII characters is not supported") ∧
    ¬ AcceptsConfigured devSettings { xApiKey := some "clé" } := by
  have hraises : authenticate { xApiKey := some "clé" } devSettings =
      .error (.typeError "comparing strings with non-ASCII characters is not supported") := by
    decide
  refine ⟨hraises, fun h => ?_⟩
  obtain ⟨detail, herror⟩ := h.refused fun token role hextract hconfigured => by
    obtain rfl : "clé" = token := Option.some.inj hextract
    have hget : devSettings.kept.get? "clé" = none := by decide
    rw [Settings.kept_get?.2 hconfigured] at hget
    cases hget
  rw [hraises] at herror
  cases herror

end Salgil
