import Salgil.SingleFlight

namespace Salgil
set_option autoImplicit true
set_option linter.unusedSectionVars false

/-- The cached methods of `GbSafeClient`, with their arguments. -/
inductive CachedCall where
  | serviceInfo
  | regions
  | resolveRegion (query : String)
  | hazardTypes
  | capabilities
  | health
  | agentSystemPrompt
  | tools
  | hazardContext (region : String) (hazard : Option String)
  | dataset (datasetId : String)
  | datasetCitation (datasetId : String)
  | verifyDataset (datasetId operation : String)
  | quality
  deriving DecidableEq, Repr

/-- `hazard or '-'`. -/
def hazardTag : Option String → String
  | none => "-"
  | some hazard => if hazard = "" then "-" else hazard

def longTtlS : ℕ := 900

namespace CachedCall

def key : CachedCall → String
  | serviceInfo => "root"
  | regions => "regions"
  | resolveRegion query => "resolve:" ++ query
  | hazardTypes => "hazard-types"
  | capabilities => "capabilities"
  | health => "health"
  | agentSystemPrompt => "system-prompt"
  | tools => "tools"
  | hazardContext region hazard => "context:" ++ region ++ ":" ++ hazardTag hazard
  | dataset datasetId => "dataset:" ++ datasetId
  | datasetCitation datasetId => "cite:" ++ datasetId
  | verifyDataset datasetId operation => "verify:" ++ datasetId ++ ":" ++ operation
  | quality => "quality"

def path : CachedCall → String
  | serviceInfo => "/"
  | regions => "/v1/regions"
  | resolveRegion _ => "/v1/regions/resolve"
  | hazardTypes => "/v1/hazard-types"
  | capabilities => "/v1/hazards/capabilities"
  | health => "/v1/health"
  | agentSystemPrompt => "/v1/agent/system-prompt"
  | tools => "/v1/tools"
  | hazardContext _ _ => "/v1/hazards/context"
  | dataset datasetId => "/v1/datasets/" ++ datasetId
  | datasetCitation datasetId => "/v1/datasets/" ++ datasetId ++ "/citation"
  | verifyDataset datasetId _ => "/v1/datasets/" ++ datasetId ++ "/verify"
  | quality => "/v1/quality"

def params : CachedCall → Option (List (String × String))
  | resolveRegion query => some [("q", query)]
  | hazardContext region none => some [("region", region)]
  | hazardContext region (some hazard) =>
    some (("region", region) :: if hazard = "" then [] else [("hazard", hazard)])
  | verifyDataset _ operation => some [("operation", operation)]
  | _ => none

/-- No time of its own: the default of the cache. -/
def ttlS : CachedCall → Option ℕ
  | hazardContext _ _ => none
  | capabilities => some 300
  | health => some 30
  | _ => some longTtlS

/-- What goes to the upstream. -/
def request (call : CachedCall) : String × Option (List (String × String)) :=
  (call.path, call.params)

/-- The part of a key that tells the methods apart. -/
def stem : CachedCall → String
  | serviceInfo => "root"
  | regions => "regions"
  | resolveRegion _ => "resolve"
  | hazardTypes => "hazard-types"
  | capabilities => "capabilities"
  | health => "health"
  | agentSystemPrompt => "system-prompt"
  | tools => "tools"
  | hazardContext _ _ => "context"
  | dataset _ => "dataset"
  | datasetCitation _ => "cite"
  | verifyDataset _ _ => "verify"
  | quality => "quality"

theorem key_stem (call : CachedCall) :
    call.key.toList.takeWhile (· ≠ ':') = call.stem.toList := by
  cases call <;> simp [key, stem]

theorem stem_eq {call call' : CachedCall} (h : call.key = call'.key) : call.stem = call'.stem := by
  apply String.toList_inj.1
  rw [← key_stem, ← key_stem, h]

end CachedCall

/-- One text with the separator in it, cut at an earlier and at a later separator. -/
def CutTwice (a b a' b' : String) : Prop := ∃ x, a' = a ++ ":" ++ x ∧ b = x ++ ":" ++ b'

theorem CutTwice.ne (h : CutTwice a b a' b') : a ≠ a' := by
  rintro rfl
  obtain ⟨x, hx, -⟩ := h
  have hlength := congrArg (·.toList.length) hx
  simp at hlength

theorem CutTwice.joined (h : CutTwice a b a' b') : a ++ ":" ++ b = a' ++ ":" ++ b' := by
  obtain ⟨x, rfl, rfl⟩ := h
  simp only [String.append_assoc]

theorem cutTwice_of_append {as : List Char} (hfirst : a'.toList = a.toList ++ as)
    (hrest : ':' :: b.toList = as ++ ':' :: b'.toList) :
    (a = a' ∧ b = b') ∨ CutTwice a b a' b' := by
  cases as with
  | nil =>
    left
    rw [List.append_nil] at hfirst
    rw [List.nil_append, List.cons.injEq] at hrest
    exact ⟨(String.toList_inj.1 hfirst).symm, String.toList_inj.1 hrest.2⟩
  | cons c x =>
    right
    rw [List.cons_append, List.cons.injEq] at hrest
    obtain ⟨rfl, hrest⟩ := hrest
    refine ⟨String.ofList x, ?_, ?_⟩
    · apply String.toList_inj.1
      simp [hfirst]
    · apply String.toList_inj.1
      simp [hrest]

/-- Where the joined texts agree the parts do, or the text is cut twice. -/
theorem joined_eq_iff :
    a ++ ":" ++ b = a' ++ ":" ++ b' ↔
      (a = a' ∧ b = b') ∨ CutTwice a b a' b' ∨ CutTwice a' b' a b := by
  constructor
  · intro h
    have hlists : a.toList ++ ':' :: b.toList = a'.toList ++ ':' :: b'.toList := by
      simpa using congrArg String.toList h
    rcases List.append_eq_append_iff.1 hlists with ⟨as, hfirst, hrest⟩ | ⟨as, hfirst, hrest⟩
    · exact (cutTwice_of_append hfirst hrest).imp_right .inl
    · rcases cutTwice_of_append hfirst hrest with ⟨rfl, rfl⟩ | hcut
      · exact .inl ⟨rfl, rfl⟩
      · exact .inr (.inr hcut)
  · rintro (⟨rfl, rfl⟩ | hcut | hcut)
    · rfl
    · exact hcut.joined
    · exact hcut.joined.symm

namespace CachedCall

/-- Two calls that have one key, but not one question. -/
inductive Clash : CachedCall → CachedCall → Prop where
  | placeholder : hazard = none ∨ hazard = some "" →
      Clash (hazardContext region hazard) (hazardContext region (some "-"))
  | context : CutTwice region (hazardTag hazard) region' (hazardTag hazard') →
      Clash (hazardContext region hazard) (hazardContext region' hazard')
  | verify : CutTwice datasetId operation datasetId' operation' →
      Clash (verifyDataset datasetId operation) (verifyDataset datasetId' operation')

theorem Clash.key_eq (h : Clash call call') : call.key = call'.key := by
  cases h with
  | placeholder hnone => rcases hnone with rfl | rfl <;> rfl
  | context hcut => simpa [key, String.append_assoc] using hcut.joined
  | verify hcut => simpa [key, String.append_assoc] using hcut.joined

theorem request_hazardContext (region : String) (hazard : Option String) :
    (hazardContext region hazard).request = ("/v1/hazards/context",
      some (("region", region) :: (hazard.filter (· ≠ "")).toList.map fun h => ("hazard", h))) := by
  cases hazard with
  | none => rfl
  | some hazard =>
    have hsent : (hazardContext region (some hazard)).request = ("/v1/hazards/context",
        some (("region", region) :: if hazard = "" then [] else [("hazard", hazard)])) := rfl
    rw [hsent]
    by_cases hempty : hazard = "" <;> simp [Option.filter, hempty]

theorem Clash.request_ne (h : Clash call call') : call.request ≠ call'.request := by
  cases h with
  | placeholder hnone =>
    rw [request_hazardContext, request_hazardContext]
    rcases hnone with rfl | rfl <;> simp [Option.filter]
  | context hcut =>
    rw [request_hazardContext, request_hazardContext]
    simp [hcut.ne]
  | verify hcut =>
    intro hsame
    have hpath := (Prod.mk.inj hsame).1
    exact hcut.ne ((String.append_right_inj _).1 ((String.append_left_inj _).1 hpath))

/-- No hazard has the tag of a hazard that is written as the placeholder. -/
theorem request_of_tag (region : String) (h : hazardTag hazard = hazardTag hazard') :
    (hazardContext region hazard).request = (hazardContext region hazard').request ∨
      Clash (hazardContext region hazard) (hazardContext region hazard') ∨
      Clash (hazardContext region hazard') (hazardContext region hazard) := by
  cases hazard with
  | none =>
    cases hazard' with
    | none => exact .inl rfl
    | some hazard' =>
      by_cases hempty : hazard' = ""
      · subst hempty
        exact .inl rfl
      · obtain rfl : "-" = hazard' := by simpa [hazardTag, hempty] using h
        exact .inr (.inl (.placeholder (.inl rfl)))
  | some hazard =>
    cases hazard' with
    | none =>
      by_cases hempty : hazard = ""
      · subst hempty
        exact .inl rfl
      · obtain rfl : hazard = "-" := by simpa [hazardTag, hempty] using h
        exact .inr (.inr (.placeholder (.inl rfl)))
    | some hazard' =>
      by_cases hempty : hazard = ""
      · by_cases hempty' : hazard' = ""
        · exact .inl (by rw [hempty, hempty'])
        · obtain rfl : "-" = hazard' := by simpa [hazardTag, hempty, hempty'] using h
          exact .inr (.inl (.placeholder (.inr (by rw [hempty]))))
      · by_cases hempty' : hazard' = ""
        · obtain rfl : hazard = "-" := by simpa [hazardTag, hempty, hempty'] using h
          exact .inr (.inr (.placeholder (.inr (by rw [hempty']))))
        · obtain rfl : hazard = hazard' := by simpa [hazardTag, hempty, hempty'] using h
          exact .inl rfl

theorem request_eq_or_clash {call call' : CachedCall} (h : call.key = call'.key) :
    call.request = call'.request ∨ Clash call call' ∨ Clash call' call := by
  have hstem := stem_eq h
  cases call with
  | hazardContext region hazard =>
    cases call' with
    | hazardContext region' hazard' =>
      have hjoined : region ++ ":" ++ hazardTag hazard = region' ++ ":" ++ hazardTag hazard' := by
        simpa [key, String.append_assoc] using h
      rcases joined_eq_iff.1 hjoined with ⟨rfl, htag⟩ | hcut | hcut
      · exact request_of_tag region htag
      · exact .inr (.inl (.context hcut))
      · exact .inr (.inr (.context hcut))
    | _ => simp [stem] at hstem
  | verifyDataset datasetId operation =>
    cases call' with
    | verifyDataset datasetId' operation' =>
      have hjoined : datasetId ++ ":" ++ operation = datasetId' ++ ":" ++ operation' := by
        simpa [key, String.append_assoc] using h
      rcases joined_eq_iff.1 hjoined with ⟨rfl, rfl⟩ | hcut | hcut
      · exact .inl rfl
      · exact .inr (.inl (.verify hcut))
      · exact .inr (.inr (.verify hcut))
    | _ => simp [stem] at hstem
  | resolveRegion query =>
    cases call' with
    | resolveRegion query' =>
      obtain rfl : query = query' := by simpa [key] using h
      exact .inl rfl
    | _ => simp [stem] at hstem
  | dataset datasetId =>
    cases call' with
    | dataset datasetId' =>
      obtain rfl : datasetId = datasetId' := by simpa [key] using h
      exact .inl rfl
    | _ => simp [stem] at hstem
  | datasetCitation datasetId =>
    cases call' with
    | datasetCitation datasetId' =>
      obtain rfl : datasetId = datasetId' := by simpa [key] using h
      exact .inl rfl
    | _ => simp [stem] at hstem
  -- a method without arguments has the stem to itself
  | _ => cases call' <;> first | exact .inl rfl | simp [stem] at hstem

end CachedCall

/-- What the upstream has sent, with the question it was asked. -/
structure UpstreamAnswer (V : Type u) where
  request : String × Option (List (String × String))
  payload : V
  deriving DecidableEq, Repr

section
variable {V : Type u} {T : Type v} [LinearOrder T] [Add T] [NatCast T]
variable {asks : ℕ → CachedCall} {w w' init : CacheWorld (UpstreamAnswer V) T}
variable {a : CacheAction (UpstreamAnswer V) T} {actions : List (CacheAction (UpstreamAnswer V) T)}
variable {key : String} {caller : ℕ} {result : Option (ℕ × Option (UpstreamAnswer V))}

/-- The client goes to the cache with the key of the call, and its factory fetches the answer to the
question of the call. An answer `null` is Python's `None`. -/
def GbSafeAction (asks : ℕ → CachedCall) : CacheAction (UpstreamAnswer V) T → Prop
  | .getOrSet caller key ttlS _ =>
    key = (asks caller).key ∧ ttlS = (asks caller).ttlS.map Nat.cast
  | .factoryReturns caller value _ _ => ∀ answer ∈ value, answer.request = (asks caller).request
  | .passGuard _ | .takeLock _ _ | .factoryFails _ | .cancel _ => True
  | .get _ _ | .set _ _ _ _ _ | .invalidate _ | .clear => False

/-- Every call that asks for what another one has cached gets the answer to its own question. -/
structure AnswersBelong (V : Type u) (T : Type v) [LinearOrder T] [Add T] [NatCast T]
    (asks : ℕ → CachedCall) : Prop where
  same_request : ∀ i j, (asks i).key = (asks j).key → (asks i).request = (asks j).request
  own_answer : ∀ (defaultTtlS clock : T) (maxEntries : ℤ) actions a
    (w w' : CacheWorld (UpstreamAnswer V) T) caller answer,
    CacheRun (.start defaultTtlS maxEntries clock) actions w →
    (∀ b ∈ actions ++ [a], GbSafeAction asks b) →
    w.step a = some (w', some (caller, some answer)) → answer.request = (asks caller).request

namespace CacheWorld

theorem setCall_calls {c : ℕ} {new : Option (CacheCall T)} {call : CacheCall T}
    (h : (w.setCall c new).calls caller = some call) :
    (c = caller ∧ new = some call) ∨ w.calls caller = some call := by
  by_cases heq : caller = c
  · subst heq
    left
    exact ⟨rfl, by simpa [setCall] using h⟩
  · right
    simpa [setCall, heq] using h

theorem moved_calls {c : ℕ} {old moved call : CacheCall T}
    (h : (w.setCall c (some moved)).calls caller = some call) (hold : w.calls c = some old)
    (hkey : old.key = moved.key) : ∃ old, w.calls caller = some old ∧ old.key = call.key := by
  rcases setCall_calls h with ⟨rfl, ⟨⟩⟩ | hkept
  · exact ⟨old, hold, hkey⟩
  · exact ⟨call, hkept, rfl⟩

theorem ended_calls {c : ℕ} {call : CacheCall T}
    (h : (w.setCall c none).calls caller = some call) :
    ∃ old, w.calls caller = some old ∧ old.key = call.key := by
  rcases setCall_calls h with ⟨-, hnone⟩ | hkept
  · cases hnone
  · exact ⟨call, hkept, rfl⟩

theorem step_calls (h : w.step a = some (w', result)) {call : CacheCall T}
    (hcall : w'.calls caller = some call) :
    (∃ old, w.calls caller = some old ∧ old.key = call.key) ∨
      ∃ now, a = .getOrSet caller call.key call.ttlS now := by
  cases a with
  | getOrSet c key ttlS now =>
    simp only [step] at h
    split at h
    · split at h
      · cases h
        exact .inl ⟨call, hcall, rfl⟩
      · cases h
        rcases setCall_calls hcall with ⟨rfl, ⟨⟩⟩ | hold
        · exact .inr ⟨now, rfl⟩
        · exact .inl ⟨call, hold, rfl⟩
    · cases h
  | passGuard c =>
    left
    simp only [step] at h
    split at h
    · next key ttlS hold =>
      cases h
      exact moved_calls hcall hold rfl
    · cases h
  | takeLock c now =>
    left
    simp only [step] at h
    split at h
    · next key ttlS lock hold =>
      split at h
      · split at h
        · cases h
          exact ended_calls hcall
        · cases h
          exact moved_calls hcall hold rfl
      · cases h
    · cases h
  | factoryReturns c value now later =>
    left
    simp only [step] at h
    split at h
    · split at h
      · split at h
        · cases h
          exact ended_calls hcall
        · cases h
          exact ended_calls hcall
      · cases h
    · cases h
  | factoryFails c =>
    left
    simp only [step] at h
    split at h
    · cases h
      exact ended_calls hcall
    · cases h
  | cancel c =>
    left
    simp only [step] at h
    split at h
    · cases h
      exact ended_calls hcall
    · cases h
      exact ended_calls hcall
    · cases h
  | get key now =>
    simp only [step] at h
    split at h
    · cases h
      exact .inl ⟨call, hcall, rfl⟩
    · cases h
  | set key value ttlS now later =>
    simp only [step] at h
    split at h
    · split at h
      · cases h
        exact .inl ⟨call, hcall, rfl⟩
      · cases h
        exact .inl ⟨call, hcall, rfl⟩
    · cases h
  | invalidate key =>
    cases h
    exact .inl ⟨call, hcall, rfl⟩
  | clear =>
    cases h
    exact .inl ⟨call, hcall, rfl⟩

end CacheWorld

/-- A call that waits or runs has the key of what is asked. -/
theorem CacheRun.asked {defaultTtlS clock : T} {maxEntries : ℤ}
    (h : CacheRun (.start defaultTtlS maxEntries clock) actions w)
    (hclient : ∀ b ∈ actions, GbSafeAction asks b) {call : CacheCall T}
    (hcall : w.calls caller = some call) : call.key = (asks caller).key := by
  induction h generalizing caller call with
  | start => simp [CacheWorld.start] at hcall
  | step hrun hstep ih =>
    rcases CacheWorld.step_calls hstep hcall with ⟨old, hold, hkey⟩ | ⟨now, rfl⟩
    · rw [← hkey]
      exact ih (fun b hb => hclient b (List.mem_append_left _ hb)) hold
    · exact (hclient _ (List.mem_append_right _ (List.mem_singleton_self _))).1

theorem CacheRun.answered {defaultTtlS clock : T} {maxEntries : ℤ}
    (h : CacheRun (.start defaultTtlS maxEntries clock) actions w)
    (hclient : ∀ b ∈ actions, GbSafeAction asks b) {entry : CacheEntry (UpstreamAnswer V) T}
    {answer : UpstreamAnswer V} (hentry : w.cache.store.get? key = some entry)
    (hanswer : entry.value = some answer) :
    ∃ i, (asks i).key = key ∧ answer.request = (asks i).request := by
  obtain ⟨before, b, after, w₀, rfl, hrun, hstores⟩ := (single_flight h).stored key entry hentry
  have hb := hclient b (by simp)
  cases b with
  | factoryReturns i value now later =>
    obtain ⟨call, hcall, heq⟩ := Option.map_eq_some_iff.1 hstores
    have hkey := hrun.asked (fun c hc => hclient c (List.mem_append_left _ hc)) hcall
    cases heq
    exact ⟨i, hkey.symm, hb answer hanswer⟩
  | set => exact hb.elim
  | _ => cases hstores

/-- The answers belong to the questions asked, if and only if no two of the calls clash. -/
theorem answers_belong_iff (asks : ℕ → CachedCall) :
    AnswersBelong V T asks ↔ ∀ i j, ¬ (asks i).Clash (asks j) := by
  constructor
  · intro h i j hclash
    exact hclash.request_ne (h.same_request i j hclash.key_eq)
  · intro h
    have hsame : ∀ i j, (asks i).key = (asks j).key → (asks i).request = (asks j).request := by
      intro i j hkey
      rcases CachedCall.request_eq_or_clash hkey with hrequest | hclash | hclash
      · exact hrequest
      · exact absurd hclash (h i j)
      · exact absurd hclash (h j i)
    refine ⟨hsame, ?_⟩
    intro defaultTtlS clock maxEntries actions a w w' caller answer hrun hclient hstep
    have hbefore : ∀ b ∈ actions, GbSafeAction asks b :=
      fun b hb => hclient b (List.mem_append_left _ hb)
    have hlast : GbSafeAction asks a := hclient a (by simp)
    cases (single_flight hrun).returned a w' caller _ hstep with
    | made => exact hlast answer rfl
    | first hentry hlive hvalue =>
      obtain ⟨i, hkey, hrequest⟩ := hrun.answered hbefore hentry hvalue
      exact hrequest.trans (hsame i caller (hkey.trans hlast.1))
    | second hcall hentry hlive hvalue =>
      obtain ⟨i, hkey, hrequest⟩ := hrun.answered hbefore hentry hvalue
      exact hrequest.trans (hsame i caller (hkey.trans (hrun.asked hbefore hcall)))

end

/-- The resident screen asks for a region and no hazard, the console for the hazard `-`. -/
def placeholderAsked (caller : ℕ) : CachedCall :=
  if caller = 0 then .hazardContext "문경시" none else .hazardContext "문경시" (some "-")

def residentFirst : List (CacheAction (UpstreamAnswer ℕ) ℕ) :=
  [.getOrSet 0 "context:문경시:-" none 0, .passGuard 0, .takeLock 0 0,
    .factoryReturns 0 (some ⟨(placeholderAsked 0).request, 7⟩) 2 2]

/-- The console gets the answer to the question of the resident screen. -/
theorem placeholder_answered :
    ¬ AnswersBelong ℕ ℕ placeholderAsked ∧
    (∀ b ∈ residentFirst, GbSafeAction placeholderAsked b) ∧
    ∃ w, CacheRun (.start 60 512 0) residentFirst w ∧
      (w.step (.getOrSet 1 (placeholderAsked 1).key none 3)).map (·.2) =
        some (some (1, some ⟨(placeholderAsked 0).request, 7⟩)) ∧
      (placeholderAsked 0).request ≠ (placeholderAsked 1).request := by
  refine ⟨?_, ?_, ?_⟩
  · intro h
    exact absurd (h.same_request 0 1 (by decide)) (by decide)
  · simp [residentFirst, GbSafeAction, placeholderAsked, CachedCall.key, CachedCall.ttlS,
      hazardTag]
  · have hstart : CacheRun (.start 60 512 0 : CacheWorld (UpstreamAnswer ℕ) ℕ) []
        (.start 60 512 0) := .start
    have h₁ := hstart.step (a := .getOrSet 0 "context:문경시:-" none 0) rfl
    have h₂ := h₁.step (a := .passGuard 0) rfl
    have h₃ := h₂.step (a := .takeLock 0 0) rfl
    have h₄ := h₃.step (a := .factoryReturns 0
      (some ⟨(placeholderAsked 0).request, 7⟩) 2 2) rfl
    exact ⟨_, h₄, rfl, by decide⟩

end Salgil
