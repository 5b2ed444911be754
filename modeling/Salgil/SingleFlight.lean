import Salgil.Cache

namespace Salgil
set_option autoImplicit true
set_option linter.unusedSectionVars false

def CallStage.lock? : CallStage → Option ℕ
  | .awaitsGuard => none
  | .awaitsLock lock | .inFactory lock => some lock

section
variable {V : Type u} {T : Type v} [LinearOrder T] [Add T]

/-- The second cache holds nothing that the first does not. -/
structure TTLCache.Shrinks (c c' : TTLCache V T) : Prop where
  maxEntries_eq : c'.maxEntries = c.maxEntries
  kept : ∀ {key entry}, c'.store.get? key = some entry → c.store.get? key = some entry
  length_le : c'.store.keys.length ≤ c.store.keys.length

/-- Every key has a lock of its own, and a call waits for the lock of its key and holds it while its
factory runs. -/
structure CacheWorld.Locked (w : CacheWorld V T) : Prop where
  lock_lt : ∀ {key lock}, w.cache.locks.get? key = some lock → lock < w.cache.locks.keys.length
  lock_inj : ∀ {key key' lock}, w.cache.locks.get? key = some lock →
    w.cache.locks.get? key' = some lock → key = key'
  own : ∀ {caller key ttlS stage lock}, w.calls caller = some ⟨key, ttlS, stage⟩ →
    stage.lock? = some lock → w.cache.locks.get? key = some lock
  holds : ∀ {caller key ttlS lock}, w.calls caller = some ⟨key, ttlS, .inFactory lock⟩ →
    w.holder lock = some caller

/-- What one step may do to the calls and their locks. -/
inductive CallMove (w w' : CacheWorld V T) : Prop where
  | idle : w'.calls = w.calls → w'.holder = w.holder → w'.cache.locks = w.cache.locks →
      CallMove w w'
  | opens {caller key ttlS} :
      w'.calls = Function.update w.calls caller (some ⟨key, ttlS, .awaitsGuard⟩) →
      w'.holder = w.holder → w'.cache.locks = w.cache.locks → CallMove w w'
  | passes {caller key ttlS} : w'.calls = Function.update w.calls caller
        (some ⟨key, ttlS, .awaitsLock (w.cache.lockFor key).1⟩) →
      w'.holder = w.holder → w'.cache.locks = (w.cache.lockFor key).2.locks → CallMove w w'
  | enters {caller key ttlS lock} : w.calls caller = some ⟨key, ttlS, .awaitsLock lock⟩ →
      w.holder lock = none →
      w'.calls = Function.update w.calls caller (some ⟨key, ttlS, .inFactory lock⟩) →
      w'.holder = Function.update w.holder lock (some caller) →
      w'.cache.locks = w.cache.locks → CallMove w w'
  | leaves {caller} : w'.calls = Function.update w.calls caller none → w'.holder = w.holder →
      w'.cache.locks = w.cache.locks → CallMove w w'
  | ends {caller key ttlS lock} : w.calls caller = some ⟨key, ttlS, .inFactory lock⟩ →
      w'.calls = Function.update w.calls caller none →
      w'.holder = Function.update w.holder lock none →
      w'.cache.locks = w.cache.locks → CallMove w w'

/-- Everything that one step can do to the store: it sets an entry, or keeps or removes what is
there. -/
inductive StoreMove (w w' : CacheWorld V T) (a : CacheAction V T) : Prop where
  | sets {key value ttlS now later} : w.cache.set key value ttlS now later = .ok w'.cache →
      w.stores a = some (key, ⟨value, w.cache.expiry ttlS later⟩) → StoreMove w w' a
  | shrinks : w.cache.Shrinks w'.cache → StoreMove w w' a

/-- How a call can come to return a value. -/
inductive Returns (w : CacheWorld V T) : CacheAction V T → ℕ → Option V → Prop where
  | made {caller key value now later} : w.InFactory caller key →
      Returns w (.factoryReturns caller value now later) caller value
  | first {caller key ttlS now entry value} : w.cache.store.get? key = some entry →
      now ≤ entry.expiresAt → entry.value = some value →
      Returns w (.getOrSet caller key ttlS now) caller (some value)
  | second {caller key ttlS lock now entry value} :
      w.calls caller = some ⟨key, ttlS, .awaitsLock lock⟩ → w.cache.store.get? key = some entry →
      now ≤ entry.expiresAt → entry.value = some value →
      Returns w (.takeLock caller now) caller (some value)

/-- Some action of the run set this entry under this key: a `set`, or a factory that returned. -/
def Stored (init : CacheWorld V T) (actions : List (CacheAction V T)) (key : String)
    (entry : CacheEntry V T) : Prop :=
  ∃ before a after w, actions = before ++ a :: after ∧ CacheRun init before w ∧
    w.stores a = some (key, entry)

/-- What the cache promises in a state that a run has reached. -/
structure SingleFlight (init : CacheWorld V T) (actions : List (CacheAction V T))
    (w : CacheWorld V T) : Prop where
  alone : ∀ caller caller' key, w.InFactory caller key → w.InFactory caller' key → caller = caller'
  returned : ∀ a w' caller value, w.step a = some (w', some (caller, value)) →
    Returns w a caller value
  stored : ∀ key entry, w.cache.store.get? key = some entry → Stored init actions key entry
  failed : ∀ caller w' result, w.step (.factoryFails caller) = some (w', result) →
    w'.cache = w.cache ∧ result = none
  bounded : 1 ≤ init.cache.maxEntries → (w.cache.store.keys.length : ℤ) ≤ init.cache.maxEntries

variable {c c' : TTLCache V T} {w w' init : CacheWorld V T} {a : CacheAction V T}
variable {result : Option (ℕ × Option V)} {actions : List (CacheAction V T)}
variable {key : String} {now later : T} {caller : ℕ} {value : Option V} {ttlS : Option T}

namespace TTLCache

theorem Shrinks.refl (c : TTLCache V T) : c.Shrinks c := ⟨rfl, id, le_rfl⟩

theorem erase_shrinks (c : TTLCache V T) (key : String) :
    c.Shrinks { c with store := c.store.erase key } where
  maxEntries_eq := rfl
  kept h := (Dict.get?_erase_eq_some.1 h).2
  length_le := c.store.length_keys_erase_le key

theorem get_shrinks (c : TTLCache V T) (key : String) (now : T) : c.Shrinks (c.get key now).2 := by
  unfold get
  split
  · exact .refl c
  · split
    · exact c.erase_shrinks key
    · exact .refl c

theorem get_locks (c : TTLCache V T) (key : String) (now : T) :
    (c.get key now).2.locks = c.locks := by
  unfold get
  split
  · rfl
  · split <;> rfl

theorem clear_shrinks (c : TTLCache V T) : c.Shrinks c.clear where
  maxEntries_eq := rfl
  kept h := by simp [clear, Dict.empty] at h
  length_le := Nat.zero_le _

theorem get_eq_some {v : V} (h : (c.get key now).1 = some v) :
    ∃ entry, c.store.get? key = some entry ∧ entry.value = some v ∧ now ≤ entry.expiresAt := by
  unfold get at h
  split at h
  · cases h
  · next entry hentry =>
    split at h
    · cases h
    · next hlive => exact ⟨entry, hentry, h, not_lt.1 hlive⟩

theorem lockFor_locks (c : TTLCache V T) (key : String) :
    (c.lockFor key).2.locks.get? key = some (c.lockFor key).1 := by
  unfold lockFor
  split
  · next lock hlock => exact hlock
  · exact Dict.get?_set_self _ _ _

theorem lockFor_cases (c : TTLCache V T) (key : String) :
    (c.lockFor key).2.locks = c.locks ∨ c.locks.get? key = none ∧
      (c.lockFor key).2.locks = c.locks.set key c.locks.keys.length := by
  unfold lockFor
  split
  · exact .inl rfl
  · next hnone => exact .inr ⟨hnone, rfl⟩

end TTLCache

theorem CacheWorld.start_locked (defaultTtlS : T) (maxEntries : ℤ) (clock : T) :
    (start defaultTtlS maxEntries clock : CacheWorld V T).Locked where
  lock_lt h := by simp [start, Dict.empty] at h
  lock_inj h := by simp [start, Dict.empty] at h
  own h := by simp [start] at h
  holds h := by simp [start] at h

/-- Every key keeps its lock, and no two keys have the same one. -/
structure CacheWorld.LocksKept (w w' : CacheWorld V T) : Prop where
  lock_lt : ∀ {key lock}, w'.cache.locks.get? key = some lock →
    lock < w'.cache.locks.keys.length
  lock_inj : ∀ {key key' lock}, w'.cache.locks.get? key = some lock →
    w'.cache.locks.get? key' = some lock → key = key'
  kept : ∀ {key lock}, w.cache.locks.get? key = some lock → w'.cache.locks.get? key = some lock

theorem CacheWorld.Locked.locksKept (h : w.Locked)
    (hlocks : w'.cache.locks = w.cache.locks) : w.LocksKept w' := by
  constructor <;> rw [hlocks]
  · exact h.lock_lt
  · exact h.lock_inj
  · exact id

/-- The locks stay as they are, or the key of a call gets a lock that no other key has. -/
theorem CacheWorld.Locked.lockFor (h : w.Locked)
    (hlocks : w'.cache.locks = (w.cache.lockFor key).2.locks) :
    w.LocksKept w' := by
  rcases w.cache.lockFor_cases key with hsame | ⟨hnone, hnew⟩
  · exact h.locksKept (hlocks.trans hsame)
  · rw [hnew] at hlocks
    have hlength : w'.cache.locks.keys.length = w.cache.locks.keys.length + 1 := by
      simp [hlocks, Dict.set, hnone]
    have hget : ∀ {key' lock}, w'.cache.locks.get? key' = some lock →
        key' = key ∧ lock = w.cache.locks.keys.length ∨ w.cache.locks.get? key' = some lock := by
      intro key' lock hl
      by_cases hkey : key' = key
      · subst hkey
        rw [hlocks, Dict.get?_set_self, Option.some.injEq] at hl
        exact .inl ⟨rfl, hl.symm⟩
      · rw [hlocks, Dict.get?_set_of_ne _ _ hkey] at hl
        exact .inr hl
    refine ⟨?_, ?_, ?_⟩
    · intro key' lock hl
      rw [hlength]
      rcases hget hl with ⟨-, rfl⟩ | hl
      · exact Nat.lt_succ_self _
      · exact (h.lock_lt hl).trans (Nat.lt_succ_self _)
    · intro key₁ key₂ lock hl₁ hl₂
      rcases hget hl₁ with ⟨rfl, rfl⟩ | hl₁ <;> rcases hget hl₂ with ⟨rfl, hlock⟩ | hl₂
      · rfl
      · exact absurd (h.lock_lt hl₂) (lt_irrefl _)
      · exact absurd (hlock ▸ h.lock_lt hl₁) (lt_irrefl _)
      · exact h.lock_inj hl₁ hl₂
    · intro key' lock hl
      have hkey : key' ≠ key := by
        rintro rfl
        rw [hnone] at hl
        cases hl
      rw [hlocks, Dict.get?_set_of_ne _ _ hkey]
      exact hl

theorem CacheWorld.Locked.update (h : w.Locked) (hlocks : w.LocksKept w')
    {call : Option (CacheCall T)} (hcalls : w'.calls = Function.update w.calls caller call)
    (hown : ∀ key ttlS stage lock, call = some ⟨key, ttlS, stage⟩ → stage.lock? = some lock →
      w'.cache.locks.get? key = some lock)
    (hholds : ∀ key ttlS lock, call = some ⟨key, ttlS, .inFactory lock⟩ →
      w'.holder lock = some caller)
    (hothers : ∀ caller' lock, caller' ≠ caller → w.holder lock = some caller' →
      w'.holder lock = some caller') : w'.Locked := by
  refine ⟨hlocks.lock_lt, hlocks.lock_inj, ?_, ?_⟩
  · intro caller' key ttlS stage lock hc hl
    rw [hcalls] at hc
    by_cases hcaller : caller' = caller
    · subst hcaller
      rw [Function.update_self] at hc
      exact hown key ttlS stage lock hc hl
    · rw [Function.update_of_ne hcaller] at hc
      exact hlocks.kept (h.own hc hl)
  · intro caller' key ttlS lock hc
    rw [hcalls] at hc
    by_cases hcaller : caller' = caller
    · subst hcaller
      rw [Function.update_self] at hc
      exact hholds key ttlS lock hc
    · rw [Function.update_of_ne hcaller] at hc
      exact hothers caller' lock hcaller (h.holds hc)

theorem CallMove.locked (hmove : CallMove w w') (h : w.Locked) : w'.Locked := by
  cases hmove with
  | idle hcalls hholder hlocks =>
    have hkept := h.locksKept hlocks
    refine ⟨hkept.lock_lt, hkept.lock_inj, ?_, ?_⟩
    · rw [hlocks, hcalls]
      exact h.own
    · rw [hholder, hcalls]
      exact h.holds
  | opens hcalls hholder hlocks =>
    apply h.update (h.locksKept hlocks) hcalls
    · intro key ttlS stage lock hc hl
      cases hc
      simp [CallStage.lock?] at hl
    · simp
    · rw [hholder]
      exact fun _ _ _ hh => hh
  | @passes caller key ttlS hcalls hholder hlocks =>
    apply h.update (h.lockFor hlocks) hcalls
    · intro key' ttlS' stage lock hc hl
      cases hc
      obtain rfl : (w.cache.lockFor key).1 = lock := by simpa [CallStage.lock?] using hl
      rw [hlocks]
      exact w.cache.lockFor_locks key
    · simp
    · rw [hholder]
      exact fun _ _ _ hh => hh
  | @enters caller key ttlS lock hwaits hfree hcalls hholder hlocks =>
    apply h.update (h.locksKept hlocks) hcalls
    · intro key' ttlS' stage lock' hc hl
      cases hc
      rw [hlocks]
      exact h.own hwaits hl
    · intro key' ttlS' lock' hc
      cases hc
      rw [hholder, Function.update_self]
    · intro caller' lock' _ hheld
      -- nobody holds the lock that is taken
      have hne : lock' ≠ lock := by
        rintro rfl
        rw [hfree] at hheld
        cases hheld
      rw [hholder, Function.update_of_ne hne]
      exact hheld
  | leaves hcalls hholder hlocks =>
    apply h.update (h.locksKept hlocks) hcalls
    · simp
    · simp
    · rw [hholder]
      exact fun _ _ _ hh => hh
  | @ends caller key ttlS lock hruns hcalls hholder hlocks =>
    apply h.update (h.locksKept hlocks) hcalls
    · simp
    · simp
    · intro caller' lock' hcaller hheld
      have hmine := h.holds hruns
      have hne : lock' ≠ lock := by
        rintro rfl
        exact hcaller (Option.some.inj (hheld.symm.trans hmine))
      rw [hholder, Function.update_of_ne hne]
      exact hheld

/-- Calls for one key share its lock, and only its holder runs a factory. -/
theorem CacheWorld.Locked.alone (h : w.Locked) {caller' : ℕ} (hc : w.InFactory caller key)
    (hc' : w.InFactory caller' key) : caller = caller' := by
  obtain ⟨ttlS, lock, hcall⟩ := hc
  obtain ⟨ttlS', lock', hcall'⟩ := hc'
  have hlock : lock = lock' := Option.some.inj ((h.own hcall rfl).symm.trans (h.own hcall' rfl))
  subst hlock
  exact Option.some.inj ((h.holds hcall).symm.trans (h.holds hcall'))

namespace TTLCache

theorem set_eq_ok (h : c.set key value ttlS now later = .ok c') :
    ∃ store, c.makeRoom now = .ok store ∧
      c' = { c with store := store.set key ⟨value, c.expiry ttlS later⟩ } := by
  obtain ⟨store, hstore, hc⟩ := bind_eq_ok.1 h
  exact ⟨store, hstore, (Except.ok.inj hc).symm⟩

theorem oldest_mem {store : Dict String (CacheEntry V T)} (h : oldest store = some key) :
    key ∈ store.keys := by
  obtain ⟨⟨k, t⟩, hmin, rfl⟩ := Option.map_eq_some_iff.1 h
  obtain ⟨k', hk', hpair⟩ := List.mem_filterMap.1 (List.argmin_mem hmin)
  obtain ⟨entry, -, he⟩ := Option.map_eq_some_iff.1 hpair
  cases he
  exact hk'

theorem makeRoom_spec {store : Dict String (CacheEntry V T)} (h : c.makeRoom now = .ok store) :
    (∀ {key entry}, store.get? key = some entry → c.store.get? key = some entry) ∧
      ((c.store.keys.length : ℤ) ≤ c.maxEntries → (store.keys.length : ℤ) < c.maxEntries) := by
  unfold makeRoom at h
  split at h
  · next hroom =>
    cases h
    exact ⟨id, fun _ => hroom⟩
  · simp only at h
    split at h
    · next hroom =>
      cases h
      exact ⟨Dict.get?_foldl_erase, fun _ => hroom⟩
    · split at h
      · next k hk =>
        cases h
        have hle := c.store.length_keys_foldl_erase_le
          (c.store.keys.filter fun k => (c.store.get? k).any (·.expiresAt < now))
        have hlt := Dict.length_keys_erase_lt (oldest_mem hk)
        refine ⟨fun hget => Dict.get?_foldl_erase (Dict.get?_erase_eq_some.1 hget).2, ?_⟩
        intro hmax
        unfold dropExpired at hlt ⊢
        omega
      · cases h

theorem set_store (h : c.set key value ttlS now later = .ok c') {key' : String}
    {entry : CacheEntry V T} (hget : c'.store.get? key' = some entry) :
    key' = key ∧ entry = ⟨value, c.expiry ttlS later⟩ ∨ c.store.get? key' = some entry := by
  obtain ⟨store, hroom, rfl⟩ := set_eq_ok h
  by_cases hkey : key' = key
  · subst hkey
    rw [Dict.get?_set_self, Option.some.injEq] at hget
    exact .inl ⟨rfl, hget.symm⟩
  · rw [Dict.get?_set_of_ne _ _ hkey] at hget
    exact .inr ((makeRoom_spec hroom).1 hget)

theorem set_bounded (h : c.set key value ttlS now later = .ok c')
    (hle : (c.store.keys.length : ℤ) ≤ c.maxEntries) :
    (c'.store.keys.length : ℤ) ≤ c'.maxEntries := by
  obtain ⟨store, hroom, rfl⟩ := set_eq_ok h
  have hlt := (makeRoom_spec hroom).2 hle
  have hset := store.length_keys_set_le key ⟨value, c.expiry ttlS later⟩
  simp only
  omega

end TTLCache

/-- What a step amounts to. -/
structure CacheStep (w : CacheWorld V T) (a : CacheAction V T) (w' : CacheWorld V T)
    (result : Option (ℕ × Option V)) : Prop where
  move : CallMove w w'
  store : StoreMove w w' a
  returns : ∀ caller value, result = some (caller, value) → Returns w a caller value

namespace CacheWorld

theorem step_getOrSet (h : w.step (.getOrSet caller key ttlS now) = some (w', result)) :
    CacheStep w (.getOrSet caller key ttlS now) w' result := by
  have hshrinks := w.cache.get_shrinks key now
  have hlocks := w.cache.get_locks key now
  simp only [step] at h
  split at h
  · split at h
    · next v hhit =>
      cases h
      refine ⟨.idle rfl rfl hlocks, .shrinks hshrinks, ?_⟩
      rintro caller' v' ⟨⟩
      obtain ⟨entry, hentry, hvalue, hlive⟩ := TTLCache.get_eq_some hhit
      exact .first hentry hlive hvalue
    · cases h
      exact ⟨.opens rfl rfl hlocks, .shrinks hshrinks, fun _ _ hr => nomatch hr⟩
  · cases h

theorem step_passGuard (h : w.step (.passGuard caller) = some (w', result)) :
    CacheStep w (.passGuard caller) w' result := by
  simp only [step] at h
  split at h
  · next key ttlS hcall =>
    cases h
    have hstore : (w.cache.lockFor key).2.maxEntries = w.cache.maxEntries ∧
        (w.cache.lockFor key).2.store = w.cache.store := by
      unfold TTLCache.lockFor
      split <;> exact ⟨rfl, rfl⟩
    refine ⟨.passes rfl rfl rfl, .shrinks ⟨hstore.1, ?_, ?_⟩, fun _ _ hr => nomatch hr⟩
    · rw [setCall, hstore.2]
      exact id
    · rw [setCall, hstore.2]
  · cases h

theorem step_takeLock (h : w.step (.takeLock caller now) = some (w', result)) :
    CacheStep w (.takeLock caller now) w' result := by
  simp only [step] at h
  split at h
  · next key ttlS lock hcall =>
    have hshrinks := w.cache.get_shrinks key now
    have hlocks := w.cache.get_locks key now
    split at h
    · next hfree =>
      split at h
      · next v hhit =>
        cases h
        refine ⟨.leaves rfl rfl hlocks, .shrinks hshrinks, ?_⟩
        rintro caller' v' ⟨⟩
        obtain ⟨entry, hentry, hvalue, hlive⟩ := TTLCache.get_eq_some hhit
        exact .second hcall hentry hlive hvalue
      · cases h
        exact ⟨.enters hcall hfree.1 rfl rfl hlocks, .shrinks hshrinks, fun _ _ hr => nomatch hr⟩
    · cases h
  · cases h

theorem step_factoryReturns
    (h : w.step (.factoryReturns caller value now later) = some (w', result)) :
    CacheStep w (.factoryReturns caller value now later) w' result := by
  simp only [step] at h
  split at h
  · next key ttlS lock hcall =>
    split at h
    · split at h
      · next cache hset =>
        cases h
        refine ⟨.ends hcall rfl rfl ?_, .sets hset (by simp [stores, hcall]), ?_⟩
        · obtain ⟨store, -, rfl⟩ := TTLCache.set_eq_ok hset
          rfl
        · rintro caller' v' ⟨⟩
          exact .made ⟨ttlS, lock, hcall⟩
      · cases h
        exact ⟨.ends hcall rfl rfl rfl, .shrinks (.refl _), fun _ _ hr => nomatch hr⟩
    · cases h
  · cases h

theorem step_spec (h : w.step a = some (w', result)) : CacheStep w a w' result := by
  cases a with
  | getOrSet caller key ttlS now => exact step_getOrSet h
  | passGuard caller => exact step_passGuard h
  | takeLock caller now => exact step_takeLock h
  | factoryReturns caller value now later => exact step_factoryReturns h
  | factoryFails caller =>
    simp only [step] at h
    split at h
    · next key ttlS lock hcall =>
      cases h
      exact ⟨.ends hcall rfl rfl rfl, .shrinks (.refl _), fun _ _ hr => nomatch hr⟩
    · cases h
  | cancel caller =>
    simp only [step] at h
    split at h
    · cases h
      exact ⟨.leaves rfl rfl rfl, .shrinks (.refl _), fun _ _ hr => nomatch hr⟩
    · cases h
      exact ⟨.leaves rfl rfl rfl, .shrinks (.refl _), fun _ _ hr => nomatch hr⟩
    · cases h
  | get key now =>
    simp only [step] at h
    split at h
    · cases h
      exact ⟨.idle rfl rfl (w.cache.get_locks key now), .shrinks (w.cache.get_shrinks key now),
        fun _ _ hr => nomatch hr⟩
    · cases h
  | set key value ttlS now later =>
    simp only [step] at h
    split at h
    · split at h
      · next cache hset =>
        cases h
        refine ⟨.idle rfl rfl ?_, .sets hset rfl, fun _ _ hr => nomatch hr⟩
        obtain ⟨store, -, rfl⟩ := TTLCache.set_eq_ok hset
        rfl
      · cases h
        exact ⟨.idle rfl rfl rfl, .shrinks (.refl _), fun _ _ hr => nomatch hr⟩
    · cases h
  | invalidate key =>
    cases h
    exact ⟨.idle rfl rfl rfl, .shrinks (w.cache.erase_shrinks key), fun _ _ hr => nomatch hr⟩
  | clear =>
    cases h
    exact ⟨.idle rfl rfl rfl, .shrinks w.cache.clear_shrinks, fun _ _ hr => nomatch hr⟩

end CacheWorld

theorem Stored.append {entry : CacheEntry V T} (h : Stored init actions key entry)
    (a : CacheAction V T) : Stored init (actions ++ [a]) key entry := by
  obtain ⟨before, b, after, w, rfl, hrun, hstores⟩ := h
  exact ⟨before, b, after ++ [a], w, by simp, hrun, hstores⟩

/-- The invariant of the runs. -/
structure CacheInv (init : CacheWorld V T) (actions : List (CacheAction V T))
    (w : CacheWorld V T) : Prop where
  locked : w.Locked
  stored : ∀ {key entry}, w.cache.store.get? key = some entry → Stored init actions key entry
  maxEntries_eq : w.cache.maxEntries = init.cache.maxEntries
  bounded : 0 ≤ init.cache.maxEntries → (w.cache.store.keys.length : ℤ) ≤ w.cache.maxEntries

theorem CacheInv.step (h : CacheInv init actions w) (hrun : CacheRun init actions w)
    (hstep : CacheStep w a w' result) : CacheInv init (actions ++ [a]) w' := by
  obtain ⟨hmove, hstore, -⟩ := hstep
  cases hstore with
  | @sets key value ttlS now later hset hstores =>
    refine ⟨hmove.locked h.locked, ?_, ?_, ?_⟩
    · intro key' entry hget
      rcases TTLCache.set_store hset hget with ⟨rfl, rfl⟩ | hget
      · exact ⟨actions, a, [], w, rfl, hrun, hstores⟩
      · exact (h.stored hget).append a
    · obtain ⟨store, -, hcache⟩ := TTLCache.set_eq_ok hset
      rw [hcache]
      exact h.maxEntries_eq
    · exact fun hmax => TTLCache.set_bounded hset (h.bounded hmax)
  | shrinks hshrinks =>
    refine ⟨hmove.locked h.locked, ?_, ?_, ?_⟩
    · exact fun hget => (h.stored (hshrinks.kept hget)).append a
    · exact hshrinks.maxEntries_eq.trans h.maxEntries_eq
    · intro hmax
      have hle := h.bounded hmax
      have hlength := hshrinks.length_le
      rw [hshrinks.maxEntries_eq]
      omega

theorem CacheRun.inv {defaultTtlS clock : T} {maxEntries : ℤ}
    (h : CacheRun (.start defaultTtlS maxEntries clock) actions w) :
    CacheInv (.start defaultTtlS maxEntries clock) actions w := by
  induction h with
  | start =>
    refine ⟨CacheWorld.start_locked _ _ _, ?_, rfl, id⟩
    intro key entry hget
    simp [CacheWorld.start, Dict.empty] at hget
  | step hrun hstep ih => exact ih.step hrun (CacheWorld.step_spec hstep)

/-- In every order of the steps that the awaits allow. -/
theorem single_flight {defaultTtlS clock : T} {maxEntries : ℤ}
    (h : CacheRun (.start defaultTtlS maxEntries clock) actions w) :
    SingleFlight (.start defaultTtlS maxEntries clock) actions w := by
  have hinv := h.inv
  constructor
  case alone => exact fun caller caller' key hc hc' => hinv.locked.alone hc hc'
  case returned =>
    exact fun a w' caller value hstep => (CacheWorld.step_spec hstep).returns caller value rfl
  case stored => exact fun key entry hget => hinv.stored hget
  case failed =>
    intro caller w' result hstep
    simp only [CacheWorld.step] at hstep
    split at hstep
    · cases hstep
      exact ⟨rfl, rfl⟩
    · cases hstep
  case bounded =>
    intro hmax
    have hle := hinv.bounded (zero_le_one.trans hmax)
    rw [hinv.maxEntries_eq] at hle
    exact hle

end

/-- Two calls for one key; the second one waits for the factory of the first. -/
def twoCalls : List (CacheAction ℕ ℕ) :=
  [.getOrSet 0 "regions" none 0, .passGuard 0, .takeLock 0 0, .getOrSet 1 "regions" none 1,
    .passGuard 1, .factoryReturns 0 (some 7) 2 2]

theorem single_flight_second_call : ∃ w, CacheRun (.start 60 512 0) twoCalls w ∧
    SingleFlight (.start 60 512 0) twoCalls w ∧
    (w.step (.takeLock 1 3)).map (·.2) = some (some (1, some 7)) := by
  have hstart : CacheRun (.start 60 512 0 : CacheWorld ℕ ℕ) [] (.start 60 512 0) := .start
  have h₁ := hstart.step (a := .getOrSet 0 "regions" none 0) rfl
  have h₂ := h₁.step (a := .passGuard 0) rfl
  have h₃ := h₂.step (a := .takeLock 0 0) rfl
  have h₄ := h₃.step (a := .getOrSet 1 "regions" none 1) rfl
  have h₅ := h₄.step (a := .passGuard 1) rfl
  have h₆ := h₅.step (a := .factoryReturns 0 (some 7) 2 2) rfl
  exact ⟨_, h₆, single_flight h₆, rfl⟩

end Salgil
