import Salgil.Python
import Mathlib.Data.List.MinMax

namespace Salgil
set_option autoImplicit true
set_option linter.unusedSectionVars false

/-- A stored value; no value is Python's `None`. -/
structure CacheEntry (V : Type u) (T : Type v) where
  value : Option V
  expiresAt : T
  deriving DecidableEq, Repr

/-- The locks of the keys are known by number. -/
structure TTLCache (V : Type u) (T : Type v) where
  defaultTtlS : T
  maxEntries : ℤ
  store : Dict String (CacheEntry V T) := .empty
  locks : Dict String ℕ := .empty

/-- Where a call of `get_or_set` waits, and which lock it waits for or holds. -/
inductive CallStage where
  | awaitsGuard
  | awaitsLock (lock : ℕ)
  | inFactory (lock : ℕ)
  deriving DecidableEq, Repr

structure CacheCall (T : Type v) where
  key : String
  ttlS : Option T
  stage : CallStage
  deriving DecidableEq, Repr

/-- A cache with the calls of `get_or_set` that have not ended and the holders of the locks. -/
structure CacheWorld (V : Type u) (T : Type v) where
  cache : TTLCache V T
  clock : T
  holder : ℕ → Option ℕ := fun _ => none
  calls : ℕ → Option (CacheCall T) := fun _ => none

/-- What happens from one await to the next, with the readings of the clock. -/
inductive CacheAction (V : Type u) (T : Type v) where
  | getOrSet (caller : ℕ) (key : String) (ttlS : Option T) (now : T)
  | passGuard (caller : ℕ)
  | takeLock (caller : ℕ) (now : T)
  | factoryReturns (caller : ℕ) (value : Option V) (now later : T)
  | factoryFails (caller : ℕ)
  | cancel (caller : ℕ)
  | get (key : String) (now : T)
  | set (key : String) (value : Option V) (ttlS : Option T) (now later : T)
  | invalidate (key : String)
  | clear
  deriving DecidableEq, Repr

section
variable {V : Type u} {T : Type v} [LinearOrder T] [Add T]

namespace TTLCache

/-- An entry that has expired is removed when it is read. -/
def get (c : TTLCache V T) (key : String) (now : T) : Option V × TTLCache V T :=
  match c.store.get? key with
  | none => (none, c)
  | some entry =>
    if entry.expiresAt < now then (none, { c with store := c.store.erase key })
    else (entry.value, c)

def dropExpired (c : TTLCache V T) (now : T) : Dict String (CacheEntry V T) :=
  (c.store.keys.filter fun k => (c.store.get? k).any (·.expiresAt < now)).foldl Dict.erase c.store

/-- The first of the keys whose entries expire the soonest. -/
def oldest (store : Dict String (CacheEntry V T)) : Option String :=
  ((store.keys.filterMap fun k => (store.get? k).map fun entry => (k, entry.expiresAt)).argmin
    (·.2)).map (·.1)

/-- The store once `set` has made room for an entry. -/
def makeRoom (c : TTLCache V T) (now : T) : Except PyError (Dict String (CacheEntry V T)) :=
  if (c.store.keys.length : ℤ) < c.maxEntries then .ok c.store
  else
    let store := c.dropExpired now
    if (store.keys.length : ℤ) < c.maxEntries then .ok store
    else match oldest store with
    | some k => .ok (store.erase k)
    | none => .error (.valueError "min() iterable argument is empty")

def expiry (c : TTLCache V T) (ttlS : Option T) (now : T) : T := now + ttlS.getD c.defaultTtlS

def set (c : TTLCache V T) (key : String) (value : Option V) (ttlS : Option T) (now later : T) :
    Except PyError (TTLCache V T) := do
  let store ← c.makeRoom now
  return { c with store := store.set key ⟨value, c.expiry ttlS later⟩ }

def invalidate (c : TTLCache V T) (key : String) : TTLCache V T :=
  { c with store := c.store.erase key }

def clear (c : TTLCache V T) : TTLCache V T := { c with store := .empty }

/-- `_locks.setdefault(key, asyncio.Lock())`. -/
def lockFor (c : TTLCache V T) (key : String) : ℕ × TTLCache V T :=
  match c.locks.get? key with
  | some lock => (lock, c)
  | none =>
    (c.locks.keys.length, { c with locks := c.locks.set key c.locks.keys.length })

end TTLCache

namespace CacheWorld

def start (defaultTtlS : T) (maxEntries : ℤ) (clock : T) : CacheWorld V T where
  cache := { defaultTtlS := defaultTtlS, maxEntries := maxEntries }
  clock := clock

def setCall (w : CacheWorld V T) (caller : ℕ) (call : Option (CacheCall T)) : CacheWorld V T :=
  { w with calls := Function.update w.calls caller call }

def setHolder (w : CacheWorld V T) (lock : ℕ) (caller : Option ℕ) : CacheWorld V T :=
  { w with holder := Function.update w.holder lock caller }

/-- The end of a call that holds the lock of its key. -/
def release (w : CacheWorld V T) (caller lock : ℕ) : CacheWorld V T :=
  (w.setHolder lock none).setCall caller none

/-- One step, if it can be taken, with the caller that gets a value by it. Nothing is awaited while
the guard is held, so that passing it is one step. -/
def step (w : CacheWorld V T) : CacheAction V T → Option (CacheWorld V T × Option (ℕ × Option V))
  | .getOrSet caller key ttlS now =>
    if w.calls caller = none ∧ w.clock ≤ now then
      let (hit, cache) := w.cache.get key now
      let w := { w with cache := cache, clock := now }
      match hit with
      | some v => some (w, some (caller, some v))
      | none => some (w.setCall caller (some ⟨key, ttlS, .awaitsGuard⟩), none)
    else none
  | .passGuard caller =>
    match w.calls caller with
    | some ⟨key, ttlS, .awaitsGuard⟩ =>
      let (lock, cache) := w.cache.lockFor key
      some ({ w with cache := cache }.setCall caller (some ⟨key, ttlS, .awaitsLock lock⟩), none)
    | _ => none
  | .takeLock caller now =>
    match w.calls caller with
    | some ⟨key, ttlS, .awaitsLock lock⟩ =>
      if w.holder lock = none ∧ w.clock ≤ now then
        let (hit, cache) := w.cache.get key now
        let w := { w with cache := cache, clock := now }
        match hit with
        | some v => some (w.setCall caller none, some (caller, some v))
        | none => some ((w.setHolder lock (some caller)).setCall caller
            (some ⟨key, ttlS, .inFactory lock⟩), none)
      else none
    | _ => none
  | .factoryReturns caller value now later =>
    match w.calls caller with
    | some ⟨key, ttlS, .inFactory lock⟩ =>
      if w.clock ≤ now ∧ now ≤ later then
        let w := { w with clock := later }
        match w.cache.set key value ttlS now later with
        | .ok cache => some ({ w with cache := cache }.release caller lock, some (caller, value))
        | .error _ => some (w.release caller lock, none)
      else none
    | _ => none
  | .factoryFails caller =>
    match w.calls caller with
    | some ⟨_, _, .inFactory lock⟩ => some (w.release caller lock, none)
    | _ => none
  | .cancel caller =>
    match w.calls caller with
    | some ⟨_, _, .awaitsGuard⟩ | some ⟨_, _, .awaitsLock _⟩ => some (w.setCall caller none, none)
    | _ => none
  | .get key now =>
    if w.clock ≤ now then some ({ w with cache := (w.cache.get key now).2, clock := now }, none)
    else none
  | .set key value ttlS now later =>
    if w.clock ≤ now ∧ now ≤ later then
      match w.cache.set key value ttlS now later with
      | .ok cache => some ({ w with cache := cache, clock := later }, none)
      | .error _ => some ({ w with clock := later }, none)
    else none
  | .invalidate key => some ({ w with cache := w.cache.invalidate key }, none)
  | .clear => some ({ w with cache := w.cache.clear }, none)

/-- A call for the key has started its factory and not ended. -/
def InFactory (w : CacheWorld V T) (caller : ℕ) (key : String) : Prop :=
  ∃ ttlS lock, w.calls caller = some ⟨key, ttlS, .inFactory lock⟩

/-- The entry that an action sets, and its key. -/
def stores (w : CacheWorld V T) : CacheAction V T → Option (String × CacheEntry V T)
  | .set key value ttlS _ later => some (key, ⟨value, w.cache.expiry ttlS later⟩)
  | .factoryReturns caller value _ later =>
    (w.calls caller).map fun call => (call.key, ⟨value, w.cache.expiry call.ttlS later⟩)
  | _ => none

end CacheWorld

/-- The actions so far, in any order that the awaits allow, and the state they lead to. -/
inductive CacheRun (init : CacheWorld V T) : List (CacheAction V T) → CacheWorld V T → Prop where
  | start : CacheRun init [] init
  | step : CacheRun init actions w → w.step a = some (w', result) →
      CacheRun init (actions ++ [a]) w'

end

end Salgil
