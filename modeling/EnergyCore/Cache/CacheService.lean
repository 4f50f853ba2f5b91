import Mathlib.Data.Rat.Defs
import Mathlib.Logic.Function.Basic
import Mathlib.Algebra.Order.Ring.Rat

/-!
# The cache service

A cache in the memory of the process, with a second level behind it or without, and the calls of its tasks. A call runs
until it waits for the second level or for a factory; another task may then go on.

* `step` — one step of one task, of the second level, or of a factory.
-/

namespace EnergyCore.Cache

/-! ### Values -/

/-- A value with the step at which the factory call, or the read of the second level, began that it comes from. A
value that was given to `set` comes from neither. -/
structure Stamped (α : Type) where
  value : α
  began : Option ℕ := none
  deriving Repr, DecidableEq

/-- `_CacheEntry`. -/
structure CacheEntry (α : Type) where
  value : Option (Stamped α)
  expiresAt : ℚ
  deriving Repr, DecidableEq

/-- How a factory ends. -/
inductive FactoryResult (α : Type) where
  | returned (value : Option α)
  | raised
  deriving Repr, DecidableEq

/-- A value that is read from the second level comes from what it was stored by, and from the read. -/
def readStamp {α : Type} (began : ℕ) (v : Stamped α) : Stamped α :=
  { v with began := some (v.began.elim began fun b => min b began) }

/-! ### Calls -/

/-- `InMemoryCacheService`, or `TieredCacheService` with a second level or without. -/
inductive Service where
  | inMemory
  | tiered (l2 : Bool)
  deriving Repr, DecidableEq

def Service.hasL2 : Service → Bool
  | inMemory => false
  | tiered l2 => l2

/-- What a call waits for. `floor` is the latest invalidation of its key that had returned when the call started. -/
inductive Call (κ α : Type) where
  /-- The second level is read by a `get`, or by a `get_or_set` with a time to live. -/
  | l2Get (key : κ) (began floor : ℕ) (ttl : Option ℚ) (served : Bool) (answer : Option (Stamped α))
  /-- The second level is written by a `set`, or by a `get_or_set` that returns the value. -/
  | l2Set (key : κ) (value : Option (Stamped α)) (floor : Option ℕ) (served : Bool)
  | l2Delete (key : κ) (began : ℕ) (served : Bool)
  | factory (key : κ) (task floor : ℕ) (ttl : ℚ)
  deriving Repr, DecidableEq

/-- A `get` or a `get_or_set` of a key. -/
def Call.Reads {κ α : Type} (key : κ) : Call κ α → Prop
  | .l2Get k .. => k = key
  | .l2Set k _ floor _ => k = key ∧ floor.isSome = true
  | .l2Delete .. => False
  | .factory k .. => k = key

/-- A value that a `get` or a `get_or_set` has returned. -/
structure Yield (κ α : Type) where
  key : κ
  floor : ℕ
  value : Stamped α
  deriving Repr, DecidableEq

/-- The cache with its calls. Steps are counted from one on. -/
structure State (κ α : Type) where
  clock : ℕ := 1
  now : ℚ := 0
  entries : κ → Option (CacheEntry α) := fun _ => none
  inflight : κ → Option ℕ := fun _ => none
  /-- The factory tasks by the step that created them, and how they have ended. -/
  factories : ℕ → Option (Option (FactoryResult α)) := fun _ => none
  l2 : κ → Option (Stamped α) := fun _ => none
  /-- The calls that wait, by the step that started them. -/
  calls : ℕ → Option (Call κ α) := fun _ => none
  /-- The latest invalidation that has started, and the latest that has returned. -/
  started : κ → ℕ := fun _ => 0
  returned : κ → ℕ := fun _ => 0
  yields : List (Yield κ α) := []

section

variable {κ α : Type} [DecidableEq κ]

namespace State

/-! ### The first level -/

/-- `InMemoryCacheService.get`. -/
def l1Get (s : State κ α) (key : κ) : Option (Stamped α) × State κ α :=
  match s.entries key with
  | none => (none, s)
  | some entry =>
    if entry.expiresAt ≤ s.now then (none, { s with entries := Function.update s.entries key none })
    else (entry.value, s)

/-- `InMemoryCacheService.set`, where `jitter` is drawn. -/
def l1Set (s : State κ α) (key : κ) (value : Option (Stamped α)) (ttl jitter : ℚ) : State κ α :=
  if ttl ≤ 0 then { s with entries := Function.update s.entries key none }
  else
    { s with
      entries := Function.update s.entries key (some { value := value, expiresAt := s.now + (ttl + jitter) }) }

/-- `InMemoryCacheService.invalidate`. -/
def l1Invalidate (s : State κ α) (key : κ) : State κ α :=
  { s with entries := Function.update s.entries key none }

/-! ### Calls that wait, return and go on -/

def suspend (s : State κ α) (id : ℕ) (call : Call κ α) : State κ α :=
  { s with calls := Function.update s.calls id (some call) }

def leave (s : State κ α) (id : ℕ) : State κ α := { s with calls := Function.update s.calls id none }

/-- A call returns a value, or nothing. -/
def yieldValue (s : State κ α) (key : κ) (floor : ℕ) (value : Option (Stamped α)) : State κ α :=
  match value with
  | none => s
  | some v => { s with yields := { key := key, floor := floor, value := v } :: s.yields }

/-- An invalidation returns. -/
def returns (s : State κ α) (key : κ) (began : ℕ) : State κ α :=
  { s with returned := Function.update s.returned key (max (s.returned key) began) }

/-- The end of `get_or_set`, after the first level has returned the value. -/
def finishGetOrSet (s : State κ α) (service : Service) (id : ℕ) (key : κ) (floor : ℕ) (value : Option (Stamped α)) :
    State κ α :=
  if service.hasL2 = true then s.suspend id (.l2Set key value (some floor) false) else s.yieldValue key floor value

/-- `await task`, and what follows. The lock is never held while a call waits, so taking it does not wait. -/
def awaitFactory (s : State κ α) (service : Service) (id : ℕ) (key : κ) (task floor : ℕ) (ttl jitter : ℚ) : State κ α :=
  match s.factories task with
  | some (some result) =>
    let s := if s.inflight key = some task then { s with inflight := Function.update s.inflight key none } else s
    match result with
    | .raised => s
    | .returned value =>
      let value := value.map fun v => { value := v, began := some task }
      (s.l1Set key value ttl jitter).finishGetOrSet service id key floor value
  | _ => s.suspend id (.factory key task floor ttl)

/-- `InMemoryCacheService.get_or_set`, where a task is created by the step `position`. -/
def l1GetOrSet (s : State κ α) (service : Service) (id position : ℕ) (key : κ) (floor : ℕ) (ttl jitter : ℚ) : State κ α :=
  match s.l1Get key with
  | (some cached, s) => s.finishGetOrSet service id key floor (some cached)
  | (none, s) =>
    match s.inflight key with
    | some task => s.awaitFactory service id key task floor ttl jitter
    | none =>
      { s with
        factories := Function.update s.factories position (some none)
        inflight := Function.update s.inflight key (some position) }.awaitFactory service id key position floor ttl jitter

end State

/-! ### Steps -/

inductive Operation (κ α : Type) where
  | get (key : κ)
  | set (key : κ) (value : Option α) (ttl : ℚ)
  | invalidate (key : κ)
  | getOrSet (key : κ) (ttl : ℚ)
  deriving Repr, DecidableEq

inductive Event (κ α : Type) where
  /-- A task starts a call. -/
  | start (operation : Operation κ α)
  /-- The second level does what a call asked for, or fails to. -/
  | serve (id : ℕ) (ok : Bool)
  /-- A factory ends. -/
  | factoryDone (task : ℕ) (result : FactoryResult α)
  /-- A call goes on. -/
  | resume (id : ℕ)
  | advance (seconds : ℚ)
  /-- The second level drops a key. -/
  | l2Drop (key : κ)
  deriving Repr, DecidableEq

/-- An event with the jitter that is drawn if something is stored. -/
structure Input (κ α : Type) where
  event : Event κ α
  jitter : ℚ := 0
  deriving Repr, DecidableEq

namespace State

/-- A `get`, or a `get_or_set` with a time to live, after the first level has been asked. -/
def startRead (s : State κ α) (service : Service) (position : ℕ) (key : κ) (ttl : Option ℚ) (jitter : ℚ) : State κ α :=
  let floor := s.returned key
  match s.l1Get key with
  | (some cached, s) => s.yieldValue key floor (some cached)
  | (none, s) =>
    if service.hasL2 = true then s.suspend position (.l2Get key position floor ttl false none)
    else
      match ttl with
      | none => s
      | some ttl => s.l1GetOrSet service position position key floor ttl jitter

def start (s : State κ α) (service : Service) (position : ℕ) (jitter : ℚ) : Operation κ α → State κ α
  | .get key => s.startRead service position key none jitter
  | .getOrSet key ttl => s.startRead service position key (some ttl) jitter
  | .set key value ttl =>
    let value := value.map fun v => { value := v }
    let s := s.l1Set key value ttl jitter
    if service.hasL2 = true then s.suspend position (.l2Set key value none false) else s
  | .invalidate key =>
    let s := { s.l1Invalidate key with started := Function.update s.started key position }
    if service.hasL2 = true then s.suspend position (.l2Delete key position false) else s.returns key position

/-- The second level answers a call. -/
def serve (s : State κ α) (id : ℕ) (ok : Bool) : State κ α :=
  match s.calls id with
  | some (.l2Get key began floor ttl false _) =>
    s.suspend id (.l2Get key began floor ttl true (if ok then (s.l2 key).map (readStamp began) else none))
  | some (.l2Set key value floor false) =>
    { s with l2 := if ok then Function.update s.l2 key value else s.l2 }.suspend id (.l2Set key value floor true)
  | some (.l2Delete key began false) =>
    { s with l2 := if ok then Function.update s.l2 key none else s.l2 }.suspend id (.l2Delete key began true)
  | _ => s

/-- A call goes on if what it waits for is there. -/
def resume (s : State κ α) (service : Service) (warmTtl : ℚ) (id position : ℕ) (jitter : ℚ) : State κ α :=
  match s.calls id with
  | some (.l2Get key _ floor ttl true answer) =>
    let s := s.leave id
    match answer, ttl with
    | some cached, _ => (s.l1Set key (some cached) warmTtl jitter).yieldValue key floor (some cached)
    | none, none => s
    | none, some ttl => s.l1GetOrSet service id position key floor ttl jitter
  | some (.l2Set key value floor true) =>
    let s := s.leave id
    match floor with
    | none => s
    | some floor => s.yieldValue key floor value
  | some (.l2Delete key began true) => (s.leave id).returns key began
  | some (.factory key task floor ttl) => (s.leave id).awaitFactory service id key task floor ttl jitter
  | _ => s

def act (s : State κ α) (service : Service) (warmTtl : ℚ) (position : ℕ) (input : Input κ α) : State κ α :=
  match input.event with
  | .start operation => s.start service position input.jitter operation
  | .serve id ok => s.serve id ok
  | .factoryDone task result =>
    match s.factories task with
    | some none => { s with factories := Function.update s.factories task (some (some result)) }
    | _ => s
  | .resume id => s.resume service warmTtl id position input.jitter
  | .advance seconds => { s with now := s.now + max 0 seconds }
  | .l2Drop key => { s with l2 := Function.update s.l2 key none }

end State

/-- One step, where `warmTtl` is `l1_warm_ttl_seconds`. -/
def step (service : Service) (warmTtl : ℚ) (s : State κ α) (input : Input κ α) : State κ α :=
  { s with clock := s.clock + 1 }.act service warmTtl s.clock input

end

end EnergyCore.Cache
