import EnergyCore.Cache.CacheService
import EnergyCore.Foundations.StepRun

/-!
# Stale reads

What a cache yields after an invalidation, along every interleaving of its calls.

* `Inv` — no value that is stored, or on its way, comes from before the latest invalidation of its key;
* `inv_step` — an undisturbed step keeps this;
* `fresh_of_undisturbed` — along undisturbed steps no read that starts after an invalidation yields a value from before.
-/

namespace EnergyCore.Cache

variable {κ α : Type}

/-! ### The invariant -/

/-- A value that does not come from before a step, or none. -/
def Fresh (bound : ℕ) (value : Option (Stamped α)) : Prop := ∀ v ∈ value, ∀ began ∈ v.began, bound ≤ began

/-- What has been returned does not come from before an invalidation that had returned when the call started. -/
def Yield.Fresh (y : Yield κ α) : Prop := ∀ began ∈ y.value.began, y.floor ≤ began

theorem fresh_none (bound : ℕ) : Fresh bound (none : Option (Stamped α)) := by
  intro v hv
  cases hv

/-- A value that is read is as fresh as it was stored, and as the read. -/
theorem Fresh.readStamp {bound began : ℕ} {value : Option (Stamped α)} (h : Fresh bound value) (hread : bound ≤ began) :
    Fresh bound (value.map (readStamp began)) := by
  intro stamped hstamped b hb
  obtain ⟨v, hv, rfl⟩ := Option.map_eq_some_iff.mp hstamped
  cases hbegan : v.began with
  | none =>
    have heq : began = b := by
      have hsome := hb
      unfold Cache.readStamp at hsome
      rw [hbegan] at hsome
      exact Option.some.inj hsome
    rw [← heq]
    exact hread
  | some b' =>
    have heq : min b' began = b := by
      have hsome := hb
      unfold Cache.readStamp at hsome
      rw [hbegan] at hsome
      exact Option.some.inj hsome
    rw [← heq]
    exact le_min (h v hv b' hbegan) hread

/-- What a call waits for does not come from before the latest invalidation of its key, and the second level is only
written where there is one. -/
def CallOk (service : Service) (started : κ → ℕ) : Call κ α → Prop
  | .l2Get key began floor _ _ answer => started key ≤ began ∧ floor ≤ started key ∧ Fresh (started key) answer
  | .l2Set _ value none _ => service.hasL2 = true ∧ ∀ bound, Fresh bound value
  | .l2Set key value (some floor) _ => service.hasL2 = true ∧ Fresh (started key) value ∧ floor ≤ started key
  | .l2Delete key began _ => began ≤ started key
  | .factory key task floor _ => started key ≤ task ∧ floor ≤ started key

/-- A key is still to be deleted from the second level. -/
def State.Deleting (s : State κ α) (key : κ) : Prop := ∃ id began, s.calls id = some (.l2Delete key began false)

/-- A key is still to be read from the second level. -/
def State.Reading (s : State κ α) (key : κ) : Prop :=
  ∃ id began floor ttl answer, s.calls id = some (.l2Get key began floor ttl false answer)

structure Inv (service : Service) (s : State κ α) : Prop where
  entries : ∀ key entry, s.entries key = some entry → Fresh (s.started key) entry.value
  inflight : ∀ key task, s.inflight key = some task → s.started key ≤ task
  calls : ∀ id call, s.calls id = some call → CallOk service s.started call
  memory : service.hasL2 = false → ∀ key, s.l2 key = none
  l2 : ∀ key, Fresh (s.started key) (s.l2 key) ∨ s.Deleting key
  apart : ∀ key, s.Reading key → ¬ s.Deleting key
  returned_le : ∀ key, s.returned key ≤ s.started key
  started_lt : ∀ key, s.started key < s.clock
  calls_lt : ∀ id, s.clock ≤ id → s.calls id = none
  yields : ∀ y ∈ s.yields, y.Fresh

section

variable {s : State κ α} {key : κ} {id position task floor : ℕ} {value : Option (Stamped α)}
  {ttl jitter : ℚ} {service : Service}

/-! ### Calls that wait, return and go on -/

/-- A call that waits keeps a read and a deletion of a key apart. -/
def Apart (s : State κ α) : Call κ α → Prop
  | .l2Get key _ _ _ false _ => ¬ s.Deleting key
  | .l2Delete key _ false => ¬ s.Reading key
  | _ => True

theorem Inv.suspend (h : Inv service s) {call : Call κ α} (hfree : s.calls id = none) (hid : id < s.clock)
    (hcall : CallOk service s.started call) (hapart : Apart s call) : Inv service (s.suspend id call) :=
  { h with
    calls := by
      intro id' call' hcall'
      unfold State.suspend at hcall'
      dsimp only at hcall'
      by_cases hsame : id' = id
      · subst hsame
        rw [Function.update_self] at hcall'
        cases hcall'
        exact hcall
      · rw [Function.update_of_ne hsame] at hcall'
        exact h.calls id' call' hcall'
    l2 := by
      intro k
      refine (h.l2 k).imp_right ?_
      rintro ⟨id', began, hdelete⟩
      refine ⟨id', began, ?_⟩
      have hne : id' ≠ id := by
        rintro rfl
        rw [hfree] at hdelete
        cases hdelete
      exact (Function.update_of_ne hne _ _).trans hdelete
    apart := by
      rintro k ⟨id₁, began₁, floor₁, ttl₁, answer₁, hread⟩ ⟨id₂, began₂, hdelete⟩
      unfold State.suspend at hread hdelete
      dsimp only at hread hdelete
      by_cases h₁ : id₁ = id
      · subst h₁
        rw [Function.update_self] at hread
        by_cases h₂ : id₂ = id₁
        · subst h₂
          rw [Function.update_self] at hdelete
          rw [hdelete] at hread
          cases hread
        · rw [Function.update_of_ne h₂] at hdelete
          cases hread
          exact hapart ⟨id₂, began₂, hdelete⟩
      · rw [Function.update_of_ne h₁] at hread
        have hreading : s.Reading k := ⟨id₁, began₁, floor₁, ttl₁, answer₁, hread⟩
        by_cases h₂ : id₂ = id
        · subst h₂
          rw [Function.update_self] at hdelete
          cases hdelete
          exact hapart hreading
        · rw [Function.update_of_ne h₂] at hdelete
          exact h.apart k hreading ⟨id₂, began₂, hdelete⟩
    calls_lt := by
      intro id' hid'
      have hne : id' ≠ id := (hid.trans_le hid').ne'
      exact (Function.update_of_ne hne _ _).trans (h.calls_lt id' hid') }

theorem Inv.leave (h : Inv service s)
    (hdelete : ∀ k began, s.calls id = some (.l2Delete k began false) → Fresh (s.started k) (s.l2 k)) :
    Inv service (s.leave id) := by
  have hsub : ∀ id' call, (s.leave id).calls id' = some call → s.calls id' = some call := by
    intro id' call hcall
    unfold State.leave at hcall
    dsimp only at hcall
    by_cases hsame : id' = id
    · subst hsame
      rw [Function.update_self] at hcall
      cases hcall
    · rw [Function.update_of_ne hsame] at hcall
      exact hcall
  exact
    { h with
      calls := fun id' call hcall => h.calls id' call (hsub id' call hcall)
      l2 := by
        intro k
        rcases h.l2 k with hfresh | ⟨id', began, hpending⟩
        · exact .inl hfresh
        · by_cases hsame : id' = id
          · subst hsame
            exact .inl (hdelete k began hpending)
          · exact .inr ⟨id', began, (Function.update_of_ne hsame _ _).trans hpending⟩
      apart := by
        rintro k ⟨id₁, began₁, floor₁, ttl₁, answer₁, hread⟩ ⟨id₂, began₂, hpending⟩
        exact h.apart k ⟨id₁, began₁, floor₁, ttl₁, answer₁, hsub _ _ hread⟩ ⟨id₂, began₂, hsub _ _ hpending⟩
      calls_lt := by
        intro id' hid'
        unfold State.leave
        dsimp only
        by_cases hsame : id' = id
        · subst hsame
          exact Function.update_self ..
        · exact (Function.update_of_ne hsame _ _).trans (h.calls_lt id' hid') }

theorem Inv.yieldValue (h : Inv service s) (hfloor : floor ≤ s.started key) (hvalue : Fresh (s.started key) value) :
    Inv service (s.yieldValue key floor value) := by
  cases value with
  | none => exact h
  | some v =>
    exact
      { h with
        yields := by
          intro y hy
          rcases List.mem_cons.mp hy with rfl | hy
          · exact fun began hbegan => hfloor.trans (hvalue v rfl began hbegan)
          · exact h.yields y hy }

theorem Inv.finishGetOrSet (h : Inv service s) (hfree : s.calls id = none) (hid : id < s.clock) (hfloor : floor ≤ s.started key)
    (hvalue : Fresh (s.started key) value) : Inv service (s.finishGetOrSet service id key floor value) := by
  unfold State.finishGetOrSet
  split_ifs
  · exact h.suspend hfree hid ⟨‹_›, hvalue, hfloor⟩ trivial
  · exact h.yieldValue hfloor hvalue

/-! ### The first level -/

variable [DecidableEq κ]

theorem Inv.updateEntries (h : Inv service s) {entry : Option (CacheEntry α)}
    (hentry : ∀ e ∈ entry, Fresh (s.started key) e.value) :
    Inv service { s with entries := Function.update s.entries key entry } :=
  { h with
    entries := by
      intro k e he
      dsimp only at he
      by_cases hk : k = key
      · subst hk
        rw [Function.update_self] at he
        exact hentry e he
      · rw [Function.update_of_ne hk] at he
        exact h.entries k e he }

/-- Asking the first level changes at most its entries. -/
theorem State.l1Get_spec (h : Inv service s) (key : κ) : ∃ entries, (s.l1Get key).2 = { s with entries := entries } ∧
    Inv service { s with entries := entries } ∧ Fresh (s.started key) (s.l1Get key).1 := by
  unfold State.l1Get
  cases hentry : s.entries key with
  | none => exact ⟨s.entries, rfl, h, fresh_none _⟩
  | some entry =>
    dsimp only
    split_ifs
    · exact ⟨_, rfl, h.updateEntries (by intro e he; cases he), fresh_none _⟩
    · exact ⟨s.entries, rfl, h, h.entries key entry hentry⟩

theorem State.l1Set_spec (h : Inv service s) (hvalue : Fresh (s.started key) value) (ttl jitter : ℚ) :
    ∃ entries, s.l1Set key value ttl jitter = { s with entries := entries } ∧ Inv service { s with entries := entries } := by
  unfold State.l1Set
  split_ifs
  · exact ⟨_, rfl, h.updateEntries (by intro e he; cases he)⟩
  · refine ⟨_, rfl, h.updateEntries ?_⟩
    intro e he
    cases he
    exact hvalue

/-! ### `get_or_set` -/

theorem Inv.updateInflight (h : Inv service s) {key : κ} {task : Option ℕ} (htask : ∀ t ∈ task, s.started key ≤ t) :
    Inv service { s with inflight := Function.update s.inflight key task } :=
  { h with
    inflight := by
      intro k t ht
      dsimp only at ht
      by_cases hk : k = key
      · subst hk
        rw [Function.update_self] at ht
        exact htask t ht
      · rw [Function.update_of_ne hk] at ht
        exact h.inflight k t ht }

theorem Inv.awaitFactory (h : Inv service s) (hfree : s.calls id = none) (hid : id < s.clock) (htask : s.started key ≤ task)
    (hfloor : floor ≤ s.started key) : Inv service (s.awaitFactory service id key task floor ttl jitter) := by
  unfold State.awaitFactory
  split
  · rename_i result hresult
    have hpop : ∃ inflight, (if s.inflight key = some task then
        { s with inflight := Function.update s.inflight key none } else s) = { s with inflight := inflight } ∧
        Inv service { s with inflight := inflight } := by
      split_ifs
      · exact ⟨_, rfl, h.updateInflight (by intro t ht; cases ht)⟩
      · exact ⟨s.inflight, rfl, h⟩
    obtain ⟨inflight, heq, hpopped⟩ := hpop
    dsimp only
    rw [heq]
    cases result with
    | raised => exact hpopped
    | returned value =>
      have hvalue : Fresh (s.started key) (value.map fun v => ({ value := v, began := some task } : Stamped α)) := by
        intro v hv began hbegan
        obtain ⟨v, -, rfl⟩ := Option.map_eq_some_iff.mp hv
        cases hbegan
        exact htask
      obtain ⟨entries, hset, hstored⟩ := State.l1Set_spec hpopped hvalue ttl jitter
      dsimp only
      rw [hset]
      exact hstored.finishGetOrSet hfree hid hfloor hvalue
  · exact h.suspend hfree hid ⟨htask, hfloor⟩ trivial

theorem Inv.l1GetOrSet (h : Inv service s) (hfree : s.calls id = none) (hid : id < s.clock)
    (hposition : s.started key ≤ position) (hfloor : floor ≤ s.started key) :
    Inv service (s.l1GetOrSet service id position key floor ttl jitter) := by
  obtain ⟨entries, hget, hstored, hfresh⟩ := State.l1Get_spec h key
  unfold State.l1GetOrSet
  cases hcached : s.l1Get key with
  | mk cached s' =>
    rw [hcached] at hget hfresh
    dsimp only at hget hfresh
    subst hget
    cases cached with
    | some cached => exact hstored.finishGetOrSet hfree hid hfloor hfresh
    | none =>
      dsimp only
      cases htask : s.inflight key with
      | some task => exact hstored.awaitFactory hfree hid (h.inflight key task htask) hfloor
      | none =>
        have hcreated : Inv service { s with
            entries := entries
            inflight := Function.update s.inflight key (some position) } :=
          hstored.updateInflight (by
            intro t ht
            cases ht
            exact hposition)
        have hnew : Inv service
            { s with
              entries := entries
              factories := Function.update s.factories position (some none)
              inflight := Function.update s.inflight key (some position) } := { hcreated with }
        exact hnew.awaitFactory hfree hid hposition hfloor

/-! ### Starts -/

/-- A read does not start while its key is still to be deleted from the second level, unless the first level has it. -/
def ReadApart (s : State κ α) (key : κ) : Prop := (s.l1Get key).1 ≠ none ∨ ¬ s.Deleting key

theorem Inv.startRead (h : Inv service s) (hfree : s.calls position = none) (hposition : position < s.clock)
    (hstarted : s.started key ≤ position) (hapart : ReadApart s key) {ttl : Option ℚ} :
    Inv service (s.startRead service position key ttl jitter) := by
  have hfloor := h.returned_le key
  obtain ⟨entries, hget, hstored, hfresh⟩ := State.l1Get_spec h key
  unfold State.startRead
  unfold ReadApart at hapart
  cases hcached : s.l1Get key with
  | mk cached s' =>
    rw [hcached] at hget hfresh hapart
    dsimp only at hget hfresh
    subst hget
    cases cached with
    | some cached => exact hstored.yieldValue hfloor hfresh
    | none =>
      have hnot : ¬ s.Deleting key := by
        rcases hapart with hsome | hnot
        · exact absurd rfl hsome
        · exact hnot
      dsimp only
      split_ifs
      · exact hstored.suspend hfree hposition ⟨hstarted, hfloor, fresh_none _⟩ hnot
      · cases ttl with
        | none => exact hstored
        | some ttl => exact hstored.l1GetOrSet hfree hposition hstarted hfloor

theorem Inv.startSet (h : Inv service s) (hfree : s.calls position = none) (hposition : position < s.clock) (v : Option α) :
    Inv service (s.start service position jitter (.set key v ttl)) := by
  have hvalue : ∀ bound, Fresh bound (v.map fun v => ({ value := v } : Stamped α)) := by
    intro bound stamped hstamped began hbegan
    obtain ⟨v, -, rfl⟩ := Option.map_eq_some_iff.mp hstamped
    cases hbegan
  obtain ⟨entries, hset, hstored⟩ := State.l1Set_spec h (hvalue (s.started key)) ttl jitter
  unfold State.start
  dsimp only
  rw [hset]
  split_ifs
  · exact hstored.suspend hfree hposition ⟨‹_›, hvalue⟩ trivial
  · exact hstored

/-- No read of a key is under way. -/
def NotRead (s : State κ α) (key : κ) : Prop :=
  s.inflight key = none ∧ ∀ id call, s.calls id = some call → ¬ call.Reads key

omit [DecidableEq κ] in
/-- What a call waits for outlives an invalidation of another key, or of its own unless it reads it. -/
theorem CallOk.of_started {started started' : κ → ℕ} {call : Call κ α} (h : CallOk service started call)
    (hle : ∀ k, started k ≤ started' k) (heq : ∀ k, call.Reads k → started' k = started k) :
    CallOk service started' call := by
  cases call with
  | l2Get k began floor _ _ answer =>
    have hk := heq k rfl
    show started' k ≤ began ∧ floor ≤ started' k ∧ Fresh (started' k) answer
    rw [hk]
    exact h
  | l2Set k v floor served =>
    cases floor with
    | none => exact h
    | some floor =>
      have hk := heq k ⟨rfl, rfl⟩
      show service.hasL2 = true ∧ Fresh (started' k) v ∧ floor ≤ started' k
      rw [hk]
      exact h
  | l2Delete k began => exact h.trans (hle k)
  | factory k task floor =>
    have hk := heq k rfl
    show started' k ≤ task ∧ floor ≤ started' k
    rw [hk]
    exact h

/-- **An invalidation** of a key that is not read leaves nothing of the key in the first level. The second level may
still hold it, until a deletion is served. -/
theorem Inv.invalidated (h : Inv service s) (hposition : position < s.clock) (hstarted : ∀ k, s.started k ≤ position)
    (hquiet : NotRead s key) {returned : κ → ℕ} {calls : ℕ → Option (Call κ α)}
    (hreturned : ∀ k, returned k ≤ Function.update s.started key position k)
    (hnew : ∀ id call, calls id = some call → s.calls id = some call ∨ call = .l2Delete key position false)
    (hold : ∀ id call, s.calls id = some call → calls id = some call)
    (hl2 : Fresh position (s.l2 key) ∨ ∃ id began, calls id = some (.l2Delete key began false))
    (hlt : ∀ id, s.clock ≤ id → calls id = none) :
    Inv service
      { s with
        entries := Function.update s.entries key none
        started := Function.update s.started key position
        returned := returned
        calls := calls } := by
  obtain ⟨hinflight, hcalls⟩ := hquiet
  have hle : ∀ k, s.started k ≤ Function.update s.started key position k := by
    intro k
    by_cases hk : k = key
    · subst hk
      rw [Function.update_self]
      exact hstarted k
    · rw [Function.update_of_ne hk]
  refine
    { entries := fun k e he => ?_
      inflight := fun k t ht => ?_
      calls := fun id call hcall => ?_
      memory := h.memory
      l2 := fun k => ?_
      apart := ?_
      returned_le := hreturned
      started_lt := fun k => ?_
      calls_lt := hlt
      yields := h.yields }
  · dsimp only at he ⊢
    by_cases hk : k = key
    · subst hk
      rw [Function.update_self] at he
      cases he
    · rw [Function.update_of_ne hk] at he ⊢
      exact h.entries k e he
  · dsimp only at ht ⊢
    have hk : k ≠ key := by
      rintro rfl
      rw [hinflight] at ht
      cases ht
    rw [Function.update_of_ne hk]
    exact h.inflight k t ht
  · dsimp only at hcall ⊢
    rcases hnew id call hcall with hbefore | rfl
    · refine (h.calls id call hbefore).of_started hle fun k hk => ?_
      have hne : k ≠ key := by
        rintro rfl
        exact hcalls id call hbefore hk
      exact Function.update_of_ne hne _ _
    · show position ≤ Function.update s.started key position key
      rw [Function.update_self]
  · by_cases hk : k = key
    · subst hk
      dsimp only
      rw [Function.update_self]
      exact hl2
    · dsimp only
      rw [Function.update_of_ne hk]
      refine (h.l2 k).imp_right ?_
      rintro ⟨id, began, hdelete⟩
      exact ⟨id, began, hold id _ hdelete⟩
  · rintro k ⟨id₁, began₁, floor₁, ttl₁, answer₁, hread⟩ ⟨id₂, began₂, hdelete⟩
    dsimp only at hread hdelete
    have hbefore : s.calls id₁ = some (.l2Get k began₁ floor₁ ttl₁ false answer₁) := by
      rcases hnew _ _ hread with hbefore | hread
      · exact hbefore
      · cases hread
    rcases hnew _ _ hdelete with hdelete | hdelete
    · exact h.apart k ⟨id₁, began₁, floor₁, ttl₁, answer₁, hbefore⟩ ⟨id₂, began₂, hdelete⟩
    · cases hdelete
      exact hcalls id₁ _ hbefore rfl
  · dsimp only
    by_cases hk : k = key
    · subst hk
      rw [Function.update_self]
      exact hposition
    · rw [Function.update_of_ne hk]
      exact h.started_lt k

theorem Inv.startInvalidate (h : Inv service s) (hfree : s.calls position = none) (hposition : position < s.clock)
    (hstarted : ∀ k, s.started k ≤ position) (hquiet : NotRead s key) :
    Inv service (s.start service position jitter (.invalidate key)) := by
  have hreturned : ∀ k, s.returned k ≤ Function.update s.started key position k := by
    intro k
    by_cases hk : k = key
    · subst hk
      rw [Function.update_self]
      exact (h.returned_le k).trans (hstarted k)
    · rw [Function.update_of_ne hk]
      exact h.returned_le k
  unfold State.start State.l1Invalidate
  dsimp only
  split_ifs with hL2
  · unfold State.suspend
    refine h.invalidated hposition hstarted hquiet hreturned (fun id call hcall => ?_) (fun id call hcall => ?_) ?_
      fun id hid => ?_
    · by_cases hsame : id = position
      · subst hsame
        rw [Function.update_self] at hcall
        exact .inr (Option.some.inj hcall).symm
      · rw [Function.update_of_ne hsame] at hcall
        exact .inl hcall
    · have hne : id ≠ position := by
        rintro rfl
        rw [hfree] at hcall
        cases hcall
      rw [Function.update_of_ne hne]
      exact hcall
    · exact .inr ⟨position, position, Function.update_self ..⟩
    · rw [Function.update_of_ne (hposition.trans_le hid).ne']
      exact h.calls_lt id hid
  · unfold State.returns
    refine h.invalidated hposition hstarted hquiet (fun k => ?_) (fun id call hcall => .inl hcall)
      (fun id call hcall => hcall) (.inl ?_) h.calls_lt
    · by_cases hk : k = key
      · subst hk
        rw [Function.update_self, Function.update_self]
        exact max_le ((h.returned_le k).trans (hstarted k)) le_rfl
      · rw [Function.update_of_ne hk]
        exact hreturned k
    · rw [h.memory (Bool.eq_false_iff.mpr hL2)]
      exact fresh_none _

/-! ### The second level -/

theorem Inv.updateL2 (h : Inv service s) (hvalue : Fresh (s.started key) value)
    (hmemory : service.hasL2 = false → value = none) :
    Inv service { s with l2 := Function.update s.l2 key value } :=
  { h with
    memory := by
      intro hL2 k
      dsimp only
      by_cases hk : k = key
      · subst hk
        rw [Function.update_self]
        exact hmemory hL2
      · rw [Function.update_of_ne hk]
        exact h.memory hL2 k
    l2 := by
      intro k
      dsimp only
      by_cases hk : k = key
      · subst hk
        rw [Function.update_self]
        exact .inl hvalue
      · rw [Function.update_of_ne hk]
        exact h.l2 k }

omit [DecidableEq κ] in
theorem State.calls_leave : (s.leave id).calls id = none := Function.update_self ..

omit [DecidableEq κ] in
theorem State.suspend_leave (call : Call κ α) : (s.leave id).suspend id call = s.suspend id call := by
  unfold State.leave State.suspend
  dsimp only
  rw [Function.update_idem]

omit [DecidableEq κ] in
theorem Inv.lt_clock (h : Inv service s) {call : Call κ α} (hcall : s.calls id = some call) : id < s.clock := by
  by_contra hle
  rw [h.calls_lt id (not_lt.mp hle)] at hcall
  cases hcall

omit [DecidableEq κ] in
/-- A call that waits for no deletion may leave. -/
theorem Inv.leave_of_call (h : Inv service s) {call : Call κ α} (hcall : s.calls id = some call)
    (hnot : ∀ k began, call ≠ .l2Delete k began false) : Inv service (s.leave id) := by
  refine h.leave fun k began hdelete => ?_
  rw [hcall] at hdelete
  exact absurd (Option.some.inj hdelete) (hnot k began)

/-- A deletion is not lost. -/
def DeletionServed (s : State κ α) (id : ℕ) (ok : Bool) : Prop :=
  ok = true ∨ ∀ key began, s.calls id = some (.l2Delete key began false) → s.l2 key = none

theorem Inv.serve (h : Inv service s) {ok : Bool} (hserved : DeletionServed s id ok) : Inv service (s.serve id ok) := by
  unfold State.serve
  split
  · rename_i key began floor ttl answer hcall
    obtain ⟨hbegan, hfloor, -⟩ := h.calls id _ hcall
    have hl2 : Fresh (s.started key) (s.l2 key) :=
      (h.l2 key).resolve_right (h.apart key ⟨id, began, floor, ttl, answer, hcall⟩)
    have hanswer : Fresh (s.started key) (if ok = true then (s.l2 key).map (readStamp began) else none) := by
      split_ifs
      · exact hl2.readStamp hbegan
      · exact fresh_none _
    have hleft : Inv service (s.leave id) := h.leave_of_call hcall (by intro k b hk; cases hk)
    rw [← State.suspend_leave]
    exact hleft.suspend State.calls_leave (h.lt_clock hcall) ⟨hbegan, hfloor, hanswer⟩ trivial
  · rename_i key value floor hcall
    have hok := h.calls id _ hcall
    have hL2 : service.hasL2 = true := by
      cases floor with
      | none => exact hok.1
      | some floor => exact hok.1
    have hvalue : Fresh (s.started key) value := by
      cases floor with
      | none => exact hok.2 _
      | some floor => exact hok.2.1
    have hstored : Inv service { s with l2 := if ok = true then Function.update s.l2 key value else s.l2 } := by
      split_ifs
      · exact h.updateL2 hvalue fun hnone => absurd (hL2.symm.trans hnone) (by decide)
      · exact h
    have hleft := hstored.leave_of_call hcall (by intro k b hk; cases hk)
    rw [← State.suspend_leave]
    refine hleft.suspend State.calls_leave (h.lt_clock hcall) ?_ trivial
    cases floor with
    | none => exact hok
    | some floor => exact hok
  · rename_i key began hcall
    have hgone : ∃ l2, (if ok = true then Function.update s.l2 key none else s.l2) = l2 ∧
        Inv service { s with l2 := l2 } ∧ l2 key = none := by
      rcases hserved with rfl | hnone
      · exact ⟨_, rfl, h.updateL2 (fresh_none _) fun _ => rfl, Function.update_self ..⟩
      · refine ⟨_, rfl, ?_, ?_⟩
        · split_ifs
          · exact h.updateL2 (fresh_none _) fun _ => rfl
          · exact h
        · split_ifs
          · exact Function.update_self ..
          · exact hnone key began hcall
    obtain ⟨l2, heq, hstored, hnone⟩ := hgone
    have hleft : Inv service ({ s with l2 := l2 }.leave id) := by
      refine hstored.leave fun k b hdelete => ?_
      have hcall' : s.calls id = some (.l2Delete k b false) := hdelete
      rw [hcall] at hcall'
      cases hcall'
      dsimp only
      rw [hnone]
      exact fresh_none _
    have hbegan : began ≤ s.started key := h.calls id _ hcall
    rw [heq, ← State.suspend_leave]
    exact hleft.suspend State.calls_leave (h.lt_clock hcall) hbegan trivial
  · exact h

theorem Inv.returns (h : Inv service s) {began : ℕ} (hbegan : began ≤ s.started key) :
    Inv service (s.returns key began) :=
  { h with
    returned_le := by
      intro k
      show Function.update s.returned key (max (s.returned key) began) k ≤ s.started k
      by_cases hk : k = key
      · subst hk
        rw [Function.update_self]
        exact max_le (h.returned_le k) hbegan
      · rw [Function.update_of_ne hk]
        exact h.returned_le k }

theorem Inv.resume (h : Inv service s) (hstarted : ∀ k, s.started k ≤ position) {warmTtl : ℚ} :
    Inv service (s.resume service warmTtl id position jitter) := by
  unfold State.resume
  split
  · rename_i key began floor ttl answer hcall
    obtain ⟨-, hfloor, hanswer⟩ := h.calls id _ hcall
    have hleft := h.leave_of_call hcall (by intro k b hk; cases hk)
    have hid := h.lt_clock hcall
    dsimp only
    cases answer with
    | some cached =>
      obtain ⟨entries, hset, hstored⟩ := State.l1Set_spec hleft hanswer warmTtl jitter
      dsimp only
      rw [hset]
      exact hstored.yieldValue hfloor hanswer
    | none =>
      cases ttl with
      | none => exact hleft
      | some ttl => exact hleft.l1GetOrSet State.calls_leave hid (hstarted key) hfloor
  · rename_i key value floor hcall
    have hleft := h.leave_of_call hcall (by intro k b hk; cases hk)
    cases floor with
    | none => exact hleft
    | some floor =>
      obtain ⟨-, hvalue, hfloor⟩ := h.calls id _ hcall
      exact hleft.yieldValue hfloor hvalue
  · rename_i key began hcall
    have hleft := h.leave_of_call hcall (by intro k b hk; cases hk)
    exact hleft.returns (h.calls id _ hcall)
  · rename_i key task floor ttl hcall
    obtain ⟨htask, hfloor⟩ := h.calls id _ hcall
    have hleft := h.leave_of_call hcall (by intro k b hk; cases hk)
    exact hleft.awaitFactory State.calls_leave (h.lt_clock hcall) htask hfloor
  · exact h

/-! ### Runs -/

/-- **A step is undisturbed** if no invalidation starts while its key is read, no read starts while its key is still to
be deleted from the second level, and no deletion is lost. -/
def Undisturbed (s : State κ α) (input : Input κ α) : Prop :=
  match input.event with
  | .start (.invalidate key) => NotRead s key
  | .start (.get key) => ReadApart s key
  | .start (.getOrSet key _) => ReadApart s key
  | .serve id ok => DeletionServed s id ok
  | _ => True

omit [DecidableEq κ] in
theorem inv_initial : Inv service ({} : State κ α) where
  entries := by
    intro k e he
    cases he
  inflight := by
    intro k t ht
    cases ht
  calls := by
    intro id call hcall
    cases hcall
  memory := fun _ _ => rfl
  l2 := fun _ => .inl (fresh_none _)
  apart := by
    rintro k ⟨id, began, floor, ttl, answer, hread⟩
    cases hread
  returned_le := fun _ => le_rfl
  started_lt := fun _ => Nat.zero_lt_one
  calls_lt := fun _ _ => rfl
  yields := by
    intro y hy
    cases hy

/-- **An undisturbed step** keeps the invariant. -/
theorem inv_step {warmTtl : ℚ} (s : State κ α) (input : Input κ α) (h : Inv service s) (hstep : Undisturbed s input) :
    Inv service (step service warmTtl s input) := by
  have hnext : Inv service { s with clock := s.clock + 1 } :=
    { h with
      started_lt := fun k => (h.started_lt k).trans (Nat.lt_succ_self _)
      calls_lt := fun id hid => h.calls_lt id ((Nat.le_succ _).trans hid) }
  have hfree : s.calls s.clock = none := h.calls_lt _ le_rfl
  have hstarted : ∀ k, s.started k ≤ s.clock := fun k => (h.started_lt k).le
  have hclock : s.clock < s.clock + 1 := Nat.lt_succ_self _
  have hread : ∀ key, ReadApart s key → ReadApart { s with clock := s.clock + 1 } key := by
    intro key
    refine Or.imp_left fun hcached => ?_
    have heq : ({ s with clock := s.clock + 1 }.l1Get key).1 = (s.l1Get key).1 := by
      unfold State.l1Get
      dsimp only
      cases s.entries key with
      | none => rfl
      | some entry =>
        dsimp only
        split_ifs
        · rfl
        · rfl
    rw [heq]
    exact hcached
  obtain ⟨event, jitter⟩ := input
  unfold step State.act
  cases event with
  | start operation =>
    cases operation with
    | get key =>
      exact @Inv.startRead κ α _ key s.clock jitter service _ hnext hfree hclock (hstarted key) (hread key hstep) none
    | set key value ttl => exact hnext.startSet hfree hclock value
    | invalidate key => exact hnext.startInvalidate hfree hclock hstarted hstep
    | getOrSet key ttl => exact hnext.startRead hfree hclock (hstarted key) (hread key hstep)
  | serve id ok => exact hnext.serve hstep
  | factoryDone task result =>
    dsimp only
    split
    · exact { hnext with }
    · exact hnext
  | resume id => exact hnext.resume hstarted
  | advance seconds => exact { hnext with }
  | l2Drop key => exact hnext.updateL2 (fresh_none _) fun _ => rfl

/-- **No stale read.** Along undisturbed steps, every interleaving of calls yields values that come from after every
invalidation of the key that had returned when the call started. -/
theorem fresh_of_undisturbed (service : Service) (warmTtl : ℚ) (inputs : List (Input κ α))
    (h : StepRun.AllSteps (step service warmTtl) Undisturbed {} inputs) :
    ∀ y ∈ (StepRun.run (step service warmTtl) {} inputs).yields, y.Fresh :=
  (h.preserves inv_step inv_initial).yields

end

/-! ### Examples -/

namespace Demo

/-- A value is computed, its key is invalidated, and another value is computed. -/
def quietRun : List (Input String ℕ) :=
  [{ event := .start (.getOrSet "site" 60) }, { event := .factoryDone 1 (.returned (some 7)) },
    { event := .resume 1 }, { event := .start (.invalidate "site") }, { event := .start (.getOrSet "site" 60) },
    { event := .factoryDone 5 (.returned (some 8)) }, { event := .resume 5 }, { event := .start (.get "site") }]

/-- A key is invalidated while its value is computed. -/
def factoryRun : List (Input String ℕ) :=
  [{ event := .start (.getOrSet "site" 60) }, { event := .start (.invalidate "site") },
    { event := .factoryDone 1 (.returned (some 7)) }, { event := .resume 1 }, { event := .start (.get "site") }]

/-- A key is invalidated while it is read from the second level. -/
def readRun : List (Input String ℕ) :=
  [{ event := .start (.set "site" (some 7) 0) }, { event := .serve 1 true }, { event := .resume 1 },
    { event := .start (.get "site") }, { event := .serve 4 true }, { event := .start (.invalidate "site") },
    { event := .serve 6 true }, { event := .resume 6 }, { event := .resume 4 }, { event := .start (.get "site") }]

end Demo

theorem fresh_quietRun : (StepRun.run (step .inMemory 60) {} Demo.quietRun).yields.length = 3 ∧
      ∀ y ∈ (StepRun.run (step .inMemory 60) {} Demo.quietRun).yields, y.Fresh := by
  have hcalls : ∀ id, (StepRun.run (step .inMemory 60) {} (Demo.quietRun.take 3)).calls id = none := by
    intro id
    by_cases hid : id = 1
    · subst hid
      decide +kernel
    · exact (Function.update_of_ne hid _ _).trans (Function.update_of_ne hid _ _)
  have hcalls' : ∀ id, (StepRun.run (step .inMemory 60) {} (Demo.quietRun.take 7)).calls id = none := by
    intro id
    by_cases hid : id = 5
    · subst hid
      decide +kernel
    · exact (Function.update_of_ne hid _ _).trans ((Function.update_of_ne hid _ _).trans (hcalls id))
  refine ⟨by decide +kernel, fresh_of_undisturbed .inMemory 60 Demo.quietRun
    ⟨?_, trivial, trivial, ?_, ?_, trivial, trivial, ?_, trivial⟩⟩
  · exact .inr (by rintro ⟨id, began, h⟩; cases h)
  · refine ⟨by decide +kernel, fun id call hcall => ?_⟩
    cases (hcalls id).symm.trans hcall
  · exact .inr (by rintro ⟨id, began, h⟩; cases (hcalls id).symm.trans h)
  · exact .inr (by rintro ⟨id, began, h⟩; cases (hcalls' id).symm.trans h)

/-- A value that was computed, or read from the second level, before an invalidation is yielded after it. -/
theorem stale_value_yielded : (¬ ∀ y ∈ (StepRun.run (step .inMemory 60) {} Demo.factoryRun).yields, y.Fresh) ∧
      ¬ ∀ y ∈ (StepRun.run (step (.tiered true) 60) {} Demo.readRun).yields, y.Fresh := by
  have hfactory : (StepRun.run (step .inMemory 60) {} Demo.factoryRun).yields =
      [{ key := "site", floor := 2, value := { value := 7, began := some 1 } },
        { key := "site", floor := 0, value := { value := 7, began := some 1 } }] := by
    decide +kernel
  have hread : (StepRun.run (step (.tiered true) 60) {} Demo.readRun).yields =
      [{ key := "site", floor := 6, value := { value := 7, began := some 4 } },
        { key := "site", floor := 0, value := { value := 7, began := some 4 } }] := by
    decide +kernel
  rw [hfactory, hread]
  constructor
  · intro h
    exact absurd (h _ List.mem_cons_self 1 rfl) (by decide)
  · intro h
    exact absurd (h _ List.mem_cons_self 4 rfl) (by decide)

end EnergyCore.Cache
