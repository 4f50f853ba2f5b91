import EnergyCore.Isolation.RuntimeSupervisor

/-!
# Stopping a runtime

What a call of `stop_runtime` leaves, wherever it breaks off.

* `run_stopRuntime_of_turnedAway`, `run_stopRuntime_of_marked` — how far a call gets;
* `untouched_marked_iff`, `untouched_released_iff` — when what it has done so far has changed nothing;
* `stopsAtomically_iff` — when it either stops the runtime or changes nothing.
-/

namespace EnergyCore.Isolation

open FallibleSteps

/-! ### The property -/

/-- The runtime is stopped: its process is terminated, no store holds anything of it, and its state says so. -/
structure Stopped (s s' : RuntimeHost) (id : String) : Prop where
  untracked : s'.processes id = none
  terminated : ∃ events, s'.trace = s.trace ++ events ∧
    ∀ process, s.processes id = some process → HostEvent.terminated process ∈ events
  unregistered : s'.gateway.active id = none
  sessions : ∀ token session, s'.gateway.sessions.sessions token = some session →
    session.runtimeInstanceId = id → session.revoked = true
  devices : ∀ key : LeaseKey, key.runtimeInstanceId = id → s'.gateway.device.leases key = none
  leases : ∀ lease ∈ s'.leases, lease.runtimeInstanceId = id → lease.active = false
  state : ∃ row, s'.rows id = some row ∧ row.state = .stopped

/-- No store has changed. -/
structure Untouched (s s' : RuntimeHost) : Prop where
  rows : s'.rows = s.rows
  ids : s'.ids = s.ids
  leases : s'.leases = s.leases
  gateway : s'.gateway = s.gateway
  listenAddress : s'.listenAddress = s.listenAddress
  processes : s'.processes = s.processes
  missCounts : s'.missCounts = s.missCounts
  spawned : s'.spawned = s.spawned

/-- A call of `stop_runtime` stops the runtime, or raises and has changed nothing. -/
def StopsAtomically (answers : CallAnswers) (s : RuntimeHost) (id reason : String) : Prop :=
  Ends (stopRuntime answers id reason) s (fun _ s' => Stopped s s' id) fun _ s' => Stopped s s' id ∨ Untouched s s'

/-! ### The condition -/

/-- The gateway holds nothing of a runtime. -/
structure NothingHeld (g : Gateway) (id : String) : Prop where
  active : g.active id = none
  sessions : ∀ token session, g.sessions.sessions token = some session → session.runtimeInstanceId = id →
    session.revoked = true
  leases : ∀ key : LeaseKey, key.runtimeInstanceId = id → g.device.leases key = none
  devices : ∀ key device, g.device.devices key = some device → device.ownerRuntimeId ≠ some id

def NoActiveLease (leases : List ControlLeaseRow) (id : String) : Prop :=
  ∀ lease ∈ leases, lease.runtimeInstanceId = id → lease.active = false

section

variable (answers : CallAnswers) (s : RuntimeHost) (id reason : String) (row : RuntimeRow)

/-- The call is turned away before it writes: the row cannot be read or written, or the runtime is in a state from
which it may not be stopped. -/
def TurnedAway : Prop :=
  answers.failure (.readForStop id) ≠ .no ∨
    (∃ message, answers.failure (.transition id .stopping) = .before message) ∨
    row.state.canTransition .stopping = false

/-- When a call either stops the runtime or changes nothing: it is turned away and there is no process whose handle
could be lost, or no step fails on its way to STOPPED, or the runtime is STOPPING already and holds nothing that the
steps before the one that fails could take. -/
inductive StopCondition : Prop where
  | turnedAway (h : TurnedAway answers id row) (huntracked : s.processes id = none)
  | through (h : ¬ TurnedAway answers id row) (hstopping : answers.failure (.transition id .stopping) = .no)
      (hterminate : s.processes id = none ∨ answers.failure (.terminate id) = .no)
      (hleases : answers.failure (.revokeLeases id) = .no)
      (hstopped : ∀ message, answers.failure (.transition id .stopped) ≠ .before message)
  | nothingLeft (h : ¬ TurnedAway answers id row) (hstate : row.state = .stopping)
      (huntracked : s.processes id = none)
      (hheld : answers.failure (.transition id .stopping) ≠ .no ∨
        NothingHeld s.gateway id ∧ ((∃ message, answers.failure (.revokeLeases id) = .before message) ∨
          NoActiveLease s.leases id))

theorem not_turnedAway {answers : CallAnswers} {id : String} {row : RuntimeRow} :
    ¬ TurnedAway answers id row ↔ answers.failure (.readForStop id) = .no ∧
      (∀ message, answers.failure (.transition id .stopping) ≠ .before message) ∧
        row.state.canTransition .stopping = true := by
  unfold TurnedAway
  rw [not_or, not_or, not_not, not_exists, Bool.not_eq_false]

/-! ### How far a call gets -/

/-- The runtime is STOPPING, and the handle of its process is dropped. -/
def marked : RuntimeHost :=
  ((s.dropProcess id).setRow id { row with state := .stopping }).log (.moved id .stopping)

/-- The process is terminated. -/
def ended : Option ℕ → RuntimeHost
  | none => marked s id row
  | some process => (marked s id row).log (.terminated process)

/-- The gateway holds nothing of the runtime any more. -/
def released : RuntimeHost := ((ended s id row (s.processes id)).unregister id).revokeDevices id

/-- The runtime is STOPPED. -/
def finished : RuntimeHost :=
  (((released s id row).deactivateLeases id).setRow id
    { row with state := .stopped, lastError := some reason }).log (.moved id .stopped)

end

section Run

variable {answers : CallAnswers} {s : RuntimeHost} {id reason : String} {row : RuntimeRow}

theorem run_stopRuntime (hrow : s.rows id = some row) (hread : answers.failure (.readForStop id) = .no) :
    stopRuntime answers id reason s = stopStored answers id (s.processes id) reason (s.dropProcess id) := by
  have hrow' : (s.dropProcess id).rows id = some row := hrow
  show (getByInstanceId answers (.readForStop id) id >>= _) (s.dropProcess id) = _
  refine (run_bind_of_ok (run_getByInstanceId hread)).trans ?_
  rw [hrow']

variable (reason) in
/-- The call raises with only the handle dropped. -/
theorem run_stopRuntime_of_turnedAway (hrow : s.rows id = some row) (h : TurnedAway answers id row) :
    ∃ message, stopRuntime answers id reason s = .error message (s.dropProcess id) := by
  by_cases hread : answers.failure (.readForStop id) = .no
  · have hmarking : ∃ message, transition answers id .stopping (fun row => row) (s.dropProcess id) =
        .error message (s.dropProcess id) := by
      rcases h with h | ⟨message, h⟩ | h
      · exact absurd hread h
      · exact ⟨message, attempt_of_before h⟩
      · exact run_transition_of_illegal hrow h
    obtain ⟨message, hmarking⟩ := hmarking
    exact ⟨message, (run_stopRuntime hrow hread).trans (run_bind_of_error hmarking)⟩
  · obtain ⟨message, hraised⟩ := run_getByInstanceId_of_failure hread
    refine ⟨message, ?_⟩
    show (getByInstanceId answers (.readForStop id) id >>= _) (s.dropProcess id) = _
    exact run_bind_of_error hraised

section Marking

variable (hrow : s.rows id = some row) (h : ¬ TurnedAway answers id row)
include hrow h

variable (reason) in
/-- The call raises once the runtime is STOPPING. -/
theorem run_stopRuntime_of_marked (hstopping : answers.failure (.transition id .stopping) ≠ .no) :
    ∃ message, stopRuntime answers id reason s = .error message (marked s id row) := by
  obtain ⟨hread, hbefore, hlegal⟩ := not_turnedAway.mp h
  have hrow' : (s.dropProcess id).rows id = some row := hrow
  cases hfailure : answers.failure (.transition id .stopping) with
  | no => exact absurd hfailure hstopping
  | before message => exact absurd hfailure (hbefore message)
  | after message =>
    exact ⟨message, (run_stopRuntime hrow hread).trans (run_bind_of_error
      (run_transition_of_after hrow' hlegal hfailure))⟩

variable (hstopping : answers.failure (.transition id .stopping) = .no)
include hstopping

theorem run_stopRuntime_marked :
    stopRuntime answers id reason s = (terminateProcess answers id (s.processes id) >>= fun _ =>
      stopReleased answers id reason) (marked s id row) := by
  obtain ⟨hread, -, hlegal⟩ := not_turnedAway.mp h
  have hrow' : (s.dropProcess id).rows id = some row := hrow
  exact (run_stopRuntime hrow hread).trans (run_bind_of_ok (run_transition hrow' hlegal hstopping))

variable (reason) in
/-- The process could not be terminated, and its handle is dropped. -/
theorem run_stopRuntime_of_terminate {process : ℕ} (hprocess : s.processes id = some process)
    (hterminate : answers.failure (.terminate id) ≠ .no) :
    ∃ message s', stopRuntime answers id reason s = .error message s' ∧ s'.processes id = none ∧
      s'.rows id = some { row with state := .stopping } := by
  rw [run_stopRuntime_marked hrow h hstopping, hprocess]
  have hself : (marked s id row).processes id = none := Function.update_self _ _ _
  have hrow' : (marked s id row).rows id = some { row with state := .stopping } := Function.update_self _ _ _
  cases hfailure : answers.failure (.terminate id) with
  | no => exact absurd hfailure hterminate
  | before message => exact ⟨message, _, run_bind_of_error (attempt_of_before hfailure), hself, hrow'⟩
  | after message => exact ⟨message, _, run_bind_of_error (attempt_of_after hfailure rfl), hself, hrow'⟩

/-- The process is terminated, if there is one. -/
theorem run_stopRuntime_released (hterminate : s.processes id = none ∨ answers.failure (.terminate id) = .no) :
    stopRuntime answers id reason s = stopHeld answers id reason (released s id row) := by
  rw [run_stopRuntime_marked hrow h hstopping]
  have hended : terminateProcess answers id (s.processes id) (marked s id row) =
      .ok () (ended s id row (s.processes id)) := by
    cases hprocess : s.processes id with
    | none => rfl
    | some process =>
      rw [hprocess] at hterminate
      have hno : answers.failure (.terminate id) = .no := by simpa using hterminate
      show attempt _ _ _ = _
      rw [attempt_of_no hno]
      rfl
  exact run_bind_of_ok hended

end Marking

end Run

/-! ### What the gateway and the leases lose -/

/-- `unregister_runtime` and `revoke_runtime` of the device broker. -/
def Gateway.letGo (g : Gateway) (id : String) : Gateway :=
  { g.unregisterRuntime id with device := g.device.revokeRuntime id }

theorem sessions_revokeRuntime_eq_iff {store : RuntimeSessionStore} {id : String} :
    store.revokeRuntime id = store ↔ ∀ token session, store.sessions token = some session →
      session.runtimeInstanceId = id → session.revoked = true := by
  constructor
  · intro h token session hsession hid
    have htoken := congrFun (congrArg RuntimeSessionStore.sessions h) token
    unfold RuntimeSessionStore.revokeRuntime at htoken
    dsimp only at htoken
    rw [hsession, Option.map_some, if_pos hid, Option.some.injEq] at htoken
    rw [← htoken]
  · intro h
    have hsessions : (store.revokeRuntime id).sessions = store.sessions := by
      funext token
      unfold RuntimeSessionStore.revokeRuntime
      dsimp only
      cases hsession : store.sessions token with
      | none => rfl
      | some session =>
        rw [Option.map_some]
        by_cases hid : session.runtimeInstanceId = id
        · rw [if_pos hid, ← h token session hsession hid]
        · rw [if_neg hid]
    calc store.revokeRuntime id = { store with sessions := (store.revokeRuntime id).sessions } := rfl
      _ = store := by rw [hsessions]

theorem devices_releaseControl_eq_iff {broker : DeviceControlBroker} {id : String} :
    (broker.releaseControl id).devices = broker.devices ↔
      ∀ key device, broker.devices key = some device → device.ownerRuntimeId ≠ some id := by
  constructor
  · intro h key device hdevice howner
    have hkey := congrFun h key
    unfold DeviceControlBroker.releaseControl at hkey
    dsimp only at hkey
    rw [hdevice, Option.map_some, if_pos howner, Option.some.injEq] at hkey
    rw [← hkey] at howner
    cases howner
  · intro h
    funext key
    unfold DeviceControlBroker.releaseControl
    dsimp only
    cases hdevice : broker.devices key with
    | none => rfl
    | some device => rw [Option.map_some, if_neg (h key device hdevice)]

theorem device_revokeRuntime_eq_iff {broker : DeviceControlBroker} {id : String} :
    broker.revokeRuntime id = broker ↔ (∀ key : LeaseKey, key.runtimeInstanceId = id → broker.leases key = none) ∧
      ∀ key device, broker.devices key = some device → device.ownerRuntimeId ≠ some id := by
  rw [← devices_releaseControl_eq_iff]
  constructor
  · intro h
    have hdevices : (broker.revokeRuntime id).devices = broker.devices := congrArg DeviceControlBroker.devices h
    refine ⟨fun key hkey => ?_, hdevices⟩
    rw [← h]
    exact if_pos hkey
  · rintro ⟨hleases, hdevices⟩
    have hsame : (broker.revokeRuntime id).leases = broker.leases := by
      funext key
      show (if key.runtimeInstanceId = id then none else broker.leases key) = broker.leases key
      by_cases hkey : key.runtimeInstanceId = id
      · rw [if_pos hkey, hleases key hkey]
      · rw [if_neg hkey]
    calc broker.revokeRuntime id
        = ⟨(broker.revokeRuntime id).leases, (broker.releaseControl id).devices⟩ := rfl
      _ = broker := by rw [hsame, hdevices]

/-- A runtime of which the gateway holds nothing has nothing to lose. -/
theorem letGo_eq_iff {g : Gateway} {id : String} : g.letGo id = g ↔ NothingHeld g id := by
  constructor
  · intro h
    have hsessions := sessions_revokeRuntime_eq_iff.mp (congrArg Gateway.sessions h)
    have hdevice := device_revokeRuntime_eq_iff.mp (congrArg Gateway.device h)
    have hactive := congrFun (congrArg Gateway.active h) id
    refine ⟨?_, hsessions, hdevice.1, hdevice.2⟩
    rw [← hactive]
    exact Function.update_self _ _ _
  · intro h
    have hsessions := sessions_revokeRuntime_eq_iff.mpr h.sessions
    have hdevice := device_revokeRuntime_eq_iff.mpr ⟨h.leases, h.devices⟩
    have hactive : Function.update g.active id none = g.active := Function.update_eq_self_iff.mpr h.active.symm
    obtain ⟨sessions, device, active, rateWindow, inflight, keyed⟩ := g
    unfold Gateway.letGo Gateway.unregisterRuntime
    rw [Gateway.mk.injEq]
    exact ⟨hsessions, hdevice, hactive, rfl, rfl⟩

theorem deactivate_eq_iff {s : RuntimeHost} {id : String} :
    (s.deactivateLeases id).leases = s.leases ↔ NoActiveLease s.leases id := by
  constructor
  · intro h lease hmem hid
    rw [← h] at hmem
    obtain ⟨lease', -, rfl⟩ := List.mem_map.mp hmem
    by_cases hid' : lease'.runtimeInstanceId = id
    · rw [if_pos hid']
    · rw [if_neg hid'] at hid
      exact absurd hid hid'
  · intro h
    calc (s.deactivateLeases id).leases
        = s.leases.map fun lease => lease := by
          refine List.map_congr_left fun lease hmem => ?_
          by_cases hid : lease.runtimeInstanceId = id
          · rw [if_pos hid, ← h lease hmem hid]
          · rw [if_neg hid]
      _ = s.leases := List.map_id' _

/-! ### When nothing has changed -/

section Unchanged

variable {s : RuntimeHost} {id : String} {row : RuntimeRow}

theorem untouched_dropProcess_iff : Untouched s (s.dropProcess id) ↔ s.processes id = none := by
  constructor
  · intro h
    rw [← h.processes]
    exact Function.update_self _ _ _
  · intro h
    exact ⟨rfl, rfl, rfl, rfl, rfl, Function.update_eq_self_iff.mpr h.symm, rfl, rfl⟩

theorem rows_marked_eq_iff (hrow : s.rows id = some row) :
    (marked s id row).rows = s.rows ↔ row.state = .stopping := by
  show Function.update s.rows id _ = s.rows ↔ _
  rw [Function.update_eq_self_iff, hrow, Option.some.injEq]
  constructor
  · intro h
    rw [← h]
  · intro h
    rw [← h]

theorem untouched_marked_iff (hrow : s.rows id = some row) :
    Untouched s (marked s id row) ↔ row.state = .stopping ∧ s.processes id = none := by
  constructor
  · intro h
    refine ⟨(rows_marked_eq_iff hrow).mp h.rows, ?_⟩
    rw [← h.processes]
    exact Function.update_self _ _ _
  · rintro ⟨hstate, huntracked⟩
    exact ⟨(rows_marked_eq_iff hrow).mpr hstate, rfl, rfl, rfl, rfl, Function.update_eq_self_iff.mpr huntracked.symm,
      rfl, rfl⟩

variable (s id row) in
/-- Up to the trace, and what the gateway holds, the released runtime is the marked one. -/
theorem released_eq : ∃ events, (released s id row).trace = s.trace ++ .moved id .stopping :: events ∧
    (∀ process, s.processes id = some process → HostEvent.terminated process ∈ events) ∧
    released s id row =
      { marked s id row with gateway := s.gateway.letGo id, trace := (released s id row).trace } := by
  unfold released
  cases s.processes id with
  | none =>
    refine ⟨[], rfl, ?_, rfl⟩
    intro process h
    cases h
  | some process =>
    refine ⟨[.terminated process], ?_, ?_, rfl⟩
    · show s.trace ++ [_] ++ [_] = _
      rw [List.append_assoc]
      rfl
    · intro process' h
      cases h
      exact List.mem_singleton_self _

theorem untouched_released_iff (hrow : s.rows id = some row) :
    Untouched s (released s id row) ↔ row.state = .stopping ∧ s.processes id = none ∧ NothingHeld s.gateway id := by
  obtain ⟨events, -, -, heq⟩ := released_eq s id row
  rw [heq, ← letGo_eq_iff]
  constructor
  · intro h
    have hmarked : Untouched s (marked s id row) :=
      ⟨h.rows, h.ids, h.leases, rfl, h.listenAddress, h.processes, h.missCounts, h.spawned⟩
    exact ⟨((untouched_marked_iff hrow).mp hmarked).1, ((untouched_marked_iff hrow).mp hmarked).2, h.gateway⟩
  · rintro ⟨hstate, huntracked, hgateway⟩
    have h := (untouched_marked_iff hrow).mpr ⟨hstate, huntracked⟩
    exact ⟨h.rows, h.ids, h.leases, hgateway, h.listenAddress, h.processes, h.missCounts, h.spawned⟩

theorem untouched_deactivated_iff : Untouched s ((released s id row).deactivateLeases id) ↔
      Untouched s (released s id row) ∧ NoActiveLease s.leases id := by
  have hleases : (released s id row).leases = s.leases := by
    obtain ⟨events, -, -, heq⟩ := released_eq s id row
    rw [heq]
    rfl
  rw [← hleases, ← deactivate_eq_iff]
  constructor
  · intro h
    exact ⟨⟨h.rows, h.ids, hleases, h.gateway, h.listenAddress, h.processes, h.missCounts, h.spawned⟩,
      h.leases.trans hleases.symm⟩
  · rintro ⟨h, hsame⟩
    exact ⟨h.rows, h.ids, hsame.trans hleases, h.gateway, h.listenAddress, h.processes, h.missCounts, h.spawned⟩

end Unchanged

/-! ### When the runtime is stopped -/

section

variable {s : RuntimeHost} {id reason : String} {row : RuntimeRow}

theorem revoked_of_revokeRuntime {store : RuntimeSessionStore} {token : String} {session : RuntimeSession}
    (h : (store.revokeRuntime id).sessions token = some session) (hid : session.runtimeInstanceId = id) :
    session.revoked = true := by
  unfold RuntimeSessionStore.revokeRuntime at h
  dsimp only at h
  obtain ⟨before, -, rfl⟩ := Option.map_eq_some_iff.mp h
  by_cases hbefore : before.runtimeInstanceId = id
  · rw [if_pos hbefore]
  · rw [if_neg hbefore] at hid
    exact absurd hid hbefore

theorem stopped_finished : Stopped s (finished s id reason row) id := by
  obtain ⟨events, htrace, hterminated, heq⟩ := released_eq s id row
  have hgateway : (released s id row).gateway = s.gateway.letGo id := by rw [heq]
  have hprocesses : (released s id row).processes = Function.update s.processes id none := by
    rw [heq]
    rfl
  refine ⟨?_, ⟨.moved id .stopping :: events ++ [.moved id .stopped], ?_, ?_⟩, ?_, ?_, ?_, ?_, ?_⟩
  · show (released s id row).processes id = none
    rw [hprocesses, Function.update_self]
  · show (released s id row).trace ++ [_] = _
    rw [htrace, List.append_assoc]
  · intro process hprocess
    exact List.mem_append_left _ (List.mem_cons_of_mem _ (hterminated process hprocess))
  · show (released s id row).gateway.active id = none
    rw [hgateway]
    exact Function.update_self _ _ _
  · intro token session hsession
    have hsession' : (released s id row).gateway.sessions.sessions token = some session := hsession
    rw [hgateway] at hsession'
    exact revoked_of_revokeRuntime hsession'
  · intro key hkey
    show (released s id row).gateway.device.leases key = none
    rw [hgateway]
    exact if_pos hkey
  · intro lease hmem hid
    obtain ⟨before, -, rfl⟩ := List.mem_map.mp hmem
    by_cases hbefore : before.runtimeInstanceId = id
    · rw [if_pos hbefore]
    · rw [if_neg hbefore] at hid
      exact absurd hid hbefore
  · exact ⟨_, Function.update_self _ _ _, rfl⟩

theorem Stopped.clearRuntime {s' : RuntimeHost} (h : Stopped s s' id) : Stopped s (s'.clearRuntime id) id :=
  ⟨h.untracked, h.terminated, h.unregistered, h.sessions, h.devices, h.leases, h.state⟩

theorem not_stopped_of_stopping {s' : RuntimeHost} {row' : RuntimeRow} (hrow : s'.rows id = some row')
    (hstate : row'.state = .stopping) : ¬ Stopped s s' id := by
  intro h
  obtain ⟨row'', hrow'', hstate''⟩ := h.state
  rw [hrow, Option.some.injEq] at hrow''
  rw [← hrow'', hstate] at hstate''
  cases hstate''

/-- A process whose handle is dropped is not stopped by that. -/
theorem not_stopped_dropProcess (htracked : s.processes id ≠ none) : ¬ Stopped s (s.dropProcess id) id := by
  intro h
  obtain ⟨events, htrace, hterminated⟩ := h.terminated
  have hevents : events = [] := List.self_eq_append_right.mp htrace
  obtain ⟨process, hprocess⟩ := Option.ne_none_iff_exists'.mp htracked
  have hmem := hterminated process hprocess
  rw [hevents] at hmem
  cases hmem

end

/-! ### The condition decides -/

section

variable {answers : CallAnswers} {s : RuntimeHost} {id reason : String} {row : RuntimeRow}

theorem row_released : (released s id row).rows id = some { row with state := .stopping } := by
  obtain ⟨events, -, -, heq⟩ := released_eq s id row
  rw [heq]
  exact Function.update_self _ _ _

/-- The runtime becomes STOPPED. -/
theorem ends_stopHeld (hleases : answers.failure (.revokeLeases id) = .no)
    (hstopped : ∀ message, answers.failure (.transition id .stopped) ≠ .before message) :
    Ends (stopHeld answers id reason) (released s id row) (fun _ s' => Stopped s s' id)
      fun _ s' => Stopped s s' id := by
  have hrevoke : revokeLeases answers id (released s id row) = .ok () ((released s id row).deactivateLeases id) := by
    unfold revokeLeases
    rw [attempt_of_no hleases]
    rfl
  have hrow : ((released s id row).deactivateLeases id).rows id = some { row with state := .stopping } := row_released
  have hfinished : Stopped s (finished s id reason row) id := stopped_finished
  unfold stopHeld
  refine ends_bind_of_ok hrevoke ?_
  cases hfailure : answers.failure (.transition id .stopped) with
  | no =>
    refine ends_bind_of_ok (run_transition hrow rfl hfailure) ?_
    refine ends_bind (Q := fun _ s' => Stopped s s' id) ?_ fun _ s' hs' => hs'.clearRuntime
    exact ends_attempt (fun _ => hfinished) (ends_pure ⟨hfinished, fun _ => hfinished⟩)
  | before message => exact absurd hfailure (hstopped message)
  | after message => exact ends_bind_of_error (run_transition_of_after hrow rfl hfailure) hfinished

variable (s reason row) in
/-- The call raises while the runtime is STOPPING. -/
theorem run_stopHeld_of_failure (h : answers.failure (.revokeLeases id) ≠ .no ∨
    ∃ message, answers.failure (.transition id .stopped) = .before message) :
    ∃ message s', stopHeld answers id reason (released s id row) = .error message s' ∧
      (s' = released s id row ∧ (∃ message, answers.failure (.revokeLeases id) = .before message) ∨
        s' = (released s id row).deactivateLeases id ∧
          ¬ ∃ message, answers.failure (.revokeLeases id) = .before message) := by
  unfold stopHeld
  cases hleases : answers.failure (.revokeLeases id) with
  | before message =>
    exact ⟨message, _, run_bind_of_error (attempt_of_before hleases), .inl ⟨rfl, message, rfl⟩⟩
  | after message =>
    refine ⟨message, _, run_bind_of_error (attempt_of_after hleases rfl), .inr ⟨rfl, ?_⟩⟩
    rintro ⟨_, h⟩
    cases h
  | no =>
    rcases h with h | ⟨message, h⟩
    · exact absurd hleases h
    · have hrevoke : revokeLeases answers id (released s id row) =
          .ok () ((released s id row).deactivateLeases id) := by
        unfold revokeLeases
        rw [attempt_of_no hleases]
        rfl
      refine ⟨message, _, (run_bind_of_ok hrevoke).trans (run_bind_of_error (attempt_of_before h)), .inr ⟨rfl, ?_⟩⟩
      rintro ⟨_, h⟩
      cases h

theorem stopsAtomically_of_turnedAway (hrow : s.rows id = some row) (h : TurnedAway answers id row) :
    StopsAtomically answers s id reason ↔ s.processes id = none := by
  obtain ⟨message, hrun⟩ := run_stopRuntime_of_turnedAway reason hrow h
  unfold StopsAtomically
  rw [ends_iff_of_error hrun, untouched_dropProcess_iff]
  constructor
  · rintro (hstopped | huntracked)
    · by_contra htracked
      exact not_stopped_dropProcess htracked hstopped
    · exact huntracked
  · exact .inr

theorem stopsAtomically_of_marked (hrow : s.rows id = some row) (h : ¬ TurnedAway answers id row)
    (hstopping : answers.failure (.transition id .stopping) ≠ .no) :
    StopsAtomically answers s id reason ↔ row.state = .stopping ∧ s.processes id = none := by
  obtain ⟨message, hrun⟩ := run_stopRuntime_of_marked reason hrow h hstopping
  have hself : (marked s id row).rows id = some { row with state := .stopping } := Function.update_self _ _ _
  unfold StopsAtomically
  rw [ends_iff_of_error hrun, untouched_marked_iff hrow]
  exact or_iff_right (not_stopped_of_stopping hself rfl)

theorem not_stopsAtomically_of_terminate (hrow : s.rows id = some row) (h : ¬ TurnedAway answers id row)
    (hstopping : answers.failure (.transition id .stopping) = .no) (htracked : s.processes id ≠ none)
    (hterminate : answers.failure (.terminate id) ≠ .no) : ¬ StopsAtomically answers s id reason := by
  obtain ⟨process, hprocess⟩ := Option.ne_none_iff_exists'.mp htracked
  obtain ⟨message, s', hrun, hdropped, hrow'⟩ :=
    run_stopRuntime_of_terminate reason hrow h hstopping hprocess hterminate
  unfold StopsAtomically
  rw [ends_iff_of_error hrun]
  rintro (hstopped | huntouched)
  · exact not_stopped_of_stopping hrow' rfl hstopped
  · rw [huntouched.processes] at hdropped
    exact htracked hdropped

/-- What a call that raises after the gateway has let go of the runtime must have found. -/
theorem stopsAtomically_of_released (hrow : s.rows id = some row) (h : ¬ TurnedAway answers id row)
    (hstopping : answers.failure (.transition id .stopping) = .no)
    (hterminate : s.processes id = none ∨ answers.failure (.terminate id) = .no)
    (hfailure : answers.failure (.revokeLeases id) ≠ .no ∨
      ∃ message, answers.failure (.transition id .stopped) = .before message) :
    StopsAtomically answers s id reason ↔ (row.state = .stopping ∧ s.processes id = none ∧
      NothingHeld s.gateway id) ∧ ((∃ message, answers.failure (.revokeLeases id) = .before message) ∨
        NoActiveLease s.leases id) := by
  obtain ⟨message, s', hrun, hs'⟩ := run_stopHeld_of_failure s reason row hfailure
  unfold StopsAtomically
  rw [ends_iff_of_error ((run_stopRuntime_released hrow h hstopping hterminate).trans hrun)]
  rcases hs' with ⟨rfl, hbefore⟩ | ⟨rfl, hbefore⟩
  · rw [or_iff_right (not_stopped_of_stopping row_released rfl), untouched_released_iff hrow]
    exact (and_iff_left (.inl hbefore)).symm
  · have hrow' : ((released s id row).deactivateLeases id).rows id = some { row with state := .stopping } :=
      row_released
    rw [or_iff_right (not_stopped_of_stopping hrow' rfl), untouched_deactivated_iff, untouched_released_iff hrow,
      or_iff_right hbefore]

/-- **Stopping is atomic** exactly if the call is turned away while no process is tracked, or comes to STOPPED, or
breaks off where there is nothing left to take. -/
theorem stopsAtomically_iff (hrow : s.rows id = some row) :
    StopsAtomically answers s id reason ↔ StopCondition answers s id row := by
  by_cases h : TurnedAway answers id row
  · rw [stopsAtomically_of_turnedAway hrow h]
    constructor
    · exact .turnedAway h
    · rintro (⟨-, huntracked⟩ | hthrough | hnothing)
      · exact huntracked
      · contradiction
      · contradiction
  by_cases hstopping : answers.failure (.transition id .stopping) = .no
  · by_cases hterminate : s.processes id = none ∨ answers.failure (.terminate id) = .no
    · by_cases hfailure : answers.failure (.revokeLeases id) ≠ .no ∨
          ∃ message, answers.failure (.transition id .stopped) = .before message
      · rw [stopsAtomically_of_released hrow h hstopping hterminate hfailure]
        constructor
        · rintro ⟨⟨hstate, huntracked, hheld⟩, hleases⟩
          exact .nothingLeft h hstate huntracked (.inr ⟨hheld, hleases⟩)
        · rintro (hturned | ⟨-, -, -, hleases, hstopped⟩ | ⟨-, hstate, huntracked, hheld⟩)
          · contradiction
          · rcases hfailure with hfailure | ⟨message, hfailure⟩
            · exact absurd hleases hfailure
            · exact absurd hfailure (hstopped message)
          · rcases hheld with hheld | ⟨hheld, hleases⟩
            · exact absurd hstopping hheld
            · exact ⟨⟨hstate, huntracked, hheld⟩, hleases⟩
      · rw [not_or, not_not, not_exists] at hfailure
        refine iff_of_true ?_ (.through h hstopping hterminate hfailure.1 hfailure.2)
        have hends : Ends (stopHeld answers id reason) (released s id row) (fun _ s' => Stopped s s' id)
            fun _ s' => Stopped s s' id ∨ Untouched s s' :=
          (ends_stopHeld hfailure.1 hfailure.2).mono (fun _ _ h => h) fun _ _ h => .inl h
        unfold StopsAtomically Ends
        rw [run_stopRuntime_released hrow h hstopping hterminate]
        exact hends
    · rw [not_or] at hterminate
      refine iff_of_false (not_stopsAtomically_of_terminate hrow h hstopping hterminate.1 hterminate.2) ?_
      rintro (hturned | ⟨-, -, hthrough, -, -⟩ | ⟨-, -, huntracked, -⟩)
      · contradiction
      · rcases hthrough with huntracked | hthrough
        · exact hterminate.1 huntracked
        · exact hterminate.2 hthrough
      · exact hterminate.1 huntracked
  · rw [stopsAtomically_of_marked hrow h hstopping]
    constructor
    · rintro ⟨hstate, huntracked⟩
      exact .nothingLeft h hstate huntracked (.inl hstopping)
    · rintro (hturned | ⟨-, hthrough, -, -, -⟩ | ⟨-, hstate, huntracked, -⟩)
      · contradiction
      · exact absurd hthrough hstopping
      · exact ⟨hstate, huntracked⟩

end

/-! ### A live process that is lost -/

namespace HeatDemo

/-- The process is launched, but that cannot be stored. -/
def unrecorded : CallAnswers :=
  { answers 0 "t1" with
    failure := fun call => if call = .transition "r1" .handshaking then .before "database is locked" else .no }

end HeatDemo

theorem stopsAtomically_iff_running : ∃ row,
    (HeatDemo.reached [(HeatDemo.start, HeatDemo.answers 0 "t1")]).rows "r1" = some row ∧
      (StopsAtomically (HeatDemo.answers 1 "") (HeatDemo.reached [(HeatDemo.start, HeatDemo.answers 0 "t1")]) "r1"
          "stop" ↔
        StopCondition (HeatDemo.answers 1 "") (HeatDemo.reached [(HeatDemo.start, HeatDemo.answers 0 "t1")]) "r1"
          row) := by
  have hsome : ((HeatDemo.reached [(HeatDemo.start, HeatDemo.answers 0 "t1")]).rows "r1").isSome = true := by
    decide +kernel
  obtain ⟨row, hrow⟩ := Option.isSome_iff_exists.mp hsome
  exact ⟨row, hrow, stopsAtomically_iff hrow⟩

/-- A runtime that is CRASHED with a live process may not be stopped; the call raises and has dropped the handle. -/
theorem crashed_handle_dropped :
    ¬ StopsAtomically (HeatDemo.answers 1 "") (HeatDemo.reached [(HeatDemo.start, HeatDemo.unrecorded)]) "r1" "stop" := by
  have hcrashed : ((HeatDemo.reached [(HeatDemo.start, HeatDemo.unrecorded)]).rows "r1").map RuntimeRow.state =
      some .crashed := by
    decide +kernel
  have htracked : (HeatDemo.reached [(HeatDemo.start, HeatDemo.unrecorded)]).processes "r1" = some 0 := by
    decide +kernel
  obtain ⟨row, hrow, hstate⟩ := Option.map_eq_some_iff.mp hcrashed
  have hturned : TurnedAway (HeatDemo.answers 1 "") "r1" row := by
    refine .inr (.inr ?_)
    rw [hstate]
    rfl
  rw [stopsAtomically_of_turnedAway hrow hturned, htracked]
  exact Option.some_ne_none 0

end EnergyCore.Isolation
