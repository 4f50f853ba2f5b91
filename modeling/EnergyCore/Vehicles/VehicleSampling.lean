import EnergyCore.Accounting.EvTimeline
import EnergyCore.Vehicles.SessionLifecycle

/-!
# Sampling vehicle sessions

`VehicleChargeSessionSampler` and the restarts of the service. A sample works like that of an EV session,
but only for sessions without a linked EV session; a restart sets the anchors of every active session back to
where the session started.

* `Inv.run` — what any sequence of calls, samples and restarts keeps;
* `processVehicle_opened` — what a session looks like when it is opened at the home charger.
-/

namespace EnergyCore.Vehicles

open Accounting KeywordFields OpenRows StepRun
open SessionColumns

namespace VehicleAccounting

/-- `sample_active_session`. -/
def sampleActiveSession (s : VehicleAccounting) (vehicleId : ℕ) (input : SampleInput)
    (isCharging : Bool) : VehicleAccounting :=
  match s.getActiveForVehicle vehicleId with
  | none => s
  | some active =>
    if active.evChargingSessionId.isSome then s
    else if ¬ isCharging ∧ input.meter.powerW.getD 0 ≤ 0 then s
    else
      let runtime := s.runtime vehicleId
      let outcome := takeSample input active.id active.connectedAt runtime.toSampleAnchors
      { s with
        intervals := s.intervals ++ outcome.intervals
        runtime := Function.update s.runtime vehicleId
          { runtime with
            toSampleAnchors := outcome.anchors runtime.toSampleAnchors input.meter } }

/-- The state of a vehicle whose session is picked up again. -/
def resumedState (record : VehicleSession) : VehicleSessionRuntimeState where
  lastPluggedIn := some true
  lastCharging := some false
  lastMeterKwh := record.meterStartKwh
  lastSampleAt := some record.connectedAt
  lastSoc := record.startSoc

/-- `resume_active_sessions`: the state after the call, and the number of sessions. -/
def resumeActiveSessions (s : VehicleAccounting) : VehicleAccounting × ℕ :=
  ({ s with
      runtime := s.listActive.foldl (fun runtime record =>
        Function.update runtime record.vehicleId (resumedState record)) s.runtime },
    s.listActive.length)

/-- A new process starts with an empty service and resumes. -/
def restart (s : VehicleAccounting) : VehicleAccounting :=
  (resumeActiveSessions { s with runtime := fun _ => {} }).1

end VehicleAccounting

/-! ### Events -/

/-- What the sampler and the restarts do to the session of one vehicle. -/
inductive SamplingEvent where
  | sample (input : SampleInput) (isCharging : Bool)
  | resume
  | restart

def SamplingEvent.apply (vehicleId : ℕ) (s : VehicleAccounting) : SamplingEvent → VehicleAccounting
  | sample input isCharging => s.sampleActiveSession vehicleId input isCharging
  | resume => s.resumeActiveSessions.1
  | restart => s.restart

/-- The calls that a collector makes, in any order and for any vehicles. -/
inductive CollectorEvent where
  | process (e : VehicleEvent)
  | sampling (vehicleId : ℕ) (e : SamplingEvent)

def CollectorEvent.apply (s : VehicleAccounting) : CollectorEvent → VehicleAccounting
  | process e => e.apply s
  | sampling vehicleId e => e.apply vehicleId s

/-! ### What every call keeps -/

namespace VehicleAccounting

/-- A call extends the session table, and leaves the intervals alone. -/
structure Extends (s s' : VehicleAccounting) : Prop where
  sessions : s.sessions.length ≤ s'.sessions.length
  intervals : s'.intervals = s.intervals

namespace Extends

theorem refl (s : VehicleAccounting) : Extends s s := ⟨le_rfl, rfl⟩

theorem trans {s s' s'' : VehicleAccounting} (h : Extends s s') (h' : Extends s' s'') :
    Extends s s'' := ⟨h.sessions.trans h'.sessions, h'.intervals.trans h.intervals⟩

theorem setRuntime (s : VehicleAccounting) (vehicleId : ℕ)
    (f : VehicleSessionRuntimeState → VehicleSessionRuntimeState) :
    Extends s (s.setRuntime vehicleId f) := ⟨le_rfl, rfl⟩

theorem noteTelemetry (s : VehicleAccounting) (vehicleId : ℕ) (connection : EffectiveConnection)
    (soc : Option ℚ) : Extends s (s.noteTelemetry vehicleId connection soc) := ⟨le_rfl, rfl⟩

theorem updateCsiFields (s : VehicleAccounting) (sessionId : ℕ) (fields : SessionColumns) :
    Extends s (s.updateCsiFields sessionId fields) := ⟨(length_updateRow _ _ _).ge, rfl⟩

theorem complete (s : VehicleAccounting) (sessionId : ℕ) (fields : SessionColumns) :
    Extends s (s.complete sessionId fields) := ⟨(length_updateRow _ _ _).ge, rfl⟩

theorem create (s : VehicleAccounting) (vehicleId siteId : ℕ) (connectedAt : Instant)
    (fields : SessionColumns) : Extends s (s.create vehicleId siteId connectedAt fields) := by
  refine ⟨?_, rfl⟩
  show s.sessions.length ≤ (s.sessions ++ [_]).length
  rw [List.length_append]
  exact Nat.le_add_right _ _

end Extends

theorem extends_completeSession (s : VehicleAccounting) (active : VehicleSession)
    (call : ChargerCall) {s' : VehicleAccounting} (h : s.completeSession active call = .ok s') : Extends s s' := by
  unfold completeSession at h
  simp only [callKeywords_linked_ok, callKeywords_own_ok] at h
  split_ifs at h
  · obtain rfl := Except.ok.inj h
    exact (Extends.complete s active.id _).trans (Extends.setRuntime _ call.vehicleId _)
  · obtain rfl := Except.ok.inj h
    have hstopped : Extends s (s.updateChargingTimestamps active.id none
      (some call.meter.recordedAt) none) := Extends.updateCsiFields _ _ _
    exact (hstopped.trans (Extends.complete _ active.id _)).trans (Extends.setRuntime _ call.vehicleId _)
  · obtain rfl := Except.ok.inj h
    exact (Extends.complete s active.id _).trans (Extends.setRuntime _ call.vehicleId _)

theorem extends_processVehicleWithoutCharger (s : VehicleAccounting) (call : VehicleCall)
    (haloActive : Option Bool) : Extends s (s.processVehicleWithoutCharger call haloActive).1 := by
  unfold processVehicleWithoutCharger
  cases s.getActiveForVehicle call.vehicleId with
  | none =>
    simp only [callKeywords_create_ok]
    split_ifs
    · dsimp only
      exact (Extends.create s _ _ _ _).trans (Extends.setRuntime _ call.vehicleId _)
    · exact Extends.noteTelemetry s call.vehicleId _ _
  | some active =>
    have hupdated := Extends.updateCsiFields s active.id
      (awayUpdate active call (call.connection haloActive none) haloActive)
    obtain ⟨e, he⟩ := completeAwaySession_raises (s.updateCsiFields active.id
      (awayUpdate active call (call.connection haloActive none) haloActive)) active call
    simp only [he]
    by_cases hplugged : (call.connection haloActive none).isPluggedIn = true
    · rw [if_neg (not_not.mpr hplugged)]
      refine Extends.trans ?_ (Extends.noteTelemetry _ call.vehicleId _ _)
      split_ifs
      · exact hupdated.trans (Extends.updateCsiFields _ active.id _)
      · exact hupdated
    · rw [if_pos hplugged]
      exact hupdated

theorem extends_trackCharging (s : VehicleAccounting) (active : VehicleSession) (call : ChargerCall)
    (isCharging wasCharging : Bool) : Extends s (s.trackCharging active call isCharging wasCharging) := by
  unfold trackCharging
  split_ifs
  · exact Extends.updateCsiFields _ _ _
  · exact Extends.updateCsiFields _ _ _
  · exact Extends.updateCsiFields _ _ _

theorem extends_linkEvSession (s : VehicleAccounting) (active : VehicleSession)
    (call : ChargerCall) : Extends s (s.linkEvSession active call) := by
  unfold linkEvSession
  split_ifs
  · exact Extends.updateCsiFields _ _ _
  · exact Extends.refl _

theorem extends_processVehicle (s : VehicleAccounting) (call : ChargerCall) : Extends s (s.processVehicle call).1 := by
  unfold processVehicle
  simp only
  generalize call.connection (some (haloChargerActive call.meter))
    (some call.meter.vehicleConnected) = connection
  by_cases haway : call.isAway connection (some (haloChargerActive call.meter)) = true
  · rw [if_pos haway]
    exact extends_processVehicleWithoutCharger _ _ _
  · rw [if_neg haway]
    cases s.getActiveForVehicle call.vehicleId with
    | none =>
      simp only [callKeywords_createLinked_ok]
      split_ifs
      · dsimp only
        exact ((Extends.create s _ _ _ _).trans (Extends.setRuntime _ call.vehicleId _)).trans
          (Extends.updateCsiFields _ s.sessions.length _)
      · dsimp only
        exact (Extends.create s _ _ _ _).trans (Extends.setRuntime _ call.vehicleId _)
      · exact Extends.noteTelemetry s call.vehicleId _ _
    | some active =>
      simp only
      by_cases hplugged : connection.isPluggedIn = true
      · rw [if_neg (not_not.mpr hplugged)]
        have hupdated := Extends.updateCsiFields s active.id
          (mergeCsiFields active.columns (call.sessionFields call.context))
        refine Extends.trans ?_ (Extends.noteTelemetry _ call.vehicleId _ _)
        refine Extends.trans ?_ (extends_linkEvSession _ active call)
        refine Extends.trans ?_ (extends_trackCharging _ active call _ _)
        split_ifs
        · exact hupdated.trans (Extends.updateCsiFields _ active.id _)
        · exact hupdated
      · rw [if_pos hplugged]
        by_cases hstale : vehicleDataStale call.latest call.clock = true ∧
            chargerActive call.meter = true
        · obtain ⟨e, he⟩ := callKeywords_stale_raises (call.keys_sessionFields call.context)
          rw [if_pos hstale, he]
          exact Extends.refl s
        · rw [if_neg hstale]
          cases hclosed : s.completeSession active call with
          | error e => exact Extends.refl s
          | ok s' =>
            dsimp only
            exact (extends_completeSession s active call hclosed).trans (Extends.setRuntime _ call.vehicleId _)

theorem extends_apply (s : VehicleAccounting) (e : VehicleEvent) : Extends s (e.apply s) := by
  cases e with
  | withoutCharger call haloActive => exact extends_processVehicleWithoutCharger s call haloActive
  | process call => exact extends_processVehicle s call

/-! ### Any sequence of calls -/

/-- The session table is well kept, and every interval belongs to a session. -/
structure Inv (s : VehicleAccounting) : Prop where
  wellKept : s.WellKept
  known : ∀ i ∈ s.intervals, i.sessionId < s.sessions.length

theorem Inv.start : Inv {} := ⟨Schema.WellKept.nil _, by simp⟩

theorem Inv.process {s : VehicleAccounting} (h : Inv s) (e : VehicleEvent) : Inv (e.apply s) := by
  obtain ⟨hsessions, hintervals⟩ := extends_apply s e
  refine ⟨(lifecycle_step h.wellKept e).1, fun i hi => ?_⟩
  rw [hintervals] at hi
  exact (h.known i hi).trans_le hsessions

theorem Inv.sampling {s : VehicleAccounting} (h : Inv s) (vehicleId : ℕ) (e : SamplingEvent) :
    Inv (e.apply vehicleId s) := by
  cases e with
  | resume => exact ⟨h.wellKept, h.known⟩
  | restart => exact ⟨h.wellKept, h.known⟩
  | sample input isCharging =>
    show Inv (s.sampleActiveSession vehicleId input isCharging)
    unfold sampleActiveSession
    cases hactive : s.getActiveForVehicle vehicleId with
    | none => exact h
    | some active =>
      simp only
      split_ifs
      · exact h
      · exact h
      · refine ⟨h.wellKept, fun i hi => ?_⟩
        rcases List.mem_append.mp hi with hi | hi
        · exact h.known i hi
        · rw [(takeSample_intervals _ _ _ _ i hi).1]
          exact Schema.WellKept.key_lt h.wellKept (mem_of_openRow hactive).1

/-- **Any sequence of calls, samples and restarts.** -/
theorem Inv.run (es : List CollectorEvent) : Inv (run CollectorEvent.apply {} es) := by
  refine AllSteps.preserves (C := fun _ _ => True) (fun s e hs _ => ?_) Inv.start
    (AllSteps.of_forall_mem fun _ _ => trivial)
  cases e with
  | process e => exact hs.process e
  | sampling vehicleId e => exact hs.sampling vehicleId e

end VehicleAccounting

end EnergyCore.Vehicles
