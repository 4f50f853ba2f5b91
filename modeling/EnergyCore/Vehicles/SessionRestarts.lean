import EnergyCore.Accounting.RestartedLog
import EnergyCore.Vehicles.VehicleSampling

/-!
# Vehicle sessions across restarts

A session that is opened at the home charger, sampled, and resumed any number of times.

* `processVehicle_opened` — a session starts with its anchors at its own start;
* `observe_simulates` — samples and restarts of a vehicle are those of the log of its session;
* `restarts_iff` — the intervals stay disjoint and within the register exactly if no sample falls back on the
  power, and none runs from anchors that a restart has put behind a stored interval.
-/

namespace EnergyCore.Vehicles

open Accounting KeywordFields OpenRows StepRun
open SessionColumns

/-! ### The session that is opened -/

namespace VehicleSession

theorem setColumns_append (row : VehicleSession) (fields more : SessionColumns) :
    row.setColumns (fields ++ more) = (row.setColumns fields).setColumns more := by
  simp only [setColumns, List.map_append, Fields.assignAll_append]

/-- Columns that are not written keep their values. -/
theorem number_setColumns (row : VehicleSession) {fields : SessionColumns} {k : String}
    (h : k ∉ Fields.keys fields) : (row.setColumns fields).number k = row.number k := by
  have hget : Fields.get (row.setColumns fields).columns k = Fields.get row.columns k := by
    refine Fields.get_assignAll_of_notMem _ ?_
    rw [List.map_map]
    exact h
  rw [number, number, value, value, hget]

/-- A column that is written last has the value that was written. -/
theorem number_setColumns_concat (row : VehicleSession) (fields : SessionColumns) {k : String}
    (hk : k ∈ vehicleSessionColumns) (v : Value) : (row.setColumns (fields ++ [(k, v)])).number k = v.number? := by
  rw [setColumns_append]
  generalize row.setColumns fields = row
  have hcolumns : (row.setColumns [(k, v)]).columns = Fields.assign row.columns k v := by
    show (if decide (k ∈ vehicleSessionColumns) = true then Fields.assign row.columns k v
      else row.columns) = _
    rw [if_pos (decide_eq_true hk)]
  rw [number, value, hcolumns, Fields.get_assign_self, Option.getD_some]

end VehicleSession

/-- A session without a linked EV session is the active one of the vehicle. -/
def HasSession (vehicleId id : ℕ) (startedAt : Instant) (startKwh : ℚ) (s : VehicleAccounting) : Prop :=
  s.WellKept ∧ ∃ a, s.getActiveForVehicle vehicleId = some a ∧ a.id = id ∧
    a.connectedAt = startedAt ∧ a.evChargingSessionId = none ∧ a.meterStartKwh = some startKwh

section

variable {vehicleId id : ℕ} {startedAt : Instant} {startKwh : ℚ} {s : VehicleAccounting}

/-- Writing other columns keeps the session. -/
theorem HasSession.updateCsiFields (h : HasSession vehicleId id startedAt startKwh s)
    {fields : SessionColumns} (hlink : "ev_charging_session_id" ∉ Fields.keys fields)
    (hmeter : "meter_start_kwh" ∉ Fields.keys fields) :
    HasSession vehicleId id startedAt startKwh (s.updateCsiFields id fields) := by
  obtain ⟨hkept, a, hactive, rfl, rfl, hunlinked, hstart⟩ := h
  refine ⟨hkept.updateCsiFields _ _, _, Schema.WellKept.openRow_update hkept hactive a.id
    (fun _ => rfl) (fun _ => rfl) (fun _ => rfl), ?_⟩
  rw [if_pos (show vehicleSessionTable.key a = a.id from rfl)]
  refine ⟨rfl, rfl, ?_, ?_⟩
  · rw [VehicleSession.evChargingSessionId, VehicleSession.number_setColumns _ hlink]
    exact hunlinked
  · rw [VehicleSession.meterStartKwh, VehicleSession.number_setColumns _ hmeter]
    exact hstart

theorem HasSession.updateChargingTimestamps (h : HasSession vehicleId id startedAt startKwh s)
    (chargingStartedAt chargingStoppedAt : Option Instant) (targetSoc : Option ℚ) :
    HasSession vehicleId id startedAt startKwh
      (s.updateChargingTimestamps id chargingStartedAt chargingStoppedAt targetSoc) := by
  refine h.updateCsiFields ?_ ?_
  all_goals
    rw [Fields.keys_append, Fields.keys_append]
    simp [Fields.keys]

end

namespace VehicleAccounting

/-- What `create` writes for a session at the home charger. -/
theorem hasSession_create {s : VehicleAccounting} (h : s.WellKept) (call : ChargerCall)
    (hnone : s.getActiveForVehicle call.vehicleId = none) {startKwh : ℚ}
    (hmeter : call.meter.cumulativeKwh = some startKwh) (hlink : call.evSession = none) :
    HasSession call.vehicleId s.sessions.length call.meter.recordedAt startKwh
      (s.create call.vehicleId call.siteId call.meter.recordedAt
        (call.createKeywords (some call.chargerId) call.meter.recordedAt call.meter.cumulativeKwh ++
          [("ev_charging_session_id", .ofNat call.evSession)] ++ call.sessionFields call.context)) := by
  have hkept := h.create hnone call.siteId call.meter.recordedAt
    (call.createKeywords (some call.chargerId) call.meter.recordedAt call.meter.cumulativeKwh ++
      [("ev_charging_session_id", .ofNat call.evSession)] ++ call.sessionFields call.context)
  refine ⟨hkept, _, Schema.WellKept.openRow_eq hkept
    (List.mem_append_right s.sessions List.mem_cons_self) rfl, rfl, rfl, ?_, ?_⟩
  · have hcsi : "ev_charging_session_id" ∉ Fields.keys (call.sessionFields call.context) := by
      rw [call.keys_sessionFields]
      decide
    rw [VehicleSession.evChargingSessionId, VehicleSession.setColumns_append, VehicleSession.number_setColumns _ hcsi,
      VehicleSession.number_setColumns_concat _ _ (by decide), hlink]
    rfl
  · have hcsi : "meter_start_kwh" ∉ Fields.keys (call.sessionFields call.context) := by
      rw [call.keys_sessionFields]
      decide
    -- the columns before `meter_start_kwh`, itself, and the columns after it
    have hsplit : call.createKeywords (some call.chargerId) call.meter.recordedAt
        call.meter.cumulativeKwh ++ [("ev_charging_session_id", .ofNat call.evSession)]
        = (call.createKeywords (some call.chargerId) call.meter.recordedAt none).take 6 ++
          [("meter_start_kwh", .number startKwh)] ++
          [("identification_confidence", .ofNumber call.identificationConfidence),
            ("savings_baseline", .text "IMMEDIATE_GRID_CHARGING"),
            ("calculation_version", .text "vehicle-charge-v1"),
            ("ev_charging_session_id", .ofNat call.evSession)] := by
      rw [hmeter]
      rfl
    rw [VehicleSession.meterStartKwh, VehicleSession.setColumns_append,
      VehicleSession.number_setColumns _ hcsi, hsplit, VehicleSession.setColumns_append,
      VehicleSession.number_setColumns,
      VehicleSession.number_setColumns_concat _ _ (by decide)]
    · rfl
    · show "meter_start_kwh" ∉ ["identification_confidence", "savings_baseline",
        "calculation_version", "ev_charging_session_id"]
      decide

/-- **A session starts with its anchors at its own start**, and without intervals. -/
theorem processVehicle_opened {s : VehicleAccounting} (h : Inv s) (call : ChargerCall)
    (hhome : (VehicleEvent.process call).isAway = false)
    (hnone : s.getActiveForVehicle call.vehicleId = none) {s' : VehicleAccounting} {id : ℕ}
    (hopen : s.processVehicle call = (s', .ok (some id))) {startKwh : ℚ}
    (hmeter : call.meter.cumulativeKwh = some startKwh) (hlink : call.evSession = none) :
    HasSession call.vehicleId id call.meter.recordedAt startKwh s' ∧ (s'.runtime call.vehicleId).toSampleAnchors
        = ⟨some startKwh, some call.meter.recordedAt⟩ ∧ s'.intervalsOf id = [] := by
  have hcreated := hasSession_create h.wellKept call hnone hmeter hlink
  have hnew : s.intervalsOf s.sessions.length = [] := by
    rw [intervalsOf, List.filter_eq_nil_iff]
    intro i hi heq
    have hlt := h.known i hi
    rw [of_decide_eq_true heq] at hlt
    exact lt_irrefl _ hlt
  have haway : call.isAway (VehicleEvent.homeConnection call) (some (haloChargerActive call.meter)) = false := hhome
  unfold processVehicle at hopen
  simp only [← VehicleEvent.homeConnection.eq_def, haway, hnone, callKeywords_createLinked_ok,
    Bool.false_eq_true, if_false] at hopen
  split_ifs at hopen with hplugged hcharging
  · obtain ⟨rfl, hid⟩ := Prod.mk.inj hopen
    obtain rfl : s.sessions.length = id := by simpa using hid
    refine ⟨?_, ?_, hnew⟩
    · exact HasSession.updateChargingTimestamps (s := setRuntime _ call.vehicleId _) hcreated _ _ _
    · refine (congrArg VehicleSessionRuntimeState.toSampleAnchors (Function.update_self ..)).trans ?_
      rw [hmeter]
  · obtain ⟨rfl, hid⟩ := Prod.mk.inj hopen
    obtain rfl : s.sessions.length = id := by simpa using hid
    refine ⟨hcreated, ?_, hnew⟩
    refine (congrArg VehicleSessionRuntimeState.toSampleAnchors (Function.update_self ..)).trans ?_
    rw [hmeter]
  · exact absurd (Prod.mk.inj hopen).2 (by simp)

end VehicleAccounting

/-! ### Samples and restarts under observation -/

namespace SamplingEvent

def observe (vehicleId : ℕ) (w : Metered VehicleAccounting) :
    SamplingEvent → Metered VehicleAccounting
  | sample input isCharging =>
    w.sample VehicleAccounting.intervals
      (w.accounting.sampleActiveSession vehicleId input isCharging) input.meter
  | resume => { w with accounting := w.accounting.resumeActiveSessions.1 }
  | restart => { w with accounting := w.accounting.restart }

/-- The reading that a sample is given. -/
def reading : SamplingEvent → Option MeterSnapshot
  | sample input _ => some input.meter
  | resume => none
  | restart => none

/-- The charger shows power. -/
def Powered : SamplingEvent → Prop
  | sample input _ => 0 < input.meter.powerW.getD 0
  | resume => True
  | restart => True

/-- The charger shows power, and a register that is not below the one before. -/
def Admitted (w : Metered VehicleAccounting) : SamplingEvent → Prop
  | sample input _ => 0 < input.meter.powerW.getD 0 ∧
      ∃ v, input.meter.cumulativeKwh = some v ∧ w.sampledKwh ≤ v
  | resume => True
  | restart => True

/-- The step of the log: every way to resume sets the anchors back. -/
def logEvent (startKwh : ℚ) (startedAt : Instant) : SamplingEvent → LogEvent
  | sample input _ => .sample input
  | resume => .reanchor ⟨some startKwh, some startedAt⟩
  | restart => .reanchor ⟨some startKwh, some startedAt⟩

/-- A sample neither falls back on the power while the register stands still, nor runs, with time elapsed
since the clock anchor, from before the end of a stored interval. -/
def Resumable (vehicleId id : ℕ) (w : Metered VehicleAccounting) : SamplingEvent → Prop
  | sample input _ => ¬ FallsBack (w.accounting.runtime vehicleId).toSampleAnchors input ∧
      ∀ t, (w.accounting.runtime vehicleId).lastSampleAt = some t → t < input.meter.recordedAt →
        ∀ i ∈ w.accounting.intervalsOf id, i.endTime ≤ t
  | resume => True
  | restart => True

end SamplingEvent

/-- The log of a session, as its vehicle and the interval table hold it. -/
def sessionLog (vehicleId id : ℕ) (w : Metered VehicleAccounting) : SessionLog where
  anchors := (w.accounting.runtime vehicleId).toSampleAnchors
  intervals := w.accounting.intervalsOf id
  recordedKwh := w.recordedKwh
  sampledKwh := w.sampledKwh

/-- What a sample of an active session changes, while the charger shows power. -/
theorem sampleActiveSession_eq {s : VehicleAccounting} {vehicleId : ℕ} {a : VehicleSession}
    (hactive : s.getActiveForVehicle vehicleId = some a) (hunlinked : a.evChargingSessionId = none)
    {input : SampleInput} (hpower : 0 < input.meter.powerW.getD 0) (isCharging : Bool) :
    s.sampleActiveSession vehicleId input isCharging
      = { s with
          intervals := s.intervals ++ (takeSample input a.id a.connectedAt
            (s.runtime vehicleId).toSampleAnchors).intervals
          runtime := Function.update s.runtime vehicleId
            { s.runtime vehicleId with
              toSampleAnchors := (takeSample input a.id a.connectedAt
                (s.runtime vehicleId).toSampleAnchors).anchors
                (s.runtime vehicleId).toSampleAnchors input.meter } } := by
  have hidle : ¬ (¬ isCharging = true ∧ input.meter.powerW.getD 0 ≤ 0) := fun hand => absurd hpower (not_lt.mpr hand.2)
  unfold VehicleAccounting.sampleActiveSession
  simp only [hactive, hunlinked, Option.isSome_none, Bool.false_eq_true, if_false, if_neg hidle]

section

variable {vehicleId id : ℕ} {startedAt : Instant} {startKwh : ℚ}

/-- A restart finds the session, whatever the service remembered, and forgets its intervals. -/
theorem runtime_resumed {s : VehicleAccounting}
    (h : HasSession vehicleId id startedAt startKwh s) (runtime : ℕ → VehicleSessionRuntimeState) :
    ((VehicleAccounting.resumeActiveSessions { s with runtime := runtime }).1.runtime
      vehicleId).toSampleAnchors = ⟨some startKwh, some startedAt⟩ := by
  obtain ⟨hkept, a, hactive, -, rfl, -, hstart⟩ := h
  obtain ⟨hmem, rfl, hopen⟩ := mem_of_openRow hactive
  have hlisted : a ∈ s.listActive := List.mem_filter.mpr ⟨hmem, hopen⟩
  have hsame : ∀ r ∈ s.listActive, r.vehicleId = a.vehicleId →
      VehicleAccounting.resumedState r = VehicleAccounting.resumedState a := by
    intro r hr hvehicle
    obtain ⟨hr, hropen⟩ := List.mem_filter.mp hr
    rw [hkept.unique r hr a hmem hropen hopen hvehicle]
  have hresumed := foldl_update_of_mem VehicleSession.vehicleId VehicleAccounting.resumedState hlisted hsame runtime
  refine (congrArg VehicleSessionRuntimeState.toSampleAnchors hresumed).trans ?_
  simp only [VehicleAccounting.resumedState, hstart]

/-- **Samples and restarts of a vehicle are those of the log of its session.** -/
theorem observe_simulates {w : Metered VehicleAccounting}
    (h : HasSession vehicleId id startedAt startKwh w.accounting) {e : SamplingEvent} (he : e.Admitted w) :
    HasSession vehicleId id startedAt startKwh (e.observe vehicleId w).accounting ∧
      sessionLog vehicleId id (e.observe vehicleId w)
        = (e.logEvent startKwh startedAt).apply id startedAt (sessionLog vehicleId id w) := by
  cases e with
  | resume =>
    refine ⟨h, ?_⟩
    exact congrArg (fun anchors => SessionLog.mk anchors _ _ _)
      (runtime_resumed h w.accounting.runtime)
  | restart =>
    refine ⟨h, ?_⟩
    exact congrArg (fun anchors => SessionLog.mk anchors _ _ _) (runtime_resumed h fun _ => {})
  | sample input isCharging =>
    obtain ⟨hkept, a, hactive, rfl, rfl, hunlinked, hstart⟩ := h
    have hintervals := takeSample_intervals input a.id a.connectedAt (w.accounting.runtime vehicleId).toSampleAnchors
    simp only [SamplingEvent.observe, Metered.sample, sampleActiveSession_eq hactive hunlinked he.1 isCharging]
    refine ⟨⟨hkept, a, hactive, rfl, rfl, hunlinked, hstart⟩, ?_⟩
    simp only [sessionLog, SamplingEvent.logEvent, LogEvent.apply]
    rw [recordedKwh_observed, Function.update_self]
    refine congrArg (fun intervals => SessionLog.mk _ intervals _ _) ?_
    show (w.accounting.intervals ++ _).filter _ = w.accounting.intervals.filter _ ++ _
    rw [List.filter_append]
    refine congrArg _ (List.filter_eq_self.mpr fun i hi => decide_eq_true ?_)
    exact (hintervals i hi).1

theorem admitted_of_neverDecreases (vehicleId : ℕ) {w : Metered VehicleAccounting} {events : List SamplingEvent}
    (hregister : RegisterNeverDecreases w.sampledKwh (events.filterMap SamplingEvent.reading))
    (hpower : ∀ e ∈ events, e.Powered) :
    AllSteps (SamplingEvent.observe vehicleId) (fun w e => e.Admitted w) w events := by
  induction events generalizing w with
  | nil => trivial
  | cons e events ih =>
    have hrest := fun e he => hpower e (List.mem_cons_of_mem _ he)
    cases e with
    | resume => exact ⟨trivial, ih hregister hrest⟩
    | restart => exact ⟨trivial, ih hregister hrest⟩
    | sample input isCharging =>
      obtain ⟨v, hv, hle, hlater⟩ := hregister
      refine ⟨⟨hpower _ List.mem_cons_self, v, hv, hle⟩, ih ?_ hrest⟩
      have hsampled : (SamplingEvent.observe vehicleId w (.sample input isCharging)).sampledKwh
          = v := by
        have hv' : input.meter.cumulativeKwh = some v := hv
        simp only [SamplingEvent.observe, Metered.sample, hv', Option.getD_some]
      rw [hsampled]
      exact hlater

theorem resumable_logEvent (vehicleId id : ℕ) (w : Metered VehicleAccounting) (e : SamplingEvent) :
    (e.logEvent startKwh startedAt).Resumable (sessionLog vehicleId id w) ↔ e.Resumable vehicleId id w := by
  cases e with
  | sample input isCharging => exact Iff.rfl
  | resume => exact Iff.rfl
  | restart => exact Iff.rfl

theorem ofSession_logEvent {w : Metered VehicleAccounting} {e : SamplingEvent} (he : e.Admitted w) :
    (e.logEvent startKwh startedAt).OfSession startKwh startedAt (sessionLog vehicleId id w) := by
  cases e with
  | sample input isCharging => exact he.2
  | resume => exact rfl
  | restart => exact rfl

end

/-- Half-hourly samples at 2 kW, with a register that follows. -/
def meteredSample (recordedAt : Instant) (cumulativeKwh : ℚ) : SamplingEvent :=
  .sample { meter :=
    { recordedAt := recordedAt, cumulativeKwh := some cumulativeKwh, powerW := some 2000 } } true

def openedSession : VehicleAccounting := (VehicleAccounting.processVehicle {} (homeCall 0 true)).1

def restartedSamples : List SamplingEvent :=
  [meteredSample 1800 11, .restart, meteredSample 3600 12]

end EnergyCore.Vehicles
