import EnergyCore.Accounting.IntervalSampling
import EnergyCore.Accounting.SessionTotals
import EnergyCore.Foundations.OpenRows
import EnergyCore.Foundations.StepRun
import Mathlib.Data.List.Sort

/-!
# EV charging sessions

`EVSessionService` and `EVSessionSampler` over the session table, the interval table and the in-memory state
of every charger: a session starts when a vehicle connects, records an interval per sample, is picked up
again after a restart and is completed when the vehicle disconnects.
-/

namespace EnergyCore.Accounting

open OpenRows StepRun

/-! ### The tables -/

inductive SessionStatus where
  | active
  | completed
  deriving Repr, DecidableEq

/-- A row of `ev_charging_sessions`. -/
structure EvChargingSession where
  id : ℕ
  chargerId : ℕ
  siteId : ℕ
  startedAt : Instant
  endedAt : Option Instant := none
  status : SessionStatus := .active
  meterStartKwh : Option ℚ
  meterStopKwh : Option ℚ := none
  totals : Option SessionTotals := none
  deriving Repr, DecidableEq

def evSessionTable : Schema EvChargingSession ℕ Instant where
  key := EvChargingSession.id
  owner := EvChargingSession.chargerId
  isOpen := fun r => decide (r.status = .active)
  openedAt := EvChargingSession.startedAt

/-- The in-memory state of a charger. -/
structure ChargerSessionState extends SampleAnchors where
  lastVehicleConnected : Option Bool := none
  deriving Repr, DecidableEq

/-- The service with its database. -/
structure EvAccounting where
  runtime : ℕ → ChargerSessionState := fun _ => {}
  sessions : List EvChargingSession := []
  intervals : List ChargingInterval := []

namespace EvAccounting

def getActiveForCharger (s : EvAccounting) (chargerId : ℕ) : Option EvChargingSession :=
  evSessionTable.openRow s.sessions chargerId

def listActive (s : EvAccounting) : List EvChargingSession :=
  s.sessions.filter fun r => decide (r.status = .active)

/-- The intervals of a session in the order of their insertion. -/
def intervalsOf (s : EvAccounting) (sessionId : ℕ) : List ChargingInterval :=
  s.intervals.filter fun i => decide (i.sessionId = sessionId)

/-- `EvChargingIntervalRepository.list_for_session`: ordered by start time. -/
def listForSession (s : EvAccounting) (sessionId : ℕ) : List ChargingInterval :=
  (s.intervalsOf sessionId).insertionSort fun a b => a.startTime ≤ b.startTime

/-! ### Start and stop -/

/-- `_complete_session`. -/
def completeSession (s : EvAccounting) (active : EvChargingSession) (meter : MeterSnapshot) : EvAccounting :=
  let measured := sessionEnergyFromMeter active.meterStartKwh meter.cumulativeKwh
  let totals := sessionTotalsFromIntervals (s.listForSession active.id) measured.1 measured.2
  { s with
    sessions := evSessionTable.updateRow s.sessions active.id fun r =>
      { r with
        status := .completed
        endedAt := some meter.recordedAt
        meterStopKwh := meter.cumulativeKwh
        totals := some totals }
    runtime := Function.update s.runtime active.chargerId
      { s.runtime active.chargerId with
        lastMeterKwh := meter.cumulativeKwh
        lastSampleAt := some meter.recordedAt } }

def setConnected (s : EvAccounting) (chargerId : ℕ) (connected : Bool) : EvAccounting :=
  { s with
    runtime := Function.update s.runtime chargerId
      { s.runtime chargerId with lastVehicleConnected := some connected } }

/-- `process_charger`: the state after the call, and the session that started or stopped. -/
def processCharger (s : EvAccounting) (chargerId siteId : ℕ) (meter : MeterSnapshot) : EvAccounting × Option ℕ :=
  let runtime := s.runtime chargerId
  let wasConnected := runtime.lastVehicleConnected.getD false
  let isConnected := meter.vehicleConnected
  match s.getActiveForCharger chargerId with
  | none =>
    if isConnected ∧ ¬ wasConnected then
      let record : EvChargingSession :=
        { id := s.sessions.length
          chargerId := chargerId
          siteId := siteId
          startedAt := meter.recordedAt
          meterStartKwh := meter.cumulativeKwh }
      ({ s with
          sessions := s.sessions ++ [record]
          runtime := Function.update s.runtime chargerId
            { lastMeterKwh := meter.cumulativeKwh
              lastSampleAt := some meter.recordedAt
              lastVehicleConnected := some isConnected } }, some record.id)
    else (s.setConnected chargerId isConnected, none)
  | some active =>
    if ¬ isConnected ∧ wasConnected then
      ((s.completeSession active meter).setConnected chargerId isConnected, some active.id)
    else (s.setConnected chargerId isConnected, none)

/-! ### Sampling -/

/-- `sample_active_session`: the interval, the running totals and the anchors. -/
def sampleActiveSession (s : EvAccounting) (chargerId : ℕ) (input : SampleInput) : EvAccounting :=
  match s.getActiveForCharger chargerId with
  | none => s
  | some active =>
    let runtime := s.runtime chargerId
    let outcome := takeSample input active.id active.startedAt runtime.toSampleAnchors
    let sampled : EvAccounting :=
      { s with
        intervals := s.intervals ++ outcome.intervals
        runtime := Function.update s.runtime chargerId
          { runtime with
            toSampleAnchors := outcome.anchors runtime.toSampleAnchors input.meter } }
    match outcome with
    | .recorded _ =>
      let running :=
        sessionTotalsFromIntervals (sampled.listForSession active.id) none "ESTIMATED"
      { sampled with
        sessions := evSessionTable.updateRow s.sessions active.id fun r =>
          { r with totals := some running } }
    | _ => sampled

/-! ### Restarts -/

/-- The end of the last interval, or the start of a session without intervals. -/
def resumeAnchor (s : EvAccounting) (record : EvChargingSession) : Instant :=
  ((s.listForSession record.id).map (·.endTime)).max?.getD record.startedAt

def resumedState (s : EvAccounting) (record : EvChargingSession) : ChargerSessionState where
  lastVehicleConnected := some true
  lastMeterKwh := none
  lastSampleAt := some (s.resumeAnchor record)

/-- `resume_active_sessions`: the state after the call, and the number of sessions. -/
def resumeActiveSessions (s : EvAccounting) : EvAccounting × ℕ :=
  ({ s with
      runtime := s.listActive.foldl (fun runtime record =>
        Function.update runtime record.chargerId (s.resumedState record)) s.runtime },
    s.listActive.length)

/-- A new process starts with an empty service and resumes. -/
def restart (s : EvAccounting) : EvAccounting :=
  (resumeActiveSessions { s with runtime := fun _ => {} }).1

end EvAccounting

/-! ### Runs -/

/-- The calls that a collector makes, in any order. -/
inductive EvEvent where
  | process (chargerId siteId : ℕ) (meter : MeterSnapshot)
  | sample (chargerId : ℕ) (input : SampleInput)
  | resume
  | restart

namespace EvEvent

/-- The charger and the time of the meter reading that a call is given. -/
def reading : EvEvent → Option (ℕ × MeterSnapshot)
  | process chargerId _ meter => some (chargerId, meter)
  | sample chargerId input => some (chargerId, input.meter)
  | resume => none
  | restart => none

def apply (s : EvAccounting) : EvEvent → EvAccounting
  | process chargerId siteId meter => (s.processCharger chargerId siteId meter).1
  | sample chargerId input => s.sampleActiveSession chargerId input
  | resume => s.resumeActiveSessions.1
  | restart => s.restart

end EvEvent

end EnergyCore.Accounting
