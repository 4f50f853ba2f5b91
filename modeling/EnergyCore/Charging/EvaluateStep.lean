import EnergyCore.Charging.SmartChargingStateMachine

/-!
# What one evaluation can do

`EvaluateStep r c` lists the fifteen outcomes of `evaluateSmartCharging r c`, each with the guards that
lead to it and with the exact runtime and decision it returns; `evaluateStep` proves the list complete.
Every invariant of the state machine is derived from this list by `cases`, and no later proof unfolds
the evaluation again.

The guards are the conditions of the source, named: `faulted`, `pausedCall`, `coolingDown`, `live`;
`keepsImporting`, `reducesFirst` and `delaysStop` on the stop path; `onStartPath`, `rateLimited`,
`awaitsExport` and `delaysStart` on the start path; `rampSettled` on the ramp.
-/

namespace EnergyCore.Charging

/-! ### The guards -/

/-- The fault path: a fault code, or a charger that is offline. -/
def faulted (c : EvaluateCall) : Bool := truthyText c.faultCode || !c.haloConnected

/-- The manual pause. -/
def pausedCall (c : EvaluateCall) : Bool := respectsManualPause c.chargingMode c.overrideActive

/-- The user-initiated modes: quick charge or an active override. -/
def fastCall (c : EvaluateCall) : Bool := immediateStart c.chargingMode c.overrideActive

/-- The call passes the fault, pause, vehicle and cooldown checks. -/
def live (r : SmartChargingRuntime) (c : EvaluateCall) : Bool :=
  !faulted c && !pausedCall c && c.vehicleConnected && !coolingDown r c

/-- The optimizer's target within the configured bounds, or zero. -/
def desiredA (c : EvaluateCall) : ℚ := clampTarget c.optimizerTargetA c.config

/-- The runtime with the starts of the last hour only. -/
def prunedRuntime (r : SmartChargingRuntime) (c : EvaluateCall) : SmartChargingRuntime :=
  { r with automaticStarts := pruneStarts r.automaticStarts c.now }

/-- The runtime a live call hands to the stop path, the start path or the ramp. -/
def readyRuntime (r : SmartChargingRuntime) (c : EvaluateCall) : SmartChargingRuntime :=
  (temporaryImportAllowed { prunedRuntime r c with cooldownUntil := none } c.config
    c.slowSignals.gridImportW c.now).1

/-- `temporary_import_ok` of a live call. -/
def importOk (r : SmartChargingRuntime) (c : EvaluateCall) : Bool :=
  (temporaryImportAllowed { prunedRuntime r c with cooldownUntil := none } c.config
    c.slowSignals.gridImportW c.now).2

/-- The minimum run period protects the session from a stop. -/
def runProtected (r : SmartChargingRuntime) (c : EvaluateCall) : Bool :=
  !fastCall c && (inMinimumRunPeriod r c.config c.now && !fastCall c)

/-- The current one step closer to the configured minimum. -/
def reducedA (r : SmartChargingRuntime) (c : EvaluateCall) : ℚ :=
  applyRamp r.requestedCurrentA c.config.minCurrentA c.config false

/-- The stop path keeps charging on a temporary import. -/
def keepsImporting (r : SmartChargingRuntime) (c : EvaluateCall) : Bool :=
  (runProtected r c && (importOk r c || decide (c.slowSignals.gridImportW ≤ c.config.gridDeadbandW)))
    && decide (c.config.minCurrentA ≤ reducedA r c)

/-- The stop path reduces the current before it stops. -/
def reducesFirst (r : SmartChargingRuntime) (c : EvaluateCall) : Bool :=
  runProtected r c && decide (c.config.minCurrentA < r.requestedCurrentA)

/-- The stop delay is still running and there is something to stop. -/
def delaysStop (r : SmartChargingRuntime) (c : EvaluateCall) : Bool :=
  decide (c.now - r.stopConditionSince.getD c.now <
    if fastCall c then 0 else c.config.stopDelaySeconds) && c.isCharging

/-- A positive target goes through the start path. -/
def onStartPath (r : SmartChargingRuntime) : Bool :=
  decide (r.state ∈ startStates) || decide (r.requestedCurrentA ≤ 0)

/-- The minimum off time or the hourly limit holds the start back. -/
def rateLimited (r : SmartChargingRuntime) (c : EvaluateCall) : Bool :=
  !fastCall c && !startAllowed (prunedRuntime r c) c.config c.now

/-- A solar mode waits for export. -/
def awaitsExport (c : EvaluateCall) : Bool :=
  decide (normalizedMode c.chargingMode ∈ solarModes) &&
    decide (max 0 (c.slowSignals.gridExportW - c.slowSignals.batteryDischargePowerW)
      < c.config.solarStartThresholdW)

def isUrgent (c : EvaluateCall) : Bool := isUrgentReason c.optimizerReason

/-- The start delay is still running. -/
def delaysStart (r : SmartChargingRuntime) (c : EvaluateCall) : Bool :=
  (usesStartDelay c.chargingMode c.overrideActive && !isUrgent c) &&
    decide (c.now - r.startConditionSince.getD c.now < c.config.startDelaySeconds)

/-- The current a start asks for. -/
def startCurrentA (c : EvaluateCall) : ℚ :=
  max c.config.minCurrentA
    (if fastCall c || isUrgent c then desiredA c
     else applyRamp 0 (desiredA c) c.config (isUrgent c))

/-- The remembered current one ramp step closer to the target. -/
def rampedA (r : SmartChargingRuntime) (c : EvaluateCall) : ℚ :=
  applyRamp r.requestedCurrentA (desiredA c) c.config (isUrgent c)

/-- The ramp has nothing left to change. -/
def rampSettled (r : SmartChargingRuntime) (c : EvaluateCall) : Bool :=
  decide (|rampedA r c - r.requestedCurrentA| < 1 / 100)

/-! ### The runtime of a live call -/

section ReadyRuntime

variable (r : SmartChargingRuntime) (c : EvaluateCall)

theorem readyRuntime_eq : ∃ since, readyRuntime r c =
    { prunedRuntime r c with cooldownUntil := none, temporaryImportSince := since } := by
  unfold readyRuntime temporaryImportAllowed
  split
  · exact ⟨_, rfl⟩
  · exact ⟨none, rfl⟩

@[simp] theorem readyRuntime_state : (readyRuntime r c).state = r.state := by
  obtain ⟨_, h⟩ := readyRuntime_eq r c; rw [h]; rfl

@[simp] theorem readyRuntime_requestedCurrentA : (readyRuntime r c).requestedCurrentA = r.requestedCurrentA := by
  obtain ⟨_, h⟩ := readyRuntime_eq r c; rw [h]; rfl

@[simp] theorem readyRuntime_startConditionSince : (readyRuntime r c).startConditionSince = r.startConditionSince := by
  obtain ⟨_, h⟩ := readyRuntime_eq r c; rw [h]; rfl

@[simp] theorem readyRuntime_stopConditionSince : (readyRuntime r c).stopConditionSince = r.stopConditionSince := by
  obtain ⟨_, h⟩ := readyRuntime_eq r c; rw [h]; rfl

@[simp] theorem readyRuntime_lastStartAt : (readyRuntime r c).lastStartAt = r.lastStartAt := by
  obtain ⟨_, h⟩ := readyRuntime_eq r c; rw [h]; rfl

@[simp] theorem readyRuntime_lastStopAt : (readyRuntime r c).lastStopAt = r.lastStopAt := by
  obtain ⟨_, h⟩ := readyRuntime_eq r c; rw [h]; rfl

@[simp] theorem readyRuntime_automaticStarts :
    (readyRuntime r c).automaticStarts = pruneStarts r.automaticStarts c.now := by
  obtain ⟨_, h⟩ := readyRuntime_eq r c; rw [h]; rfl

@[simp] theorem readyRuntime_cooldownUntil : (readyRuntime r c).cooldownUntil = none := by
  obtain ⟨_, h⟩ := readyRuntime_eq r c; rw [h]

theorem startAllowed_readyRuntime : startAllowed (readyRuntime r c) c.config c.now
      = startAllowed (prunedRuntime r c) c.config c.now := by
  obtain ⟨_, h⟩ := readyRuntime_eq r c; rw [h]; rfl

end ReadyRuntime

/-! ### The outcomes -/

/-- The outcomes of one evaluation, with their guards. -/
inductive EvaluateStep (r : SmartChargingRuntime) (c : EvaluateCall) :
    SmartChargingRuntime × ChargingDecision → Prop
  | fault (hf : faulted c = true) :
      EvaluateStep r c
        ({ prunedRuntime r c with state := .fault },
          stopDecision .fault (decisionPolicyMode c.chargingMode c.overrideActive)
            (if truthyText c.faultCode then c.faultCode.getD "" else "charger_offline"))
  | pause (hf : faulted c = false) (hp : pausedCall c = true) :
      EvaluateStep r c
        ({ prunedRuntime r c with state := .paused, requestedCurrentA := 0, targetCurrentA := 0 },
          stopDecision .stop (decisionPolicyMode c.chargingMode c.overrideActive) "user_paused")
  | unplugged (hf : faulted c = false) (hp : pausedCall c = false)
      (hv : c.vehicleConnected = false) :
      EvaluateStep r c
        ({ resetTimers (prunedRuntime r c) with
            state := .waitingToStart, requestedCurrentA := 0, targetCurrentA := 0 },
          noneDecision 0 (decisionPolicyMode c.chargingMode c.overrideActive)
            "no_vehicle_connected")
  | cooldown (hf : faulted c = false) (hp : pausedCall c = false)
      (hv : c.vehicleConnected = true) (hc : coolingDown r c = true) :
      EvaluateStep r c
        ({ prunedRuntime r c with state := .cooldown, requestedCurrentA := 0, targetCurrentA := 0 },
          noneDecision 0 (decisionPolicyMode c.chargingMode c.overrideActive) "cooldown")
  | keepImporting (hl : live r c = true) (hd : desiredA c ≤ 0) (hk : keepsImporting r c = true) :
      EvaluateStep r c
        ({ readyRuntime r c with
            startConditionSince := none, targetCurrentA := 0, state := .reducing
            requestedCurrentA := reducedA r c, lastRequestedChangeAt := some c.now },
          setDecision (reducedA r c) (decisionPolicyMode c.chargingMode c.overrideActive)
            "temporary_grid_import")
  | reduceBeforeStop (hl : live r c = true) (hd : desiredA c ≤ 0)
      (hk : keepsImporting r c = false) (hr : reducesFirst r c = true) :
      EvaluateStep r c
        ({ readyRuntime r c with
            startConditionSince := none, targetCurrentA := 0, state := .reducing
            requestedCurrentA := reducedA r c, lastRequestedChangeAt := some c.now },
          setDecision (reducedA r c) (decisionPolicyMode c.chargingMode c.overrideActive)
            "reduce_before_stop")
  | stopDelay (hl : live r c = true) (hd : desiredA c ≤ 0) (hk : keepsImporting r c = false)
      (hr : reducesFirst r c = false) (hs : delaysStop r c = true) :
      EvaluateStep r c
        ({ readyRuntime r c with
            startConditionSince := none, targetCurrentA := 0, state := .waitingToStop
            stopConditionSince := some (r.stopConditionSince.getD c.now) },
          noneDecision r.requestedCurrentA (decisionPolicyMode c.chargingMode c.overrideActive)
            "stop_delay")
  | stop (hl : live r c = true) (hd : desiredA c ≤ 0) (hk : keepsImporting r c = false)
      (hr : reducesFirst r c = false) (hs : delaysStop r c = false) :
      EvaluateStep r c
        ({ readyRuntime r c with
            startConditionSince := none, targetCurrentA := 0, state := .stopping
            requestedCurrentA := 0, lastStopAt := some c.now
            cooldownUntil :=
              if fastCall c then none else some (c.now + c.config.minimumOffTimeSeconds)
            stopConditionSince := none },
          stopDecision .stop (decisionPolicyMode c.chargingMode c.overrideActive)
            c.optimizerReason)
  | rateLimited (hl : live r c = true) (hd : 0 < desiredA c) (hp : onStartPath r = true)
      (hr : rateLimited r c = true) :
      EvaluateStep r c
        ({ readyRuntime r c with
            state := .waitingToStart, requestedCurrentA := 0, targetCurrentA := desiredA c },
          noneDecision 0 (decisionPolicyMode c.chargingMode c.overrideActive)
            "start_rate_limited")
  | waitingForExport (hl : live r c = true) (hd : 0 < desiredA c) (hp : onStartPath r = true)
      (hr : rateLimited r c = false) (he : awaitsExport c = true) :
      EvaluateStep r c
        ({ readyRuntime r c with startConditionSince := none, state := .waitingToStart },
          noneDecision 0 (decisionPolicyMode c.chargingMode c.overrideActive)
            "waiting_for_export")
  | startDelay (hl : live r c = true) (hd : 0 < desiredA c) (hp : onStartPath r = true)
      (hr : rateLimited r c = false) (he : awaitsExport c = false)
      (hs : delaysStart r c = true) :
      EvaluateStep r c
        ({ readyRuntime r c with
            startConditionSince := some (r.startConditionSince.getD c.now)
            state := .waitingToStart },
          noneDecision 0 (decisionPolicyMode c.chargingMode c.overrideActive) "start_delay")
  | start (hl : live r c = true) (hd : 0 < desiredA c) (hp : onStartPath r = true)
      (hr : rateLimited r c = false) (he : awaitsExport c = false)
      (hs : delaysStart r c = false) :
      EvaluateStep r c
        ({ readyRuntime r c with
            state := if fastCall c then .chargingStable else .starting
            requestedCurrentA := startCurrentA c, targetCurrentA := desiredA c
            lastRequestedChangeAt := some c.now, lastStartAt := some c.now
            automaticStarts :=
              if fastCall c then pruneStarts r.automaticStarts c.now
              else pruneStarts r.automaticStarts c.now ++ [c.now]
            startConditionSince := none },
          setDecision (startCurrentA c) (decisionPolicyMode c.chargingMode c.overrideActive)
            c.optimizerReason)
  | settled (hl : live r c = true) (hd : 0 < desiredA c) (hp : onStartPath r = false)
      (hs : rampSettled r c = true) (hc : c.isCharging = true) :
      EvaluateStep r c
        ({ readyRuntime r c with
            stopConditionSince := none, state := .chargingStable, targetCurrentA := desiredA c },
          noneDecision r.requestedCurrentA (decisionPolicyMode c.chargingMode c.overrideActive)
            c.optimizerReason)
  | reissue (hl : live r c = true) (hd : 0 < desiredA c) (hp : onStartPath r = false)
      (hs : rampSettled r c = true) (hc : c.isCharging = false) :
      EvaluateStep r c
        ({ readyRuntime r c with
            stopConditionSince := none, state := .chargingStable, targetCurrentA := desiredA c },
          setDecision r.requestedCurrentA (decisionPolicyMode c.chargingMode c.overrideActive)
            c.optimizerReason)
  | rampMove (hl : live r c = true) (hd : 0 < desiredA c) (hp : onStartPath r = false)
      (hs : rampSettled r c = false) :
      EvaluateStep r c
        ({ readyRuntime r c with
            stopConditionSince := none
            state := if rampedA r c < r.requestedCurrentA then .reducing else .chargingStable
            requestedCurrentA := rampedA r c, targetCurrentA := desiredA c
            lastRequestedChangeAt := some c.now },
          setDecision (rampedA r c) (decisionPolicyMode c.chargingMode c.overrideActive)
            c.optimizerReason)

/-! ### The list is complete -/

/-- The stop path ends in one of its four outcomes. -/
theorem evaluateStep_stopPath (r : SmartChargingRuntime) (c : EvaluateCall)
    (hl : live r c = true) (hd : desiredA c ≤ 0) : EvaluateStep r c (handleStopPath (readyRuntime r c) c.config
        (decisionPolicyMode c.chargingMode c.overrideActive) c.optimizerReason
        c.slowSignals.gridImportW (inMinimumRunPeriod r c.config c.now && !fastCall c)
        (importOk r c) c.isCharging (fastCall c) c.now) := by
  have hreduced : applyRamp r.requestedCurrentA c.config.minCurrentA c.config false = reducedA r c := rfl
  simp only [handleStopPath, readyRuntime_requestedCurrentA, hreduced]
  by_cases hk : keepsImporting r c = true
  · rw [if_pos (by simpa [keepsImporting, runProtected] using hk)]
    exact .keepImporting hl hd hk
  · rw [if_neg (by simpa [keepsImporting, runProtected] using hk)]
    rw [Bool.not_eq_true] at hk
    by_cases hr : reducesFirst r c = true
    · rw [if_pos (by simpa [reducesFirst, runProtected] using hr)]
      exact .reduceBeforeStop hl hd hk hr
    · rw [if_neg (by simpa [reducesFirst, runProtected] using hr)]
      rw [Bool.not_eq_true] at hr
      by_cases hs : delaysStop r c = true
      · rw [if_pos (by simpa [delaysStop] using hs)]
        simpa using EvaluateStep.stopDelay hl hd hk hr hs
      · rw [if_neg (by simpa [delaysStop] using hs)]
        rw [Bool.not_eq_true] at hs
        simpa using EvaluateStep.stop hl hd hk hr hs

/-- The start path ends in one of its four outcomes. -/
theorem evaluateStep_startPath (r : SmartChargingRuntime) (c : EvaluateCall)
    (hl : live r c = true) (hd : 0 < desiredA c) (hp : onStartPath r = true) : EvaluateStep r c
      (handleStartPath (readyRuntime r c) c.config (normalizedMode c.chargingMode)
        (decisionPolicyMode c.chargingMode c.overrideActive) (desiredA c) c.optimizerReason
        (max 0 (c.slowSignals.gridExportW - c.slowSignals.batteryDischargePowerW)) c.overrideActive c.now) := by
  have hfast : immediateStart (some (normalizedMode c.chargingMode)) c.overrideActive
      = fastCall c := immediateStart_normalized _ _
  have hdelay : usesStartDelay (some (normalizedMode c.chargingMode)) c.overrideActive
      = usesStartDelay c.chargingMode c.overrideActive := rfl
  simp only [handleStartPath, bypassesGuardrails_eq, hfast, hdelay, startAllowed_readyRuntime,
    readyRuntime_startConditionSince, readyRuntime_automaticStarts, if_neg (not_le.mpr hd)]
  by_cases hr : rateLimited r c = true
  · rw [if_pos (by simpa [rateLimited] using hr)]
    simpa using EvaluateStep.rateLimited hl hd hp hr
  · rw [if_neg (by simpa [rateLimited] using hr)]
    rw [Bool.not_eq_true] at hr
    by_cases he : awaitsExport c = true
    · rw [if_pos (by simpa [awaitsExport] using he)]
      simpa using EvaluateStep.waitingForExport hl hd hp hr he
    · rw [if_neg (by simpa [awaitsExport] using he)]
      rw [Bool.not_eq_true] at he
      by_cases hs : delaysStart r c = true
      · rw [if_pos (by simpa [delaysStart, isUrgent] using hs)]
        simpa using EvaluateStep.startDelay hl hd hp hr he hs
      · rw [if_neg (by simpa [delaysStart, isUrgent] using hs)]
        rw [Bool.not_eq_true] at hs
        have h := EvaluateStep.start hl hd hp hr he hs
        simpa only [startCurrentA, isUrgent, Bool.or_eq_true] using h

/-- The ramp ends in one of its three outcomes. -/
theorem evaluateStep_ramp (r : SmartChargingRuntime) (c : EvaluateCall)
    (hl : live r c = true) (hd : 0 < desiredA c) (hp : onStartPath r = false) : EvaluateStep r c
      (handleRamp (readyRuntime r c) c.config
        (decisionPolicyMode c.chargingMode c.overrideActive) (desiredA c) c.optimizerReason c.isCharging c.now) := by
  have hramped : applyRamp r.requestedCurrentA (desiredA c) c.config
      (isUrgentReason c.optimizerReason) = rampedA r c := rfl
  simp only [handleRamp, readyRuntime_requestedCurrentA, hramped]
  by_cases hs : rampSettled r c = true
  · rw [if_pos (by simpa [rampSettled] using hs)]
    cases hc : c.isCharging with
    | false => simpa [hc] using EvaluateStep.reissue hl hd hp hs hc
    | true => simpa [hc] using EvaluateStep.settled hl hd hp hs hc
  · rw [if_neg (by simpa [rampSettled] using hs)]
    rw [Bool.not_eq_true] at hs
    exact .rampMove hl hd hp hs

/-- A live call is handed to its path with the ready runtime. -/
theorem evaluateStep_ready (r : SmartChargingRuntime) (c : EvaluateCall)
    (hl : live r c = true) : EvaluateStep r c (evaluateReady (prunedRuntime r c) c) := by
  have hready : (temporaryImportAllowed { prunedRuntime r c with cooldownUntil := none } c.config
      c.slowSignals.gridImportW c.now) = (readyRuntime r c, importOk r c) := rfl
  have hrun : inMinimumRunPeriod { prunedRuntime r c with cooldownUntil := none } c.config c.now
      = inMinimumRunPeriod r c.config c.now := rfl
  have hdesired : clampTarget c.optimizerTargetA c.config = desiredA c := rfl
  have hfast : immediateStart c.chargingMode c.overrideActive = fastCall c := rfl
  simp only [evaluateReady, hready, hrun, hdesired, hfast]
  by_cases hd : desiredA c ≤ 0
  · rw [if_pos hd]
    exact evaluateStep_stopPath r c hl hd
  · rw [if_neg hd, readyRuntime_state, readyRuntime_requestedCurrentA]
    have hd : 0 < desiredA c := not_le.mp hd
    by_cases hp : onStartPath r = true
    · have h := evaluateStep_startPath r c hl hd hp
      by_cases hstate : r.state ∈ startStates
      · rw [if_pos hstate]
        exact h
      · have hzero : r.requestedCurrentA ≤ 0 := by simpa [onStartPath, hstate] using hp
        rw [if_neg hstate, if_pos ⟨hzero, hd⟩]
        exact h
    · rw [Bool.not_eq_true] at hp
      have hnot : r.state ∉ startStates ∧ 0 < r.requestedCurrentA := by
        simpa [onStartPath] using hp
      rw [if_neg hnot.1, if_neg (fun h => absurd hnot.2 (not_lt.mpr h.1))]
      exact evaluateStep_ramp r c hl hd hp

/-- **Completeness.** Every evaluation ends in one of the listed outcomes. -/
theorem evaluateStep (r : SmartChargingRuntime) (c : EvaluateCall) : EvaluateStep r c (evaluateSmartCharging r c) := by
  have hcool : coolingDown { r with automaticStarts := pruneStarts r.automaticStarts c.now } c
      = coolingDown r c := rfl
  simp only [evaluateSmartCharging, hcool]
  cases hf : faulted c with
  | true =>
    rw [if_pos (by simpa [faulted] using hf)]
    exact .fault hf
  | false =>
    rw [if_neg (by simpa [faulted] using hf)]
    cases hp : pausedCall c with
    | true =>
      rw [if_pos (by simpa [pausedCall] using hp)]
      exact .pause hf hp
    | false =>
      rw [if_neg (by simpa [pausedCall] using hp)]
      cases hv : c.vehicleConnected with
      | false => exact .unplugged hf hp hv
      | true =>
        cases hc : coolingDown r c with
        | true => exact .cooldown hf hp hv hc
        | false => exact evaluateStep_ready r c (by simp [live, hf, hp, hv, hc])

end EnergyCore.Charging
