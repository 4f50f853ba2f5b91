import EnergyCore.Foundations.SlidingWindow
import EnergyCore.Foundations.StepRun
import EnergyCore.Charging.RampCommands

/-!
# The automatic start limit

A ledger beside the state machine records the decisions: when the charger was last told to stop, and when
it was told to charge again. In the guarded modes the hourly limit and the minimum off time hold along
every run in which charging resumes through the start path only, and not too soon after a stop that the
machine does not remember.

* `evaluate_startLedger` — one call either starts, or turns the charger on outside the start path, or
  leaves it as it is;
* `automaticStartLimit_run` — the limit and the off time along a run.
-/

namespace EnergyCore.Charging

open StepRun
open SlidingWindow

/-! ### The ledger -/

/-- The last decision other than `none`. -/
inductive Decided where
  | stopped (stoppedAt : Instant) (byFault : Bool)
  | charging
  deriving Repr, DecidableEq

/-- The last decision, and the times at which the charger was turned on. -/
structure StartLedger where
  last : Option Decided := none
  transitions : List Instant := []
  deriving Repr, DecidableEq

/-- The charger was told to stop, or has not been told anything. -/
def StartLedger.off (l : StartLedger) : Bool := decide (l.last ≠ some .charging)

/-- The time of the last stop, if the charger was not told to charge since. -/
def StartLedger.stoppedAt (l : StartLedger) : Option Instant :=
  match l.last with
  | some (.stopped stoppedAt _) => some stoppedAt
  | _ => none

/-- The decision lets the charger charge. -/
def turnsOn (d : ChargingDecision) : Bool :=
  decide (d.action = .setCurrent) && decide (0 < d.requestedCurrentA)

@[simp] theorem turnsOn_setDecision (currentA : ℚ) (mode : PolicyMode) (reason : String) :
    turnsOn (setDecision currentA mode reason) = decide (0 < currentA) := rfl

@[simp] theorem turnsOn_noneDecision (currentA : ℚ) (mode : PolicyMode) (reason : String) :
    turnsOn (noneDecision currentA mode reason) = false := by
  simp [turnsOn, noneDecision]

@[simp] theorem turnsOn_stopDecision (action : ChargingAction) (mode : PolicyMode)
    (reason : String) : turnsOn (stopDecision action mode reason) = false := by
  simp [turnsOn, stopDecision]

def StartLedger.record (l : StartLedger) (now : Instant) (d : ChargingDecision) : StartLedger :=
  match d.action with
  | .stop => { l with last := some (.stopped now false) }
  | .fault => { l with last := some (.stopped now true) }
  | .setCurrent =>
    { last := some .charging
      transitions := if l.off && turnsOn d then l.transitions ++ [now] else l.transitions }
  | .none => l
  | .pause => l

/-- The runtime, the ledger and the time of the last call. -/
structure ObservedState where
  runtime : SmartChargingRuntime := {}
  ledger : StartLedger := {}
  clock : Option Instant := none

def observe (s : ObservedState) (c : EvaluateCall) : ObservedState :=
  { runtime := (evaluateSmartCharging s.runtime c).1
    ledger := s.ledger.record c.now (evaluateSmartCharging s.runtime c).2
    clock := some c.now }

/-- A call of the run: the configuration is fixed, the mode is guarded, and time does not go back. -/
def GuardedCall (cfg : ChargingConfig) (s : ObservedState) (c : EvaluateCall) : Prop :=
  c.config = cfg ∧ bypassesGuardrails c.chargingMode c.overrideActive = false ∧
    ∀ t ∈ s.clock, t ≤ c.now

/-- A charger that is turned on has been off for the minimum off time. -/
def SpacedTransition (s : ObservedState) (c : EvaluateCall) : Prop :=
  s.ledger.off && turnsOn (evaluateSmartCharging s.runtime c).2 →
    ∀ stoppedAt ∈ s.ledger.stoppedAt, c.config.minimumOffTimeSeconds ≤ c.now - stoppedAt

/-! ### How one call can turn the charger on -/

/-- Every gate of the start path is open. -/
def startsNow (r : SmartChargingRuntime) (c : EvaluateCall) : Bool :=
  live r c && decide (0 < desiredA c) && onStartPath r && !rateLimited r c && !awaitsExport c &&
    !delaysStart r c

/-- A current is asked for outside the start path: on the ramp, or by the stop path, which keeps a
protected session running. -/
def resumesOutsideStart (r : SmartChargingRuntime) (c : EvaluateCall) : Bool :=
  live r c &&
    (if desiredA c ≤ 0 then
      (keepsImporting r c || reducesFirst r c) && decide (0 < reducedA r c)
    else !onStartPath r && !(rampSettled r c && c.isCharging))

theorem startAllowed_iff (r : SmartChargingRuntime) (cfg : ChargingConfig) (now : Instant) :
    startAllowed r cfg now = true ↔ (∀ t, r.lastStopAt = some t → cfg.minimumOffTimeSeconds ≤ now - t) ∧
        r.automaticStarts.length < cfg.maxAutomaticStartsPerHour := by
  unfold startAllowed
  cases r.lastStopAt with
  | none => simp
  | some t =>
    by_cases h : now - t < cfg.minimumOffTimeSeconds
    · simp [h, not_le.mpr h]
    · simp [h, not_lt.mp h]

/-- What a guarded call does to the automatic starts, and what it decides. -/
theorem evaluate_startLedger (r : SmartChargingRuntime) (c : EvaluateCall) (hg : fastCall c = false) :
    (startsNow r c = true ∧ (evaluateSmartCharging r c).1.automaticStarts
          = pruneStarts r.automaticStarts c.now ++ [c.now]) ∨ (startsNow r c = false ∧
        (evaluateSmartCharging r c).1.automaticStarts = pruneStarts r.automaticStarts c.now ∧
        (turnsOn (evaluateSmartCharging r c).2 = true → resumesOutsideStart r c = true)) := by
  have hstep := evaluateStep r c
  generalize evaluateSmartCharging r c = out at hstep ⊢
  cases hstep with
  | fault hf => exact .inr ⟨by simp [startsNow, live, hf], rfl, by simp⟩
  | pause hf hp => exact .inr ⟨by simp [startsNow, live, hp], rfl, by simp⟩
  | unplugged hf hp hv => exact .inr ⟨by simp [startsNow, live, hv], rfl, by simp⟩
  | cooldown hf hp hv hc => exact .inr ⟨by simp [startsNow, live, hc], rfl, by simp⟩
  | keepImporting hl hd hk =>
    refine .inr ⟨by simp [startsNow, not_lt.mpr hd], by simp, fun hon => ?_⟩
    rw [turnsOn_setDecision, decide_eq_true_eq] at hon
    simp [resumesOutsideStart, hl, hd, hk, hon]
  | reduceBeforeStop hl hd hk hr =>
    refine .inr ⟨by simp [startsNow, not_lt.mpr hd], by simp, fun hon => ?_⟩
    rw [turnsOn_setDecision, decide_eq_true_eq] at hon
    simp [resumesOutsideStart, hl, hd, hr, hon]
  | stopDelay hl hd hk hr hs => exact .inr ⟨by simp [startsNow, not_lt.mpr hd], by simp, by simp⟩
  | stop hl hd hk hr hs => exact .inr ⟨by simp [startsNow, not_lt.mpr hd], by simp, by simp⟩
  | rateLimited hl hd hp hr => exact .inr ⟨by simp [startsNow, hr], by simp, by simp⟩
  | waitingForExport hl hd hp hr he => exact .inr ⟨by simp [startsNow, he], by simp, by simp⟩
  | startDelay hl hd hp hr he hs => exact .inr ⟨by simp [startsNow, hs], by simp, by simp⟩
  | start hl hd hp hr he hs =>
    exact .inl ⟨by simp [startsNow, hl, hd, hp, hr, he, hs], by simp [hg]⟩
  | settled hl hd hp hs hc => exact .inr ⟨by simp [startsNow, hp], by simp, by simp⟩
  | reissue hl hd hp hs hc =>
    exact .inr ⟨by simp [startsNow, hp], by simp, fun _ => by simp [resumesOutsideStart, hl, not_le.mpr hd, hp, hc]⟩
  | rampMove hl hd hp hs =>
    exact .inr ⟨by simp [startsNow, hp], by simp, fun _ => by simp [resumesOutsideStart, hl, not_le.mpr hd, hp, hs]⟩

/-! ### Runs -/

/-- A call turns the charger on outside the start path. -/
def resumesUnguarded (s : ObservedState) (c : EvaluateCall) : Bool :=
  s.ledger.off && resumesOutsideStart s.runtime c

/-- A start comes within the minimum off time of a stop that `lastStopAt` does not show: a fault, an
offline charger or a manual pause. -/
def restartsTooSoon (s : ObservedState) (c : EvaluateCall) : Bool :=
  startsNow s.runtime c && s.ledger.stoppedAt.any fun stoppedAt =>
    decide (s.runtime.lastStopAt ≠ some stoppedAt) &&
      decide (c.now - stoppedAt < c.config.minimumOffTimeSeconds)

/-- The call turns the charger on by a guarded start, if at all. -/
def StartsGuarded (s : ObservedState) (c : EvaluateCall) : Prop :=
  resumesUnguarded s c = false ∧ restartsTooSoon s c = false

/-- A start of a guarded mode has passed the off time and the hourly limit. -/
theorem startAllowed_of_startsNow {r : SmartChargingRuntime} {c : EvaluateCall}
    (hg : fastCall c = false) (h : startsNow r c = true) :
    (∀ t, r.lastStopAt = some t → c.config.minimumOffTimeSeconds ≤ c.now - t) ∧
      (pruneStarts r.automaticStarts c.now).length < c.config.maxAutomaticStartsPerHour := by
  have hallowed : startAllowed (prunedRuntime r c) c.config c.now = true := by
    simp only [startsNow, rateLimited, hg, Bool.and_eq_true, Bool.not_false, Bool.true_and, Bool.not_not] at h
    exact h.1.1.2
  exact (startAllowed_iff _ _ _).mp hallowed

/-- **The off time, one call.** -/
theorem spacedTransition_step {cfg : ChargingConfig} {s : ObservedState} {c : EvaluateCall}
    (hg : GuardedCall cfg s c) (hc : StartsGuarded s c) : SpacedTransition s c := by
  intro hon stoppedAt hlast
  obtain ⟨hoff, hturns⟩ : s.ledger.off = true ∧
      turnsOn (evaluateSmartCharging s.runtime c).2 = true := by
    simpa only [Bool.and_eq_true] using hon
  rcases evaluate_startLedger s.runtime c hg.2.1 with ⟨hstart, -⟩ | ⟨-, -, houtside⟩
  · by_cases hremembered : s.runtime.lastStopAt = some stoppedAt
    · exact (startAllowed_of_startsNow hg.2.1 hstart).1 stoppedAt hremembered
    · have hsoon := hc.2
      rw [Option.mem_def] at hlast
      simp only [restartsTooSoon, hstart, hlast, Option.any_some, ne_eq, hremembered,
        not_false_eq_true, decide_true, Bool.true_and, decide_eq_false_iff_not] at hsoon
      exact not_lt.mp hsoon
  · have hresumes := hc.1
    rw [resumesUnguarded, hoff, houtside hturns] at hresumes
    exact absurd hresumes (by decide)

/-- The invariant of the limit: some log of starts is limited, covers the transitions, and is what the
machine remembers of the last hour. -/
def LogsStarts (cfg : ChargingConfig) (s : ObservedState) : Prop :=
  ∃ log, Limited 3600 cfg.maxAutomaticStartsPerHour log ∧ s.ledger.transitions.Sublist log ∧
    s.runtime.automaticStarts = keptAt 3600 s.clock log

theorem record_transitions (l : StartLedger) (now : Instant) (d : ChargingDecision) : (l.record now d).transitions
      = if l.off && turnsOn d then l.transitions ++ [now] else l.transitions := by
  obtain ⟨requested, applied, power, action, reason, mode, skip, state, limited⟩ := d
  cases action <;> simp [StartLedger.record, turnsOn]

/-- **The hourly limit, one call.** -/
theorem logsStarts_step {cfg : ChargingConfig} {s : ObservedState} {c : EvaluateCall}
    (hg : GuardedCall cfg s c) (hc : StartsGuarded s c) (h : LogsStarts cfg s) : LogsStarts cfg (observe s c) := by
  obtain ⟨log, hlimited, hsub, hkept⟩ := h
  have hpruned : pruneStarts s.runtime.automaticStarts c.now = recent (c.now - 3600) log := by
    rw [hkept]
    exact recent_keptAt hg.2.2 log
  have htransitions : (observe s c).ledger.transitions
      = if s.ledger.off && turnsOn (evaluateSmartCharging s.runtime c).2 then
          s.ledger.transitions ++ [c.now] else s.ledger.transitions :=
    record_transitions _ _ _
  rcases evaluate_startLedger s.runtime c hg.2.1 with ⟨hstart, hautos⟩ | ⟨-, hautos, houtside⟩
  · have hroom := (startAllowed_of_startsNow hg.2.1 hstart).2
    rw [hpruned, hg.1] at hroom
    refine ⟨log ++ [c.now], hlimited.append hroom, ?_, ?_⟩
    · rw [htransitions]
      split_ifs
      · exact hsub.append (List.Sublist.refl _)
      · exact hsub.trans (List.sublist_append_left _ _)
    · show (evaluateSmartCharging s.runtime c).1.automaticStarts = recent (c.now - 3600) (log ++ [c.now])
      have hself : recent (c.now - 3600) [c.now] = [c.now] := by simp [recent]
      rw [hautos, hpruned, recent_append, hself]
  · refine ⟨log, hlimited, ?_, ?_⟩
    · rw [htransitions, if_neg]
      · exact hsub
      · intro hon
        rw [Bool.and_eq_true] at hon
        have hresumes := hc.1
        rw [resumesUnguarded, hon.1, houtside hon.2] at hresumes
        exact absurd hresumes (by decide)
    · show (evaluateSmartCharging s.runtime c).1.automaticStarts = recent (c.now - 3600) log
      rw [hautos, hpruned]

theorem logsStarts_fresh (cfg : ChargingConfig) : LogsStarts cfg {} :=
  ⟨[], limited_nil _ _, List.Sublist.refl _, rfl⟩

/-- **The automatic start limit.** In a guarded run from a fresh runtime in which every call that turns
the charger on does so by a guarded start, every such call comes the minimum off time after the stop
before it, and no closed hour holds more of them than the configured number. -/
theorem automaticStartLimit_run (cfg : ChargingConfig) (calls : List EvaluateCall)
    (hguarded : AllSteps observe (GuardedCall cfg) {} calls) (hstarts : AllSteps observe StartsGuarded {} calls) :
    AllSteps observe SpacedTransition {} calls ∧
      Limited 3600 cfg.maxAutomaticStartsPerHour (run observe {} calls).ledger.transitions := by
  have hboth := hguarded.and hstarts
  refine ⟨hboth.mono fun s c h => spacedTransition_step h.1 h.2, ?_⟩
  obtain ⟨log, hlimited, hsub, -⟩ : LogsStarts cfg (run observe {} calls) :=
    hboth.preserves (fun s c h hc => logsStarts_step hc.1 hc.2 h) (logsStarts_fresh cfg)
  exact hlimited.of_sublist hsub

/-- Two starts, the second one 400 s after the stop between them. -/
def guardedCalls : List EvaluateCall :=
  let config : ChargingConfig :=
    { startDelaySeconds := 0, stopDelaySeconds := 0, minimumRunTimeSeconds := 0 }
  let callAt (now target : ℚ) (isCharging : Bool) : EvaluateCall :=
    { config := config, optimizerTargetA := target, isCharging := isCharging, now := now }
  [callAt 0 6 false, callAt 60 0 true, callAt 460 6 false]

theorem automaticStartLimit_run_guarded : AllSteps observe SpacedTransition {} guardedCalls ∧
      Limited 3600 4 (run observe {} guardedCalls).ledger.transitions :=
  automaticStartLimit_run
    { startDelaySeconds := 0, stopDelaySeconds := 0, minimumRunTimeSeconds := 0 } guardedCalls
    (by unfold GuardedCall; decide +kernel) (by unfold StartsGuarded; decide +kernel)

/-! ### A fault that is not counted -/

/-- A start, a fault 60 s later, and the recovery after another 60 s. -/
def faultRecoveryCalls : List EvaluateCall :=
  let config : ChargingConfig := { startDelaySeconds := 0, maxAutomaticStartsPerHour := 1 }
  [{ config := config, optimizerTargetA := 6, isCharging := false, now := 0 },
   { config := config, optimizerTargetA := 6, isCharging := true, faultCode := some "E1",
     now := 60 },
   { config := config, optimizerTargetA := 6, isCharging := false, now := 120 }]

/-- The recovery turns the charger on 60 s after the fault, against an off time of 300 s, and is the
second start of the hour, against a limit of one. -/
theorem fault_recovery_not_counted :
    (∀ c ∈ faultRecoveryCalls, c.config.ApiAdmits) ∧
      AllSteps observe (GuardedCall { startDelaySeconds := 0, maxAutomaticStartsPerHour := 1 }) {}
        faultRecoveryCalls ∧
      ¬ AllSteps observe SpacedTransition {} faultRecoveryCalls ∧
      ¬ Limited 3600 1 (run observe {} faultRecoveryCalls).ledger.transitions := by
  refine ⟨by decide +kernel, by unfold GuardedCall; decide +kernel, ?_, fun h => ?_⟩
  · unfold SpacedTransition
    decide +kernel
  · have hcount := h 0
    revert hcount
    decide +kernel

end EnergyCore.Charging
