import EnergyCore.Charging.CommandController
import EnergyCore.Charging.Ramp

/-!
# What a call with a target asks for

On a connected, charging vehicle a call with a positive target either stays quiet or issues one command:
a start, or a move on the ramp.

* `restsAtZero_step` — a machine that waits for a start remembers no current;
* `evaluate_quiet`, `evaluate_command` — the effect of a call without and with a command;
* `rampDistance_command_lt` — every command brings the machine closer to its target.
-/

namespace EnergyCore.Charging

/-! ### The machine rests at zero -/

/-- A machine that waits for a start, or sits out a cooldown, remembers no current. -/
structure RestsAtZero (r : SmartChargingRuntime) : Prop where
  nonneg : 0 ≤ r.requestedCurrentA
  start : r.state ∈ startStates → r.requestedCurrentA = 0
  cooldown : r.cooldownUntil ≠ none → r.requestedCurrentA = 0

theorem restsAtZero_fresh : RestsAtZero {} := ⟨le_rfl, fun _ => rfl, fun _ => rfl⟩

theorem RestsAtZero.eq_zero {r : SmartChargingRuntime} (h : RestsAtZero r)
    (hp : onStartPath r = true) : r.requestedCurrentA = 0 := by
  simp only [onStartPath, Bool.or_eq_true, decide_eq_true_eq] at hp
  rcases hp with hstate | hle
  · exact h.start hstate
  · exact le_antisymm hle h.nonneg

theorem pos_of_not_onStartPath {r : SmartChargingRuntime} (hp : onStartPath r = false) :
    r.state ∉ startStates ∧ 0 < r.requestedCurrentA := by
  simpa [onStartPath] using hp

theorem RestsAtZero.of_zero {r : SmartChargingRuntime} (h : r.requestedCurrentA = 0) :
    RestsAtZero r := ⟨h.ge, fun _ => h, fun _ => h⟩

theorem RestsAtZero.of_running {r : SmartChargingRuntime} (hnonneg : 0 ≤ r.requestedCurrentA)
    (hstate : r.state ∉ startStates) (hcool : r.cooldownUntil = none) : RestsAtZero r :=
  ⟨hnonneg, fun h => absurd h hstate, fun h => absurd hcool h⟩

theorem not_onStartPath {r : SmartChargingRuntime} (hstate : r.state ∉ startStates)
    (hpos : 0 < r.requestedCurrentA) : onStartPath r = false := by
  simp [onStartPath, hstate, hpos]

/-- Every call keeps it so, when the configured minimum and the increase step are not negative. -/
theorem restsAtZero_step {r : SmartChargingRuntime} {c : EvaluateCall}
    (hmin : 0 ≤ c.config.minCurrentA) (hup : 0 ≤ c.config.maxCurrentIncreasePerStepA)
    (h : RestsAtZero r) : RestsAtZero (evaluateSmartCharging r c).1 := by
  have hstep := evaluateStep r c
  have hreduced : 0 ≤ reducedA r c := le_applyRamp false hup h.nonneg hmin
  have hkept : 0 ≤ (readyRuntime r c).requestedCurrentA := by simpa using h.nonneg
  have hcool := readyRuntime_cooldownUntil r c
  have hreducing : SmartChargingState.reducing ∉ startStates := by decide
  have hstable : SmartChargingState.chargingStable ∉ startStates := by decide
  generalize evaluateSmartCharging r c = out at hstep ⊢
  cases hstep with
  | fault hf =>
    have hfault : SmartChargingState.fault ∉ startStates := by decide
    exact ⟨h.nonneg, fun hstate => absurd hstate hfault, h.cooldown⟩
  | pause hf hp => exact .of_zero rfl
  | unplugged hf hp hv => exact .of_zero rfl
  | cooldown hf hp hv hc => exact .of_zero rfl
  | keepImporting hl hd hk => exact .of_running hreduced hreducing hcool
  | reduceBeforeStop hl hd hk hr => exact .of_running hreduced hreducing hcool
  | stopDelay hl hd hk hr hs =>
    have hwaiting : SmartChargingState.waitingToStop ∉ startStates := by decide
    exact .of_running hkept hwaiting hcool
  | stop hl hd hk hr hs => exact .of_zero rfl
  | rateLimited hl hd hp hr => exact .of_zero rfl
  | waitingForExport hl hd hp hr he => exact .of_zero (by simpa using h.eq_zero hp)
  | startDelay hl hd hp hr he hs => exact .of_zero (by simpa using h.eq_zero hp)
  | start hl hd hp hr he hs =>
    refine .of_running (hmin.trans (le_max_left _ _)) ?_ hcool
    show (if fastCall c then SmartChargingState.chargingStable else .starting) ∉ startStates
    split_ifs <;> decide
  | settled hl hd hp hs hc => exact .of_running hkept hstable hcool
  | reissue hl hd hp hs hc => exact .of_running hkept hstable hcool
  | rampMove hl hd hp hs =>
    refine .of_running (le_applyRamp _ hup h.nonneg hd.le) ?_ hcool
    show (if rampedA r c < r.requestedCurrentA then SmartChargingState.reducing
      else .chargingStable) ∉ startStates
    split_ifs <;> decide

/-! ### The commands of a call with a target -/

/-- The current the call asks for, if it issues a command. -/
def commandA (r : SmartChargingRuntime) (c : EvaluateCall) : ℚ :=
  if onStartPath r then startCurrentA c else rampedA r c

/-- A live call with a target starts the charging with a positive current, or moves on the ramp. -/
def issuesCommand (r : SmartChargingRuntime) (c : EvaluateCall) : Bool :=
  live r c && decide (0 < desiredA c) &&
    (if onStartPath r then
      !rateLimited r c && !awaitsExport c && !delaysStart r c && decide (0 < startCurrentA c)
    else !rampSettled r c)

/-- A call on a connected, charging vehicle with a positive target. -/
structure TargetedCall (c : EvaluateCall) : Prop where
  noFault : faulted c = false
  vehicle : c.vehicleConnected = true
  charging : c.isCharging = true
  desired : 0 < desiredA c

/-- Without a command, a targeted call keeps the remembered current (a pause forgets it) and asks for
nothing, or for 0 A. -/
theorem evaluate_quiet {r : SmartChargingRuntime} {c : EvaluateCall} (ht : TargetedCall c)
    (hr : RestsAtZero r) (hmin : 0 ≤ c.config.minCurrentA) (hq : issuesCommand r c = false) :
    (evaluateSmartCharging r c).1.requestedCurrentA = (if pausedCall c then 0 else r.requestedCurrentA) ∧
      (pausedCall c = false → onStartPath (evaluateSmartCharging r c).1 = onStartPath r) ∧
      ((evaluateSmartCharging r c).2.toApply = false ∨ ((evaluateSmartCharging r c).2.toApply = true ∧
          (evaluateSmartCharging r c).2.requestedCurrentA = 0 ∧
          (pausedCall c = true ∨ c.config.minCurrentA = 0))) := by
  have hstep := evaluateStep r c
  have hlive : live r c = true → pausedCall c = false := by
    intro hl
    simp only [live, Bool.and_eq_true, Bool.not_eq_true'] at hl
    exact hl.1.1.2
  have hd := ht.desired
  generalize evaluateSmartCharging r c = out at hstep ⊢
  cases hstep with
  | fault hf => exact absurd (hf.symm.trans ht.noFault) (by decide)
  | pause hf hp => simp [hp, stopDecision]
  | unplugged hf hp hv => exact absurd (hv.symm.trans ht.vehicle) (by decide)
  | cooldown hf hp hv hc =>
    have h0 : r.requestedCurrentA = 0 := by
      refine hr.cooldown fun hnone => ?_
      simp [coolingDown, hnone] at hc
    simp [hp, h0, onStartPath]
  | keepImporting hl hd' hk => exact absurd hd (not_lt.mpr hd')
  | reduceBeforeStop hl hd' hk hr' => exact absurd hd (not_lt.mpr hd')
  | stopDelay hl hd' hk hr' hs => exact absurd hd (not_lt.mpr hd')
  | stop hl hd' hk hr' hs => exact absurd hd (not_lt.mpr hd')
  | rateLimited hl hd' hp hr' =>
    simp [hlive hl, hr.eq_zero hp, onStartPath]
  | waitingForExport hl hd' hp hr' he =>
    simp [hlive hl, hr.eq_zero hp, onStartPath]
  | startDelay hl hd' hp hr' he hs =>
    simp [hlive hl, hr.eq_zero hp, onStartPath]
  | start hl hd' hp hr' he hs =>
    have hle : startCurrentA c ≤ 0 := by
      simpa [issuesCommand, hl, hd, hp, hr', he, hs] using hq
    have hzero : startCurrentA c = 0 := le_antisymm hle (hmin.trans (le_max_left _ _))
    have hmin0 : c.config.minCurrentA = 0 := le_antisymm ((le_max_left _ _).trans hle) hmin
    simp [hlive hl, hr.eq_zero hp, onStartPath, hzero, setDecision, hmin0]
  | settled hl hd' hp hs hc =>
    refine ⟨by simp [hlive hl], fun _ => ?_, .inl rfl⟩
    rw [hp]
    exact not_onStartPath (show SmartChargingState.chargingStable ∉ startStates by decide)
      (by simpa using (pos_of_not_onStartPath hp).2)
  | reissue hl hd' hp hs hc => exact absurd (hc.symm.trans ht.charging) (by decide)
  | rampMove hl hd' hp hs => simp [issuesCommand, hl, hd, hp, hs] at hq

/-- With a command, a call remembers and asks for `commandA`, and is on its ramp afterwards. -/
theorem evaluate_command {r : SmartChargingRuntime} {c : EvaluateCall}
    (hup : 0 ≤ c.config.maxCurrentIncreasePerStepA) (hq : issuesCommand r c = true) :
    (evaluateSmartCharging r c).1.requestedCurrentA = commandA r c ∧
      onStartPath (evaluateSmartCharging r c).1 = false ∧ (evaluateSmartCharging r c).2.toApply = true ∧
      (evaluateSmartCharging r c).2.requestedCurrentA = commandA r c ∧ 0 < commandA r c := by
  have hstep := evaluateStep r c
  obtain ⟨hl, hd⟩ : live r c = true ∧ 0 < desiredA c := by
    simp only [issuesCommand, Bool.and_eq_true, decide_eq_true_eq] at hq
    exact hq.1
  have hready : faulted c = false ∧ pausedCall c = false ∧ c.vehicleConnected = true ∧
      coolingDown r c = false := by
    simpa [live, and_assoc] using hl
  generalize evaluateSmartCharging r c = out at hstep ⊢
  cases hstep with
  | fault hf => exact absurd (hf.symm.trans hready.1) (by decide)
  | pause hf hp => exact absurd (hp.symm.trans hready.2.1) (by decide)
  | unplugged hf hp hv => exact absurd (hv.symm.trans hready.2.2.1) (by decide)
  | cooldown hf hp hv hc => exact absurd (hc.symm.trans hready.2.2.2) (by decide)
  | keepImporting hl' hd' hk => exact absurd hd (not_lt.mpr hd')
  | reduceBeforeStop hl' hd' hk hr' => exact absurd hd (not_lt.mpr hd')
  | stopDelay hl' hd' hk hr' hs => exact absurd hd (not_lt.mpr hd')
  | stop hl' hd' hk hr' hs => exact absurd hd (not_lt.mpr hd')
  | rateLimited hl' hd' hp hr' => simp [issuesCommand, hp, hr'] at hq
  | waitingForExport hl' hd' hp hr' he => simp [issuesCommand, hp, he] at hq
  | startDelay hl' hd' hp hr' he hs => simp [issuesCommand, hp, hs] at hq
  | start hl' hd' hp hr' he hs =>
    have hpos : 0 < startCurrentA c := by
      simpa [issuesCommand, hl, hd, hp, hr', he, hs] using hq
    have hcommand : commandA r c = startCurrentA c := if_pos hp
    rw [hcommand]
    refine ⟨rfl, not_onStartPath ?_ hpos, rfl, rfl, hpos⟩
    show (if fastCall c then SmartChargingState.chargingStable else .starting) ∉ startStates
    split_ifs <;> decide
  | settled hl' hd' hp hs hc => simp [issuesCommand, hp, hs] at hq
  | reissue hl' hd' hp hs hc => simp [issuesCommand, hp, hs] at hq
  | rampMove hl' hd' hp hs =>
    have hpos : 0 < rampedA r c := by
      have hmin : 0 < min r.requestedCurrentA (desiredA c) := lt_min (pos_of_not_onStartPath hp).2 hd
      exact hmin.trans_le (le_applyRamp _ hup (min_le_left _ _) (min_le_right _ _))
    have hcommand : commandA r c = rampedA r c := if_neg (by simp [hp])
    rw [hcommand]
    refine ⟨rfl, not_onStartPath ?_ hpos, rfl, rfl, hpos⟩
    show (if rampedA r c < r.requestedCurrentA then SmartChargingState.reducing
      else .chargingStable) ∉ startStates
    split_ifs <;> decide

/-- A start asks for at most the target. -/
theorem startCurrentA_le_desiredA {c : EvaluateCall} (hd : 0 < desiredA c) : startCurrentA c ≤ desiredA c := by
  refine max_le (clampTarget_bounds hd).1 ?_
  split_ifs
  · exact le_rfl
  · exact applyRamp_le_target _ _ hd.le

/-- A move on the ramp brings the current at least 0.01 A closer to the target. -/
theorem rampedA_closer {r : SmartChargingRuntime} {c : EvaluateCall}
    (hup : 0 ≤ c.config.maxCurrentIncreasePerStepA)
    (hdown : 0 ≤ c.config.maxCurrentDecreasePerStepA) (hs : rampSettled r c = false) :
    |desiredA c - rampedA r c| + 1 / 100 ≤ |desiredA c - r.requestedCurrentA| := by
  have hmove : 1 / 100 ≤ |rampedA r c - r.requestedCurrentA| := by
    have h : ¬ |rampedA r c - r.requestedCurrentA| < 1 / 100 := by
      simpa only [rampSettled, decide_eq_false_iff_not] using hs
    exact not_lt.mp h
  have hgap : |desiredA c - rampedA r c| + |rampedA r c - r.requestedCurrentA|
      = |desiredA c - r.requestedCurrentA| := applyRamp_gap _ _ _ hup hdown
  linarith

/-- The number of hundredths of an ampere left to the target, and one more before the start. -/
def rampDistance (targetA : ℚ) (r : SmartChargingRuntime) : ℕ :=
  if onStartPath r then ⌈100 * targetA⌉₊ + 1 else ⌈100 * |targetA - r.requestedCurrentA|⌉₊

/-- **The variant.** A command lowers the distance to the target. -/
theorem rampDistance_command_lt {r : SmartChargingRuntime} {c : EvaluateCall}
    (hup : 0 ≤ c.config.maxCurrentIncreasePerStepA)
    (hdown : 0 ≤ c.config.maxCurrentDecreasePerStepA) (hq : issuesCommand r c = true) :
    rampDistance (desiredA c) (evaluateSmartCharging r c).1 < rampDistance (desiredA c) r := by
  obtain ⟨hreq, hramp, -, -, hpos⟩ := evaluate_command hup hq
  have hd : 0 < desiredA c := by
    simp only [issuesCommand, Bool.and_eq_true, decide_eq_true_eq] at hq
    exact hq.1.2
  rw [rampDistance, hramp, if_neg (by decide), hreq, rampDistance]
  cases hp : onStartPath r with
  | true =>
    have hcommand : commandA r c = startCurrentA c := if_pos hp
    rw [hcommand] at hpos ⊢
    rw [if_pos rfl, Nat.lt_succ_iff]
    apply Nat.ceil_mono
    rw [abs_of_nonneg (sub_nonneg.mpr (startCurrentA_le_desiredA hd))]
    linarith
  | false =>
    have hcommand : commandA r c = rampedA r c := if_neg (by simp [hp])
    have hs : rampSettled r c = false := by
      simp only [issuesCommand, hp, Bool.false_eq_true, if_false, Bool.and_eq_true, Bool.not_eq_true'] at hq
      exact hq.2
    rw [hcommand, if_neg (by decide), Nat.lt_iff_add_one_le]
    calc ⌈100 * |desiredA c - rampedA r c|⌉₊ + 1
        = ⌈100 * |desiredA c - rampedA r c| + 1⌉₊ := by
          rw [Nat.ceil_add_one (by positivity)]
      _ ≤ ⌈100 * |desiredA c - r.requestedCurrentA|⌉₊ := by
          apply Nat.ceil_mono
          have hcloser := rampedA_closer hup hdown hs
          linarith

end EnergyCore.Charging
