import EnergyCore.Charging.AutomaticStartLimit

/-!
# Targets of zero

What the stop path does to a charger that asks for little, or for nothing.

* `neverRaises_iff` — a target of zero raises the current exactly when the stop path, which keeps a
  protected session running, reaches the minimum current from below (`Resumes`), and for a remembered
  current below zero whenever the call is not just delayed;
* `offTimeRespected_run` — the off time counts from the last call with a charging charger along every run
  in which no charger that is idle already is stopped again and the off time is not lowered.
-/

namespace EnergyCore.Charging

open StepRun

/-! ### A target of zero and the current -/

/-- The decision asks for no more than the remembered current; from zero it asks for nothing. -/
def NeverRaises (r : SmartChargingRuntime) (c : EvaluateCall) : Prop :=
  (evaluateSmartCharging r c).2.requestedCurrentA ≤ r.requestedCurrentA ∧
    (r.requestedCurrentA = 0 → turnsOn (evaluateSmartCharging r c).2 = false)

instance (r : SmartChargingRuntime) (c : EvaluateCall) : Decidable (NeverRaises r c) := by
  unfold NeverRaises; infer_instance

/-- The minimum run period protects a session whose current is below the minimum, the import is
tolerated, and one step of the ramp reaches the minimum. -/
def Resumes (r : SmartChargingRuntime) (c : EvaluateCall) : Prop :=
  live r c = true ∧ runProtected r c = true ∧
    (importOk r c = true ∨ c.slowSignals.gridImportW ≤ c.config.gridDeadbandW) ∧
    r.requestedCurrentA < c.config.minCurrentA ∧
    c.config.minCurrentA ≤ r.requestedCurrentA + c.config.maxCurrentIncreasePerStepA

instance (r : SmartChargingRuntime) (c : EvaluateCall) : Decidable (Resumes r c) := by
  unfold Resumes; infer_instance

/-- The stop is delayed and the current stays as it is. -/
def Waits (r : SmartChargingRuntime) (c : EvaluateCall) : Prop :=
  live r c = true ∧ delaysStop r c = true

instance (r : SmartChargingRuntime) (c : EvaluateCall) : Decidable (Waits r c) := by
  unfold Waits; infer_instance

section ZeroTarget

variable {r : SmartChargingRuntime} {c : EvaluateCall}

theorem reducedA_eq_of_lt (h : r.requestedCurrentA < c.config.minCurrentA) : reducedA r c
      = min c.config.minCurrentA (r.requestedCurrentA + c.config.maxCurrentIncreasePerStepA) := by
  rw [reducedA, applyRamp_up c.config false h]
  simp [increaseStepA]

/-- Below the minimum the stop path keeps importing exactly in the calls that resume. -/
theorem resumes_iff : Resumes r c ↔ live r c = true ∧ keepsImporting r c = true ∧
      r.requestedCurrentA < c.config.minCurrentA := by
  constructor
  · rintro ⟨hl, hp, hi, hlow, hstep⟩
    refine ⟨hl, ?_, hlow⟩
    have hreached : c.config.minCurrentA ≤ reducedA r c := by
      rw [reducedA_eq_of_lt hlow]
      exact le_min le_rfl hstep
    simp [keepsImporting, hp, hi, hreached]
  · rintro ⟨hl, hk, hlow⟩
    have hk' : (runProtected r c = true ∧ (importOk r c = true ∨ c.slowSignals.gridImportW ≤ c.config.gridDeadbandW)) ∧
          c.config.minCurrentA ≤ reducedA r c := by
      simpa [keepsImporting] using hk
    obtain ⟨⟨hp, hi⟩, hreached⟩ := hk'
    rw [reducedA_eq_of_lt hlow] at hreached
    exact ⟨hl, hp, hi, hlow, (le_min_iff.mp hreached).2⟩

/-- A current at or above the minimum only falls on the stop path. -/
theorem reducedA_le (hdown : 0 ≤ c.config.maxCurrentDecreasePerStepA)
    (h : c.config.minCurrentA ≤ r.requestedCurrentA) : reducedA r c ≤ r.requestedCurrentA := by
  rcases h.lt_or_eq with hlt | heq
  · rw [reducedA, applyRamp_down c.config false hlt]
    exact max_le h (by linarith)
  · rw [reducedA, heq, applyRamp_self]

/-- What a call with a target of zero asks for: nothing, the reduced current, or what it asked for
before. -/
theorem requestedCurrentA_zeroTarget (hd : desiredA c ≤ 0) : (evaluateSmartCharging r c).2.requestedCurrentA
      = if live r c = true then if keepsImporting r c = true ∨ reducesFirst r c = true then reducedA r c
          else if delaysStop r c = true then r.requestedCurrentA else 0 else 0 := by
  have hstep := evaluateStep r c
  generalize evaluateSmartCharging r c = out at hstep ⊢
  cases hstep with
  | fault hf => simp [live, hf, stopDecision]
  | pause hf hp => simp [live, hp, stopDecision]
  | unplugged hf hp hv => simp [live, hv, noneDecision]
  | cooldown hf hp hv hc => simp [live, hc, noneDecision]
  | keepImporting hl hd hk => simp [hl, hk, setDecision]
  | reduceBeforeStop hl hd hk hr => simp [hl, hr, setDecision]
  | stopDelay hl hd hk hr hs => simp [hl, hk, hr, hs, noneDecision]
  | stop hl hd hk hr hs => simp [hl, hk, hr, hs, stopDecision]
  | rateLimited hl hpos | waitingForExport hl hpos | startDelay hl hpos | start hl hpos
  | settled hl hpos | reissue hl hpos | rampMove hl hpos => exact absurd hd (not_le.mpr hpos)

end ZeroTarget

/-- A decision that asks for no more than zero does not turn the charger on. -/
theorem turnsOn_eq_false {d : ChargingDecision} (h : d.requestedCurrentA ≤ 0) : turnsOn d = false := by
  simp [turnsOn, not_lt.mpr h]

/-- **A target of zero never raises the current, except where the stop path resumes.** A call whose
target clamps to zero asks for more than the remembered current exactly if it resumes a protected session
from below the minimum, or if the remembered current is negative and the stop is not delayed. -/
theorem neverRaises_iff (r : SmartChargingRuntime) (c : EvaluateCall)
    (hmin : 0 < c.config.minCurrentA) (hdown : 0 < c.config.maxCurrentDecreasePerStepA)
    (hd : clampTarget c.optimizerTargetA c.config = 0) :
    NeverRaises r c ↔ ¬ Resumes r c ∧ (0 ≤ r.requestedCurrentA ∨ Waits r c) := by
  have hfirst : NeverRaises r c ↔ (evaluateSmartCharging r c).2.requestedCurrentA ≤ r.requestedCurrentA :=
    ⟨And.left, fun h => ⟨h, fun hzero => turnsOn_eq_false (hzero ▸ h)⟩⟩
  rw [hfirst, requestedCurrentA_zeroTarget (le_of_eq hd), resumes_iff, Waits]
  by_cases hl : live r c = true
  · rw [if_pos hl]
    by_cases hlow : r.requestedCurrentA < c.config.minCurrentA
    · have hr : reducesFirst r c = false := by simp [reducesFirst, hlow.le]
      by_cases hk : keepsImporting r c = true
      · -- the minimum is reached from below, whatever the sign of the remembered current
        have hreached : c.config.minCurrentA ≤ reducedA r c := by
          simp only [keepsImporting, Bool.and_eq_true, decide_eq_true_eq] at hk
          exact hk.2
        rw [if_pos (Or.inl hk)]
        exact iff_of_false (not_le.mpr (lt_of_lt_of_le hlow hreached)) fun h => h.1 ⟨hl, hk, hlow⟩
      · rw [if_neg (by simp [hk, hr])]
        by_cases hs : delaysStop r c = true
        · rw [if_pos hs]
          exact iff_of_true le_rfl ⟨fun h => hk h.2.1, Or.inr ⟨hl, hs⟩⟩
        · rw [if_neg hs]
          exact ⟨fun h => ⟨fun h' => hk h'.2.1, Or.inl h⟩,
            fun h => h.2.resolve_right fun h' => hs h'.2⟩
    · have hhigh : c.config.minCurrentA ≤ r.requestedCurrentA := not_lt.mp hlow
      have hnonneg : 0 ≤ r.requestedCurrentA := le_trans hmin.le hhigh
      refine iff_of_true ?_ ⟨fun h => hlow h.2.2, Or.inl hnonneg⟩
      split_ifs
      · exact reducedA_le hdown.le hhigh
      · exact le_rfl
      · exact hnonneg
  · rw [if_neg hl]
    exact ⟨fun h => ⟨fun h' => hl h'.1, Or.inl h⟩, fun h => h.2.resolve_right fun h' => hl h'.1⟩

/-- A session that the charger's fault or an unplugged cable has set back to no current. -/
def interrupted : SmartChargingRuntime :=
  { state := .waitingToStart, lastStartAt := some 0, requestedCurrentA := 0 }

/-- A call with a target of zero a minute after the start, in a charger that ramps by ten amperes. -/
def zeroTargetCall : EvaluateCall :=
  { config := { maxCurrentIncreasePerStepA := 10 }, chargingMode := some .smartCharge,
    optimizerTargetA := 0, isCharging := false, now := 60 }

/-- With a smaller step of the ramp the same call stops the charger. -/
theorem neverRaises_smallStep : NeverRaises interrupted { zeroTargetCall with config := {} } :=
  (neverRaises_iff interrupted { zeroTargetCall with config := {} } (by decide +kernel)
    (by decide +kernel) (by decide +kernel)).mpr (by decide +kernel)

/-- The stop path turns an idle charger on at its minimum current. -/
theorem zeroTarget_turns_on : bypassesGuardrails zeroTargetCall.chargingMode zeroTargetCall.overrideActive = false ∧
      zeroTargetCall.config.ApiAdmits ∧ clampTarget zeroTargetCall.optimizerTargetA zeroTargetCall.config = 0 ∧
      interrupted.requestedCurrentA = 0 ∧ (evaluateSmartCharging interrupted zeroTargetCall).2
        = setDecision 6 (.mode .smartCharge) "temporary_grid_import" ∧ ¬ NeverRaises interrupted zeroTargetCall := by
  decide +kernel

/-! ### The off time of an idle charger -/

/-- One call as an observer of the charger sees it. -/
structure CallRecord where
  now : Instant
  isCharging : Bool
  decision : ChargingDecision
  minimumOffTimeSeconds : ℚ
  deriving Repr, DecidableEq

/-- The charger charges, or is told to. -/
def CallRecord.active (e : CallRecord) : Bool := e.isCharging || turnsOn e.decision

/-- The runtime, and the calls so far. -/
structure WatchedState where
  runtime : SmartChargingRuntime := {}
  calls : List CallRecord := []

def CallRecord.of (r : SmartChargingRuntime) (c : EvaluateCall) : CallRecord :=
  { now := c.now, isCharging := c.isCharging, decision := (evaluateSmartCharging r c).2,
    minimumOffTimeSeconds := c.config.minimumOffTimeSeconds }

def watch (s : WatchedState) (c : EvaluateCall) : WatchedState :=
  { runtime := (evaluateSmartCharging s.runtime c).1
    calls := s.calls ++ [CallRecord.of s.runtime c] }

/-- No call since `since` found the charger charging or told it to charge. -/
def IdleSince (calls : List CallRecord) (since : Instant) : Prop :=
  ∀ e ∈ calls, since < e.now → e.active = false

instance (calls : List CallRecord) (since : Instant) : Decidable (IdleSince calls since) := by
  unfold IdleSince; infer_instance

/-- The call is not refused for the cooldown: it does not end in that state, and the cooldown of the
runtime does not hold it back. -/
def PassesCooldown (r : SmartChargingRuntime) (c : EvaluateCall) : Prop :=
  coolingDown r c = false ∧ (evaluateSmartCharging r c).1.state ≠ .cooldown

/-- The minimum off time test of the start path lets the call pass. -/
def PassesOffTime (r : SmartChargingRuntime) (c : EvaluateCall) : Prop :=
  ∀ lastStopAt ∈ r.lastStopAt, ¬ c.now - lastStopAt < c.config.minimumOffTimeSeconds

instance (r : SmartChargingRuntime) (c : EvaluateCall) : Decidable (PassesCooldown r c) := by
  unfold PassesCooldown; infer_instance

instance (r : SmartChargingRuntime) (c : EvaluateCall) : Decidable (PassesOffTime r c) := by
  unfold PassesOffTime; infer_instance

/-- The off time counts from the real stop: a target within the bounds is not refused for the cooldown or
the minimum off time once the charger has been idle for that time. -/
def OffTimeRespected (s : WatchedState) (c : EvaluateCall) : Prop :=
  c.config.minCurrentA ≤ c.optimizerTargetA → c.optimizerTargetA ≤ c.config.maxCurrentA →
    IdleSince s.calls (c.now - c.config.minimumOffTimeSeconds) → c.isCharging = false →
      PassesCooldown s.runtime c ∧ PassesOffTime s.runtime c

instance (s : WatchedState) (c : EvaluateCall) : Decidable (OffTimeRespected s c) := by
  unfold OffTimeRespected; infer_instance

/-- The call goes to the end of the stop path although the charger is idle already. -/
def stopsIdle (r : SmartChargingRuntime) (c : EvaluateCall) : Bool :=
  live r c && decide (desiredA c ≤ 0) && !keepsImporting r c && !reducesFirst r c && !c.isCharging

/-- No idle charger is stopped again, and the minimum off time is not below that of an earlier call. -/
def KeepsOffTime (s : WatchedState) (c : EvaluateCall) : Prop :=
  stopsIdle s.runtime c = false ∧
    ∀ e ∈ s.calls, e.minimumOffTimeSeconds ≤ c.config.minimumOffTimeSeconds

instance (s : WatchedState) (c : EvaluateCall) : Decidable (KeepsOffTime s c) := by
  unfold KeepsOffTime; infer_instance

/-- Both timers of the stop path go back to a call that found the charger charging. -/
structure TimersTied (r : SmartChargingRuntime) (calls : List CallRecord) : Prop where
  lastStop : ∀ t ∈ r.lastStopAt, ∃ e ∈ calls, e.active = true ∧ e.now = t
  cooldown : ∀ t ∈ r.cooldownUntil,
    ∃ e ∈ calls, e.active = true ∧ e.now + e.minimumOffTimeSeconds = t

theorem TimersTied.fresh : TimersTied {} [] where
  lastStop := fun t ht => absurd ht (by simp)
  cooldown := fun t ht => absurd ht (by simp)

/-- The timers after one call: kept, cleared, or set by the end of the stop path. -/
theorem evaluate_timers (r : SmartChargingRuntime) (c : EvaluateCall) :
    ((evaluateSmartCharging r c).1.lastStopAt = r.lastStopAt ∧
        ((evaluateSmartCharging r c).1.cooldownUntil = r.cooldownUntil ∨
          (evaluateSmartCharging r c).1.cooldownUntil = none)) ∨
      ((live r c && decide (desiredA c ≤ 0) && !keepsImporting r c && !reducesFirst r c) = true ∧
        (evaluateSmartCharging r c).1.lastStopAt = some c.now ∧ (evaluateSmartCharging r c).1.cooldownUntil
          = if fastCall c then none else some (c.now + c.config.minimumOffTimeSeconds)) := by
  have hstep := evaluateStep r c
  generalize evaluateSmartCharging r c = out at hstep ⊢
  cases hstep with
  | stop hl hd hk hr hs => exact Or.inr ⟨by simp [hl, hd, hk, hr], rfl, rfl⟩
  | fault | pause | unplugged | cooldown => exact Or.inl ⟨rfl, Or.inl rfl⟩
  | _ => exact Or.inl ⟨by simp, Or.inr (by simp)⟩

/-- A call that ends in the cooldown state was held back by the cooldown. -/
theorem coolingDown_of_state {r : SmartChargingRuntime} {c : EvaluateCall}
    (h : (evaluateSmartCharging r c).1.state = .cooldown) : coolingDown r c = true := by
  have hstep := evaluateStep r c
  generalize evaluateSmartCharging r c = out at hstep h
  cases hstep with
  | cooldown hf hp hv hc => exact hc
  | start => split at h <;> exact SmartChargingState.noConfusion h
  | rampMove => split at h <;> exact SmartChargingState.noConfusion h
  | _ => exact SmartChargingState.noConfusion h

/-- **The step lemma.** A call that does not stop an idle charger leaves both timers tied to calls with a
charging charger. -/
theorem timersTied_watch {s : WatchedState} {c : EvaluateCall}
    (h : TimersTied s.runtime s.calls) (hidle : stopsIdle s.runtime c = false) :
    TimersTied (watch s c).runtime (watch s c).calls := by
  have hlater : ∀ e ∈ s.calls, e ∈ (watch s c).calls := fun e he => List.mem_append_left _ he
  have hself : CallRecord.of s.runtime c ∈ (watch s c).calls := List.mem_append_right _ (by simp)
  rcases evaluate_timers s.runtime c with ⟨hstop, hcool⟩ | ⟨hends, hstop, hcool⟩
  · constructor
    · intro t ht
      obtain ⟨e, he, hactive, hnow⟩ := h.lastStop t (hstop ▸ ht)
      exact ⟨e, hlater e he, hactive, hnow⟩
    · intro t ht
      rcases hcool with hcool | hcool
      · obtain ⟨e, he, hactive, hnow⟩ := h.cooldown t (hcool ▸ ht)
        exact ⟨e, hlater e he, hactive, hnow⟩
      · rw [watch, hcool] at ht
        exact absurd ht (by simp)
  · have hcharging : c.isCharging = true := by
      rw [stopsIdle, hends, Bool.true_and] at hidle
      simpa using hidle
    have hactive : (CallRecord.of s.runtime c).active = true := by
      simp [CallRecord.active, CallRecord.of, hcharging]
    constructor
    · intro t ht
      have hnow : c.now = t := Option.some.inj (hstop.symm.trans ht)
      exact ⟨_, hself, hactive, hnow⟩
    · intro t ht
      rw [watch, hcool] at ht
      split at ht
      · exact absurd ht (by simp)
      · exact ⟨_, hself, hactive, Option.some.inj ht⟩

/-- With tied timers, a charger that was idle for the off time is not refused. -/
theorem offTimeRespected_of_timersTied {s : WatchedState} {c : EvaluateCall} (h : TimersTied s.runtime s.calls)
    (hoff : ∀ e ∈ s.calls, e.minimumOffTimeSeconds ≤ c.config.minimumOffTimeSeconds) : OffTimeRespected s c := by
  intro _ _ hidle _
  have hearly : ∀ e ∈ s.calls, e.active = true → e.now ≤ c.now - c.config.minimumOffTimeSeconds := by
    intro e he hactive
    refine not_lt.mp fun hlt => ?_
    exact absurd hactive (by simp [hidle e he hlt])
  have hcool : coolingDown s.runtime c = false := by
    unfold coolingDown
    cases hu : s.runtime.cooldownUntil with
    | none => simp
    | some u =>
      obtain ⟨e, he, hactive, rfl⟩ := h.cooldown u hu
      have hle := hearly e he hactive
      have hshort := hoff e he
      have hover : ¬ c.now < e.now + e.minimumOffTimeSeconds := not_lt.mpr (by linarith)
      simp [hover]
  refine ⟨⟨hcool, fun hstate => ?_⟩, fun t ht => ?_⟩
  · exact absurd (coolingDown_of_state hstate) (by simp [hcool])
  · obtain ⟨e, he, hactive, rfl⟩ := h.lastStop t ht
    have hle := hearly e he hactive
    exact not_lt.mpr (by linarith)

/-- **The off time counts from the real stop.** Along every run in which no idle charger is stopped again
and the minimum off time is not lowered, a target within the bounds is not refused for the cooldown or the
minimum off time once the charger has been idle for that time. -/
theorem offTimeRespected_run (calls : List EvaluateCall)
    (hkeeps : AllSteps watch KeepsOffTime {} calls) : AllSteps watch OffTimeRespected {} calls :=
  AllSteps.of_invariant (I := fun s => TimersTied s.runtime s.calls)
    (fun _ _ hI hC => ⟨offTimeRespected_of_timersTied hI hC.2, timersTied_watch hI hC.1⟩)
    TimersTied.fresh hkeeps

/-- A call of the smart mode, with a charger that ramps from zero to six amperes. -/
def smartCall (now : Instant) (isCharging : Bool) (targetA : ℚ) : EvaluateCall :=
  { chargingMode := some .smartCharge, optimizerTargetA := targetA, isCharging := isCharging, now := now }

/-- A stop of a charging charger, and a start after the off time. -/
theorem offTimeRespected_afterStop : AllSteps watch OffTimeRespected {}
      [smartCall 0 true 0, smartCall 300 true 0, smartCall 400 false 0, smartCall 610 false 10] :=
  offTimeRespected_run _ (by decide +kernel)

/-- An idle charger with a target of zero is stopped again and again; the off time starts anew each time,
and a target of ten amperes is refused although the charger never charged. -/
theorem idleStops_restart_offTime :
    (∀ c ∈ [smartCall 0 false 0, smartCall 200 false 0, smartCall 310 false 0, smartCall 320 false 10],
        bypassesGuardrails c.chargingMode c.overrideActive = false ∧ c.isCharging = false) ∧
      ¬ AllSteps watch OffTimeRespected {}
        [smartCall 0 false 0, smartCall 200 false 0, smartCall 310 false 0, smartCall 320 false 10] ∧
      (evaluateSmartCharging (run watch {} [smartCall 0 false 0, smartCall 200 false 0, smartCall 310 false 0]).runtime
          (smartCall 320 false 10)).2 = noneDecision 0 (.mode .smartCharge) "cooldown" := by
  decide +kernel

end EnergyCore.Charging
