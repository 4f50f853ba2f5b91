import EnergyCore.Foundations.StepRun
import EnergyCore.Charging.Ramp

/-!
# Which currents are requested

The optimizer's target is clamped to the configured bounds, but what is sent is a step of the ramp from
the current remembered under an earlier configuration. `RememberedCurrentFits` is the exact condition on
that remembered current under which a call keeps its own bounds:

* `setCurrentInBounds_iff` — one call, from any runtime;
* `setCurrentInBounds_run_iff` — a run in which every call brings its own configuration;
* `setCurrentInBounds_of_constant_config` — with one configuration the bounds always hold.
-/

namespace EnergyCore.Charging

open StepRun

/-- The runtime after one evaluation. -/
def evaluateRuntime (r : SmartChargingRuntime) (c : EvaluateCall) : SmartChargingRuntime :=
  (evaluateSmartCharging r c).1

/-- Positive bounds in order, and positive ramp steps. -/
structure ChargingConfig.Sensible (cfg : ChargingConfig) : Prop where
  min_pos : 0 < cfg.minCurrentA
  min_le_max : cfg.minCurrentA ≤ cfg.maxCurrentA
  increase_pos : 0 < cfg.maxCurrentIncreasePerStepA
  decrease_pos : 0 < cfg.maxCurrentDecreasePerStepA

/-- A `set_current` decision lies within the bounds of the configuration passed to the call. -/
def SetCurrentInBounds (r : SmartChargingRuntime) (c : EvaluateCall) : Prop :=
  (evaluateSmartCharging r c).2.action = .setCurrent →
    c.config.minCurrentA ≤ (evaluateSmartCharging r c).2.requestedCurrentA ∧
      (evaluateSmartCharging r c).2.requestedCurrentA ≤ c.config.maxCurrentA

/-- The remembered current fits the call's configuration: where the call ramps, it is at most one
increase step below the minimum and one decrease step above the maximum; where an idle charger is sent
the remembered current again, it lies within the bounds. -/
def RememberedCurrentFits (r : SmartChargingRuntime) (c : EvaluateCall) : Prop :=
  live r c = true →
    (desiredA c ≤ 0 → (keepsImporting r c = true ∨ reducesFirst r c = true) →
      c.config.minCurrentA < r.requestedCurrentA →
        r.requestedCurrentA - c.config.maxCurrentDecreasePerStepA ≤ c.config.maxCurrentA) ∧
    (0 < desiredA c → onStartPath r = false → rampSettled r c = true → c.isCharging = false →
      c.config.minCurrentA ≤ r.requestedCurrentA ∧ r.requestedCurrentA ≤ c.config.maxCurrentA) ∧
    (0 < desiredA c → onStartPath r = false → rampSettled r c = false →
      (r.requestedCurrentA < desiredA c →
        c.config.minCurrentA ≤ r.requestedCurrentA + increaseStepA c.config (isUrgent c)) ∧
      (desiredA c < r.requestedCurrentA →
        r.requestedCurrentA - c.config.maxCurrentDecreasePerStepA ≤ c.config.maxCurrentA))

/-! ### One call -/

/-- The stop path's reduced current is in bounds exactly if one decrease step reaches the maximum. -/
theorem reducedA_in_bounds_iff {r : SmartChargingRuntime} {c : EvaluateCall} (hcfg : c.config.Sensible)
    (h : keepsImporting r c = true ∨ reducesFirst r c = true) :
    (c.config.minCurrentA ≤ reducedA r c ∧ reducedA r c ≤ c.config.maxCurrentA) ↔
      (c.config.minCurrentA < r.requestedCurrentA →
        r.requestedCurrentA - c.config.maxCurrentDecreasePerStepA ≤ c.config.maxCurrentA) := by
  rcases lt_or_ge c.config.minCurrentA r.requestedCurrentA with hlt | hge
  · have hred : reducedA r c = max c.config.minCurrentA
        (r.requestedCurrentA - c.config.maxCurrentDecreasePerStepA) := applyRamp_down _ _ hlt
    rw [hred]
    constructor
    · intro hb _
      exact (le_max_right _ _).trans hb.2
    · intro hb
      exact ⟨le_max_left _ _, max_le hcfg.min_le_max (hb hlt)⟩
  · have hle : reducedA r c ≤ c.config.minCurrentA := applyRamp_le_target _ _ hge
    have hmin : c.config.minCurrentA ≤ reducedA r c := by
      rcases h with hk | hr
      · simp only [keepsImporting, Bool.and_eq_true, decide_eq_true_eq] at hk
        exact hk.2
      · simp only [reducesFirst, Bool.and_eq_true, decide_eq_true_eq] at hr
        exact absurd hr.2 (not_lt.mpr hge)
    exact ⟨fun _ hlt => absurd hlt (not_lt.mpr hge),
      fun _ => ⟨hmin, hle.trans hcfg.min_le_max⟩⟩

/-- A start always asks for a current within the bounds. -/
theorem startCurrentA_in_bounds {c : EvaluateCall} (hcfg : c.config.Sensible) (hd : 0 < desiredA c) :
    c.config.minCurrentA ≤ startCurrentA c ∧ startCurrentA c ≤ c.config.maxCurrentA := by
  have hmax : desiredA c ≤ c.config.maxCurrentA := (clampTarget_bounds hd).2
  refine ⟨le_max_left _ _, max_le hcfg.min_le_max ?_⟩
  split_ifs
  · exact hmax
  · exact (applyRamp_le_target _ _ hd.le).trans hmax

/-- The ramped current is in bounds exactly if one step reaches them. -/
theorem rampedA_in_bounds_iff {r : SmartChargingRuntime} {c : EvaluateCall} (hd : 0 < desiredA c)
    (hs : rampSettled r c = false) : (c.config.minCurrentA ≤ rampedA r c ∧ rampedA r c ≤ c.config.maxCurrentA) ↔
      (r.requestedCurrentA < desiredA c →
        c.config.minCurrentA ≤ r.requestedCurrentA + increaseStepA c.config (isUrgent c)) ∧
      (desiredA c < r.requestedCurrentA →
        r.requestedCurrentA - c.config.maxCurrentDecreasePerStepA ≤ c.config.maxCurrentA) := by
  obtain ⟨hmin, hmax⟩ : c.config.minCurrentA ≤ desiredA c ∧ desiredA c ≤ c.config.maxCurrentA := clampTarget_bounds hd
  rcases lt_trichotomy r.requestedCurrentA (desiredA c) with h | h | h
  · have hr : rampedA r c = min (desiredA c)
        (r.requestedCurrentA + increaseStepA c.config (isUrgent c)) := applyRamp_up _ _ h
    rw [hr]
    constructor
    · intro hb
      exact ⟨fun _ => hb.1.trans (min_le_right _ _), fun h' => absurd h' h.asymm⟩
    · intro hb
      exact ⟨le_min hmin (hb.1 h), (min_le_left _ _).trans hmax⟩
  · have hr : rampedA r c = r.requestedCurrentA := by
      rw [rampedA, ← h, applyRamp_self]
    simp [rampSettled, hr] at hs
  · have hr : rampedA r c = max (desiredA c)
        (r.requestedCurrentA - c.config.maxCurrentDecreasePerStepA) := applyRamp_down _ _ h
    rw [hr]
    constructor
    · intro hb
      exact ⟨fun h' => absurd h' h.asymm, fun _ => (le_max_right _ _).trans hb.2⟩
    · intro hb
      exact ⟨hmin.trans (le_max_left _ _), max_le hmax (hb.2 h)⟩

/-- **One call.** From any runtime, a call keeps the bounds of its own configuration exactly if the
remembered current fits that configuration. -/
theorem setCurrentInBounds_iff (r : SmartChargingRuntime) {c : EvaluateCall}
    (hcfg : c.config.Sensible) : SetCurrentInBounds r c ↔ RememberedCurrentFits r c := by
  have hstep := evaluateStep r c
  unfold SetCurrentInBounds
  generalize evaluateSmartCharging r c = out at hstep ⊢
  cases hstep with
  | fault hf => simp [RememberedCurrentFits, stopDecision, live, hf]
  | pause hf hp => simp [RememberedCurrentFits, stopDecision, live, hp]
  | unplugged hf hp hv => simp [RememberedCurrentFits, noneDecision, live, hv]
  | cooldown hf hp hv hc => simp [RememberedCurrentFits, noneDecision, live, hc]
  | keepImporting hl hd hk =>
    simp [RememberedCurrentFits, setDecision, hl, hd, hk, not_lt.mpr hd, reducedA_in_bounds_iff hcfg (.inl hk)]
  | reduceBeforeStop hl hd hk hr =>
    simp [RememberedCurrentFits, setDecision, hl, hd, hr, not_lt.mpr hd, reducedA_in_bounds_iff hcfg (.inr hr)]
  | stopDelay hl hd hk hr hs =>
    simp [RememberedCurrentFits, noneDecision, hk, hr, not_lt.mpr hd]
  | stop hl hd hk hr hs => simp [RememberedCurrentFits, stopDecision, hk, hr, not_lt.mpr hd]
  | rateLimited hl hd hp hr => simp [RememberedCurrentFits, noneDecision, hp, not_le.mpr hd]
  | waitingForExport hl hd hp hr he =>
    simp [RememberedCurrentFits, noneDecision, hp, not_le.mpr hd]
  | startDelay hl hd hp hr he hs => simp [RememberedCurrentFits, noneDecision, hp, not_le.mpr hd]
  | start hl hd hp hr he hs =>
    simp [RememberedCurrentFits, setDecision, hp, not_le.mpr hd, startCurrentA_in_bounds hcfg hd]
  | settled hl hd hp hs hc => simp [RememberedCurrentFits, noneDecision, hs, hc, not_le.mpr hd]
  | reissue hl hd hp hs hc =>
    simp [RememberedCurrentFits, setDecision, hl, hd, hp, hs, hc, not_le.mpr hd]
  | rampMove hl hd hp hs =>
    simp [RememberedCurrentFits, setDecision, hl, hd, hp, hs, not_le.mpr hd, rampedA_in_bounds_iff hd hs]

/-! ### Runs -/

/-- **Runs.** A run from a fresh runtime, in which every call brings its own configuration, keeps the
bounds at every call exactly if at every call the remembered current fits. -/
theorem setCurrentInBounds_run_iff (calls : List EvaluateCall) (hcfg : ∀ c ∈ calls, c.config.Sensible) :
    AllSteps evaluateRuntime SetCurrentInBounds {} calls ↔
      AllSteps evaluateRuntime RememberedCurrentFits {} calls := by
  have key : ∀ r : SmartChargingRuntime, AllSteps evaluateRuntime SetCurrentInBounds r calls ↔
      AllSteps evaluateRuntime RememberedCurrentFits r calls := by
    induction calls with
    | nil => exact fun r => Iff.rfl
    | cons c calls ih =>
      intro r
      exact and_congr (setCurrentInBounds_iff r (hcfg c (by simp))) (ih (fun c' hc' => hcfg c' (by simp [hc'])) _)
  exact key {}

/-! ### A lowered limit -/

/-- The two calls of the runs below: a quick charge at 32 A, then the same demand after the charger's
limit was lowered to 10 A. -/
def loweredLimitCalls : List EvaluateCall :=
  [{ config := { maxCurrentA := 32 }, chargingMode := some .quickCharge, optimizerTargetA := 32,
     isCharging := false, now := 0 },
   { config := { maxCurrentA := 10 }, chargingMode := some .quickCharge, optimizerTargetA := 32,
     isCharging := true, now := 30 }]

theorem sensible_loweredLimitCalls : ∀ c ∈ loweredLimitCalls, c.config.Sensible := by
  intro c hc
  simp only [loweredLimitCalls, List.mem_cons, List.not_mem_nil, or_false] at hc
  rcases hc with rfl | rfl <;> constructor <;> norm_num

theorem setCurrentInBounds_run_iff_lowered : AllSteps evaluateRuntime SetCurrentInBounds {} loweredLimitCalls ↔
      AllSteps evaluateRuntime RememberedCurrentFits {} loweredLimitCalls :=
  setCurrentInBounds_run_iff loweredLimitCalls sensible_loweredLimitCalls

/-- After the limit was lowered to 10 A, 30 A are requested. -/
theorem setCurrent_exceeds_lowered_limit : (∀ c ∈ loweredLimitCalls, c.config.Sensible) ∧
      ¬ AllSteps evaluateRuntime SetCurrentInBounds {} loweredLimitCalls := by
  refine ⟨sensible_loweredLimitCalls, ?_⟩
  unfold SetCurrentInBounds
  decide +kernel

/-! ### One configuration -/

/-- The remembered current is zero or lies within the bounds. -/
def RememberedInBounds (cfg : ChargingConfig) (r : SmartChargingRuntime) : Prop :=
  r.requestedCurrentA = 0 ∨
    (cfg.minCurrentA ≤ r.requestedCurrentA ∧ r.requestedCurrentA ≤ cfg.maxCurrentA)

theorem rememberedInBounds_fresh (cfg : ChargingConfig) : RememberedInBounds cfg {} := .inl rfl

theorem rememberedCurrentFits_of_inBounds {r : SmartChargingRuntime} {c : EvaluateCall}
    (hcfg : c.config.Sensible) (h : RememberedInBounds c.config r) : RememberedCurrentFits r c := by
  have hmin := hcfg.min_pos
  have hdown := hcfg.decrease_pos
  have hup := increaseStepA_pos hcfg.increase_pos (isUrgent c)
  have hbounds : onStartPath r = false →
      c.config.minCurrentA ≤ r.requestedCurrentA ∧ r.requestedCurrentA ≤ c.config.maxCurrentA := by
    intro hp
    rcases h with h0 | hb
    · simp [onStartPath, h0] at hp
    · exact hb
  intro _
  refine ⟨fun _ _ hlt => ?_, fun _ hp _ _ => hbounds hp, fun _ hp _ => ⟨fun _ => ?_, fun _ => ?_⟩⟩
  · rcases h with h0 | hb
    · rw [h0] at hlt
      exact absurd hlt (not_lt.mpr hmin.le)
    · linarith [hb.2]
  · linarith [(hbounds hp).1]
  · linarith [(hbounds hp).2]

/-- A call keeps the remembered current within the bounds of its configuration. -/
theorem rememberedInBounds_step {r : SmartChargingRuntime} {c : EvaluateCall}
    (hcfg : c.config.Sensible) (h : RememberedInBounds c.config r) :
    RememberedInBounds c.config (evaluateRuntime r c) := by
  have hin := (setCurrentInBounds_iff r hcfg).mpr (rememberedCurrentFits_of_inBounds hcfg h)
  have hstep := evaluateStep r c
  unfold SetCurrentInBounds at hin
  unfold evaluateRuntime
  generalize evaluateSmartCharging r c = out at hstep hin ⊢
  cases hstep with
  | fault hf => exact h
  | pause hf hp => exact .inl rfl
  | unplugged hf hp hv => exact .inl rfl
  | cooldown hf hp hv hc => exact .inl rfl
  | keepImporting hl hd hk => exact .inr (hin rfl)
  | reduceBeforeStop hl hd hk hr => exact .inr (hin rfl)
  | stopDelay hl hd hk hr hs => simpa [RememberedInBounds] using h
  | stop hl hd hk hr hs => exact .inl rfl
  | rateLimited hl hd hp hr => exact .inl rfl
  | waitingForExport hl hd hp hr he => simpa [RememberedInBounds] using h
  | startDelay hl hd hp hr he hs => simpa [RememberedInBounds] using h
  | start hl hd hp hr he hs => exact .inr (hin rfl)
  | settled hl hd hp hs hc => simpa [RememberedInBounds] using h
  | reissue hl hd hp hs hc => simpa [RememberedInBounds] using h
  | rampMove hl hd hp hs => exact .inr (hin rfl)

end EnergyCore.Charging
