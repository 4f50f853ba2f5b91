import EnergyCore.Charging.EvaluateStep
import EnergyCore.Foundations.StepRun

/-!
# The temporary grid import

A session in its minimum run period is kept running on a grid import within the allowance, for a limited time. The
time runs from the first call with an import within the allowance, also one without any import.

* `takesImport_iff` — when a call keeps the session running on the allowance;
* `timer_step` — what the timer of the machine shows, in terms of the calls;
* `temporaryImport_run` — the runs in which the limit is that of the import.
-/

namespace EnergyCore.Charging

open StepRun

/-! ### The import -/

/-- The call wants no current, and there is an import above the deadband and within the allowance. -/
def importsTemporarily (c : EvaluateCall) : Bool :=
  decide (desiredA c ≤ 0) && decide (c.config.gridDeadbandW < c.slowSignals.gridImportW) &&
    decide (c.slowSignals.gridImportW ≤ c.config.temporaryGridImportAllowanceW)

/-- The stop path keeps the session running although there is an import above the deadband. -/
def TakesImport (r : SmartChargingRuntime) (c : EvaluateCall) : Prop :=
  desiredA c ≤ 0 ∧ c.config.gridDeadbandW < c.slowSignals.gridImportW ∧
    (evaluateSmartCharging r c).2.action = .setCurrent ∧
    (evaluateSmartCharging r c).2.reason = "temporary_grid_import"

instance (r : SmartChargingRuntime) (c : EvaluateCall) : Decidable (TakesImport r c) :=
  inferInstanceAs (Decidable (_ ∧ _))

/-- The session may be kept running on the allowance: it is protected, and can be reduced to the minimum at least. -/
def mayTakeImport (r : SmartChargingRuntime) (c : EvaluateCall) : Bool :=
  live r c && runProtected r c && decide (c.config.minCurrentA ≤ reducedA r c)

theorem importOk_le {r : SmartChargingRuntime} {c : EvaluateCall} (h : importOk r c = true) :
    c.slowSignals.gridImportW ≤ c.config.temporaryGridImportAllowanceW := by
  unfold importOk temporaryImportAllowed at h
  by_cases hle : c.slowSignals.gridImportW ≤ c.config.temporaryGridImportAllowanceW
  · exact hle
  · rw [if_neg hle] at h
    cases h

/-- The answer of the timer. -/
theorem importOk_iff {r : SmartChargingRuntime} {c : EvaluateCall}
    (hle : c.slowSignals.gridImportW ≤ c.config.temporaryGridImportAllowanceW) : importOk r c = true ↔
      c.now - r.temporaryImportSince.getD c.now ≤ c.config.temporaryGridImportSeconds := by
  unfold importOk temporaryImportAllowed
  rw [if_pos hle]
  exact decide_eq_true_iff

/-- **Running on the allowance.** The session is kept running on an import if it may be, and the timer allows it. -/
theorem takesImport_iff (r : SmartChargingRuntime) (c : EvaluateCall) :
    TakesImport r c ↔ mayTakeImport r c = true ∧ importsTemporarily c = true ∧ importOk r c = true := by
  unfold TakesImport mayTakeImport importsTemporarily
  have hstep := evaluateStep r c
  generalize evaluateSmartCharging r c = out at hstep ⊢
  cases hstep with
  | fault hf => exact iff_of_false (fun h => by cases h.2.2.1) fun h => by simp [live, hf] at h
  | pause hf hp => exact iff_of_false (fun h => by cases h.2.2.1) fun h => by simp [live, hp] at h
  | unplugged hf hp hv => exact iff_of_false (fun h => by cases h.2.2.1) fun h => by simp [live, hv] at h
  | cooldown hf hp hv hc => exact iff_of_false (fun h => by cases h.2.2.1) fun h => by simp [live, hc] at h
  | keepImporting hl hd hk =>
    unfold keepsImporting at hk
    constructor
    · rintro ⟨-, hover, -, -⟩
      simp only [Bool.and_eq_true, Bool.or_eq_true, decide_eq_true_eq, not_le.mpr hover, or_false] at hk
      simp only [hl, hk.1.1, Bool.and_eq_true, decide_eq_true_eq]
      exact ⟨⟨⟨trivial, trivial⟩, hk.2⟩, ⟨⟨hd, hover⟩, importOk_le hk.1.2⟩, hk.1.2⟩
    · intro h
      simp only [Bool.and_eq_true, decide_eq_true_eq] at h
      exact ⟨hd, h.2.1.1.2, rfl, rfl⟩
  | reduceBeforeStop hl hd hk hr =>
    have hreason : "reduce_before_stop" ≠ "temporary_grid_import" := by decide
    refine iff_of_false (fun h => hreason h.2.2.2) fun h => ?_
    unfold keepsImporting at hk
    simp only [Bool.and_eq_true] at h
    simp [h.1.1.2, h.1.2, h.2.2] at hk
  | stopDelay hl hd hk hr hs =>
    refine iff_of_false (fun h => by cases h.2.2.1) fun h => ?_
    unfold keepsImporting at hk
    simp only [Bool.and_eq_true] at h
    simp [h.1.1.2, h.1.2, h.2.2] at hk
  | stop hl hd hk hr hs =>
    refine iff_of_false (fun h => by cases h.2.2.1) fun h => ?_
    unfold keepsImporting at hk
    simp only [Bool.and_eq_true] at h
    simp [h.1.1.2, h.1.2, h.2.2] at hk
  | rateLimited hl hd hp hr => exact iff_of_false (fun h => absurd h.1 (not_le.mpr hd)) fun h => by simp [not_le.mpr hd] at h
  | waitingForExport hl hd hp hr he =>
    exact iff_of_false (fun h => absurd h.1 (not_le.mpr hd)) fun h => by simp [not_le.mpr hd] at h
  | startDelay hl hd hp hr he hs =>
    exact iff_of_false (fun h => absurd h.1 (not_le.mpr hd)) fun h => by simp [not_le.mpr hd] at h
  | start hl hd hp hr he hs =>
    exact iff_of_false (fun h => absurd h.1 (not_le.mpr hd)) fun h => by simp [not_le.mpr hd] at h
  | settled hl hd hp hs hc =>
    exact iff_of_false (fun h => absurd h.1 (not_le.mpr hd)) fun h => by simp [not_le.mpr hd] at h
  | reissue hl hd hp hs hc =>
    exact iff_of_false (fun h => absurd h.1 (not_le.mpr hd)) fun h => by simp [not_le.mpr hd] at h
  | rampMove hl hd hp hs => exact iff_of_false (fun h => absurd h.1 (not_le.mpr hd)) fun h => by simp [not_le.mpr hd] at h

/-! ### The history -/

/-- The calls so far: since when there has been a temporary import, and since when a live call has been within the
allowance, with none above it and no unplugging. -/
structure ImportHistory where
  importSince : Option Instant := none
  withinSince : Option Instant := none
  deriving Repr, DecidableEq

/-- The vehicle is found unplugged. -/
def unpluggedCall (c : EvaluateCall) : Bool := !faulted c && !pausedCall c && !c.vehicleConnected

def ImportHistory.record (h : ImportHistory) (r : SmartChargingRuntime) (c : EvaluateCall) : ImportHistory where
  importSince := if importsTemporarily c then some (h.importSince.getD c.now) else none
  withinSince :=
    if live r c then
      if c.slowSignals.gridImportW ≤ c.config.temporaryGridImportAllowanceW then some (h.withinSince.getD c.now) else none
    else if unpluggedCall c then none
    else h.withinSince

/-- The machine, and the history of its calls. -/
structure ImportRun where
  runtime : SmartChargingRuntime := {}
  history : ImportHistory := {}

def importStep (s : ImportRun) (c : EvaluateCall) : ImportRun where
  runtime := (evaluateSmartCharging s.runtime c).1
  history := s.history.record s.runtime c

theorem temporaryImportSince_readyRuntime (r : SmartChargingRuntime) (c : EvaluateCall) :
    (readyRuntime r c).temporaryImportSince = if c.slowSignals.gridImportW ≤ c.config.temporaryGridImportAllowanceW
        then some (r.temporaryImportSince.getD c.now) else none := by
  unfold readyRuntime temporaryImportAllowed
  split_ifs
  · rfl
  · rfl

/-- **The timer** is started by the first live call within the allowance, and stopped by a live call above it or by
unplugging. -/
theorem timer_step {s : ImportRun} {c : EvaluateCall} (h : s.runtime.temporaryImportSince = s.history.withinSince) :
    (importStep s c).runtime.temporaryImportSince = (importStep s c).history.withinSince := by
  have hrecorded : ∀ hl : live s.runtime c = true, (importStep s c).history.withinSince
      = (readyRuntime s.runtime c).temporaryImportSince := by
    intro hl
    rw [temporaryImportSince_readyRuntime, h]
    exact if_pos hl
  show (evaluateSmartCharging s.runtime c).1.temporaryImportSince = (importStep s c).history.withinSince
  have hstep := evaluateStep s.runtime c
  generalize evaluateSmartCharging s.runtime c = out at hstep ⊢
  cases hstep with
  | fault hf => simp [importStep, ImportHistory.record, live, unpluggedCall, hf, prunedRuntime, h]
  | pause hf hp => simp [importStep, ImportHistory.record, live, unpluggedCall, hf, hp, prunedRuntime, h]
  | unplugged hf hp hv => simp [importStep, ImportHistory.record, live, unpluggedCall, hf, hp, hv, resetTimers]
  | cooldown hf hp hv hc => simp [importStep, ImportHistory.record, live, unpluggedCall, hf, hp, hv, hc, prunedRuntime, h]
  | keepImporting hl hd hk => exact (hrecorded hl).symm
  | reduceBeforeStop hl hd hk hr => exact (hrecorded hl).symm
  | stopDelay hl hd hk hr hs => exact (hrecorded hl).symm
  | stop hl hd hk hr hs => exact (hrecorded hl).symm
  | rateLimited hl hd hp hr => exact (hrecorded hl).symm
  | waitingForExport hl hd hp hr he => exact (hrecorded hl).symm
  | startDelay hl hd hp hr he hs => exact (hrecorded hl).symm
  | start hl hd hp hr he hs => exact (hrecorded hl).symm
  | settled hl hd hp hs hc => exact (hrecorded hl).symm
  | reissue hl hd hp hs hc => exact (hrecorded hl).symm
  | rampMove hl hd hp hs => exact (hrecorded hl).symm

/-! ### Runs -/

/-- A moment is no longer ago than the temporary import may last. -/
def withinLimit (c : EvaluateCall) (since : Option Instant) : Prop :=
  c.now - since.getD c.now ≤ c.config.temporaryGridImportSeconds

instance (c : EvaluateCall) (since : Option Instant) : Decidable (withinLimit c since) :=
  inferInstanceAs (Decidable (_ ≤ _))

/-- The session is kept running on an import only within the limit, counted from the moment since which there is such
an import; and within the limit it is kept running, if it may be. -/
def TemporaryOnly (s : ImportRun) (c : EvaluateCall) : Prop :=
  (TakesImport s.runtime c →
    ∃ since, (importStep s c).history.importSince = some since ∧ c.now - since ≤ c.config.temporaryGridImportSeconds) ∧
  (mayTakeImport s.runtime c = true → importsTemporarily c = true →
    withinLimit c (importStep s c).history.importSince → TakesImport s.runtime c)

/-- Where the allowance matters, both moments are within the limit, or neither is. -/
def SinceAgrees (s : ImportRun) (c : EvaluateCall) : Prop :=
  mayTakeImport s.runtime c = true → importsTemporarily c = true →
    (withinLimit c s.history.withinSince ↔ withinLimit c s.history.importSince)

instance (s : ImportRun) (c : EvaluateCall) : Decidable (SinceAgrees s c) := inferInstanceAs (Decidable (_ → _))

theorem temporaryOnly_iff {s : ImportRun} {c : EvaluateCall}
    (h : s.runtime.temporaryImportSince = s.history.withinSince) : TemporaryOnly s c ↔ SinceAgrees s c := by
  unfold TemporaryOnly SinceAgrees
  by_cases himports : importsTemporarily c = true
  · have hwithin : c.slowSignals.gridImportW ≤ c.config.temporaryGridImportAllowanceW := by
      unfold importsTemporarily at himports
      simp only [Bool.and_eq_true, decide_eq_true_eq] at himports
      exact himports.2
    have hrecorded : (importStep s c).history.importSince = some (s.history.importSince.getD c.now) := if_pos himports
    have hok : importOk s.runtime c = true ↔ withinLimit c s.history.withinSince := by
      rw [importOk_iff hwithin, h]
      exact Iff.rfl
    have hlimit : withinLimit c (importStep s c).history.importSince ↔ withinLimit c s.history.importSince := by
      rw [hrecorded]
      exact Iff.rfl
    have hexists : (∃ since, (importStep s c).history.importSince = some since ∧
        c.now - since ≤ c.config.temporaryGridImportSeconds) ↔ withinLimit c s.history.importSince := by
      rw [hrecorded]
      constructor
      · rintro ⟨since, hsince, hle⟩
        rw [← Option.some.inj hsince] at hle
        exact hle
      · exact fun hle => ⟨_, rfl, hle⟩
    rw [takesImport_iff, hok, hlimit, hexists]
    simp only [himports, true_and, forall_const]
    constructor
    · exact fun ⟨hlimited, hunused⟩ hmay => ⟨fun hin => hlimited ⟨hmay, hin⟩, fun hin => (hunused hmay hin).2⟩
    · exact fun hagrees => ⟨fun ⟨hmay, hin⟩ => (hagrees hmay).mp hin, fun hmay hin => ⟨hmay, (hagrees hmay).mpr hin⟩⟩
  · refine iff_of_true ⟨fun htakes => ?_, fun _ h => absurd h himports⟩ fun _ h => absurd h himports
    exact absurd ((takesImport_iff _ _).mp htakes).2.1 himports

/-- **When the temporary import is temporary.** In a run of a runtime whose timer is not running, every call keeps the
session running on the allowance for the time of the import exactly if, wherever it matters, the import and the calls
within the allowance have lasted within the limit both, or beyond it both. -/
theorem temporaryImport_run (r : SmartChargingRuntime) (calls : List EvaluateCall)
    (hr : r.temporaryImportSince = none) :
    AllSteps importStep TemporaryOnly { runtime := r } calls ↔ AllSteps importStep SinceAgrees { runtime := r } calls := by
  have hall : AllSteps importStep (fun _ _ => True) { runtime := r } calls :=
    AllSteps.of_forall_mem (P := fun _ => True) fun _ _ => trivial
  exact AllSteps.congr_of_invariant (I := fun s => s.runtime.temporaryImportSince = s.history.withinSince)
    (fun _ _ h _ _ => timer_step h) (fun _ _ h _ => temporaryOnly_iff h) hr hall

/-- An urgent start without any import. -/
def startCall : EvaluateCall :=
  { optimizerTargetA := 16, optimizerReason := "deadline_risk", isCharging := false, now := 0 }

/-- An import of 500 W with nothing wanted. -/
def importCall (now : Instant) : EvaluateCall :=
  { optimizerTargetA := 0, slowSignals := { gridImportW := 500 }, isCharging := true, now := now }

/-- An import that begins 100 s after the start. -/
theorem temporaryImport_run_early : AllSteps importStep TemporaryOnly {} [startCall, importCall 100] :=
  (temporaryImport_run {} [startCall, importCall 100] rfl).mpr (by decide +kernel)

/-- **An allowance that is used up.** An import that begins 200 s after the start is not tolerated at all: the limit of
180 s has been counted from the start. -/
theorem allowance_used_up : ¬ AllSteps importStep TemporaryOnly {} [startCall, importCall 200] ∧
      (evaluateSmartCharging (importStep {} startCall).runtime (importCall 200)).2.reason = "reduce_before_stop" := by
  refine ⟨fun h => ?_, by decide +kernel⟩
  have hmay : mayTakeImport (importStep {} startCall).runtime (importCall 200) = true := by decide +kernel
  have himports : importsTemporarily (importCall 200) = true := by decide +kernel
  have hlimit : withinLimit (importCall 200)
      (importStep (importStep {} startCall) (importCall 200)).history.importSince := by decide +kernel
  have htakes : ¬ TakesImport (importStep {} startCall).runtime (importCall 200) := by decide +kernel
  exact htakes (h.2.1.2 hmay himports hlimit)

end EnergyCore.Charging
