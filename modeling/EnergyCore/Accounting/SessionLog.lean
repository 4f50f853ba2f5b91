import EnergyCore.Accounting.IntervalSampling
import EnergyCore.Foundations.StepRun
import EnergyCore.Foundations.Timeline

/-!
# The log of one session

What the samples and restarts of one session amount to, apart from the tables that hold it: the anchors, the
intervals, and the register where it was last recorded and last sampled.

* `LogEvent.CountsTwice` — the samples that store energy which the register counts elsewhere as well;
* `excess_step` — a step stores more than the register moved exactly if it counts twice;
* `excessKwh_run_iff` — the stored energy of a run is the movement of the register exactly if no step
  counts twice.
-/

namespace EnergyCore.Accounting

open StepRun

/-- One session and its anchors, with the register at the last recorded interval (at the start of the session
before the first), and at the last sample. -/
structure SessionLog where
  anchors : SampleAnchors
  intervals : List ChargingInterval
  recordedKwh : ℚ
  sampledKwh : ℚ

inductive LogEvent where
  | sample (input : SampleInput)
  | reanchor (anchors : SampleAnchors)

namespace SessionLog

/-- The energy of the intervals. -/
def chargedKwh (log : SessionLog) : ℚ := (log.intervals.map fun i => i.chargedEnergyKwh).sum

/-- What the intervals hold beyond the movement of the register, up to where it started. -/
def excessKwh (log : SessionLog) : ℚ := log.chargedKwh - log.recordedKwh

end SessionLog

/-- The register at the last recorded interval, after a sample. -/
def SampleOutcome.recordedKwh (before : ℚ) (meter : MeterSnapshot) : SampleOutcome → ℚ
  | recorded _ => meter.cumulativeKwh.getD before
  | _ => before

namespace LogEvent

def apply (sessionId : ℕ) (startedAt : Instant) (log : SessionLog) : LogEvent → SessionLog
  | sample input =>
    let outcome := takeSample input sessionId startedAt log.anchors
    { anchors := outcome.anchors log.anchors input.meter
      intervals := log.intervals ++ outcome.intervals
      recordedKwh := outcome.recordedKwh log.recordedKwh input.meter
      sampledKwh := input.meter.cumulativeKwh.getD log.sampledKwh }
  | reanchor anchors => { log with anchors := anchors }

end LogEvent

/-- Time has passed, the register has not moved, and the powers make more than 0.05 Wh. -/
def FallsBack (anchors : SampleAnchors) (input : SampleInput) : Prop :=
  ∃ m t, anchors = ⟨some m, some t⟩ ∧ t < input.meter.recordedAt ∧
    input.meter.cumulativeKwh = some m ∧
    (1 / 20 < input.meter.powerW.getD 0 * durationHours t input.meter.recordedAt ∨
      1 / 20 < input.energySample.evPowerW * durationHours t input.meter.recordedAt)

namespace LogEvent

/-- A sample stores energy twice: it falls back on the power, while the next step of the register covers
the same time, or its meter anchor is behind what was recorded. -/
def CountsTwice (log : SessionLog) : LogEvent → Prop
  | sample input => FallsBack log.anchors input ∨
      ∃ m t, log.anchors = ⟨some m, some t⟩ ∧ t < input.meter.recordedAt ∧ m < log.recordedKwh
  | reanchor _ => False

/-- The register is present, and it never decreases; anchors are only moved back. -/
def Admissible (log : SessionLog) : LogEvent → Prop
  | sample input => ∃ v, input.meter.cumulativeKwh = some v ∧ log.sampledKwh ≤ v
  | reanchor anchors => ∃ m t, anchors = ⟨some m, some t⟩ ∧ m ≤ log.recordedKwh

end LogEvent

/-- Both anchors are known, and no reading is behind an earlier one. -/
structure SessionLog.Anchored (log : SessionLog) : Prop where
  anchors : ∃ m t, log.anchors = ⟨some m, some t⟩ ∧ m ≤ log.recordedKwh
  register : log.recordedKwh ≤ log.sampledKwh

/-! ### One sample -/

/-- The four ways of a sample whose anchors and register are known. -/
inductive RegisterStep (input : SampleInput) (sessionId : ℕ) (m : ℚ) (t : Instant) (v : ℚ) :
    SampleOutcome → Prop where
  | skipped (hlate : input.meter.recordedAt ≤ t) : RegisterStep input sessionId m t v .skipped
  | advanced (htime : t < input.meter.recordedAt) (hregister : v ≤ m)
      (hpower : fallbackEnergyKwh input.meter input.energySample.evPowerW
        (durationHours t input.meter.recordedAt) = 0) :
      RegisterStep input sessionId m t v .advanced
  | measured (htime : t < input.meter.recordedAt) (hregister : m < v) (i : ChargingInterval)
      (hsession : i.sessionId = sessionId) (hstart : i.startTime = t)
      (hend : i.endTime = input.meter.recordedAt) (hcharged : i.chargedEnergyKwh = v - m) :
      RegisterStep input sessionId m t v (.recorded i)
  | estimated (htime : t < input.meter.recordedAt) (hregister : v ≤ m)
      (hpower : 0 < fallbackEnergyKwh input.meter input.energySample.evPowerW
        (durationHours t input.meter.recordedAt)) (i : ChargingInterval)
      (hsession : i.sessionId = sessionId) (hstart : i.startTime = t)
      (hend : i.endTime = input.meter.recordedAt)
      (hcharged : i.chargedEnergyKwh = fallbackEnergyKwh input.meter input.energySample.evPowerW
        (durationHours t input.meter.recordedAt)) :
      RegisterStep input sessionId m t v (.recorded i)

theorem takeSample_register (input : SampleInput) (sessionId : ℕ) (startedAt : Instant)
    {m v : ℚ} {t : Instant} (hv : input.meter.cumulativeKwh = some v) :
    RegisterStep input sessionId m t v (takeSample input sessionId startedAt ⟨some m, some t⟩) := by
  have hstep := takeSample_step input sessionId startedAt ⟨some m, some t⟩
  generalize takeSample input sessionId startedAt ⟨some m, some t⟩ = outcome at hstep ⊢
  cases hstep with
  | skipped hlate => exact .skipped hlate
  | advanced htime hregister hpower => exact .advanced htime (hregister m v rfl hv) hpower
  | measured htime last cumulative hlast hcumulative hstep =>
    obtain rfl : m = last := Option.some_inj.mp hlast
    obtain rfl : v = cumulative := Option.some_inj.mp (hv.symm.trans hcumulative)
    exact .measured htime hstep _ rfl rfl rfl rfl
  | estimated htime hregister hpower =>
    exact .estimated htime (hregister m v rfl hv) hpower _ rfl rfl rfl rfl

/-- With known anchors and register, falling back is a matter of the powers. -/
theorem fallsBack_iff {input : SampleInput} {m v : ℚ} {t : Instant}
    (hv : input.meter.cumulativeKwh = some v) (htime : t < input.meter.recordedAt) :
    FallsBack ⟨some m, some t⟩ input ↔ v = m ∧ 0 < fallbackEnergyKwh input.meter input.energySample.evPowerW
        (durationHours t input.meter.recordedAt) := by
  rw [fallbackEnergyKwh_pos_iff _ _ ((durationHours_pos_iff _ _).mpr htime)]
  constructor
  · rintro ⟨m', t', hanchors, -, hm, hpower⟩
    obtain ⟨rfl, rfl⟩ : m = m' ∧ t = t' := by simpa using hanchors
    exact ⟨Option.some_inj.mp (hv.symm.trans hm), hpower⟩
  · rintro ⟨rfl, hpower⟩
    exact ⟨_, t, rfl, htime, hv, hpower⟩

theorem not_countsTwice_of_late {log : SessionLog} {input : SampleInput} {m : ℚ} {t : Instant}
    (hanchors : log.anchors = ⟨some m, some t⟩) (hlate : input.meter.recordedAt ≤ t) :
    ¬ (LogEvent.sample input).CountsTwice log := by
  rintro (⟨m', t', hanchors', htime, -⟩ | ⟨m', t', hanchors', htime, -⟩)
  all_goals
    rw [hanchors] at hanchors'
    obtain ⟨-, rfl⟩ : m = m' ∧ t = t' := by simpa using hanchors'
    exact absurd htime (not_lt.mpr hlate)

theorem countsTwice_iff {log : SessionLog} {input : SampleInput} {m v : ℚ} {t : Instant}
    (hanchors : log.anchors = ⟨some m, some t⟩) (hv : input.meter.cumulativeKwh = some v)
    (htime : t < input.meter.recordedAt) : (LogEvent.sample input).CountsTwice log ↔
      (v = m ∧ 0 < fallbackEnergyKwh input.meter input.energySample.evPowerW
        (durationHours t input.meter.recordedAt)) ∨ m < log.recordedKwh := by
  rw [LogEvent.CountsTwice, hanchors, fallsBack_iff hv htime]
  refine or_congr_right ⟨?_, fun h => ⟨m, t, rfl, htime, h⟩⟩
  rintro ⟨m', t', hanchors', -, hbehind⟩
  obtain ⟨rfl, -⟩ : m = m' ∧ t = t' := by simpa using hanchors'
  exact hbehind

/-! ### Runs -/

section

variable {sessionId : ℕ} {startedAt : Instant} {log : SessionLog}

theorem apply_sample_of_none {input : SampleInput} {v : ℚ}
    (hv : input.meter.cumulativeKwh = some v) {outcome : SampleOutcome}
    (houtcome : takeSample input sessionId startedAt log.anchors = outcome)
    (hnone : outcome = .skipped ∨ outcome = .advanced) : (LogEvent.sample input).apply sessionId startedAt log
      = ⟨outcome.anchors log.anchors input.meter, log.intervals, log.recordedKwh, v⟩ := by
  rcases hnone with rfl | rfl
  all_goals
    simp only [LogEvent.apply, houtcome, SampleOutcome.intervals, SampleOutcome.recordedKwh, hv,
      List.append_nil, Option.getD_some]

theorem apply_sample_of_recorded {input : SampleInput} {v : ℚ}
    (hv : input.meter.cumulativeKwh = some v) {i : ChargingInterval}
    (houtcome : takeSample input sessionId startedAt log.anchors = .recorded i) :
    (LogEvent.sample input).apply sessionId startedAt log
      = ⟨⟨some v, some input.meter.recordedAt⟩, log.intervals ++ [i], v, v⟩ := by
  simp only [LogEvent.apply, houtcome, SampleOutcome.intervals, SampleOutcome.anchors,
    SampleOutcome.recordedKwh, hv, Option.getD_some]

theorem excessKwh_concat (log : SessionLog) (anchors : SampleAnchors) (i : ChargingInterval) (v : ℚ) :
    SessionLog.excessKwh ⟨anchors, log.intervals ++ [i], v, v⟩
      = log.excessKwh + (i.chargedEnergyKwh - (v - log.recordedKwh)) := by
  unfold SessionLog.excessKwh SessionLog.chargedKwh
  rw [List.map_append, List.sum_append, List.map_singleton, List.sum_singleton]
  ring

/-- **What a step adds beyond the register's movement.** Nothing, unless it counts twice. -/
theorem excess_step (h : log.Anchored) {e : LogEvent} (he : e.Admissible log) :
    (e.apply sessionId startedAt log).Anchored ∧ log.excessKwh ≤ (e.apply sessionId startedAt log).excessKwh ∧
      ((e.apply sessionId startedAt log).excessKwh = log.excessKwh ↔ ¬ e.CountsTwice log) := by
  cases e with
  | reanchor anchors => exact ⟨⟨he, h.register⟩, le_rfl, iff_of_true rfl not_false⟩
  | sample input =>
    obtain ⟨m, t, hanchors, hm⟩ := h.anchors
    obtain ⟨v, hv, hle⟩ := he
    have hrecorded : log.recordedKwh ≤ v := h.register.trans hle
    have hstep := takeSample_register (m := m) (t := t) input sessionId startedAt hv
    rw [← hanchors] at hstep
    generalize houtcome : takeSample input sessionId startedAt log.anchors = outcome at hstep
    cases hstep with
    | skipped hlate =>
      rw [apply_sample_of_none hv houtcome (.inl rfl)]
      exact ⟨⟨⟨m, t, hanchors, hm⟩, hrecorded⟩, le_rfl, iff_of_true rfl (not_countsTwice_of_late hanchors hlate)⟩
    | advanced htime hregister hpower =>
      rw [apply_sample_of_none hv houtcome (.inr rfl), countsTwice_iff hanchors hv htime, hpower]
      refine ⟨⟨⟨m, _, by rw [hanchors]; rfl, hm⟩, hrecorded⟩, le_rfl, iff_of_true rfl ?_⟩
      rintro (⟨-, hpos⟩ | hbehind)
      · exact lt_irrefl _ hpos
      · exact absurd (hbehind.trans_le hrecorded) (not_lt.mpr hregister)
    | measured htime hregister i _ _ _ hcharged =>
      rw [apply_sample_of_recorded hv houtcome, excessKwh_concat, hcharged, countsTwice_iff hanchors hv htime]
      refine ⟨⟨⟨v, _, rfl, le_rfl⟩, le_rfl⟩, by linarith, ?_⟩
      rw [not_or, not_and, not_lt]
      constructor
      · intro heq
        exact ⟨fun hsame => absurd hsame hregister.ne', by linarith⟩
      · rintro ⟨-, hbehind⟩
        linarith
    | estimated htime hregister hpower i _ _ _ hcharged =>
      have hsame : v = m := le_antisymm hregister (hm.trans hrecorded)
      have hnone : v = log.recordedKwh := le_antisymm (hregister.trans hm) hrecorded
      rw [apply_sample_of_recorded hv houtcome, excessKwh_concat, hcharged,
        countsTwice_iff hanchors hv htime, hnone, sub_self, sub_zero]
      refine ⟨⟨⟨_, _, rfl, le_rfl⟩, le_rfl⟩, le_add_of_nonneg_right hpower.le,
        iff_of_false ?_ (not_not.mpr (.inl ⟨hnone ▸ hsame, hpower⟩))⟩
      rw [add_eq_left]
      exact hpower.ne'

/-- **The energy of a run.** From anchored beginnings and with admissible samples, the excess stays what it
was exactly if no step counts twice. -/
theorem excessKwh_run_iff (h : log.Anchored) {es : List LogEvent}
    (hes : AllSteps (LogEvent.apply sessionId startedAt) (fun log e => e.Admissible log) log es) :
    (run (LogEvent.apply sessionId startedAt) log es).excessKwh = log.excessKwh ↔
      AllSteps (LogEvent.apply sessionId startedAt) (fun log e => ¬ e.CountsTwice log) log es :=
  run_eq_iff_allSteps (I := SessionLog.Anchored) (μ := SessionLog.excessKwh)
    (fun _ _ hlog he => ⟨(excess_step hlog he).1, (excess_step hlog he).2.1⟩)
    (fun _ _ hlog he => (excess_step hlog he).2.2) h hes

end

/-! ### Registers that never decrease -/

/-- Every reading has a register, and none is below the one before. -/
def RegisterNeverDecreases : ℚ → List MeterSnapshot → Prop
  | _, [] => True
  | r, m :: meters => ∃ v, m.cumulativeKwh = some v ∧ r ≤ v ∧ RegisterNeverDecreases v meters

/-- A session together with an observer, who notes the register whenever an interval is stored, and at
every sample. -/
structure Metered (σ : Type*) where
  accounting : σ
  recordedKwh : ℚ
  sampledKwh : ℚ

/-- A sample under observation. -/
def Metered.sample {σ : Type*} (intervals : σ → List ChargingInterval) (next : σ)
    (meter : MeterSnapshot) (w : Metered σ) : Metered σ where
  accounting := next
  recordedKwh :=
    if (intervals next).length = (intervals w.accounting).length then w.recordedKwh
    else meter.cumulativeKwh.getD w.recordedKwh
  sampledKwh := meter.cumulativeKwh.getD w.sampledKwh

/-- The observer notes what the outcome says. -/
theorem recordedKwh_observed (intervals : List ChargingInterval) (outcome : SampleOutcome)
    (before : ℚ) (meter : MeterSnapshot) : (if (intervals ++ outcome.intervals).length = intervals.length then before
      else meter.cumulativeKwh.getD before) = outcome.recordedKwh before meter := by
  cases outcome with
  | skipped => simp [SampleOutcome.intervals, SampleOutcome.recordedKwh]
  | advanced => simp [SampleOutcome.intervals, SampleOutcome.recordedKwh]
  | recorded i => simp [SampleOutcome.intervals, SampleOutcome.recordedKwh]

end EnergyCore.Accounting
