import EnergyCore.Accounting.EvTimeline
import EnergyCore.Accounting.SessionLog

/-!
# The energy of an EV session and the register

While a session is sampled without a restart, its intervals should add up to the movement of the register.

* `sampleStep_simulates` — a sample of an active session is a sample of its log;
* `telescopes_iff` — the intervals add up exactly if no sample falls back on the power while the register
  stands still.
-/

namespace EnergyCore.Accounting

open OpenRows StepRun

/-- The energy stored for a session. -/
def EvAccounting.sessionKwh (s : EvAccounting) (sessionId : ℕ) : ℚ :=
  ((s.intervalsOf sessionId).map fun i => i.chargedEnergyKwh).sum

/-- A sample of a charger, under observation. -/
def sampleStep (c : ℕ) (w : Metered EvAccounting) (input : SampleInput) : Metered EvAccounting :=
  w.sample EvAccounting.intervals (w.accounting.sampleActiveSession c input) input.meter

/-- The session `id` is the active one of the charger. -/
def IsSampled (c id : ℕ) (startedAt : Instant) (w : Metered EvAccounting) : Prop :=
  evSessionTable.WellKept w.accounting.sessions ∧
    ∃ a, w.accounting.getActiveForCharger c = some a ∧ a.id = id ∧ a.startedAt = startedAt

/-- The log of a session, as its charger and the interval table hold it. -/
def logOf (c id : ℕ) (w : Metered EvAccounting) : SessionLog where
  anchors := (w.accounting.runtime c).toSampleAnchors
  intervals := w.accounting.intervalsOf id
  recordedKwh := w.recordedKwh
  sampledKwh := w.sampledKwh

/-- **A sample of an active session is a sample of its log.** -/
theorem sampleStep_simulates {c id : ℕ} {startedAt : Instant} {w : Metered EvAccounting}
    (h : IsSampled c id startedAt w) (input : SampleInput) : IsSampled c id startedAt (sampleStep c w input) ∧
      logOf c id (sampleStep c w input) = (LogEvent.sample input).apply id startedAt (logOf c id w) := by
  obtain ⟨hkept, a, hactive, rfl, rfl⟩ := h
  obtain ⟨hmem, rfl, hstatus⟩ := Inv.of_getActive hactive
  obtain ⟨totals, heq⟩ := sampleActiveSession_eq hactive input
  have hintervals := takeSample_intervals input a.id a.startedAt (w.accounting.runtime a.chargerId).toSampleAnchors
  have hkept' := hkept.update (f := fun r => { r with totals := totals r }) a.id (fun _ => rfl)
    (fun _ => rfl) (fun _ h => h)
  have hmem' : { a with totals := totals a } ∈ evSessionTable.updateRow w.accounting.sessions a.id
      (fun r => { r with totals := totals r }) :=
    mem_updateRow.mpr ⟨a, hmem, if_pos rfl⟩
  have hopen := hkept'.openRow_eq hmem' (decide_eq_true hstatus)
  simp only [sampleStep, Metered.sample, logOf, LogEvent.apply, heq]
  refine ⟨⟨hkept', _, hopen, rfl, rfl⟩, ?_⟩
  rw [recordedKwh_observed, Function.update_self]
  refine congrArg (fun intervals => SessionLog.mk _ intervals _ _) ?_
  show (w.accounting.intervals ++ _).filter _ = w.accounting.intervals.filter _ ++ _
  rw [List.filter_append]
  refine congrArg _ (List.filter_eq_self.mpr fun i hi => decide_eq_true ?_)
  exact (hintervals i hi).1

/-! ### Telescoping -/

/-- Without a restart, the meter anchor is the register at the last recorded interval. -/
def SessionLog.Current (log : SessionLog) : Prop :=
  log.Anchored ∧ log.anchors.lastMeterKwh = some log.recordedKwh

theorem current_step {log : SessionLog} (h : log.Current) {input : SampleInput}
    (hadmissible : (LogEvent.sample input).Admissible log) (id : ℕ) (startedAt : Instant) :
    ((LogEvent.sample input).apply id startedAt log).Current := by
  refine ⟨(excess_step h.1 hadmissible).1, ?_⟩
  obtain ⟨v, hv, -⟩ := hadmissible
  simp only [LogEvent.apply]
  cases takeSample input id startedAt log.anchors with
  | skipped => exact h.2
  | advanced => exact h.2
  | recorded i =>
    simp only [SampleOutcome.anchors, SampleOutcome.recordedKwh, hv, Option.getD_some]

theorem countsTwice_iff_fallsBack {log : SessionLog} (h : log.Current) (input : SampleInput) :
    (LogEvent.sample input).CountsTwice log ↔ FallsBack log.anchors input := by
  refine or_iff_left ?_
  rintro ⟨m, t, hanchors, -, hbehind⟩
  have hm := h.2
  rw [hanchors] at hm
  exact absurd hbehind (not_lt.mpr (Option.some_inj.mp hm).ge)

/-- A sample of the log finds a register that is present and not below the one before. -/
def RegisterPresent (w : Metered EvAccounting) (input : SampleInput) : Prop :=
  ∃ v, input.meter.cumulativeKwh = some v ∧ w.sampledKwh ≤ v

theorem registerPresent_of_neverDecreases (c : ℕ) {w : Metered EvAccounting} {inputs : List SampleInput}
    (hregister : RegisterNeverDecreases w.sampledKwh (inputs.map fun i => i.meter)) :
    AllSteps (sampleStep c) RegisterPresent w inputs := by
  induction inputs generalizing w with
  | nil => trivial
  | cons input inputs ih =>
    obtain ⟨v, hv, hle, hrest⟩ := hregister
    have hv' : input.meter.cumulativeKwh = some v := hv
    have hsampled : (sampleStep c w input).sampledKwh = v := by
      simp only [sampleStep, Metered.sample, hv', Option.getD_some]
    refine ⟨⟨v, hv', hle⟩, ih ?_⟩
    rw [hsampled]
    exact hrest

/-- **Interval energy and the register, from any point.** While an active session is sampled from current
anchors, its energy keeps up with the register exactly if no sample falls back on the power. -/
theorem excessKwh_sampled_iff {c id : ℕ} {startedAt : Instant} {w : Metered EvAccounting}
    (h : IsSampled c id startedAt w) (hcurrent : (logOf c id w).Current)
    {inputs : List SampleInput} (hinputs : AllSteps (sampleStep c) RegisterPresent w inputs) :
    (logOf c id (run (sampleStep c) w inputs)).excessKwh = (logOf c id w).excessKwh ↔ AllSteps (sampleStep c)
        (fun w input => ¬ FallsBack (w.accounting.runtime c).toSampleAnchors input) w inputs := by
  have hkeep : ∀ w input, IsSampled c id startedAt w → RegisterPresent w input →
      IsSampled c id startedAt (sampleStep c w input) :=
    fun w input hw _ => (sampleStep_simulates hw input).1
  have hlog : ∀ w input, IsSampled c id startedAt w → RegisterPresent w input → logOf c id (sampleStep c w input)
        = (LogEvent.sample input).apply id startedAt (logOf c id w) :=
    fun w input hw _ => (sampleStep_simulates hw input).2
  have hadmissible := (AllSteps.simulates (g := LogEvent.sample)
    (P := fun log e => e.Admissible log) hkeep hlog h hinputs).mpr hinputs
  rw [run_simulates hkeep hlog h hinputs, excessKwh_run_iff hcurrent.1 hadmissible,
    AllSteps.simulates hkeep hlog h hinputs]
  refine AllSteps.congr_of_invariant (C := RegisterPresent)
    (I := fun w => IsSampled c id startedAt w ∧ (logOf c id w).Current) ?_ ?_ ⟨h, hcurrent⟩ hinputs
  · rintro w input ⟨hw, hcur⟩ hinput -
    refine ⟨hkeep w input hw hinput, ?_⟩
    rw [hlog w input hw hinput]
    exact current_step hcur hinput id startedAt
  · rintro w input ⟨-, hcur⟩ -
    exact not_congr (countsTwice_iff_fallsBack hcur input)

/-- What a session that starts looks like. -/
theorem processCharger_started {s : EvAccounting} {samples : ℕ → List (ℕ × MeterSnapshot)}
    (h : Inv s samples) {c siteId : ℕ} {meter : MeterSnapshot}
    (hnone : s.getActiveForCharger c = none) {s' : EvAccounting} {id : ℕ}
    (hstart : s.processCharger c siteId meter = (s', some id)) {r₀ : ℚ} (hr₀ : meter.cumulativeKwh = some r₀) :
    IsSampled c id meter.recordedAt ⟨s', r₀, r₀⟩ ∧
      logOf c id ⟨s', r₀, r₀⟩ = ⟨⟨some r₀, some meter.recordedAt⟩, [], r₀, r₀⟩ := by
  have hinv := h.processCharger c siteId meter
  rw [hstart] at hinv
  unfold EvAccounting.processCharger at hstart
  simp only [hnone] at hstart
  split_ifs at hstart with hconnected
  · obtain ⟨rfl, hid⟩ := Prod.mk.inj hstart
    obtain rfl : s.sessions.length = id := Option.some_inj.mp hid
    have hopen := hinv.wellKept.openRow_eq (List.mem_append_right s.sessions List.mem_cons_self)
      rfl
    refine ⟨⟨hinv.wellKept, _, hopen, rfl, rfl⟩, ?_⟩
    have hnew : s.intervalsOf s.sessions.length = [] := by
      rw [EvAccounting.intervalsOf, List.filter_eq_nil_iff]
      intro i hi heq
      have hlt := h.known i hi
      rw [of_decide_eq_true heq] at hlt
      exact lt_irrefl _ hlt
    simp only [logOf, Function.update_self, hr₀]
    exact congrArg (fun intervals => SessionLog.mk _ intervals _ _) hnew
  · exact absurd (Prod.mk.inj hstart).2 (by simp)

/-- Half-hourly samples at 2 kW of a register that shows whole steps of 2 kWh. -/
def coarseSample (recordedAt : Instant) (cumulativeKwh : ℚ) : SampleInput :=
  { meter := { recordedAt := recordedAt, cumulativeKwh := some cumulativeKwh, powerW := some 2000 } }

def coarseStart : MeterSnapshot :=
  { recordedAt := 0, cumulativeKwh := some 10, vehicleConnected := true }

def coarseSession : EvAccounting := (EvAccounting.processCharger {} 1 1 coarseStart).1

end EnergyCore.Accounting
