import EnergyCore.Accounting.SessionLog

/-!
# The log of a session across restarts

A restart moves both anchors back to the start of the session, while the intervals that are stored stay.

* `LogEvent.Resumable` — the samples that neither fall back on the power nor start behind a stored interval;
* `CountedSoFar` — what a log looks like in which nothing is counted twice, with its step lemma;
* `resumable_iff_not_countsTwice`, `countedOnce_step_iff` — in such a log, a step that counts twice is one
  that is not resumable, and it is noticed at once;
* `countedOnce_run_iff` — every step of a run leaves disjoint intervals within the register exactly if
  every step is resumable.
-/

namespace EnergyCore.Accounting

open StepRun Timeline

/-- The intervals are disjoint in time, and hold no more than the register moved since `startKwh`. -/
structure SessionLog.CountedOnce (startKwh : ℚ) (log : SessionLog) : Prop where
  disjoint : log.intervals.Pairwise fun i j =>
    Disjoint (Set.Ico i.startTime i.endTime) (Set.Ico j.startTime j.endTime)
  bounded : log.chargedKwh ≤ log.sampledKwh - startKwh

namespace LogEvent

/-- A sample neither falls back on the power, nor starts before the end of a stored interval. -/
def Resumable (log : SessionLog) : LogEvent → Prop
  | sample input => ¬ FallsBack log.anchors input ∧
      ∀ t, log.anchors.lastSampleAt = some t → t < input.meter.recordedAt →
        ∀ i ∈ log.intervals, i.endTime ≤ t
  | reanchor _ => True

/-- The samples of a session that started at `startKwh` and `startedAt`, and its restarts. -/
def OfSession (startKwh : ℚ) (startedAt : Instant) (log : SessionLog) : LogEvent → Prop
  | sample input => ∃ v, input.meter.cumulativeKwh = some v ∧ log.sampledKwh ≤ v
  | reanchor anchors => anchors = ⟨some startKwh, some startedAt⟩

end LogEvent

/-- The anchors are where the last interval left them, or back behind an interval and behind the register that
was recorded with it. -/
inductive AnchorPosition (log : SessionLog) (m : ℚ) (t : Instant) : Prop where
  | current (hmeter : m = log.recordedKwh) (hclock : ∀ i ∈ log.intervals, i.endTime ≤ t)
  | behind (hmeter : m < log.recordedKwh) (i : ChargingInterval) (hi : i ∈ log.intervals)
      (hclock : t < i.endTime)

/-- Nothing was counted twice so far: the energy is the movement of the register, and the anchors of the
session are at one of the two positions. -/
structure SessionLog.CountedSoFar (startKwh : ℚ) (startedAt : Instant) (log : SessionLog) : Prop where
  anchored : log.Anchored
  excess : log.excessKwh = -startKwh
  timeline : ∃ hi, IsTimeline (fun i : ChargingInterval => i.startTime) (fun i => i.endTime)
    startedAt hi log.intervals
  moved : log.intervals = [] ∧ log.recordedKwh = startKwh ∨
    log.intervals ≠ [] ∧ startKwh < log.recordedKwh
  position : ∃ m t, log.anchors = ⟨some m, some t⟩ ∧ startedAt ≤ t ∧ AnchorPosition log m t

theorem AnchorPosition.le {log : SessionLog} {m : ℚ} {t : Instant} (h : AnchorPosition log m t) :
    m ≤ log.recordedKwh := by
  cases h with
  | current hmeter hclock => exact hmeter.le
  | behind hmeter i hi hclock => exact hmeter.le

variable {startKwh : ℚ} {startedAt : Instant} {sessionId : ℕ} {log : SessionLog}

/-- A session that starts at a known register. -/
theorem SessionLog.CountedSoFar.start (startKwh : ℚ) (startedAt : Instant) :
    SessionLog.CountedSoFar startKwh startedAt ⟨⟨some startKwh, some startedAt⟩, [], startKwh, startKwh⟩ where
  anchored := ⟨⟨startKwh, startedAt, rfl, le_rfl⟩, le_rfl⟩
  excess := zero_sub startKwh
  timeline := ⟨startedAt, .nil startedAt startedAt⟩
  moved := .inl ⟨rfl, rfl⟩
  position := ⟨startKwh, startedAt, rfl, le_rfl, .current rfl (by simp)⟩

namespace SessionLog.CountedSoFar

theorem countedOnce (h : log.CountedSoFar startKwh startedAt) : log.CountedOnce startKwh where
  disjoint := by
    obtain ⟨hi, htimeline⟩ := h.timeline
    exact htimeline.pairwise_disjoint
  bounded := by
    have hexcess : log.chargedKwh - log.recordedKwh = -startKwh := h.excess
    have hregister := h.anchored.register
    linarith

theorem startKwh_le (h : log.CountedSoFar startKwh startedAt) : startKwh ≤ log.recordedKwh := by
  rcases h.moved with ⟨-, hsame⟩ | ⟨-, hlt⟩
  · exact hsame.ge
  · exact hlt.le

theorem admissible (h : log.CountedSoFar startKwh startedAt) {e : LogEvent}
    (he : e.OfSession startKwh startedAt log) : e.Admissible log := by
  cases e with
  | sample input => exact he
  | reanchor anchors => exact ⟨startKwh, startedAt, he, h.startKwh_le⟩

/-- A restart leaves the anchors behind, unless nothing is stored. -/
theorem reanchor (h : log.CountedSoFar startKwh startedAt) :
    SessionLog.CountedSoFar startKwh startedAt
      { log with anchors := ⟨some startKwh, some startedAt⟩ } where
  anchored := ⟨⟨startKwh, startedAt, rfl, h.startKwh_le⟩, h.anchored.register⟩
  excess := h.excess
  timeline := h.timeline
  moved := h.moved
  position := by
    refine ⟨startKwh, startedAt, rfl, le_rfl, ?_⟩
    rcases h.moved with ⟨hnil, hsame⟩ | ⟨hsome, hlt⟩
    · refine .current hsame.symm fun i hi => ?_
      rw [show log.intervals = [] from hnil] at hi
      exact absurd hi List.not_mem_nil
    · obtain ⟨i, hi⟩ := List.exists_mem_of_ne_nil _ hsome
      obtain ⟨_, htimeline⟩ := h.timeline
      exact .behind hlt i hi ((htimeline.starts i hi).trans_lt (htimeline.positive i hi))

/-- **Where counting twice comes from.** With the anchors current it is the fallback on the power; with the
anchors behind, every sample that finds time elapsed. -/
theorem resumable_iff_not_countsTwice (h : log.CountedSoFar startKwh startedAt) (e : LogEvent) :
    e.Resumable log ↔ ¬ e.CountsTwice log := by
  cases e with
  | reanchor anchors => exact iff_of_true trivial not_false
  | sample input =>
    obtain ⟨m, t, hanchors, -, hposition⟩ := h.position
    rw [LogEvent.CountsTwice, LogEvent.Resumable, not_or]
    refine and_congr_right fun _ => ?_
    rw [hanchors]
    cases hposition with
    | current hmeter hclock =>
      refine iff_of_true ?_ ?_
      · rintro t' ht - i hi
        obtain rfl : t = t' := Option.some_inj.mp ht
        exact hclock i hi
      · rintro ⟨m', t', heq, -, hbehind⟩
        obtain ⟨rfl, -⟩ : m = m' ∧ t = t' := by simpa using heq
        exact absurd hbehind (not_lt.mpr hmeter.ge)
    | behind hmeter i hi hclock =>
      constructor
      · rintro hends ⟨m', t', heq, htime, -⟩
        obtain ⟨-, rfl⟩ : m = m' ∧ t = t' := by simpa using heq
        exact absurd (hends t rfl htime i hi) (not_le.mpr hclock)
      · intro hnot t' ht htime
        obtain rfl : t = t' := Option.some_inj.mp ht
        exact absurd ⟨m, t, rfl, htime, hmeter⟩ hnot

/-- A sample that stores nothing, and leaves the anchors at one of the two positions. -/
theorem unstored (h : log.CountedSoFar startKwh startedAt) {m v : ℚ} {t : Instant}
    (hle : log.sampledKwh ≤ v) (hstart : startedAt ≤ t) (hposition : AnchorPosition log m t) :
    SessionLog.CountedSoFar startKwh startedAt ⟨⟨some m, some t⟩, log.intervals, log.recordedKwh, v⟩ where
  anchored := ⟨⟨m, t, rfl, hposition.le⟩, h.anchored.register.trans hle⟩
  excess := h.excess
  timeline := h.timeline
  moved := h.moved
  position := by
    refine ⟨m, t, rfl, hstart, ?_⟩
    cases hposition with
    | current hmeter hclock => exact .current hmeter hclock
    | behind hmeter i hi hclock => exact .behind hmeter i hi hclock

/-- A sample that stores a step of the register from current anchors. -/
theorem stored (h : log.CountedSoFar startKwh startedAt) {v : ℚ} {t now : Instant}
    {i : ChargingInterval} (hregister : log.recordedKwh < v) (hstart : startedAt ≤ t)
    (hclock : ∀ i ∈ log.intervals, i.endTime ≤ t) (htime : t < now) (histart : i.startTime = t)
    (hiend : i.endTime = now) (hcharged : i.chargedEnergyKwh = v - log.recordedKwh) :
    SessionLog.CountedSoFar startKwh startedAt ⟨⟨some v, some now⟩, log.intervals ++ [i], v, v⟩ where
  anchored := ⟨⟨v, now, rfl, le_rfl⟩, le_rfl⟩
  excess := by
    rw [excessKwh_concat, hcharged, sub_self, add_zero]
    exact h.excess
  timeline := by
    obtain ⟨_, htimeline⟩ := h.timeline
    subst histart hiend
    exact ⟨i.endTime, (htimeline.of_stops_le hclock).concat hstart le_rfl htime⟩
  moved := .inr ⟨by simp, h.startKwh_le.trans_lt hregister⟩
  position := by
    refine ⟨v, now, rfl, hstart.trans htime.le, .current rfl fun j hj => ?_⟩
    rcases List.mem_append.mp hj with hj | hj
    · exact (hclock j hj).trans htime.le
    · rw [List.mem_singleton.mp hj, hiend]

/-- **One step.** A step that does not count twice leaves a log in which nothing is. -/
theorem step (h : log.CountedSoFar startKwh startedAt) {e : LogEvent}
    (he : e.OfSession startKwh startedAt log) (honce : ¬ e.CountsTwice log) :
    (e.apply sessionId startedAt log).CountedSoFar startKwh startedAt := by
  cases e with
  | reanchor anchors =>
    obtain rfl : anchors = ⟨some startKwh, some startedAt⟩ := he
    exact h.reanchor
  | sample input =>
    obtain ⟨v, hv, hle⟩ := he
    obtain ⟨m, t, hanchors, hstart, hposition⟩ := h.position
    have hrecorded : log.recordedKwh ≤ v := h.anchored.register.trans hle
    have hstep := takeSample_register (m := m) (t := t) input sessionId startedAt hv
    rw [← hanchors] at hstep
    generalize houtcome : takeSample input sessionId startedAt log.anchors = outcome at hstep
    cases hstep with
    | skipped hlate =>
      rw [apply_sample_of_none hv houtcome (.inl rfl), hanchors]
      exact h.unstored hle hstart hposition
    | advanced htime hregister hpower =>
      rw [apply_sample_of_none hv houtcome (.inr rfl), hanchors]
      refine h.unstored hle (hstart.trans htime.le) ?_
      cases hposition with
      | current hmeter hclock =>
        exact .current hmeter fun i hi => (hclock i hi).trans htime.le
      | behind hmeter i hi hclock =>
        exact absurd (hmeter.trans_le hrecorded) (not_lt.mpr hregister)
    | measured htime hregister i _ histart hiend hcharged =>
      rw [apply_sample_of_recorded hv houtcome]
      rw [countsTwice_iff hanchors hv htime, not_or] at honce
      cases hposition with
      | current hmeter hclock =>
        subst hmeter
        exact h.stored hregister hstart hclock htime histart hiend hcharged
      | behind hmeter _ _ _ => exact absurd hmeter honce.2
    | estimated htime hregister hpower i _ _ _ _ =>
      rw [countsTwice_iff hanchors hv htime, not_or] at honce
      have hsame : v = m := le_antisymm hregister (hposition.le.trans hrecorded)
      exact absurd ⟨hsame, hpower⟩ honce.1

end SessionLog.CountedSoFar

/-- A sample that counts twice stores an interval: the last recorded register is the last sampled one. -/
theorem recordedKwh_of_countsTwice (h : log.Anchored) {e : LogEvent} (he : e.Admissible log)
    (htwice : e.CountsTwice log) :
    (e.apply sessionId startedAt log).recordedKwh = (e.apply sessionId startedAt log).sampledKwh := by
  have hexcess := (@excess_step sessionId startedAt log h e he).2.2
  cases e with
  | reanchor anchors => exact htwice.elim
  | sample input =>
    obtain ⟨v, hv, -⟩ := he
    cases houtcome : takeSample input sessionId startedAt log.anchors with
    | skipped =>
      rw [apply_sample_of_none hv houtcome (.inl rfl)] at hexcess
      exact absurd htwice (hexcess.mp rfl)
    | advanced =>
      rw [apply_sample_of_none hv houtcome (.inr rfl)] at hexcess
      exact absurd htwice (hexcess.mp rfl)
    | recorded i => rw [apply_sample_of_recorded hv houtcome]

/-- **One step, seen from outside.** A step leaves disjoint intervals within the register exactly if it is
resumable. -/
theorem countedOnce_step_iff (h : log.CountedSoFar startKwh startedAt) {e : LogEvent}
    (he : e.OfSession startKwh startedAt log) :
    (e.apply sessionId startedAt log).CountedOnce startKwh ↔ e.Resumable log := by
  rw [h.resumable_iff_not_countsTwice]
  refine ⟨fun hcounted htwice => ?_, fun honce => (h.step he honce).countedOnce⟩
  have hbounded := hcounted.bounded
  have hlast := @recordedKwh_of_countsTwice startedAt sessionId log h.anchored e (h.admissible he) htwice
  obtain ⟨-, hle, hiff⟩ := @excess_step sessionId startedAt log h.anchored e (h.admissible he)
  have hmore : log.excessKwh < (e.apply sessionId startedAt log).excessKwh :=
    lt_of_le_of_ne hle fun heq => hiff.mp heq.symm htwice
  rw [h.excess, SessionLog.excessKwh] at hmore
  linarith

/-- **A run of samples and restarts.** Every step leaves disjoint intervals within the register exactly if
every step is resumable. -/
theorem countedOnce_run_iff (h : log.CountedSoFar startKwh startedAt) {es : List LogEvent}
    (hes : AllSteps (LogEvent.apply sessionId startedAt)
      (fun log e => e.OfSession startKwh startedAt log) log es) : AllSteps (LogEvent.apply sessionId startedAt)
        (fun log e => (e.apply sessionId startedAt log).CountedOnce startKwh) log es ↔
      AllSteps (LogEvent.apply sessionId startedAt) (fun log e => e.Resumable log) log es :=
  AllSteps.congr_of_invariant (I := fun log => log.CountedSoFar startKwh startedAt)
    (fun _ e hlog he hresumable => hlog.step he ((hlog.resumable_iff_not_countsTwice e).mp hresumable))
    (fun _ _ hlog he => countedOnce_step_iff hlog he) h hes

end EnergyCore.Accounting
