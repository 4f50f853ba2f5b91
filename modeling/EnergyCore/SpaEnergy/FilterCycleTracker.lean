import EnergyCore.SpaEnergy.CleaningTime
import Mathlib.Order.CompletePartialOrder

/-!
# The tracker of filter cycles

Which of the planned cycles of a day have been cleaned, from the samples of the filter status.

* `runtime_eq` — the runtime of a cycle is the time of its window while cleaning;
* `runtime_le_of_advances` — as the day goes on, runtimes only grow;
* `sum_runtime_le` — disjoint windows share no minute;
* `followsClock_iff` — when the states follow the clock.
-/

namespace EnergyCore.SpaEnergy

open FlexibleLoads SampledStatus HalfEvenRounding

/-! ### States of cycles -/

/-- The states; `partly` is `PARTIAL`. -/
inductive FilterCycleState
  | scheduled
  | started
  | running
  | completed
  | failed
  | skipped
  | manual
  | partly
  deriving Repr, DecidableEq

structure FilterCycleRecord where
  cycleIndex : ℕ
  plannedStart : Instant
  plannedEnd : Instant
  state : FilterCycleState
  actualStart : Option Instant := none
  actualEnd : Option Instant := none
  runtimeMinutes : ℚ := 0
  manual : Bool := false
  deriving Repr, DecidableEq

/-- `_overlap_minutes`. -/
def overlapMinutes (aStart aEnd bStart bEnd : Instant) : ℚ :=
  let start := max aStart bStart
  let stop := min aEnd bEnd
  if stop ≤ start then 0 else (stop - start) / 60

/-- What the segments of cleaning come to within a window. -/
structure CycleRun where
  runtime : ℚ := 0
  actualStart : Option Instant := none
  actualEnd : Option Instant := none
  deriving Repr, DecidableEq

/-- The loop over the segments. -/
def cycleRun (window : PlanWindow) (segments : List CleaningSegment) : CycleRun :=
  segments.foldl (fun run segment =>
    let overlap := overlapMinutes window.start window.stop segment.start segment.stop
    if overlap ≤ 0 then run
    else
      { runtime := run.runtime + overlap
        actualStart := some (run.actualStart.elim segment.start fun first => min first segment.start)
        actualEnd := some (run.actualEnd.elim segment.stop fun last => max last segment.stop) }) {}

/-- The state of a cycle. -/
def cycleState (window : PlanWindow) (runtime required completionThreshold : ℚ) (now : Instant) : FilterCycleState :=
  if window.stop ≤ now ∧ runtime ≤ 0 then .skipped
  else if runtime ≥ required * completionThreshold then .completed
  else if runtime > 0 ∧ runtime < required * completionThreshold then .partly
  else if window.start ≤ now ∧ now < window.stop ∧ runtime > 0 then .running
  else if window.start ≤ now ∧ now < window.stop then .started
  -- the initial state, also of a window that starts after `now`
  else .scheduled

/-- `reconcile_filter_cycles`. -/
def reconcileFilterCycles (plannedWindows : List PlanWindow) (samples : List StatusSample) (dayStart dayEnd : Instant)
    (requiredDurationMinutes : ℤ) (now : Instant) (completionThreshold : ℚ := 19 / 20) : List FilterCycleRecord :=
  let segments := cleaningSegments samples dayStart dayEnd
  plannedWindows.mapIdx fun index window =>
    let run := cycleRun window segments
    { cycleIndex := index + 1
      plannedStart := window.start
      plannedEnd := window.stop
      state := cycleState window run.runtime requiredDurationMinutes completionThreshold now
      actualStart := run.actualStart
      actualEnd := run.actualEnd
      runtimeMinutes := roundDigits 1 run.runtime }

/-! ### Runtimes -/

theorem overlapMinutes_eq {aStart aEnd bStart bEnd : Instant} (h : bStart ≤ bEnd) :
    overlapMinutes aStart aEnd bStart bEnd = SampledStatus.within aStart aEnd length bStart bEnd / 60 := by
  unfold overlapMinutes SampledStatus.within length clamp
  dsimp only
  rcases le_total aEnd bStart with hle | hle
  · rw [min_eq_left hle, min_eq_left (hle.trans h), if_pos (le_max_of_le_right hle), sub_self, zero_div]
  · rw [min_eq_right hle]
    have hmin : bStart ≤ min aEnd bEnd := le_min hle h
    split_ifs with hnone
    · have heq : max aStart (min aEnd bEnd) = max aStart bStart :=
        le_antisymm (max_le (le_max_left _ _) hnone) (max_le_max_left aStart hmin)
      rw [heq, sub_self, zero_div]
    · have hstart : aStart ≤ min aEnd bEnd := (le_max_left aStart bStart).trans (not_le.mp hnone).le
      rw [max_eq_right hstart]

theorem overlapMinutes_nonneg (aStart aEnd bStart bEnd : Instant) : 0 ≤ overlapMinutes aStart aEnd bStart bEnd := by
  unfold overlapMinutes
  dsimp only
  split_ifs with h
  · exact le_rfl
  · exact div_nonneg (sub_nonneg.mpr (not_le.mp h).le) (by norm_num)

/-- Segments that a window has nothing of are left out, and add nothing. -/
theorem cycleRun_runtime (window : PlanWindow) (segments : List CleaningSegment) : (cycleRun window segments).runtime
      = (segments.map fun segment => overlapMinutes window.start window.stop segment.start segment.stop).sum := by
  have hfold : ∀ (segments : List CleaningSegment) (run : CycleRun),
      (segments.foldl (fun run segment =>
        let overlap := overlapMinutes window.start window.stop segment.start segment.stop
        if overlap ≤ 0 then run
        else
          { runtime := run.runtime + overlap
            actualStart := some (run.actualStart.elim segment.start fun first => min first segment.start)
            actualEnd := some (run.actualEnd.elim segment.stop fun last => max last segment.stop) }) run).runtime
      = run.runtime
        + (segments.map fun segment => overlapMinutes window.start window.stop segment.start segment.stop).sum := by
    intro segments
    induction segments with
    | nil => exact fun run => (add_zero _).symm
    | cons segment segments ih =>
      intro run
      rw [List.foldl_cons, ih, List.map_cons, List.sum_cons, ← add_assoc]
      congr 1
      dsimp only
      split_ifs with hnone
      · rw [le_antisymm hnone (overlapMinutes_nonneg _ _ _ _), add_zero]
      · rfl
  rw [cycleRun, hfold, zero_add]

/-- What a window has of an interval. -/
def windowTime (window : PlanWindow) : Instant → Instant → ℚ := SampledStatus.within window.start window.stop length

variable {window : PlanWindow} {samples samples' : List StatusSample} {dayStart dayEnd now now' : Instant}

/-- The minutes of cleaning that are counted for a window. -/
def runtime (window : PlanWindow) (samples : List StatusSample) (dayStart dayEnd : Instant) : ℚ :=
  (cycleRun window (cleaningSegments samples dayStart dayEnd)).runtime

/-- **The runtime** is the time within the window and the day while cleaning. -/
theorem runtime_eq (window : PlanWindow) (samples : List StatusSample) (dayStart dayEnd : Instant) :
    runtime window samples dayStart dayEnd
      = held (SampledStatus.within dayStart dayEnd (windowTime window)) (cleaningStatus samples) / 60 := by
  have hoverlaps : (cleaningSegments samples dayStart dayEnd).map
        (fun segment => overlapMinutes window.start window.stop segment.start segment.stop)
      = (cleaningSegments samples dayStart dayEnd).map
        fun segment => windowTime window segment.start segment.stop * (1 / 60) := by
    refine List.map_congr_left fun segment hsegment => ?_
    rw [overlapMinutes_eq (minutes_of_mem_cleaningSegments hsegment).1.le, windowTime, mul_one_div]
  have hadditive : IsAdditive (windowTime window) := isAdditive_length.within
  have hsegments := sum_cleaningSegments hadditive samples dayStart dayEnd
  unfold runtime
  rw [cycleRun_runtime, hoverlaps, List.sum_map_mul_right, mul_one_div]
  congr 1

theorem windowTime_nonneg {s t : Instant} (h : s ≤ t) :
    0 ≤ SampledStatus.within dayStart dayEnd (windowTime window) s t := within_length_nonneg (clamp_mono h)

theorem runtime_nonneg (window : PlanWindow) (samples : List StatusSample) (dayStart dayEnd : Instant) :
    0 ≤ runtime window samples dayStart dayEnd := by
  rw [runtime_eq]
  exact div_nonneg (held_nonneg windowTime_nonneg (ordered_cleaningStatus samples)) (by norm_num)

/-- Time has moved on within the day, and samples have been added that are not older. -/
structure Advances (dayEnd : Instant) (samples samples' : List StatusSample) (now now' : Instant) : Prop where
  newer : ∃ newer, samples' = samples ++ newer ∧ ∀ s ∈ samples, ∀ s' ∈ newer, s.1 ≤ s'.1
  now_le : now ≤ now'
  withinDay : now' ≤ dayEnd

/-- **As the day goes on**, runtimes only grow. -/
theorem runtime_le_of_advances (h : Advances dayEnd samples samples' now now') :
    runtime window samples dayStart dayEnd ≤ runtime window samples' dayStart dayEnd := by
  obtain ⟨newer, rfl, hnewer⟩ := h.newer
  have hstatus : cleaningStatus (samples ++ newer) = cleaningStatus samples ++ cleaningStatus newer := by
    unfold cleaningStatus
    rw [sortSamples_append hnewer, List.map_append]
  have hordered := ordered_cleaningStatus (samples ++ newer)
  rw [runtime_eq, runtime_eq]
  rw [hstatus] at hordered ⊢
  exact div_le_div_of_nonneg_right (held_le_append windowTime_nonneg hordered) (by norm_num)

/-- One of two windows ends before the other starts. -/
def Apart (w w' : PlanWindow) : Prop := w.stop ≤ w'.start ∨ w'.stop ≤ w.start

/-- **Disjoint windows** share no minute of cleaning. -/
theorem sum_runtime_le {windows : List PlanWindow} (h : windows.Pairwise Apart) (samples : List StatusSample)
    (dayStart dayEnd : Instant) : (windows.map fun window => runtime window samples dayStart dayEnd).sum
      ≤ ((cleaningSegments samples dayStart dayEnd).map CleaningSegment.minutes).sum := by
  have hruntimes : (windows.map fun window => runtime window samples dayStart dayEnd)
      = windows.map fun window =>
        held (SampledStatus.within dayStart dayEnd (windowTime window)) (cleaningStatus samples) * (1 / 60) :=
    List.map_congr_left fun window _ => by rw [runtime_eq, mul_one_div]
  have hpairs : (windows.map fun window => (window.start, window.stop)).Pairwise fun w v => w.2 ≤ v.1 ∨ v.2 ≤ w.1 :=
    List.pairwise_map.mpr h
  rw [hruntimes, List.sum_map_mul_right, sum_held, sum_minutes, mul_one_div]
  refine div_le_div_of_nonneg_right (held_le (fun {s t} hst => ?_) (ordered_cleaningStatus samples)) (by norm_num)
  have hclamp : clamp dayStart dayEnd s ≤ clamp dayStart dayEnd t := clamp_mono hst
  have hshare := sum_within_length_le hpairs hclamp
  rw [List.map_map] at hshare
  exact hshare

/-! ### What the states say -/

/-- The instants of cleaning that are counted for a window. -/
def countedFor (window : PlanWindow) (samples : List StatusSample) (dayStart dayEnd : Instant) : Set Instant :=
  {t | ∃ segment ∈ cleaningSegments samples dayStart dayEnd,
    max window.start segment.start ≤ t ∧ t < min window.stop segment.stop}

theorem disjoint_countedFor {w w' : PlanWindow} (h : Apart w w') (samples : List StatusSample)
    (dayStart dayEnd : Instant) :
    Disjoint (countedFor w samples dayStart dayEnd) (countedFor w' samples dayStart dayEnd) := by
  rw [Set.disjoint_left]
  rintro t ⟨segment, -, hstart, hstop⟩ ⟨segment', -, hstart', hstop'⟩
  have hw : w.start ≤ t ∧ t < w.stop := ⟨(le_max_left _ _).trans hstart, hstop.trans_le (min_le_left _ _)⟩
  have hw' : w'.start ≤ t ∧ t < w'.stop := ⟨(le_max_left _ _).trans hstart', hstop'.trans_le (min_le_left _ _)⟩
  rcases h with h | h
  · linarith [hw.2, hw'.1]
  · linarith [hw.1, hw'.2]

/-- The states of the records. -/
def states (records : List FilterCycleRecord) : List FilterCycleState := records.map FilterCycleRecord.state

section

variable {windows : List PlanWindow} {required : ℤ} {threshold : ℚ}

theorem getElem?_reconcileFilterCycles (i : ℕ) :
    (reconcileFilterCycles windows samples dayStart dayEnd required now threshold)[i]? = windows[i]?.map fun window =>
        { cycleIndex := i + 1, plannedStart := window.start, plannedEnd := window.stop
          state := cycleState window (runtime window samples dayStart dayEnd) required threshold now
          actualStart := (cycleRun window (cleaningSegments samples dayStart dayEnd)).actualStart
          actualEnd := (cycleRun window (cleaningSegments samples dayStart dayEnd)).actualEnd
          runtimeMinutes := roundDigits 1 (runtime window samples dayStart dayEnd) } := by
  unfold reconcileFilterCycles
  rw [List.getElem?_mapIdx]
  rfl

theorem states_reconcileFilterCycles (i : ℕ) :
    (states (reconcileFilterCycles windows samples dayStart dayEnd required now threshold))[i]?
      = windows[i]?.map fun window =>
        cycleState window (runtime window samples dayStart dayEnd) required threshold now := by
  unfold states
  rw [List.getElem?_map, getElem?_reconcileFilterCycles, Option.map_map]
  rfl

end

/-- The states follow the clock, and no cleaning is counted twice. -/
structure FollowsClock (windows : List PlanWindow) (samples : List StatusSample) (dayStart dayEnd : Instant)
    (required : ℤ) (now : Instant) (threshold : ℚ) : Prop where
  ended : ∀ record ∈ reconcileFilterCycles windows samples dayStart dayEnd required now threshold,
    record.state = .partly ∨ record.state = .skipped → record.plannedEnd ≤ now
  running : ∀ (i : ℕ) (window : PlanWindow) (record : FilterCycleRecord), windows[i]? = some window →
    (reconcileFilterCycles windows samples dayStart dayEnd required now threshold)[i]? = some record →
    window.start ≤ now → now < window.stop → 0 < runtime window samples dayStart dayEnd → record.state ≠ .completed →
    record.state = .running
  kept : ∀ samples' now', Advances dayEnd samples samples' now now' → ∀ i : ℕ,
    (states (reconcileFilterCycles windows samples dayStart dayEnd required now threshold))[i]? = some .completed →
    (states (reconcileFilterCycles windows samples' dayStart dayEnd required now' threshold))[i]? = some .completed
  apart : windows.Pairwise fun w w' => Apart w w' →
    Disjoint (countedFor w samples dayStart dayEnd) (countedFor w' samples dayStart dayEnd)
  counted : ∀ windows' : List PlanWindow, windows'.Sublist windows → windows'.Pairwise Apart →
    (windows'.map fun window => runtime window samples dayStart dayEnd).sum
      ≤ ((cleaningSegments samples dayStart dayEnd).map CleaningSegment.minutes).sum

/-- No window that has not ended has some but not enough cleaning, and a cycle is not completed without any. -/
def InStep (windows : List PlanWindow) (samples : List StatusSample) (dayStart dayEnd : Instant)
    (required : ℤ) (now : Instant) (threshold : ℚ) : Prop :=
  (∀ w ∈ windows, now < w.stop →
      runtime w samples dayStart dayEnd ≤ 0 ∨ required * threshold ≤ runtime w samples dayStart dayEnd)
    ∧ (0 < required * threshold
      ∨ ∀ w ∈ windows, now < w.stop → w.stop ≤ dayEnd → 0 < runtime w samples dayStart dayEnd)

section

variable {minutes required threshold : ℚ}

theorem cycleState_eq_completed_iff : cycleState window minutes required threshold now = .completed ↔
      (now < window.stop ∨ 0 < minutes) ∧ required * threshold ≤ minutes := by
  unfold cycleState
  split_ifs with hskipped hcompleted hpartly hrunning hstarted
  · simp [hskipped.1, hskipped.2]
  · rw [not_and_or, not_le, not_le] at hskipped
    exact iff_of_true rfl ⟨hskipped, hcompleted⟩
  all_goals exact iff_of_false id fun h => hcompleted h.2

theorem cycleState_eq_partly_iff :
    cycleState window minutes required threshold now = .partly ↔ 0 < minutes ∧ minutes < required * threshold := by
  unfold cycleState
  split_ifs with hskipped hcompleted hpartly hrunning hstarted
  · exact iff_of_false id fun h => absurd h.1 (not_lt.mpr hskipped.2)
  · exact iff_of_false id fun h => absurd h.2 (not_lt.mpr hcompleted)
  · exact iff_of_true rfl hpartly
  all_goals exact iff_of_false id hpartly

theorem cycleState_eq_skipped_iff :
    cycleState window minutes required threshold now = .skipped ↔ window.stop ≤ now ∧ minutes ≤ 0 := by
  unfold cycleState
  split_ifs with hskipped hcompleted hpartly hrunning hstarted
  · exact iff_of_true rfl hskipped
  all_goals exact iff_of_false id hskipped

end

/-- **Cycle states follow the clock** exactly if the cycles are in step: a window that has not ended has no cleaning or
enough, and some cleaning is required, or there is some in every window that ends within the day. -/
theorem followsClock_iff (windows : List PlanWindow) (samples : List StatusSample) (dayStart dayEnd : Instant)
    (required : ℤ) (now : Instant) (threshold : ℚ) :
    FollowsClock windows samples dayStart dayEnd required now threshold
      ↔ InStep windows samples dayStart dayEnd required now threshold := by
  constructor
  · intro h
    constructor
    · intro w hw hend
      by_contra hsome
      obtain ⟨hpos, hfew⟩ := not_or.mp hsome
      obtain ⟨i, hi⟩ := List.mem_iff_getElem?.mp hw
      have hrecord : (reconcileFilterCycles windows samples dayStart dayEnd required now threshold)[i]? = _ :=
        getElem?_reconcileFilterCycles i
      rw [hi, Option.map_some] at hrecord
      have hpartly : cycleState w (runtime w samples dayStart dayEnd) required threshold now = .partly :=
        cycleState_eq_partly_iff.mpr ⟨not_le.mp hpos, not_le.mp hfew⟩
      have hended := h.ended _ (List.mem_of_getElem? hrecord) (.inl hpartly)
      exact absurd hend (not_lt.mpr hended)
    · by_cases hrequired : 0 < required * threshold
      · exact .inl hrequired
      · right
        intro w hw hend hday
        by_contra hnone
        obtain ⟨i, hi⟩ := List.mem_iff_getElem?.mp hw
        have hadvances : Advances dayEnd samples samples now w.stop :=
          ⟨⟨[], (List.append_nil samples).symm, fun s _ s' hs' => absurd hs' List.not_mem_nil⟩, hend.le, hday⟩
        have henough : required * threshold ≤ runtime w samples dayStart dayEnd :=
          (not_lt.mp hrequired).trans (runtime_nonneg w samples dayStart dayEnd)
        have hkept := h.kept samples w.stop hadvances i
        rw [states_reconcileFilterCycles, states_reconcileFilterCycles, hi, Option.map_some, Option.map_some,
          Option.some_inj, Option.some_inj, cycleState_eq_completed_iff, cycleState_eq_completed_iff] at hkept
        rcases (hkept ⟨.inl hend, henough⟩).1 with hlt | hpos
        · exact absurd hlt (lt_irrefl _)
        · exact hnone hpos
  · rintro ⟨henough, hkept⟩
    refine ⟨?_, ?_, ?_, ?_, ?_⟩
    · intro record hrecord hstate
      obtain ⟨i, hi⟩ := List.mem_iff_getElem?.mp hrecord
      rw [getElem?_reconcileFilterCycles] at hi
      obtain ⟨w, hw, rfl⟩ := Option.map_eq_some_iff.mp hi
      dsimp only at hstate ⊢
      rw [cycleState_eq_partly_iff, cycleState_eq_skipped_iff] at hstate
      rcases hstate with ⟨hpos, hfew⟩ | ⟨hend, -⟩
      · by_contra hopen
        rcases henough w (List.mem_of_getElem? hw) (not_le.mp hopen) with hnone | hall
        · exact absurd hpos (not_lt.mpr hnone)
        · exact absurd hfew (not_lt.mpr hall)
      · exact hend
    · intro i w record hw hrecord _ hend hpos hunfinished
      rw [getElem?_reconcileFilterCycles, hw, Option.map_some] at hrecord
      obtain rfl := Option.some_inj.mp hrecord
      refine absurd (cycleState_eq_completed_iff.mpr ⟨.inl hend, ?_⟩) hunfinished
      exact (henough w (List.mem_of_getElem? hw) hend).resolve_left (not_le.mpr hpos)
    · intro samples' now' hadvances i hcompleted
      rw [states_reconcileFilterCycles] at hcompleted ⊢
      obtain ⟨w, hw, hstate⟩ := Option.map_eq_some_iff.mp hcompleted
      rw [hw, Option.map_some, Option.some_inj]
      rw [cycleState_eq_completed_iff] at hstate ⊢
      have hgrows : runtime w samples dayStart dayEnd ≤ runtime w samples' dayStart dayEnd :=
        runtime_le_of_advances hadvances
      refine ⟨?_, hstate.2.trans hgrows⟩
      rcases hkept with hrequired | hclean
      · exact .inr (hrequired.trans_le (hstate.2.trans hgrows))
      · rcases hstate.1 with hend | hpos
        · by_cases hday : w.stop ≤ dayEnd
          · exact .inr ((hclean w (List.mem_of_getElem? hw) hend hday).trans_le hgrows)
          · exact .inl (hadvances.withinDay.trans_lt (not_le.mp hday))
        · exact .inr (hpos.trans_le hgrows)
    · exact List.pairwise_of_forall fun w w' hapart => disjoint_countedFor hapart samples dayStart dayEnd
    · exact fun windows' _ hapart => sum_runtime_le hapart samples dayStart dayEnd

namespace TrackerDemo

/-- Two hours from ten o'clock. -/
def morning : PlanWindow :=
  { start := 36000, stop := 43200, duration := 7200, expectedEnergyKwh := 1, expectedCostSek := 2
    expectedEnergySource := .solar, averageScore := 1 }

/-- The spa filters since ten o'clock, and it is half past ten. -/
def filtering : List StatusSample := [(36000, some "Filtering"), (37800, some "Filtering")]

/-- **A cycle that is running** is reported as partial. -/
theorem running_reported_partial :
    states (reconcileFilterCycles [morning] filtering 0 86400 120 37800 (19 / 20)) = [.partly]
      ∧ ¬ FollowsClock [morning] filtering 0 86400 120 37800 (19 / 20) := by
  have hsorted : sortSamples filtering = filtering := List.mergeSort_of_pairwise (by decide +kernel)
  have hrecords : reconcileFilterCycles [morning] filtering 0 86400 120 37800 (19 / 20)
      = [{ cycleIndex := 1, plannedStart := 36000, plannedEnd := 43200, state := .partly, actualStart := some 36000,
           actualEnd := some 37800, runtimeMinutes := 30 }] := by
    unfold reconcileFilterCycles cleaningSegments cleaningOfDay
    rw [hsorted]
    decide +kernel
  rw [hrecords]
  refine ⟨rfl, fun h => ?_⟩
  have hended := h.ended
  rw [hrecords] at hended
  have hle := hended _ List.mem_cons_self (.inl rfl)
  norm_num at hle

end TrackerDemo

end EnergyCore.SpaEnergy
