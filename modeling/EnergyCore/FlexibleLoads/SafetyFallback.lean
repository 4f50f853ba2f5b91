import EnergyCore.FlexibleLoads.Optimizer

/-!
# The fallback of a load that must run

A safety-critical load without a regular window gets one from `_fallback_window`: the first blocks before the deadline
if there are enough of them, and else the last blocks of the horizon.

* `start_fallbackWindow` — the block that the window starts with;
* `earliestOf_candidates_iff` — the earliest block that fits before the deadline is the earliest block;
* `runsEarly_iff` — when the window is the earliest one, for a horizon in any order and for one in the order of time.
-/

namespace EnergyCore.FlexibleLoads

/-! ### The earliest blocks -/

/-- The start is that of a block, and none of the blocks starts before. -/
def EarliestOf (blocks : List ScoredBlock) (start : Instant) : Prop :=
  start ∈ blocks.map (fun s => s.block.timestamp) ∧ ∀ s ∈ blocks, start ≤ s.block.timestamp

instance (blocks : List ScoredBlock) (start : Instant) : Decidable (EarliestOf blocks start) :=
  inferInstanceAs (Decidable (_ ∧ _))

/-- The blocks at or after now. -/
def laterBlocks (scored : List ScoredBlock) (now : Instant) : List ScoredBlock :=
  scored.filter fun s => decide (s.block.timestamp ≥ now)

/-- The blocks at or after now, and before the deadline. -/
def earlyBlocks (load : FlexibleLoad) (scored : List ScoredBlock) (now : Instant) : List ScoredBlock :=
  scored.filter fun s => decide (s.block.timestamp ≥ now ∧ s.block.timestamp < load.deadline)

/-- The last blocks of the horizon. -/
def lastBlocks (load : FlexibleLoad) (scored : List ScoredBlock) : List ScoredBlock :=
  scored.drop (scored.length - wholeBlocks load.minimumRuntime)

/-- The blocks a window may start with: those from which the runtime fits before the deadline, if there are any, and
otherwise all blocks at or after now. -/
def startCandidates (load : FlexibleLoad) (scored : List ScoredBlock) (now : Instant) : List ScoredBlock :=
  let fitting := (laterBlocks scored now).filter fun s =>
    decide (s.block.timestamp + load.minimumRuntime ≤ load.deadline)
  if fitting = [] then laterBlocks scored now else fitting

/-- **As early as possible.** There is a window if there is a block at or after now, and a window starts with the
earliest of the blocks that it may start with. -/
structure RunsEarly (load : FlexibleLoad) (scored : List ScoredBlock) (now : Instant) : Prop where
  found : laterBlocks scored now ≠ [] → (fallbackWindow load scored now).isSome
  earliest : ∀ w ∈ fallbackWindow load scored now, EarliestOf (startCandidates load scored now) w.start

/-- A horizon in the order of time. -/
def TimeOrdered (scored : List ScoredBlock) : Prop :=
  scored.Pairwise fun s s' => s.block.timestamp < s'.block.timestamp

theorem earliestOf_candidates_iff {load : FlexibleLoad} {scored : List ScoredBlock} {now start : Instant} :
    EarliestOf (startCandidates load scored now) start ↔ EarliestOf (laterBlocks scored now) start := by
  simp only [startCandidates]
  split_ifs with hnone
  · exact Iff.rfl
  obtain ⟨fits, hfits⟩ := List.exists_mem_of_ne_nil _ hnone
  obtain ⟨hfitsLater, hfitsBy⟩ := List.mem_filter.mp hfits
  have hdeadline := of_decide_eq_true hfitsBy
  constructor
  · intro h
    obtain ⟨s, hs, rfl⟩ := List.mem_map.mp h.1
    refine ⟨List.mem_map_of_mem (List.mem_filter.mp hs).1, fun s' hs' => ?_⟩
    by_contra hlt
    have hbefore := of_decide_eq_true (List.mem_filter.mp hs).2
    have hfits' : s' ∈ (laterBlocks scored now).filter fun s =>
        decide (s.block.timestamp + load.minimumRuntime ≤ load.deadline) := by
      refine List.mem_filter.mpr ⟨hs', decide_eq_true ?_⟩
      linarith [not_le.mp hlt]
    exact hlt (h.2 s' hfits')
  · intro h
    obtain ⟨s, hs, rfl⟩ := List.mem_map.mp h.1
    have hle := h.2 fits hfitsLater
    refine ⟨List.mem_map_of_mem (f := fun s => s.block.timestamp) (List.mem_filter.mpr ⟨hs, decide_eq_true ?_⟩),
      fun s' hs' => h.2 s' (List.mem_filter.mp hs').1⟩
    linarith

/-! ### The window -/

theorem wholeBlocks_pos (duration : Duration) : 0 < wholeBlocks duration := by
  unfold wholeBlocks
  omega

/-- **The block that the window starts with.** -/
theorem start_fallbackWindow (load : FlexibleLoad) (scored : List ScoredBlock) (now : Instant) :
    (fallbackWindow load scored now).map PlanWindow.start
      = ((if (earlyBlocks load scored now).length < wholeBlocks load.minimumRuntime then lastBlocks load scored
          else earlyBlocks load scored now).head?).map fun s => s.block.timestamp := by
  have hpos := (wholeBlocks_pos load.minimumRuntime).ne'
  have hhead : ∀ blocks : List ScoredBlock, (blocks.take (wholeBlocks load.minimumRuntime)).head? = blocks.head? := by
    intro blocks
    rw [List.head?_take, if_neg hpos]
  simp only [fallbackWindow]
  rw [← hhead]
  unfold earlyBlocks lastBlocks
  split
  · rename_i hnil
    rw [hnil]
    rfl
  · rename_i first rest hcons
    rw [hcons]
    rfl

/-- There are blocks to start with, unless there is no horizon. -/
theorem fallbackWindow_isSome {load : FlexibleLoad} {scored : List ScoredBlock} {now : Instant}
    (h : scored ≠ []) : (fallbackWindow load scored now).isSome := by
  have hpos := wholeBlocks_pos load.minimumRuntime
  have hlength := List.length_pos_of_ne_nil h
  have hstart := congrArg Option.isSome (start_fallbackWindow load scored now)
  rw [Option.isSome_map, Option.isSome_map] at hstart
  rw [hstart, List.isSome_head?]
  split_ifs with hfew
  · rw [← List.length_pos_iff, lastBlocks, List.length_drop]
    omega
  · rw [← List.length_pos_iff]
    omega

/-! ### When the window is the earliest one -/

/-- The first of some blocks is the earliest block at or after now. -/
def FirstIsEarliest (blocks : List ScoredBlock) (scored : List ScoredBlock) (now : Instant) : Prop :=
  ∀ s ∈ blocks.head?, EarliestOf (laterBlocks scored now) s.block.timestamp

theorem runsEarly_iff_first {load : FlexibleLoad} {scored : List ScoredBlock} {now : Instant} :
    RunsEarly load scored now ↔
      FirstIsEarliest (if (earlyBlocks load scored now).length < wholeBlocks load.minimumRuntime then
        lastBlocks load scored else earlyBlocks load scored now) scored now := by
  have hstart := start_fallbackWindow load scored now
  constructor
  · intro h s hs
    rw [hs, Option.map_some] at hstart
    obtain ⟨w, hw, hwstart⟩ := Option.map_eq_some_iff.mp hstart
    rw [← hwstart]
    exact earliestOf_candidates_iff.mp (h.earliest w hw)
  · intro h
    refine ⟨fun hlater => fallbackWindow_isSome fun hempty => hlater (by rw [hempty]; rfl), fun w hw => ?_⟩
    rw [hw, Option.map_some] at hstart
    obtain ⟨s, hs, hsstart⟩ := Option.map_eq_some_iff.mp hstart.symm
    rw [earliestOf_candidates_iff, ← hsstart]
    exact h s hs

section

variable {load : FlexibleLoad} {scored : List ScoredBlock} {now : Instant}

/-- In the order of time, the first of a list is the earliest. -/
theorem TimeOrdered.head_le {s : ScoredBlock} (h : TimeOrdered scored) (hs : s ∈ scored.head?) :
    ∀ s' ∈ scored, s.block.timestamp ≤ s'.block.timestamp := by
  cases scored with
  | nil => exact absurd hs (Option.not_mem_none s)
  | cons first rest =>
    obtain rfl : first = s := Option.some_inj.mp hs
    intro s' hs'
    rcases List.mem_cons.mp hs' with rfl | hrest
    · exact le_rfl
    · exact (List.rel_of_pairwise_cons h hrest).le

/-- In the order of time, the first block before the deadline is the earliest of all. -/
theorem firstIsEarliest_early (h : TimeOrdered scored) : FirstIsEarliest (earlyBlocks load scored now) scored now := by
  intro s hs
  obtain ⟨hmem, hin⟩ := List.mem_filter.mp (List.mem_of_mem_head? hs)
  obtain ⟨hnow, hdeadline⟩ := of_decide_eq_true hin
  refine ⟨List.mem_map_of_mem (f := fun s => s.block.timestamp) (List.mem_filter.mpr ⟨hmem, decide_eq_true hnow⟩),
    fun s' hs' => ?_⟩
  obtain ⟨hmem', hnow'⟩ := List.mem_filter.mp hs'
  by_cases hearly : s'.block.timestamp < load.deadline
  · have hs'Early : s' ∈ earlyBlocks load scored now :=
      List.mem_filter.mpr ⟨hmem', decide_eq_true ⟨of_decide_eq_true hnow', hearly⟩⟩
    have hordered : TimeOrdered (earlyBlocks load scored now) := List.Pairwise.filter _ h
    exact hordered.head_le hs s' hs'Early
  · exact hdeadline.le.trans (not_lt.mp hearly)

/-- In the order of time, the blocks at or after now are the last ones. -/
theorem TimeOrdered.laterBlocks_eq_drop (h : TimeOrdered scored) (now : Instant) :
    ∃ past ≤ scored.length, laterBlocks scored now = scored.drop past := by
  induction scored with
  | nil => exact ⟨0, le_rfl, rfl⟩
  | cons first rest ih =>
    by_cases hnow : first.block.timestamp ≥ now
    · refine ⟨0, Nat.zero_le _, List.filter_eq_self.mpr fun s hs => decide_eq_true ?_⟩
      exact hnow.trans (h.head_le rfl s hs)
    · obtain ⟨past, hle, hlater⟩ := ih (List.Pairwise.of_cons h)
      refine ⟨past + 1, Nat.succ_le_succ hle, ?_⟩
      have hdropped : laterBlocks (first :: rest) now = laterBlocks rest now :=
        List.filter_cons_of_neg fun hin => hnow (of_decide_eq_true hin)
      rw [hdropped, hlater, List.drop_succ_cons]

/-- Blocks from the end begin with the earliest block at or after now if there are just as many of these. -/
theorem firstIsEarliest_drop_iff (h : TimeOrdered scored) {k : ℕ} (hk : k < scored.length) :
    FirstIsEarliest (scored.drop k) scored now ↔ (laterBlocks scored now).length = scored.length - k := by
  obtain ⟨past, hpast, hlater⟩ := h.laterBlocks_eq_drop now
  have hhead : (scored.drop k).head? = some scored[k] := by
    rw [List.head?_drop, List.getElem?_eq_getElem hk]
  unfold FirstIsEarliest
  rw [hhead, hlater, List.length_drop]
  constructor
  · intro hfirst
    obtain ⟨hmem, hleast⟩ := hfirst _ rfl
    obtain ⟨s, hs, htime⟩ := List.mem_map.mp hmem
    obtain ⟨j, hj, rfl⟩ := List.mem_iff_getElem.mp hs
    rw [List.length_drop] at hj
    rw [List.getElem_drop] at htime
    have hpk : past ≤ k := by
      by_contra hlt
      have hbefore := List.pairwise_iff_getElem.mp h k (past + j) hk (by omega) (by omega)
      exact absurd htime hbefore.ne'
    have hkp : k ≤ past := by
      by_contra hlt
      have hfirstLater : scored[past] ∈ scored.drop past :=
        List.mem_of_getElem? (i := 0) (by rw [List.getElem?_drop]; exact List.getElem?_eq_getElem _)
      have hbefore := List.pairwise_iff_getElem.mp h past k (by omega) hk (by omega)
      exact absurd (hleast _ hfirstLater) (not_le.mpr hbefore)
    omega
  · intro hcount s hs
    obtain rfl : scored[k] = s := Option.some_inj.mp hs
    have hpk : past = k := by omega
    rw [hpk]
    refine ⟨List.mem_map_of_mem (f := fun s : ScoredBlock => s.block.timestamp) ?_, ?_⟩
    · exact List.mem_of_mem_head? hhead
    · have hordered : TimeOrdered (scored.drop k) := h.sublist (List.drop_sublist k scored)
      exact hordered.head_le hhead

end

/-- **The earliest window.** The window starts as early as possible exactly if the first of its blocks is the earliest
at or after now. For a horizon in the order of time this says that the runtime's number of blocks lies between now
and the deadline, or that just so many blocks of the horizon, or all of fewer, lie at or after now. -/
theorem runsEarly_iff (load : FlexibleLoad) (scored : List ScoredBlock) (now : Instant) :
    (RunsEarly load scored now ↔ if (earlyBlocks load scored now).length < wholeBlocks load.minimumRuntime then
        FirstIsEarliest (lastBlocks load scored) scored now
      else FirstIsEarliest (earlyBlocks load scored now) scored now)
    ∧ (TimeOrdered scored → (RunsEarly load scored now ↔
        (wholeBlocks load.minimumRuntime ≤ (earlyBlocks load scored now).length
          ∨ (laterBlocks scored now).length = min (wholeBlocks load.minimumRuntime) scored.length))) := by
  have hpos := wholeBlocks_pos load.minimumRuntime
  refine ⟨?_, fun hordered => ?_⟩
  · rw [runsEarly_iff_first]
    split_ifs
    · exact Iff.rfl
    · exact Iff.rfl
  · rw [runsEarly_iff_first]
    by_cases hfew : (earlyBlocks load scored now).length < wholeBlocks load.minimumRuntime
    · rw [if_pos hfew]
      cases scored with
      | nil => exact iff_of_true (fun s hs => by simp [lastBlocks] at hs) (.inr (by simp [laterBlocks]))
      | cons first rest =>
        have hlength : (first :: rest).length = rest.length + 1 := rfl
        have hcount : (first :: rest).length - ((first :: rest).length - wholeBlocks load.minimumRuntime)
            = min (wholeBlocks load.minimumRuntime) (first :: rest).length := by omega
        rw [lastBlocks, firstIsEarliest_drop_iff hordered (by omega), hcount]
        exact (or_iff_right (not_le.mpr hfew)).symm
    · rw [if_neg hfew]
      exact iff_of_true (firstIsEarliest_early hordered) (.inl (not_lt.mp hfew))

namespace OverdueDemo

/-- Half an hour of cleaning that was due at midnight. -/
def load : FlexibleLoad :=
  { loadId := "spa", name := "Spa", nominalPowerW := 2000, minimumRuntime := 1800, maximumRuntime := 7200
    earliestStart := 0, latestFinish := 86400, deadline := 0, dailyRuntimeTarget := some 1800
    maxStartsPerDay := some 1 }

def block (timestamp : Instant) : HorizonBlock :=
  { timestamp := timestamp, solarForecastW := 0, houseLoadForecastW := 0, higherPriorityLoadsW := 0
    availableSurplusW := 0, batterySocPct := none, spotPriceEurKwh := none, allInPriceEurKwh := none
    exportValueSekKwh := 0 }

/-- The hour after midnight. -/
def horizon : List HorizonBlock := [block 0, block 900, block 1800, block 2700]

def context : OptimizerContext :=
  { order := { iterate := id, mem_iterate := SetOrder.mem_id }
    text := { hourMinute := fun _ => "", general := fun _ => "", fixedPoint := fun _ _ => "" } }

def scored : List ScoredBlock := scoreHorizon context.settings load horizon (computeDeadlineUrgency 0 load.deadline)

/-- **Overdue, and yet later.** The plan of the load waits for the last half hour of its horizon. -/
theorem waits_for_last_blocks : ((plan context load horizon .smart 0).windows.map PlanWindow.start) = [1800]
      ∧ EarliestOf (startCandidates load scored 0) 0 ∧ ¬ RunsEarly load scored 0 := by
  have hstart : (fallbackWindow load scored 0).map PlanWindow.start = some 1800 := by decide +kernel
  have hlater : ¬ EarliestOf (startCandidates load scored 0) 1800 := by decide +kernel
  refine ⟨by decide +kernel, by decide +kernel, fun h => hlater ?_⟩
  obtain ⟨w, hw, hwstart⟩ := Option.map_eq_some_iff.mp hstart
  rw [← hwstart]
  exact h.earliest w hw

end OverdueDemo

end EnergyCore.FlexibleLoads
