import EnergyCore.FlexibleLoads.Horizon
import EnergyCore.SpaEnergy.FilterPlanning

/-!
# Feasible policies

A policy is feasible if its cycles fit in its window. They are planned until the deadline of the next cleaning, which
may come before the window closes.

* `filterCycles_planned_iff` — when all the cycles of a feasible policy are planned;
* `feasible_policy_unplanned` — a feasible policy of which no cycle is planned.
-/

namespace EnergyCore.SpaEnergy

open FlexibleLoads TimeZones

/-! ### The load of a spa -/

/-- The cycles that are found at the smart strategy for the load of a spa. -/
def plannedCycles (ctx : OptimizerContext) (zone : TimeZone) (policy : SpaFilterPolicy) (control : SpaControl)
    (samples : List (Instant × Option String)) (horizon : List HorizonBlock) (now : Instant) : List PlanWindow :=
  let load := buildFlexibleLoad zone policy control samples now
  let urgency := computeDeadlineUrgency now load.deadline
  findFilterCycles ctx load (scoreHorizon ctx.settings load horizon urgency) .smart urgency now policy.cyclesPerDay
    (policy.durationPerCycleMinutes * 60)

/-- The blocks that are scored for the load of a spa. -/
def scoredForLoad (ctx : OptimizerContext) (zone : TimeZone) (policy : SpaFilterPolicy) (control : SpaControl)
    (samples : List (Instant × Option String)) (horizon : List HorizonBlock) (now : Instant) : List ScoredBlock :=
  let load := buildFlexibleLoad zone policy control samples now
  scoreHorizon ctx.settings load horizon (computeDeadlineUrgency now load.deadline)

/-- Until when cycles are planned: the window closes, the next cleaning is due, or the day after midnight ends. -/
def planningEnd (zone : TimeZone) (policy : SpaFilterPolicy) (samples : List (Instant × Option String))
    (now : Instant) : Instant :=
  min (windowBounds zone now policy.earliestStart policy.latestFinish).2
    (min ((detectLastCleaningEnd samples).getD now + 86400 / policy.cyclesPerDay)
      (windowBounds zone now clockMidnight policy.latestFinish).2)

/-- The separation that cycles are planned with: no separation counts as an hour. -/
def plannedSeparation (policy : SpaFilterPolicy) : Duration :=
  if policy.minimumCycleSeparationMinutes = 0 then 3600 else policy.minimumCycleSeparationMinutes * 60

section

variable {ctx : OptimizerContext} {zone : TimeZone} {policy : SpaFilterPolicy} {control : SpaControl}
  {samples : List (Instant × Option String)} {horizon : List HorizonBlock} {now : Instant}

theorem latestFinish_eq (hfeasible : (policy.validate ctx.text).feasible = true) :
    let load := buildFlexibleLoad zone policy control samples now
    min load.latestFinish load.deadline = planningEnd zone policy samples now := by
  obtain ⟨hcycles, hduration⟩ := cycles_pos_of_feasible hfeasible
  have hdeadline := cleaningDeadline_eq zone policy now (detectLastCleaningEnd samples) hcycles hduration
  unfold buildFlexibleLoad planningEnd
  dsimp only
  rw [min_assoc, min_self, hdeadline]

theorem separation_eq : let load := buildFlexibleLoad zone policy control samples now
    (orNonzero load.minimumCycleSeparation (orNonzero load.minimumPause (some 3600))).getD 3600 =
      plannedSeparation policy := by
  unfold buildFlexibleLoad plannedSeparation orNonzero
  dsimp only
  by_cases hzero : policy.minimumCycleSeparationMinutes = 0
  · rw [if_pos hzero, hzero]
    norm_num
  · have hne : (policy.minimumCycleSeparationMinutes : ℚ) * 60 ≠ 0 :=
      mul_ne_zero (Int.cast_ne_zero.mpr hzero) (by norm_num)
    rw [if_neg hzero, if_neg hne]
    rfl

theorem blocksPerCycle_eq {durationMinutes : ℤ} (hduration : 15 ∣ durationMinutes) (hpos : 15 ≤ durationMinutes) :
    blocksPerCycle durationMinutes = (durationMinutes / 15).toNat := by
  unfold blocksPerCycle
  dsimp only
  rw [max_eq_right (by omega), if_neg (by omega)]

/-- Blocks that are all affordable are eligible from now to the latest instant. -/
theorem eligibleBlocks_eq {scored : List ScoredBlock} {latest : Instant}
    (haffordable : ∀ s ∈ scored, s.loadFeasible = true) : eligibleBlocks scored now latest now =
      scored.filter fun s => decide (now ≤ s.block.timestamp ∧ s.block.timestamp < latest) := by
  have hall : (scored.filter fun s => decide (now ≤ s.block.timestamp ∧ s.block.timestamp < latest)).filter
      (fun s => decide (s.block.timestamp ≥ now - interval) && s.loadFeasible) =
        scored.filter fun s => decide (now ≤ s.block.timestamp ∧ s.block.timestamp < latest) := by
    refine List.filter_eq_self.mpr fun s hs => ?_
    obtain ⟨hmem, hin⟩ := List.mem_filter.mp hs
    rw [decide_eq_true_eq] at hin
    rw [haffordable s hmem, Bool.and_true, decide_eq_true_eq]
    linarith [interval_pos, hin.1]
  unfold eligibleBlocks
  dsimp only
  rw [hall, ite_self]

/-! ### Planned in full -/

/-- A feasible policy is planned from the opening of its window until the planning ends. -/
theorem plannedCycles_eq (hfeasible : (policy.validate ctx.text).feasible = true)
    (hopening : (windowBounds zone now policy.earliestStart policy.latestFinish).1 = now) :
    plannedCycles ctx zone policy control samples horizon now =
      planFixedFilterCycles ctx.order (scoredForLoad ctx zone policy control samples horizon now) policy.cyclesPerDay
        policy.durationPerCycleMinutes (plannedSeparation policy) now (planningEnd zone policy samples now) now
        .smart (buildFlexibleLoad zone policy control samples now).nominalPowerW := by
  have hend := @latestFinish_eq ctx zone policy control samples now hfeasible
  have hseparation := @separation_eq zone policy control samples now
  dsimp only at hend hseparation
  have hearliest : (buildFlexibleLoad zone policy control samples now).earliestStart = now := hopening
  have hminutes : ⌊(policy.durationPerCycleMinutes : ℚ) * 60 / 60⌋ = policy.durationPerCycleMinutes := by
    rw [mul_div_cancel_right₀ _ (by norm_num), Int.floor_intCast]
  unfold plannedCycles findFilterCycles
  dsimp only
  rw [hend, hseparation, hminutes, hearliest]
  rfl

/-- The blocks that may be used are those of the horizon from now until the planning ends. -/
theorem block_eligibleBlocks {latest : Instant}
    (haffordable : ∀ s ∈ scoredForLoad ctx zone policy control samples horizon now, s.loadFeasible = true) :
    (eligibleBlocks (scoredForLoad ctx zone policy control samples horizon now) now latest now).map ScoredBlock.block =
      horizon.filter fun b => decide (now ≤ b.timestamp ∧ b.timestamp < latest) := by
  have hblocks : (scoredForLoad ctx zone policy control samples horizon now).map ScoredBlock.block = horizon :=
    block_scoreHorizon _ _ _ _
  rw [eligibleBlocks_eq haffordable]
  conv_rhs => rw [← hblocks, List.filter_map]
  rfl

/-- The cycles are planned in full exactly if they fit before the planning ends. -/
theorem length_plannedCycles_iff (hfeasible : (policy.validate ctx.text).feasible = true)
    (hduration : 15 ∣ policy.durationPerCycleMinutes)
    (hopening : (windowBounds zone now policy.earliestStart policy.latestFinish).1 = now) (hgaps : GapFree horizon)
    (haffordable : ∀ s ∈ scoredForLoad ctx zone policy control samples horizon now, s.loadFeasible = true) :
    (plannedCycles ctx zone policy control samples horizon now).length = policy.cyclesPerDay.toNat ↔
      (policy.cyclesPerDay.toNat - 1) * stride (policy.durationPerCycleMinutes / 15).toNat (plannedSeparation policy) +
          (policy.durationPerCycleMinutes / 15).toNat ≤
        horizon.countP fun b => decide (now ≤ b.timestamp ∧ b.timestamp < planningEnd zone policy samples now) := by
  obtain ⟨hcycles, hlong⟩ := cycles_pos_of_feasible hfeasible
  have hblocks := @block_eligibleBlocks ctx zone policy control samples horizon now
    (planningEnd zone policy samples now) haffordable
  have hgapFree : GapFree ((eligibleBlocks (scoredForLoad ctx zone policy control samples horizon now) now
      (planningEnd zone policy samples now) now).map ScoredBlock.block) := by
    rw [hblocks]
    exact hgaps.filter now _
  obtain ⟨origin, haligned⟩ := hgapFree.exists_aligned
  rw [plannedCycles_eq hfeasible hopening, List.countP_eq_length_filter, ← hblocks, List.length_map,
    ← blocksPerCycle_eq hduration hlong]
  exact planFixedFilterCycles_length_iff (by omega) (by omega) haligned

/-- **The cycles of a feasible policy**, planned when its window opens on blocks without gaps that are all affordable,
are planned in full exactly if they fit, with the blocks that part them, before the planning ends. -/
theorem filterCycles_planned_iff (hfeasible : (policy.validate ctx.text).feasible = true)
    (hduration : 15 ∣ policy.durationPerCycleMinutes)
    (hopening : (windowBounds zone now policy.earliestStart policy.latestFinish).1 = now) (hgaps : GapFree horizon)
    (haffordable : ∀ s ∈ scoredForLoad ctx zone policy control samples horizon now, s.loadFeasible = true) :
    ((plannedCycles ctx zone policy control samples horizon now).length : ℤ) = policy.cyclesPerDay ↔
      (policy.cyclesPerDay.toNat - 1) * stride (policy.durationPerCycleMinutes / 15).toNat (plannedSeparation policy) +
          (policy.durationPerCycleMinutes / 15).toNat ≤
        horizon.countP fun b => decide (now ≤ b.timestamp ∧ b.timestamp < planningEnd zone policy samples now) := by
  have hcycles := (cycles_pos_of_feasible hfeasible).1
  rw [← length_plannedCycles_iff hfeasible hduration hopening hgaps haffordable]
  omega

end

/-! ### Examples -/

namespace Demo

def ctx : OptimizerContext where
  order := { iterate := id, mem_iterate := SetOrder.mem_id }
  text := { hourMinute := fun _ => "", general := fun _ => "", fixedPoint := fun _ _ => "" }

def seven : ClockTime where
  text := "07:00"
  hour := 7
  minute := 0
  hour_lt := by norm_num
  minute_lt := by norm_num

def twentyTwo : ClockTime where
  text := "22:00"
  hour := 22
  minute := 0
  hour_lt := by norm_num
  minute_lt := by norm_num

/-- Four cycles of two hours, an hour apart. -/
def policy : SpaFilterPolicy where
  earliestStart := seven
  latestFinish := twentyTwo

/-- Two cycles of half an hour, a quarter of an hour apart. -/
def shortPolicy : SpaFilterPolicy where
  cyclesPerDay := 2
  durationPerCycleMinutes := 30
  minimumCycleSeparationMinutes := 15
  earliestStart := seven
  latestFinish := twentyTwo

/-- Cheap energy from 07:00 to 22:00. -/
def horizon : List HorizonBlock :=
  build
    { houseLoad := (List.range 60).map fun i => { timestamp := 25200 + 900 * i, expectedPowerW := 500 }
      priceByHour := fun _ => some (some (1 / 10), some (1 / 10))
      exportValueSekKwh := 1 / 2
      fallbackPriceEurKwh := 1 / 5
      initialBatterySocPct := none
      higherPriorityLoadsW := 0
      solarForecast := none }
    25200 15

/-- A cleaning that ended an hour before the window opens. -/
def samples : List (Instant × Option String) := [(18000, some "Filtering"), (21600, some "Idle")]

theorem detectLastCleaningEnd_samples : detectLastCleaningEnd samples = some 21600 := by
  unfold detectLastCleaningEnd
  rw [List.mergeSort_of_pairwise (by decide +kernel)]
  decide +kernel

end Demo

theorem filterCycles_planned_short :
    ((plannedCycles Demo.ctx utc Demo.shortPolicy {} Demo.samples Demo.horizon 25200).length : ℤ) = 2 := by
  have hend : planningEnd utc Demo.shortPolicy Demo.samples 25200 = 64800 := by
    unfold planningEnd
    rw [Demo.detectLastCleaningEnd_samples]
    decide +kernel
  have haffordable : ∀ s ∈ scoredForLoad Demo.ctx utc Demo.shortPolicy {} Demo.samples Demo.horizon 25200,
      s.loadFeasible = true := by
    unfold scoredForLoad buildFlexibleLoad
    rw [Demo.detectLastCleaningEnd_samples]
    decide +kernel
  refine (filterCycles_planned_iff (by decide +kernel) (by decide +kernel) (by decide +kernel)
    (by unfold GapFree; decide +kernel) haffordable).mpr ?_
  rw [hend]
  decide +kernel

/-- After a cleaning that ended an hour ago, four cycles of two hours would have to be planned within five hours. -/
theorem feasible_policy_unplanned :
    (Demo.policy.validate Demo.ctx.text).feasible = true ∧ 15 ∣ Demo.policy.durationPerCycleMinutes ∧
      (windowBounds utc 25200 Demo.policy.earliestStart Demo.policy.latestFinish).1 = 25200 ∧
      detectLastCleaningEnd Demo.samples = some 21600 ∧ GapFree Demo.horizon ∧
      Demo.horizon.map HorizonBlock.timestamp = (List.range 60).map (fun i : ℕ => 25200 + 900 * (i : ℚ)) ∧
      (∀ s ∈ scoredForLoad Demo.ctx utc Demo.policy {} Demo.samples Demo.horizon 25200, s.loadFeasible = true) ∧
      ((plannedCycles Demo.ctx utc Demo.policy {} Demo.samples Demo.horizon 25200).length : ℤ) ≠ 4 := by
  have hfeasible : (Demo.policy.validate Demo.ctx.text).feasible = true := by decide +kernel
  have hduration : 15 ∣ Demo.policy.durationPerCycleMinutes := by decide +kernel
  have hopening : (windowBounds utc 25200 Demo.policy.earliestStart Demo.policy.latestFinish).1 = 25200 := by
    decide +kernel
  have hgaps : GapFree Demo.horizon := by
    unfold GapFree
    decide +kernel
  have haffordable : ∀ s ∈ scoredForLoad Demo.ctx utc Demo.policy {} Demo.samples Demo.horizon 25200,
      s.loadFeasible = true := by
    unfold scoredForLoad buildFlexibleLoad
    rw [Demo.detectLastCleaningEnd_samples]
    decide +kernel
  have hend : planningEnd utc Demo.policy Demo.samples 25200 = 43200 := by
    unfold planningEnd
    rw [Demo.detectLastCleaningEnd_samples]
    decide +kernel
  refine ⟨hfeasible, hduration, hopening, Demo.detectLastCleaningEnd_samples, hgaps, by decide +kernel, haffordable,
    fun hlength => ?_⟩
  have hfits := (length_plannedCycles_iff hfeasible hduration hopening hgaps haffordable).mp (by
    rw [← Nat.cast_inj (R := ℤ), hlength]
    rfl)
  rw [hend] at hfits
  revert hfits
  decide +kernel

end EnergyCore.SpaEnergy
