import EnergyCore.SpaEnergy.FilterPlanning
import EnergyCore.SpaEnergy.WindowBlocks

/-!
# The windows of a plan

Which blocks a plan may use, and what its windows are made of.

* `windowOf_bestWindow` — the window of the single planner is a run of the usable blocks;
* `qualifies_of_mem_usableBlocks` — as long as any block qualifies, the usable ones do;
* `regularWindow_of_windowOf` — what the blocks of a window say about its start, its end and its length;
* `plan_windows` — the windows of every plan are regular, or there is the one of the fallback.
-/

namespace EnergyCore.FlexibleLoads

open SpaEnergy

/-! ### Windows as they should be -/

/-- Consecutive blocks within the limits of the load. -/
structure Allowed (load : FlexibleLoad) (now : Instant) (w : PlanWindow) : Prop where
  consecutive : GapFree (w.blocks.map ScoredBlock.block)
  duration : w.stop - w.start = interval * w.blocks.length
  start : max load.earliestStart (now - interval) ≤ w.start
  finish : w.stop ≤ load.latestFinish
  deadline : load.safetyCritical = false → w.stop ≤ load.deadline

/-- A horizon in the order of time, whose blocks are 15 minutes apart at least. -/
def QuarterOrdered (horizon : List HorizonBlock) : Prop :=
  horizon.Pairwise fun block later => block.timestamp + interval ≤ later.timestamp

/-! ### Usable blocks -/

/-- The load has a number of cycles a day. -/
def hasFixedCycles (load : FlexibleLoad) : Bool := load.fixedCyclesPerDay.isSome && load.fixedCycleDuration.isSome

/-- The load has a runtime a day, and starts for it. -/
def hasDailyRuntime (load : FlexibleLoad) : Bool :=
  load.dailyRuntimeTarget.isSome && load.maxStartsPerDay.any fun starts => decide (starts ≠ 0)

/-- Blocks start before the latest finish, and before the deadline as well if there are several windows a day. -/
def lastStart (load : FlexibleLoad) : Instant :=
  if hasFixedCycles load || hasDailyRuntime load then min load.latestFinish load.deadline else load.latestFinish

/-- The blocks that the planner of the load uses. -/
def usableBlocks (load : FlexibleLoad) (scored : List ScoredBlock) (now : Instant) : List ScoredBlock :=
  if hasFixedCycles load || hasDailyRuntime load then
    eligibleBlocks scored load.earliestStart (min load.latestFinish load.deadline) now
  else filterEligibleBlocks scored load now

/-- The pause across which windows are merged. -/
def mergePause (load : FlexibleLoad) : Option Duration :=
  if !hasFixedCycles load && hasDailyRuntime load then some ((orNonzero load.minimumPause (some 1200)).getD 1200)
  else none

/-- A block within the limits of the load that the load can run in. -/
structure Qualifies (load : FlexibleLoad) (now : Instant) (s : ScoredBlock) : Prop where
  earliest : load.earliestStart ≤ s.block.timestamp
  latest : s.block.timestamp < lastStart load
  recent : now - interval ≤ s.block.timestamp
  feasible : s.loadFeasible = true

theorem filterEligibleBlocks_sublist (scored : List ScoredBlock) (load : FlexibleLoad) (now : Instant) :
    (filterEligibleBlocks scored load now).Sublist scored := by
  unfold filterEligibleBlocks
  dsimp only
  split_ifs
  · exact List.Sublist.refl _
  · exact List.filter_sublist

theorem eligibleBlocks_sublist (scored : List ScoredBlock) (earliest latest now : Instant) :
    (eligibleBlocks scored earliest latest now).Sublist scored := by
  unfold eligibleBlocks
  dsimp only
  split_ifs
  · exact List.filter_sublist
  · exact List.filter_sublist.trans List.filter_sublist

theorem usableBlocks_sublist (load : FlexibleLoad) (scored : List ScoredBlock) (now : Instant) :
    (usableBlocks load scored now).Sublist scored := by
  unfold usableBlocks
  split_ifs
  · exact eligibleBlocks_sublist scored _ _ now
  · exact filterEligibleBlocks_sublist scored load now

/-- **As long as any block qualifies**, the usable blocks do. -/
theorem qualifies_of_mem_usableBlocks {load : FlexibleLoad} {scored : List ScoredBlock} {now : Instant}
    (hany : ∃ s ∈ scored, Qualifies load now s) : ∀ s ∈ usableBlocks load scored now, Qualifies load now s := by
  obtain ⟨s₀, hs₀, hqualifies⟩ := hany
  have hlatest := hqualifies.latest
  intro s hs
  unfold usableBlocks at hs
  unfold lastStart at hlatest
  split_ifs at hs hlatest with hseveral
  · unfold eligibleBlocks at hs
    dsimp only at hs
    split_ifs at hs with hnone
    · exfalso
      have hallowed : s₀ ∈ scored.filter fun s => decide (load.earliestStart ≤ s.block.timestamp ∧
          s.block.timestamp < min load.latestFinish load.deadline) :=
        List.mem_filter.mpr ⟨hs₀, decide_eq_true ⟨hqualifies.earliest, hlatest⟩⟩
      exact List.filter_eq_nil_iff.mp (List.isEmpty_iff.mp hnone) s₀ hallowed
        (Bool.and_eq_true_iff.mpr ⟨decide_eq_true hqualifies.recent, hqualifies.feasible⟩)
    · obtain ⟨hallowed, hnow⟩ := List.mem_filter.mp hs
      obtain ⟨hrecent, hfeasible⟩ := Bool.and_eq_true_iff.mp hnow
      obtain ⟨hearliest, hbefore⟩ := of_decide_eq_true (List.mem_filter.mp hallowed).2
      refine ⟨hearliest, ?_, of_decide_eq_true hrecent, hfeasible⟩
      rw [lastStart, if_pos hseveral]
      exact hbefore
  · unfold filterEligibleBlocks at hs
    dsimp only at hs
    split_ifs at hs with hnone
    · exfalso
      exact List.filter_eq_nil_iff.mp (List.isEmpty_iff.mp hnone) s₀ hs₀ (Bool.and_eq_true_iff.mpr
        ⟨decide_eq_true ⟨hqualifies.earliest, hlatest, hqualifies.recent⟩, hqualifies.feasible⟩)
    · obtain ⟨hlimits, hfeasible⟩ := Bool.and_eq_true_iff.mp (List.mem_filter.mp hs).2
      obtain ⟨hearliest, hbefore, hrecent⟩ := of_decide_eq_true hlimits
      refine ⟨hearliest, ?_, hrecent, hfeasible⟩
      rw [lastStart, if_neg hseveral]
      exact hbefore

/-! ### The single window -/

theorem windowOf_bestWindowCandidates {order : SetOrder} {load : FlexibleLoad} {usable : List ScoredBlock}
    {strategy : LoadStrategy} : ∀ w ∈ bestWindowCandidates order load usable strategy, WindowOf usable none w := by
  intro w hw
  unfold bestWindowCandidates at hw
  obtain ⟨i, -, hi⟩ := List.mem_flatMap.mp hw
  obtain ⟨n, -, hn⟩ := List.mem_filterMap.mp hi
  split at hn
  · cases hn
  · rename_i first rest hrun
    split_ifs at hn
    cases hn
    exact windowOf_run (hrun ▸ infix_drop_take usable i n) rfl rfl rfl none

/-- **The single window** is a run of usable blocks. -/
theorem windowOf_bestWindow {ctx : OptimizerContext} {load : FlexibleLoad} {usable : List ScoredBlock}
    {strategy : LoadStrategy} {w : PlanWindow} (h : bestWindow ctx load usable strategy = some w) :
    WindowOf usable none w := by
  have hmem : w ∈ bestWindowCandidates ctx.order load usable strategy := by
    unfold bestWindow at h
    dsimp only at h
    split_ifs at h
    · exact List.argmin_mem h
    · exact (List.mem_filter.mp (List.argmax_mem h)).1
    · exact List.argmax_mem h
  exact windowOf_bestWindowCandidates w hmem

/-! ### Regular windows -/

/-- Every block of a window but the last is followed directly by a usable block: none is missing, and none is of no
use. -/
def Unbroken (usable : List ScoredBlock) (w : PlanWindow) : Prop :=
  ∀ b ∈ w.blocks, b.block.timestamp + interval < w.stop →
    ∃ next ∈ usable, next.block.timestamp = b.block.timestamp + interval

/-- A window of usable blocks, and what follows for its limits and its length. -/
structure RegularWindow (load : FlexibleLoad) (scored : List ScoredBlock) (now : Instant) (w : PlanWindow) : Prop where
  usable : WindowOf (usableBlocks load scored now) (mergePause load) w
  qualified : (∃ s ∈ scored, Qualifies load now s) → ∀ b ∈ w.blocks, Qualifies load now b
  start : (∃ s ∈ scored, Qualifies load now s) → max load.earliestStart (now - interval) ≤ w.start
  finish : (∃ s ∈ scored, Qualifies load now s) → (∃ k : ℤ, lastStart load - w.stop = interval * k) →
    w.stop ≤ lastStart load
  steps : Unbroken (usableBlocks load scored now) w → w.blocks.IsChain fun b next =>
    next.block.timestamp = b.block.timestamp + interval ∨
      ∃ pause ∈ mergePause load, next.block.timestamp ≤ b.block.timestamp + interval + pause
  duration : mergePause load = none → Unbroken (usableBlocks load scored now) w →
    GapFree (w.blocks.map ScoredBlock.block) ∧ w.stop - w.start = interval * w.blocks.length

section

variable {usable : List ScoredBlock} {minPause : Option Duration} {w : PlanWindow}

theorem exists_head (h : WindowOf usable minPause w) : ∃ first ∈ w.blocks, w.start = first.block.timestamp := by
  obtain ⟨first, hfirst, hstart⟩ := Option.map_eq_some_iff.mp h.starts
  exact ⟨first, List.mem_of_mem_head? hfirst, hstart.symm⟩

theorem exists_last (h : WindowOf usable minPause w) :
    ∃ last ∈ w.blocks, w.stop = last.block.timestamp + interval := by
  obtain ⟨last, hlast, hstop⟩ := Option.map_eq_some_iff.mp h.stops
  exact ⟨last, List.mem_of_getLast? hlast, hstop.symm⟩

theorem QuarterOrdered.blocks (hordered : QuarterOrdered (usable.map ScoredBlock.block)) :
    usable.Pairwise fun b next => b.block.timestamp + interval ≤ next.block.timestamp := List.pairwise_map.mp hordered

/-- No block of a window ends behind it. -/
theorem end_le_stop (hordered : QuarterOrdered (usable.map ScoredBlock.block)) (h : WindowOf usable minPause w)
    {b : ScoredBlock} (hb : b ∈ w.blocks) : b.block.timestamp + interval ≤ w.stop := by
  have hblocks := hordered.blocks.sublist h.sublist
  obtain ⟨last, hlast, hstop⟩ := Option.map_eq_some_iff.mp h.stops
  obtain ⟨before, hsplit⟩ := List.getLast?_eq_some_iff.mp hlast
  rw [hsplit] at hb hblocks
  rw [← hstop]
  rcases List.mem_append.mp hb with hbefore | hlast
  · have hle := (List.pairwise_append.mp hblocks).2.2 b hbefore last (List.mem_singleton_self last)
    linarith [interval_pos]
  · rw [List.mem_singleton.mp hlast]

/-- A usable block that follows directly is the next usable block. -/
theorem next_of_infix (hordered : QuarterOrdered (usable.map ScoredBlock.block)) {b next follower : ScoredBlock}
    (hpair : [b, next] <:+: usable) (hmem : follower ∈ usable)
    (hfollows : follower.block.timestamp = b.block.timestamp + interval) :
    next.block.timestamp = b.block.timestamp + interval := by
  obtain ⟨before, behind, hsplit⟩ := hpair
  have hpairwise := hordered.blocks
  rw [← hsplit] at hpairwise hmem
  obtain ⟨hfront, -, hbehind⟩ := List.pairwise_append.mp hpairwise
  obtain ⟨-, hboth, hbefore⟩ := List.pairwise_append.mp hfront
  have hnext := List.rel_of_pairwise_cons hboth (List.mem_singleton_self next)
  have hpos := interval_pos
  rcases List.mem_append.mp hmem with hin | hlate
  · rcases List.mem_append.mp hin with hearly | htwo
    · have hle := hbefore follower hearly b List.mem_cons_self
      linarith
    · rcases List.mem_cons.mp htwo with rfl | hsecond
      · linarith
      · rw [← List.mem_singleton.mp hsecond, hfollows]
  · have hle := hbehind next (List.mem_append_right _ (List.mem_cons_of_mem _ (List.mem_singleton_self next)))
      follower hlate
    linarith

/-- **In an unbroken window**, each block follows the one before, pauses apart. -/
theorem steps_of_unbroken (hordered : QuarterOrdered (usable.map ScoredBlock.block)) (h : WindowOf usable minPause w)
    (hunbroken : Unbroken usable w) : w.blocks.IsChain fun b next =>
      next.block.timestamp = b.block.timestamp + interval ∨
        ∃ pause ∈ minPause, next.block.timestamp ≤ b.block.timestamp + interval + pause := by
  refine h.joined.imp_of_mem_imp fun b next hb hnext hjoined => ?_
  rcases hjoined with hpair | hpause
  · left
    have hend := end_le_stop hordered h hnext
    have hlater : b.block.timestamp + interval ≤ next.block.timestamp := by
      obtain ⟨before, behind, hsplit⟩ := hpair
      have hpairwise := hordered.blocks
      rw [← hsplit] at hpairwise
      have hboth := (List.pairwise_append.mp (List.pairwise_append.mp hpairwise).1).2.1
      exact List.rel_of_pairwise_cons hboth (List.mem_singleton_self next)
    obtain ⟨follower, hmem, hfollows⟩ := hunbroken b hb (by linarith [interval_pos])
    exact next_of_infix hordered hpair hmem hfollows
  · exact .inr hpause

/-- Blocks that follow each other last as long as there are of them. -/
theorem duration_of_gapFree (h : WindowOf usable minPause w) (hgapFree : GapFree (w.blocks.map ScoredBlock.block)) :
    w.stop - w.start = interval * w.blocks.length := by
  obtain ⟨origin, haligned⟩ := hgapFree.exists_aligned
  have hlength := List.length_pos_of_ne_nil h.blocks_ne
  have hstarts := h.starts
  have hstops := h.stops
  rw [List.head?_eq_getElem?, List.getElem?_eq_getElem hlength, Option.map_some, Option.some_inj,
    haligned 0 hlength] at hstarts
  rw [List.getLast?_eq_getElem?, List.getElem?_eq_getElem (by omega), Option.map_some, Option.some_inj,
    haligned _ (by omega)] at hstops
  rw [← hstarts, ← hstops, Nat.cast_sub (by omega), Nat.cast_zero, Nat.cast_one]
  ring

end

/-- **A window of usable blocks is regular.** -/
theorem regularWindow_of_windowOf {load : FlexibleLoad} {scored : List ScoredBlock} {now : Instant} {w : PlanWindow}
    (hordered : QuarterOrdered (scored.map ScoredBlock.block))
    (h : WindowOf (usableBlocks load scored now) (mergePause load) w) : RegularWindow load scored now w := by
  have husable : QuarterOrdered ((usableBlocks load scored now).map ScoredBlock.block) :=
    hordered.sublist ((usableBlocks_sublist load scored now).map _)
  have hqualified : (∃ s ∈ scored, Qualifies load now s) → ∀ b ∈ w.blocks, Qualifies load now b :=
    fun hany b hb => qualifies_of_mem_usableBlocks hany b (h.sublist.subset hb)
  refine ⟨h, hqualified, fun hany => ?_, fun hany hgrid => ?_, steps_of_unbroken husable h, fun hpause hunbroken => ?_⟩
  · obtain ⟨first, hfirst, hstart⟩ := exists_head h
    have hqualifies := hqualified hany first hfirst
    rw [hstart]
    exact max_le hqualifies.earliest hqualifies.recent
  · obtain ⟨last, hlast, hstop⟩ := exists_last h
    have hbefore := (hqualified hany last hlast).latest
    obtain ⟨k, hk⟩ := hgrid
    have hpos : 0 < interval * ((k + 1 : ℤ) : ℚ) := by
      push_cast
      linarith
    have hcast : (0 : ℚ) < ((k + 1 : ℤ) : ℚ) := pos_of_mul_pos_right hpos interval_pos.le
    have hwhole : 0 ≤ k := by
      have := Int.cast_pos.mp hcast
      omega
    have hnonneg : 0 ≤ interval * (k : ℚ) := mul_nonneg interval_pos.le (Int.cast_nonneg hwhole)
    linarith
  · have hsteps := steps_of_unbroken husable h hunbroken
    have hgapFree : GapFree (w.blocks.map ScoredBlock.block) := by
      refine List.isChain_map_of_isChain _ (fun b next hstep => ?_) hsteps
      rcases hstep with hnext | ⟨pause, hsome, -⟩
      · exact hnext
      · rw [hpause] at hsome
        cases hsome
    exact ⟨hgapFree, duration_of_gapFree h hgapFree⟩

/-! ### The fallback -/

/-- The window of a load that must run: it starts with a block of the horizon, and lasts for the minimum runtime. -/
structure SafetyWindow (load : FlexibleLoad) (scored : List ScoredBlock) (now : Instant) (w : PlanWindow) : Prop where
  critical : load.safetyCritical = true
  window : fallbackWindow load scored now = some w
  start : ∃ first ∈ scored, w.start = first.block.timestamp
  duration : w.stop - w.start = load.minimumRuntime

theorem safetyWindow_of_fallbackWindow {load : FlexibleLoad} {scored : List ScoredBlock} {now : Instant}
    {w : PlanWindow} (hcritical : load.safetyCritical = true) (h : fallbackWindow load scored now = some w) :
    SafetyWindow load scored now w := by
  have hwindow := h
  unfold fallbackWindow at h
  dsimp only at h
  split at h
  · cases h
  · rename_i first rest hblocks
    cases h
    have hfirst := List.mem_of_mem_take (hblocks ▸ List.mem_cons_self : first ∈ List.take _ _)
    refine ⟨hcritical, hwindow, ⟨first, ?_, rfl⟩, add_sub_cancel_left _ _⟩
    split_ifs at hfirst
    · exact List.mem_of_mem_drop hfirst
    · exact (List.mem_filter.mp hfirst).1

/-- Windows that are regular, or the single one of the fallback. -/
def RegularOrSafety (load : FlexibleLoad) (scored : List ScoredBlock) (now : Instant) (windows : List PlanWindow) :
    Prop :=
  (∀ w ∈ windows, RegularWindow load scored now w) ∨ ∃ w, windows = [w] ∧ SafetyWindow load scored now w

theorem regularOrSafety_fallback {load : FlexibleLoad} {scored : List ScoredBlock} {now : Instant}
    (hcritical : load.safetyCritical = true) : RegularOrSafety load scored now (fallbackWindow load scored now).toList := by
  cases hfallback : fallbackWindow load scored now with
  | none => exact .inl fun w hw => absurd hw List.not_mem_nil
  | some w => exact .inr ⟨w, rfl, safetyWindow_of_fallbackWindow hcritical hfallback⟩

/-! ### The windows of a plan -/

/-- The blocks of a plan, scored. -/
def scoredFor (ctx : OptimizerContext) (load : FlexibleLoad) (horizon : List HorizonBlock) (now : Instant) :
    List ScoredBlock :=
  scoreHorizon ctx.settings load horizon (computeDeadlineUrgency now load.deadline)

section

variable {ctx : OptimizerContext} {load : FlexibleLoad} {scored : List ScoredBlock} {now : Instant}
  {strategy : LoadStrategy} {urgency : DeadlineUrgency}

theorem windows_planSeveral {found : List PlanWindow} {explain : List PlanWindow → String}
    (hfound : ∀ w ∈ found, RegularWindow load scored now w) :
    RegularOrSafety load scored now (planSeveral load scored strategy urgency now found explain).windows := by
  show RegularOrSafety load scored now
    (if found.isEmpty && load.safetyCritical then (fallbackWindow load scored now).toList else found)
  split_ifs with hnone
  · exact regularOrSafety_fallback (Bool.and_eq_true_iff.mp hnone).2
  · exact .inl hfound

theorem windows_planFilterCycles {cyclesPerDay : ℤ} {cycleDuration : Duration}
    (hordered : QuarterOrdered (scored.map ScoredBlock.block)) (hcycles : load.fixedCyclesPerDay = some cyclesPerDay)
    (hduration : load.fixedCycleDuration = some cycleDuration) : RegularOrSafety load scored now
      (planFilterCycles ctx load scored strategy urgency now cyclesPerDay cycleDuration).windows := by
  have hfixed : hasFixedCycles load = true := by
    rw [hasFixedCycles, hcycles, hduration]
    rfl
  refine windows_planSeveral fun w hw => regularWindow_of_windowOf hordered ?_
  have hpause : mergePause load = none := by
    rw [mergePause, hfixed]
    rfl
  rw [hpause, usableBlocks, hfixed, Bool.true_or, if_pos rfl]
  exact windowOf_planFixedFilterCycles w hw

theorem QuarterOrdered.nodup (hordered : QuarterOrdered (scored.map ScoredBlock.block)) : scored.Nodup := by
  refine hordered.blocks.imp fun hlater heq => ?_
  rw [heq] at hlater
  linarith [interval_pos]

theorem windows_planDailyCleaning {dailyRuntime : Duration} {maxStarts : ℤ}
    (hordered : QuarterOrdered (scored.map ScoredBlock.block)) (hfixed : hasFixedCycles load = false)
    (hruntime : load.dailyRuntimeTarget = some dailyRuntime) (hstarts : load.maxStartsPerDay = some maxStarts)
    (hsome : maxStarts ≠ 0) : RegularOrSafety load scored now
      (planDailyCleaning ctx load scored strategy urgency now dailyRuntime maxStarts).windows := by
  have hdaily : hasDailyRuntime load = true := by
    rw [hasDailyRuntime, hruntime, hstarts]
    exact decide_eq_true hsome
  refine windows_planSeveral fun w hw => regularWindow_of_windowOf hordered ?_
  have hpause : mergePause load = some ((orNonzero load.minimumPause (some 1200)).getD 1200) := by
    rw [mergePause, hfixed, hdaily]
    rfl
  rw [hpause, usableBlocks, hdaily, Bool.or_true, if_pos rfl]
  exact windowOf_planDailyCleaningWindows (hordered.nodup.sublist (eligibleBlocks_sublist _ _ _ _)) w hw

theorem windows_planSingle (hordered : QuarterOrdered (scored.map ScoredBlock.block))
    (hfixed : hasFixedCycles load = false) (hdaily : hasDailyRuntime load = false) : RegularOrSafety load scored now
      (planSingle ctx load scored (filterEligibleBlocks scored load now) strategy urgency now).windows := by
  have husable : usableBlocks load scored now = filterEligibleBlocks scored load now := by
    rw [usableBlocks, hfixed, hdaily]
    rfl
  have hpause : mergePause load = none := by
    rw [mergePause, hdaily, Bool.and_false]
    rfl
  unfold planSingle
  dsimp only
  split_ifs with hnone
  · exact regularOrSafety_fallback (Bool.and_eq_true_iff.mp hnone).2
  · refine .inl fun w hw => regularWindow_of_windowOf hordered ?_
    rw [husable, hpause]
    exact windowOf_bestWindow (Option.mem_toList.mp hw)

end

/-- **The windows of every plan.** They are runs of the blocks that the load may use, within the limits of the load as
long as any block is, and without gaps where no block between is missing or of no use; only daily cleaning merges
them, across its pause, and a load that must run and has no window gets the one of the fallback. -/
theorem plan_windows (ctx : OptimizerContext) (load : FlexibleLoad) (horizon : List HorizonBlock)
    (strategy : LoadStrategy) (now : Instant) (hordered : QuarterOrdered horizon)
    (hstrategy : strategy ≠ .fixedSchedule) :
    RegularOrSafety load (scoredFor ctx load horizon now) now (plan ctx load horizon strategy now).windows := by
  have hscored : QuarterOrdered ((scoredFor ctx load horizon now).map ScoredBlock.block) := by
    rw [scoredFor, block_scoreHorizon]
    exact hordered
  unfold plan
  dsimp only
  split
  · exact absurd rfl hstrategy
  · split
    · rename_i hcycles hduration
      exact windows_planFilterCycles hscored hcycles hduration
    · rename_i hnotFixed
      have hfixed : hasFixedCycles load = false := by
        rw [hasFixedCycles, Bool.and_eq_false_iff]
        by_contra hboth
        obtain ⟨hcycles, hduration⟩ := not_or.mp hboth
        rw [Bool.not_eq_false, Option.isSome_iff_exists] at hcycles hduration
        obtain ⟨cyclesPerDay, hcycles⟩ := hcycles
        obtain ⟨cycleDuration, hduration⟩ := hduration
        exact hnotFixed cyclesPerDay cycleDuration hcycles hduration
      split
      · rename_i hruntime hstarts
        split_ifs with hsome
        · exact windows_planDailyCleaning hscored hfixed hruntime hstarts hsome
        · refine windows_planSingle hscored hfixed ?_
          rw [hasDailyRuntime, hstarts, Option.any_some, decide_eq_false hsome, Bool.and_false]
      · rename_i hnotDaily
        refine windows_planSingle hscored hfixed ?_
        rw [hasDailyRuntime, Bool.and_eq_false_iff]
        by_contra hboth
        obtain ⟨hruntime, hstarts⟩ := not_or.mp hboth
        rw [Bool.not_eq_false] at hruntime hstarts
        obtain ⟨dailyRuntime, hruntime⟩ := Option.isSome_iff_exists.mp hruntime
        obtain ⟨maxStarts, hstarts, -⟩ := (Option.any_eq_true _ _).mp hstarts
        exact hnotDaily dailyRuntime maxStarts hruntime hstarts

/-! ### Other windows -/

instance (horizon : List HorizonBlock) : Decidable (GapFree horizon) :=
  inferInstanceAs (Decidable (horizon.IsChain _))

instance (load : FlexibleLoad) (now : Instant) (w : PlanWindow) : Decidable (Allowed load now w) :=
  decidable_of_iff
    (GapFree (w.blocks.map ScoredBlock.block) ∧ w.stop - w.start = interval * w.blocks.length
      ∧ max load.earliestStart (now - interval) ≤ w.start ∧ w.stop ≤ load.latestFinish
      ∧ (load.safetyCritical = false → w.stop ≤ load.deadline))
    ⟨fun ⟨hconsecutive, hduration, hstart, hfinish, hdeadline⟩ =>
        ⟨hconsecutive, hduration, hstart, hfinish, hdeadline⟩,
      fun h => ⟨h.consecutive, h.duration, h.start, h.finish, h.deadline⟩⟩

namespace NightDemo

/-- Half an hour that may only start half an hour after midnight. -/
def load : FlexibleLoad :=
  { loadId := "spa", name := "Spa filter", nominalPowerW := 2000, minimumRuntime := 1800, maximumRuntime := 3600
    earliestStart := 1800, latestFinish := 43200, deadline := 43200 }

def block (availableSurplusW : ℚ) (timestamp : Instant) : HorizonBlock :=
  { timestamp := timestamp, solarForecastW := 0, houseLoadForecastW := 0, higherPriorityLoadsW := 0
    availableSurplusW := availableSurplusW, batterySocPct := none, spotPriceEurKwh := none, allInPriceEurKwh := none
    exportValueSekKwh := 0 }

/-- The hour after midnight. -/
def horizon : List HorizonBlock := [block 0 0, block 0 900, block 0 1800, block 0 2700]

/-- A load that need not run, with limits that no block of the hour is in. -/
def morningLoad : FlexibleLoad := { load with earliestStart := 21600, safetyCritical := false }

/-- Three quarters of an hour of cleaning, in three starts with a quarter of an hour between them. -/
def cleaningLoad : FlexibleLoad :=
  { load with
    minimumRuntime := 900, earliestStart := 0, dailyRuntimeTarget := some 2700, maxStartsPerDay := some 3,
    minimumPause := some 900 }

/-- Sun in every other block. -/
def cloudy : List HorizonBlock := [block 1200 0, block 0 900, block 1200 1800, block 0 2700, block 1200 3600]

def context : OptimizerContext :=
  { order := { iterate := id, mem_iterate := SetOrder.mem_id }
    text := { hourMinute := fun _ => "", general := fun _ => "", fixedPoint := fun _ _ => "" } }

theorem quarterOrdered_horizon : QuarterOrdered horizon := by
  unfold QuarterOrdered horizon
  decide +kernel

theorem plan_windows_smart : QuarterOrdered horizon ∧ LoadStrategy.smart ≠ .fixedSchedule ∧
      RegularOrSafety load (scoredFor context load horizon 0) 0 (plan context load horizon .smart 0).windows :=
  ⟨quarterOrdered_horizon, by decide, plan_windows context load horizon .smart 0 quarterOrdered_horizon (by decide)⟩

/-- **Windows by design.** Without enough sun, the load that must run is planned for midnight, before its earliest
start; a load whose limits no block is in is planned for any block; and cleaning is merged across its pause. -/
theorem planned_otherwise : (¬ ∀ w ∈ (plan context load horizon .solarOnly 0).windows, Allowed load 0 w)
      ∧ (¬ ∀ w ∈ (plan context morningLoad horizon .smart 0).windows, Allowed morningLoad 0 w)
      ∧ ¬ ∀ w ∈ (plan context cleaningLoad cloudy .solarOnly 0).windows, Allowed cleaningLoad 0 w := by
  refine ⟨by decide +kernel, by decide +kernel, by decide +kernel⟩

end NightDemo

end EnergyCore.FlexibleLoads
