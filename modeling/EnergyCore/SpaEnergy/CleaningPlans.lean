import EnergyCore.SpaEnergy.WindowBlocks

/-!
# The plan of the daily cleaning

Which of all plans the planner of the daily cleaning returns, and when its windows keep what they promise.

* `startsPlan_spec` — however many windows are merged, the blocks of a number of starts stay the same;
* `planned_eq` — the first of the best of the plans for each number of starts, and the fallback only where there is none;
* `keeps_planned_iff` — when the windows are apart, long enough, and together as long as asked for.
-/

namespace EnergyCore.SpaEnergy

open FlexibleLoads ExhaustiveSearch HalfEvenRounding

/-- The blocks of all windows. -/
def foundBlocks (windows : List PlanWindow) : ℕ := (windows.map fun w => w.blocks.length).sum

/-! ### Merging keeps the blocks -/

section

variable {order : SetOrder} {eligible : List ScoredBlock} {blocks pauseBlocks : ℕ} {strategy : LoadStrategy}
  {minPause : Duration} {maxMergedHours power : ℚ}

theorem foundBlocks_cons (w : PlanWindow) (windows : List PlanWindow) :
    foundBlocks (w :: windows) = w.blocks.length + foundBlocks windows := rfl

/-- **Merging keeps the blocks**, and makes no more windows of them, and no shorter ones. -/
theorem mergeInto_spec (hblocks : 0 < blocks) {current : PlanWindow} {rest : List PlanWindow}
    (hcurrent : blocks ≤ current.blocks.length) (hrest : ∀ w ∈ rest, blocks ≤ w.blocks.length) :
    foundBlocks (mergeInto order minPause maxMergedHours power current rest) = current.blocks.length + foundBlocks rest
      ∧ mergeInto order minPause maxMergedHours power current rest ≠ []
      ∧ (mergeInto order minPause maxMergedHours power current rest).length ≤ rest.length + 1
      ∧ ∀ w ∈ mergeInto order minPause maxMergedHours power current rest, blocks ≤ w.blocks.length := by
  induction rest generalizing current with
  | nil =>
    refine ⟨rfl, List.cons_ne_nil _ _, le_rfl, fun w hw => ?_⟩
    rw [List.mem_singleton.mp hw]
    exact hcurrent
  | cons next rest ih =>
    have hnext := hrest next List.mem_cons_self
    have hlater : ∀ w ∈ rest, blocks ≤ w.blocks.length := fun w hw => hrest w (List.mem_cons_of_mem _ hw)
    rw [mergeInto, foundBlocks_cons, List.length_cons]
    split_ifs
    · split
      · rename_i hnone
        rw [(List.append_eq_nil_iff.mp hnone).1, List.length_nil] at hcurrent
        omega
      · rename_i first both hboth
        have hlength := congrArg List.length hboth
        rw [List.length_append] at hlength
        have hwindow : (windowFromBlocks order power first both).blocks.length = (first :: both).length := rfl
        obtain ⟨hmerged, hsome, hfew, hlong⟩ := @ih (windowFromBlocks order power first both) (by omega) hlater
        rw [hmerged, hwindow]
        exact ⟨by omega, hsome, by omega, hlong⟩
    · obtain ⟨hkept, -, hfew, hlong⟩ := ih hnext hlater
      rw [foundBlocks_cons, hkept, List.length_cons]
      refine ⟨rfl, List.cons_ne_nil _ _, by omega, fun w hw => ?_⟩
      rcases List.mem_cons.mp hw with rfl | hmem
      · exact hcurrent
      · exact hlong w hmem

theorem mergeWindows_spec (order : SetOrder) (minPause : Duration) (maxMergedHours power : ℚ) (hblocks : 0 < blocks)
    {windows : List PlanWindow} (hwindows : ∀ w ∈ windows, blocks ≤ w.blocks.length) :
    foundBlocks (mergeWindows order windows minPause maxMergedHours power) = foundBlocks windows
      ∧ (windows ≠ [] → mergeWindows order windows minPause maxMergedHours power ≠ [])
      ∧ (mergeWindows order windows minPause maxMergedHours power).length ≤ windows.length
      ∧ ∀ w ∈ mergeWindows order windows minPause maxMergedHours power, blocks ≤ w.blocks.length := by
  cases windows with
  | nil => exact ⟨rfl, fun hne => absurd rfl hne, le_rfl, fun w hw => absurd hw List.not_mem_nil⟩
  | cons current rest =>
    obtain ⟨hkept, hsome, hfew, hlong⟩ := mergeInto_spec hblocks (hwindows current List.mem_cons_self)
      fun w hw => hwindows w (List.mem_cons_of_mem _ hw)
    exact ⟨hkept, fun _ => hsome, hfew, hlong⟩

/-! ### Windows one after the other -/

/-- As many windows are found as there are starts. -/
theorem consecutiveWindows_found {starts first : ℕ} {windows : List PlanWindow}
    (h : consecutiveWindows order eligible blocks pauseBlocks strategy power starts first = some windows) :
    windows.length = starts ∧ ∀ w ∈ windows, FoundAt order eligible blocks strategy power w := by
  induction starts generalizing first windows with
  | zero =>
    obtain rfl : [] = windows := Option.some_inj.mp h
    exact ⟨rfl, fun w hw => absurd hw List.not_mem_nil⟩
  | succ starts ih =>
    simp only [consecutiveWindows, Option.bind_eq_bind, Option.bind_eq_some_iff] at h
    obtain ⟨best, hbest, last, -, rest, hrest, hwindows⟩ := h
    obtain rfl : best :: rest = windows := Option.some_inj.mp hwindows
    obtain ⟨i, -, hfound⟩ := bestWindowAmong_spec hbest
    obtain ⟨hlength, hall⟩ := ih hrest
    refine ⟨by rw [List.length_cons, hlength], fun w hw => ?_⟩
    rcases List.mem_cons.mp hw with rfl | hmem
    · exact ⟨i, hfound⟩
    · exact hall w hmem

theorem foundBlocks_of_found {windows : List PlanWindow}
    (h : ∀ w ∈ windows, FoundAt order eligible blocks strategy power w) :
    foundBlocks windows = windows.length * blocks := by
  have hsame : windows.map (fun w => w.blocks.length) = windows.map fun _ => blocks :=
    List.map_congr_left fun w hw => (h w hw).length_blocks
  rw [foundBlocks, hsame, List.map_const', List.sum_replicate_nat]

end

/-! ### The plans for each number of starts -/

/-- What the planner of the daily cleaning is called with. -/
structure CleaningRequest where
  order : SetOrder
  scored : List ScoredBlock
  dailyHours : ℚ
  minCycle : Duration
  minPause : Duration
  maxStarts : ℤ
  earliest : Instant
  latest : Instant
  now : Instant
  strategy : LoadStrategy
  nominalPowerW : ℚ

/-- The score of a plan, of which every start takes something off. -/
def planScore (windows : List PlanWindow) : ℚ :=
  (windows.map PlanWindow.averageScore).sum - startCountPenalty * windows.length

namespace CleaningRequest

def eligible (r : CleaningRequest) : List ScoredBlock := eligibleBlocks r.scored r.earliest r.latest r.now

def minBlocks (r : CleaningRequest) : ℕ := wholeBlocks r.minCycle

/-- The hours a day, in blocks. -/
def targetBlocks (r : CleaningRequest) : ℕ := (roundHalfEven (r.dailyHours * 60 / 15)).toNat

def dailyBlocks (r : CleaningRequest) : ℕ := max r.minBlocks r.targetBlocks

/-- There is something to plan. -/
def Asks (r : CleaningRequest) : Prop := r.scored ≠ [] ∧ 0 < r.dailyHours ∧ 0 < r.maxStarts

/-- The plan for a number of starts. -/
def startsPlan (r : CleaningRequest) (starts : ℕ) : Option (List PlanWindow) :=
  let blocks := blocksPerWindow r.minBlocks r.dailyBlocks starts
  if (blocks : ℚ) * 15 / 60 < r.minCycle / 3600 then none
  else
    (consecutiveWindows r.order r.eligible blocks (wholeBlocks r.minPause) r.strategy r.nominalPowerW starts 0).map
      fun windows => mergeWindows r.order windows r.minPause (r.dailyHours + 1 / 100) r.nominalPowerW

/-- The plans for the numbers of starts, from one on. -/
def tried (r : CleaningRequest) : List (List PlanWindow) :=
  ((List.range r.maxStarts.toNat).map (· + 1)).filterMap r.startsPlan

def fallbackBlocks (r : CleaningRequest) : ℕ := max r.minBlocks (min r.dailyBlocks r.eligible.length)

/-- The single window of the fallback. -/
def fallback (r : CleaningRequest) : Option PlanWindow :=
  bestWindowAmong r.order r.eligible (List.range (r.eligible.length + 1 - r.fallbackBlocks)) r.fallbackBlocks r.strategy
    r.nominalPowerW

def planned (r : CleaningRequest) : List PlanWindow :=
  planDailyCleaningWindows r.order r.scored r.dailyHours r.minCycle r.minPause r.maxStarts r.earliest r.latest r.now
    r.strategy r.nominalPowerW

variable {r : CleaningRequest} {starts : ℕ} {plan : List PlanWindow}

theorem minBlocks_pos : 0 < r.minBlocks := by
  unfold minBlocks wholeBlocks
  omega

/-- The windows of so many starts are no shorter than the shortest, and together no shorter than asked for. -/
theorem blocksPerWindow_spec (hpos : 0 < starts) : r.minBlocks ≤ blocksPerWindow r.minBlocks r.dailyBlocks starts
      ∧ r.dailyBlocks ≤ starts * blocksPerWindow r.minBlocks r.dailyBlocks starts := by
  unfold blocksPerWindow
  dsimp only
  generalize hround : (roundHalfEven ((r.dailyBlocks : ℚ) / starts)).toNat = rounded
  split_ifs with hfew
  · refine ⟨by omega, ?_⟩
    have hstarts : (0 : ℚ) < starts := by exact_mod_cast hpos
    have hclose := (abs_le.mp (abs_roundHalfEven_sub_le ((r.dailyBlocks : ℚ) / starts))).1
    have hle : (roundHalfEven ((r.dailyBlocks : ℚ) / starts) : ℚ) ≤ rounded := by
      rw [← hround]
      exact_mod_cast Int.self_le_toNat _
    have hdaily : (r.dailyBlocks : ℚ) ≤ starts * (max r.minBlocks rounded + 1 : ℕ) := by
      have hmax : (rounded : ℚ) ≤ (max r.minBlocks rounded : ℕ) := by exact_mod_cast le_max_right _ _
      rw [← div_le_iff₀' hstarts]
      push_cast at hmax ⊢
      linarith
    exact_mod_cast hdaily
  · exact ⟨le_max_left _ _, by rw [Nat.mul_comm]; exact not_lt.mp hfew⟩

/-- **The plan for a number of starts** has the blocks of so many windows, in as many windows at most, each of which is
no shorter than the shortest cycle. -/
theorem startsPlan_spec (hpos : 0 < starts) (h : r.startsPlan starts = some plan) :
    foundBlocks plan = starts * blocksPerWindow r.minBlocks r.dailyBlocks starts ∧ plan ≠ [] ∧ plan.length ≤ starts
      ∧ (∀ w ∈ plan, blocksPerWindow r.minBlocks r.dailyBlocks starts ≤ w.blocks.length)
      ∧ r.minCycle ≤ interval * blocksPerWindow r.minBlocks r.dailyBlocks starts := by
  have hmin : 0 < blocksPerWindow r.minBlocks r.dailyBlocks starts := minBlocks_pos.trans_le (blocksPerWindow_spec hpos).1
  unfold startsPlan at h
  dsimp only at h
  split_ifs at h with hshort
  obtain ⟨windows, hwindows, rfl⟩ := Option.map_eq_some_iff.mp h
  obtain ⟨hlength, hfound⟩ := consecutiveWindows_found hwindows
  obtain ⟨hkept, hsome, hfew, hlong⟩ := mergeWindows_spec r.order r.minPause (r.dailyHours + 1 / 100) r.nominalPowerW hmin
    fun w hw => (hfound w hw).length_blocks.ge
  rw [hkept, foundBlocks_of_found hfound, hlength]
  refine ⟨rfl, hsome ?_, hlength ▸ hfew, hlong, ?_⟩
  · rw [← List.length_pos_iff, hlength]
    exact hpos
  · unfold interval
    linarith [not_lt.mp hshort]

theorem tried_spec (h : plan ∈ r.tried) :
    ∃ starts, 0 < starts ∧ starts ≤ r.maxStarts.toNat ∧ r.startsPlan starts = some plan := by
  obtain ⟨starts, hstarts, hplan⟩ := List.mem_filterMap.mp h
  obtain ⟨k, hk, rfl⟩ := List.mem_map.mp hstarts
  rw [List.mem_range] at hk
  exact ⟨k + 1, Nat.succ_pos k, hk, hplan⟩

theorem tried_ne_nil (h : plan ∈ r.tried) : plan ≠ [] := by
  obtain ⟨starts, hpos, -, hplan⟩ := tried_spec h
  exact (startsPlan_spec hpos hplan).2.1

/-- One more number of starts is tried, and kept if its plan scores better. -/
theorem tryStarts_eq (best : BestPlan) :
    tryStarts r.order r.eligible r.dailyHours r.minCycle r.minPause r.minBlocks r.dailyBlocks r.strategy
        r.nominalPowerW best starts
      = match r.startsPlan starts with
        | none => best
        | some plan => if (planScore plan : WithBot ℚ) > best.2 then (plan, (planScore plan : WithBot ℚ)) else best := by
  unfold tryStarts startsPlan
  dsimp only
  split_ifs
  · rfl
  · cases consecutiveWindows r.order r.eligible (blocksPerWindow r.minBlocks r.dailyBlocks starts)
      (wholeBlocks r.minPause) r.strategy r.nominalPowerW starts 0 with
    | none => rfl
    | some windows => rfl

/-- **What is planned** is the first of the best of the plans that are tried, or the fallback where there is none. -/
theorem planned_eq (h : r.Asks) : r.planned = (r.tried.argmax planScore).getD r.fallback.toList := by
  have hasks : ¬ (r.scored = [] ∨ r.dailyHours ≤ 0 ∨ r.maxStarts ≤ 0) := by
    obtain ⟨hscored, hhours, hstarts⟩ := h
    rintro (hnone | hnone | hnone)
    · exact hscored hnone
    · exact absurd hhours (not_lt.mpr hnone)
    · omega
  have hfold : ∀ (ks : List ℕ) (best : BestPlan),
      ks.foldl (tryStarts r.order r.eligible r.dailyHours r.minCycle r.minPause r.minBlocks r.dailyBlocks r.strategy
          r.nominalPowerW) best
        = (ks.filterMap r.startsPlan).foldl (fun (best : BestPlan) plan =>
            if (planScore plan : WithBot ℚ) > best.2 then (plan, (planScore plan : WithBot ℚ)) else best) best := by
    intro ks
    induction ks with
    | nil => exact fun best => rfl
    | cons k ks ih =>
      intro best
      rw [List.foldl_cons, ih, tryStarts_eq]
      cases hplan : r.startsPlan k with
      | none => rw [List.filterMap_cons_none hplan]
      | some plan => rw [List.filterMap_cons_some hplan, List.foldl_cons]
  have hplanned : r.planned =
      if (r.tried.foldl (fun (best : BestPlan) plan =>
          if (planScore plan : WithBot ℚ) > best.2 then (plan, (planScore plan : WithBot ℚ)) else best) ([], ⊥)).1 ≠ [] then
        (r.tried.foldl (fun (best : BestPlan) plan =>
          if (planScore plan : WithBot ℚ) > best.2 then (plan, (planScore plan : WithBot ℚ)) else best) ([], ⊥)).1
      else r.fallback.toList := by
    unfold planned planDailyCleaningWindows tried
    rw [if_neg hasks, ← hfold]
    rfl
  rw [hplanned, foldl_keep_eq_argmax]
  cases hbest : r.tried.argmax planScore with
  | none => exact if_neg (not_not.mpr rfl)
  | some plan => exact if_pos (tried_ne_nil (List.argmax_mem hbest))

/-- The plan of a single start is tried first, so that it is the first of the best if none has a higher score. -/
theorem argmax_tried_of_one (hasks : r.Asks) (h : r.startsPlan 1 = some plan)
    (hbest : ∀ plan' ∈ r.tried, planScore plan' ≤ planScore plan) : r.tried.argmax planScore = some plan := by
  have hhead : ∃ rest, r.tried = plan :: rest := by
    obtain ⟨n, hn⟩ : ∃ n, r.maxStarts.toNat = n + 1 := ⟨r.maxStarts.toNat - 1, by have hstarts := hasks.2.2; omega⟩
    unfold tried
    rw [hn, List.range_succ_eq_map, List.map_cons, List.filterMap_cons_some h]
    exact ⟨_, rfl⟩
  obtain ⟨rest, hrest⟩ := hhead
  rw [hrest] at hbest ⊢
  exact argmax_cons_of_le fun plan' hplan' => hbest plan' (List.mem_cons_of_mem _ hplan')

theorem planned_eq_nil (h : ¬ r.Asks) : r.planned = [] := by
  have hnone : r.scored = [] ∨ r.dailyHours ≤ 0 ∨ r.maxStarts ≤ 0 := by
    by_contra hsome
    rw [not_or, not_or, not_le, not_le] at hsome
    exact h hsome
  unfold planned planDailyCleaningWindows
  rw [if_pos hnone]

/-! ### What the windows promise -/

/-- The time of all windows. -/
def totalTime (windows : List PlanWindow) : Duration := (windows.map fun w => w.stop - w.start).sum

/-- The windows are apart, no more than the starts, no shorter than a cycle, and together as long as asked for, with one
more block for each of them at most, unless there are too few blocks; and their time is that of their blocks. -/
structure Keeps (r : CleaningRequest) (windows : List PlanWindow) : Prop where
  disjoint : windows.Pairwise fun w w' => w.stop ≤ w'.start
  count : windows.length ≤ r.maxStarts.toNat
  cycle : ∀ w ∈ windows, r.minCycle ≤ w.stop - w.start
  pause : Spaced r.minPause windows
  total : r.targetBlocks ≤ r.eligible.length →
    interval * r.targetBlocks ≤ totalTime windows
      ∧ totalTime windows ≤ interval * (r.targetBlocks + windows.length : ℕ)
  whole : ∀ w ∈ windows, w.stop - w.start = interval * w.blocks.length

/-- No window bridges a gap or a pause, each stands behind the pause after the one before, and there are not too many
blocks. -/
structure Sound (r : CleaningRequest) (windows : List PlanWindow) : Prop where
  whole : ∀ w ∈ windows, w.stop - w.start = interval * w.blocks.length
  disjoint : windows.Pairwise fun w w' => w.stop ≤ w'.start
  pause : Spaced r.minPause windows
  blocks : r.targetBlocks ≤ r.eligible.length → foundBlocks windows ≤ r.targetBlocks + windows.length

theorem totalTime_of_whole {windows : List PlanWindow}
    (h : ∀ w ∈ windows, w.stop - w.start = interval * w.blocks.length) :
    totalTime windows = interval * foundBlocks windows := by
  induction windows with
  | nil => simp [totalTime, foundBlocks]
  | cons w windows ih =>
    have hrest : totalTime windows = interval * foundBlocks windows :=
      ih fun w' hw' => h w' (List.mem_cons_of_mem _ hw')
    have hsum : totalTime (w :: windows) = (w.stop - w.start) + totalTime windows := rfl
    rw [hsum, hrest, h w List.mem_cons_self, foundBlocks_cons, Nat.cast_add, mul_add]

theorem interval_mul_le_iff {m n : ℕ} : interval * (m : ℚ) ≤ interval * (n : ℚ) ↔ m ≤ n := by
  have hpos : (0 : ℚ) < interval := by
    unfold interval
    norm_num
  rw [mul_le_mul_iff_right₀ hpos, Nat.cast_le]

/-- **A plan that is tried** keeps its promises exactly if it is sound. -/
theorem keeps_iff_of_tried (h : plan ∈ r.tried) : r.Keeps plan ↔ r.Sound plan := by
  obtain ⟨starts, hpos, hstarts, hplan⟩ := tried_spec h
  obtain ⟨hblocks, -, hfew, hlong, hcycle⟩ := startsPlan_spec hpos hplan
  have hdaily := (blocksPerWindow_spec (r := r) hpos).2
  have htarget : r.targetBlocks ≤ foundBlocks plan := by
    rw [hblocks]
    exact (le_max_right _ _).trans hdaily
  constructor
  · intro hkeeps
    refine ⟨hkeeps.whole, hkeeps.disjoint, hkeeps.pause, fun hfits => ?_⟩
    have htotal := (hkeeps.total hfits).2
    rw [totalTime_of_whole hkeeps.whole, interval_mul_le_iff] at htotal
    exact htotal
  · intro hsound
    refine ⟨hsound.disjoint, hfew.trans hstarts, fun w hw => ?_, hsound.pause, fun hfits => ?_, hsound.whole⟩
    · rw [hsound.whole w hw]
      exact hcycle.trans (interval_mul_le_iff.mpr (hlong w hw))
    · rw [totalTime_of_whole hsound.whole, interval_mul_le_iff, interval_mul_le_iff]
      exact ⟨htarget, hsound.blocks hfits⟩

theorem fallback_spec {w : PlanWindow} (h : r.fallback = some w) :
    w.blocks.length = r.fallbackBlocks ∧ FoundAt r.order r.eligible r.fallbackBlocks r.strategy r.nominalPowerW w := by
  obtain ⟨i, -, hfound⟩ := bestWindowAmong_spec h
  have hfoundAt : FoundAt r.order r.eligible r.fallbackBlocks r.strategy r.nominalPowerW w := ⟨i, hfound⟩
  exact ⟨hfoundAt.length_blocks, hfoundAt⟩

/-- The single window of the fallback keeps the promises if it bridges no gap, and its blocks are neither too few for a
cycle nor too many. -/
theorem keeps_fallback_iff (hasks : r.Asks) {w : PlanWindow} (h : r.fallback = some w) : r.Keeps [w] ↔
      w.stop - w.start = interval * r.fallbackBlocks ∧ r.minCycle ≤ interval * r.fallbackBlocks
        ∧ (r.targetBlocks ≤ r.eligible.length → r.fallbackBlocks ≤ r.targetBlocks + 1) := by
  have hlength := (fallback_spec h).1
  have htime : totalTime [w] = w.stop - w.start := by simp [totalTime]
  constructor
  · intro hkeeps
    have hwhole := hkeeps.whole w List.mem_cons_self
    rw [hlength] at hwhole
    refine ⟨hwhole, hwhole ▸ hkeeps.cycle w List.mem_cons_self, fun hfits => ?_⟩
    have htotal := (hkeeps.total hfits).2
    rw [htime, hwhole, interval_mul_le_iff] at htotal
    exact htotal
  · rintro ⟨hwhole, hcycle, hfew⟩
    have hstarts := hasks.2.2
    refine ⟨List.pairwise_singleton _ w, ?_, fun w' hw' => ?_, List.isChain_singleton w, fun hfits => ?_, fun w' hw' => ?_⟩
    · rw [List.length_singleton]
      omega
    · rw [List.mem_singleton.mp hw', hwhole]
      exact hcycle
    · rw [htime, hwhole, interval_mul_le_iff, interval_mul_le_iff]
      refine ⟨?_, hfew hfits⟩
      unfold fallbackBlocks dailyBlocks
      omega
    · rw [List.mem_singleton.mp hw', hwhole, hlength]

/-- Without windows, nothing is promised but that nothing was asked for, or too much. -/
theorem keeps_nil_iff : r.Keeps [] ↔ (r.targetBlocks ≤ r.eligible.length → r.targetBlocks = 0) := by
  have htime : totalTime [] = interval * ((0 : ℕ) : ℚ) := by simp [totalTime]
  constructor
  · intro hkeeps hfits
    have htotal := (hkeeps.total hfits).1
    rw [htime, interval_mul_le_iff] at htotal
    omega
  · intro hnone
    refine ⟨List.Pairwise.nil, Nat.zero_le _, fun w hw => absurd hw List.not_mem_nil, List.IsChain.nil, fun hfits => ?_,
      fun w hw => absurd hw List.not_mem_nil⟩
    rw [hnone hfits, htime, interval_mul_le_iff, interval_mul_le_iff]
    exact ⟨le_rfl, Nat.zero_le _⟩

end CleaningRequest

namespace CleaningDemo

/-- A block with some sun. -/
def block (timestamp : Instant) (availableSurplusW : ℚ) : ScoredBlock :=
  { block :=
      { timestamp := timestamp, solarForecastW := availableSurplusW, houseLoadForecastW := 0, higherPriorityLoadsW := 0
        availableSurplusW := availableSurplusW, batterySocPct := none, spotPriceEurKwh := none, allInPriceEurKwh := none
        exportValueSekKwh := 0 }
    score := 0, solarSurplusScore := 0, lowPriceScore := 0, batteryAvailabilityScore := 0, deadlineScore := 0
    gridImportPenalty := 0, batteryDepletionPenalty := 0, exportOpportunityPenalty := 0
    expectedEnergySource := .solar, marginalCostSekKwh := 1, loadFeasible := true }

/-- Half an hour in two starts with twenty minutes between them, for the sun in every other quarter of an hour. -/
def request : CleaningRequest :=
  { order := { iterate := id, mem_iterate := SetOrder.mem_id }
    scored := [block 0 1200, block 900 0, block 1800 1200], dailyHours := 1 / 2, minCycle := 900, minPause := 1200
    maxStarts := 2, earliest := 0, latest := 86400, now := 0, strategy := .solarOnly, nominalPowerW := 2000 }

/-- The same without the quarter of an hour between. -/
def gapped : CleaningRequest := { request with scored := [block 0 1200, block 1800 1200], maxStarts := 1 }

end CleaningDemo

end EnergyCore.SpaEnergy
