import EnergyCore.FlexibleLoads.Horizon
import EnergyCore.FlexibleLoads.Optimizer

/-!
# Several loads on one horizon

Loads are planned one after the other by priority, each on the surplus that the loads before it leave.

* `reservePlan_apply` — what a plan reserves of a block;
* `Reserved.concat` — the loads planned so far are reserved in every block that they cover;
* `notDoubleBooked_planAll` — when no surplus is booked twice.
-/

namespace EnergyCore.FlexibleLoads

/-! ### Planning -/

structure OrchestratedLoadSpec where
  load : FlexibleLoad
  strategy : LoadStrategy
  allowBattery : Bool := true
  preferSolar : Bool := true
  minBatterySocPct : ℚ := 40
  fallbackPriceSekKwh : ℚ := 2

structure OrchestratedLoadPlan where
  loadId : String
  name : String
  priority : ℤ
  plan : LoadPlan

/-- The power that is reserved at each timestamp. -/
abbrev Reservations := Instant → ℚ

def applyReservations (horizon : List HorizonBlock) (reserved : Reservations) : List HorizonBlock :=
  horizon.map fun block =>
    { block with
      higherPriorityLoadsW := reserved block.timestamp
      availableSurplusW :=
        max 0 (block.solarForecastW - block.houseLoadForecastW - reserved block.timestamp) }

/-- Every quarter of an hour from the start of a window. -/
def quarterSteps (start stop : Instant) : List Instant :=
  (List.range ⌈(stop - start) / interval⌉₊).map fun (k : ℕ) => start + interval * k

/-- The window covers the instant. -/
def PlanWindow.covers (window : PlanWindow) (ts : Instant) : Bool := decide (window.start ≤ ts ∧ ts < window.stop)

/-- The timestamps that a window reserves: those of the blocks that it covers, if there are any. -/
def reservedTimestamps (plan : LoadPlan) (window : PlanWindow) : List Instant :=
  let stamps := (plan.scoredBlocks.map fun s => s.block.timestamp).filter window.covers
  if stamps.isEmpty then quarterSteps window.start window.stop else stamps

def reservePlan (reserved : Reservations) (load : FlexibleLoad) (plan : LoadPlan) : Reservations :=
  plan.windows.foldl (fun reserved window ts =>
    if ts ∈ reservedTimestamps plan window then reserved ts + load.nominalPowerW else reserved ts) reserved

/-- The specs by priority, those of the same priority in their order. -/
def orderedSpecs (specs : List OrchestratedLoadSpec) : List OrchestratedLoadSpec :=
  specs.mergeSort fun spec spec' => decide (spec'.load.priority ≤ spec.load.priority)

/-- The plan of a spec on what the reservations leave of the horizon. -/
def planSpec (ctx : OptimizerContext) (horizon : List HorizonBlock) (now : Instant) (reserved : Reservations)
    (spec : OrchestratedLoadSpec) : LoadPlan :=
  let settings : OptimizerSettings :=
    { allowBattery := spec.allowBattery, preferSolar := spec.preferSolar, minBatterySocPct := spec.minBatterySocPct,
      fallbackPriceSekKwh := spec.fallbackPriceSekKwh, eurToSekRate := ctx.settings.eurToSekRate }
  plan { ctx with settings := settings } spec.load (applyReservations horizon reserved) spec.strategy now

/-- The loop of `plan_all`. -/
def planRounds (ctx : OptimizerContext) (horizon : List HorizonBlock) (now : Instant) :
    Reservations → List OrchestratedLoadSpec → List OrchestratedLoadPlan
  | _, [] => []
  | reserved, spec :: rest =>
    let plan := planSpec ctx horizon now reserved spec
    { loadId := spec.load.loadId, name := spec.load.name, priority := spec.load.priority, plan := plan } ::
      planRounds ctx horizon now (reservePlan reserved spec.load plan) rest

/-- `EnergyOrchestrator.plan_all`. -/
def planAll (ctx : OptimizerContext) (specs : List OrchestratedLoadSpec) (horizon : List HorizonBlock)
    (now : Instant) : List OrchestratedLoadPlan :=
  if specs = [] ∨ horizon = [] then [] else planRounds ctx horizon now (fun _ => 0) (orderedSpecs specs)

/-! ### Reservations -/

/-- **What a plan reserves** at a timestamp. -/
theorem reservePlan_apply (reserved : Reservations) (load : FlexibleLoad) (plan : LoadPlan) (ts : Instant) :
    reservePlan reserved load plan ts = reserved ts + load.nominalPowerW *
      plan.windows.countP (fun window => decide (ts ∈ reservedTimestamps plan window)) := by
  unfold reservePlan
  induction plan.windows generalizing reserved with
  | nil => simp
  | cons window windows ih =>
    rw [List.foldl_cons, ih, List.countP_cons]
    split_ifs with hmem hdecide hdecide
    · push_cast
      ring
    · exact absurd (decide_eq_true hmem) hdecide
    · exact absurd (of_decide_eq_true hdecide) hmem
    · rw [Nat.add_zero]

/-- A window reserves exactly the blocks that it covers. -/
theorem mem_reservedTimestamps_iff {plan : LoadPlan} {window : PlanWindow} {s : ScoredBlock}
    (hs : s ∈ plan.scoredBlocks) :
    s.block.timestamp ∈ reservedTimestamps plan window ↔ window.covers s.block.timestamp = true := by
  have hmem : s.block.timestamp ∈ plan.scoredBlocks.map fun s => s.block.timestamp :=
    List.mem_map.mpr ⟨s, hs, rfl⟩
  unfold reservedTimestamps
  dsimp only
  split_ifs with hempty
  · rw [List.isEmpty_iff, List.filter_eq_nil_iff] at hempty
    refine iff_of_false (fun hstep => ?_) (hempty _ hmem)
    obtain ⟨k, hk, hts⟩ := List.mem_map.mp hstep
    rw [List.mem_range, Nat.lt_ceil] at hk
    have hpos : (0 : ℚ) < interval := by
      unfold interval
      norm_num
    have hstop : interval * k < window.stop - window.start := by
      rw [lt_div_iff₀ hpos] at hk
      linarith
    have hstart : 0 ≤ interval * (k : ℚ) := mul_nonneg hpos.le (Nat.cast_nonneg k)
    refine hempty _ hmem ?_
    unfold PlanWindow.covers
    rw [← hts, decide_eq_true_eq]
    constructor <;> linarith
  · rw [List.mem_filter]
    exact ⟨fun h => h.2, fun h => ⟨hmem, h⟩⟩

/-- The blocks that a spec is planned on. -/
theorem scoredBlocks_planSpec (ctx : OptimizerContext) (horizon : List HorizonBlock) (now : Instant)
    (reserved : Reservations) (spec : OrchestratedLoadSpec) :
    (planSpec ctx horizon now reserved spec).scoredBlocks.map ScoredBlock.block =
      applyReservations horizon reserved := scoredBlocks_plan _ _ _ _ _

/-- The blocks of the horizon beside what a spec is offered of them. -/
theorem zip_scoredBlocks_planSpec (ctx : OptimizerContext) (horizon : List HorizonBlock) (now : Instant)
    (reserved : Reservations) (spec : OrchestratedLoadSpec) :
    (horizon.zip (planSpec ctx horizon now reserved spec).scoredBlocks).map
        (fun pair => (pair.1, pair.2.block.availableSurplusW)) =
      horizon.map fun block => (block, max 0 (block.rawSurplusW - reserved block.timestamp)) := by
  have hblocks := congrArg (List.map HorizonBlock.availableSurplusW)
    (scoredBlocks_planSpec ctx horizon now reserved spec)
  unfold applyReservations at hblocks
  rw [List.map_map, List.map_map] at hblocks
  calc (horizon.zip (planSpec ctx horizon now reserved spec).scoredBlocks).map
        (fun pair => (pair.1, pair.2.block.availableSurplusW))
      = horizon.zip ((planSpec ctx horizon now reserved spec).scoredBlocks.map
          (HorizonBlock.availableSurplusW ∘ ScoredBlock.block)) := by
        rw [List.zip_map_right]
        rfl
    _ = horizon.zip (horizon.map fun block => max 0 (block.rawSurplusW - reserved block.timestamp)) := by
        rw [hblocks]
        rfl
    _ = horizon.map fun block => (block, max 0 (block.rawSurplusW - reserved block.timestamp)) := by
        have hzip := @List.zip_map' _ _ _ id (fun block => max 0 (block.rawSurplusW - reserved block.timestamp)) horizon
        rwa [List.map_id] at hzip

/-! ### Double booking -/

/-- The power of the planned loads that have a window over the instant. -/
def powerBefore (planned : List (OrchestratedLoadSpec × OrchestratedLoadPlan)) (ts : Instant) : ℚ :=
  (planned.map fun p => if p.2.plan.windows.any (fun w => w.covers ts) = true then p.1.load.nominalPowerW else 0).sum

/-- No load is offered more of a block than its surplus, nor more than the loads before it leave of the surplus. -/
def NotDoubleBooked (ordered : List OrchestratedLoadSpec) (horizon : List HorizonBlock)
    (results : List OrchestratedLoadPlan) : Prop :=
  ∀ higher spec result lower, ordered.zip results = higher ++ (spec, result) :: lower →
    ∀ pair ∈ horizon.zip result.plan.scoredBlocks,
      pair.2.block.availableSurplusW ≤ pair.1.availableSurplusW ∧
        pair.2.block.availableSurplusW ≤ max 0 (pair.1.availableSurplusW - powerBefore higher pair.1.timestamp)

/-- No block with sun to spare has loads of higher priority deducted. -/
def NothingDeducted (horizon : List HorizonBlock) : Prop :=
  ∀ block ∈ horizon, block.higherPriorityLoadsW ≤ 0 ∨ block.rawSurplusW ≤ 0

section Rounds

variable {ctx : OptimizerContext} {horizon : List HorizonBlock} {now : Instant}

/-- The loads that are planned are reserved in every block that they cover. -/
def Reserved (horizon : List HorizonBlock) (planned : List (OrchestratedLoadSpec × OrchestratedLoadPlan))
    (reserved : Reservations) : Prop :=
  ∀ block ∈ horizon, 0 ≤ powerBefore planned block.timestamp ∧
    powerBefore planned block.timestamp ≤ reserved block.timestamp

theorem powerBefore_concat (planned : List (OrchestratedLoadSpec × OrchestratedLoadPlan))
    (spec : OrchestratedLoadSpec) (result : OrchestratedLoadPlan) (ts : Instant) :
    powerBefore (planned ++ [(spec, result)]) ts = powerBefore planned ts +
      if result.plan.windows.any (fun w => w.covers ts) = true then spec.load.nominalPowerW else 0 := by
  unfold powerBefore
  rw [List.map_append, List.sum_append, List.map_singleton, List.sum_singleton]

/-- **One more load** is reserved at least once in every block that its windows cover. -/
theorem Reserved.concat {planned : List (OrchestratedLoadSpec × OrchestratedLoadPlan)} {reserved : Reservations}
    (h : Reserved horizon planned reserved) {spec : OrchestratedLoadSpec} (hpower : 0 ≤ spec.load.nominalPowerW)
    (result : OrchestratedLoadPlan) (hresult : result.plan = planSpec ctx horizon now reserved spec) :
    Reserved horizon (planned ++ [(spec, result)]) (reservePlan reserved spec.load result.plan) := by
  intro block hblock
  obtain ⟨hnonneg, hle⟩ := h block hblock
  rw [powerBefore_concat, reservePlan_apply]
  have hstamp : ∃ s ∈ result.plan.scoredBlocks, s.block.timestamp = block.timestamp := by
    have hmem : ({ block with
        higherPriorityLoadsW := reserved block.timestamp
        availableSurplusW :=
          max 0 (block.solarForecastW - block.houseLoadForecastW - reserved block.timestamp) } : HorizonBlock) ∈
          result.plan.scoredBlocks.map ScoredBlock.block := by
      rw [hresult, scoredBlocks_planSpec]
      exact List.mem_map.mpr ⟨block, hblock, rfl⟩
    obtain ⟨s, hs, hsblock⟩ := List.mem_map.mp hmem
    exact ⟨s, hs, by rw [hsblock]⟩
  obtain ⟨s, hs, hts⟩ := hstamp
  have hcount : (0 : ℚ) ≤ (result.plan.windows.countP fun window =>
      decide (block.timestamp ∈ reservedTimestamps result.plan window) : ℕ) := Nat.cast_nonneg _
  split_ifs with hcovered
  · obtain ⟨window, hwindow, hcovers⟩ := List.any_eq_true.mp hcovered
    have hone : (1 : ℚ) ≤ (result.plan.windows.countP fun window =>
        decide (block.timestamp ∈ reservedTimestamps result.plan window) : ℕ) := by
      have hpos : 0 < result.plan.windows.countP fun window =>
          decide (block.timestamp ∈ reservedTimestamps result.plan window) := by
        refine List.countP_pos_iff.mpr ⟨window, hwindow, decide_eq_true ?_⟩
        rw [← hts]
        exact (mem_reservedTimestamps_iff hs).mpr (by rw [hts]; exact hcovers)
      exact_mod_cast hpos
    constructor
    · linarith
    · have hpay := mul_le_mul_of_nonneg_left hone hpower
      linarith
  · have hpay := mul_nonneg hpower hcount
    constructor <;> linarith

/-- What is offered of a block on which the loads before are reserved. -/
theorem offered_le {block : HorizonBlock}
    (hsurplus : block.availableSurplusW = max 0 (block.rawSurplusW - block.higherPriorityLoadsW))
    (hnothing : block.higherPriorityLoadsW ≤ 0 ∨ block.rawSurplusW ≤ 0) {power reserved : ℚ} (hpower : 0 ≤ power)
    (hreserved : power ≤ reserved) : max 0 (block.rawSurplusW - reserved) ≤ block.availableSurplusW ∧
      max 0 (block.rawSurplusW - reserved) ≤ max 0 (block.availableSurplusW - power) := by
  rw [hsurplus]
  have hleft : 0 ≤ max 0 (block.rawSurplusW - block.higherPriorityLoadsW) := le_max_left _ _
  have hright := le_max_right 0 (block.rawSurplusW - block.higherPriorityLoadsW)
  rcases hnothing with hhigher | hraw
  · constructor
    · exact max_le hleft (by linarith)
    · exact max_le_max_left 0 (by linarith)
  · have hoffer : max 0 (block.rawSurplusW - reserved) = 0 := max_eq_left (by linarith)
    rw [hoffer]
    exact ⟨hleft, le_max_left _ _⟩

/-- The rounds of the loop, from loads that are reserved on. -/
theorem bounded_planRounds (hdeducted : Deducted horizon) (hnothing : NothingDeducted horizon)
    {specs : List OrchestratedLoadSpec} (hpower : ∀ spec ∈ specs.dropLast, 0 ≤ spec.load.nominalPowerW)
    {planned : List (OrchestratedLoadSpec × OrchestratedLoadPlan)} {reserved : Reservations}
    (h : Reserved horizon planned reserved) {higher lower : List (OrchestratedLoadSpec × OrchestratedLoadPlan)}
    {spec : OrchestratedLoadSpec} {result : OrchestratedLoadPlan}
    (hzip : specs.zip (planRounds ctx horizon now reserved specs) = higher ++ (spec, result) :: lower) :
    ∀ pair ∈ horizon.zip result.plan.scoredBlocks, pair.2.block.availableSurplusW ≤ pair.1.availableSurplusW ∧
        pair.2.block.availableSurplusW ≤
          max 0 (pair.1.availableSurplusW - powerBefore (planned ++ higher) pair.1.timestamp) := by
  induction specs generalizing planned reserved higher with
  | nil =>
    rw [List.zip_nil_left] at hzip
    exact absurd hzip.symm (by simp)
  | cons first rest ih =>
    rw [planRounds, List.zip_cons_cons] at hzip
    cases higher with
    | nil =>
      obtain ⟨hhead, -⟩ := List.cons.inj hzip
      obtain ⟨rfl, rfl⟩ := Prod.mk.inj hhead
      intro pair hpair
      have hoffer : (pair.1, pair.2.block.availableSurplusW) ∈
          (horizon.zip (planSpec ctx horizon now reserved first).scoredBlocks).map
            fun pair => (pair.1, pair.2.block.availableSurplusW) := List.mem_map.mpr ⟨pair, hpair, rfl⟩
      rw [zip_scoredBlocks_planSpec] at hoffer
      obtain ⟨block, hblock, heq⟩ := List.mem_map.mp hoffer
      obtain ⟨hfst, hsnd⟩ := Prod.mk.inj heq
      rw [List.append_nil, ← hsnd, ← hfst]
      obtain ⟨hnonneg, hle⟩ := h block hblock
      exact offered_le (hdeducted block hblock) (hnothing block hblock) hnonneg hle
    | cons p higher =>
      obtain ⟨hhead, htail⟩ := List.cons.inj hzip
      have hrest : rest ≠ [] := by
        rintro rfl
        rw [List.zip_nil_left] at htail
        exact absurd htail.symm (by simp)
      rw [List.dropLast_cons_of_ne_nil hrest] at hpower
      have hreserved := h.concat (hpower first List.mem_cons_self)
        { loadId := first.load.loadId, name := first.load.name, priority := first.load.priority,
          plan := planSpec ctx horizon now reserved first } rfl
      have hbound := ih (fun s hs => hpower s (List.mem_cons_of_mem _ hs)) hreserved htail
      rw [hhead, List.append_assoc] at hbound
      exact hbound

theorem length_orderedSpecs (specs : List OrchestratedLoadSpec) : (orderedSpecs specs).length = specs.length :=
  List.length_mergeSort specs

/-- Without deducted loads, and with no load of negative power before another one, nothing is booked twice. -/
theorem notDoubleBooked_of_nothingDeducted {specs : List OrchestratedLoadSpec} (hdeducted : Deducted horizon)
    (hpower : ∀ spec ∈ (orderedSpecs specs).dropLast, 0 ≤ spec.load.nominalPowerW)
    (hnothing : NothingDeducted horizon) :
    NotDoubleBooked (orderedSpecs specs) horizon (planAll ctx specs horizon now) := by
  intro higher spec result lower hzip
  unfold planAll at hzip
  split_ifs at hzip
  · rw [List.zip_nil_right] at hzip
    exact absurd hzip.symm (by simp)
  · have hnone : Reserved horizon [] fun _ => 0 := fun _ _ => ⟨le_rfl, le_rfl⟩
    exact bounded_planRounds hdeducted hnothing hpower hnone hzip

/-- The first load is offered what was deducted for loads of higher priority. -/
theorem nothingDeducted_of_notDoubleBooked {specs : List OrchestratedLoadSpec} (hdeducted : Deducted horizon)
    (h : NotDoubleBooked (orderedSpecs specs) horizon (planAll ctx specs horizon now)) (hspecs : specs ≠ []) :
    NothingDeducted horizon := by
  intro block hblock
  have hhorizon : horizon ≠ [] := List.ne_nil_of_mem hblock
  unfold planAll at h
  rw [if_neg (by simp [hspecs, hhorizon])] at h
  cases hordered : orderedSpecs specs with
  | nil =>
    have hlength := length_orderedSpecs specs
    rw [hordered] at hlength
    exact absurd (List.length_eq_zero_iff.mp hlength.symm) hspecs
  | cons first rest =>
    rw [hordered] at h
    have hpair : (block, max 0 (block.rawSurplusW - 0)) ∈
        (horizon.zip (planSpec ctx horizon now (fun _ => 0) first).scoredBlocks).map
          fun pair => (pair.1, pair.2.block.availableSurplusW) := by
      rw [zip_scoredBlocks_planSpec]
      exact List.mem_map.mpr ⟨block, hblock, rfl⟩
    obtain ⟨pair, hmem, heq⟩ := List.mem_map.mp hpair
    obtain ⟨hfst, hsnd⟩ := Prod.mk.inj heq
    have hoffered := (h [] first _ _ rfl pair hmem).1
    rw [hsnd, hfst, hdeducted block hblock, sub_zero] at hoffered
    by_contra hsun
    rw [not_or, not_le, not_le] at hsun
    have hleft := le_trans (le_max_right 0 block.rawSurplusW) hoffered
    rcases le_max_iff.mp hleft with hle | hle
    · linarith [hsun.2]
    · linarith [hsun.1]

end Rounds

/-- **Double booking.** The plans of several loads book no surplus twice only if no block with sun to spare has loads
of higher priority deducted; and then they do not, unless a load of negative power comes before another one. -/
theorem notDoubleBooked_planAll (ctx : OptimizerContext) (specs : List OrchestratedLoadSpec)
    (horizon : List HorizonBlock) (now : Instant) (hdeducted : Deducted horizon) :
    (NotDoubleBooked (orderedSpecs specs) horizon (planAll ctx specs horizon now) →
        specs = [] ∨ NothingDeducted horizon) ∧
      ((∀ spec ∈ (orderedSpecs specs).dropLast, 0 ≤ spec.load.nominalPowerW) → specs = [] ∨ NothingDeducted horizon →
          NotDoubleBooked (orderedSpecs specs) horizon (planAll ctx specs horizon now)) := by
  constructor
  · intro h
    by_cases hspecs : specs = []
    · exact .inl hspecs
    · exact .inr (nothingDeducted_of_notDoubleBooked hdeducted h hspecs)
  · intro hpower hnothing
    rcases hnothing with rfl | hnothing
    · intro higher spec result lower hzip
      exact absurd hzip.symm (by simp [orderedSpecs])
    · exact notDoubleBooked_of_nothingDeducted hdeducted hpower hnothing

namespace Demo

def ctx : OptimizerContext where
  order := { iterate := id, mem_iterate := SetOrder.mem_id }
  text := { hourMinute := fun _ => "", general := fun _ => "", fixedPoint := fun _ _ => "" }

/-- Noon with 5 kW of sun, 0.5 kW for the house, and what other loads take. -/
def horizon (higherPriorityLoadsW : ℚ) : List HorizonBlock :=
  build
    { solarForecast := some [{ timestamp := 43200, correctedPowerW := 5000, confidence := 1 }]
      houseLoad := [{ timestamp := 43200, expectedPowerW := 500 }]
      priceByHour := fun _ => none
      exportValueSekKwh := 1 / 2
      fallbackPriceEurKwh := 1 / 5
      initialBatterySocPct := none
      higherPriorityLoadsW := higherPriorityLoadsW }
    43200 1

def specs : List OrchestratedLoadSpec :=
  [{ load :=
      { loadId := "ev", name := "EV", nominalPowerW := 3000, minimumRuntime := 900, maximumRuntime := 900,
        earliestStart := 43200, latestFinish := 46800, deadline := 46800 }
     strategy := .smart }]

end Demo

theorem notDoubleBooked_planAll_alone : Deducted (Demo.horizon 0) ∧
      NotDoubleBooked (orderedSpecs Demo.specs) (Demo.horizon 0) (planAll Demo.ctx Demo.specs (Demo.horizon 0) 43200) :=
  ⟨deducted_build _ _ _,
    (notDoubleBooked_planAll Demo.ctx Demo.specs (Demo.horizon 0) 43200 (deducted_build _ _ _)).2
      (by decide +kernel) (.inr (by unfold NothingDeducted; decide +kernel))⟩

/-- With 2 kW deducted for other loads, a load is offered all of the 4.5 kW. -/
theorem deducted_surplus_booked_twice : Deducted (Demo.horizon 2000) ∧
      ¬ NotDoubleBooked (orderedSpecs Demo.specs) (Demo.horizon 2000)
        (planAll Demo.ctx Demo.specs (Demo.horizon 2000) 43200) := by
  refine ⟨deducted_build _ _ _, fun h => ?_⟩
  have hnothing := nothingDeducted_of_notDoubleBooked (deducted_build _ _ _) h (by decide)
  unfold NothingDeducted at hnothing
  revert hnothing
  decide +kernel

end EnergyCore.FlexibleLoads
