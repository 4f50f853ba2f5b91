import EnergyCore.Foundations.Clock
import Mathlib.Data.List.Chain
import Mathlib.Data.List.Sort

/-!
# Rebuilding the intervals of a spa

The samples of a spa are stored as they are polled, and the intervals between them with their energy. Intervals that
are missing are rebuilt from the samples.

* `rebuildMissingIntervals` — the rebuild;
* `IntervalTable.lt_maxEnergyKwh_iff` — an interval of more energy is stored;
* `rebuildPair_of_missing` — a missing interval is added, and nothing else.
-/

namespace EnergyCore.Consumers

/-! ### Samples -/

inductive DataQuality where
  | measured
  | calculated
  | estimated
  | missing
  deriving Repr, DecidableEq

/-- `DataQuality(…)`, where any other text counts as calculated. -/
def DataQuality.ofColumn (text : String) : DataQuality :=
  if text = "MEASURED" then .measured
  else if text = "ESTIMATED" then .estimated
  else if text = "MISSING" then .missing
  else .calculated

/-- A row of the samples, with its pump states as they are parsed. -/
structure ConsumerSample where
  consumerId : ℕ
  recordedAt : Instant
  powerW : Option ℚ := none
  energyDeltaWh : Option ℚ := none
  heaterActive : Option Bool := none
  pumpStates : List (String × String) := []
  quality : String := "CALCULATED"
  deriving Repr, DecidableEq

structure SpaEnergySample where
  powerW : ℚ
  energyDeltaWh : ℚ
  heaterActive : Bool
  pumpStates : List (String × String)
  quality : DataQuality
  recordedAt : Instant
  deriving Repr, DecidableEq

/-- `MAX_PLAUSIBLE_INTERVAL_KWH`. -/
def maxPlausibleIntervalKwh : ℚ := 1 / 2

def sampleToSpaSample (row : ConsumerSample) : SpaEnergySample where
  powerW := row.powerW.getD 0
  energyDeltaWh := row.energyDeltaWh.getD 0
  heaterActive := row.heaterActive.getD false
  pumpStates := row.pumpStates
  quality := DataQuality.ofColumn row.quality
  recordedAt := row.recordedAt

/-- The average of two powers over the time between their samples. -/
def averageEnergyWh (prev curr : ConsumerSample) : ℚ :=
  (prev.powerW.getD 0 + curr.powerW.getD 0) / 2 * ((curr.recordedAt - prev.recordedAt) / 3600)

def energyWhForPair (prev curr : ConsumerSample) (pollIntervalSeconds : ℤ) : ℚ :=
  let durationSeconds := curr.recordedAt - prev.recordedAt
  let maxDuration := max ((pollIntervalSeconds : ℚ) * 2) 60
  let energyWh := curr.energyDeltaWh.getD 0
  if durationSeconds ≤ 0 then 0
  else if durationSeconds > maxDuration then 0
  else if energyWh > 0 then min energyWh (maxPlausibleIntervalKwh * 1000)
  else if (prev.powerW.getD 0 + curr.powerW.getD 0) / 2 ≤ 0 then 0
  else max 0 (averageEnergyWh prev curr)

/-! ### Intervals -/

variable {σ : Type}

/-- A row of the intervals, with the columns that come from the readings of the site. -/
structure ConsumerInterval (σ : Type) where
  id : ℕ
  consumerId : ℕ
  startTime : Instant
  endTime : Instant
  energyKwh : ℚ
  averagePowerW : Option ℚ
  heaterRuntimeSeconds : ℚ
  pumpRuntimeSeconds : ℚ
  dataQuality : Option DataQuality
  columns : σ
  start_lt_end : startTime < endTime

structure IntervalTable (σ : Type) where
  rows : List (ConsumerInterval σ) := []
  nextId : ℕ := 1

namespace IntervalTable

/-- `delete(…)` of some rows, with the number of them. -/
def delete (table : IntervalTable σ) (p : ConsumerInterval σ → Bool) : IntervalTable σ × ℕ :=
  ({ table with rows := table.rows.filter fun row => !p row }, table.rows.countP p)

def deleteForConsumer (table : IntervalTable σ) (consumerId : ℕ) : IntervalTable σ × ℕ :=
  table.delete fun row => decide (row.consumerId = consumerId)

def deleteSince (table : IntervalTable σ) (consumerId : ℕ) (since : Instant) : IntervalTable σ × ℕ :=
  table.delete fun row => decide (row.consumerId = consumerId ∧ row.startTime ≥ since)

def maxEnergyKwh (table : IntervalTable σ) (consumerId : ℕ) : ℚ :=
  ((table.rows.filter fun row => decide (row.consumerId = consumerId)).map ConsumerInterval.energyKwh).max?.getD 0

def hasIntervalForWindow (table : IntervalTable σ) (consumerId : ℕ) (startTime endTime : Instant) : Bool :=
  (table.rows.any fun row =>
    decide (row.consumerId = consumerId ∧ row.startTime ≥ startTime ∧ row.endTime ≤ endTime)) ||
  (decide (|endTime - startTime| > 5) && table.rows.any fun row =>
    decide (row.consumerId = consumerId ∧ row.endTime > startTime ∧ row.startTime < endTime))

end IntervalTable

/-- `record_interval`, where `columnsOf` says what the readings, the prices and the battery of the site make of it. -/
def recordInterval (columnsOf : SpaEnergySample → Instant → Instant → σ) (consumerId : ℕ) (sample : SpaEnergySample)
    (startTime endTime : Instant) (table : IntervalTable σ) : IntervalTable σ :=
  if sample.energyDeltaWh / 1000 ≤ 0 then table
  else if h : startTime < endTime then
    let runtime := endTime - startTime
    { rows := table.rows ++
        [{ id := table.nextId
           consumerId := consumerId
           startTime := startTime
           endTime := endTime
           energyKwh := sample.energyDeltaWh / 1000
           averagePowerW := some sample.powerW
           heaterRuntimeSeconds := if sample.heaterActive then runtime else 0
           pumpRuntimeSeconds := if sample.pumpStates.any fun pump => decide (pump.2 ≠ "off") then runtime else 0
           dataQuality := some sample.quality
           columns := columnsOf sample startTime endTime
           start_lt_end := h }]
      nextId := table.nextId + 1 }
  else table

/-! ### The rebuild -/

structure RebuildCall where
  consumerId : ℕ
  pollIntervalSeconds : ℤ := 60
  since : Option Instant := none
  replaceCorrupt : Bool := false
  rebuildExisting : Bool := false

/-- The epoch, where nothing else is asked for. -/
def RebuildCall.start (call : RebuildCall) : Instant := call.since.getD 0

def listForPeriod (samples : List ConsumerSample) (consumerId : ℕ) (start stop : Instant) : List ConsumerSample :=
  (samples.filter fun row =>
    decide (row.consumerId = consumerId ∧ row.recordedAt ≥ start ∧ row.recordedAt < stop)).mergeSort
      fun row row' => decide (row.recordedAt ≤ row'.recordedAt)

/-- The samples of two polls, one after the other. -/
abbrev SamplePair := ConsumerSample × ConsumerSample

/-- The sample that an interval is recorded with. -/
def rebuiltSample (pair : SamplePair) (energyWh : ℚ) : SpaEnergySample :=
  { sampleToSpaSample pair.2 with
    energyDeltaWh := energyWh
    quality := if pair.2.energyDeltaWh.getD 0 ≤ 0 then .estimated else (sampleToSpaSample pair.2).quality }

/-- The table with the number of intervals that have been created. -/
structure Rebuilding (σ : Type) where
  table : IntervalTable σ
  created : ℕ := 0

/-- The loop body of `rebuild_missing_intervals`. -/
def rebuildPair (columnsOf : SpaEnergySample → Instant → Instant → σ) (call : RebuildCall) (state : Rebuilding σ)
    (pair : SamplePair) : Rebuilding σ :=
  let startTime := pair.1.recordedAt
  let endTime := pair.2.recordedAt
  let energyWh := energyWhForPair pair.1 pair.2 call.pollIntervalSeconds
  if startTime ≥ endTime then state
  else if energyWh ≤ 0 then state
  else if state.table.hasIntervalForWindow call.consumerId startTime endTime = true then state
  else
    { table := recordInterval columnsOf call.consumerId (rebuiltSample pair energyWh) startTime endTime state.table
      created := state.created + 1 }

/-- What a rebuild leaves. -/
structure RebuildResult (σ : Type) where
  table : IntervalTable σ
  deleted : ℕ
  created : ℕ

/-- The first deletion, of all intervals of a consumer that has an implausible one. -/
def deleteCorrupt (call : RebuildCall) (table : IntervalTable σ) : IntervalTable σ × ℕ :=
  if call.replaceCorrupt = true ∨ table.maxEnergyKwh call.consumerId > maxPlausibleIntervalKwh then
    table.deleteForConsumer call.consumerId
  else (table, 0)

/-- The second deletion, of the intervals that are to be rebuilt. -/
def deleteRebuilt (call : RebuildCall) (table : IntervalTable σ) : IntervalTable σ × ℕ :=
  if call.rebuildExisting = true then table.deleteSince call.consumerId call.start else (table, 0)

/-- The table from which the missing intervals are rebuilt. -/
def keptTable (call : RebuildCall) (table : IntervalTable σ) : IntervalTable σ :=
  (deleteRebuilt call (deleteCorrupt call table).1).1

/-- The pairs of samples of a rebuild. -/
def samplePairs (call : RebuildCall) (samples : List ConsumerSample) (now : Instant) : List SamplePair :=
  let listed := listForPeriod samples call.consumerId call.start now
  listed.zip listed.tail

def rebuildMissingIntervals (columnsOf : SpaEnergySample → Instant → Instant → σ) (call : RebuildCall)
    (samples : List ConsumerSample) (now : Instant) (table : IntervalTable σ) : RebuildResult σ :=
  let corrupt := deleteCorrupt call table
  let rebuilt := deleteRebuilt call corrupt.1
  let deleted := corrupt.2 + rebuilt.2
  if (listForPeriod samples call.consumerId call.start now).length < 2 then
    { table := rebuilt.1, deleted := deleted, created := 0 }
  else
    let state := (samplePairs call samples now).foldl (rebuildPair columnsOf call) { table := rebuilt.1 }
    { table := state.table, deleted := deleted, created := state.created }

/-! ### Stored intervals -/

namespace IntervalTable

variable {table : IntervalTable σ} {consumerId : ℕ}

/-- **An interval of more energy** is stored. -/
theorem lt_maxEnergyKwh_iff {bound : ℚ} (hbound : 0 ≤ bound) : bound < table.maxEnergyKwh consumerId ↔
    ∃ row ∈ table.rows, row.consumerId = consumerId ∧ bound < row.energyKwh := by
  unfold maxEnergyKwh
  constructor
  · intro h
    cases hmax : ((table.rows.filter fun row => decide (row.consumerId = consumerId)).map
        ConsumerInterval.energyKwh).max? with
    | none =>
      rw [hmax] at h
      exact absurd h (not_lt.mpr hbound)
    | some most =>
      rw [hmax] at h
      obtain ⟨row, hrow, rfl⟩ := List.mem_map.mp (List.max?_mem hmax)
      obtain ⟨hmem, hconsumer⟩ := List.mem_filter.mp hrow
      exact ⟨row, hmem, of_decide_eq_true hconsumer, h⟩
  · rintro ⟨row, hmem, hconsumer, hrow⟩
    have hin : row.energyKwh ∈ (table.rows.filter fun row => decide (row.consumerId = consumerId)).map
        ConsumerInterval.energyKwh :=
      List.mem_map_of_mem (List.mem_filter.mpr ⟨hmem, decide_eq_true hconsumer⟩)
    obtain ⟨most, hmax⟩ := Option.isSome_iff_exists.mp (List.isSome_max?_of_mem hin)
    rw [hmax]
    exact hrow.trans_le ((List.max?_le_iff hmax).mp le_rfl _ hin)

/-- A window that is covered stays covered when intervals are added. -/
theorem hasIntervalForWindow_mono {more : IntervalTable σ} {startTime endTime : Instant}
    (hrows : ∀ row ∈ table.rows, row ∈ more.rows)
    (h : table.hasIntervalForWindow consumerId startTime endTime = true) :
    more.hasIntervalForWindow consumerId startTime endTime = true := by
  unfold hasIntervalForWindow at h ⊢
  rw [Bool.or_eq_true, Bool.and_eq_true, List.any_eq_true, List.any_eq_true] at h ⊢
  rcases h with ⟨row, hrow, hin⟩ | ⟨hlong, row, hrow, hover⟩
  · exact .inl ⟨row, hrows row hrow, hin⟩
  · exact .inr ⟨hlong, row, hrows row hrow, hover⟩

/-- An interval of the window itself covers it. -/
theorem hasIntervalForWindow_self {row : ConsumerInterval σ} (hrow : row ∈ table.rows) :
    table.hasIntervalForWindow row.consumerId row.startTime row.endTime = true := by
  unfold hasIntervalForWindow
  rw [Bool.or_eq_true, List.any_eq_true]
  exact .inl ⟨row, hrow, decide_eq_true ⟨rfl, le_rfl, le_rfl⟩⟩

/-- Intervals that end before a window begins do not cover it. -/
theorem hasIntervalForWindow_of_append {more : IntervalTable σ} {added : List (ConsumerInterval σ)}
    {startTime endTime : Instant} (hrows : more.rows = table.rows ++ added)
    (hadded : ∀ row ∈ added, row.endTime ≤ startTime)
    (h : more.hasIntervalForWindow consumerId startTime endTime = true) :
    table.hasIntervalForWindow consumerId startTime endTime = true := by
  unfold hasIntervalForWindow at h ⊢
  rw [Bool.or_eq_true, Bool.and_eq_true, List.any_eq_true, List.any_eq_true, hrows] at h
  rw [Bool.or_eq_true, Bool.and_eq_true, List.any_eq_true, List.any_eq_true]
  rcases h with ⟨row, hrow, hin⟩ | ⟨hlong, row, hrow, hover⟩
  · rcases List.mem_append.mp hrow with hold | hnew
    · exact .inl ⟨row, hold, hin⟩
    · have hbefore := hadded row hnew
      rw [decide_eq_true_eq] at hin
      linarith [row.start_lt_end]
  · rcases List.mem_append.mp hrow with hold | hnew
    · exact .inr ⟨hlong, row, hold, hover⟩
    · have hbefore := hadded row hnew
      rw [decide_eq_true_eq] at hover
      linarith

end IntervalTable

/-! ### Missing intervals -/

/-- An interval is missing that the samples of a pair say something about. -/
def Missing (call : RebuildCall) (table : IntervalTable σ) (pair : SamplePair) : Prop :=
  pair.1.recordedAt < pair.2.recordedAt ∧ 0 < energyWhForPair pair.1 pair.2 call.pollIntervalSeconds ∧
    table.hasIntervalForWindow call.consumerId pair.1.recordedAt pair.2.recordedAt = false

instance (call : RebuildCall) (table : IntervalTable σ) (pair : SamplePair) : Decidable (Missing call table pair) :=
  instDecidableAnd

/-- The interval of a pair. -/
structure IntervalOf (call : RebuildCall) (pair : SamplePair) (row : ConsumerInterval σ) : Prop where
  consumerId : row.consumerId = call.consumerId
  startTime : row.startTime = pair.1.recordedAt
  endTime : row.endTime = pair.2.recordedAt
  energyKwh : row.energyKwh = energyWhForPair pair.1 pair.2 call.pollIntervalSeconds / 1000

section

variable {columnsOf : SpaEnergySample → Instant → Instant → σ} {call : RebuildCall} {state : Rebuilding σ}
  {pair : SamplePair}

theorem rebuildPair_of_not_missing (h : ¬ Missing call state.table pair) :
    rebuildPair columnsOf call state pair = state := by
  unfold rebuildPair
  dsimp only
  split_ifs with horder henergy hcovered
  · rfl
  · rfl
  · rfl
  · exact absurd ⟨not_le.mp horder, not_le.mp henergy, Bool.eq_false_iff.mpr hcovered⟩ h

/-- **A missing interval** is added, and nothing else. -/
theorem rebuildPair_of_missing (h : Missing call state.table pair) :
    ∃ row, IntervalOf call pair row ∧ (rebuildPair columnsOf call state pair).table.rows = state.table.rows ++ [row] ∧
      (rebuildPair columnsOf call state pair).created = state.created + 1 := by
  obtain ⟨horder, henergy, hcovered⟩ := h
  unfold rebuildPair
  dsimp only
  rw [if_neg (not_le.mpr horder), if_neg (not_le.mpr henergy), hcovered, if_neg Bool.false_ne_true]
  have hkwh : ¬ (rebuiltSample pair (energyWhForPair pair.1 pair.2 call.pollIntervalSeconds)).energyDeltaWh / 1000 ≤ 0 :=
    not_le.mpr (div_pos henergy (by norm_num))
  unfold recordInterval
  rw [if_neg hkwh, dif_pos horder]
  exact ⟨_, ⟨rfl, rfl, rfl, rfl⟩, rfl, rfl⟩

end

end EnergyCore.Consumers
