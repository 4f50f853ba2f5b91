import EnergyCore.Consumers.SampleBackfill

/-!
# Rebuilding intervals twice

A rebuild adds the intervals that are missing, each pair of samples on its own.

* `foldl_rebuildPair` — what the loop adds;
* `keepsEarlier_iff` — when the intervals before the start are kept;
* `settled_iff` — when a second rebuild changes nothing;
* `rebuild_keeps_and_settles_iff` — both together.
-/

namespace EnergyCore.Consumers

section

variable {σ : Type} {columnsOf columnsOf' : SpaEnergySample → Instant → Instant → σ} {call : RebuildCall}
  {samples : List ConsumerSample} {now now' : Instant} {table : IntervalTable σ}

/-! ### The loop -/

/-- Pairs of which each ends before the next begins. -/
def OneAfterAnother (pairs : List SamplePair) : Prop :=
  pairs.Pairwise fun pair next => pair.2.recordedAt ≤ next.1.recordedAt

/-- What is missing when intervals have been added was missing before. -/
theorem Missing.of_append {more : IntervalTable σ} {added : List (ConsumerInterval σ)} {pair : SamplePair}
    (hrows : more.rows = table.rows ++ added) (h : Missing call more pair) : Missing call table pair := by
  obtain ⟨horder, henergy, hcovered⟩ := h
  refine ⟨horder, henergy, Bool.eq_false_iff.mpr fun hbefore => ?_⟩
  have hmore : ∀ row ∈ table.rows, row ∈ more.rows := by
    intro row hrow
    rw [hrows]
    exact List.mem_append_left _ hrow
  rw [IntervalTable.hasIntervalForWindow_mono hmore hbefore] at hcovered
  cases hcovered

/-- **The loop adds** an interval for each pair for which one is missing when it begins. -/
theorem foldl_rebuildPair {pairs : List SamplePair} (hordered : OneAfterAnother pairs) (state : Rebuilding σ) :
    ∃ added, (pairs.foldl (rebuildPair columnsOf call) state).table.rows = state.table.rows ++ added ∧
      (pairs.foldl (rebuildPair columnsOf call) state).created = state.created + added.length ∧
      (∀ row ∈ added, ∃ pair ∈ pairs, Missing call state.table pair ∧ IntervalOf call pair row) ∧
      ∀ pair ∈ pairs, Missing call state.table pair → ∃ row ∈ added, IntervalOf call pair row := by
  induction pairs generalizing state with
  | nil =>
    refine ⟨[], (List.append_nil _).symm, rfl, fun row hrow => ?_, fun pair hpair => ?_⟩
    · cases hrow
    · cases hpair
  | cons pair rest ih =>
    obtain ⟨hnext, hrest⟩ := List.pairwise_cons.mp hordered
    rw [List.foldl_cons]
    by_cases hmissing : Missing call state.table pair
    · obtain ⟨row, hrow, hrows, hcreated⟩ := @rebuildPair_of_missing σ columnsOf call state pair hmissing
      obtain ⟨added, hadded, hcount, hsound, hcomplete⟩ := ih hrest (rebuildPair columnsOf call state pair)
      refine ⟨row :: added, ?_, ?_, ?_, ?_⟩
      · rw [hadded, hrows, List.append_assoc]
        rfl
      · rw [hcount, hcreated, List.length_cons]
        omega
      · intro row' hrow'
        rcases List.mem_cons.mp hrow' with rfl | hrow'
        · exact ⟨pair, List.mem_cons_self, hmissing, hrow⟩
        · obtain ⟨q, hq, hqmissing, hinterval⟩ := hsound row' hrow'
          exact ⟨q, List.mem_cons_of_mem _ hq, hqmissing.of_append hrows, hinterval⟩
      · intro q hq hqmissing
        rcases List.mem_cons.mp hq with rfl | hq
        · exact ⟨row, List.mem_cons_self, hrow⟩
        · -- the interval of an earlier pair ends before this one begins
          have hstill : Missing call (rebuildPair columnsOf call state pair).table q := by
            refine ⟨hqmissing.1, hqmissing.2.1, Bool.eq_false_iff.mpr fun hcovered => ?_⟩
            have hbefore := IntervalTable.hasIntervalForWindow_of_append hrows (fun row' hrow' => by
              rw [List.mem_singleton.mp hrow', hrow.endTime]
              exact hnext q hq) hcovered
            exact absurd (hqmissing.2.2.symm.trans hbefore) Bool.false_ne_true
          obtain ⟨row', hrow', hinterval⟩ := hcomplete q hq hstill
          exact ⟨row', List.mem_cons_of_mem _ hrow', hinterval⟩
    · rw [rebuildPair_of_not_missing hmissing]
      obtain ⟨added, hadded, hcount, hsound, hcomplete⟩ := ih hrest state
      refine ⟨added, hadded, hcount, ?_, ?_⟩
      · intro row hrow
        obtain ⟨q, hq, hinterval⟩ := hsound row hrow
        exact ⟨q, List.mem_cons_of_mem _ hq, hinterval⟩
      · intro q hq hqmissing
        rcases List.mem_cons.mp hq with rfl | hq
        · exact absurd hqmissing hmissing
        · exact hcomplete q hq hqmissing

/-- Where nothing is missing, nothing is added. -/
theorem foldl_rebuildPair_eq_self {pairs : List SamplePair} {state : Rebuilding σ}
    (h : ∀ pair ∈ pairs, ¬ Missing call state.table pair) :
    pairs.foldl (rebuildPair columnsOf call) state = state := by
  induction pairs with
  | nil => rfl
  | cons pair rest ih =>
    rw [List.foldl_cons, rebuildPair_of_not_missing (h pair List.mem_cons_self)]
    exact ih fun q hq => h q (List.mem_cons_of_mem _ hq)

/-! ### Samples -/

theorem sorted_listForPeriod (consumerId : ℕ) (start stop : Instant) :
    (listForPeriod samples consumerId start stop).Pairwise fun row row' => row.recordedAt ≤ row'.recordedAt := by
  unfold listForPeriod
  refine List.Pairwise.imp of_decide_eq_true (List.pairwise_mergeSort ?_ ?_ _)
  · intro a b c hab hbc
    exact decide_eq_true ((of_decide_eq_true hab).trans (of_decide_eq_true hbc))
  · intro a b
    rw [Bool.or_eq_true, decide_eq_true_eq, decide_eq_true_eq]
    exact le_total a.recordedAt b.recordedAt

theorem zip_tail_ordered {rows : List ConsumerSample}
    (hsorted : rows.Pairwise fun row row' => row.recordedAt ≤ row'.recordedAt) :
    OneAfterAnother (rows.zip rows.tail) := by
  refine List.pairwise_iff_getElem.mpr fun i j hi hj hij => ?_
  rw [List.length_zip, List.length_tail] at hi hj
  rw [List.getElem_zip, List.getElem_zip, List.getElem_tail]
  rcases (Nat.succ_le_of_lt hij).eq_or_lt with heq | hlt
  · subst heq
    exact le_rfl
  · exact List.pairwise_iff_getElem.mp hsorted (i + 1) j (by omega) (by omega) hlt

theorem samplePairs_ordered : OneAfterAnother (samplePairs call samples now) :=
  zip_tail_ordered (sorted_listForPeriod call.consumerId call.start now)

/-- The intervals of the pairs begin at the start or later. -/
theorem start_le_of_mem_samplePairs {pair : SamplePair} (h : pair ∈ samplePairs call samples now) :
    call.start ≤ pair.1.recordedAt := by
  unfold samplePairs listForPeriod at h
  dsimp only at h
  have hmem := List.mem_mergeSort.mp (List.of_mem_zip h).1
  have hin := of_decide_eq_true (List.mem_filter.mp hmem).2
  exact hin.2.1

/-- Samples that have been recorded before are listed at any later time. -/
theorem samplePairs_later (hpast : ∀ row ∈ samples, row.recordedAt < now) (hlater : now ≤ now') :
    samplePairs call samples now' = samplePairs call samples now := by
  have hlisted : listForPeriod samples call.consumerId call.start now' =
      listForPeriod samples call.consumerId call.start now := by
    unfold listForPeriod
    refine congrArg (List.mergeSort · _) (List.filter_congr fun row hrow => ?_)
    have hbefore := hpast row hrow
    rw [decide_eq_decide]
    refine and_congr_right fun _ => and_congr_right fun _ => ?_
    exact iff_of_true (hbefore.trans_le hlater) hbefore
  unfold samplePairs
  rw [hlisted]

/-! ### One rebuild -/

theorem rebuildMissingIntervals_eq :
    let state := (samplePairs call samples now).foldl (rebuildPair columnsOf call) { table := keptTable call table }
    rebuildMissingIntervals columnsOf call samples now table =
      { table := state.table
        deleted := (deleteCorrupt call table).2 + (deleteRebuilt call (deleteCorrupt call table).1).2
        created := state.created } := by
  unfold rebuildMissingIntervals
  dsimp only
  split_ifs with hfew
  · have hnone : samplePairs call samples now = [] := by
      unfold samplePairs
      dsimp only
      rw [← List.length_eq_zero_iff, List.length_zip, List.length_tail]
      omega
    rw [hnone]
    rfl
  · rfl

/-- **A rebuild** adds the missing intervals to what it keeps. -/
theorem rebuildMissingIntervals_rows : ∃ added, (rebuildMissingIntervals columnsOf call samples now table).table.rows =
        (keptTable call table).rows ++ added ∧ (∀ row ∈ added, ∃ pair ∈ samplePairs call samples now,
        Missing call (keptTable call table) pair ∧ IntervalOf call pair row) ∧ ∀ pair ∈ samplePairs call samples now,
        Missing call (keptTable call table) pair → ∃ row ∈ added, IntervalOf call pair row := by
  obtain ⟨added, hrows, -, hsound, hcomplete⟩ := @foldl_rebuildPair σ columnsOf call _
    (@samplePairs_ordered call samples now) { table := keptTable call table }
  rw [rebuildMissingIntervals_eq]
  exact ⟨added, hrows, hsound, hcomplete⟩

/-- Nothing is missing after a rebuild. -/
theorem not_missing_rebuilt : ∀ pair ∈ samplePairs call samples now,
    ¬ Missing call (rebuildMissingIntervals columnsOf call samples now table).table pair := by
  intro pair hpair hmissing
  obtain ⟨added, hrows, -, hcomplete⟩ := @rebuildMissingIntervals_rows σ columnsOf call samples now table
  obtain ⟨row, hrow, hinterval⟩ := hcomplete pair hpair (hmissing.of_append hrows)
  have hmem : row ∈ (rebuildMissingIntervals columnsOf call samples now table).table.rows := by
    rw [hrows]
    exact List.mem_append_right _ hrow
  have hcovered := IntervalTable.hasIntervalForWindow_self hmem
  rw [hinterval.consumerId, hinterval.startTime, hinterval.endTime, hmissing.2.2] at hcovered
  cases hcovered

/-! ### Intervals before the start -/

/-- All intervals of the consumer are deleted first. -/
def DeletesAll (call : RebuildCall) (table : IntervalTable σ) : Prop :=
  call.replaceCorrupt = true ∨ ∃ row ∈ table.rows, row.consumerId = call.consumerId ∧
    maxPlausibleIntervalKwh < row.energyKwh

theorem deleteCorrupt_of_deletesAll (h : DeletesAll call table) :
    deleteCorrupt call table = table.deleteForConsumer call.consumerId := by
  unfold deleteCorrupt
  refine if_pos (h.imp_right fun hrow => ?_)
  exact (IntervalTable.lt_maxEnergyKwh_iff (by norm_num [maxPlausibleIntervalKwh])).mpr hrow

theorem deleteCorrupt_of_not (h : ¬ DeletesAll call table) : deleteCorrupt call table = (table, 0) := by
  unfold deleteCorrupt
  refine if_neg fun hall => h (hall.imp_right fun hmax => ?_)
  exact (IntervalTable.lt_maxEnergyKwh_iff (by norm_num [maxPlausibleIntervalKwh])).mp hmax

theorem mem_deleteRebuilt {row : ConsumerInterval σ} (hrow : row ∈ table.rows) (hbefore : row.endTime < call.start) :
    row ∈ (deleteRebuilt call table).1.rows := by
  unfold deleteRebuilt
  split_ifs
  · refine List.mem_filter.mpr ⟨hrow, ?_⟩
    rw [Bool.not_eq_true', decide_eq_false_iff_not]
    rintro ⟨-, hstart⟩
    linarith [row.start_lt_end]
  · exact hrow

/-- A row that is kept has been there, and is not one that has been deleted first. -/
theorem mem_of_mem_keptTable {row : ConsumerInterval σ} (hrow : row ∈ (keptTable call table).rows) :
    row ∈ table.rows ∧ (DeletesAll call table → row.consumerId ≠ call.consumerId) := by
  have hcorrupt : row ∈ (deleteCorrupt call table).1.rows := by
    unfold keptTable deleteRebuilt at hrow
    split_ifs at hrow
    · exact (List.mem_filter.mp hrow).1
    · exact hrow
  by_cases hall : DeletesAll call table
  · rw [deleteCorrupt_of_deletesAll hall] at hcorrupt
    obtain ⟨hmem, hother⟩ := List.mem_filter.mp hcorrupt
    rw [Bool.not_eq_true', decide_eq_false_iff_not] at hother
    exact ⟨hmem, fun _ => hother⟩
  · rw [deleteCorrupt_of_not hall] at hcorrupt
    exact ⟨hcorrupt, fun h => absurd h hall⟩

/-- Every interval that ended before the start is still stored. -/
def KeepsEarlier (call : RebuildCall) (before after : IntervalTable σ) : Prop :=
  ∀ row ∈ before.rows, row.endTime < call.start → row ∈ after.rows

/-- **The intervals before the start** are kept unless all intervals of the consumer are deleted. -/
theorem keepsEarlier_iff : KeepsEarlier call table (rebuildMissingIntervals columnsOf call samples now table).table ↔
      (DeletesAll call table → ∀ row ∈ table.rows, row.consumerId = call.consumerId → call.start ≤ row.endTime) := by
  obtain ⟨added, hrows, hsound, -⟩ := @rebuildMissingIntervals_rows σ columnsOf call samples now table
  unfold KeepsEarlier
  rw [hrows]
  constructor
  · intro hkeeps hall row hrow hconsumer
    by_contra hbefore
    rw [not_le] at hbefore
    rcases List.mem_append.mp (hkeeps row hrow hbefore) with hkept | hadded
    · exact (mem_of_mem_keptTable hkept).2 hall hconsumer
    · obtain ⟨pair, hpair, -, hinterval⟩ := hsound row hadded
      have hstart := start_le_of_mem_samplePairs hpair
      rw [← hinterval.startTime] at hstart
      linarith [row.start_lt_end]
  · intro hcond row hrow hbefore
    refine List.mem_append_left _ (mem_deleteRebuilt ?_ hbefore)
    by_cases hall : DeletesAll call table
    · rw [deleteCorrupt_of_deletesAll hall]
      refine List.mem_filter.mpr ⟨hrow, ?_⟩
      rw [Bool.not_eq_true', decide_eq_false_iff_not]
      exact fun hconsumer => absurd (hcond hall row hrow hconsumer) (not_le.mpr hbefore)
    · rw [deleteCorrupt_of_not hall]
      exact hrow

/-! ### A second rebuild -/

/-- The estimate of a pair is more than is plausible. -/
def Implausible (call : RebuildCall) (pair : SamplePair) : Prop :=
  maxPlausibleIntervalKwh * 1000 < energyWhForPair pair.1 pair.2 call.pollIntervalSeconds

/-- A rebuild creates and deletes nothing. -/
def Settled (before : IntervalTable σ) (result : RebuildResult σ) : Prop :=
  result.table = before ∧ result.deleted = 0 ∧ result.created = 0

theorem recordedAt_lt_of_implausible {pair : SamplePair} (h : Implausible call pair) :
    pair.1.recordedAt < pair.2.recordedAt ∧ 0 < energyWhForPair pair.1 pair.2 call.pollIntervalSeconds := by
  have hpos : 0 < energyWhForPair pair.1 pair.2 call.pollIntervalSeconds :=
    lt_trans (by norm_num [maxPlausibleIntervalKwh]) h
  refine ⟨?_, hpos⟩
  by_contra hle
  have hzero : energyWhForPair pair.1 pair.2 call.pollIntervalSeconds = 0 := by
    unfold energyWhForPair
    dsimp only
    exact if_pos (by linarith)
  rw [hzero] at hpos
  exact lt_irrefl 0 hpos

/-- What is left is implausible exactly if an implausible interval has been added. -/
theorem deletesAll_rebuilt_iff (hreplace : call.replaceCorrupt = false) :
    DeletesAll call (rebuildMissingIntervals columnsOf call samples now table).table ↔
      ∃ pair ∈ samplePairs call samples now, Implausible call pair ∧
        (keptTable call table).hasIntervalForWindow call.consumerId pair.1.recordedAt pair.2.recordedAt = false := by
  obtain ⟨added, hrows, hsound, hcomplete⟩ := @rebuildMissingIntervals_rows σ columnsOf call samples now table
  unfold DeletesAll
  rw [hreplace, hrows]
  constructor
  · rintro (hfalse | ⟨row, hrow, hconsumer, hmuch⟩)
    · cases hfalse
    · rcases List.mem_append.mp hrow with hkept | hadded
      · obtain ⟨hmem, hother⟩ := mem_of_mem_keptTable hkept
        exact absurd hconsumer (hother (.inr ⟨row, hmem, hconsumer, hmuch⟩))
      · obtain ⟨pair, hpair, hmissing, hinterval⟩ := hsound row hadded
        refine ⟨pair, hpair, ?_, hmissing.2.2⟩
        rw [hinterval.energyKwh, lt_div_iff₀ (by norm_num)] at hmuch
        exact hmuch
  · rintro ⟨pair, hpair, hmuch, hcovered⟩
    obtain ⟨horder, henergy⟩ := recordedAt_lt_of_implausible hmuch
    obtain ⟨row, hrow, hinterval⟩ := hcomplete pair hpair ⟨horder, henergy, hcovered⟩
    refine .inr ⟨row, List.mem_append_right _ hrow, hinterval.consumerId, ?_⟩
    rw [hinterval.energyKwh, lt_div_iff₀ (by norm_num)]
    exact hmuch

/-- **A second rebuild** changes nothing exactly if the first adds no implausible interval. -/
theorem settled_iff (hpast : ∀ row ∈ samples, row.recordedAt < now) (hlater : now ≤ now')
    (hreplace : call.replaceCorrupt = false) (hexisting : call.rebuildExisting = false) :
    Settled (rebuildMissingIntervals columnsOf call samples now table).table
        (rebuildMissingIntervals columnsOf' call samples now'
          (rebuildMissingIntervals columnsOf call samples now table).table) ↔
      ∀ pair ∈ samplePairs call samples now, Implausible call pair →
        (keptTable call table).hasIntervalForWindow call.consumerId pair.1.recordedAt pair.2.recordedAt = true := by
  have hiff := @deletesAll_rebuilt_iff σ columnsOf call samples now table hreplace
  have hdone := @not_missing_rebuilt σ columnsOf call samples now table
  generalize (rebuildMissingIntervals columnsOf call samples now table).table = rebuilt at hiff hdone ⊢
  have hexist : ∀ t : IntervalTable σ, deleteRebuilt call t = (t, 0) := by
    intro t
    unfold deleteRebuilt
    rw [hexisting]
    rfl
  have hcond : (∀ pair ∈ samplePairs call samples now, Implausible call pair →
      (keptTable call table).hasIntervalForWindow call.consumerId pair.1.recordedAt pair.2.recordedAt = true) ↔
        ¬ DeletesAll call rebuilt := by
    rw [hiff]
    simp
  rw [hcond]
  unfold Settled
  rw [rebuildMissingIntervals_eq, samplePairs_later hpast hlater]
  constructor
  · rintro ⟨-, hdeleted, -⟩ hall
    have hcount : (deleteCorrupt call rebuilt).2 = 0 := by
      dsimp only at hdeleted
      omega
    rw [deleteCorrupt_of_deletesAll hall] at hcount
    obtain hfalse | ⟨row, hrow, hconsumer, -⟩ := hall
    · rw [hreplace] at hfalse
      cases hfalse
    · exact absurd (decide_eq_true hconsumer) (List.countP_eq_zero.mp hcount row hrow)
  · intro hnot
    have hkept : keptTable call rebuilt = rebuilt := by
      unfold keptTable
      rw [deleteCorrupt_of_not hnot, hexist]
    dsimp only
    rw [hkept, foldl_rebuildPair_eq_self hdone, deleteCorrupt_of_not hnot, hexist]
    exact ⟨rfl, rfl, rfl⟩

/-- **A rebuild loses nothing**, and a second one changes nothing, exactly if it does not delete all intervals of a
consumer that has some before the start, and adds no implausible interval. -/
theorem rebuild_keeps_and_settles_iff (hpast : ∀ row ∈ samples, row.recordedAt < now) (hlater : now ≤ now') :
    (KeepsEarlier call table (rebuildMissingIntervals columnsOf call samples now table).table ∧
      (call.replaceCorrupt = false → call.rebuildExisting = false →
        Settled (rebuildMissingIntervals columnsOf call samples now table).table
          (rebuildMissingIntervals columnsOf' call samples now'
            (rebuildMissingIntervals columnsOf call samples now table).table))) ↔
    ((DeletesAll call table → ∀ row ∈ table.rows, row.consumerId = call.consumerId → call.start ≤ row.endTime) ∧
      (call.replaceCorrupt = false → call.rebuildExisting = false →
        ∀ pair ∈ samplePairs call samples now, Implausible call pair →
          (keptTable call table).hasIntervalForWindow call.consumerId pair.1.recordedAt pair.2.recordedAt =
            true)) := by
  refine and_congr keepsEarlier_iff (forall_congr' fun hreplace => forall_congr' fun hexisting => ?_)
  exact settled_iff hpast hlater hreplace hexisting

end

/-! ### Examples -/

namespace Demo

def columnsOf : SpaEnergySample → Instant → Instant → Unit := fun _ _ _ => ()

/-- Two polls of a spa, without a measured energy. -/
def polls (seconds powerW : ℚ) : List ConsumerSample :=
  [{ consumerId := 1, recordedAt := 1000, powerW := some powerW },
    { consumerId := 1, recordedAt := 1000 + seconds, powerW := some powerW }]

theorem samplePairs_polls (call : RebuildCall) {seconds : ℚ} (powerW : ℚ) (now : Instant) (h : 0 ≤ seconds)
    (hconsumer : call.consumerId = 1) (hstart : call.start ≤ 1000) (hnow : 1000 + seconds < now) :
    samplePairs call (polls seconds powerW) now =
      [({ consumerId := 1, recordedAt := 1000, powerW := some powerW },
        { consumerId := 1, recordedAt := 1000 + seconds, powerW := some powerW })] := by
  have hlisted : listForPeriod (polls seconds powerW) call.consumerId call.start now = polls seconds powerW := by
    unfold listForPeriod
    have hall : (polls seconds powerW).filter (fun row => decide (row.consumerId = call.consumerId ∧
        row.recordedAt ≥ call.start ∧ row.recordedAt < now)) = polls seconds powerW := by
      refine List.filter_eq_self.mpr fun row hrow => ?_
      rcases List.mem_cons.mp hrow with rfl | hrow
      · exact decide_eq_true ⟨hconsumer.symm, hstart, by linarith⟩
      · rw [List.mem_singleton.mp hrow]
        exact decide_eq_true ⟨hconsumer.symm, by linarith, hnow⟩
    rw [hall]
    refine List.mergeSort_of_pairwise (List.pairwise_pair.mpr (decide_eq_true ?_))
    show (1000 : ℚ) ≤ 1000 + seconds
    linarith
  unfold samplePairs
  rw [hlisted]
  rfl

/-- A spa that is polled every five minutes. -/
def call : RebuildCall where
  consumerId := 1
  pollIntervalSeconds := 300

/-- An interval of ten minutes that was estimated at 4 kW. -/
def tenMinutes : ConsumerInterval Unit where
  id := 1
  consumerId := 1
  startTime := 1000
  endTime := 1600
  energyKwh := 2 / 3
  averagePowerW := some 4000
  heaterRuntimeSeconds := 0
  pumpRuntimeSeconds := 0
  dataQuality := some .estimated
  columns := ()
  start_lt_end := by norm_num

end Demo

theorem rebuild_keeps_and_settles_minute :
    let result := rebuildMissingIntervals Demo.columnsOf Demo.call (Demo.polls 60 3000) 5000 {}
    KeepsEarlier Demo.call {} result.table ∧ (Demo.call.replaceCorrupt = false → Demo.call.rebuildExisting = false →
      Settled result.table
        (rebuildMissingIntervals Demo.columnsOf Demo.call (Demo.polls 60 3000) 6000 result.table)) := by
  refine (rebuild_keeps_and_settles_iff (by decide +kernel) (by norm_num)).mpr ⟨fun _ row hrow => ?_, fun _ _ => ?_⟩
  · cases hrow
  · rw [Demo.samplePairs_polls Demo.call 3000 5000 (by norm_num) rfl (by decide +kernel) (by norm_num)]
    intro pair hpair hmuch
    rw [List.mem_singleton.mp hpair] at hmuch
    refine absurd hmuch ?_
    unfold Implausible
    decide +kernel

/-- Two polls that are ten minutes apart at 4 kW give more than is plausible: the interval is deleted and rebuilt by
the next rebuild, and is lost when a rebuild starts after it. -/
theorem estimated_interval_lost :
    (¬ Settled (rebuildMissingIntervals Demo.columnsOf Demo.call (Demo.polls 600 4000) 5000 {}).table
        (rebuildMissingIntervals Demo.columnsOf Demo.call (Demo.polls 600 4000) 5000
          (rebuildMissingIntervals Demo.columnsOf Demo.call (Demo.polls 600 4000) 5000 {}).table)) ∧
      ¬ KeepsEarlier { Demo.call with since := some 2000 } { rows := [Demo.tenMinutes], nextId := 2 }
        (rebuildMissingIntervals Demo.columnsOf { Demo.call with since := some 2000 } (Demo.polls 600 4000) 5000
          { rows := [Demo.tenMinutes], nextId := 2 }).table := by
  constructor
  · rw [settled_iff (by decide +kernel) le_rfl rfl rfl,
      Demo.samplePairs_polls Demo.call 4000 5000 (by norm_num) rfl (by decide +kernel) (by norm_num)]
    intro hcovered
    have hfalse := hcovered _ List.mem_cons_self (by unfold Implausible; decide +kernel)
    revert hfalse
    decide +kernel
  · rw [keepsEarlier_iff]
    intro hkept
    have hlater := hkept (.inr ⟨Demo.tenMinutes, List.mem_cons_self, rfl, by decide +kernel⟩) Demo.tenMinutes
      List.mem_cons_self rfl
    revert hlater
    decide +kernel

end EnergyCore.Consumers
