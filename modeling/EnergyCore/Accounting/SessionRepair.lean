import EnergyCore.Accounting.EvTimeline

/-!
# The repair of stored session totals

`repair_sessions` removes the intervals that re-count a session from its start, and rebuilds the totals of the sessions
whose stored energy is not that of their intervals.

* `run_repairStep` — each session is repaired as if it was the only one;
* `findRepair_repaired` — a repaired session needs no repair;
* `findRepair_completed` — when a session that was completed from its intervals needs none;
* `repairSessions_lawful` — the repair is idempotent, and leaves such sessions alone.
-/

namespace EnergyCore.Accounting

open StepRun

/-! ### The tables -/

/-- `REPAIRABLE_STATUSES`. -/
inductive RepairableStatus where
  | active | completed | estimated | incomplete
  deriving Repr, DecidableEq

/-- The columns of the derived totals, as they were stored last. -/
structure TotalsColumns where
  totalEnergyKwh : Option ℚ := none
  solarDirectKwh : Option ℚ := none
  solarBatteryKwh : Option ℚ := none
  gridBatteryKwh : Option ℚ := none
  gridDirectKwh : Option ℚ := none
  actualCostSek : Option ℚ := none
  referenceCostSek : Option ℚ := none
  savingsSek : Option ℚ := none
  smartChargingSavingsSek : Option ℚ := none
  solarContributionSek : Option ℚ := none
  renewableSharePct : Option ℚ := none
  gridSharePct : Option ℚ := none
  energyQuality : Option String := none
  costQuality : Option String := none
  attributionQuality : Option String := none
  reconciliationDeltaKwh : Option ℚ := none
  reconciliationNote : Option String := none
  deriving Repr, DecidableEq

/-- `as_fields`. -/
def SessionTotals.asFields (t : SessionTotals) : TotalsColumns where
  totalEnergyKwh := some t.totalEnergyKwh
  solarDirectKwh := some t.attribution.solarDirectKwh
  solarBatteryKwh := some t.attribution.solarBatteryKwh
  gridBatteryKwh := some t.attribution.gridBatteryKwh
  gridDirectKwh := some t.attribution.gridDirectKwh
  actualCostSek := some t.actualCostSek
  referenceCostSek := t.referenceCostSek
  savingsSek := t.savingsSek
  smartChargingSavingsSek := t.smartChargingSavingsSek
  solarContributionSek := some t.solarContributionSek
  renewableSharePct := some t.renewableSharePct
  gridSharePct := some t.gridSharePct
  energyQuality := some t.energyQuality
  costQuality := some t.costQuality
  attributionQuality := some t.attributionQuality
  reconciliationDeltaKwh := some t.reconciliationDeltaKwh
  reconciliationNote := some t.reconciliationNote

/-- A row of `ev_charging_sessions`. -/
structure StoredSession where
  id : ℕ
  siteId : ℕ
  startedAt : Instant
  status : RepairableStatus
  meterStartKwh : Option ℚ
  meterStopKwh : Option ℚ
  columns : TotalsColumns
  deriving Repr, DecidableEq

/-- A row of `ev_charging_intervals`, with its key. -/
structure StoredInterval extends ChargingInterval where
  id : ℕ
  deriving Repr, DecidableEq

/-- The two tables, each with its primary key. -/
structure AccountingTables where
  sessions : List StoredSession
  intervals : List StoredInterval
  sessions_nodup : (sessions.map StoredSession.id).Nodup
  intervals_nodup : (intervals.map StoredInterval.id).Nodup

namespace AccountingTables

variable (t : AccountingTables)

/-- The rows with the key of a session. -/
def rowsOf (sessionId : ℕ) : List StoredSession := t.sessions.filter fun r => decide (r.id = sessionId)

/-- The intervals of a session in the order of their insertion. -/
def intervalsOf (sessionId : ℕ) : List StoredInterval := t.intervals.filter fun i => decide (i.sessionId = sessionId)

/-- `list_for_session`. -/
def listForSession (sessionId : ℕ) : List StoredInterval :=
  (t.intervalsOf sessionId).insertionSort fun i j => i.startTime ≤ j.startTime

/-- `update_totals`. -/
def updateTotals (sessionId : ℕ) (columns : TotalsColumns) : AccountingTables where
  sessions := t.sessions.map fun r => if r.id = sessionId then { r with columns := columns } else r
  intervals := t.intervals
  sessions_nodup := by
    rw [List.map_map]
    refine (congrArg List.Nodup (List.map_congr_left fun r _ => ?_)).mpr t.sessions_nodup
    show (if r.id = sessionId then { r with columns := columns } else r : StoredSession).id = r.id
    split_ifs
    · rfl
    · rfl
  intervals_nodup := t.intervals_nodup

/-- The intervals with these keys are deleted. -/
def deleteIntervals (ids : List ℕ) : AccountingTables where
  sessions := t.sessions
  intervals := t.intervals.filter fun i => decide (i.id ∉ ids)
  sessions_nodup := t.sessions_nodup
  intervals_nodup := t.intervals_nodup.sublist (List.filter_sublist.map _)

end AccountingTables

/-! ### The repair -/

/-- `SessionRepair`. -/
structure SessionRepair where
  sessionId : ℕ
  status : RepairableStatus
  intervalCount : ℕ
  removedIntervals : ℕ
  removedKwh : ℚ
  oldTotalKwh : ℚ
  newTotalKwh : ℚ
  attribution : EnergyAttribution
  note : String
  deriving Repr, DecidableEq

/-- `_resume_duplicates`: all intervals from the very start of the session, but the shortest. -/
def resumeDuplicates (intervals : List StoredInterval) (sessionStartedAt : Instant) : List StoredInterval :=
  ((intervals.filter fun i => decide (i.startTime = sessionStartedAt)).insertionSort fun i j =>
    i.endTime ≤ j.endTime).tail

namespace AccountingTables

variable (t : AccountingTables) (row : StoredSession)

def duplicatesOf : List StoredInterval := resumeDuplicates (t.listForSession row.id) row.startedAt

/-- The intervals of a session without the duplicates. -/
def genuineOf : List StoredInterval :=
  (t.listForSession row.id).filter fun i => decide (i.id ∉ (t.duplicatesOf row).map StoredInterval.id)

/-- The totals of some intervals with the meter of a session, which is not final while the session is active. -/
def totalsFor (intervals : List StoredInterval) : SessionTotals :=
  let measured :=
    if row.status = .active then (none, "ESTIMATED")
    else sessionEnergyFromMeter row.meterStartKwh row.meterStopKwh
  sessionTotalsFromIntervals (intervals.map StoredInterval.toChargingInterval) measured.1 measured.2

/-- The repair that a session needs, if it needs one. -/
def findRepair : Option SessionRepair :=
  let duplicates := t.duplicatesOf row
  let intervals := t.genuineOf row
  if intervals = [] then none
  else
    let totals := totalsFor row intervals
    let oldTotal := row.columns.totalEnergyKwh.getD 0
    if duplicates = [] ∧ |totals.totalEnergyKwh - oldTotal| ≤ attributionToleranceKwh then none
    else
      some
        { sessionId := row.id
          status := row.status
          intervalCount := intervals.length
          removedIntervals := duplicates.length
          removedKwh := (duplicates.map fun i => i.chargedEnergyKwh).sum
          oldTotalKwh := oldTotal
          newTotalKwh := totals.totalEnergyKwh
          attribution := totals.attribution
          note := totals.reconciliationNote }

/-- The duplicates are deleted, and the totals are stored. -/
def applyRepair : AccountingTables :=
  (t.deleteIntervals ((t.duplicatesOf row).map StoredInterval.id)).updateTotals row.id
    (totalsFor row (t.genuineOf row)).asFields

/-- The session after the repair that it needs. -/
def repaired : AccountingTables := if t.findRepair row = none then t else t.applyRepair row

end AccountingTables

/-- One session of the loop of `repair_sessions`. -/
def repairStep (dryRun : Bool) (s : AccountingTables × List SessionRepair) (row : StoredSession) :
    AccountingTables × List SessionRepair :=
  match s.1.findRepair row with
  | none => s
  | some repair => (if dryRun then s.1 else s.1.applyRepair row, s.2 ++ [repair])

/-- The sessions of a site, or of all sites, in the order of their start. -/
def repairableRows (t : AccountingTables) (siteId : Option ℕ) : List StoredSession :=
  (t.sessions.filter fun r => siteId.all fun site => decide (r.siteId = site)).insertionSort fun r r' =>
    r.startedAt ≤ r'.startedAt

/-- `repair_sessions`. -/
def repairSessions (t : AccountingTables) (siteId : Option ℕ) (dryRun : Bool) :
    AccountingTables × List SessionRepair :=
  run (repairStep dryRun) (t, []) (repairableRows t siteId)

/-! ### One repair -/

namespace AccountingTables

variable {t t' : AccountingTables} {row row' : StoredSession}

/-- The intervals of a session are all that the repair reads of the tables. -/
theorem findRepair_congr (h : t'.intervalsOf row.id = t.intervalsOf row.id) :
    t'.findRepair row = t.findRepair row := by
  have hlist : t'.listForSession row.id = t.listForSession row.id := congrArg _ h
  unfold findRepair genuineOf duplicatesOf
  rw [hlist]

theorem rowsOf_applyRepair (t : AccountingTables) (row : StoredSession) (sessionId : ℕ) :
    (t.applyRepair row).rowsOf sessionId
      = if sessionId = row.id then
          (t.rowsOf sessionId).map fun r => { r with columns := (totalsFor row (t.genuineOf row)).asFields }
        else t.rowsOf sessionId := by
  show ((t.sessions.map fun r => if r.id = row.id then
    { r with columns := (totalsFor row (t.genuineOf row)).asFields } else r).filter fun r =>
      decide (r.id = sessionId)) = _
  rw [List.filter_map]
  have hkey : ∀ r : StoredSession, (if r.id = row.id then
      { r with columns := (totalsFor row (t.genuineOf row)).asFields } else r : StoredSession).id = r.id := by
    intro r
    split_ifs
    · rfl
    · rfl
  have hsame : (t.sessions.filter ((fun r => decide (r.id = sessionId)) ∘ fun r => if r.id = row.id then
      { r with columns := (totalsFor row (t.genuineOf row)).asFields } else r)) = t.rowsOf sessionId := by
    refine List.filter_congr fun r _ => ?_
    rw [Function.comp_apply, hkey]
  rw [hsame]
  split_ifs with hid
  · refine List.map_congr_left fun r hr => ?_
    rw [if_pos ((of_decide_eq_true (List.mem_filter.mp hr).2).trans hid)]
  · refine (List.map_congr_left fun r hr => ?_).trans (List.map_id _)
    rw [if_neg fun heq => hid ((of_decide_eq_true (List.mem_filter.mp hr).2).symm.trans heq)]
    rfl

theorem mem_intervalsOf {sessionId : ℕ} {i : StoredInterval} :
    i ∈ t.intervalsOf sessionId ↔ i ∈ t.intervals ∧ i.sessionId = sessionId := by
  rw [intervalsOf, List.mem_filter, decide_eq_true_eq]

theorem mem_of_mem_duplicatesOf {i : StoredInterval} (h : i ∈ t.duplicatesOf row) : i ∈ t.intervalsOf row.id := by
  have hmem := (List.mem_insertionSort _).mp (List.mem_of_mem_tail h)
  exact (List.mem_insertionSort _).mp (List.mem_filter.mp hmem).1

/-- Only intervals of the session itself are deleted. -/
theorem intervalsOf_applyRepair (t : AccountingTables) (row : StoredSession) (sessionId : ℕ) :
    (t.applyRepair row).intervalsOf sessionId = if sessionId = row.id then (t.intervalsOf sessionId).filter fun i =>
          decide (i.id ∉ (t.duplicatesOf row).map StoredInterval.id)
        else t.intervalsOf sessionId := by
  show ((t.intervals.filter fun i => decide (i.id ∉ (t.duplicatesOf row).map StoredInterval.id)).filter fun i =>
    decide (i.sessionId = sessionId)) = _
  have hswap : ((t.intervals.filter fun i => decide (i.id ∉ (t.duplicatesOf row).map StoredInterval.id)).filter
      fun i => decide (i.sessionId = sessionId)) = (t.intervalsOf sessionId).filter fun i =>
        decide (i.id ∉ (t.duplicatesOf row).map StoredInterval.id) := by
    unfold intervalsOf
    rw [List.filter_filter, List.filter_filter]
    simp only [Bool.and_comm]
  rw [hswap]
  split_ifs with hid
  · rfl
  · refine List.filter_eq_self.mpr fun i hi => decide_eq_true fun hmem => hid ?_
    obtain ⟨j, hj, hkey⟩ := List.mem_map.mp hmem
    obtain ⟨hi, hsession⟩ := mem_intervalsOf.mp hi
    obtain ⟨hj, hsession'⟩ := mem_intervalsOf.mp (mem_of_mem_duplicatesOf hj)
    rw [← hsession, ← hsession', List.inj_on_of_nodup_map t.intervals_nodup hj hi hkey]

/-- The repair of another session changes nothing of a session. -/
theorem repaired_other {sessionId : ℕ} (h : sessionId ≠ row.id) :
    (t.repaired row).rowsOf sessionId = t.rowsOf sessionId
      ∧ (t.repaired row).intervalsOf sessionId = t.intervalsOf sessionId := by
  unfold repaired
  split_ifs
  · exact ⟨rfl, rfl⟩
  · rw [rowsOf_applyRepair, intervalsOf_applyRepair, if_neg h, if_neg h]
    exact ⟨rfl, rfl⟩

/-- A repair reads no more than the rows and the intervals of its session. -/
theorem repaired_congr (hrows : t'.rowsOf row.id = t.rowsOf row.id)
    (hintervals : t'.intervalsOf row.id = t.intervalsOf row.id) :
    (t'.repaired row).rowsOf row.id = (t.repaired row).rowsOf row.id
      ∧ (t'.repaired row).intervalsOf row.id = (t.repaired row).intervalsOf row.id := by
  have hlist : t'.listForSession row.id = t.listForSession row.id := congrArg _ hintervals
  have hduplicates : t'.duplicatesOf row = t.duplicatesOf row := by
    unfold duplicatesOf
    rw [hlist]
  have hgenuine : t'.genuineOf row = t.genuineOf row := by
    unfold genuineOf
    rw [hlist, hduplicates]
  unfold repaired
  rw [findRepair_congr hintervals]
  split_ifs
  · exact ⟨hrows, hintervals⟩
  · rw [rowsOf_applyRepair, rowsOf_applyRepair, intervalsOf_applyRepair, intervalsOf_applyRepair, hrows, hintervals,
      hduplicates, hgenuine]
    exact ⟨rfl, rfl⟩

end AccountingTables

/-! ### What a repair leaves -/

/-- The totals do not depend on the order of the intervals. -/
theorem sessionTotalsFromIntervals_perm {intervals intervals' : List ChargingInterval}
    (h : intervals.Perm intervals') (measuredKwh : Option ℚ) (meterQuality : String) :
    sessionTotalsFromIntervals intervals measuredKwh meterQuality
      = sessionTotalsFromIntervals intervals' measuredKwh meterQuality := by
  have hsum : ∀ f : ChargingInterval → ℚ, (intervals.map f).sum = (intervals'.map f).sum := fun f => (h.map f).sum_eq
  have hreference : (intervals.filterMap (·.referenceCostSek)).sum = (intervals'.filterMap (·.referenceCostSek)).sum :=
    (h.filterMap _).sum_eq
  have hsolar : (intervals.map fun i => solarContributionSek i.attribution i.electricityPriceSekKwh).sum
      = (intervals'.map fun i => solarContributionSek i.attribution i.electricityPriceSekKwh).sum := hsum _
  have hattribution : sumAttribution intervals = sumAttribution intervals' := by
    simp only [sumAttribution, hsum]
  unfold sessionTotalsFromIntervals sumReferenceCost
  rw [hsum, hsum, hreference, hsolar, hattribution]

/-- The intervals from the very start of a session. -/
def fromStart (t : AccountingTables) (row : StoredSession) : List StoredInterval :=
  (t.intervalsOf row.id).filter fun i => decide (i.startTime = row.startedAt)

namespace AccountingTables

section

variable {t : AccountingTables} {row : StoredSession}

theorem listForSession_perm (t : AccountingTables) (sessionId : ℕ) :
    (t.listForSession sessionId).Perm (t.intervalsOf sessionId) := List.perm_insertionSort _ _

/-- The intervals from the start, in the order of their ends. -/
theorem exists_duplicatesOf (t : AccountingTables) (row : StoredSession) :
    ∃ sorted : List StoredInterval, sorted.Perm (fromStart t row) ∧ t.duplicatesOf row = sorted.tail :=
  ⟨_, (List.perm_insertionSort _ _).trans ((listForSession_perm t row.id).filter _), rfl⟩

theorem duplicatesOf_eq_nil_iff : t.duplicatesOf row = [] ↔ (fromStart t row).length ≤ 1 := by
  obtain ⟨sorted, hperm, htail⟩ := exists_duplicatesOf t row
  rw [htail, ← hperm.length_eq, ← List.length_eq_zero_iff, List.length_tail]
  omega

theorem genuineOf_of_no_duplicates (h : t.duplicatesOf row = []) : t.genuineOf row = t.listForSession row.id := by
  unfold genuineOf
  rw [h]
  exact List.filter_eq_self.mpr fun i _ => rfl

/-- Of the intervals from the start, the shortest is kept. -/
theorem genuineOf_ne_nil (h : t.intervalsOf row.id ≠ []) : t.genuineOf row ≠ [] := by
  by_cases hnone : t.duplicatesOf row = []
  · rw [genuineOf_of_no_duplicates hnone]
    intro hempty
    have hperm := listForSession_perm t row.id
    rw [hempty] at hperm
    exact h hperm.nil_eq.symm
  · obtain ⟨sorted, hperm, htail⟩ := exists_duplicatesOf t row
    cases sorted with
    | nil => exact absurd htail hnone
    | cons shortest rest =>
      have hmem : shortest ∈ fromStart t row := hperm.subset List.mem_cons_self
      have hsession : shortest ∈ t.intervalsOf row.id := (List.mem_filter.mp hmem).1
      have hnodup : ((shortest :: rest).map StoredInterval.id).Nodup :=
        ((hperm.map _).nodup_iff).mpr (t.intervals_nodup.sublist
          ((List.filter_sublist.trans List.filter_sublist).map _))
      have hkept : shortest ∈ t.genuineOf row := by
        refine List.mem_filter.mpr ⟨(listForSession_perm t row.id).mem_iff.mpr hsession, decide_eq_true ?_⟩
        rw [htail, List.tail_cons]
        exact (List.nodup_cons.mp hnodup).1
      exact List.ne_nil_of_mem hkept

/-- After the repair, one interval from the start is left at most. -/
theorem duplicatesOf_applyRepair {columns : TotalsColumns} :
    (t.applyRepair row).duplicatesOf { row with columns := columns } = [] := by
  obtain ⟨sorted, hperm, htail⟩ := exists_duplicatesOf t row
  refine duplicatesOf_eq_nil_iff.mpr ?_
  have hleft : fromStart (t.applyRepair row) { row with columns := columns }
      = (fromStart t row).filter fun i => decide (i.id ∉ sorted.tail.map StoredInterval.id) := by
    show (((t.applyRepair row).intervalsOf row.id).filter fun i => decide (i.startTime = row.startedAt)) = _
    rw [intervalsOf_applyRepair, if_pos rfl, htail, fromStart, List.filter_filter, List.filter_filter]
    simp only [Bool.and_comm]
  rw [hleft, ← (hperm.filter _).length_eq]
  cases sorted with
  | nil => exact Nat.zero_le _
  | cons shortest rest =>
    have hgone : (rest.filter fun i => decide (i.id ∉ rest.map StoredInterval.id)) = [] :=
      List.filter_eq_nil_iff.mpr fun i hi hnot => of_decide_eq_true hnot (List.mem_map_of_mem hi)
    rw [List.tail_cons, List.filter_cons, hgone]
    split_ifs
    · exact le_rfl
    · exact Nat.zero_le _

theorem totalsFor_applyRepair {columns : TotalsColumns} :
    totalsFor { row with columns := columns } ((t.applyRepair row).genuineOf { row with columns := columns })
      = totalsFor row (t.genuineOf row) := by
  rw [genuineOf_of_no_duplicates duplicatesOf_applyRepair]
  have hperm : ((t.applyRepair row).listForSession row.id).Perm (t.genuineOf row) := by
    refine (listForSession_perm _ _).trans ?_
    rw [intervalsOf_applyRepair, if_pos rfl]
    exact ((listForSession_perm t row.id).filter _).symm
  exact sessionTotalsFromIntervals_perm (hperm.map _) _ _

theorem rowsOf_of_mem (h : row ∈ t.sessions) : t.rowsOf row.id = [row] := by
  have hall : ∀ r ∈ t.rowsOf row.id, r = row := by
    intro r hr
    obtain ⟨hr, hid⟩ := List.mem_filter.mp hr
    exact List.inj_on_of_nodup_map t.sessions_nodup hr h (of_decide_eq_true hid)
  have hmem : row ∈ t.rowsOf row.id := List.mem_filter.mpr ⟨h, decide_eq_true rfl⟩
  have hnodup : (t.rowsOf row.id).Nodup := (List.Nodup.of_map _ t.sessions_nodup).sublist List.filter_sublist
  have hreplicate := List.eq_replicate_of_mem hall
  have hone : (t.rowsOf row.id).length = 1 := by
    have hle := List.nodup_replicate.mp (hreplicate ▸ hnodup)
    have hpos := List.length_pos_of_mem hmem
    omega
  rw [hreplicate, hone]
  rfl

/-- **A repaired session** needs no repair. -/
theorem findRepair_repaired (hmem : row ∈ t.sessions) :
    ∀ r ∈ (t.repaired row).rowsOf row.id, (t.repaired row).findRepair r = none := by
  intro r hr
  unfold repaired at hr ⊢
  split_ifs at hr ⊢ with hnone
  · rw [rowsOf_of_mem hmem, List.mem_singleton] at hr
    rw [hr]
    exact hnone
  · rw [rowsOf_applyRepair, if_pos rfl, rowsOf_of_mem hmem, List.map_singleton, List.mem_singleton] at hr
    rw [hr]
    unfold findRepair
    dsimp only
    rw [totalsFor_applyRepair, duplicatesOf_applyRepair]
    split_ifs with hempty hunchanged
    · rfl
    · rfl
    · refine absurd ⟨rfl, ?_⟩ hunchanged
      show |(totalsFor row (t.genuineOf row)).totalEnergyKwh - (totalsFor row (t.genuineOf row)).totalEnergyKwh| ≤ _
      rw [sub_self, abs_zero]
      norm_num [attributionToleranceKwh]

end

/-! ### Sessions that were completed from their intervals -/

/-- The session is completed, with the totals that `_complete_session` computes from these intervals and this meter. -/
structure CompletedFrom (t : AccountingTables) (row : StoredSession) : Prop where
  status : row.status = .completed
  columns : row.columns = (sessionTotalsFromIntervals
    ((t.listForSession row.id).map StoredInterval.toChargingInterval)
    (sessionEnergyFromMeter row.meterStartKwh row.meterStopKwh).1
    (sessionEnergyFromMeter row.meterStartKwh row.meterStopKwh).2).asFields

/-- **A session that was completed from its intervals** needs a repair exactly if several of them begin at its very
start. -/
theorem findRepair_completed {t : AccountingTables} {row : StoredSession} (h : t.CompletedFrom row) :
    t.findRepair row = none ↔ (fromStart t row).length ≤ 1 := by
  constructor
  · intro hnone
    by_contra hmany
    have hduplicates : t.duplicatesOf row ≠ [] := fun hnil => hmany (duplicatesOf_eq_nil_iff.mp hnil)
    have hintervals : t.intervalsOf row.id ≠ [] := by
      intro hempty
      rw [fromStart, hempty] at hmany
      exact hmany (Nat.zero_le 1)
    unfold findRepair at hnone
    dsimp only at hnone
    rw [if_neg (genuineOf_ne_nil hintervals), if_neg fun hboth => hduplicates hboth.1] at hnone
    cases hnone
  · intro hone
    have hduplicates := duplicatesOf_eq_nil_iff.mpr hone
    have htotals : row.columns.totalEnergyKwh = some (totalsFor row (t.genuineOf row)).totalEnergyKwh := by
      rw [h.columns, genuineOf_of_no_duplicates hduplicates, totalsFor, h.status, if_neg (by decide)]
      rfl
    unfold findRepair
    dsimp only
    rw [htotals, Option.getD_some, sub_self, abs_zero]
    split_ifs with hempty hunchanged
    · rfl
    · rfl
    · exact absurd ⟨hduplicates, by norm_num [attributionToleranceKwh]⟩ hunchanged

end AccountingTables

/-! ### All sessions -/

theorem repairStep_false (s : AccountingTables × List SessionRepair) (row : StoredSession) :
    repairStep false s row = (s.1.repaired row, s.2 ++ (s.1.findRepair row).toList) := by
  unfold repairStep AccountingTables.repaired
  cases h : s.1.findRepair row with
  | none => simp
  | some repair => simp

/-- **Each session is repaired as if it was the only one.** -/
theorem run_repairStep {rows : List StoredSession} (hrows : (rows.map StoredSession.id).Nodup)
    (s : AccountingTables × List SessionRepair) :
    (run (repairStep false) s rows).2 = s.2 ++ rows.filterMap s.1.findRepair
      ∧ (∀ row ∈ rows, (run (repairStep false) s rows).1.rowsOf row.id = (s.1.repaired row).rowsOf row.id
          ∧ (run (repairStep false) s rows).1.intervalsOf row.id = (s.1.repaired row).intervalsOf row.id)
      ∧ ∀ sessionId, sessionId ∉ rows.map StoredSession.id →
          (run (repairStep false) s rows).1.rowsOf sessionId = s.1.rowsOf sessionId
            ∧ (run (repairStep false) s rows).1.intervalsOf sessionId = s.1.intervalsOf sessionId := by
  induction rows generalizing s with
  | nil =>
    refine ⟨?_, fun row hrow => absurd hrow List.not_mem_nil, fun _ _ => ⟨rfl, rfl⟩⟩
    rw [run_nil, List.filterMap_nil, List.append_nil]
  | cons first rest ih =>
    obtain ⟨hfirst, hrest⟩ := List.nodup_cons.mp hrows
    rw [run_cons, repairStep_false]
    obtain ⟨hreports, hsame, hother⟩ := ih hrest (s.1.repaired first, s.2 ++ (s.1.findRepair first).toList)
    have hne : ∀ row ∈ rest, row.id ≠ first.id := by
      intro row hrow heq
      exact hfirst (heq ▸ List.mem_map_of_mem hrow)
    refine ⟨?_, fun row hrow => ?_, fun sessionId hnot => ?_⟩
    · have hcongr : rest.filterMap (s.1.repaired first).findRepair = rest.filterMap s.1.findRepair :=
        List.filterMap_congr fun row hrow =>
          AccountingTables.findRepair_congr (AccountingTables.repaired_other (hne row hrow)).2
      rw [hreports, hcongr, List.append_assoc]
      cases h : s.1.findRepair first with
      | none => simp [h]
      | some repair => simp [h]
    · rcases List.mem_cons.mp hrow with rfl | hmem
      · exact hother row.id hfirst
      · obtain ⟨hrowsOf, hintervalsOf⟩ := AccountingTables.repaired_other (t := s.1) (hne row hmem)
        obtain ⟨hrowsSame, hintervalsSame⟩ := hsame row hmem
        obtain ⟨hrowsCongr, hintervalsCongr⟩ := AccountingTables.repaired_congr hrowsOf hintervalsOf
        exact ⟨hrowsSame.trans hrowsCongr, hintervalsSame.trans hintervalsCongr⟩
    · rw [List.map_cons, List.mem_cons, not_or] at hnot
      obtain ⟨hrowsOf, hintervalsOf⟩ := AccountingTables.repaired_other (t := s.1) hnot.1
      obtain ⟨hrowsSame, hintervalsSame⟩ := hother sessionId hnot.2
      exact ⟨hrowsSame.trans hrowsOf, hintervalsSame.trans hintervalsOf⟩

section

variable {t : AccountingTables} {siteId : Option ℕ} {row : StoredSession}

/-- The session belongs to the sites that are repaired. -/
def OfSite (siteId : Option ℕ) (row : StoredSession) : Prop := ∀ site ∈ siteId, row.siteId = site

theorem mem_repairableRows : row ∈ repairableRows t siteId ↔ row ∈ t.sessions ∧ OfSite siteId row := by
  rw [repairableRows, List.mem_insertionSort, List.mem_filter]
  cases siteId with
  | none => simp [OfSite]
  | some site => simp [OfSite]

theorem nodup_repairableRows (t : AccountingTables) (siteId : Option ℕ) :
    ((repairableRows t siteId).map StoredSession.id).Nodup :=
  ((List.perm_insertionSort _ _).map _).nodup_iff.mpr (t.sessions_nodup.sublist (List.filter_sublist.map _))

theorem reports_repairSessions (t : AccountingTables) (siteId : Option ℕ) :
    (repairSessions t siteId false).2 = (repairableRows t siteId).filterMap t.findRepair :=
  (run_repairStep (nodup_repairableRows t siteId) (t, [])).1

/-- After the repair, no session of the site needs one. -/
theorem findRepair_repairSessions (hrow : row ∈ repairableRows (repairSessions t siteId false).1 siteId) :
    (repairSessions t siteId false).1.findRepair row = none := by
  obtain ⟨-, hsame, hother⟩ := run_repairStep (nodup_repairableRows t siteId) (t, [])
  obtain ⟨hmem, hsite⟩ := mem_repairableRows.mp hrow
  have hrowsOf : row ∈ (repairSessions t siteId false).1.rowsOf row.id :=
    List.mem_filter.mpr ⟨hmem, decide_eq_true rfl⟩
  by_cases hid : row.id ∈ (repairableRows t siteId).map StoredSession.id
  · obtain ⟨before, hbefore, hkey⟩ := List.mem_map.mp hid
    obtain ⟨hrows, hintervals⟩ := hsame before hbefore
    rw [hkey] at hrows hintervals
    have hcongr : (repairSessions t siteId false).1.findRepair row = (t.repaired before).findRepair row :=
      AccountingTables.findRepair_congr hintervals
    rw [hcongr]
    refine AccountingTables.findRepair_repaired (mem_repairableRows.mp hbefore).1 row ?_
    rw [hkey, ← hrows]
    exact hrowsOf
  · have hrows := (hother row.id hid).1
    have hbefore : row ∈ t.rowsOf row.id := by
      rw [← hrows]
      exact hrowsOf
    have hrepairable := mem_repairableRows.mpr ⟨(List.mem_filter.mp hbefore).1, hsite⟩
    exact absurd (List.mem_map_of_mem hrepairable) hid

theorem run_repairStep_of_none {dryRun : Bool} {rows : List StoredSession}
    {s : AccountingTables × List SessionRepair} (h : ∀ row ∈ rows, s.1.findRepair row = none) :
    run (repairStep dryRun) s rows = s := by
  induction rows with
  | nil => rfl
  | cons row rest ih =>
    have hstep : repairStep dryRun s row = s := by
      unfold repairStep
      rw [h row List.mem_cons_self]
    rw [run_cons, hstep]
    exact ih fun row hrow => h row (List.mem_cons_of_mem _ hrow)

/-- The repair changes neither the row nor the intervals of the session, and reports nothing of it. -/
structure LeftAlone (t : AccountingTables) (siteId : Option ℕ) (row : StoredSession) : Prop where
  columns : (repairSessions t siteId false).1.rowsOf row.id = [row]
  intervals : (repairSessions t siteId false).1.intervalsOf row.id = t.intervalsOf row.id
  report : ∀ repair ∈ (repairSessions t siteId false).2, repair.sessionId ≠ row.id

theorem sessionId_findRepair {repair : SessionRepair} (h : t.findRepair row = some repair) :
    repair.sessionId = row.id := by
  unfold AccountingTables.findRepair at h
  dsimp only at h
  split_ifs at h
  cases h
  rfl

/-- A session is left alone exactly if it is of another site or needs no repair. -/
theorem leftAlone_iff (hmem : row ∈ t.sessions) :
    LeftAlone t siteId row ↔ (OfSite siteId row → t.findRepair row = none) := by
  obtain ⟨-, hsame, hother⟩ := run_repairStep (nodup_repairableRows t siteId) (t, [])
  constructor
  · intro h hsite
    cases hrepair : t.findRepair row with
    | none => rfl
    | some repair =>
      have hreported : repair ∈ (repairSessions t siteId false).2 := by
        rw [reports_repairSessions]
        exact List.mem_filterMap.mpr ⟨row, mem_repairableRows.mpr ⟨hmem, hsite⟩, hrepair⟩
      exact absurd (sessionId_findRepair hrepair) (h.report repair hreported)
  · intro h
    have hreport : ∀ repair ∈ (repairSessions t siteId false).2, repair.sessionId ≠ row.id := by
      intro repair hreported heq
      rw [reports_repairSessions] at hreported
      obtain ⟨other, hother, hrepair⟩ := List.mem_filterMap.mp hreported
      obtain ⟨hotherMem, hotherSite⟩ := mem_repairableRows.mp hother
      have hkey : other.id = row.id := (sessionId_findRepair hrepair).symm.trans heq
      obtain rfl : other = row := List.inj_on_of_nodup_map t.sessions_nodup hotherMem hmem hkey
      rw [h hotherSite] at hrepair
      cases hrepair
    by_cases hsite : OfSite siteId row
    · obtain ⟨hrows, hintervals⟩ := hsame row (mem_repairableRows.mpr ⟨hmem, hsite⟩)
      have hrepaired : t.repaired row = t := if_pos (h hsite)
      rw [hrepaired] at hrows hintervals
      exact ⟨hrows.trans (AccountingTables.rowsOf_of_mem hmem), hintervals, hreport⟩
    · have hnot : row.id ∉ (repairableRows t siteId).map StoredSession.id := by
        intro hid
        obtain ⟨other, hother, hkey⟩ := List.mem_map.mp hid
        obtain ⟨hotherMem, hotherSite⟩ := mem_repairableRows.mp hother
        obtain rfl : other = row := List.inj_on_of_nodup_map t.sessions_nodup hotherMem hmem hkey
        exact hsite hotherSite
      obtain ⟨hrows, hintervals⟩ := hother row.id hnot
      exact ⟨hrows.trans (AccountingTables.rowsOf_of_mem hmem), hintervals, hreport⟩

end

/-- **The repair is idempotent**, and it leaves a session of its sites that was completed from its intervals alone
exactly if no more than one of them begins at the very start of the session. -/
theorem repairSessions_lawful (t : AccountingTables) (siteId : Option ℕ) :
    repairSessions (repairSessions t siteId false).1 siteId false = ((repairSessions t siteId false).1, [])
    ∧ ∀ row ∈ t.sessions, t.CompletedFrom row →
        (LeftAlone t siteId row ↔ (OfSite siteId row → (fromStart t row).length ≤ 1)) := by
  constructor
  · exact run_repairStep_of_none fun row hrow => findRepair_repairSessions hrow
  · intro row hmem hcompleted
    rw [leftAlone_iff hmem, AccountingTables.findRepair_completed hcompleted]

namespace RecountDemo

def interval (endTime : Instant) (chargedEnergyKwh : ℚ) : ChargingInterval :=
  { sessionId := 1, startTime := 0, endTime := endTime, chargedEnergyKwh := chargedEnergyKwh
    averageChargingPowerW := 0, pvProductionKwh := 0, houseConsumptionKwh := 0, gridImportKwh := 0
    gridExportKwh := 0, batteryChargeKwh := 0, batteryDischargeKwh := 0, electricityPriceSekKwh := some 2
    attribution := { gridDirectKwh := chargedEnergyKwh }, actualCostSek := 2 * chargedEnergyKwh
    referenceCostSek := some (2 * chargedEnergyKwh), savingsSek := some 0, confidence := 1
    dataQuality := "MEASURED" }

/-- The first minute of a session, and an interval that counts it once more. -/
def intervals : List StoredInterval := [{ interval 60 1 with id := 1 }, { interval 120 2 with id := 2 }]

/-- The session, completed from its two intervals. -/
def session : StoredSession :=
  { id := 1, siteId := 1, startedAt := 0, status := .completed, meterStartKwh := none, meterStopKwh := none
    columns := (sessionTotalsFromIntervals (intervals.map StoredInterval.toChargingInterval) none
      "INCOMPLETE").asFields }

def tables : AccountingTables where
  sessions := [session]
  intervals := intervals
  sessions_nodup := by decide
  intervals_nodup := by decide

/-- **A completed session that is repaired.** It was completed from the intervals that it has, and one of them is
removed. -/
theorem recount_removed :
    session ∈ tables.sessions ∧ tables.CompletedFrom session ∧ ¬ LeftAlone tables none session := by
  have hmem : session ∈ tables.sessions := List.mem_singleton_self session
  have hcompleted : tables.CompletedFrom session := ⟨rfl, by decide +kernel⟩
  refine ⟨hmem, hcompleted, fun h => ?_⟩
  have hnone := (leftAlone_iff hmem).mp h fun site hsite => by cases hsite
  rw [AccountingTables.findRepair_completed hcompleted] at hnone
  exact absurd hnone (by decide +kernel)

end RecountDemo

end EnergyCore.Accounting
