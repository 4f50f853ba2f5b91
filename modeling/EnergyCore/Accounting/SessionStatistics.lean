import EnergyCore.Foundations.Clock
import EnergyCore.Foundations.HalfEvenRounding
import Mathlib.Data.List.Sort
import Mathlib.Algebra.BigOperators.Group.List.Basic

/-!
# Statistics of the EV sessions

`EVStatisticsService.stats` over `EvChargingSessionRepository.list_for_charger`: one page of the sessions that
started within both bounds, the latest first, and its sums.

* `page_perm` — a page that is not full holds every session of its range;
* `rangeRows_split` — the sessions of a range are those of its halves, if none starts between them;
* `completeAndAdditive_iff` — the statistics of a period are complete, and the sum of those of its halves,
  exactly if it has at most 100 sessions and none starts at the inner bound.
-/

namespace EnergyCore.Accounting

open HalfEvenRounding

/-! ### The sessions -/

/-- `SESSION_STATUSES`. -/
inductive StoredStatus where
  | active
  | completed
  | incomplete
  | estimated
  deriving Repr, DecidableEq

/-- The columns of a session row that the statistics read. -/
structure EvChargingSessionRecord where
  id : ℕ
  chargerId : ℕ
  startedAt : Instant
  status : StoredStatus
  totalEnergyKwh : Option ℚ
  solarDirectKwh : Option ℚ
  solarBatteryKwh : Option ℚ
  gridBatteryKwh : Option ℚ
  gridDirectKwh : Option ℚ
  actualCostSek : Option ℚ
  referenceCostSek : Option ℚ
  savingsSek : Option ℚ
  solarContributionSek : Option ℚ
  deriving Repr, DecidableEq

/-- `list_for_charger`. Sessions that started at the same instant keep the order in which the rows were read. -/
def listForCharger (rows : List EvChargingSessionRecord) (chargerId : ℕ)
    (fromTime toTime : Option Instant) (statuses : List StoredStatus) (limit offset : ℕ) :
    List EvChargingSessionRecord :=
  let selected := rows.filter fun r =>
    decide (r.chargerId = chargerId) && fromTime.all (fun t => decide (t ≤ r.startedAt)) &&
      toTime.all (fun t => decide (r.startedAt ≤ t)) &&
      (statuses.isEmpty || statuses.contains r.status)
  ((selected.insertionSort fun r s => s.startedAt ≤ r.startedAt).drop offset).take limit

/-! ### The statistics -/

/-- The sum of a column, before it is rounded; an empty cell counts as zero. -/
def sumColumn (column : EvChargingSessionRecord → Option ℚ) (sessions : List EvChargingSessionRecord) : ℚ :=
  (sessions.map fun s => (column s).getD 0).sum

/-- The default `limit` of `list_for_charger`. -/
def pageLimit : ℕ := 100

/-- The sessions that the statistics of a period are made of. -/
def statsPage (rows : List EvChargingSessionRecord) (chargerId : ℕ) (periodFrom periodTo : Instant) :
    List EvChargingSessionRecord :=
  listForCharger rows chargerId (some periodFrom) (some periodTo)
    [.completed, .estimated, .incomplete, .active] pageLimit 0

/-! ### A page and its range -/

/-- The rows of a charger that started within both bounds. -/
def rangeRows (rows : List EvChargingSessionRecord) (chargerId : ℕ) (start stop : Instant) :
    List EvChargingSessionRecord :=
  rows.filter fun r => decide (r.chargerId = chargerId ∧ start ≤ r.startedAt ∧ r.startedAt ≤ stop)

theorem mem_rangeRows {rows : List EvChargingSessionRecord} {chargerId : ℕ} {start stop : Instant}
    {r : EvChargingSessionRecord} : r ∈ rangeRows rows chargerId start stop ↔
      r ∈ rows ∧ r.chargerId = chargerId ∧ start ≤ r.startedAt ∧ r.startedAt ≤ stop := by
  rw [rangeRows, List.mem_filter, decide_eq_true_iff]

/-- Every status is among those the statistics ask for, so that the page is the head of the sorted range. -/
theorem statsPage_eq (rows : List EvChargingSessionRecord) (chargerId : ℕ) (start stop : Instant) :
    statsPage rows chargerId start stop = ((rangeRows rows chargerId start stop).insertionSort fun r s =>
          s.startedAt ≤ r.startedAt).take pageLimit := by
  have hfilter : (fun r : EvChargingSessionRecord =>
      decide (r.chargerId = chargerId) && (some start).all (fun t => decide (t ≤ r.startedAt)) &&
        (some stop).all (fun t => decide (r.startedAt ≤ t)) &&
        (([.completed, .estimated, .incomplete, .active] : List StoredStatus).isEmpty ||
          ([.completed, .estimated, .incomplete, .active] : List StoredStatus).contains r.status))
      = fun r => decide (r.chargerId = chargerId ∧ start ≤ r.startedAt ∧ r.startedAt ≤ stop) := by
    funext r
    have hstatus : ([.completed, .estimated, .incomplete, .active] : List StoredStatus).contains r.status
        = true := by
      cases r.status <;> rfl
    simp only [hstatus, Option.all_some, Bool.or_true, Bool.and_true, Bool.decide_and, Bool.and_assoc]
  simp only [statsPage, listForCharger, hfilter]
  rfl

theorem length_statsPage (rows : List EvChargingSessionRecord) (chargerId : ℕ) (start stop : Instant) :
    (statsPage rows chargerId start stop).length = min pageLimit (rangeRows rows chargerId start stop).length := by
  rw [statsPage_eq, List.length_take, List.length_insertionSort]

/-- **A page that is not full** holds every session of its range. -/
theorem page_perm {rows : List EvChargingSessionRecord} {chargerId : ℕ} {start stop : Instant}
    (h : (rangeRows rows chargerId start stop).length ≤ pageLimit) :
    (statsPage rows chargerId start stop).Perm (rangeRows rows chargerId start stop) := by
  rw [statsPage_eq, List.take_of_length_le (by rw [List.length_insertionSort]; exact h)]
  exact List.perm_insertionSort _ _

theorem rangeRows_perm {rows scan : List EvChargingSessionRecord} (h : scan.Perm rows) (chargerId : ℕ)
    (start stop : Instant) :
    (rangeRows scan chargerId start stop).Perm (rangeRows rows chargerId start stop) := h.filter _

/-! ### The halves of a range -/

section Halves

variable {rows : List EvChargingSessionRecord} {chargerId : ℕ} {a b c : Instant}

/-- The sessions that start at the inner bound. -/
def startingAt (rows : List EvChargingSessionRecord) (chargerId : ℕ) (b : Instant) :
    List EvChargingSessionRecord := rangeRows rows chargerId b b

/-- Each session of the range is in one half, and those at the inner bound are in both. -/
theorem length_halves (hab : a < b) (hbc : b < c) :
    (rangeRows rows chargerId a b).length + (rangeRows rows chargerId b c).length
      = (rangeRows rows chargerId a c).length + (startingAt rows chargerId b).length := by
  unfold startingAt rangeRows
  induction rows with
  | nil => rfl
  | cons r rows ih =>
    have hstep : (if r.chargerId = chargerId ∧ a ≤ r.startedAt ∧ r.startedAt ≤ b then 1 else 0)
        + (if r.chargerId = chargerId ∧ b ≤ r.startedAt ∧ r.startedAt ≤ c then 1 else 0)
        = (if r.chargerId = chargerId ∧ a ≤ r.startedAt ∧ r.startedAt ≤ c then 1 else 0)
          + (if r.chargerId = chargerId ∧ b ≤ r.startedAt ∧ r.startedAt ≤ b then 1 else 0) := by
      grind
    simp only [List.filter_cons, decide_eq_true_iff, apply_ite List.length, List.length_cons]
    grind

/-- **The halves of a range** hold its sessions, if none starts at the inner bound. -/
theorem rangeRows_split (hab : a < b) (hbc : b < c) (hb : ∀ r ∈ rows, r.chargerId = chargerId → r.startedAt ≠ b) :
    (rangeRows rows chargerId a b ++ rangeRows rows chargerId b c).Perm (rangeRows rows chargerId a c) := by
  have hearly : (rangeRows rows chargerId a c).filter (fun r => decide (r.startedAt ≤ b))
      = rangeRows rows chargerId a b := by
    simp only [rangeRows, List.filter_filter]
    refine List.filter_congr fun r _ => ?_
    rw [← Bool.decide_and]
    refine decide_eq_decide.mpr ⟨?_, ?_⟩
    · rintro ⟨hle, hcharger, hge, -⟩
      exact ⟨hcharger, hge, hle⟩
    · rintro ⟨hcharger, hge, hle⟩
      exact ⟨hle, hcharger, hge, hle.trans hbc.le⟩
  have hlate : (rangeRows rows chargerId a c).filter (fun r => !decide (r.startedAt ≤ b))
      = rangeRows rows chargerId b c := by
    simp only [rangeRows, List.filter_filter]
    refine List.filter_congr fun r hr => ?_
    rw [← decide_not, ← Bool.decide_and]
    refine decide_eq_decide.mpr ⟨?_, ?_⟩
    · rintro ⟨hlt, hcharger, -, hle⟩
      exact ⟨hcharger, (not_le.mp hlt).le, hle⟩
    · rintro ⟨hcharger, hge, hle⟩
      have hlt : b < r.startedAt := lt_of_le_of_ne hge (hb r hr hcharger).symm
      exact ⟨not_le.mpr hlt, hcharger, hab.le.trans hge, hle⟩
  rw [← hearly, ← hlate]
  exact List.filter_append_perm _ _

/-- Those at the inner bound are in each half. -/
theorem length_startingAt_le (hab : a < b) (hbc : b < c) :
    (startingAt rows chargerId b).length ≤ (rangeRows rows chargerId a b).length ∧
      (startingAt rows chargerId b).length ≤ (rangeRows rows chargerId b c).length := by
  refine ⟨(List.monotone_filter_right rows ?_).length_le, (List.monotone_filter_right rows ?_).length_le⟩
  · intro r hr
    obtain ⟨hcharger, hge, hle⟩ := of_decide_eq_true hr
    exact decide_eq_true ⟨hcharger, hab.le.trans hge, hle⟩
  · intro r hr
    obtain ⟨hcharger, hge, hle⟩ := of_decide_eq_true hr
    exact decide_eq_true ⟨hcharger, hge, hle.trans hbc.le⟩

theorem startingAt_eq_nil_iff : startingAt rows chargerId b = [] ↔
    ∀ r ∈ rows, r.chargerId = chargerId → r.startedAt ≠ b := by
  rw [List.eq_nil_iff_forall_not_mem]
  constructor
  · intro h r hr hcharger hstart
    exact h r (mem_rangeRows.mpr ⟨hr, hcharger, hstart.ge, hstart.le⟩)
  · intro h r hr
    obtain ⟨hmem, hcharger, hge, hle⟩ := mem_rangeRows.mp hr
    exact h r hmem hcharger (le_antisymm hle hge)

end Halves

/-! ### Completeness and additivity -/

/-- The statistics of `[a, c]` count every session of the range, and their unrounded energy and cost and their
count are those of `[a, b]` and `[b, c]` together. Each of the three calls reads the rows in an order of its
own. -/
structure CompleteAndAdditive (rows whole early late : List EvChargingSessionRecord) (chargerId : ℕ)
    (a b c : Instant) : Prop where
  complete : (statsPage whole chargerId a c).Perm (rangeRows rows chargerId a c)
  energy : sumColumn (·.totalEnergyKwh) (statsPage whole chargerId a c)
    = sumColumn (·.totalEnergyKwh) (statsPage early chargerId a b)
      + sumColumn (·.totalEnergyKwh) (statsPage late chargerId b c)
  cost : sumColumn (·.actualCostSek) (statsPage whole chargerId a c)
    = sumColumn (·.actualCostSek) (statsPage early chargerId a b)
      + sumColumn (·.actualCostSek) (statsPage late chargerId b c)
  count : (statsPage whole chargerId a c).length
    = (statsPage early chargerId a b).length + (statsPage late chargerId b c).length

theorem sumColumn_perm {sessions sessions' : List EvChargingSessionRecord} (h : sessions.Perm sessions')
    (column : EvChargingSessionRecord → Option ℚ) : sumColumn column sessions = sumColumn column sessions' :=
  (h.map _).sum_eq

theorem sumColumn_append (column : EvChargingSessionRecord → Option ℚ)
    (sessions sessions' : List EvChargingSessionRecord) :
    sumColumn column (sessions ++ sessions') = sumColumn column sessions + sumColumn column sessions' := by
  simp [sumColumn]

section Scans

variable {rows whole early late : List EvChargingSessionRecord} {chargerId : ℕ} {a b c : Instant}

/-- **The statistics of a period** are complete, and the sum of those of its halves, exactly if it has no more
sessions than a page, and none of the charger's sessions starts at the inner bound. -/
theorem completeAndAdditive_iff (hwhole : whole.Perm rows) (hearly : early.Perm rows)
    (hlate : late.Perm rows) (hab : a < b) (hbc : b < c) :
    CompleteAndAdditive rows whole early late chargerId a b c ↔ (rangeRows rows chargerId a c).length ≤ pageLimit ∧
        ∀ r ∈ rows, r.chargerId = chargerId → r.startedAt ≠ b := by
  have hhalves := @length_halves rows chargerId a b c hab hbc
  have hinner := @length_startingAt_le rows chargerId a b c hab hbc
  have hwhole' := rangeRows_perm hwhole chargerId a c
  have hearly' := rangeRows_perm hearly chargerId a b
  have hlate' := rangeRows_perm hlate chargerId b c
  constructor
  · intro h
    have hcomplete := h.complete.length_eq
    have hcount := h.count
    rw [length_statsPage, hwhole'.length_eq] at hcomplete
    have hpage : (rangeRows rows chargerId a c).length ≤ pageLimit := by omega
    rw [length_statsPage, length_statsPage, length_statsPage, hwhole'.length_eq, hearly'.length_eq,
      hlate'.length_eq] at hcount
    refine ⟨hpage, startingAt_eq_nil_iff.mp (List.length_eq_zero_iff.mp ?_)⟩
    omega
  · rintro ⟨hpage, hb⟩
    have hnone := startingAt_eq_nil_iff.mpr hb
    rw [hnone, List.length_nil, add_zero] at hhalves
    have hwholePage : (statsPage whole chargerId a c).Perm (rangeRows rows chargerId a c) :=
      (page_perm (hwhole'.length_eq.trans_le hpage)).trans hwhole'
    have hearlyPage : (statsPage early chargerId a b).Perm (rangeRows rows chargerId a b) :=
      (page_perm (by rw [hearly'.length_eq]; omega)).trans hearly'
    have hlatePage : (statsPage late chargerId b c).Perm (rangeRows rows chargerId b c) :=
      (page_perm (by rw [hlate'.length_eq]; omega)).trans hlate'
    have hsplit : (statsPage whole chargerId a c).Perm
        (statsPage early chargerId a b ++ statsPage late chargerId b c) :=
      hwholePage.trans ((rangeRows_split hab hbc hb).symm.trans (hearlyPage.append hlatePage).symm)
    refine ⟨hwholePage, ?_, ?_, ?_⟩
    · rw [sumColumn_perm hsplit, sumColumn_append]
    · rw [sumColumn_perm hsplit, sumColumn_append]
    · rw [hsplit.length_eq, List.length_append]

end Scans

/-! ### Sessions of one charger -/

section Demo

/-- A session of 5 kWh that starts at the given second. -/
def demoSession (start : ℕ) : EvChargingSessionRecord where
  id := start
  chargerId := 1
  startedAt := start
  status := .completed
  totalEnergyKwh := some 5
  solarDirectKwh := some 0
  solarBatteryKwh := some 0
  gridBatteryKwh := some 0
  gridDirectKwh := some 5
  actualCostSek := some 10
  referenceCostSek := none
  savingsSek := none
  solarContributionSek := none

/-- A session at the inner bound is counted in both halves, and of 101 sessions only 100 are counted. -/
theorem statistics_fail :
    ¬ CompleteAndAdditive [demoSession 10] [demoSession 10] [demoSession 10] [demoSession 10] 1 0 10 20 ∧
      ¬ CompleteAndAdditive ((List.range 101).map demoSession) ((List.range 101).map demoSession)
        ((List.range 101).map demoSession) ((List.range 101).map demoSession) 1 0 (1 / 2) 200 := by
  constructor
  · intro h
    have hcount := h.count
    revert hcount
    decide +kernel
  · intro h
    have hcomplete := h.complete.length_eq
    rw [length_statsPage] at hcomplete
    revert hcomplete
    decide +kernel

/-- Two sessions, before and after the inner bound. -/
theorem demo_statistics : CompleteAndAdditive [demoSession 5, demoSession 15] [demoSession 5, demoSession 15]
    [demoSession 5, demoSession 15] [demoSession 5, demoSession 15] 1 0 10 20 := by
  refine (completeAndAdditive_iff (List.Perm.refl _) (List.Perm.refl _) (List.Perm.refl _)
    (by norm_num) (by norm_num)).mpr ⟨?_, ?_⟩
  · decide +kernel
  · decide +kernel

end Demo

end EnergyCore.Accounting
