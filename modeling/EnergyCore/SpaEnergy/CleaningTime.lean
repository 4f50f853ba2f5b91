import EnergyCore.Foundations.SampledStatus
import EnergyCore.SpaEnergy.FilterPolicy
import Mathlib.Algebra.BigOperators.Ring.List

/-!
# The time of cleaning

How long the spa has cleaned on a day, from the samples of its filter status.

* `measure_cleaningOfDay` — whatever the loop adds up, it adds up what is held within the day while cleaning;
* `computeCleaningHoursToday_eq`, `sum_cleaningSegments` — the hours of the day and its segments hold the same time;
* `cleaningHours_additive` — the hours of adjacent days add up, whatever samples repeat.
-/

namespace EnergyCore.SpaEnergy

open SampledStatus

/-! ### The loop over a day -/

/-- A time and the status that was read. -/
abbrev StatusSample := Instant × Option String

/-- `status in CLEANING_STATUSES`. -/
def isCleaning (status : Option String) : Bool := status.any fun s => decide (s ∈ cleaningStatuses)

/-- `sorted(samples, key=lambda x: x[0])`. -/
def sortSamples (samples : List StatusSample) : List StatusSample :=
  samples.mergeSort fun s s' => decide (s.1 ≤ s'.1)

/-- What the loop over a day has found, and the segment that it is in. -/
structure CleaningScan (σ : Type*) where
  found : σ
  inCleaning : Bool := false
  segmentStart : Option Instant := none

section

variable {σ : Type*} (dayStart dayEnd : Instant) (opened : σ → σ) (closed : σ → Instant → Instant → σ)

/-- The body of the loop for a sample before the day. -/
def CleaningScan.before (scan : CleaningScan σ) (status : Option String) : CleaningScan σ :=
  { scan with
    inCleaning := isCleaning status
    segmentStart := if isCleaning status = true then some dayStart else scan.segmentStart }

/-- The body of the loop for a sample of the day. -/
def CleaningScan.within (scan : CleaningScan σ) (sample : StatusSample) : CleaningScan σ :=
  match isCleaning sample.2, scan.inCleaning, scan.segmentStart with
  | true, false, _ => { found := opened scan.found, inCleaning := true, segmentStart := some sample.1 }
  | false, true, some start => { found := closed scan.found start sample.1 }
  | _, _, _ => scan

/-- The loop, which stops at the first sample after the day. -/
def scanCleaning : CleaningScan σ → List StatusSample → CleaningScan σ
  | scan, [] => scan
  | scan, sample :: rest =>
    if sample.1 < dayStart then scanCleaning (scan.before dayStart sample.2) rest
    else if sample.1 > dayEnd then scan
    else scanCleaning (scan.within opened closed sample) rest

/-- A segment that is still open ends with the day or with the last sample. -/
def CleaningScan.ended (scan : CleaningScan σ) (last : Instant) : σ :=
  match scan.inCleaning, scan.segmentStart with
  | true, some start => closed scan.found start (min dayEnd last)
  | _, _ => scan.found

/-- What the samples of a day come to. -/
def cleaningOfDay (initial : σ) (samples : List StatusSample) : σ :=
  match (sortSamples samples).getLast? with
  | none => initial
  | some last =>
    (scanCleaning dayStart dayEnd opened closed { found := initial } (sortSamples samples)).ended dayEnd closed last.1

end

/-- `compute_cleaning_hours_today`: the completed hours, and the number of starts. -/
def computeCleaningHoursToday (samples : List StatusSample) (dayStart dayEnd : Instant) : ℚ × ℕ :=
  let (totalSeconds, starts) := cleaningOfDay dayStart dayEnd (fun (total, starts) => (total, starts + 1))
    (fun (total, starts) start stop => (total + (stop - max start dayStart), starts)) ((0 : ℚ), 0) samples
  (max 0 (totalSeconds / 3600), starts)

/-- A segment of cleaning: its start and end, and its minutes. -/
structure CleaningSegment where
  start : Instant
  stop : Instant
  minutes : ℚ
  deriving Repr, DecidableEq

/-- `_cleaning_segments`. -/
def cleaningSegments (samples : List StatusSample) (dayStart dayEnd : Instant) : List CleaningSegment :=
  cleaningOfDay dayStart dayEnd id (fun segments start stop =>
    let start := max start dayStart
    let minutes := max 0 ((stop - start) / 60)
    if minutes > 0 then segments ++ [{ start := start, stop := stop, minutes := minutes }] else segments) [] samples

/-! ### What the loop adds up -/

/-- The sorted samples, with whether the spa was cleaning. -/
def cleaningStatus (samples : List StatusSample) : List (Instant × Bool) :=
  (sortSamples samples).map fun s => (s.1, isCleaning s.2)

theorem sorted_sortSamples (samples : List StatusSample) : (sortSamples samples).Pairwise fun s s' => s.1 ≤ s'.1 := by
  have hsorted := @List.pairwise_mergeSort _ (fun s s' : StatusSample => decide (s.1 ≤ s'.1))
    (fun a b c hab hbc => decide_eq_true ((of_decide_eq_true hab).trans (of_decide_eq_true hbc)))
    (fun a b => by simpa using le_total a.1 b.1) samples
  exact hsorted.imp of_decide_eq_true

/-- A first sample is sorted before those that are not earlier. -/
theorem sortSamples_cons (sample : StatusSample) (samples : List StatusSample) : sortSamples (sample :: samples)
      = (sortSamples samples).filter (fun s => decide (s.1 < sample.1))
        ++ sample :: (sortSamples samples).filter (fun s => decide (sample.1 ≤ s.1)) := by
  obtain ⟨l₁, l₂, hsort, hrest, hless⟩ := @List.mergeSort_cons _ (fun s s' : StatusSample => decide (s.1 ≤ s'.1))
    (fun a b c hab hbc => decide_eq_true ((of_decide_eq_true hab).trans (of_decide_eq_true hbc)))
    (fun a b => by simpa using le_total a.1 b.1) sample samples
  have hsorted := sorted_sortSamples (sample :: samples)
  unfold sortSamples at hsorted ⊢
  rw [hsort] at hsorted ⊢
  have hmore : ∀ s ∈ l₂, sample.1 ≤ s.1 := (List.pairwise_cons.mp (List.pairwise_append.mp hsorted).2.1).1
  have hearlier : ∀ s ∈ l₁, s.1 < sample.1 := by
    intro s hs
    have hnot := hless s hs
    simpa using hnot
  rw [hrest, List.filter_append, List.filter_append]
  have h₁ : l₁.filter (fun s => decide (s.1 < sample.1)) = l₁ :=
    List.filter_eq_self.mpr fun s hs => decide_eq_true (hearlier s hs)
  have h₂ : l₂.filter (fun s => decide (s.1 < sample.1)) = [] :=
    List.filter_eq_nil_iff.mpr fun s hs hlt => absurd (of_decide_eq_true hlt) (not_lt.mpr (hmore s hs))
  have h₃ : l₁.filter (fun s => decide (sample.1 ≤ s.1)) = [] :=
    List.filter_eq_nil_iff.mpr fun s hs hle => absurd (hearlier s hs) (not_lt.mpr (of_decide_eq_true hle))
  have h₄ : l₂.filter (fun s => decide (sample.1 ≤ s.1)) = l₂ :=
    List.filter_eq_self.mpr fun s hs => decide_eq_true (hmore s hs)
  rw [h₁, h₂, h₃, h₄, List.append_nil, List.nil_append]

/-- **Newer samples** are sorted behind older ones. -/
theorem sortSamples_append {older newer : List StatusSample} (h : ∀ s ∈ older, ∀ s' ∈ newer, s.1 ≤ s'.1) :
    sortSamples (older ++ newer) = sortSamples older ++ sortSamples newer := by
  induction older with
  | nil =>
    have hnil : sortSamples [] = [] := List.mergeSort_nil
    rw [hnil, List.nil_append, List.nil_append]
  | cons sample older ih =>
    have hrest := ih fun s hs => h s (List.mem_cons_of_mem _ hs)
    have hnewer : ∀ s ∈ sortSamples newer, sample.1 ≤ s.1 :=
      fun s hs => h sample List.mem_cons_self s (List.mem_mergeSort.mp hs)
    have hnone : (sortSamples newer).filter (fun s => decide (s.1 < sample.1)) = [] :=
      List.filter_eq_nil_iff.mpr fun s hs hlt => absurd (of_decide_eq_true hlt) (not_lt.mpr (hnewer s hs))
    have hall : (sortSamples newer).filter (fun s => decide (sample.1 ≤ s.1)) = sortSamples newer :=
      List.filter_eq_self.mpr fun s hs => decide_eq_true (hnewer s hs)
    rw [List.cons_append, sortSamples_cons, sortSamples_cons, hrest, List.filter_append, List.filter_append, hnone,
      hall, List.append_nil, List.append_assoc, List.cons_append]

theorem ordered_cleaningStatus (samples : List StatusSample) : Ordered (cleaningStatus samples) :=
  List.pairwise_map.mpr (sorted_sortSamples samples)

section Measure

variable {σ τ : Type*} {dayStart dayEnd : Instant}

def CleaningScan.map (h : σ → τ) (scan : CleaningScan σ) : CleaningScan τ := { scan with found := h scan.found }

section

variable {opened : σ → σ} {closed : σ → Instant → Instant → σ} {opened' : τ → τ} {closed' : τ → Instant → Instant → τ}
  {h : σ → τ}

theorem scanCleaning_map (hopened : ∀ x, h (opened x) = opened' (h x))
    (hclosed : ∀ x start stop, h (closed x start stop) = closed' (h x) start stop) (scan : CleaningScan σ)
    (samples : List StatusSample) : scanCleaning dayStart dayEnd opened' closed' (scan.map h) samples
      = (scanCleaning dayStart dayEnd opened closed scan samples).map h := by
  induction samples generalizing scan with
  | nil => rfl
  | cons sample samples ih =>
    rw [scanCleaning, scanCleaning]
    split_ifs
    · exact ih (scan.before dayStart sample.2)
    · rfl
    · rw [← ih]
      congr 1
      unfold CleaningScan.within CleaningScan.map
      dsimp only
      split
      · rw [hopened]
      · rw [hclosed]
      · rfl

/-- What is read of all that was found can be added up on the way. -/
theorem map_cleaningOfDay (hopened : ∀ x, h (opened x) = opened' (h x))
    (hclosed : ∀ x start stop, h (closed x start stop) = closed' (h x) start stop) (initial : σ)
    (samples : List StatusSample) : h (cleaningOfDay dayStart dayEnd opened closed initial samples)
      = cleaningOfDay dayStart dayEnd opened' closed' (h initial) samples := by
  have hscan : scanCleaning dayStart dayEnd opened' closed' (CleaningScan.map h { found := initial })
      (sortSamples samples) = _ := scanCleaning_map hopened hclosed { found := initial } (sortSamples samples)
  unfold cleaningOfDay
  cases (sortSamples samples).getLast? with
  | none => rfl
  | some last =>
    dsimp only
    rw [show ({ found := h initial } : CleaningScan τ) = CleaningScan.map h { found := initial } from rfl, hscan]
    unfold CleaningScan.ended CleaningScan.map
    dsimp only
    split
    · exact hclosed _ _ _
    · rfl

end

/-- What every segment keeps is kept by all of them. -/
theorem cleaningOfDay_keeps {opened : σ → σ} {closed : σ → Instant → Instant → σ} {initial : σ} {P : σ → Prop}
    (hinitial : P initial) (hopened : ∀ x, P x → P (opened x)) (hclosed : ∀ x start stop, P x → P (closed x start stop))
    (samples : List StatusSample) : P (cleaningOfDay dayStart dayEnd opened closed initial samples) := by
  have hscan : ∀ (rest : List StatusSample) (scan : CleaningScan σ), P scan.found →
      P (scanCleaning dayStart dayEnd opened closed scan rest).found := by
    intro rest
    induction rest with
    | nil => exact fun scan hscan => hscan
    | cons sample rest ih =>
      intro scan hscan
      rw [scanCleaning]
      split_ifs
      · exact ih (scan.before dayStart sample.2) hscan
      · exact hscan
      · refine ih _ ?_
        unfold CleaningScan.within
        split
        · exact hopened _ hscan
        · exact hclosed _ _ _ hscan
        · exact hscan
  have hfound := hscan (sortSamples samples) { found := initial } hinitial
  unfold cleaningOfDay
  cases (sortSamples samples).getLast? with
  | none => exact hinitial
  | some last =>
    dsimp only
    unfold CleaningScan.ended
    split
    · exact hclosed _ _ _ hfound
    · exact hfound

/-- Without a sample of the day, nothing is found but a segment that is still open from before. -/
theorem scanCleaning_outside {opened : σ → σ} (closed : σ → Instant → Instant → σ) (scan : CleaningScan σ)
    {samples : List StatusSample} (h : ∀ s ∈ samples, s.1 < dayStart ∨ dayEnd < s.1)
    (hscan : scan.inCleaning = true → scan.segmentStart = some dayStart) :
    (scanCleaning dayStart dayEnd opened closed scan samples).found = scan.found
      ∧ ((scanCleaning dayStart dayEnd opened closed scan samples).inCleaning = true →
        (scanCleaning dayStart dayEnd opened closed scan samples).segmentStart = some dayStart) := by
  induction samples generalizing scan with
  | nil => exact ⟨rfl, hscan⟩
  | cons sample samples ih =>
    rw [scanCleaning]
    split_ifs with hearly hlate
    · exact ih (scan.before dayStart sample.2) (fun s hs => h s (List.mem_cons_of_mem _ hs))
        fun hactive => if_pos hactive
    · exact ⟨rfl, hscan⟩
    · exact absurd (h sample List.mem_cons_self) (not_or.mpr ⟨hearly, hlate⟩)

variable {M : Type*} [AddCommMonoid M] {φ : Instant → Instant → M} {closed : M → Instant → Instant → M}

/-- Where the loop stands behind a sample, when so much is held until then. -/
inductive ScanCounts (dayStart : Instant) (φ : Instant → Instant → M) (scan : CleaningScan M) : Instant × Bool → M → Prop
  | idle {t : Instant} : scan.inCleaning = false → ScanCounts dayStart φ scan (t, false) scan.found
  | cleaning {t start : Instant} : scan.inCleaning = true → scan.segmentStart = some start → dayStart ≤ start →
      start ≤ max dayStart t → ScanCounts dayStart φ scan (t, true) (scan.found + φ start (max dayStart t))

variable {scan : CleaningScan M} {p : Instant × Bool} {sample : StatusSample} {total : M}

/-- A sample before the day. -/
theorem ScanCounts.before (hφ : IsAdditive φ) (h : ScanCounts dayStart φ scan p total) (hp : p.1 ≤ sample.1)
    (hsample : sample.1 < dayStart) :
    ScanCounts dayStart φ (scan.before dayStart sample.2) (sample.1, isCleaning sample.2) total := by
  have htotal : total = scan.found := by
    cases h with
    | idle => rfl
    | cleaning hin hstart hle hge =>
      rw [max_eq_left (hp.trans hsample.le)] at hge ⊢
      rw [le_antisymm hge hle, hφ.self, add_zero]
  rw [htotal]
  cases hactive : isCleaning sample.2 with
  | false => exact .idle hactive
  | true =>
    have hmax : max dayStart sample.1 = dayStart := max_eq_left hsample.le
    have hheld : scan.found = (scan.before dayStart sample.2).found + φ dayStart (max dayStart sample.1) := by
      rw [hmax, hφ.self, add_zero]
      rfl
    rw [hheld]
    refine .cleaning hactive ?_ le_rfl hmax.ge
    unfold CleaningScan.before
    exact if_pos hactive

/-- A sample of the day. -/
theorem ScanCounts.within (hφ : IsAdditive φ)
    (hclosed : ∀ x start stop, dayStart ≤ start → start ≤ stop → closed x start stop = x + φ start stop)
    (h : ScanCounts dayStart φ scan p total) (hp : p.1 ≤ sample.1) (hstart : dayStart ≤ sample.1)
    (hend : sample.1 ≤ dayEnd) : ScanCounts dayStart φ (scan.within id closed sample) (sample.1, isCleaning sample.2)
      (total + if p.2 = true then SampledStatus.within dayStart dayEnd φ p.1 sample.1 else 0) := by
  have hmax : max dayStart sample.1 = sample.1 := max_eq_right hstart
  have hsince : SampledStatus.within dayStart dayEnd φ p.1 sample.1 = φ (max dayStart p.1) sample.1 := by
    unfold SampledStatus.within
    rw [clamp_of_mem hstart hend]
    unfold clamp
    rw [min_eq_right (hp.trans hend)]
  rw [hsince]
  unfold CleaningScan.within
  cases h with
  | idle hin =>
    rw [hin, if_neg Bool.false_ne_true, add_zero]
    cases isCleaning sample.2 with
    | false => exact .idle hin
    | true =>
      have hcounts : ScanCounts dayStart φ ⟨scan.found, true, some sample.1⟩ (sample.1, true)
          (scan.found + φ sample.1 (max dayStart sample.1)) := .cleaning rfl rfl hstart hmax.ge
      rw [hmax, hφ.self, add_zero] at hcounts
      exact hcounts
  | cleaning hin hsegment hle hge =>
    have hsplit := hφ.split hge (max_le hstart hp)
    rw [hin, hsegment, if_pos rfl, add_assoc, ← hsplit]
    cases isCleaning sample.2 with
    | false =>
      dsimp only
      rw [← hclosed scan.found _ _ hle (hge.trans (max_le hstart hp))]
      exact .idle rfl
    | true =>
      have hcounts : ScanCounts dayStart φ scan (sample.1, true) (scan.found + φ _ (max dayStart sample.1)) :=
        .cleaning hin hsegment hle (hge.trans (max_le_max_left dayStart hp))
      rw [hmax] at hcounts
      exact hcounts

/-- The loop stops at a sample after the day. -/
theorem ScanCounts.ended_late (hφ : IsAdditive φ)
    (hclosed : ∀ x start stop, dayStart ≤ start → start ≤ stop → closed x start stop = x + φ start stop)
    (hday : dayStart ≤ dayEnd) (h : ScanCounts dayStart φ scan p total) (hp : p.1 ≤ dayEnd) (hlate : dayEnd < sample.1)
    {last : Instant} (hlast : dayEnd ≤ last) {rest : List StatusSample}
    (hsorted : (sample :: rest).Pairwise fun s s' => s.1 ≤ s'.1) : scan.ended dayEnd closed last
      = total + ((if p.2 = true then SampledStatus.within dayStart dayEnd φ p.1 sample.1 else 0)
        + held (SampledStatus.within dayStart dayEnd φ) ((sample :: rest).map fun s => (s.1, isCleaning s.2))) := by
  have hnothing : held (SampledStatus.within dayStart dayEnd φ)
      ((sample :: rest).map fun s => (s.1, isCleaning s.2)) = 0 := by
    refine held_within_eq_zero hφ (c := max dayStart dayEnd) fun s hs => ?_
    obtain ⟨s', hs', rfl⟩ := List.mem_map.mp hs
    refine clamp_of_ge ?_
    rcases List.mem_cons.mp hs' with rfl | hmem
    · exact hlate.le
    · exact hlate.le.trans ((List.pairwise_cons.mp hsorted).1 s' hmem)
  have hsince : SampledStatus.within dayStart dayEnd φ p.1 sample.1 = φ (max dayStart p.1) dayEnd := by
    unfold SampledStatus.within
    rw [clamp_of_ge hlate.le, max_eq_right hday]
    unfold clamp
    rw [min_eq_right hp]
  rw [hnothing, hsince, add_zero]
  unfold CleaningScan.ended
  cases h with
  | idle hin => rw [hin, if_neg Bool.false_ne_true, add_zero]
  | cleaning hin hsegment hle hge =>
    have hsplit := hφ.split hge (max_le hday hp)
    rw [hin, hsegment, if_pos rfl, add_assoc, ← hsplit, min_eq_left hlast]
    exact hclosed _ _ _ hle (hge.trans (max_le hday hp))

/-- **The loop** adds up what is held, from a sample of the day or before it up to the last. -/
theorem ScanCounts.ended (hφ : IsAdditive φ)
    (hclosed : ∀ x start stop, dayStart ≤ start → start ≤ stop → closed x start stop = x + φ start stop)
    (hday : dayStart ≤ dayEnd) {rest : List StatusSample} (h : ScanCounts dayStart φ scan p total) (hp : p.1 ≤ dayEnd)
    (hbefore : ∀ s ∈ rest, p.1 ≤ s.1) (hsorted : rest.Pairwise fun s s' => s.1 ≤ s'.1) {last : Instant}
    (hlast : (rest.map Prod.fst).getLast?.getD p.1 = last) (hstart : dayStart ≤ last) :
    (scanCleaning dayStart dayEnd id closed scan rest).ended dayEnd closed last
      = total + held (SampledStatus.within dayStart dayEnd φ) (p :: rest.map fun s => (s.1, isCleaning s.2)) := by
  induction rest generalizing scan p total with
  | nil =>
    obtain rfl : p.1 = last := hlast
    rw [List.map_nil, held_singleton, add_zero, scanCleaning]
    unfold CleaningScan.ended
    cases h with
    | idle hin => rw [hin]
    | cleaning hin hsegment hle hge =>
      rw [max_eq_right hstart] at hge ⊢
      rw [hin, hsegment, min_eq_right hp]
      exact hclosed _ _ _ hle hge
  | cons sample rest ih =>
    obtain ⟨hfirst, hrest⟩ := List.pairwise_cons.mp hsorted
    have hps := hbefore sample List.mem_cons_self
    have hlast' : (rest.map Prod.fst).getLast?.getD sample.1 = last := by
      rw [List.map_cons, List.getLast?_cons, Option.getD_some] at hlast
      exact hlast
    rw [List.map_cons, held_cons_cons, scanCleaning]
    by_cases hearly : sample.1 < dayStart
    · have hnothing : SampledStatus.within dayStart dayEnd φ p.1 sample.1 = 0 :=
        within_eq_zero hφ ((clamp_of_le (hps.trans hearly.le)).trans (clamp_of_le hearly.le).symm)
      rw [if_pos hearly, hnothing, ite_self, zero_add]
      exact ih (h.before hφ hps hearly) (hearly.le.trans hday) hfirst hrest hlast'
    · by_cases hlate : sample.1 > dayEnd
      · rw [if_neg hearly, if_pos hlate]
        have hend : dayEnd ≤ last := by
          rw [← hlast']
          cases hrest' : (rest.map Prod.fst).getLast? with
          | none => exact hlate.le
          | some t =>
            obtain ⟨s, hs, rfl⟩ := List.mem_map.mp (List.mem_of_getLast? hrest')
            exact hlate.le.trans (hfirst s hs)
        exact h.ended_late hφ hclosed hday hp hlate hend (List.pairwise_cons.mpr ⟨hfirst, hrest⟩)
      · rw [if_neg hearly, if_neg hlate, ← add_assoc]
        have hstart' := not_lt.mp hearly
        have hend' := not_lt.mp hlate
        exact ih (h.within hφ hclosed hps hstart' hend') hend' hfirst hrest hlast'

theorem le_last {samples : List StatusSample} (hsorted : samples.Pairwise fun s s' => s.1 ≤ s'.1) {s last : StatusSample}
    (hlast : samples.getLast? = some last) (hs : s ∈ samples) : s.1 ≤ last.1 := by
  obtain ⟨before, rfl⟩ := List.getLast?_eq_some_iff.mp hlast
  rcases List.mem_append.mp hs with hs | hs
  · exact (List.pairwise_append.mp hsorted).2.2 s hs last List.mem_cons_self
  · rw [List.mem_singleton.mp hs]

/-- **What a day comes to** is what is held within it while cleaning, unless there is no sample of the day, and the
segment that is still open would end before the day. -/
theorem measure_cleaningOfDay (dayEnd : Instant) (hφ : IsAdditive φ)
    (hclosed : ∀ x start stop, dayStart ≤ start → start ≤ stop → closed x start stop = x + φ start stop)
    (samples : List StatusSample) : cleaningOfDay dayStart dayEnd id closed 0 samples
        = held (SampledStatus.within dayStart dayEnd φ) (cleaningStatus samples)
      ∨ ∃ stop < dayStart, cleaningOfDay dayStart dayEnd id closed 0 samples = closed 0 dayStart stop
        ∧ held (SampledStatus.within dayStart dayEnd φ) (cleaningStatus samples) = 0 := by
  have hsorted := sorted_sortSamples samples
  unfold cleaningOfDay cleaningStatus
  generalize sortSamples samples = sorted at hsorted ⊢
  cases hlast : sorted.getLast? with
  | none =>
    rw [List.getLast?_eq_none_iff.mp hlast]
    exact .inl rfl
  | some last =>
    dsimp only
    by_cases hday : dayStart ≤ dayEnd ∧ dayStart ≤ last.1
    · left
      cases sorted with
      | nil => cases hlast
      | cons first rest =>
        have hfirst : ∀ s ∈ first :: rest, min first.1 dayEnd ≤ s.1 := by
          intro s hs
          refine (min_le_left _ _).trans ?_
          rcases List.mem_cons.mp hs with rfl | hs
          · exact le_rfl
          · exact (List.pairwise_cons.mp hsorted).1 s hs
        have hidle : ScanCounts dayStart φ ({ found := 0 } : CleaningScan M) (min first.1 dayEnd, false) 0 := .idle rfl
        have hlastTime : ((first :: rest).map Prod.fst).getLast?.getD (min first.1 dayEnd) = last.1 := by
          rw [List.getLast?_map, hlast]
          rfl
        rw [hidle.ended hφ hclosed hday.1 (min_le_right _ _) hfirst hsorted hlastTime hday.2, List.map_cons,
          held_cons_cons, if_neg Bool.false_ne_true, zero_add, zero_add]
    · have hclamp : ∀ s ∈ sorted, clamp dayStart dayEnd s.1 = dayStart ∧ (s.1 < dayStart ∨ dayEnd < s.1) := by
        intro s hs
        rcases not_and_or.mp hday with hend | hstart
        · refine ⟨max_eq_left ((min_le_left _ _).trans (not_le.mp hend).le), ?_⟩
          rcases lt_or_ge s.1 dayStart with hlt | hge
          · exact .inl hlt
          · exact .inr ((not_le.mp hend).trans_le hge)
        · have hbefore := (le_last hsorted hlast hs).trans_lt (not_le.mp hstart)
          exact ⟨clamp_of_le hbefore.le, .inl hbefore⟩
      have hnothing : held (SampledStatus.within dayStart dayEnd φ) (sorted.map fun s => (s.1, isCleaning s.2)) = 0 := by
        refine held_within_eq_zero hφ (c := dayStart) fun s hs => ?_
        obtain ⟨s', hs', rfl⟩ := List.mem_map.mp hs
        exact (hclamp s' hs').1
      obtain ⟨hfound, hopen⟩ := scanCleaning_outside closed { found := 0 }
        (fun s hs => (hclamp s hs).2) fun hactive => Bool.noConfusion hactive
      unfold CleaningScan.ended
      split
      · rename_i start hin hstart
        rw [hopen hin] at hstart
        cases hstart
        refine .inr ⟨min dayEnd last.1, ?_, by rw [hfound], hnothing⟩
        rcases not_and_or.mp hday with hend | hstart
        · exact (min_le_left _ _).trans_lt (not_le.mp hend)
        · exact (min_le_right _ _).trans_lt (not_le.mp hstart)
      · exact .inl (hfound.trans hnothing.symm)

end Measure

/-! ### Hours and segments -/

/-- The seconds of a day are the time within the day while cleaning, or nothing. -/
theorem computeCleaningHoursToday_eq (samples : List StatusSample) (dayStart dayEnd : Instant) :
    (computeCleaningHoursToday samples dayStart dayEnd).1
      = held (SampledStatus.within dayStart dayEnd length) (cleaningStatus samples) / 3600 := by
  have htotal : (cleaningOfDay dayStart dayEnd (fun x : ℚ × ℕ => (x.1, x.2 + 1))
        (fun x start stop => (x.1 + (stop - max start dayStart), x.2)) (0, 0) samples).1
      = cleaningOfDay dayStart dayEnd id (fun total start stop => total + (stop - max start dayStart)) 0 samples :=
    map_cleaningOfDay (h := Prod.fst) (fun _ => rfl) (fun _ _ _ => rfl) (0, 0) samples
  have hhours : (computeCleaningHoursToday samples dayStart dayEnd).1 = max 0 (cleaningOfDay dayStart dayEnd id
          (fun total start stop => total + (stop - max start dayStart)) 0 samples / 3600) := by
    rw [← htotal]
    rfl
  have hnonneg : 0 ≤ held (SampledStatus.within dayStart dayEnd length) (cleaningStatus samples) :=
    held_nonneg within_length_nonneg (ordered_cleaningStatus samples)
  rw [hhours]
  have hclosed : ∀ x start stop, dayStart ≤ start → start ≤ stop →
      x + (stop - max start dayStart) = x + length start stop := by
    intro x start stop hstart _
    rw [max_eq_left hstart]
    rfl
  rcases measure_cleaningOfDay dayEnd isAdditive_length hclosed samples with heq | ⟨stop, hstop, heq, hnone⟩
  · rw [heq]
    exact max_eq_right (div_nonneg hnonneg (by norm_num))
  · rw [heq, hnone, max_self, zero_div]
    refine max_eq_left (div_nonpos_of_nonpos_of_nonneg ?_ (by norm_num))
    linarith

/-- A segment has so many minutes, and some. -/
theorem minutes_of_mem_cleaningSegments {samples : List StatusSample} {dayStart dayEnd : Instant}
    {segment : CleaningSegment} (h : segment ∈ cleaningSegments samples dayStart dayEnd) :
    segment.start < segment.stop ∧ segment.minutes = (segment.stop - segment.start) / 60 := by
  refine cleaningOfDay_keeps (P := fun segments : List CleaningSegment => ∀ segment ∈ segments,
    segment.start < segment.stop ∧ segment.minutes = (segment.stop - segment.start) / 60)
    (fun segment hsegment => absurd hsegment List.not_mem_nil) (fun _ hsegments => hsegments) ?_ samples segment h
  intro segments start stop hsegments segment hsegment
  dsimp only at hsegment
  split_ifs at hsegment with hminutes
  · rcases List.mem_append.mp hsegment with hmem | hmem
    · exact hsegments segment hmem
    · obtain rfl := List.mem_singleton.mp hmem
      have hpos : 0 < (stop - max start dayStart) / 60 := (lt_max_iff.mp hminutes).resolve_left (lt_irrefl 0)
      refine ⟨?_, max_eq_right hpos.le⟩
      have hsub := (div_pos_iff_of_pos_right (by norm_num : (0 : ℚ) < 60)).mp hpos
      exact sub_pos.mp hsub
  · exact hsegments segment hsegment

/-- **The segments** hold together what is held within the day while cleaning. -/
theorem sum_cleaningSegments {M : Type*} [AddCommMonoid M] {φ : Instant → Instant → M} (hφ : IsAdditive φ)
    (samples : List StatusSample) (dayStart dayEnd : Instant) :
    ((cleaningSegments samples dayStart dayEnd).map fun segment => φ segment.start segment.stop).sum
      = held (SampledStatus.within dayStart dayEnd φ) (cleaningStatus samples) := by
  have hadds : ∀ (segments : List CleaningSegment) (start stop : Instant),
      ((if max 0 ((stop - max start dayStart) / 60) > 0 then
          segments ++ [CleaningSegment.mk (max start dayStart) stop (max 0 ((stop - max start dayStart) / 60))]
        else segments).map fun segment => φ segment.start segment.stop).sum
      = if max 0 ((stop - max start dayStart) / 60) > 0 then
          (segments.map fun segment => φ segment.start segment.stop).sum + φ (max start dayStart) stop
        else (segments.map fun segment => φ segment.start segment.stop).sum := by
    intro segments start stop
    split_ifs
    · rw [List.map_append, List.sum_append, List.map_singleton, List.sum_singleton]
    · rfl
  have hsum : ((cleaningSegments samples dayStart dayEnd).map fun segment => φ segment.start segment.stop).sum
      = cleaningOfDay dayStart dayEnd id (fun total start stop =>
        if max 0 ((stop - max start dayStart) / 60) > 0 then total + φ (max start dayStart) stop else total) 0
        samples :=
    map_cleaningOfDay (h := fun segments : List CleaningSegment =>
      (segments.map fun segment => φ segment.start segment.stop).sum) (fun _ => rfl) hadds [] samples
  have hlength : ∀ start stop : Instant, max 0 ((stop - start) / 60) > 0 ↔ start < stop := by
    intro start stop
    rw [gt_iff_lt, lt_max_iff, or_iff_right (lt_irrefl 0), div_pos_iff_of_pos_right (by norm_num), sub_pos]
  refine hsum.trans ?_
  have hclosed : ∀ x start stop, dayStart ≤ start → start ≤ stop →
      (if max 0 ((stop - max start dayStart) / 60) > 0 then x + φ (max start dayStart) stop else x)
        = x + φ start stop := by
    intro x start stop hstart hstop
    rw [max_eq_left hstart]
    split_ifs with hpos
    · rfl
    · rw [hlength, not_lt] at hpos
      rw [le_antisymm hstop hpos, hφ.self, add_zero]
  rcases measure_cleaningOfDay dayEnd hφ hclosed samples with heq | ⟨stop, hstop, heq, hnone⟩
  · exact heq
  · refine heq.trans ?_
    rw [hnone, max_self, if_neg ((hlength dayStart stop).not.mpr (not_lt.mpr hstop.le))]

/-- The minutes of the segments are the time within the day while cleaning. -/
theorem sum_minutes (samples : List StatusSample) (dayStart dayEnd : Instant) :
    ((cleaningSegments samples dayStart dayEnd).map CleaningSegment.minutes).sum
      = held (SampledStatus.within dayStart dayEnd length) (cleaningStatus samples) / 60 := by
  have hminutes : (cleaningSegments samples dayStart dayEnd).map CleaningSegment.minutes
      = (cleaningSegments samples dayStart dayEnd).map
        fun segment => length segment.start segment.stop * (1 / 60) := by
    refine List.map_congr_left fun segment hsegment => ?_
    rw [(minutes_of_mem_cleaningSegments hsegment).2, length, mul_one_div]
  rw [hminutes, List.sum_map_mul_right, sum_cleaningSegments isAdditive_length, mul_one_div]

/-! ### Adjacent days and repeated samples -/

/-- A sample was added that follows a sample of its own status in time. -/
def RepeatsStatus (samples samples' : List StatusSample) (before : List StatusSample) (preceding repeated : StatusSample)
    (after : List StatusSample) : Prop :=
  sortSamples samples = before ++ preceding :: after
    ∧ sortSamples samples' = before ++ preceding :: repeated :: after ∧ repeated.2 = preceding.2

/-- What a repeated sample adds: nothing, unless it comes after all others. -/
theorem held_repeatsStatus {φ : Instant → Instant → ℚ} (hφ : IsAdditive φ)
    {samples samples' before after : List StatusSample} {preceding repeated : StatusSample}
    (h : RepeatsStatus samples samples' before preceding repeated after) : held φ (cleaningStatus samples')
      = held φ (cleaningStatus samples)
        + if after = [] ∧ isCleaning preceding.2 = true then φ preceding.1 repeated.1 else 0 := by
  obtain ⟨hsorted, hsorted', hstatus⟩ := h
  have hpairs := sorted_sortSamples samples'
  unfold cleaningStatus
  rw [hsorted'] at hpairs
  rw [hsorted, hsorted', List.map_append, List.map_append, List.map_cons, List.map_cons, List.map_cons]
  cases after with
  | nil =>
    rw [List.map_nil, held_concat]
    simp only [true_and]
  | cons next after =>
    rw [if_neg (fun hnil => absurd hnil.1 (List.cons_ne_nil _ _)), add_zero, List.map_cons]
    obtain ⟨hpreceding, hrest⟩ := List.pairwise_cons.mp (List.pairwise_append.mp hpairs).2.1
    refine held_repeat hφ ?_ (hpreceding repeated List.mem_cons_self) ?_
    · rw [hstatus]
    · exact (List.pairwise_cons.mp hrest).1 next List.mem_cons_self

/-- **Cleaning time is additive.** The hours of two adjacent days are those of both together; a sample that repeats the
status before it changes them only if it comes after all others, by what it shows of the day to be cleaned; and they are
the minutes of the segments. -/
theorem cleaningHours_additive (samples : List StatusSample) {a b c : Instant} (hab : a ≤ b) (hbc : b ≤ c) :
    (computeCleaningHoursToday samples a c).1
        = (computeCleaningHoursToday samples a b).1 + (computeCleaningHoursToday samples b c).1
      ∧ (∀ samples' before preceding repeated after, RepeatsStatus samples samples' before preceding repeated after →
        (computeCleaningHoursToday samples' a c).1 = (computeCleaningHoursToday samples a c).1
            + if after = [] ∧ isCleaning preceding.2 = true then
                (clamp a c repeated.1 - clamp a c preceding.1) / 3600 else 0)
      ∧ (computeCleaningHoursToday samples a c).1 * 60
        = ((cleaningSegments samples a c).map CleaningSegment.minutes).sum
      ∧ (computeCleaningHoursToday samples a c).1 * 3600
        = ((cleaningSegments samples a c).map fun segment => segment.stop - segment.start).sum := by
  have hsegments := sum_cleaningSegments isAdditive_length samples a c
  refine ⟨?_, fun samples' before preceding repeated after hrepeats => ?_, ?_, ?_⟩
  · have hwithin : SampledStatus.within a c length
        = fun s t => SampledStatus.within a b length s t + SampledStatus.within b c length s t :=
      funext fun s => funext fun t => (within_length_add hab hbc s t).symm
    simp only [computeCleaningHoursToday_eq]
    rw [← add_div, held_add, hwithin]
  · simp only [computeCleaningHoursToday_eq]
    rw [held_repeatsStatus isAdditive_length.within hrepeats, add_div]
    split_ifs
    · rfl
    · rw [zero_div]
  · rw [sum_minutes, computeCleaningHoursToday_eq]
    ring
  · rw [computeCleaningHoursToday_eq, ← hsegments]
    exact div_mul_cancel₀ _ (by norm_num)

namespace CleaningHoursDemo

/-- One sample at midnight. -/
def once : List StatusSample := [(0, some "Filtering")]

/-- And the same status an hour later. -/
def twice : List StatusSample := [(0, some "Filtering"), (3600, some "Filtering")]

theorem cleaningHours_additive_noon : (0 : ℚ) ≤ 43200 ∧ (43200 : ℚ) ≤ 86400 ∧
    ((computeCleaningHoursToday twice 0 86400).1
        = (computeCleaningHoursToday twice 0 43200).1 + (computeCleaningHoursToday twice 43200 86400).1) :=
  ⟨by norm_num, by norm_num, (cleaningHours_additive twice (by norm_num) (by norm_num)).1⟩

/-- **A repeated sample counts.** The first sample shows no cleaning, the second an hour. -/
theorem repeated_sample_counts : RepeatsStatus once twice [] (0, some "Filtering") (3600, some "Filtering") []
      ∧ (computeCleaningHoursToday once 0 86400).1 = 0 ∧ (computeCleaningHoursToday twice 0 86400).1 = 1 := by
  have honce : sortSamples once = once := List.mergeSort_of_pairwise (by decide +kernel)
  have htwice : sortSamples twice = twice := List.mergeSort_of_pairwise (by decide +kernel)
  refine ⟨⟨honce, htwice, rfl⟩, ?_, ?_⟩
  · unfold computeCleaningHoursToday cleaningOfDay
    rw [honce]
    decide +kernel
  · unfold computeCleaningHoursToday cleaningOfDay
    rw [htwice]
    decide +kernel

end CleaningHoursDemo

end EnergyCore.SpaEnergy
