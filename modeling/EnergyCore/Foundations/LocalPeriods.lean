import EnergyCore.Foundations.LocalTimes
import Mathlib

/-!
# Periods of local time

Hours, days, months and years follow each other on the clock of a place. The period of an instant is resolved to the
instants between which it lies, with the `fold` of the instant.

* `Periods.le_index_iff` — the periods from one on;
* `Periods.Clean` — what the changes of a zone do to the periods;
* `Periods.tiles_iff_clean` — exactly then the periods tile the time line.
-/

namespace EnergyCore.TimeZones

/-! ### Periods -/

/-- Periods that follow each other on a clock. -/
structure Periods where
  start : ℤ → WallTime
  index : WallTime → ℤ
  start_lt_succ : ∀ n, start n < start (n + 1)
  start_index_le : ∀ w, start (index w) ≤ w
  lt_start_succ : ∀ w, w < start (index w + 1)

namespace Periods

variable {P : Periods}

theorem start_strictMono (P : Periods) : StrictMono P.start := strictMono_int_of_lt_succ P.start_lt_succ

theorem le_index_iff {n : ℤ} {w : WallTime} : n ≤ P.index w ↔ P.start n ≤ w := by
  constructor
  · exact fun h => (P.start_strictMono.monotone h).trans (P.start_index_le w)
  · exact fun h => Int.lt_add_one_iff.mp (P.start_strictMono.lt_iff_lt.mp (h.trans_lt (P.lt_start_succ w)))

theorem index_eq_iff {n : ℤ} {w : WallTime} : P.index w = n ↔ P.start n ≤ w ∧ w < P.start (n + 1) := by
  rw [← le_index_iff, ← not_le, ← le_index_iff]
  omega

/-- The last period that begins before a wall time. -/
theorem exists_start_lt (P : Periods) (w : WallTime) : ∃ n, P.start n < w ∧ w ≤ P.start (n + 1) := by
  rcases (P.start_index_le w).lt_or_eq with h | h
  · exact ⟨P.index w, h, (P.lt_start_succ w).le⟩
  · refine ⟨P.index w - 1, ?_, ?_⟩
    · calc P.start (P.index w - 1) < P.start (P.index w - 1 + 1) := P.start_lt_succ _
        _ = w := by rw [sub_add_cancel, h]
    · rw [sub_add_cancel, h]

/-- A period begins at a wall time. -/
def IsStart (P : Periods) (w : WallTime) : Prop := ∃ n, P.start n = w

theorem isStart_iff {w : WallTime} : P.IsStart w ↔ P.start (P.index w) = w := by
  constructor
  · rintro ⟨n, rfl⟩
    rw [index_eq_iff.mpr ⟨le_rfl, P.start_lt_succ n⟩]
  · exact fun h => ⟨_, h⟩

instance (w : WallTime) : Decidable (P.IsStart w) := decidable_of_iff _ isStart_iff.symm

/-- A period begins between two wall times. -/
def StartsBetween (P : Periods) (a b : WallTime) : Prop := ∃ n, a < P.start n ∧ P.start n < b

theorem startsBetween_iff {a b : WallTime} : P.StartsBetween a b ↔ P.start (P.index a + 1) < b := by
  constructor
  · rintro ⟨n, ha, hb⟩
    refine lt_of_le_of_lt (P.start_strictMono.monotone ?_) hb
    by_contra hlt
    exact absurd (le_index_iff.mp (show n ≤ P.index a by omega)) (not_le.mpr ha)
  · exact fun h => ⟨_, P.lt_start_succ a, h⟩

instance (a b : WallTime) : Decidable (P.StartsBetween a b) := decidable_of_iff _ startsBetween_iff.symm

/-! ### Bounds -/

/-- The instants between which the period of an instant lies: both are resolved with its `fold`, the end only if it is
kept. -/
def bounds (P : Periods) (keepsFold : Bool) (zone : TimeZone) (t : Instant) : Instant × Instant :=
  let l := zone.astimezone t
  (zone.resolve { wall := P.start (P.index l.wall), fold := l.fold },
    zone.resolve { wall := P.start (P.index l.wall + 1), fold := keepsFold && l.fold })

/-- The instants between two bounds, the second one excluded. -/
abbrev span (b : Instant × Instant) : Set Instant := Set.Ico b.1 b.2

/-- Every instant lies within its bounds, and bounds that meet are the same. -/
structure Tiles (bounds : Instant → Instant × Instant) : Prop where
  mem : ∀ t, t ∈ span (bounds t)
  eq_or_disjoint : ∀ t u, bounds t = bounds u ∨ Disjoint (span (bounds t)) (span (bounds u))

theorem Tiles.eq_of_mem {bounds : Instant → Instant × Instant} (h : Tiles bounds) {t u : Instant}
    (hu : u ∈ span (bounds t)) : bounds t = bounds u := by
  rcases h.eq_or_disjoint t u with heq | hdisjoint
  · exact heq
  · exact absurd (h.mem u) (Set.disjoint_left.mp hdisjoint hu)

/-- Instants whose periods begin together have the same bounds. -/
theorem Tiles.eq_iff_start_eq {bounds : Instant → Instant × Instant} (h : Tiles bounds) {t u : Instant} :
    (bounds t).1 = (bounds u).1 ↔ bounds t = bounds u := by
  constructor
  · intro hstart
    have hle := (h.mem t).1.trans_lt (h.mem t).2
    have hle' := (h.mem u).1.trans_lt (h.mem u).2
    have hmem : (bounds t).1 ∈ span (bounds u) := ⟨hstart.ge, hstart ▸ hle'⟩
    exact (h.eq_of_mem ⟨le_rfl, hle⟩).trans (h.eq_of_mem hmem).symm
  · exact fun heq => congrArg Prod.fst heq

/-- **What the changes do to the periods.** No period begins while wall times are shown again; one that begins between
wall times that are jumped over is jumped over as a whole; and a period with wall times that are shown twice does not
begin where the clock jumps, nor end there if the `fold` is kept. -/
structure Clean (P : Periods) (keepsFold : Bool) (zone : TimeZone) : Prop where
  not_again : ∀ c ∈ zone.changes,
    ¬ (c.after < c.before ∧ P.IsStart (c.instant + c.after)) ∧
      ¬ P.StartsBetween (c.instant + c.after) (c.instant + c.before)
  jumped : ∀ c ∈ zone.changes, P.StartsBetween (c.instant + c.before) (c.instant + c.after) →
    P.IsStart (c.instant + c.before) ∧ P.IsStart (c.instant + c.after)
  begin_ne : ∀ c ∈ zone.changes, ∀ c' ∈ zone.changes, c.before < c.after → c'.after < c'.before →
    P.start (P.index (c'.instant + c'.after)) ≠ c.instant + c.before
  end_ne : ∀ c ∈ zone.changes, ∀ c' ∈ zone.changes, c.before < c.after → c'.after < c'.before →
    keepsFold = true → P.start (P.index (c'.instant + c'.after) + 1) ≠ c.instant + c.before

instance (keepsFold : Bool) (zone : TimeZone) : Decidable (P.Clean keepsFold zone) :=
  decidable_of_iff
    ((∀ c ∈ zone.changes,
      ¬ (c.after < c.before ∧ P.IsStart (c.instant + c.after)) ∧
        ¬ P.StartsBetween (c.instant + c.after) (c.instant + c.before)) ∧
    (∀ c ∈ zone.changes, P.StartsBetween (c.instant + c.before) (c.instant + c.after) →
      P.IsStart (c.instant + c.before) ∧ P.IsStart (c.instant + c.after)) ∧
    (∀ c ∈ zone.changes, ∀ c' ∈ zone.changes, c.before < c.after → c'.after < c'.before →
      P.start (P.index (c'.instant + c'.after)) ≠ c.instant + c.before) ∧
    ∀ c ∈ zone.changes, ∀ c' ∈ zone.changes, c.before < c.after → c'.after < c'.before →
      keepsFold = true → P.start (P.index (c'.instant + c'.after) + 1) ≠ c.instant + c.before)
    ⟨fun ⟨hagain, hjumped, hbegin, hend⟩ => ⟨hagain, hjumped, hbegin, hend⟩,
      fun h => ⟨h.not_again, h.jumped, h.begin_ne, h.end_ne⟩⟩

/-! ### Clean periods tile the time line -/

section

variable {keepsFold : Bool} {zone : TimeZone}

namespace Clean

theorem before_le_start (h : P.Clean keepsFold zone) {c : Change} (hc : c ∈ zone.changes) {n : ℤ}
    (hn : c.instant + c.after ≤ P.start n) : c.instant + c.before ≤ P.start n := by
  obtain ⟨hstart, hbetween⟩ := h.not_again c hc
  by_contra hlt
  rcases hn.lt_or_eq with hlt' | heq
  · exact hbetween ⟨n, hlt', not_le.mp hlt⟩
  · exact hstart ⟨by linarith, n, heq.symm⟩

/-- The wall times that a change shows again lie in one period. -/
theorem index_eq (h : P.Clean keepsFold zone) {c : Change} (hc : c ∈ zone.changes) {w : WallTime}
    (hfirst : c.instant + c.after ≤ w) (hlast : w < c.instant + c.before) :
    P.index (c.instant + c.after) = P.index w := by
  refine index_eq_iff.mpr ⟨?_, ?_⟩
  · by_contra hlt
    have hle := h.before_le_start hc (not_le.mp hlt).le
    exact absurd (hlast.trans_le hle) (not_lt.mpr (P.start_index_le w))
  · exact hfirst.trans_lt (P.lt_start_succ w)

variable (hsep : zone.Separated) (h : P.Clean keepsFold zone) {c : Change} (hc : c ∈ zone.changes) (t : Instant)

include hsep h hc

/-- The period of an instant does not begin between wall times that are jumped over. -/
theorem start_not_jumped :
    P.start (P.index (zone.wall t)) ≤ c.instant + c.before ∨ c.instant + c.after ≤ P.start (P.index (zone.wall t)) := by
  by_contra hnot
  rw [not_or, not_le, not_le] at hnot
  obtain ⟨-, m, hm⟩ := h.jumped c hc ⟨_, hnot.1, hnot.2⟩
  -- the period is over before the clock has jumped
  have hover : P.start (P.index (zone.wall t) + 1) ≤ c.instant + c.after := by
    rw [← hm]
    refine P.start_strictMono.monotone (Int.add_one_le_iff.mpr (P.start_strictMono.lt_iff_lt.mp ?_))
    rw [hm]
    exact hnot.2
  have hstart := P.start_index_le (zone.wall t)
  have hend := P.lt_start_succ (zone.wall t)
  rcases zone.not_mem_jump hsep hc t with hwall | hwall
  · exact absurd (hstart.trans_lt hwall) (not_lt.mpr hnot.1.le)
  · exact absurd (hend.trans_le hover) (not_lt.mpr hwall)

/-- The period of an instant does not end between wall times that are jumped over. -/
theorem end_not_jumped : P.start (P.index (zone.wall t) + 1) ≤ c.instant + c.before ∨
      c.instant + c.after ≤ P.start (P.index (zone.wall t) + 1) := by
  by_contra hnot
  rw [not_or, not_le, not_le] at hnot
  obtain ⟨⟨m, hm⟩, -⟩ := h.jumped c hc ⟨_, hnot.1, hnot.2⟩
  -- the period has not begun before the clock jumps
  have hbegun : c.instant + c.before ≤ P.start (P.index (zone.wall t)) := by
    rw [← hm]
    refine P.start_strictMono.monotone (Int.lt_add_one_iff.mp (P.start_strictMono.lt_iff_lt.mp ?_))
    rw [hm]
    exact hnot.1
  have hstart := P.start_index_le (zone.wall t)
  have hend := P.lt_start_succ (zone.wall t)
  rcases zone.not_mem_jump hsep hc t with hwall | hwall
  · exact absurd (hbegun.trans hstart) (not_le.mpr hwall)
  · exact absurd (hwall.trans_lt hend) (not_lt.mpr hnot.2.le)

end Clean

/-- A wall time outside of what the changes jump over or show again. -/
def Apart (zone : TimeZone) (w : WallTime) : Prop := ∀ c ∈ zone.changes,
  (c.instant + c.after ≤ w → c.instant + c.before ≤ w) ∧ (w ≤ c.instant + c.before ∨ c.instant + c.after ≤ w)

theorem Apart.unbroken {w : WallTime} (h : Apart zone w) : zone.Unbroken w := by
  refine TimeZone.unbroken_iff.mpr fun c hc => ?_
  obtain ⟨hagain, hjumped⟩ := h c hc
  rcases lt_or_ge c.before c.after with hforward | hback
  · rw [Change.first_eq_before hforward.le, Change.last_eq_after hforward.le]
    exact hjumped
  · rw [Change.first_eq_after hback, Change.last_eq_before hback]
    rcases le_total w (c.instant + c.after) with hw | hw
    · exact .inl hw
    · exact .inr (hagain hw)

/-- Unless the clock jumps there, the `fold` makes no difference. -/
theorem Apart.resolve_eq_toUtc {w : WallTime} (h : Apart zone w) {fold : Bool}
    (hne : fold = true → ∀ c ∈ zone.changes, c.before < c.after → w ≠ c.instant + c.before) :
    zone.resolve { wall := w, fold := fold } = zone.toUtc w := by
  cases fold with
  | false => rfl
  | true =>
    refine TimeZone.resolve_eq_toUtc fun c hc => ?_
    obtain ⟨hagain, hjumped⟩ := h c hc
    show w < c.first ∨ c.last ≤ w
    rcases lt_or_ge c.before c.after with hforward | hback
    · rw [Change.first_eq_before hforward.le, Change.last_eq_after hforward.le]
      exact hjumped.imp_left fun hle => hle.lt_of_ne (hne rfl c hc hforward)
    · rw [Change.first_eq_after hback, Change.last_eq_before hback]
      rcases lt_or_ge w (c.instant + c.after) with hw | hw
      · exact .inl hw
      · exact .inr (hagain hw)

namespace Clean

variable (hsep : zone.Separated) (h : P.Clean keepsFold zone)

include hsep h

theorem apart_start (t : Instant) : Apart zone (P.start (P.index (zone.wall t))) :=
  fun _ hc => ⟨h.before_le_start hc, h.start_not_jumped hsep hc t⟩

theorem apart_end (t : Instant) : Apart zone (P.start (P.index (zone.wall t) + 1)) :=
  fun _ hc => ⟨h.before_le_start hc, h.end_not_jumped hsep hc t⟩

/-- The second of two wall times lies in the period of the change that shows it. -/
theorem exists_index_eq {t : Instant} (hfold : (zone.astimezone t).fold = true) :
    ∃ c ∈ zone.changes, c.after < c.before ∧ P.index (c.instant + c.after) = P.index (zone.wall t) := by
  obtain ⟨c, hc, hct, hagain⟩ := (TimeZone.fold_eq_true_iff hsep).mp hfold
  have hwall := TimeZone.wall_eq_after hsep hc hct (.inr hagain)
  refine ⟨c, hc, by linarith, h.index_eq hc ?_ ?_⟩
  · rw [hwall]
    linarith
  · rw [hwall]
    linarith

theorem bounds_eq (t : Instant) : P.bounds keepsFold zone t
    = (zone.toUtc (P.start (P.index (zone.wall t))), zone.toUtc (P.start (P.index (zone.wall t) + 1))) := by
  refine Prod.ext ?_ ?_
  · refine (h.apart_start hsep t).resolve_eq_toUtc fun hfold c hc hforward => ?_
    obtain ⟨c', hc', hback, hindex⟩ := h.exists_index_eq hsep hfold
    rw [← hindex]
    exact h.begin_ne c hc c' hc' hforward hback
  · refine (h.apart_end hsep t).resolve_eq_toUtc fun hfold c hc hforward => ?_
    obtain ⟨hkeeps, hfold⟩ := Bool.and_eq_true_iff.mp hfold
    obtain ⟨c', hc', hback, hindex⟩ := h.exists_index_eq hsep hfold
    rw [← hindex]
    exact h.end_ne c hc c' hc' hforward hback hkeeps

/-- A period is over when a later one begins. -/
theorem end_le_start {t u : Instant} (hlt : P.index (zone.wall t) < P.index (zone.wall u)) :
    (P.bounds keepsFold zone t).2 ≤ (P.bounds keepsFold zone u).1 := by
  rw [h.bounds_eq hsep t, h.bounds_eq hsep u]
  have hend := (h.apart_end hsep t).unbroken
  have hstart := (h.apart_start hsep u).unbroken
  refine (zone.toUtc_le_iff hend _).mpr ?_
  calc P.start (P.index (zone.wall t) + 1) ≤ P.start (P.index (zone.wall u)) :=
        P.start_strictMono.monotone (Int.add_one_le_iff.mpr hlt)
    _ ≤ zone.wall (zone.toUtc (P.start (P.index (zone.wall u)))) := (zone.toUtc_le_iff hstart _).mp le_rfl

/-- **Clean periods tile the time line.** -/
theorem tiles : Tiles (P.bounds keepsFold zone) where
  mem t := by
    rw [h.bounds_eq hsep t]
    refine ⟨(zone.toUtc_le_iff (h.apart_start hsep t).unbroken t).mpr (P.start_index_le _), ?_⟩
    by_contra hnot
    have hend := (zone.toUtc_le_iff (h.apart_end hsep t).unbroken t).mp (not_lt.mp hnot)
    exact absurd hend (not_le.mpr (P.lt_start_succ _))
  eq_or_disjoint t u := by
    rcases lt_trichotomy (P.index (zone.wall t)) (P.index (zone.wall u)) with hlt | heq | hlt
    · right
      refine Set.disjoint_left.mpr fun x hx hx' => ?_
      exact absurd (hx.2.trans_le (h.end_le_start hsep hlt)) (not_lt.mpr hx'.1)
    · left
      rw [h.bounds_eq hsep t, h.bounds_eq hsep u, heq]
    · right
      refine Set.disjoint_left.mpr fun x hx hx' => ?_
      exact absurd (hx'.2.trans_le (h.end_le_start hsep hlt)) (not_lt.mpr hx.1)

end Clean

/-! ### Periods that tile the time line are clean -/

theorem bounds_of_astimezone {t : Instant} {w : WallTime} {fold : Bool} {n : ℤ}
    (ht : zone.astimezone t = { wall := w, fold := fold }) (hn : P.index w = n) :
    P.bounds keepsFold zone t = (zone.resolve { wall := P.start n, fold := fold },
      zone.resolve { wall := P.start (n + 1), fold := keepsFold && fold }) := by
  unfold bounds
  rw [ht, ← hn]

theorem bounds_of_first {t : Instant} {n : ℤ} (ht : (zone.astimezone t).fold = false)
    (hn : P.index (zone.wall t) = n) :
    P.bounds keepsFold zone t = (zone.toUtc (P.start n), zone.toUtc (P.start (n + 1))) := by
  have heq : zone.astimezone t = { wall := zone.wall t, fold := false } := by
    rw [← ht]
    rfl
  rw [bounds_of_astimezone heq hn, Bool.and_false]
  rfl

/-- The bounds at the instant of a jump. -/
theorem bounds_instant (hsep : zone.Separated) {c : Change} (hc : c ∈ zone.changes) (hforward : c.before < c.after) :
    P.bounds keepsFold zone c.instant = (zone.toUtc (P.start (P.index (c.instant + c.after))),
      zone.toUtc (P.start (P.index (c.instant + c.after) + 1))) := by
  have hwall := TimeZone.wall_eq_after hsep hc le_rfl (.inl rfl)
  have hfirst : c.first ≤ zone.wall c.instant := by
    rw [hwall]
    exact c.first_le_after
  have hfold := TimeZone.fold_eq_false_of_le hsep hc le_rfl (fun _ => hforward) hfirst
  exact bounds_of_first hfold (by rw [hwall])

namespace Tiles

variable (hsep : zone.Separated) (h : Tiles (P.bounds keepsFold zone)) {c : Change} (hc : c ∈ zone.changes)

include hsep h hc

/-- No period begins while wall times are shown again. -/
theorem before_le_start {n : ℤ} (hn : c.instant + c.after ≤ P.start n) : c.instant + c.before ≤ P.start n := by
  by_contra hlt
  rw [not_le] at hlt
  obtain ⟨m, hm, hend⟩ := P.exists_start_lt (c.instant + c.before)
  have hback : c.after < c.before := by linarith
  have hfirst := Change.first_eq_after hback.le
  have hlast := Change.last_eq_before hback.le
  have hnm : P.start n ≤ P.start m := by
    refine P.start_strictMono.monotone (Int.lt_add_one_iff.mp (P.start_strictMono.lt_iff_lt.mp ?_))
    exact hlt.trans_le hend
  -- the last of the periods that begin then, before the change and after it
  obtain ⟨t, ht, hle, hlt', hfold⟩ := TimeZone.exists_wall_before hsep hc (hfirst.le.trans (hn.trans hnm)) hm
  have hagain := TimeZone.astimezone_again hsep hc (hn.trans hnm) hm
  have hbounds : P.bounds keepsFold zone t = _ := bounds_of_first hfold (index_eq_iff.mpr ⟨hle, hlt'.trans_le hend⟩)
  have hbounds' : P.bounds keepsFold zone (P.start m - c.after) = _ :=
    bounds_of_astimezone hagain (index_eq_iff.mpr ⟨le_rfl, P.start_lt_succ m⟩)
  have hover := TimeZone.le_toUtc_of_last_le hsep hc (hlast.le.trans hend)
  have hmem : P.start m - c.after ∈ span (P.bounds keepsFold zone t) := by
    refine ⟨(h.mem t).1.trans (by linarith), ?_⟩
    rw [hbounds]
    show P.start m - c.after < zone.toUtc (P.start (m + 1))
    linarith
  have heq := congrArg Prod.fst (h.eq_of_mem hmem)
  rw [hbounds, hbounds'] at heq
  have hold : zone.toUtc (P.start m) = P.start m - c.before :=
    TimeZone.resolve_of_mem hsep hc (l := { wall := P.start m }) (hfirst.le.trans (hn.trans hnm)) (hm.trans_eq hlast.symm)
  have hnew : zone.resolve { wall := P.start m, fold := true } = P.start m - c.after :=
    TimeZone.resolve_of_mem hsep hc (hfirst.le.trans (hn.trans hnm)) (hm.trans_eq hlast.symm)
  have heq : zone.toUtc (P.start m) = zone.resolve { wall := P.start m, fold := true } := heq
  rw [hold, hnew] at heq
  linarith

theorem isStart_after (hbetween : P.StartsBetween (c.instant + c.before) (c.instant + c.after)) :
    P.start (P.index (c.instant + c.after)) = c.instant + c.after := by
  obtain ⟨n, hn, hn'⟩ := hbetween
  have hforward : c.before < c.after := by linarith
  have hfirst := Change.first_eq_before hforward.le
  have hlast := Change.last_eq_after hforward.le
  have hle : P.start n ≤ P.start (P.index (c.instant + c.after)) :=
    P.start_strictMono.monotone (le_index_iff.mpr hn'.le)
  refine (P.start_index_le _).antisymm (not_lt.mp fun hlt => ?_)
  have hmem := (h.mem c.instant).1
  rw [bounds_instant hsep hc hforward] at hmem
  have hold : zone.toUtc (P.start (P.index (c.instant + c.after))) = _ :=
    TimeZone.resolve_of_mem hsep hc (l := { wall := P.start (P.index (c.instant + c.after)) })
      (hfirst.le.trans (hn.le.trans hle)) (hlt.trans_eq hlast.symm)
  have hmem : P.start (P.index (c.instant + c.after)) - c.before ≤ c.instant := hold ▸ hmem
  linarith

theorem isStart_before (hbetween : P.StartsBetween (c.instant + c.before) (c.instant + c.after)) :
    P.IsStart (c.instant + c.before) := by
  have hafter := isStart_after hsep h hc hbetween
  obtain ⟨n, hn, hn'⟩ := hbetween
  have hforward : c.before < c.after := by linarith
  have hfirst := Change.first_eq_before hforward.le
  have hlast := Change.last_eq_after hforward.le
  obtain ⟨m, hm, hend⟩ := P.exists_start_lt (c.instant + c.before)
  refine ⟨m + 1, (not_lt.mp fun hlt => ?_).antisymm hend⟩
  have hendLast : P.start (m + 1) < c.last := by
    rw [hlast]
    refine lt_of_le_of_lt (P.start_strictMono.monotone (Int.add_one_le_iff.mpr ?_)) hn'
    exact P.start_strictMono.lt_iff_lt.mp (hm.trans hn)
  -- shortly before the change, in the period that would end after it
  obtain ⟨s, hs, hwall⟩ := TimeZone.exists_wall_eq_before hc
  obtain ⟨t, hst, ht, hmt, hendt⟩ : ∃ t, s ≤ t ∧ t < c.instant ∧ P.start m ≤ t + c.before ∧
      P.start (m + 1) ≤ t + c.after := by
    refine ⟨max s (max (P.start m - c.before) (P.start (m + 1) - c.after)), le_max_left _ _, ?_, ?_, ?_⟩
    · exact max_lt hs (max_lt (by linarith) (by linarith))
    · linarith [le_max_right s (max (P.start m - c.before) (P.start (m + 1) - c.after)),
        le_max_left (P.start m - c.before) (P.start (m + 1) - c.after)]
    · linarith [le_max_right s (max (P.start m - c.before) (P.start (m + 1) - c.after)),
        le_max_right (P.start m - c.before) (P.start (m + 1) - c.after)]
  have hindex : P.index (zone.wall t) = m := by
    rw [hwall t hst ht]
    exact index_eq_iff.mpr ⟨hmt, by linarith⟩
  have hresolve : (P.bounds keepsFold zone t).2
      = P.start (m + 1) - if keepsFold && (zone.astimezone t).fold then c.after else c.before := by
    rw [← hindex] at hend hendLast ⊢
    exact TimeZone.resolve_of_mem hsep hc (hfirst.le.trans hend) hendLast
  obtain ⟨hstart, hover⟩ := h.mem t
  rw [hresolve] at hover
  cases hkeeps : keepsFold && (zone.astimezone t).fold with
  | true =>
    rw [hkeeps, if_pos rfl] at hover
    linarith
  | false =>
    have hmem : c.instant ∈ span (P.bounds keepsFold zone t) := by
      refine ⟨hstart.trans ht.le, ?_⟩
      rw [hresolve, hkeeps, if_neg Bool.false_ne_true]
      linarith
    have heq := congrArg Prod.fst (h.eq_of_mem hmem)
    rw [bounds_instant hsep hc hforward, hafter] at heq
    have hlate := TimeZone.le_toUtc_of_last_le hsep hc hlast.le
    have heq : (P.bounds keepsFold zone t).1 = zone.toUtc (c.instant + c.after) := heq
    linarith

/-- A period with wall times that are shown twice does not begin where the clock jumps. -/
theorem begin_ne {c' : Change} (hc' : c' ∈ zone.changes) (hforward : c.before < c.after) (hback : c'.after < c'.before) :
    P.start (P.index (c'.instant + c'.after)) ≠ c.instant + c.before := by
  intro hbegin
  have hlast' := Change.last_eq_before hback.le
  have hagain := TimeZone.astimezone_again hsep hc' le_rfl ((add_lt_add_iff_left _).mpr hback)
  rw [add_sub_cancel_right] at hagain
  have hwall : zone.wall c'.instant = c'.instant + c'.after := congrArg LocalTime.wall hagain
  have hle := P.start_index_le (c'.instant + c'.after)
  have hlt := P.lt_start_succ (c'.instant + c'.after)
  -- the clock has jumped, and still shows that period
  have hjumped : c.instant + c.after ≤ c'.instant + c'.after := by
    rcases zone.not_mem_jump hsep hc c'.instant with hwall' | hwall'
    · linarith
    · exact hwall'.trans_eq hwall
  have hindex : P.index (c.instant + c.after) = P.index (c'.instant + c'.after) :=
    index_eq_iff.mpr ⟨by linarith, hjumped.trans_lt hlt⟩
  have hbounds : P.bounds keepsFold zone c.instant = _ := bounds_instant hsep hc hforward
  have hbounds' : P.bounds keepsFold zone c'.instant = _ := bounds_of_astimezone hagain rfl
  rw [hindex, hbegin] at hbounds
  rw [hbegin] at hbounds'
  have hold : zone.toUtc (c.instant + c.before) = c.instant := TimeZone.resolve_jump hsep hc hforward false
  have hnew : zone.resolve { wall := c.instant + c.before, fold := true } = c.instant - (c.after - c.before) :=
    TimeZone.resolve_jump hsep hc hforward true
  have hmem : c'.instant ∈ span (P.bounds keepsFold zone c.instant) := by
    rw [hbounds]
    refine ⟨?_, ?_⟩
    · show zone.toUtc (c.instant + c.before) ≤ c'.instant
      rw [hold]
      by_contra hbefore
      have hwall' := TimeZone.wall_lt_of_lt hsep hc (not_le.mp hbefore)
      linarith
    · show c'.instant < zone.toUtc (P.start (P.index (c'.instant + c'.after) + 1))
      have hover := TimeZone.le_toUtc_of_last_le hsep hc' (hlast'.le.trans (before_le_start hsep h hc' hlt.le))
      linarith
  have heq := congrArg Prod.fst (h.eq_of_mem hmem)
  rw [hbounds, hbounds'] at heq
  have heq : zone.toUtc (c.instant + c.before) = zone.resolve { wall := c.instant + c.before, fold := true } := heq
  rw [hold, hnew] at heq
  linarith

/-- Nor does it end there, if the `fold` is kept. -/
theorem end_ne {c' : Change} (hc' : c' ∈ zone.changes) (hforward : c.before < c.after) (hback : c'.after < c'.before)
    (hkeeps : keepsFold = true) : P.start (P.index (c'.instant + c'.after) + 1) ≠ c.instant + c.before := by
  intro hend
  subst hkeeps
  have hfirst' := Change.first_eq_after hback.le
  have hagain := TimeZone.astimezone_again hsep hc' le_rfl ((add_lt_add_iff_left _).mpr hback)
  rw [add_sub_cancel_right] at hagain
  have hwall : zone.wall c'.instant = c'.instant + c'.after := congrArg LocalTime.wall hagain
  have hle := P.start_index_le (c'.instant + c'.after)
  have hlt := P.lt_start_succ (c'.instant + c'.after)
  have hover := before_le_start hsep h hc' hlt.le
  -- the first of the two wall times at the change that shows it again
  obtain ⟨t, ht, hwt, hwt', hfold⟩ := TimeZone.exists_wall_before hsep hc' hfirst'.le ((add_lt_add_iff_left _).mpr hback)
  have hbounds : P.bounds true zone t = _ :=
    bounds_of_first hfold (index_eq_iff.mpr ⟨hle.trans hwt, hwt'.trans_le hover⟩)
  have hbounds' : P.bounds true zone c'.instant = _ := bounds_of_astimezone hagain rfl
  rw [hend] at hbounds hbounds'
  have hold : zone.toUtc (c.instant + c.before) = c.instant := TimeZone.resolve_jump hsep hc hforward false
  have hnew : zone.resolve { wall := c.instant + c.before, fold := true } = c.instant - (c.after - c.before) :=
    TimeZone.resolve_jump hsep hc hforward true
  have hmem : c'.instant ∈ span (P.bounds true zone t) := by
    refine ⟨(h.mem t).1.trans ht.le, ?_⟩
    rw [hbounds]
    show c'.instant < zone.toUtc (c.instant + c.before)
    rw [hold]
    by_contra hafter
    have hwall' := TimeZone.le_wall_of_le hsep hc (not_lt.mp hafter)
    linarith
  have heq := congrArg Prod.snd (h.eq_of_mem hmem)
  rw [hbounds, hbounds'] at heq
  have heq : zone.toUtc (c.instant + c.before) = zone.resolve { wall := c.instant + c.before, fold := true } := heq
  rw [hold, hnew] at heq
  linarith

end Tiles

/-- **Exactly the clean periods tile the time line.** -/
theorem tiles_iff_clean (hsep : zone.Separated) : Tiles (P.bounds keepsFold zone) ↔ P.Clean keepsFold zone := by
  constructor
  · intro h
    refine ⟨fun c hc => ⟨?_, ?_⟩, fun c hc hbetween => ?_, ?_, ?_⟩
    · rintro ⟨hback, n, hn⟩
      have hle := h.before_le_start hsep hc hn.ge
      linarith
    · rintro ⟨n, hn, hn'⟩
      exact absurd (h.before_le_start hsep hc hn.le) (not_le.mpr hn')
    · exact ⟨h.isStart_before hsep hc hbetween, _, h.isStart_after hsep hc hbetween⟩
    · exact fun c hc c' hc' => h.begin_ne hsep hc hc'
    · exact fun c hc c' hc' => h.end_ne hsep hc hc'
  · exact fun h => h.tiles hsep

end

end Periods

end EnergyCore.TimeZones
