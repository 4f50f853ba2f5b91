import EnergyCore.Foundations.TimeZones
import Mathlib.Data.List.MinMax

/-!
# Local times

A wall time that is shown twice is told apart by its `fold`, the way `zoneinfo` does.

* `TimeZone.resolve_astimezone` — an instant is read back from its local time;
* `TimeZone.wall_lt_of_lt`, `TimeZone.le_wall_of_le` — a change of the offset separates the wall times before it from
  those after;
* `TimeZone.resolve_of_mem` — how a wall time is resolved that a change shows twice, or jumps over;
* `TimeZone.fold_eq_true_iff` — the second of two wall times;
* `TimeZone.wall_add_of_no_change`, `TimeZone.exists_last_change` — the clock runs on between two changes;
* `TimeZone.exists_wall_before`, `TimeZone.astimezone_again` — the two instants of a wall time that is shown twice.
-/

namespace EnergyCore.TimeZones

/-! ### Changes -/

/-- A change of the offset. -/
structure Change where
  instant : Instant
  before : ℚ
  after : ℚ
  deriving Repr, DecidableEq

namespace Change

/-- The wall time from which on a change repeats wall times, or jumps over them. -/
def first (c : Change) : WallTime := c.instant + min c.before c.after

/-- The wall time up to which a change repeats wall times, or jumps over them. -/
def last (c : Change) : WallTime := c.instant + max c.before c.after

theorem first_le_before (c : Change) : c.first ≤ c.instant + c.before := by
  unfold first
  linarith [min_le_left c.before c.after]

theorem first_le_after (c : Change) : c.first ≤ c.instant + c.after := by
  unfold first
  linarith [min_le_right c.before c.after]

theorem before_le_last (c : Change) : c.instant + c.before ≤ c.last := by
  unfold last
  linarith [le_max_left c.before c.after]

theorem after_le_last (c : Change) : c.instant + c.after ≤ c.last := by
  unfold last
  linarith [le_max_right c.before c.after]

theorem first_eq_before {c : Change} (h : c.before ≤ c.after) : c.first = c.instant + c.before := by
  rw [first, min_eq_left h]

theorem first_eq_after {c : Change} (h : c.after ≤ c.before) : c.first = c.instant + c.after := by
  rw [first, min_eq_right h]

theorem last_eq_before {c : Change} (h : c.after ≤ c.before) : c.last = c.instant + c.before := by
  rw [last, max_eq_left h]

theorem last_eq_after {c : Change} (h : c.before ≤ c.after) : c.last = c.instant + c.after := by
  rw [last, max_eq_right h]

theorem first_le_last (c : Change) : c.first ≤ c.last := c.first_le_before.trans c.before_le_last

end Change

/-- The change of a transition from an offset. -/
def changeAt (offset : ℚ) (d : Instant × ℚ) : Change where
  instant := d.1
  before := offset
  after := d.2

@[simp] theorem instant_changeAt (offset : ℚ) (d : Instant × ℚ) : (changeAt offset d).instant = d.1 := rfl

@[simp] theorem before_changeAt (offset : ℚ) (d : Instant × ℚ) : (changeAt offset d).before = offset := rfl

@[simp] theorem after_changeAt (offset : ℚ) (d : Instant × ℚ) : (changeAt offset d).after = d.2 := rfl

def changesFrom : ℚ → List (Instant × ℚ) → List Change
  | _, [] => []
  | offset, d :: rest => changeAt offset d :: changesFrom d.2 rest

/-- The offset that `zoneinfo` resolves the second of two wall times with: the last change that has come on the
earlier of the two clocks. -/
def foldOffsetAfter : ℚ → List (Instant × ℚ) → WallTime → ℚ
  | offset, [], _ => offset
  | offset, (instant, next) :: rest, w =>
    if w < instant + min offset next then offset else foldOffsetAfter next rest w

/-- Whether the wall time of an instant was shown before: the last change set the clock back, by more than the time
since then. -/
def foldAfter : ℚ → List (Instant × ℚ) → Instant → Bool
  | _, [], _ => false
  | offset, (instant, next) :: rest, t =>
    if t < instant then false
    else if rest.head?.any (fun c => decide (c.1 ≤ t)) = true then foldAfter next rest t
    else decide (t - instant < offset - next)

section

variable {offset : ℚ} {transitions : List (Instant × ℚ)} {c : Change}

theorem changesFrom_cons (d : Instant × ℚ) :
    changesFrom offset (d :: transitions) = changeAt offset d :: changesFrom d.2 transitions := rfl

theorem wallOffsetAfter_cons (d : Instant × ℚ) (w : WallTime) : wallOffsetAfter offset (d :: transitions) w =
    if w < (changeAt offset d).last then offset else wallOffsetAfter d.2 transitions w := rfl

theorem foldOffsetAfter_cons (d : Instant × ℚ) (w : WallTime) : foldOffsetAfter offset (d :: transitions) w =
    if w < (changeAt offset d).first then offset else foldOffsetAfter d.2 transitions w := rfl

theorem instant_of_mem_changesFrom (h : c ∈ changesFrom offset transitions) :
    c.instant ∈ transitions.map Prod.fst := by
  induction transitions generalizing offset with
  | nil => cases h
  | cons d rest ih =>
    rcases List.mem_cons.mp h with rfl | h
    · exact List.mem_cons_self
    · exact List.mem_cons_of_mem _ (ih h)

/-- The offset stays the same until the next change. -/
theorem offsetAfter_eq_of_no_change {s t : Instant} (hst : s ≤ t) (h : ∀ d ∈ transitions, d.1 ≤ s ∨ t < d.1) :
    offsetAfter offset transitions t = offsetAfter offset transitions s := by
  induction transitions generalizing offset with
  | nil => rfl
  | cons d rest ih =>
    have hrest : offsetAfter d.2 rest t = offsetAfter d.2 rest s := ih fun e he => h e (List.mem_cons_of_mem _ he)
    unfold offsetAfter
    rcases h d List.mem_cons_self with hbefore | hafter
    · rw [if_neg (not_lt.mpr hbefore), if_neg (not_lt.mpr (hbefore.trans hst)), hrest]
    · rw [if_pos hafter, if_pos (hst.trans_lt hafter)]

/-- A change comes after what all transitions come after. -/
theorem lt_instant_of_mem {t : Instant} (hlater : ∀ d ∈ transitions, t < d.1)
    (h : c ∈ changesFrom offset transitions) : t < c.instant := by
  obtain ⟨d, hd, heq⟩ := List.mem_map.mp (instant_of_mem_changesFrom h)
  rw [← heq]
  exact hlater d hd

theorem map_instant_changesFrom : (changesFrom offset transitions).map Change.instant = transitions.map Prod.fst := by
  induction transitions generalizing offset with
  | nil => rfl
  | cons d rest ih => rw [changesFrom_cons, List.map_cons, List.map_cons, ih, instant_changeAt]

/-- Before the first change the offset is the old one. -/
theorem offsetAfter_of_lt {t : Instant} (h : ∀ d ∈ transitions, t < d.1) :
    offsetAfter offset transitions t = offset := by
  cases transitions with
  | nil => rfl
  | cons d rest =>
    unfold offsetAfter
    rw [if_pos (h d List.mem_cons_self)]

/-- The clock before a change is behind what it shows at the change. -/
theorem add_offsetAfter_lt (hsep : (changesFrom offset transitions).Pairwise fun c c' => c.last ≤ c'.first)
    (hc : c ∈ changesFrom offset transitions) {t : Instant} (ht : t < c.instant) :
    t + offsetAfter offset transitions t < c.instant + c.before := by
  induction transitions generalizing offset with
  | nil => cases hc
  | cons d rest ih =>
    obtain ⟨hnext, hrest⟩ := List.pairwise_cons.mp hsep
    rcases List.mem_cons.mp hc with rfl | hc
    · rw [instant_changeAt, before_changeAt] at *
      unfold offsetAfter
      rw [if_pos ht]
      exact (add_lt_add_iff_right _).mpr ht
    · have hlast := hnext c hc
      unfold offsetAfter
      split_ifs with hbefore
      · have hwall := (changeAt offset d).before_le_last
        rw [instant_changeAt, before_changeAt] at hwall
        linarith [c.first_le_before]
      · exact ih hrest hc

/-- The clock after a change is not behind what it shows at the change. -/
theorem le_add_offsetAfter (hsep : (changesFrom offset transitions).Pairwise fun c c' => c.last ≤ c'.first)
    (hordered : transitions.Pairwise fun d d' => d.1 < d'.1) (hc : c ∈ changesFrom offset transitions) {t : Instant}
    (ht : c.instant ≤ t) : c.instant + c.after ≤ t + offsetAfter offset transitions t := by
  induction transitions generalizing offset c with
  | nil => cases hc
  | cons d rest ih =>
    obtain ⟨hnext, hrest⟩ := List.pairwise_cons.mp hsep
    obtain ⟨hlater, hordered⟩ := List.pairwise_cons.mp hordered
    have hbefore : ¬ t < d.1 := by
      rcases List.mem_cons.mp hc with rfl | hc
      · exact not_lt.mpr ht
      · exact not_lt.mpr ((lt_instant_of_mem hlater hc).le.trans ht)
    unfold offsetAfter
    rw [if_neg hbefore]
    rcases List.mem_cons.mp hc with rfl | hc
    · cases rest with
      | nil => exact (add_le_add_iff_right _).mpr ht
      | cons d' rest =>
        by_cases hd' : t < d'.1
        · unfold offsetAfter
          rw [if_pos hd']
          exact (add_le_add_iff_right _).mpr ht
        · have hmem : changeAt d.2 d' ∈ changesFrom d.2 (d' :: rest) := List.mem_cons_self
          have hfirst := hnext _ hmem
          have hstep := ih hrest hordered hmem (not_lt.mp hd')
          have hlast := (changeAt offset d).after_le_last
          have hafter := (changeAt d.2 d').first_le_after
          rw [instant_changeAt, after_changeAt] at hstep hlast hafter ⊢
          linarith
    · exact ih hrest hordered hc ht

/-- Shortly before a change the offset is the old one. -/
theorem exists_offsetAfter_eq_before (hordered : transitions.Pairwise fun d d' => d.1 < d'.1)
    (hc : c ∈ changesFrom offset transitions) :
    ∃ s < c.instant, ∀ t, s ≤ t → t < c.instant → offsetAfter offset transitions t = c.before := by
  induction transitions generalizing offset with
  | nil => cases hc
  | cons d rest ih =>
    obtain ⟨hlater, hordered⟩ := List.pairwise_cons.mp hordered
    rcases List.mem_cons.mp hc with rfl | hc
    · refine ⟨d.1 - 1, sub_one_lt d.1, fun t _ ht => ?_⟩
      unfold offsetAfter
      exact if_pos ht
    · obtain ⟨s, hs, hoffset⟩ := ih hordered hc
      refine ⟨max s d.1, max_lt hs (lt_instant_of_mem hlater hc), fun t hst ht => ?_⟩
      unfold offsetAfter
      rw [if_neg (not_lt.mpr ((le_max_right _ _).trans hst))]
      exact hoffset t ((le_max_left _ _).trans hst) ht

/-- At a change, and while it shows wall times again, the offset is the new one. -/
theorem offsetAfter_eq_after (hsep : (changesFrom offset transitions).Pairwise fun c c' => c.last ≤ c'.first)
    (hordered : transitions.Pairwise fun d d' => d.1 < d'.1) (hc : c ∈ changesFrom offset transitions) {t : Instant}
    (ht : c.instant ≤ t) (hagain : t = c.instant ∨ t - c.instant < c.before - c.after) :
    offsetAfter offset transitions t = c.after := by
  induction transitions generalizing offset with
  | nil => cases hc
  | cons d rest ih =>
    obtain ⟨hnext, hrest⟩ := List.pairwise_cons.mp hsep
    obtain ⟨hlater, hordered⟩ := List.pairwise_cons.mp hordered
    unfold offsetAfter
    rcases List.mem_cons.mp hc with rfl | hc
    · rw [instant_changeAt] at ht
      rw [instant_changeAt, before_changeAt, after_changeAt] at hagain
      rw [if_neg (not_lt.mpr ht)]
      cases rest with
      | nil => rfl
      | cons d' rest =>
        have hbefore : t < d'.1 := by
          rcases hagain with rfl | hagain
          · exact hlater d' List.mem_cons_self
          · have hfirst := hnext _ List.mem_cons_self
            have hlast := (changeAt offset d).before_le_last
            have hafter := (changeAt d.2 d').first_le_before
            rw [instant_changeAt, before_changeAt] at hlast hafter
            linarith
        unfold offsetAfter
        exact if_pos hbefore
    · rw [if_neg (not_lt.mpr ((lt_instant_of_mem hlater hc).le.trans ht))]
      exact ih hrest hordered hc

theorem unbroken_iff_changesFrom {w : WallTime} :
    Unbroken offset transitions w ↔ ∀ c ∈ changesFrom offset transitions, w ≤ c.first ∨ c.last ≤ w := by
  induction transitions generalizing offset with
  | nil => simp [Unbroken, changesFrom]
  | cons d rest ih =>
    rw [changesFrom_cons, List.forall_mem_cons, ← ih]
    rfl

/-- A wall time before all changes is resolved with the first offset. -/
theorem foldOffsetAfter_of_lt {w : WallTime} (h : ∀ c ∈ changesFrom offset transitions, w < c.first) :
    foldOffsetAfter offset transitions w = offset := by
  cases transitions with
  | nil => rfl
  | cons d rest =>
    unfold foldOffsetAfter
    exact if_pos (h _ List.mem_cons_self)

/-- A wall time that a change shows twice or jumps over is resolved with the old offset first. -/
theorem wallOffsetAfter_of_mem (hsep : (changesFrom offset transitions).Pairwise fun c c' => c.last ≤ c'.first)
    (hc : c ∈ changesFrom offset transitions) {w : WallTime} (hfirst : c.first ≤ w) (hlast : w < c.last) :
    wallOffsetAfter offset transitions w = c.before := by
  induction transitions generalizing offset with
  | nil => cases hc
  | cons d rest ih =>
    obtain ⟨hnext, hrest⟩ := List.pairwise_cons.mp hsep
    rw [wallOffsetAfter_cons]
    rcases List.mem_cons.mp hc with rfl | hc
    · exact if_pos hlast
    · rw [if_neg (not_lt.mpr ((hnext c hc).trans hfirst))]
      exact ih hrest hc

/-- A wall time that a change shows twice or jumps over is resolved with the new offset the second time. -/
theorem foldOffsetAfter_of_mem (hsep : (changesFrom offset transitions).Pairwise fun c c' => c.last ≤ c'.first)
    (hc : c ∈ changesFrom offset transitions) {w : WallTime} (hfirst : c.first ≤ w) (hlast : w < c.last) :
    foldOffsetAfter offset transitions w = c.after := by
  induction transitions generalizing offset with
  | nil => cases hc
  | cons d rest ih =>
    obtain ⟨hnext, hrest⟩ := List.pairwise_cons.mp hsep
    rw [foldOffsetAfter_cons]
    rcases List.mem_cons.mp hc with rfl | hc
    · refine (if_neg (not_lt.mpr hfirst)).trans ?_
      exact foldOffsetAfter_of_lt fun c' hc' => hlast.trans_le (hnext c' hc')
    · have hd := (changeAt offset d).first_le_last
      rw [if_neg (not_lt.mpr (hd.trans ((hnext c hc).trans hfirst)))]
      exact ih hrest hc

/-- Other wall times are resolved in one way. -/
theorem foldOffsetAfter_eq {w : WallTime} (h : ∀ c ∈ changesFrom offset transitions, w < c.first ∨ c.last ≤ w) :
    foldOffsetAfter offset transitions w = wallOffsetAfter offset transitions w := by
  induction transitions generalizing offset with
  | nil => rfl
  | cons d rest ih =>
    have hd := (changeAt offset d).first_le_last
    rw [foldOffsetAfter_cons, wallOffsetAfter_cons]
    rcases h (changeAt offset d) List.mem_cons_self with hbefore | hafter
    · rw [if_pos hbefore, if_pos (hbefore.trans_le hd)]
    · rw [if_neg (not_lt.mpr (hd.trans hafter)), if_neg (not_lt.mpr hafter)]
      exact ih fun c hc => h c (List.mem_cons_of_mem _ hc)

/-- **The second of two wall times** is shown by the change that set the clock back. -/
theorem foldAfter_eq_true_iff (hsep : (changesFrom offset transitions).Pairwise fun c c' => c.last ≤ c'.first)
    (hordered : transitions.Pairwise fun d d' => d.1 < d'.1) {t : Instant} : foldAfter offset transitions t = true ↔
      ∃ c ∈ changesFrom offset transitions, c.instant ≤ t ∧ t - c.instant < c.before - c.after := by
  induction transitions generalizing offset with
  | nil => simp [foldAfter, changesFrom]
  | cons d rest ih =>
    obtain ⟨hnext, hrest⟩ := List.pairwise_cons.mp hsep
    obtain ⟨hlater, hordered⟩ := List.pairwise_cons.mp hordered
    have hlaterChanges : ∀ c ∈ changesFrom d.2 rest, d.1 < c.instant := fun c hc => lt_instant_of_mem hlater hc
    unfold foldAfter
    by_cases hbefore : t < d.1
    · rw [if_pos hbefore]
      refine iff_of_false Bool.false_ne_true ?_
      rintro ⟨c, hc, hct, -⟩
      rcases List.mem_cons.mp hc with rfl | hc
      · exact absurd hct (not_le.mpr hbefore)
      · exact absurd ((hlaterChanges c hc).le.trans hct) (not_le.mpr hbefore)
    · rw [if_neg hbefore]
      cases rest with
      | nil =>
        rw [if_neg (by simp), decide_eq_true_eq, changesFrom_cons, List.exists_mem_cons_iff]
        constructor
        · exact fun hagain => .inl ⟨not_lt.mp hbefore, hagain⟩
        · rintro (⟨-, hagain⟩ | ⟨c, hc, -⟩)
          · exact hagain
          · cases hc
      | cons d' rest =>
        have hfirst := hnext _ List.mem_cons_self
        have hlast := (changeAt offset d).before_le_last
        have hafter := (changeAt d.2 d').first_le_before
        rw [instant_changeAt, before_changeAt] at hlast hafter
        by_cases hcome : d'.1 ≤ t
        · rw [if_pos (by simpa using hcome), changesFrom_cons, List.exists_mem_cons_iff, ih hrest hordered]
          refine (or_iff_right ?_).symm
          rintro ⟨-, hagain⟩
          rw [instant_changeAt, before_changeAt, after_changeAt] at hagain
          linarith
        · rw [if_neg (by simpa using hcome), decide_eq_true_eq, changesFrom_cons, List.exists_mem_cons_iff]
          constructor
          · exact fun hagain => .inl ⟨not_lt.mp hbefore, hagain⟩
          · rintro (⟨-, hagain⟩ | ⟨c, hc, hct, -⟩)
            · exact hagain
            · refine absurd ?_ hcome
              rcases List.mem_cons.mp hc with rfl | hc
              · exact hct
              · exact (lt_instant_of_mem (List.pairwise_cons.mp hordered).1 hc).le.trans hct

/-- A wall time that is not shown again is resolved with the offset of its instant. -/
theorem wallOffsetAfter_wall (hsep : (changesFrom offset transitions).Pairwise fun c c' => c.last ≤ c'.first)
    (hordered : transitions.Pairwise fun d d' => d.1 < d'.1) {t : Instant}
    (hfold : ∀ c ∈ changesFrom offset transitions, c.instant ≤ t → c.before - c.after ≤ t - c.instant) :
    wallOffsetAfter offset transitions (t + offsetAfter offset transitions t) = offsetAfter offset transitions t := by
  induction transitions generalizing offset with
  | nil => rfl
  | cons d rest ih =>
    obtain ⟨hnext, hrest⟩ := List.pairwise_cons.mp hsep
    obtain ⟨hlater, hordered'⟩ := List.pairwise_cons.mp hordered
    by_cases hbefore : t < d.1
    · have hoffset : offsetAfter offset (d :: rest) t = offset := if_pos hbefore
      rw [hoffset]
      unfold wallOffsetAfter
      exact if_pos (by linarith [le_max_left offset d.2])
    · have hcome := not_lt.mp hbefore
      have hoffset : offsetAfter offset (d :: rest) t = offsetAfter d.2 rest t := if_neg hbefore
      rw [hoffset]
      have hlast : d.1 + max offset d.2 ≤ t + offsetAfter d.2 rest t := by
        by_cases hlaterCome : ∃ c ∈ changesFrom d.2 rest, c.instant ≤ t
        · obtain ⟨c, hc, hct⟩ := hlaterCome
          have hwall := le_add_offsetAfter hrest hordered' hc hct
          have hfirst : d.1 + max offset d.2 ≤ c.first := hnext c hc
          linarith [c.first_le_after]
        · have hall : ∀ e ∈ rest, t < e.1 := by
            intro e he
            by_contra hle
            rw [not_lt] at hle
            cases rest with
            | nil => cases he
            | cons d' rest =>
              refine hlaterCome ⟨_, List.mem_cons_self, ?_⟩
              show d'.1 ≤ t
              rcases List.mem_cons.mp he with rfl | he
              · exact hle
              · exact ((List.pairwise_cons.mp hordered').1 e he).le.trans hle
          rw [offsetAfter_of_lt hall]
          have hagain := hfold _ List.mem_cons_self hcome
          rw [instant_changeAt, before_changeAt, after_changeAt] at hagain
          rcases max_cases offset d.2 with ⟨hmax, -⟩ | ⟨hmax, -⟩
          · rw [hmax]
            linarith
          · rw [hmax]
            linarith
      unfold wallOffsetAfter
      rw [if_neg (not_lt.mpr hlast)]
      exact ih hrest hordered' fun c hc => hfold c (List.mem_cons_of_mem _ hc)

/-- A wall time that has come by a change is not resolved to an instant before the clock shows it for the last time. -/
theorem last_sub_after_le (hsep : (changesFrom offset transitions).Pairwise fun c c' => c.last ≤ c'.first)
    (hordered : transitions.Pairwise fun d d' => d.1 < d'.1) (hc : c ∈ changesFrom offset transitions) {w : WallTime}
    (hw : c.last ≤ w) : c.last - c.after ≤ w - wallOffsetAfter offset transitions w := by
  induction transitions generalizing offset with
  | nil => cases hc
  | cons d rest ih =>
    obtain ⟨hnext, hrest⟩ := List.pairwise_cons.mp hsep
    obtain ⟨hlater, hordered'⟩ := List.pairwise_cons.mp hordered
    rw [wallOffsetAfter_cons]
    rcases List.mem_cons.mp hc with rfl | hc
    · rw [if_neg (not_lt.mpr hw), after_changeAt]
      refine le_sub_wallOffsetAfter hordered' (by linarith) fun e he => ?_
      cases rest with
      | nil => cases he
      | cons d' rest =>
        have hfirst := hnext _ List.mem_cons_self
        have hbefore := (changeAt d.2 d').first_le_before
        rw [instant_changeAt, before_changeAt] at hbefore
        have hle : d'.1 ≤ e.1 := by
          rcases List.mem_cons.mp he with rfl | he
          · exact le_rfl
          · exact ((List.pairwise_cons.mp hordered').1 e he).le
        linarith
    · have hcome := (hnext c hc).trans (c.first_le_last.trans hw)
      rw [if_neg (not_lt.mpr hcome)]
      exact ih hrest hordered' hc

end

/-! ### Local times -/

/-- A wall time, and whether it is the second of two. -/
structure LocalTime where
  wall : WallTime
  fold : Bool := false
  deriving Repr, DecidableEq

namespace TimeZone

def changes (zone : TimeZone) : List Change := changesFrom zone.offset zone.transitions

/-- What one change shows twice or jumps over lies before what the next one does. -/
def Separated (zone : TimeZone) : Prop := zone.changes.Pairwise fun c c' => c.last ≤ c'.first

/-- `astimezone(zone)`, with its `fold`. -/
def astimezone (zone : TimeZone) (t : Instant) : LocalTime where
  wall := zone.wall t
  fold := foldAfter zone.offset zone.transitions t

/-- `astimezone(UTC)` of a local time. -/
def resolve (zone : TimeZone) (l : LocalTime) : Instant :=
  l.wall - if l.fold then foldOffsetAfter zone.offset zone.transitions l.wall else zone.utcoffset l.wall

variable {zone : TimeZone}

@[simp] theorem wall_astimezone (t : Instant) : (zone.astimezone t).wall = zone.wall t := rfl

@[simp] theorem resolve_first (w : WallTime) : zone.resolve { wall := w } = zone.toUtc w := rfl

/-- A change is over before a later one. -/
theorem eq_or_last_le_first (hsep : zone.Separated) {c c' : Change} (hc : c ∈ zone.changes) (hc' : c' ∈ zone.changes)
    (h : c.instant ≤ c'.instant) : c = c' ∨ c.last ≤ c'.first := by
  have hordered : (zone.changes.map Change.instant).Pairwise (· < ·) := by
    rw [changes, map_instant_changesFrom]
    exact List.pairwise_map.mpr zone.ordered
  rw [List.pairwise_map] at hordered
  obtain ⟨i, hi, rfl⟩ := List.getElem_of_mem hc
  obtain ⟨j, hj, rfl⟩ := List.getElem_of_mem hc'
  rcases lt_trichotomy i j with hlt | rfl | hlt
  · exact .inr (List.pairwise_iff_getElem.mp hsep i j hi hj hlt)
  · exact .inl rfl
  · exact absurd (List.pairwise_iff_getElem.mp hordered j i hj hi hlt) (not_lt.mpr h)

theorem wall_lt_of_lt (hsep : zone.Separated) {c : Change} (hc : c ∈ zone.changes) {t : Instant}
    (ht : t < c.instant) : zone.wall t < c.instant + c.before := add_offsetAfter_lt hsep hc ht

theorem le_wall_of_le (hsep : zone.Separated) {c : Change} (hc : c ∈ zone.changes) {t : Instant}
    (ht : c.instant ≤ t) : c.instant + c.after ≤ zone.wall t := le_add_offsetAfter hsep zone.ordered hc ht

/-- At a change, and while it shows wall times again, the clock goes by the new offset. -/
theorem wall_eq_after (hsep : zone.Separated) {c : Change} (hc : c ∈ zone.changes) {t : Instant}
    (ht : c.instant ≤ t) (hagain : t = c.instant ∨ t - c.instant < c.before - c.after) :
    zone.wall t = t + c.after := by
  unfold wall
  rw [offsetAfter_eq_after hsep zone.ordered hc ht hagain]

/-- Shortly before a change the clock goes by the old offset. -/
theorem exists_wall_eq_before {c : Change} (hc : c ∈ zone.changes) :
    ∃ s < c.instant, ∀ t, s ≤ t → t < c.instant → zone.wall t = t + c.before := by
  obtain ⟨s, hs, hoffset⟩ := exists_offsetAfter_eq_before zone.ordered hc
  refine ⟨s, hs, fun t hst ht => ?_⟩
  unfold wall
  rw [hoffset t hst ht]

/-- A wall time that a change shows twice, or jumps over, is resolved with the old offset and then with the new. -/
theorem resolve_of_mem (hsep : zone.Separated) {c : Change} (hc : c ∈ zone.changes) {l : LocalTime}
    (hfirst : c.first ≤ l.wall) (hlast : l.wall < c.last) :
    zone.resolve l = l.wall - if l.fold then c.after else c.before := by
  unfold resolve utcoffset
  rw [foldOffsetAfter_of_mem hsep hc hfirst hlast, wallOffsetAfter_of_mem hsep hc hfirst hlast]

/-- The wall time at which the clock jumps is resolved to the jump, and the second time to an earlier instant. -/
theorem resolve_jump (hsep : zone.Separated) {c : Change} (hc : c ∈ zone.changes) (hforward : c.before < c.after)
    (fold : Bool) : zone.resolve { wall := c.instant + c.before, fold := fold }
      = if fold then c.instant - (c.after - c.before) else c.instant := by
  have hlast : c.instant + c.before < c.last := by
    rw [Change.last_eq_after hforward.le]
    exact (add_lt_add_iff_left _).mpr hforward
  rw [resolve_of_mem hsep hc (Change.first_eq_before hforward.le).le hlast]
  cases fold with
  | false =>
    rw [if_neg Bool.false_ne_true, if_neg Bool.false_ne_true]
    exact add_sub_cancel_right _ _
  | true =>
    rw [if_pos rfl, if_pos rfl]
    ring

/-- Other wall times are resolved in one way. -/
theorem resolve_eq_toUtc {l : LocalTime} (h : ∀ c ∈ zone.changes, l.wall < c.first ∨ c.last ≤ l.wall) :
    zone.resolve l = zone.toUtc l.wall := by
  unfold resolve toUtc utcoffset
  rw [foldOffsetAfter_eq h, ite_self]

theorem fold_eq_true_iff (hsep : zone.Separated) {t : Instant} : (zone.astimezone t).fold = true ↔
      ∃ c ∈ zone.changes, c.instant ≤ t ∧ t - c.instant < c.before - c.after :=
  foldAfter_eq_true_iff hsep zone.ordered

/-- **An instant is read back** from its local time. -/
theorem resolve_astimezone (hsep : zone.Separated) (t : Instant) : zone.resolve (zone.astimezone t) = t := by
  cases hfold : (zone.astimezone t).fold with
  | true =>
    obtain ⟨c, hc, hct, hagain⟩ := (fold_eq_true_iff hsep).mp hfold
    have hwall := wall_eq_after hsep hc hct (.inr hagain)
    have hbefore : c.after < c.before := by linarith
    rw [resolve_of_mem hsep hc, hfold, if_pos rfl, wall_astimezone, hwall]
    · ring
    · rw [wall_astimezone, hwall, Change.first, min_eq_right hbefore.le]
      linarith
    · rw [wall_astimezone, hwall, Change.last, max_eq_left hbefore.le]
      linarith
  | false =>
    have hnever : ∀ c ∈ zone.changes, c.instant ≤ t → c.before - c.after ≤ t - c.instant := by
      intro c hc hct
      by_contra hagain
      rw [(fold_eq_true_iff hsep).mpr ⟨c, hc, hct, not_le.mp hagain⟩] at hfold
      cases hfold
    unfold resolve utcoffset
    rw [hfold, if_neg Bool.false_ne_true, wall_astimezone]
    show zone.wall t - wallOffsetAfter zone.offset zone.transitions (t + _) = t
    rw [wallOffsetAfter_wall hsep zone.ordered hnever]
    unfold wall
    ring

theorem unbroken_iff {w : WallTime} : zone.Unbroken w ↔ ∀ c ∈ zone.changes, w ≤ c.first ∨ c.last ≤ w :=
  unbroken_iff_changesFrom

/-- No wall time is shown that a change jumps over. -/
theorem not_mem_jump (hsep : zone.Separated) {c : Change} (hc : c ∈ zone.changes) (t : Instant) :
    zone.wall t < c.instant + c.before ∨ c.instant + c.after ≤ zone.wall t := by
  rcases lt_or_ge t c.instant with ht | ht
  · exact .inl (wall_lt_of_lt hsep hc ht)
  · exact .inr (le_wall_of_le hsep hc ht)

/-- A wall time that has come by a change is not resolved to an instant before. -/
theorem le_toUtc_of_last_le (hsep : zone.Separated) {c : Change} (hc : c ∈ zone.changes) {w : WallTime}
    (hw : c.last ≤ w) : c.last - c.after ≤ zone.toUtc w :=
  last_sub_after_le hsep zone.ordered hc hw

/-- Wall times are not shown again from the next change on. -/
theorem fold_eq_false_of_le (hsep : zone.Separated) {c : Change} (hc : c ∈ zone.changes) {t : Instant}
    (ht : t ≤ c.instant) (hforward : t = c.instant → c.before < c.after) (hwall : c.first ≤ zone.wall t) :
    (zone.astimezone t).fold = false := by
  by_contra hfold
  obtain ⟨c', hc', hct, hagain⟩ := (fold_eq_true_iff hsep).mp (Bool.not_eq_false _ ▸ hfold)
  have hback : c'.after < c'.before := by linarith
  rcases eq_or_last_le_first hsep hc' hc (hct.trans ht) with rfl | hle
  · exact absurd (hforward (le_antisymm ht hct)) (not_lt.mpr hback.le)
  · have hwall' := wall_eq_after hsep hc' hct (.inr hagain)
    have hlast := c'.before_le_last
    linarith

/-- A wall time that a change shows again is shown the first time before it. -/
theorem exists_wall_before (hsep : zone.Separated) {c : Change} (hc : c ∈ zone.changes) {w : WallTime}
    (hfirst : c.first ≤ w) (hlast : w < c.instant + c.before) :
    ∃ t < c.instant, w ≤ zone.wall t ∧ zone.wall t < c.instant + c.before ∧ (zone.astimezone t).fold = false := by
  obtain ⟨s, hs, hwall⟩ := exists_wall_eq_before hc
  have hbefore : w - c.before < c.instant := by linarith
  have heq := hwall (max s (w - c.before)) (le_max_left _ _) (max_lt hs hbefore)
  have hle : w ≤ zone.wall (max s (w - c.before)) := by
    rw [heq]
    linarith [le_max_right s (w - c.before)]
  refine ⟨max s (w - c.before), max_lt hs hbefore, hle, wall_lt_of_lt hsep hc (max_lt hs hbefore), ?_⟩
  exact fold_eq_false_of_le hsep hc (max_lt hs hbefore).le (fun h => absurd h (max_lt hs hbefore).ne)
    (hfirst.trans hle)

/-- A wall time that a change shows again is shown the second time. -/
theorem astimezone_again (hsep : zone.Separated) {c : Change} (hc : c ∈ zone.changes) {w : WallTime}
    (hfirst : c.instant + c.after ≤ w) (hlast : w < c.instant + c.before) :
    zone.astimezone (w - c.after) = { wall := w, fold := true } := by
  have ht : c.instant ≤ w - c.after := by linarith
  have hagain : w - c.after - c.instant < c.before - c.after := by linarith
  have hwall := wall_eq_after hsep hc ht (.inr hagain)
  have hfold := (fold_eq_true_iff hsep).mpr ⟨c, hc, ht, hagain⟩
  have heq : zone.astimezone (w - c.after) = ⟨zone.wall (w - c.after), (zone.astimezone (w - c.after)).fold⟩ := rfl
  rw [heq, hfold, hwall, sub_add_cancel]

/-! ### Times of day -/

/-- The time since midnight that a clock shows. -/
def timeOfDay (w : WallTime) : ℚ := w - midnight (dayNumber w)

theorem midnight_add_timeOfDay (w : WallTime) : midnight (dayNumber w) + timeOfDay w = w := add_sub_cancel _ _

theorem timeOfDay_nonneg (w : WallTime) : 0 ≤ timeOfDay w :=
  sub_nonneg.mpr ((le_dayNumber_iff (dayNumber w) w).mp le_rfl)

theorem timeOfDay_lt (w : WallTime) : timeOfDay w < 86400 := by
  have hnext : ¬ midnight (dayNumber w + 1) ≤ w := by
    rw [← le_dayNumber_iff]
    omega
  have hday : midnight (dayNumber w + 1) = midnight (dayNumber w) + 86400 := by
    unfold midnight
    push_cast
    ring
  rw [hday, not_le] at hnext
  exact sub_lt_iff_lt_add'.mpr hnext

theorem timeOfDay_midnight_add (n : ℤ) {x : ℚ} (hx : 0 ≤ x) (hlt : x < 86400) : timeOfDay (midnight n + x) = x := by
  have hday : dayNumber (midnight n + x) = n := by
    unfold dayNumber midnight
    rw [Int.floor_eq_iff, le_div_iff₀ (by norm_num), div_lt_iff₀ (by norm_num)]
    constructor <;> linarith
  unfold timeOfDay
  rw [hday]
  exact add_sub_cancel_left _ _

/-- **Between changes** the clock runs on. -/
theorem wall_add_of_no_change {s t : Instant} (hst : s ≤ t)
    (h : ∀ c ∈ zone.changes, c.instant ≤ s ∨ t < c.instant) : zone.wall t = zone.wall s + (t - s) := by
  have hinstants : ∀ d ∈ zone.transitions, d.1 ≤ s ∨ t < d.1 := by
    intro d hd
    have hmem : d.1 ∈ zone.changes.map Change.instant := by
      rw [changes, map_instant_changesFrom]
      exact List.mem_map_of_mem hd
    obtain ⟨c, hc, heq⟩ := List.mem_map.mp hmem
    rw [← heq]
    exact h c hc
  unfold wall
  rw [offsetAfter_eq_of_no_change hst hinstants]
  ring

/-- Either no change has come since an instant, or there is a last one that has. -/
theorem exists_last_change (zone : TimeZone) {a t : Instant} (hat : a ≤ t) :
    ∃ r, a ≤ r ∧ r ≤ t ∧ (r = a ∨ a < r ∧ ∃ c ∈ zone.changes, c.instant = r)
      ∧ ∀ c ∈ zone.changes, c.instant ≤ r ∨ t < c.instant := by
  obtain ⟨between, hbetween⟩ : ∃ l, l = (zone.changes.map Change.instant).filter fun i => decide (a < i ∧ i ≤ t) :=
    ⟨_, rfl⟩
  have hmem : ∀ i, i ∈ between ↔ (∃ c ∈ zone.changes, c.instant = i) ∧ a < i ∧ i ≤ t := by
    intro i
    rw [hbetween, List.mem_filter, decide_eq_true_eq, List.mem_map]
  cases hlast : between.argmax id with
  | none =>
    have hnil := List.argmax_eq_none.mp hlast
    refine ⟨a, le_rfl, hat, .inl rfl, fun c hc => ?_⟩
    by_contra hnot
    obtain ⟨hafter, hbefore⟩ := not_or.mp hnot
    have hin := (hmem c.instant).mpr ⟨⟨c, hc, rfl⟩, not_le.mp hafter, not_lt.mp hbefore⟩
    rw [hnil] at hin
    exact absurd hin List.not_mem_nil
  | some r =>
    obtain ⟨hchange, har, hrt⟩ := (hmem r).mp (List.argmax_mem hlast)
    refine ⟨r, har.le, hrt, .inr ⟨har, hchange⟩, fun c hc => ?_⟩
    by_contra hnot
    obtain ⟨hafter, hbefore⟩ := not_or.mp hnot
    have hin := (hmem c.instant).mpr ⟨⟨c, hc, rfl⟩, har.trans (not_le.mp hafter), not_lt.mp hbefore⟩
    exact hafter (List.le_of_mem_argmax hin hlast)

end TimeZone

end EnergyCore.TimeZones
