import EnergyCore.SpaEnergy.FilterPolicy

/-!
# The allowed window of a day

The bounds of the window that the spa may filter in, as they are computed from a reference.

* `InWindow.stays` — the clock stays in a window until its closing time;
* `inWindow_between` — while no change sets the clock out of the window and it does not show the closing time, the
  window stays open;
* `boundsWindow_iff` — when the bounds are those of the window, from the reference on.
-/

namespace EnergyCore.SpaEnergy

open TimeZones TimeZone

/-! ### The window -/

def ClockTime.seconds (t : ClockTime) : ℚ := (t.minutes * 60 : ℤ)

theorem ClockTime.seconds_nonneg (t : ClockTime) : 0 ≤ t.seconds := by
  have h : 0 ≤ t.minutes * 60 := by
    unfold ClockTime.minutes
    positivity
  unfold ClockTime.seconds
  exact_mod_cast h

theorem ClockTime.seconds_lt (t : ClockTime) : t.seconds < 86400 := by
  have h : t.minutes * 60 < 86400 := by
    have hhour := t.hour_lt
    have hminute := t.minute_lt
    unfold ClockTime.minutes
    omega
  unfold ClockTime.seconds
  exact_mod_cast h

/-- The times of day of a window, which goes over midnight if it does not close after it opens. -/
def InWindow (start stop : ClockTime) (x : ℚ) : Prop :=
  if start.seconds < stop.seconds then start.seconds ≤ x ∧ x < stop.seconds
  else start.seconds ≤ x ∨ x < stop.seconds

variable {zone : TimeZone} {reference : Instant} {start stop : ClockTime} {w : WallTime} {δ : ℚ}

theorem inWindow_of_eq (h : start.seconds = stop.seconds) (x : ℚ) : InWindow start stop x := by
  unfold InWindow
  rw [if_neg h.not_lt, h]
  exact le_or_gt _ _

theorem not_inWindow_stop (h : start.seconds ≠ stop.seconds) : ¬ InWindow start stop stop.seconds := by
  unfold InWindow
  split_ifs with hlt
  · exact fun hin => absurd hin.2 (lt_irrefl _)
  · rintro (hle | hlt)
    · exact h (le_antisymm hle (not_lt.mp hlt))
    · exact absurd hlt (lt_irrefl _)

/-- The clock stays in the window until its closing time. -/
theorem InWindow.stays (h : InWindow start stop (timeOfDay w)) (hδ : 0 ≤ δ)
    (hclosing : ∀ ε, 0 < ε → ε ≤ δ → timeOfDay (w + ε) ≠ stop.seconds) : InWindow start stop (timeOfDay (w + δ)) := by
  have hw := midnight_add_timeOfDay w
  have hx := timeOfDay_nonneg w
  have hxlt := timeOfDay_lt w
  have hstop := stop.seconds_nonneg
  have hstopLt := stop.seconds_lt
  have hstart := start.seconds_nonneg
  obtain ⟨n, hn⟩ : ∃ n, n = dayNumber w := ⟨_, rfl⟩
  obtain ⟨x, hxw⟩ : ∃ x, x = timeOfDay w := ⟨_, rfl⟩
  rw [← hn, ← hxw] at hw
  rw [← hxw] at h hx hxlt
  -- the closing time is shown when the clock has gone on from `w` to it
  have hearlier : ∀ m : ℤ, w < midnight m + stop.seconds → w + δ < midnight m + stop.seconds := by
    intro m hm
    by_contra hpast
    refine hclosing (midnight m + stop.seconds - w) (sub_pos.mpr hm) ?_ ?_
    · linarith [not_lt.mp hpast]
    · rw [add_sub_cancel]
      exact timeOfDay_midnight_add m hstop hstopLt
  have hsame : midnight n + (x + δ) = w + δ := by rw [← add_assoc, hw]
  unfold InWindow at h ⊢
  split_ifs at h ⊢ with hday
  · have hbefore := hearlier n (by linarith [h.2])
    have hend : x + δ < stop.seconds := by linarith
    rw [← hsame, timeOfDay_midnight_add n (by linarith) (by linarith)]
    exact ⟨by linarith [h.1], hend⟩
  · rcases h with hevening | hmorning
    · have hnext : midnight (n + 1) = midnight n + 86400 := by
        unfold midnight
        push_cast
        ring
      have hbefore := hearlier (n + 1) (by linarith)
      rcases lt_or_ge (x + δ) 86400 with htoday | htomorrow
      · rw [← hsame, timeOfDay_midnight_add n (by linarith) htoday]
        exact .inl (by linarith)
      · have htomorrowEq : midnight (n + 1) + (x + δ - 86400) = w + δ := by
          rw [hnext]
          linarith
        rw [← htomorrowEq, timeOfDay_midnight_add (n + 1) (by linarith) (by linarith)]
        exact .inr (by linarith)
    · have hbefore := hearlier n (by linarith)
      rw [← hsame, timeOfDay_midnight_add n (by linarith) (by linarith)]
      exact .inr (by linarith)

/-! ### Between two instants -/

/-- Between two instants, no change sets the clock out of the window, and it does not show the closing time. -/
structure StaysOpen (zone : TimeZone) (start stop : ClockTime) (a b : Instant) : Prop where
  changes : ∀ c ∈ zone.changes, a < c.instant → c.instant < b → InWindow start stop (timeOfDay (zone.wall c.instant))
  closing : start.seconds ≠ stop.seconds → ∀ t, a ≤ t → t < b → timeOfDay (zone.wall t) ≠ stop.seconds

/-- **An open window** stays open. -/
theorem inWindow_between {a b : Instant} (hopen : InWindow start stop (timeOfDay (zone.wall a)))
    (h : StaysOpen zone start stop a b) {t : Instant} (hat : a ≤ t) (htb : t < b) :
    InWindow start stop (timeOfDay (zone.wall t)) := by
  by_cases hsame : start.seconds = stop.seconds
  · exact inWindow_of_eq hsame _
  · obtain ⟨r, har, hrt, hlast, hnone⟩ := zone.exists_last_change hat
    have hr : InWindow start stop (timeOfDay (zone.wall r)) := by
      rcases hlast with rfl | ⟨hafter, c, hc, rfl⟩
      · exact hopen
      · exact h.changes c hc hafter (hrt.trans_lt htb)
    have hruns : ∀ s, r ≤ s → s ≤ t → zone.wall s = zone.wall r + (s - r) := by
      intro s hrs hst
      refine wall_add_of_no_change hrs fun c hc => ?_
      rcases hnone c hc with hle | hlt
      · exact .inl hle
      · exact .inr (hst.trans_lt hlt)
    rw [hruns t hrt le_rfl]
    refine hr.stays (sub_nonneg.mpr hrt) fun ε hε hle => ?_
    have hs := hruns (r + ε) (by linarith) (by linarith)
    rw [add_sub_cancel_left] at hs
    rw [← hs]
    exact h.closing hsame (r + ε) (by linarith) (by linarith)

/-! ### The bounds -/

/-- The opening of the window on the date of the reference. -/
def opening (zone : TimeZone) (reference : Instant) (start : ClockTime) : LocalTime :=
  replaceTime (zone.astimezone reference) start

/-- The closing of the window that opens on the date of the reference. -/
def closing (zone : TimeZone) (reference : Instant) (start stop : ClockTime) : LocalTime :=
  let latest := replaceTime (zone.astimezone reference) stop
  if latest.wall ≤ (opening zone reference start).wall then { wall := latest.wall + 86400 } else latest

/-- The clock shows a later time than the opening. -/
def Opened (zone : TimeZone) (reference : Instant) (start : ClockTime) : Prop :=
  (opening zone reference start).wall < zone.wall reference

instance : Decidable (Opened zone reference start) := inferInstanceAs (Decidable (_ < _))

theorem windowBounds_eq (hzone : zone.Separated) : windowBounds zone reference start stop
      = (if Opened zone reference start then reference else zone.resolve (opening zone reference start),
        zone.resolve (closing zone reference start stop)) := by
  unfold windowBounds closing opening
  dsimp only
  rw [wall_astimezone]
  congr 1
  by_cases hopened : Opened zone reference start
  · rw [if_pos hopened, if_pos (show (replaceTime (zone.astimezone reference) start).wall < _ from hopened)]
    exact resolve_astimezone hzone reference
  · rw [if_neg hopened, if_neg (show ¬ (replaceTime (zone.astimezone reference) start).wall < _ from hopened)]

/-- The bounds are those of the allowed window from the reference on. -/
structure BoundsWindow (zone : TimeZone) (reference : Instant) (start stop : ClockTime) : Prop where
  ordered : (windowBounds zone reference start stop).1 ≤ (windowBounds zone reference start stop).2
  allowed : ∀ t, (windowBounds zone reference start stop).1 ≤ t → t < (windowBounds zone reference start stop).2 →
    InWindow start stop (timeOfDay (zone.wall t)) ∧ reference ≤ t
  opened : InWindow start stop (timeOfDay (zone.wall reference)) →
    (windowBounds zone reference start stop).1 = reference

/-- The window has opened, and the reference is not past its end; the clock has not shown the closing time, and the
window stays open. -/
def OpenNow (zone : TimeZone) (reference : Instant) (start stop : ClockTime) : Prop :=
  let closes := zone.resolve (closing zone reference start stop)
  reference ≤ closes
    ∧ (reference < closes → zone.wall reference < (closing zone reference start stop).wall
      ∧ StaysOpen zone start stop reference closes)

/-- The window opens at the reference or later on its date, not behind its end, and stays open; and if it goes over
midnight, then the window of the evening before has closed. -/
def OpensLater (zone : TimeZone) (reference : Instant) (start stop : ClockTime) : Prop :=
  let opens := zone.resolve (opening zone reference start)
  let closes := zone.resolve (closing zone reference start stop)
  opens ≤ closes
    ∧ (stop.seconds ≤ start.seconds → timeOfDay (zone.wall reference) < stop.seconds → opens = reference)
    ∧ (opens < closes → reference ≤ opens ∧ InWindow start stop (timeOfDay (zone.wall opens))
      ∧ StaysOpen zone start stop opens closes)

theorem wall_opening : (opening zone reference start).wall = midnight (zone.localDay reference) + start.seconds := by
  unfold opening replaceTime ClockTime.seconds localDay
  rw [wall_astimezone]
  push_cast
  rfl

theorem wall_closing : (closing zone reference start stop).wall
    = midnight (zone.localDay reference) + (if stop.seconds ≤ start.seconds then stop.seconds + 86400 else stop.seconds) := by
  have hlatest : (replaceTime (zone.astimezone reference) stop).wall
      = midnight (zone.localDay reference) + stop.seconds := wall_opening
  have hnight : (replaceTime (zone.astimezone reference) stop).wall ≤ (opening zone reference start).wall
      ↔ stop.seconds ≤ start.seconds := by
    rw [wall_opening, hlatest, add_le_add_iff_left]
  unfold closing
  dsimp only
  by_cases h : stop.seconds ≤ start.seconds
  · rw [if_pos (hnight.mpr h), if_pos h, hlatest]
    exact add_assoc _ _ _
  · rw [if_neg (hnight.not.mpr h), if_neg h, hlatest]

theorem wall_eq_add (zone : TimeZone) (reference : Instant) :
    zone.wall reference = midnight (zone.localDay reference) + timeOfDay (zone.wall reference) :=
  (midnight_add_timeOfDay _).symm

theorem opened_iff : Opened zone reference start ↔ start.seconds < timeOfDay (zone.wall reference) := by
  unfold Opened
  rw [wall_opening, wall_eq_add zone reference, add_lt_add_iff_left, ← wall_eq_add]

/-- Once the window has opened, the reference is in it until the closing. -/
theorem inWindow_iff_of_opened (h : Opened zone reference start) :
    InWindow start stop (timeOfDay (zone.wall reference))
      ↔ zone.wall reference < (closing zone reference start stop).wall := by
  have hlt := timeOfDay_lt (zone.wall reference)
  have hstop := stop.seconds_nonneg
  have hopened := opened_iff.mp h
  rw [wall_closing, wall_eq_add zone reference, add_lt_add_iff_left, ← wall_eq_add]
  unfold InWindow
  split_ifs with hday hnight hnight
  · exact absurd hday (not_lt.mpr hnight)
  · exact and_iff_right hopened.le
  · exact iff_of_true (.inl hopened.le) (by linarith)
  · exact absurd (not_lt.mp hday) hnight

/-- Before the window has opened, the reference is in it as it opens, or in that of the evening before. -/
theorem inWindow_iff_of_not_opened (h : ¬ Opened zone reference start) :
    InWindow start stop (timeOfDay (zone.wall reference)) ↔ start.seconds = timeOfDay (zone.wall reference)
        ∨ stop.seconds ≤ start.seconds ∧ timeOfDay (zone.wall reference) < stop.seconds := by
  rw [opened_iff, not_lt] at h
  have hstart : start.seconds ≤ timeOfDay (zone.wall reference)
      ↔ start.seconds = timeOfDay (zone.wall reference) := ⟨fun hle => le_antisymm hle h, fun heq => heq.le⟩
  unfold InWindow
  split_ifs with hday
  · rw [hstart, or_iff_left fun hnight => absurd hday (not_lt.mpr hnight.1)]
    exact and_iff_left_of_imp fun heq => heq ▸ hday
  · rw [hstart, and_iff_right (not_lt.mp hday)]

theorem resolve_opening (hzone : zone.Separated) (h : start.seconds = timeOfDay (zone.wall reference)) :
    zone.resolve (opening zone reference start) = reference := by
  have hopening : opening zone reference start = zone.astimezone reference := by
    have hwall : (opening zone reference start).wall = (zone.astimezone reference).wall := by
      rw [wall_opening, h, wall_astimezone, ← wall_eq_add]
    unfold opening replaceTime at hwall ⊢
    dsimp only at hwall
    rw [hwall]
  rw [hopening]
  exact resolve_astimezone hzone reference

theorem staysOpen_of_forall {a b : Instant}
    (h : ∀ t, a ≤ t → t < b → InWindow start stop (timeOfDay (zone.wall t))) : StaysOpen zone start stop a b where
  changes := fun c _ hac hcb => h c.instant hac.le hcb
  closing := fun hne t hat htb heq => not_inWindow_stop hne (heq ▸ h t hat htb)

/-- **The allowed window.** The bounds are right exactly if the window has opened and is not over, and the clock does
not leave it before its end; or if it opens later, and was not open since the evening before. -/
theorem boundsWindow_iff (hzone : zone.Separated) (reference : Instant) (start stop : ClockTime) :
    BoundsWindow zone reference start stop ↔ if Opened zone reference start then OpenNow zone reference start stop
      else OpensLater zone reference start stop := by
  have hbounds : windowBounds zone reference start stop = _ := windowBounds_eq hzone
  split_ifs with hopened
  · rw [if_pos hopened] at hbounds
    have hinside : InWindow start stop (timeOfDay (zone.wall reference)) ↔ _ := inWindow_iff_of_opened hopened
    constructor
    · rintro ⟨hordered, hallowed, -⟩
      rw [hbounds] at hordered hallowed
      refine ⟨hordered, fun hlt => ⟨hinside.mp (hallowed reference le_rfl hlt).1, ?_⟩⟩
      exact staysOpen_of_forall fun t hat htb => (hallowed t hat htb).1
    · rintro ⟨hordered, hopen⟩
      refine ⟨?_, ?_, ?_⟩
      · rw [hbounds]
        exact hordered
      · rw [hbounds]
        intro t hat htb
        obtain ⟨hin, hstays⟩ := hopen (hat.trans_lt htb)
        exact ⟨inWindow_between (hinside.mpr hin) hstays hat htb, hat⟩
      · rw [hbounds]
        exact fun _ => rfl
  · rw [if_neg hopened] at hbounds
    have hinside : InWindow start stop (timeOfDay (zone.wall reference)) ↔ _ := inWindow_iff_of_not_opened hopened
    constructor
    · rintro ⟨hordered, hallowed, hin⟩
      rw [hbounds] at hordered hallowed hin
      refine ⟨hordered, fun hnight hmorning => hin (hinside.mpr (.inr ⟨hnight, hmorning⟩)), fun hlt => ?_⟩
      obtain ⟨hopen, hle⟩ := hallowed _ le_rfl hlt
      exact ⟨hle, hopen, staysOpen_of_forall fun t hat htb => (hallowed t hat htb).1⟩
    · rintro ⟨hordered, hnight, hopen⟩
      refine ⟨?_, ?_, ?_⟩
      · rw [hbounds]
        exact hordered
      · rw [hbounds]
        intro t hat htb
        obtain ⟨hle, hopens, hstays⟩ := hopen (hat.trans_lt htb)
        exact ⟨inWindow_between hopens hstays hat htb, hle.trans hat⟩
      · rw [hbounds]
        intro hin
        rcases hinside.mp hin with heq | ⟨hover, hmorning⟩
        · exact resolve_opening hzone heq
        · exact hnight hover hmorning

/-! ### Zones without changes -/

section

variable (hfixed : zone.transitions = [])

include hfixed

end

namespace WindowDemo

def clock (text : String) (hour : ℕ) (hour_lt : hour < 24) : ClockTime where
  text := text
  hour := hour
  minute := 0
  hour_lt := hour_lt
  minute_lt := Nat.succ_pos 59

def six : ClockTime := clock "06:00" 6 (by decide)

def seven : ClockTime := clock "07:00" 7 (by decide)

def twentyTwo : ClockTime := clock "22:00" 22 (by decide)

theorem separated_utc : utc.Separated := List.Pairwise.nil

/-- At noon, the rest of the day's window is ahead. -/
theorem boundsWindow_noon : utc.Separated ∧ (BoundsWindow utc 43200 seven twentyTwo ↔
      if Opened utc 43200 seven then OpenNow utc 43200 seven twentyTwo else OpensLater utc 43200 seven twentyTwo) :=
  ⟨separated_utc, boundsWindow_iff separated_utc 43200 seven twentyTwo⟩

/-- **Windows past and open.** At eleven in the evening, the window of the day begins after its end; at two in the
morning, the window over midnight is open, and begins in the evening. -/
theorem windows_past_and_open :
    windowBounds utc 82800 seven twentyTwo = (82800, 79200) ∧ ¬ BoundsWindow utc 82800 seven twentyTwo
      ∧ windowBounds utc 7200 twentyTwo six = (79200, 108000)
      ∧ InWindow twentyTwo six (timeOfDay (utc.wall 7200)) ∧ ¬ BoundsWindow utc 7200 twentyTwo six := by
  have hpast : windowBounds utc 82800 seven twentyTwo = (82800, 79200) := by decide +kernel
  have hopen : windowBounds utc 7200 twentyTwo six = (79200, 108000) := by decide +kernel
  have hin : InWindow twentyTwo six (timeOfDay (utc.wall 7200)) := by
    unfold InWindow
    decide +kernel
  refine ⟨hpast, fun h => ?_, hopen, hin, fun h => ?_⟩
  · have hordered := h.ordered
    rw [hpast] at hordered
    norm_num at hordered
  · have hopened := h.opened hin
    rw [hopen] at hopened
    norm_num at hopened

end WindowDemo

end EnergyCore.SpaEnergy
