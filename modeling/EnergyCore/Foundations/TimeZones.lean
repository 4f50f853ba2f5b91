import EnergyCore.Foundations.Clock

/-!
# Time zones

A zone is a table of transitions, each with the offset from then on. Instants have a wall time; a wall time
is resolved to an instant the way `zoneinfo` resolves it with `fold=0`.

* `toUtc_le_iff` — the instants with a wall time from `w` on are those from `toUtc w` on, unless a transition
  jumps over `w`;
* `dayNumber_toUtc_midnight` — a local midnight lies on the same UTC day, or on the day before it east of UTC.
-/

namespace EnergyCore.TimeZones

/-- A number of seconds on the clock of a place. -/
abbrev WallTime := ℚ

/-- The wall times that the transitions wait for. -/
def wallTimes : ℚ → List (Instant × ℚ) → List WallTime
  | _, [] => []
  | offset, (instant, next) :: rest => (instant + max offset next) :: wallTimes next rest

/-- Transitions in the order of both clocks, and offsets of less than a day. -/
structure TimeZone where
  offset : ℚ
  transitions : List (Instant × ℚ)
  ordered : transitions.Pairwise fun c c' => c.1 < c'.1
  wallOrdered : (wallTimes offset transitions).Pairwise fun w w' => w < w'
  bounded : ∀ o ∈ offset :: transitions.map Prod.snd, -86400 < o ∧ o < 86400

/-! ### Offsets -/

/-- The offset of the last transition at or before an instant. -/
def offsetAfter : ℚ → List (Instant × ℚ) → Instant → ℚ
  | offset, [], _ => offset
  | offset, (instant, next) :: rest, t => if t < instant then offset else offsetAfter next rest t

/-- The offset that `zoneinfo` resolves a wall time with: the last transition whose wall time, on the later
of the two clocks, has come. -/
def wallOffsetAfter : ℚ → List (Instant × ℚ) → WallTime → ℚ
  | offset, [], _ => offset
  | offset, (instant, next) :: rest, w =>
    if w < instant + max offset next then offset else wallOffsetAfter next rest w

/-- No transition jumps from one side of `w` to the other. -/
def Unbroken : ℚ → List (Instant × ℚ) → WallTime → Prop
  | _, [], _ => True
  | offset, (instant, next) :: rest, w =>
    (w ≤ instant + min offset next ∨ instant + max offset next ≤ w) ∧ Unbroken next rest w

instance Unbroken.instDecidable : ∀ (offset : ℚ) (transitions : List (Instant × ℚ)) (w : WallTime),
    Decidable (Unbroken offset transitions w)
  | _, [], _ => .isTrue trivial
  | _, (_, next) :: rest, w => @instDecidableAnd _ _ _ (Unbroken.instDecidable next rest w)

theorem wallOffsetAfter_mem (offset : ℚ) (transitions : List (Instant × ℚ)) (w : WallTime) :
    wallOffsetAfter offset transitions w ∈ offset :: transitions.map Prod.snd := by
  induction transitions generalizing offset with
  | nil => exact List.mem_cons_self
  | cons c rest ih =>
    unfold wallOffsetAfter
    split_ifs
    · exact List.mem_cons_self
    · exact List.mem_cons_of_mem _ (ih c.2)

section

variable {offset : ℚ} {transitions : List (Instant × ℚ)} {w : WallTime}

/-- A clock that has come to `w` is not set back behind it again. -/
theorem le_wall_of_unbroken (h : Unbroken offset transitions w)
    (hordered : transitions.Pairwise fun c c' => c.1 < c'.1) {s t : Instant} (hs : w ≤ s + offset)
    (hst : s ≤ t) (hlater : ∀ c ∈ transitions, s < c.1) : w ≤ t + offsetAfter offset transitions t := by
  induction transitions generalizing offset s with
  | nil =>
    unfold offsetAfter
    linarith
  | cons c rest ih =>
    obtain ⟨hjump, hrest⟩ := h
    obtain ⟨hnext, hordered⟩ := List.pairwise_cons.mp hordered
    have hc := hlater c List.mem_cons_self
    unfold offsetAfter
    split_ifs with hbefore
    · linarith
    · refine ih hrest hordered ?_ (not_lt.mp hbefore) hnext
      rcases hjump with hjump | hjump
      · linarith [min_le_right offset c.2]
      · linarith [le_max_left offset c.2]

/-- A wall time that has come by `s` is not resolved to an earlier instant. -/
theorem le_sub_wallOffsetAfter (hordered : transitions.Pairwise fun c c' => c.1 < c'.1) {s : Instant}
    (hs : s + offset ≤ w) (hlater : ∀ c ∈ transitions, s ≤ c.1) : s ≤ w - wallOffsetAfter offset transitions w := by
  induction transitions generalizing offset s with
  | nil =>
    unfold wallOffsetAfter
    linarith
  | cons c rest ih =>
    obtain ⟨hnext, hordered⟩ := List.pairwise_cons.mp hordered
    have hc := hlater c List.mem_cons_self
    unfold wallOffsetAfter
    split_ifs with hbefore
    · linarith
    · have hwall : c.1 + c.2 ≤ w := by linarith [le_max_right offset c.2]
      exact hc.trans (ih hordered hwall fun c' hc' => (hnext c' hc').le)

theorem sub_wallOffsetAfter_le_iff (h : Unbroken offset transitions w)
    (hordered : transitions.Pairwise fun c c' => c.1 < c'.1) (t : Instant) :
    w - wallOffsetAfter offset transitions w ≤ t ↔ w ≤ t + offsetAfter offset transitions t := by
  induction transitions generalizing offset with
  | nil =>
    unfold wallOffsetAfter offsetAfter
    exact sub_le_iff_le_add
  | cons c rest ih =>
    obtain ⟨hjump, hrest⟩ := h
    obtain ⟨hnext, hordered⟩ := List.pairwise_cons.mp hordered
    unfold wallOffsetAfter
    split_ifs with hwaits
    · -- the clock comes to `w` before the transition, and stays there
      have hjump : w ≤ c.1 + min offset c.2 := hjump.resolve_right (not_le.mpr hwaits)
      by_cases hbefore : t < c.1
      · rw [offsetAfter, if_pos hbefore]
        exact sub_le_iff_le_add
      · have hbefore := not_lt.mp hbefore
        refine iff_of_true (by linarith [min_le_left offset c.2]) ?_
        rw [offsetAfter, if_neg (not_lt.mpr hbefore)]
        exact le_wall_of_unbroken hrest hordered (by linarith [min_le_right offset c.2]) hbefore hnext
    · have hwaits := not_lt.mp hwaits
      by_cases hbefore : t < c.1
      · have hresolved := le_sub_wallOffsetAfter hordered
          (show c.1 + c.2 ≤ w by linarith [le_max_right offset c.2]) fun c' hc' => (hnext c' hc').le
        refine iff_of_false (by linarith) ?_
        rw [offsetAfter, if_pos hbefore]
        linarith [le_max_left offset c.2]
      · rw [offsetAfter, if_neg hbefore]
        exact ih hrest hordered

end

/-! ### Instants and wall times -/

namespace TimeZone

variable (zone : TimeZone)

/-- `astimezone(zone)`. -/
def wall (t : Instant) : WallTime := t + offsetAfter zone.offset zone.transitions t

/-- `utcoffset()` of a wall time. -/
def utcoffset (w : WallTime) : ℚ := wallOffsetAfter zone.offset zone.transitions w

/-- `astimezone(UTC)` of a wall time. -/
def toUtc (w : WallTime) : Instant := w - zone.utcoffset w

def Unbroken (w : WallTime) : Prop := TimeZones.Unbroken zone.offset zone.transitions w

instance (w : WallTime) : Decidable (zone.Unbroken w) := Unbroken.instDecidable _ _ w

/-- The number of the day of a wall time, counted from the epoch. -/
def dayNumber (w : WallTime) : ℤ := ⌊w / 86400⌋

/-- The wall time at which a day begins. -/
def midnight (n : ℤ) : WallTime := 86400 * n

/-- The local day of an instant. -/
def localDay (t : Instant) : ℤ := dayNumber (zone.wall t)

/-- **A wall time that no transition jumps over** separates the instants. -/
theorem toUtc_le_iff {w : WallTime} (h : zone.Unbroken w) (t : Instant) :
    zone.toUtc w ≤ t ↔ w ≤ zone.wall t := sub_wallOffsetAfter_le_iff h zone.ordered t

theorem le_dayNumber_iff (n : ℤ) (w : WallTime) : n ≤ dayNumber w ↔ midnight n ≤ w := by
  rw [dayNumber, Int.le_floor, midnight, le_div_iff₀ (by norm_num), mul_comm]

/-- The days from one on begin with its midnight. -/
theorem le_localDay_iff {n : ℤ} (h : zone.Unbroken (midnight n)) (t : Instant) :
    n ≤ zone.localDay t ↔ zone.toUtc (midnight n) ≤ t := by
  rw [localDay, le_dayNumber_iff, zone.toUtc_le_iff h]

theorem utcoffset_bounded (w : WallTime) : -86400 < zone.utcoffset w ∧ zone.utcoffset w < 86400 :=
  zone.bounded _ (wallOffsetAfter_mem _ _ w)

/-- **The UTC day of a local midnight.** -/
theorem dayNumber_toUtc_midnight (n : ℤ) : dayNumber (zone.toUtc (midnight n))
      = if zone.utcoffset (midnight n) ≤ 0 then n else n - 1 := by
  obtain ⟨hlo, hhi⟩ := zone.utcoffset_bounded (midnight n)
  have hmidnight : midnight n = 86400 * n := rfl
  rw [dayNumber, Int.floor_eq_iff, toUtc, le_div_iff₀ (by norm_num), div_lt_iff₀ (by norm_num)]
  split_ifs with hwest
  · constructor <;> linarith
  · have heast := not_le.mp hwest
    push_cast
    constructor <;> linarith

end TimeZone

/-- A zone without transitions. -/
def fixedZone (offset : ℚ) (h : -86400 < offset ∧ offset < 86400) : TimeZone where
  offset := offset
  transitions := []
  ordered := List.Pairwise.nil
  wallOrdered := List.Pairwise.nil
  bounded := by
    intro o ho
    rw [List.mem_singleton.mp ho]
    exact h

def utc : TimeZone := fixedZone 0 (by norm_num)

@[simp] theorem wall_utc (t : Instant) : utc.wall t = t := add_zero t

end EnergyCore.TimeZones
