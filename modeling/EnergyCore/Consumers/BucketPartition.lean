import EnergyCore.Consumers.PeriodBounds

/-!
# Buckets and the clock

Every instant lies in the bounds of its period, and different bounds do not meet, unless the clock of the place is set
back over the start of a period or forward from one.

* `partitionsTime_iff` — the zones and granularities for which the bounds partition time;
* `hour_repeated` — the hour that is shown twice in autumn is not in one bucket, nor in two.
-/

namespace EnergyCore.Consumers

open Calendar KeyedTotals KeywordFields StepRun TimeZones

/-! ### The partition -/

/-- The bounds of a granularity partition time, and intervals are grouped and counted by them. -/
structure PartitionsTime (zone : TimeZone) (granularity : Granularity) : Prop where
  mem : ∀ t, ∃ b, periodBounds granularity t zone = some b ∧ t ∈ Set.Ico b.1 b.2
  eq_or_disjoint : ∀ t u b c, periodBounds granularity t zone = some b → periodBounds granularity u zone = some c →
    b = c ∨ Disjoint (Set.Ico b.1 b.2) (Set.Ico c.1 c.2)
  grouped : granularity ≠ .year → ∀ (σ : Type) (intervals : List (ConsumerInterval σ)), ∀ a ∈ intervals,
    ∀ a' ∈ intervals, (∃ group ∈ groupIntervalsByLocalPeriod intervals granularity zone, a ∈ group.2 ∧ a' ∈ group.2) ↔
      periodBounds granularity a.startTime zone = periodBounds granularity a'.startTime zone
  counted_once : ∀ (σ : Type) (intervals : List (ConsumerInterval σ)) (consumerId : ℕ) (t u : Instant), ∀ b c,
    periodBounds granularity t zone = some b → periodBounds granularity u zone = some c →
      ∀ a ∈ intervalsForPeriod intervals consumerId b.1 b.2, a ∈ intervalsForPeriod intervals consumerId c.1 c.2 → b = c

theorem mem_intervalsForPeriod {σ : Type} {intervals : List (ConsumerInterval σ)} {consumerId : ℕ} {b : Instant × Instant}
    {a : ConsumerInterval σ} : a ∈ intervalsForPeriod intervals consumerId b.1 b.2 ↔
      a ∈ intervals ∧ a.consumerId = consumerId ∧ a.startTime ∈ Set.Ico b.1 b.2 := by
  unfold intervalsForPeriod
  rw [List.mem_mergeSort, List.mem_filter, decide_eq_true_eq]
  rfl

/-- **When the bounds partition time.** Exactly if the changes of the zone leave the periods clean. -/
theorem partitionsTime_iff {zone : TimeZone} {granularity : Granularity} (hsep : zone.Separated)
    (h : granularity ≠ .other) :
    PartitionsTime zone granularity ↔ granularity.periods.Clean granularity.keepsFold zone := by
  rw [← Periods.tiles_iff_clean hsep]
  have hbounds := fun t => periodBounds_eq h t zone
  constructor
  · intro hpartition
    refine ⟨fun t => ?_, fun t u => hpartition.eq_or_disjoint t u _ _ (hbounds t) (hbounds u)⟩
    obtain ⟨b, hb, hmem⟩ := hpartition.mem t
    rw [hbounds t, Option.some.injEq] at hb
    rw [hb]
    exact hmem
  · intro htiles
    refine ⟨fun t => ⟨_, hbounds t, htiles.mem t⟩, fun t u b c hb hc => ?_, fun hyear σ intervals a ha a' ha' => ?_,
      fun σ intervals consumerId t u b c hb hc a ha ha' => ?_⟩
    · rw [hbounds, Option.some.injEq] at hb hc
      rw [← hb, ← hc]
      exact htiles.eq_or_disjoint t u
    · rw [together_iff ha ha', groupKey_eq hyear h, groupKey_eq hyear h, hbounds, hbounds, Option.some.injEq]
      exact htiles.eq_iff_start_eq
    · rw [hbounds, Option.some.injEq] at hb hc
      obtain ⟨-, -, hmem⟩ := mem_intervalsForPeriod.mp ha
      obtain ⟨-, -, hmem'⟩ := mem_intervalsForPeriod.mp ha'
      rw [← hb] at hmem
      rw [← hc] at hmem'
      rw [← hb, ← hc, htiles.eq_of_mem hmem, htiles.eq_of_mem hmem']

/-- Central European time, with the summer time of 2026. -/
def europeStockholm : TimeZone where
  offset := 3600
  transitions := [(1774746000, 7200), (1792890000, 3600)]
  ordered := by decide +kernel
  wallOrdered := by decide +kernel
  bounded := by decide +kernel

/-- Months partition time in Central Europe. -/
theorem europeStockholm_month : PartitionsTime europeStockholm .month :=
  (@partitionsTime_iff europeStockholm .month (show List.Pairwise _ _ by decide +kernel) (by decide)).mpr
    (by decide +kernel)

/-- **The hour that is shown twice.** Both of its showings end together, and the first one does not end before the second
begins. -/
theorem hour_repeated : ¬ PartitionsTime europeStockholm .hour := by
  intro h
  have hfirst : periodBounds .hour 1792888200 europeStockholm = some (1792886400, 1792893600) := by decide +kernel
  have hsecond : periodBounds .hour 1792891800 europeStockholm = some (1792890000, 1792893600) := by decide +kernel
  rcases h.eq_or_disjoint _ _ _ _ hfirst hsecond with heq | hdisjoint
  · exact absurd heq (by decide +kernel)
  · have hmem : (1792891800 : Instant) ∈ Set.Ico (1792886400 : Instant) 1792893600 := ⟨by norm_num, by norm_num⟩
    exact Set.disjoint_left.mp hdisjoint hmem ⟨by norm_num, by norm_num⟩

end EnergyCore.Consumers
