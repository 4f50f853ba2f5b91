import EnergyCore.Foundations.Clock
import EnergyCore.Foundations.KeyedTotals
import Mathlib.Tactic.NormNum

/-!
# The smart charging schedule

`should_charge_smart` compares the current hour with the hours of a price forecast, up to the departure or for a day.
The window of the comparison begins at the exact time of the call, while the prices are those of whole hours.

* `mem_keys_hourlySlots` — the hours of a window;
* `windowPrices_congr` — two times of one hour have the same window, the current hour apart;
* `hourDecides_iff` — when the hour decides, and not the minute.
-/

namespace EnergyCore.Charging

open KeywordFields KeyedTotals KeyedChanges StepRun

/-! ### Local times -/

/-- What `datetime` and `zoneinfo` make of the local times of a zone: `replace` of the hour and the minute, `<=`, the
addition of a day, and the way back. A `ValueError` of `replace` is `none`. -/
structure LocalClock (Local : Type) where
  astimezone : Instant → Local
  replaceTime : Local → ℤ → ℤ → Option Local
  le : Local → Local → Bool
  addDay : Local → Local
  toUtc : Local → Instant

/-- The two numbers of a departure time, and the zone with a name; `none` stands for a `ValueError` or a `KeyError`. -/
structure LocalTimes (Local : Type) where
  hourMinute : String → Option (ℤ × ℤ)
  zoneInfo : String → Option (LocalClock Local)

inductive ScheduleMode where
  | none | departure | deadline
  deriving Repr, DecidableEq

/-- The arguments of `should_charge_smart`. -/
structure ScheduleCall where
  now : Instant
  departureTime : Option String
  priceForecast : List (Instant × ℚ)
  currentPrice : Option ℚ
  expensiveThreshold : ℚ
  chargeHours : ℚ := 4
  timezone : String := "Europe/Stockholm"
  scheduleMode : ScheduleMode := .departure
  urgency : ℚ := 0
  deriving Repr, DecidableEq

def greenPriceRatio : ℚ := 85 / 100
def redPriceRatio : ℚ := 115 / 100

/-! ### Slots -/

/-- The prices of a forecast within a window. -/
def windowPrices (forecast : List (Instant × ℚ)) (start stop : Instant) : List (Instant × ℚ) :=
  forecast.filter fun entry => decide (start ≤ entry.1 ∧ entry.1 ≤ stop)

/-- The price of an entry under its hour, unless a lower one is there. -/
def noteHour (byHour : Fields Instant ℚ) (entry : Instant × ℚ) : Fields Instant ℚ :=
  upsert byHour (hourStart entry.1) entry.2 fun noted => if entry.2 < noted then entry.2 else noted

/-- `_hourly_slots`. -/
def hourlySlots (forecast : List (Instant × ℚ)) (start stop : Instant) : List (Instant × ℚ) :=
  byKey (run noteHour [] (windowPrices forecast start stop))

/-- `_average_price`. -/
def averagePrice (slots : List (Instant × ℚ)) : Option ℚ :=
  if slots = [] then none else some ((slots.map Prod.snd).sum / slots.length)

/-- `_is_green_price`. -/
def isGreenPrice (currentPrice averagePrice : ℚ) : Bool := decide (currentPrice ≤ averagePrice * greenPriceRatio)

/-! ### The window -/

section

variable {Local : Type} (times : LocalTimes Local)

/-- `_next_departure`. -/
def nextDeparture (now : Instant) (departureHhmm timezone : String) : Option Instant := do
  let (hour, minute) ← times.hourMinute departureHhmm
  let tz ← times.zoneInfo timezone
  let localNow := tz.astimezone now
  let departure ← tz.replaceTime localNow hour minute
  return tz.toUtc (if tz.le departure localNow then tz.addDay departure else departure)

/-- The departure that may end the window of a call. -/
def departureOf (c : ScheduleCall) : Option Instant :=
  match c.departureTime with
  | none => none
  | some departureTime => if departureTime = "" then none else nextDeparture times c.now departureTime c.timezone

/-- `_window_end`. -/
def windowEnd (c : ScheduleCall) : Instant :=
  match departureOf times c with
  | none => c.now + 86400
  | some departure => min departure (c.now + 86400)

/-- The hours that a call compares. -/
def slotsOf (c : ScheduleCall) : List (Instant × ℚ) := hourlySlots c.priceForecast c.now (windowEnd times c)

end

/-! ### The decision -/

/-- `_everyday_schedule_decision`. -/
def everydayScheduleDecision (currentPrice average : Option ℚ) : Bool × String :=
  match currentPrice, average with
  | some currentPrice, some average =>
    if currentPrice ≤ average then (true, "normal_price_ok")
    else if currentPrice > average * redPriceRatio then (false, "smart_wait_expensive")
    else (false, "smart_wait_cheaper")
  | _, _ => (false, "no_forecast")

/-- `int` of a number. -/
def truncate (x : ℚ) : ℤ := if 0 ≤ x then ⌊x⌋ else ⌈x⌉

/-- The cheapest slots, as many as the charging is to take. -/
def cheapestSlots (slots : List (Instant × ℚ)) (chargeHours urgency : ℚ) : List (Instant × ℚ) :=
  let hoursNeeded := max 1 (truncate (chargeHours + urgency * chargeHours + 999 / 1000))
  let hoursNeeded := min hoursNeeded (max 1 ((slots.length : ℤ) - 1))
  (slots.insertionSort fun e e' => e.2 ≤ e'.2).take hoursNeeded.toNat

/-- `_balanced_urgency_decision`. -/
def balancedUrgencyDecision (now : Instant) (slots : List (Instant × ℚ)) (currentPrice average : Option ℚ)
    (chargeHours urgency : ℚ) : Bool × String :=
  if currentPrice.any fun price => average.any fun average => decide (price ≤ average) then
    (true, "smart_urgency_balanced")
  else if hourStart now ∈ (cheapestSlots slots chargeHours urgency).map fun e => hourStart e.1 then
    (true, "smart_scheduled")
  else (false, "smart_wait_cheaper")

/-- `_green_price_decision`. -/
def greenPriceDecision (now : Instant) (slots : List (Instant × ℚ)) : Bool × String :=
  match averagePrice slots with
  | none => (false, "no_forecast")
  | some average =>
    match slots.find? fun e => decide (hourStart e.1 = hourStart now) with
    | none => (false, "no_forecast_in_window")
    | some (_, hourPrice) =>
      if isGreenPrice hourPrice average then (true, "smart_green_price") else (false, "smart_wait_cheaper")

/-- The current price is not above the threshold. -/
def cheapNow (c : ScheduleCall) : Bool := c.currentPrice.any fun price => decide (price ≤ c.expensiveThreshold)

/-- `clamped_urgency`. -/
def clampedUrgency (urgency : ℚ) : ℚ := max 0 (min 1 urgency)

/-- The decision of `should_charge_smart` once its slots are there. -/
def decideBySlots (c : ScheduleCall) (slots : List (Instant × ℚ)) : Bool × String :=
  if slots = [] then
    if cheapNow c then (true, "cheap_now") else (false, "no_forecast_in_window")
  else
    let average := averagePrice slots
    if c.currentPrice.any fun price => average.any fun average => isGreenPrice price average then (true, "cheap_now")
    else if c.scheduleMode = .none then everydayScheduleDecision c.currentPrice average
    else if clampedUrgency c.urgency ≥ 8 / 10 then (true, "deadline_risk")
    else if clampedUrgency c.urgency ≥ 4 / 10 then
      balancedUrgencyDecision c.now slots c.currentPrice average c.chargeHours (clampedUrgency c.urgency)
    else greenPriceDecision c.now slots

/-- `should_charge_smart`. -/
def shouldChargeSmart {Local : Type} (times : LocalTimes Local) (c : ScheduleCall) : Bool × String :=
  if cheapNow c then (true, "cheap_now")
  else if c.priceForecast = [] then
    if c.currentPrice.any fun price => decide (price > c.expensiveThreshold) then (false, "expensive_no_forecast")
    else (false, "no_forecast")
  else decideBySlots c (slotsOf times c)

/-! ### The hours of a window -/

theorem mem_keys_byKey {d : Fields Instant ℚ} {hour : Instant} :
    hour ∈ Fields.keys (byKey d) ↔ hour ∈ Fields.keys d := ((byKey_perm d).map Prod.fst).mem_iff

/-- **The hours of a window** are those of the prices in it. -/
theorem mem_keys_hourlySlots {forecast : List (Instant × ℚ)} {start stop hour : Instant} :
    hour ∈ Fields.keys (hourlySlots forecast start stop)
      ↔ ∃ entry ∈ forecast, (start ≤ entry.1 ∧ entry.1 ≤ stop) ∧ hourStart entry.1 = hour := by
  have hrun : hour ∈ Fields.keys (run noteHour [] (windowPrices forecast start stop))
      ↔ hour ∈ Fields.keys ([] : Fields Instant ℚ)
        ∨ hour ∈ (windowPrices forecast start stop).map fun entry => hourStart entry.1 :=
    mem_keys_run (fun d => d) (fun entry : Instant × ℚ => hourStart entry.1)
      fun d (entry : Instant × ℚ) k => mem_keys_upsert d (hourStart entry.1) k entry.2 _
  rw [hourlySlots, mem_keys_byKey, hrun]
  constructor
  · intro h
    rcases h with h | h
    · exact absurd h List.not_mem_nil
    · obtain ⟨entry, hentry, rfl⟩ := List.mem_map.mp h
      obtain ⟨hmem, hwindow⟩ := List.mem_filter.mp hentry
      exact ⟨entry, hmem, of_decide_eq_true hwindow, rfl⟩
  · intro h
    obtain ⟨entry, hmem, hwindow, rfl⟩ := h
    refine .inr (List.mem_map_of_mem ?_)
    exact List.mem_filter.mpr ⟨hmem, decide_eq_true hwindow⟩

/-- A forecast of whole hours. -/
def Hourly (forecast : List (Instant × ℚ)) : Prop := ∀ entry ∈ forecast, hourStart entry.1 = entry.1

instance (forecast : List (Instant × ℚ)) : Decidable (Hourly forecast) :=
  inferInstanceAs (Decidable (∀ entry ∈ forecast, hourStart entry.1 = entry.1))

/-- A whole hour that is not the current one is in the window of the exact time as in the one of the hour. -/
theorem le_iff_of_whole_hour (now : Instant) {hour : Instant} (hwhole : hourStart hour = hour)
    (hne : hour ≠ hourStart now) : now ≤ hour ↔ hourStart now ≤ hour := by
  constructor
  · intro h
    exact (hourStart_le now).trans h
  · intro h
    by_contra hlt
    have hmono := hourStart_mono (not_le.mp hlt).le
    rw [hwhole] at hmono
    exact hne (le_antisymm hmono h)

/-- A whole hour lies within a day of every time of an hour, or of none. -/
theorem le_add_day_iff (now : Instant) {hour : Instant} (hwhole : hourStart hour = hour) :
    hour ≤ now + 86400 ↔ hour ≤ hourStart now + 86400 := by
  have hle := hourStart_le now
  have hlt := lt_hourStart_add now
  constructor
  · intro h
    have hmono := hourStart_mono h
    have hday : hourStart (now + 86400) = hourStart now + 86400 := by
      have hfloor : (3600 : ℚ) * ((⌊now / 3600⌋ + 24 : ℤ) : ℚ) = hourStart now + 86400 := by
        rw [hourStart]
        push_cast
        ring
      rw [← hfloor]
      apply hourStart_eq_of_mem
      · rw [hfloor]
        linarith
      · rw [hfloor]
        linarith
    rwa [hwhole, hday] at hmono
  · intro h
    linarith

/-! ### Two times of one hour -/

/-- The same call at another time. -/
def ScheduleCall.at (c : ScheduleCall) (now : Instant) : ScheduleCall := { c with now := now }

section

variable {Local : Type} {times : LocalTimes Local}

theorem le_windowEnd_iff (c : ScheduleCall) (hour : Instant) :
    hour ≤ windowEnd times c ↔ (∀ departure ∈ departureOf times c, hour ≤ departure) ∧ hour ≤ c.now + 86400 := by
  unfold windowEnd
  cases departureOf times c with
  | none => simp
  | some departure => simp

/-- **The current hour apart**, two times of one hour have the same window. -/
theorem windowPrices_congr {c : ScheduleCall} {s t : Instant} (hhour : hourStart s = hourStart t)
    (hhourly : Hourly c.priceForecast) (hdeparture : departureOf times (c.at s) = departureOf times (c.at t))
    (hcurrent : hourStart s ∉ Fields.keys c.priceForecast) : windowPrices c.priceForecast s (windowEnd times (c.at s))
      = windowPrices c.priceForecast t (windowEnd times (c.at t)) := by
  apply List.filter_congr
  intro entry hentry
  have hwhole := hhourly entry hentry
  have hne : entry.1 ≠ hourStart s := by
    intro heq
    exact hcurrent (heq ▸ List.mem_map_of_mem hentry)
  have hstart : s ≤ entry.1 ↔ t ≤ entry.1 := by
    rw [le_iff_of_whole_hour s hwhole hne, hhour, ← le_iff_of_whole_hour t hwhole (hhour ▸ hne)]
  have hday : entry.1 ≤ (c.at s).now + 86400 ↔ entry.1 ≤ (c.at t).now + 86400 := by
    show entry.1 ≤ s + 86400 ↔ entry.1 ≤ t + 86400
    rw [le_add_day_iff s hwhole, hhour, ← le_add_day_iff t hwhole]
  have hend : entry.1 ≤ windowEnd times (c.at s) ↔ entry.1 ≤ windowEnd times (c.at t) := by
    rw [le_windowEnd_iff, le_windowEnd_iff, hdeparture, hday]
  rw [decide_eq_decide, hstart, hend]

/-- The decision knows the time by its hour only. -/
theorem decideBySlots_congr {c : ScheduleCall} {s t : Instant} (hhour : hourStart s = hourStart t)
    (slots : List (Instant × ℚ)) : decideBySlots (c.at s) slots = decideBySlots (c.at t) slots := by
  have hbalanced : ∀ average, balancedUrgencyDecision s slots c.currentPrice average c.chargeHours
      (clampedUrgency c.urgency) = balancedUrgencyDecision t slots c.currentPrice average c.chargeHours
      (clampedUrgency c.urgency) := by
    intro average
    unfold balancedUrgencyDecision
    rw [hhour]
  have hgreen : greenPriceDecision s slots = greenPriceDecision t slots := by
    unfold greenPriceDecision
    rw [hhour]
  simp only [decideBySlots, ScheduleCall.at, cheapNow, hbalanced, hgreen]
  rfl

/-! ### When the hour decides -/

/-- The hour of a call is among the hours that the call compares. -/
def TakesPart (times : LocalTimes Local) (c : ScheduleCall) : Prop :=
  hourStart c.now ∈ Fields.keys (slotsOf times c)

/-- Two times of an hour have one decision, and the hour, if the forecast contains it, takes part in the comparison at
both of them, unless the current price decides before there is any. -/
structure HourDecides (times : LocalTimes Local) (c : ScheduleCall) (s t : Instant) : Prop where
  decision : shouldChargeSmart times (c.at s) = shouldChargeSmart times (c.at t)
  takesPart : cheapNow c = false → hourStart s ∈ Fields.keys c.priceForecast →
    TakesPart times (c.at s) ∧ TakesPart times (c.at t)

/-- In a forecast of whole hours, the current one takes part only at its very start. -/
theorem takesPart_iff {c : ScheduleCall} (hhourly : Hourly c.priceForecast)
    (hcurrent : hourStart c.now ∈ Fields.keys c.priceForecast) :
    TakesPart times c ↔ c.now = hourStart c.now ∧ ∀ departure ∈ departureOf times c, hourStart c.now ≤ departure := by
  unfold TakesPart slotsOf
  rw [mem_keys_hourlySlots]
  constructor
  · intro h
    obtain ⟨entry, hentry, ⟨hstart, hend⟩, hhour⟩ := h
    rw [hhourly entry hentry] at hhour
    rw [hhour] at hstart hend
    exact ⟨le_antisymm hstart (hourStart_le c.now), ((le_windowEnd_iff c _).mp hend).1⟩
  · intro h
    obtain ⟨hstart, hdeparture⟩ := h
    obtain ⟨entry, hentry, hkey⟩ := List.mem_map.mp hcurrent
    have hday : hourStart c.now ≤ c.now + 86400 := by
      have hle := hourStart_le c.now
      linarith
    refine ⟨entry, hentry, ⟨?_, ?_⟩, ?_⟩
    · rw [hkey]
      exact hstart.le
    · rw [hkey]
      exact (le_windowEnd_iff c _).mpr ⟨hdeparture, hday⟩
    · rw [hhourly entry hentry, hkey]

theorem shouldChargeSmart_congr {c : ScheduleCall} {s t : Instant} (hhour : hourStart s = hourStart t)
    (hslots : slotsOf times (c.at s) = slotsOf times (c.at t)) :
    shouldChargeSmart times (c.at s) = shouldChargeSmart times (c.at t) := by
  unfold shouldChargeSmart
  rw [hslots, decideBySlots_congr hhour]
  rfl

/-- **The hour decides** over all its minutes exactly where a cheap current price does, where the forecast does not
contain the hour, and where both times are the very start of it, with no departure before. Within the hour, its
price in the forecast has left the window. -/
theorem hourDecides_iff (c : ScheduleCall) (s t : Instant) (hhour : hourStart s = hourStart t)
    (hhourly : Hourly c.priceForecast) (hdeparture : departureOf times (c.at s) = departureOf times (c.at t)) :
    HourDecides times c s t ↔ (cheapNow c = true ∨ hourStart s ∉ Fields.keys c.priceForecast ∨
        (s = hourStart s ∧ t = hourStart s ∧ ∀ departure ∈ departureOf times (c.at s), hourStart s ≤ departure)) := by
  constructor
  · intro h
    by_cases hcheap : cheapNow c = true
    · exact .inl hcheap
    by_cases hcurrent : hourStart s ∈ Fields.keys c.priceForecast
    · obtain ⟨hs, ht⟩ := h.takesPart (Bool.not_eq_true _ ▸ hcheap) hcurrent
      have hs' := (takesPart_iff (c := c.at s) hhourly hcurrent).mp hs
      have ht' := (takesPart_iff (c := c.at t) hhourly (hhour ▸ hcurrent)).mp ht
      exact .inr (.inr ⟨hs'.1, ht'.1.trans hhour.symm, hs'.2⟩)
    · exact .inr (.inl hcurrent)
  · intro h
    rcases h with hcheap | hcurrent | ⟨hs, ht, hbefore⟩
    · refine ⟨?_, fun hnot => absurd (hcheap.symm.trans hnot) Bool.noConfusion⟩
      unfold shouldChargeSmart
      rw [if_pos (show cheapNow (c.at s) = true from hcheap), if_pos (show cheapNow (c.at t) = true from hcheap)]
    · refine ⟨shouldChargeSmart_congr hhour ?_, fun _ hmem => absurd hmem hcurrent⟩
      unfold slotsOf hourlySlots
      exact congrArg _ (congrArg _ (windowPrices_congr hhour hhourly hdeparture hcurrent))
    · have heq : t = s := ht.trans hs.symm
      subst heq
      refine ⟨rfl, fun _ hcurrent => ?_⟩
      have hpart := (takesPart_iff (c := c.at t) hhourly hcurrent).mpr ⟨hs, hbefore⟩
      exact ⟨hpart, hpart⟩

end

namespace HourDemo

/-- Calls have no departure time, so no local times are asked for. -/
def times : LocalTimes Unit := { hourMinute := fun _ => none, zoneInfo := fun _ => none }

/-- A cheap hour, and then an expensive one. -/
def call : ScheduleCall :=
  { now := 0, departureTime := none, priceForecast := [(0, 1), (3600, 10)], currentPrice := none,
    expensiveThreshold := 0 }

theorem hourDecides_iff_half_past : HourDecides times call 0 1800 ↔
      (cheapNow call = true ∨ hourStart 0 ∉ Fields.keys call.priceForecast ∨
        ((0 : Instant) = hourStart 0 ∧ (1800 : Instant) = hourStart 0 ∧
          ∀ departure ∈ departureOf times (call.at 0), hourStart 0 ≤ departure)) :=
  hourDecides_iff call 0 1800 (by decide +kernel) (by decide +kernel) rfl

/-- **The minute decides.** The cheap hour is for charging at its start, and for waiting half an hour later. -/
theorem half_past_waits : hourStart 0 = hourStart 1800 ∧ Hourly call.priceForecast
      ∧ departureOf times (call.at 0) = departureOf times (call.at 1800)
      ∧ shouldChargeSmart times (call.at 0) = (true, "smart_green_price")
      ∧ shouldChargeSmart times (call.at 1800) = (false, "no_forecast_in_window")
      ∧ ¬ HourDecides times call 0 1800 := by
  have hstart : shouldChargeSmart times (call.at 0) = (true, "smart_green_price") := by decide +kernel
  have hhalf : shouldChargeSmart times (call.at 1800) = (false, "no_forecast_in_window") := by decide +kernel
  refine ⟨by decide +kernel, by decide +kernel, rfl, hstart, hhalf, fun h => ?_⟩
  have heq := h.decision
  rw [hstart, hhalf] at heq
  exact absurd heq (by decide)

end HourDemo

end EnergyCore.Charging
