import Mathlib.Data.Int.Notation
import Mathlib.Data.List.Induction
import Mathlib.Data.List.Nodup
import Mathlib.Data.List.Perm.Subperm
import Mathlib.Tactic.SplitIfs

/-!
# The registry of capabilities

Which modules provide which capability of a site.

* `registerAll_clearSite` — what a site has after it was cleared and providers were registered: each of them once, in
  the order of the first registrations.
-/

namespace EnergyCore.Modules

/-! ### Capabilities -/

inductive Capability where
  | energyReadGridPower
  | energyReadSolarPower
  | batteryReadSoc
  | batteryReadPower
  | evChargerStart
  | evChargerStop
  | evChargerSetCurrent
  | evChargerReadPower
  | evChargerReadEnergy
  | vehicleReadSoc
  | vehicleReadRange
  | vehicleReadChargingState
  | spaReadTemperature
  | spaSetTemperature
  | hvacReadTemperature
  | hvacReadHumidity
  | hvacReadState
  | hvacReadTargetTemperature
  | hvacReadStatus
  | priceReadCurrent
  | priceReadForecast
  | weatherReadCurrent
  | weatherReadForecast
  | forecastSolar
  | optimizationEnergy
  | smartCharging
  | readStatus
  | readPower
  deriving Repr, DecidableEq

def Capability.value : Capability → String
  | energyReadGridPower => "energy.read_grid_power"
  | energyReadSolarPower => "energy.read_solar_power"
  | batteryReadSoc => "battery.read_soc"
  | batteryReadPower => "battery.read_power"
  | evChargerStart => "ev_charger.start"
  | evChargerStop => "ev_charger.stop"
  | evChargerSetCurrent => "ev_charger.set_current"
  | evChargerReadPower => "ev_charger.read_power"
  | evChargerReadEnergy => "ev_charger.read_energy"
  | vehicleReadSoc => "vehicle.read_soc"
  | vehicleReadRange => "vehicle.read_range"
  | vehicleReadChargingState => "vehicle.read_charging_state"
  | spaReadTemperature => "spa.read_temperature"
  | spaSetTemperature => "spa.set_temperature"
  | hvacReadTemperature => "hvac.read_temperature"
  | hvacReadHumidity => "hvac.read_humidity"
  | hvacReadState => "hvac.read_state"
  | hvacReadTargetTemperature => "hvac.read_target_temperature"
  | hvacReadStatus => "hvac.read_status"
  | priceReadCurrent => "price.read_current"
  | priceReadForecast => "price.read_forecast"
  | weatherReadCurrent => "weather.read_current"
  | weatherReadForecast => "weather.read_forecast"
  | forecastSolar => "forecast.solar"
  | optimizationEnergy => "optimization.energy"
  | smartCharging => "smart_charging"
  | readStatus => "read_status"
  | readPower => "read_power"

/-! ### Providers -/

structure CapabilityProvider where
  siteId : ℤ
  moduleId : String
  capability : Capability
  deviceId : Option String := none
  deriving Repr, DecidableEq

/-- The buckets of `_providers`; a key without a bucket has the empty one, and no operation leaves an empty bucket
behind. -/
structure CapabilityRegistry where
  providers : ℤ → Capability → List CapabilityProvider := fun _ _ => []

namespace CapabilityRegistry

def clearSite (registry : CapabilityRegistry) (siteId : ℤ) : CapabilityRegistry where
  providers s c := if s = siteId then [] else registry.providers s c

def unregisterModule (registry : CapabilityRegistry) (siteId : ℤ) (moduleId : String) : CapabilityRegistry where
  providers s c :=
    if s = siteId then (registry.providers s c).filter fun item => decide (item.moduleId ≠ moduleId)
    else registry.providers s c

/-- A bucket after a provider is registered in it. -/
def addProvider (bucket : List CapabilityProvider) (provider : CapabilityProvider) : List CapabilityProvider :=
  if bucket.any fun item => decide (item.moduleId = provider.moduleId ∧ item.deviceId = provider.deviceId) then bucket
  else bucket ++ [provider]

def registerProvider (registry : CapabilityRegistry) (provider : CapabilityProvider) : CapabilityRegistry where
  providers s c :=
    if s = provider.siteId ∧ c = provider.capability then addProvider (registry.providers s c) provider
    else registry.providers s c

def providersFor (registry : CapabilityRegistry) (siteId : ℤ) (capability : Capability) : List CapabilityProvider :=
  registry.providers siteId capability

def siteHasCapability (registry : CapabilityRegistry) (siteId : ℤ) (capability : Capability) : Bool :=
  decide (registry.providersFor siteId capability ≠ [])

/-- The registrations, one after another. -/
def registerAll (registry : CapabilityRegistry) (providers : List CapabilityProvider) : CapabilityRegistry :=
  providers.foldl registerProvider registry

/-! ### Distinct providers -/

/-- Each provider once, where it comes first. -/
def distinct (providers : List CapabilityProvider) : List CapabilityProvider :=
  providers.foldl (fun kept p => if p ∈ kept then kept else kept ++ [p]) []

@[simp] theorem distinct_nil : distinct [] = [] := rfl

theorem distinct_concat (providers : List CapabilityProvider) (p : CapabilityProvider) :
    distinct (providers ++ [p]) = if p ∈ distinct providers then distinct providers else distinct providers ++ [p] := by
  unfold distinct
  rw [List.foldl_append, List.foldl_cons, List.foldl_nil]

theorem mem_distinct {providers : List CapabilityProvider} {p : CapabilityProvider} :
    p ∈ distinct providers ↔ p ∈ providers := by
  induction providers using List.reverseRecOn with
  | nil => exact Iff.rfl
  | append_singleton providers q ih =>
    rw [distinct_concat, List.mem_append, List.mem_singleton, ← ih]
    split_ifs with hq
    · exact ⟨Or.inl, fun h => h.elim id fun h => h ▸ hq⟩
    · rw [List.mem_append, List.mem_singleton]

theorem nodup_distinct (providers : List CapabilityProvider) : (distinct providers).Nodup := by
  induction providers using List.reverseRecOn with
  | nil => exact List.nodup_nil
  | append_singleton providers q ih =>
    rw [distinct_concat]
    split_ifs with hq
    · exact ih
    · exact List.Nodup.append ih (List.nodup_singleton q) (List.disjoint_singleton.mpr hq)

/-- A list that has nothing else, in this order, and everything, is the list. -/
theorem sublist_and_subset_iff {bucket providers : List CapabilityProvider} :
    (bucket.Sublist (distinct providers) ∧ ∀ p ∈ providers, p ∈ bucket) ↔ bucket = distinct providers := by
  constructor
  · rintro ⟨hsub, hall⟩
    refine hsub.eq_of_length_le ?_
    refine ((nodup_distinct providers).subperm fun p hp => ?_).length_le
    exact hall p (mem_distinct.mp hp)
  · intro h
    rw [h]
    exact ⟨List.Sublist.refl _, fun p hp => mem_distinct.mpr hp⟩

/-! ### What registering gives -/

theorem registerAll_concat (registry : CapabilityRegistry) (providers : List CapabilityProvider)
    (p : CapabilityProvider) :
    registerAll registry (providers ++ [p]) = (registerAll registry providers).registerProvider p := by
  unfold registerAll
  rw [List.foldl_append, List.foldl_cons, List.foldl_nil]

/-- In a bucket of one site and one capability, a provider is known by its module and its device. -/
theorem addProvider_eq {bucket : List CapabilityProvider} {p : CapabilityProvider}
    (hbucket : ∀ q ∈ bucket, q.siteId = p.siteId ∧ q.capability = p.capability) :
    addProvider bucket p = if p ∈ bucket then bucket else bucket ++ [p] := by
  have hany : (bucket.any fun item => decide (item.moduleId = p.moduleId ∧ item.deviceId = p.deviceId)) = true ↔
      p ∈ bucket := by
    rw [List.any_eq_true]
    constructor
    · rintro ⟨q, hq, hsame⟩
      obtain ⟨hmodule, hdevice⟩ := of_decide_eq_true hsame
      obtain ⟨hsite, hcapability⟩ := hbucket q hq
      have heq : q = p := by
        cases q
        cases p
        simp only at hmodule hdevice hsite hcapability
        rw [hmodule, hdevice, hsite, hcapability]
      exact heq ▸ hq
    · exact fun hp => ⟨p, hp, decide_eq_true ⟨rfl, rfl⟩⟩
  unfold addProvider
  by_cases hp : p ∈ bucket
  · rw [if_pos (hany.mpr hp), if_pos hp]
  · rw [if_neg fun h => hp (hany.mp h), if_neg hp]

/-- **What a site has** after it was cleared and providers were registered: each of them once, in the order of the
first registrations. -/
theorem registerAll_clearSite (registry : CapabilityRegistry) {siteId : ℤ} (capability : Capability)
    {providers : List CapabilityProvider} (hsite : ∀ p ∈ providers, p.siteId = siteId) :
    ((registry.clearSite siteId).registerAll providers).providersFor siteId capability =
      distinct (providers.filter fun p => decide (p.capability = capability)) := by
  induction providers using List.reverseRecOn with
  | nil => exact if_pos rfl
  | append_singleton providers p ih =>
    have hfirst := ih fun q hq => hsite q (List.mem_append_left _ hq)
    have hp : p.siteId = siteId := hsite p (List.mem_append_right _ List.mem_cons_self)
    rw [registerAll_concat, List.filter_append]
    show (if siteId = p.siteId ∧ capability = p.capability then
        addProvider (((registry.clearSite siteId).registerAll providers).providersFor siteId capability) p
      else ((registry.clearSite siteId).registerAll providers).providersFor siteId capability) = _
    rw [hfirst]
    by_cases hc : p.capability = capability
    · rw [if_pos ⟨hp.symm, hc.symm⟩, List.filter_cons, if_pos (decide_eq_true hc), List.filter_nil, distinct_concat]
      refine addProvider_eq fun q hq => ?_
      obtain ⟨hmem, hq⟩ := List.mem_filter.mp (mem_distinct.mp hq)
      exact ⟨(hsite q (List.mem_append_left _ hmem)).trans hp.symm, (of_decide_eq_true hq).trans hc.symm⟩
    · rw [if_neg fun h => hc h.2.symm, List.filter_cons, if_neg fun h => hc (of_decide_eq_true h), List.filter_nil,
        List.append_nil]

end CapabilityRegistry

end EnergyCore.Modules
