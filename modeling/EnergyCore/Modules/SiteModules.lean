import EnergyCore.Modules.ModuleRegistry

/-!
# The modules of a site

Which modules are enabled at a site, which providers they register, and the questions that are asked of this: whether
a module could start, and whether one could be switched off.

* `siteId_of_mem_siteRegistrations` — a site registers providers of its own only;
* `providersFor_registerSiteCapabilities` — the providers of a site that was cleared and registered anew;
* `persistEnabledOverride_refused` — a refusal has asked whether the module can be switched off, and nothing else;
* `providersFor_canStartModule`, `providersFor_canDisable` — what a question leaves;
* `queries_undisturbed_iff` — a question leaves the registry as it was exactly if it held the providers of the enabled
  modules, and nothing else.
-/

namespace EnergyCore.Modules

open KeywordFields

/-! ### What is read of a site -/

structure SiteRow where
  externalSystemId : Option String := none
  optimizationMode : String := "MONITOR_ONLY"
  energyEconomicsCountry : String := "SE"

structure EvChargerRow where
  id : ℕ
  bridgeEnabled : Bool

structure SpaRow where
  consumerEnabled : Bool
  integrationEnabled : Bool

structure SiteModuleConfigurationRow where
  moduleId : String
  enabledOverride : Option Bool

structure ModuleSettings where
  moduleGateEnabled : Bool := true
  arcticSpaEnabled : Bool := false
  energyControlCollectorEnabled : Bool := false
  chargefinderEnabled : Bool := false

/-- The rows of one site. Of the vehicle connection and the solar configuration, a row is read as whether it is
enabled. -/
structure SiteRecords where
  site : Option SiteRow := some {}
  heartbeatClient : Bool := false
  chargers : List EvChargerRow := []
  vehicleConnection : Option Bool := none
  spa : Option SpaRow := none
  solarConfig : Option Bool := none
  configurations : List SiteModuleConfigurationRow := []

/-- What a resolver is made with: the modules, the settings, `str.upper`, and the order in which a set is iterated. -/
structure SiteModuleResolver where
  modules : ModuleRegistry
  settings : ModuleSettings := {}
  upper : String → String
  setOrder : List String → List String
  setOrder_perm : ∀ ids, (setOrder ids).Perm ids

namespace SiteModuleResolver

/-! ### Enabled modules -/

def projectEnabled (resolver : SiteModuleResolver) (records : SiteRecords) : Fields String Bool :=
  match records.site with
  | none => []
  | some site =>
    let heartbeatReady := site.externalSystemId.isSome && records.heartbeatClient
    let bridge := records.chargers.any EvChargerRow.bridgeEnabled
    let vehicles := records.vehicleConnection.any id
    let spa := records.spa.any fun row =>
      row.consumerEnabled && row.integrationEnabled && resolver.settings.arcticSpaEnabled
    let solar := records.solarConfig.any id
    let energyControl := decide (site.optimizationMode ≠ "" ∧ site.optimizationMode ≠ "MONITOR_ONLY") &&
      resolver.settings.energyControlCollectorEnabled
    Fields.assignAll []
      [(heartbeatReady, "integration.heartbeat", true), (heartbeatReady, "feature.price-engine", true),
        (bridge, "integration.chargeamps", true), (bridge, "feature.smart-charging", true),
        (bridge, "feature.energy-balance", true), (vehicles, "integration.mercedes", true),
        (vehicles, "feature.vehicles", true), (spa, "integration.arctic_spa", true),
        (spa, "feature.spa-energy", true), (solar, "feature.solar-forecast", true),
        (energyControl, "feature.energy-control", true),
        (resolver.settings.chargefinderEnabled, "integration.chargefinder", true)]

def loadOverrides (records : SiteRecords) : Fields String Bool :=
  records.configurations.foldl
    (fun overrides row => row.enabledOverride.elim overrides (Fields.assign overrides row.moduleId)) []

def applyOverrides (projection overrides : Fields String Bool) : Fields String Bool :=
  (overrides.foldl (fun merged entry => Fields.assign merged entry.1 entry.2) projection).filter fun entry => entry.2

def resolveEnabledModules (resolver : SiteModuleResolver) (records : SiteRecords) : Fields String Bool :=
  applyOverrides (resolver.projectEnabled records) (loadOverrides records)

/-! ### Registrations -/

/-- The registrations of one module for some capabilities. -/
def providersOf (siteId : ℤ) (moduleId : String) (capabilities : List Capability) (deviceId : Option String) :
    List CapabilityProvider := capabilities.map fun cap => ⟨siteId, moduleId, cap, deviceId⟩

def chargeampsProviders (siteId : ℤ) (records : SiteRecords) : List CapabilityProvider :=
  (records.chargers.filter EvChargerRow.bridgeEnabled).flatMap fun charger =>
    providersOf siteId "integration.chargeamps"
      [.evChargerStart, .evChargerStop, .evChargerSetCurrent, .evChargerReadPower, .evChargerReadEnergy]
      (some ("ev_charger:" ++ toString charger.id))

/-- The forecast, and the weather services it stands on, by the country of the site. -/
def solarForecastProviders (resolver : SiteModuleResolver) (siteId : ℤ) (records : SiteRecords) :
    List CapabilityProvider :=
  let named := records.site.elim "" SiteRow.energyEconomicsCountry
  let country := (resolver.upper (if named = "" then "SE" else named)).toList.take 2
  providersOf siteId "feature.solar-forecast" [.forecastSolar, .weatherReadForecast] none ++
    (if country = ['D', 'K'] then providersOf siteId "integration.dmi" [.weatherReadForecast] none
      else if country = ['S', 'E'] then
        providersOf siteId "integration.smhi" [.weatherReadForecast, .weatherReadCurrent] none
      else []) ++
    providersOf siteId "integration.open_meteo" [.weatherReadForecast] none

def installedProviders (resolver : SiteModuleResolver) (siteId : ℤ) (moduleId : String) : List CapabilityProvider :=
  match resolver.modules.get moduleId with
  | none => []
  | some descriptor =>
    if descriptor.packageSource ≠ .installed then []
    else providersOf siteId moduleId descriptor.capabilitiesProvided none

/-- What `_register_site_capabilities` registers, in its order. -/
def siteRegistrations (resolver : SiteModuleResolver) (siteId : ℤ) (records : SiteRecords)
    (enabledModules : Fields String Bool) (active : List String) : List CapabilityProvider :=
  let whenActive := fun (moduleId : String) (providers : List CapabilityProvider) =>
    if moduleId ∈ active ∧ (Fields.get enabledModules moduleId).any id = true then providers else []
  whenActive "integration.chargeamps" (chargeampsProviders siteId records) ++
    whenActive "integration.mercedes" (providersOf siteId "integration.mercedes"
      [.vehicleReadSoc, .vehicleReadRange, .vehicleReadChargingState] none) ++
    whenActive "integration.heartbeat" (providersOf siteId "integration.heartbeat"
      [.energyReadGridPower, .energyReadSolarPower, .batteryReadSoc, .batteryReadPower, .priceReadCurrent,
        .priceReadForecast] none) ++
    whenActive "integration.arctic_spa" (providersOf siteId "integration.arctic_spa"
      [.spaReadTemperature, .readPower] none) ++
    whenActive "feature.solar-forecast" (resolver.solarForecastProviders siteId records) ++
    whenActive "integration.chargefinder" (providersOf siteId "integration.chargefinder" [.readStatus] none) ++
    (resolver.setOrder active).flatMap fun moduleId =>
      if (Fields.get enabledModules moduleId).any id = true then resolver.installedProviders siteId moduleId else []

def registerSiteCapabilities (resolver : SiteModuleResolver) (siteId : ℤ) (records : SiteRecords)
    (enabledModules : Fields String Bool) (moduleIds : Option (List String)) (capabilities : CapabilityRegistry) :
    CapabilityRegistry :=
  capabilities.registerAll
    (resolver.siteRegistrations siteId records enabledModules (moduleIds.getD (Fields.keys enabledModules)))

/-! ### Questions -/

def canStartModule (resolver : SiteModuleResolver) (siteId : ℤ) (records : SiteRecords) (moduleId : String)
    (capabilities : CapabilityRegistry) : CanStartResult × CapabilityRegistry :=
  let canonical := resolveModuleId moduleId
  let enabled := resolver.resolveEnabledModules records
  let rebuilt := resolver.registerSiteCapabilities siteId records enabled none (capabilities.clearSite siteId)
  (resolver.modules.canStart rebuilt siteId (Fields.keys enabled) canonical, rebuilt)

def canDisable (resolver : SiteModuleResolver) (siteId : ℤ) (records : SiteRecords) (moduleId : String)
    (capabilities : CapabilityRegistry) : CanDisableResult × CapabilityRegistry :=
  let canonical := resolveModuleId moduleId
  let enabled := resolver.resolveEnabledModules records
  let rebuilt := resolver.registerSiteCapabilities siteId records enabled none (capabilities.clearSite siteId)
  (resolver.modules.canDisable rebuilt siteId (Fields.keys enabled) canonical, rebuilt)

/-- The registry as `list_modules` leaves it: the providers of the running modules. -/
def rebuildRuntimeCapabilities (resolver : SiteModuleResolver) (siteId : ℤ) (records : SiteRecords)
    (isRunning : String → Bool) (capabilities : CapabilityRegistry) : CapabilityRegistry :=
  let enabled := resolver.resolveEnabledModules records
  let running := (Fields.keys enabled).filter isRunning
  let cleared := capabilities.clearSite siteId
  if running = [] then cleared else resolver.registerSiteCapabilities siteId records enabled (some running) cleared

/-- The modules of which `list_modules` gives a state. -/
def isListed (descriptor : ModuleDescriptor) : Bool :=
  decide (descriptor.moduleId ∉ Fields.keys legacyModuleAliases) &&
    !(!descriptor.supportsPerSiteActivation && decide (descriptor.moduleType = .core))

def storeOverride (records : SiteRecords) (canonical : String) (enabled : Bool) : SiteRecords :=
  { records with
    configurations :=
      if canonical ∈ records.configurations.map SiteModuleConfigurationRow.moduleId then
        records.configurations.map fun row =>
          if row.moduleId = canonical then { row with enabledOverride := some enabled } else row
      else records.configurations ++ [⟨canonical, some enabled⟩] }

/-- How `persist_enabled_override` ends: with one of its two errors, or with the state of the module. -/
inductive PersistOutcome where
  | refused (reason : String)
  | unknownModule (message : String)
  | stored (moduleId : String)
  deriving Repr, DecidableEq

def persistEnabledOverride (resolver : SiteModuleResolver) (siteId : ℤ) (records : SiteRecords)
    (isRunning : String → Bool) (moduleId : String) (enabled : Bool) (capabilities : CapabilityRegistry) :
    PersistOutcome × SiteRecords × CapabilityRegistry :=
  let canonical := resolveModuleId moduleId
  let checked :=
    if enabled = true then ({ allowed := true }, capabilities)
    else resolver.canDisable siteId records canonical capabilities
  if checked.1.allowed = false then
    (.refused ((checked.1.reason.filter fun reason => reason ≠ "").getD "Cannot disable module"), records, checked.2)
  else
    let stored := storeOverride records canonical enabled
    let rebuilt := resolver.rebuildRuntimeCapabilities siteId stored isRunning checked.2
    if (resolver.modules.listModules.filter isListed).any fun descriptor => decide (descriptor.moduleId = canonical) then
      (.stored canonical, stored, rebuilt)
    else (.unknownModule ("Unknown module: " ++ canonical), stored, rebuilt)

/-! ### What the questions leave -/

theorem siteId_of_mem_providersOf {siteId : ℤ} {moduleId : String} {capabilities : List Capability}
    {deviceId : Option String} : ∀ p ∈ providersOf siteId moduleId capabilities deviceId, p.siteId = siteId := by
  intro p hp
  obtain ⟨cap, -, rfl⟩ := List.mem_map.mp hp
  rfl

theorem siteId_of_mem_solarForecastProviders {resolver : SiteModuleResolver} {siteId : ℤ} {records : SiteRecords} :
    ∀ p ∈ resolver.solarForecastProviders siteId records, p.siteId = siteId := by
  intro p hp
  unfold solarForecastProviders at hp
  dsimp only at hp
  generalize List.take 2 _ = country at hp
  rw [List.mem_append, List.mem_append] at hp
  rcases hp with (hp | hp) | hp
  · exact siteId_of_mem_providersOf p hp
  · split_ifs at hp
    · exact siteId_of_mem_providersOf p hp
    · exact siteId_of_mem_providersOf p hp
    · cases hp
  · exact siteId_of_mem_providersOf p hp

theorem siteId_of_mem_installedProviders {resolver : SiteModuleResolver} {siteId : ℤ} {moduleId : String} :
    ∀ p ∈ resolver.installedProviders siteId moduleId, p.siteId = siteId := by
  intro p hp
  unfold installedProviders at hp
  cases hget : resolver.modules.get moduleId with
  | none =>
    rw [hget] at hp
    cases hp
  | some descriptor =>
    rw [hget] at hp
    dsimp only at hp
    split_ifs at hp
    · cases hp
    · exact siteId_of_mem_providersOf p hp

/-- A site registers providers of its own only. -/
theorem siteId_of_mem_siteRegistrations {resolver : SiteModuleResolver} {siteId : ℤ} {records : SiteRecords}
    {enabledModules : Fields String Bool} {active : List String} :
    ∀ p ∈ resolver.siteRegistrations siteId records enabledModules active, p.siteId = siteId := by
  have hwhen : ∀ (c : Prop) [Decidable c] (providers : List CapabilityProvider),
      (∀ p ∈ providers, p.siteId = siteId) → ∀ p ∈ (if c then providers else []), p.siteId = siteId := by
    intro c _ providers h p hp
    split_ifs at hp
    · exact h p hp
    · cases hp
  intro p hp
  unfold siteRegistrations at hp
  simp only [List.mem_append, or_assoc] at hp
  rcases hp with hp | hp | hp | hp | hp | hp | hp
  · refine hwhen _ _ (fun q hq => ?_) p hp
    obtain ⟨charger, -, hq⟩ := List.mem_flatMap.mp hq
    exact siteId_of_mem_providersOf q hq
  · exact hwhen _ _ siteId_of_mem_providersOf p hp
  · exact hwhen _ _ siteId_of_mem_providersOf p hp
  · exact hwhen _ _ siteId_of_mem_providersOf p hp
  · exact hwhen _ _ siteId_of_mem_solarForecastProviders p hp
  · exact hwhen _ _ siteId_of_mem_providersOf p hp
  · obtain ⟨moduleId, -, hp⟩ := List.mem_flatMap.mp hp
    exact hwhen _ _ siteId_of_mem_installedProviders p hp

/-- **The providers of a site** that was cleared and registered anew. -/
theorem providersFor_registerSiteCapabilities (resolver : SiteModuleResolver) (siteId : ℤ) (records : SiteRecords)
    (enabledModules : Fields String Bool) (moduleIds : Option (List String)) (capabilities : CapabilityRegistry)
    (c : Capability) : (resolver.registerSiteCapabilities siteId records enabledModules moduleIds
        (capabilities.clearSite siteId)).providersFor siteId c =
      CapabilityRegistry.distinct ((resolver.siteRegistrations siteId records enabledModules
        (moduleIds.getD (Fields.keys enabledModules))).filter fun p => decide (p.capability = c)) :=
  CapabilityRegistry.registerAll_clearSite capabilities c siteId_of_mem_siteRegistrations

/-- A refusal has asked whether the module can be switched off, and nothing else. -/
theorem persistEnabledOverride_refused {resolver : SiteModuleResolver} {siteId : ℤ} {records : SiteRecords}
    {isRunning : String → Bool} {moduleId reason : String} {enabled : Bool} {capabilities : CapabilityRegistry}
    (h : (resolver.persistEnabledOverride siteId records isRunning moduleId enabled capabilities).1 = .refused reason) :
    (resolver.persistEnabledOverride siteId records isRunning moduleId enabled capabilities).2.2 =
      (resolver.canDisable siteId records (resolveModuleId moduleId) capabilities).2 := by
  unfold persistEnabledOverride at h ⊢
  dsimp only at h ⊢
  cases enabled with
  | true =>
    simp only [if_true, Bool.true_eq_false, if_false] at h
    split_ifs at h
  | false =>
    simp only [Bool.false_eq_true, if_false] at h ⊢
    split_ifs at h ⊢ with hallowed
    rfl

end SiteModuleResolver

/-! ### The registry that the questions ask

Whether a module could start or be switched off is decided on the shared registry, which is cleared for this and filled
with the providers of the enabled modules, running or not. -/

namespace SiteModuleResolver

/-- The providers of the enabled modules of a site, in the order in which they are registered. -/
def enabledProviders (resolver : SiteModuleResolver) (siteId : ℤ) (records : SiteRecords) : List CapabilityProvider :=
  let enabled := resolver.resolveEnabledModules records
  resolver.siteRegistrations siteId records enabled (Fields.keys enabled)

/-- The registry holds the providers of the enabled modules, each once and in the order in which they are registered,
and no provider of a module that is not enabled. -/
structure HoldsEnabled (resolver : SiteModuleResolver) (siteId : ℤ) (records : SiteRecords)
    (capabilities : CapabilityRegistry) : Prop where
  everything : ∀ p ∈ resolver.enabledProviders siteId records, p ∈ capabilities.providersFor siteId p.capability
  nothingElse : ∀ c, (capabilities.providersFor siteId c).Sublist
    (CapabilityRegistry.distinct ((resolver.enabledProviders siteId records).filter fun p => decide (p.capability = c)))

/-- The registry of a site is as it was, and with it every later decision of a start. -/
structure Undisturbed (modules : ModuleRegistry) (siteId : ℤ) (before after : CapabilityRegistry) : Prop where
  providers : ∀ c, after.providersFor siteId c = before.providersFor siteId c
  decisions : ∀ enabledModules moduleId, modules.canStart after siteId enabledModules moduleId =
    modules.canStart before siteId enabledModules moduleId

theorem undisturbed_iff {modules : ModuleRegistry} {siteId : ℤ} {before after : CapabilityRegistry} :
    Undisturbed modules siteId before after ↔ ∀ c, after.providersFor siteId c = before.providersFor siteId c :=
  ⟨Undisturbed.providers, fun h => ⟨h, fun enabledModules moduleId => modules.canStart_congr h enabledModules moduleId⟩⟩

/-! ### What a question leaves -/

section

variable (resolver : SiteModuleResolver) (siteId : ℤ) (records : SiteRecords) (moduleId : String)
  (capabilities : CapabilityRegistry)

theorem providersFor_canStartModule (c : Capability) :
    (resolver.canStartModule siteId records moduleId capabilities).2.providersFor siteId c =
      CapabilityRegistry.distinct
        ((resolver.enabledProviders siteId records).filter fun p => decide (p.capability = c)) :=
  resolver.providersFor_registerSiteCapabilities siteId records _ none capabilities c

theorem providersFor_canDisable (c : Capability) :
    (resolver.canDisable siteId records moduleId capabilities).2.providersFor siteId c = CapabilityRegistry.distinct
        ((resolver.enabledProviders siteId records).filter fun p => decide (p.capability = c)) :=
  resolver.providersFor_registerSiteCapabilities siteId records _ none capabilities c

/-- What holds the enabled modules holds, under each capability, their distinct providers. -/
theorem holdsEnabled_iff : HoldsEnabled resolver siteId records capabilities ↔
      ∀ c, capabilities.providersFor siteId c = CapabilityRegistry.distinct
        ((resolver.enabledProviders siteId records).filter fun p => decide (p.capability = c)) := by
  constructor
  · intro h c
    refine CapabilityRegistry.sublist_and_subset_iff.mp ⟨h.nothingElse c, fun p hp => ?_⟩
    obtain ⟨hmem, hc⟩ := List.mem_filter.mp hp
    have hp := h.everything p hmem
    rw [of_decide_eq_true hc] at hp
    exact hp
  · intro h
    refine ⟨fun p hp => ?_, fun c => (CapabilityRegistry.sublist_and_subset_iff.mpr (h c)).1⟩
    exact (CapabilityRegistry.sublist_and_subset_iff.mpr (h p.capability)).2 p
      (List.mem_filter.mpr ⟨hp, decide_eq_true rfl⟩)

end

/-! ### Exactly when a question is harmless -/

theorem undisturbed_iff_holdsEnabled {resolver : SiteModuleResolver} {siteId : ℤ} {records : SiteRecords}
    {capabilities after : CapabilityRegistry} (h : ∀ c, after.providersFor siteId c = CapabilityRegistry.distinct
      ((resolver.enabledProviders siteId records).filter fun p => decide (p.capability = c))) :
    Undisturbed resolver.modules siteId capabilities after ↔ HoldsEnabled resolver siteId records capabilities := by
  rw [undisturbed_iff, holdsEnabled_iff]
  refine forall_congr' fun c => ?_
  rw [h c]
  exact eq_comm

/-- **A question leaves the registry as it was** exactly if it held the providers of the enabled modules, and nothing
else: for the question whether a module could start, for the one whether it could be switched off, and for every
refusal to switch it off. -/
theorem queries_undisturbed_iff (resolver : SiteModuleResolver) (siteId : ℤ) (records : SiteRecords)
    (moduleId : String) (capabilities : CapabilityRegistry) : (Undisturbed resolver.modules siteId capabilities
        (resolver.canStartModule siteId records moduleId capabilities).2 ↔
      HoldsEnabled resolver siteId records capabilities) ∧
    (Undisturbed resolver.modules siteId capabilities (resolver.canDisable siteId records moduleId capabilities).2 ↔
      HoldsEnabled resolver siteId records capabilities) ∧ ∀ isRunning enabled reason,
      (resolver.persistEnabledOverride siteId records isRunning moduleId enabled capabilities).1 = .refused reason →
      (Undisturbed resolver.modules siteId capabilities
          (resolver.persistEnabledOverride siteId records isRunning moduleId enabled capabilities).2.2 ↔
        HoldsEnabled resolver siteId records capabilities) := by
  refine ⟨undisturbed_iff_holdsEnabled (resolver.providersFor_canStartModule siteId records moduleId capabilities),
    undisturbed_iff_holdsEnabled (resolver.providersFor_canDisable siteId records moduleId capabilities), ?_⟩
  intro isRunning enabled reason hrefused
  rw [persistEnabledOverride_refused hrefused]
  exact undisturbed_iff_holdsEnabled (resolver.providersFor_canDisable siteId records _ capabilities)

/-! ### A charger that does not run -/

namespace IdleCharger

def chargeamps : ModuleDescriptor :=
  { moduleId := "integration.chargeamps"
    moduleType := .integration
    capabilitiesProvided :=
      [.evChargerStart, .evChargerStop, .evChargerSetCurrent, .evChargerReadPower, .evChargerReadEnergy] }

def smartCharging : ModuleDescriptor :=
  { moduleId := "feature.smart-charging"
    capabilitiesProvided := [.smartCharging]
    capabilitiesRequired := [.evChargerStart, .evChargerStop]
    optionalCapabilities :=
      [.energyReadGridPower, .batteryReadSoc, .forecastSolar, .priceReadForecast, .vehicleReadSoc] }

def resolver : SiteModuleResolver where
  modules := ⟨[chargeamps, smartCharging], by decide⟩
  upper := id
  setOrder := id
  setOrder_perm := List.Perm.refl

/-- A site with one charger; its modules are enabled. -/
def records : SiteRecords := { chargers := [⟨1, true⟩] }

def enabled : List String := Fields.keys (resolver.resolveEnabledModules records)

def asked : CapabilityRegistry := (resolver.canStartModule 1 records "feature.smart-charging" {}).2

end IdleCharger

open IdleCharger in
/-- No module runs, and smart charging must wait for the charger. After the question whether it could start, a start
lets it through. -/
theorem idle_charger_counts :
    resolver.modules.canStart {} 1 enabled "feature.smart-charging" =
        { canStart := false
          missingRequired := [.evChargerStart, .evChargerStop]
          missingOptional := smartCharging.optionalCapabilities } ∧
      (resolver.modules.canStart asked 1 enabled "feature.smart-charging").canStart = true ∧
      ¬ Undisturbed resolver.modules 1 {} asked := by
  have hbefore : resolver.modules.canStart {} 1 enabled "feature.smart-charging" =
      { canStart := false
        missingRequired := [.evChargerStart, .evChargerStop]
        missingOptional := smartCharging.optionalCapabilities } := by decide +kernel
  have hafter : (resolver.modules.canStart asked 1 enabled "feature.smart-charging").canStart = true := by
    decide +kernel
  refine ⟨hbefore, hafter, fun h => ?_⟩
  rw [h.decisions enabled "feature.smart-charging", hbefore] at hafter
  cases hafter

end SiteModuleResolver

end EnergyCore.Modules
