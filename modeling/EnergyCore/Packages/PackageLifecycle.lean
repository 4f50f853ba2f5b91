import EnergyCore.Packages.PackageStore

/-!
# Installing, updating, rolling back

The operations on an installed module package, each with its steps in the order of the source: what is checked, what
happens to the directories, what is written to the registry, and what the handlers do when a step raises.
-/

namespace EnergyCore.Packages

open FallibleSteps JsonValues KeywordFields

/-- Version numbers as the packaging library reads them. -/
structure Versions where
  Version : Type
  parse : String → Option Version
  lt : Version → Version → Bool
  major : Version → ℕ

structure Settings where
  modulesPath : Path
  allowUnsignedModules : Bool
  versions : Versions

variable (settings : Settings)

/-! ### Quarantine -/

/-- The record under quarantine. -/
def quarantinedRecord (record : InstalledPackageRecord) (reason : String) (lastError : Option String)
    (now : String) : InstalledPackageRecord :=
  { record with
    packageState := .quarantined
    restartRequired := true
    metadata := updateItems record.metadata
      [("quarantine_reason", .str reason),
        ("quarantined_at", .str now),
        ("last_error", .str (match lastError with
          | none => reason
          | some text => if text = "" then reason else text)),
        ("detected_version", .str record.installedVersion)] }

def quarantinePackage (record : InstalledPackageRecord) (reason : String) (lastError : Option String)
    (now : String) (faults : Faults) : Op InstalledPackageRecord := do
  let updated := quarantinedRecord record reason lastError now
  upsert updated (faults .quarantineUpsert)
  commit (faults .quarantineCommit)
  return updated

/-! ### Rollback -/

/-- The version and the backup that a record can be rolled back to. -/
def rollbackTarget (current : InstalledPackageRecord) : Option (String × Path) :=
  match current.rollbackVersion, current.previousPackagePath with
  | some version, some previous => if version = "" then none else some (version, previous)
  | _, _ => none

def restoredRecord (current : InstalledPackageRecord) (version : String) (target : Path) : InstalledPackageRecord where
  moduleId := current.moduleId
  installedVersion := version
  packageState := .installed
  packagePath := target
  stagingPath := none
  publisher := current.publisher
  source := current.source
  checksumSha256 := current.checksumSha256
  signatureStatus := current.signatureStatus
  rollbackVersion := none
  previousPackagePath := none
  moduleApiVersion := current.moduleApiVersion
  restartRequired := true
  metadata := current.metadata

/-- `PackageRollbackService.rollback`. -/
def rollback (moduleId : String) (faults : Faults) : Op PackageMutationResult := do
  match ← repoGet moduleId (faults .readBack) with
  | none => throw (.packageError ("module not installed: " ++ moduleId) moduleNotInstalled)
  | some current =>
    match rollbackTarget current with
    | none => throw (.packageError "rollback unavailable" rollbackUnavailable)
    | some (version, backupPath) =>
      if ← pathExists backupPath then
        let target := installedDir settings.modulesPath moduleId version
        rmtreeIfExists target (faults .dropTarget)
        copytree backupPath target (faults .copyBack)
        upsert (restoredRecord current version target) (faults .restoreUpsert)
        commit (faults .restoreCommit)
        return {
          moduleId := moduleId
          success := true
          message := "Rolled back to " ++ version ++ "; restart required"
          packageState := PackageState.installed.value
          installedVersion := some version
          restartRequired := true }
      else throw (.packageError "rollback backup missing" rollbackUnavailable)

/-! ### The lock and the health gate -/

/-- `with self._lock.acquire(module_id)`: the lock file is unlinked on the way out. -/
def withLock {α : Type} (acquire : Option Raised) (release : Option Fault) (body : Op α) : Op α := do
  match acquire with
  | some e => throw e
  | none =>
    let unlink : Op Unit := match release with
      | none => pure ()
      | some fault => raise fault.crash
    let result ← tryCatch body fun e => do
      unlink
      throw e
    unlink
    return result

structure HealthStatus where
  ok : Bool
  message : String
  deriving Repr, DecidableEq

/-- What the package's own code does at the health gate: it raises, or builds a runtime with or without a health
report. -/
abbrev HealthRun := Except Raised (Option HealthStatus)

def evaluatePackageHealth (manifest : ModuleManifest) (run : HealthRun) : Except Raised Unit :=
  if manifest.entrypoint = "" ∨ contains manifest.entrypoint ":" = false then
    .error (.packageError "entrypoint missing" healthGateFailed)
  else match run with
    | .error e => .error e
    | .ok none => .ok ()
    | .ok (some status) =>
      if status.ok then .ok ()
      else .error (.packageError
        (if status.message = "" then "health gate failed" else status.message) healthGateFailed)

/-! ### Update -/

/-- A call of `update`: what it is given, what the code it calls makes of that, and what fails. -/
structure UpdateCall where
  moduleId : String
  archive : PackageTree
  allowDowngrade : Bool
  validation : Except Raised ValidationResult
  impact : Option Raised
  migration : Option Raised
  traversal : Option Traversal
  health : HealthRun
  acquire : Option Raised
  now : String
  faults : Faults

def raiseIf : Option Raised → Op Unit
  | none => pure ()
  | some e => throw e

def liftExcept {α : Type} : Except Raised α → Op α
  | .ok a => pure a
  | .error e => throw e

/-- The manifest of an archive that may be installed. -/
def acceptedManifest (validation : ValidationResult) : Except Raised ModuleManifest :=
  let code := validation.errors.headD "package_error"
  match validation.manifest with
  | none => .error (.packageError code code)
  | some manifest =>
    if validation.valid = false ∨ validation.installAllowed = false then
      .error (.packageError code code)
    else .ok manifest

/-- `Version(version) < Version(other)`, and `requires_migration`; `none` stands for an invalid version. -/
def isLower (versions : Versions) (version other : String) : Option Bool := do
  let v ← versions.parse version
  let o ← versions.parse other
  return versions.lt v o

def requiresMigration (versions : Versions) (fromVersion toVersion : String) : Option Bool := do
  let t ← versions.parse toVersion
  let f ← versions.parse fromVersion
  return decide (versions.major t > versions.major f)

def orInvalidVersion : Option Bool → Op Bool
  | none => raise .exception
  | some b => pure b

/-- The dry run of a configuration migration, in the staging directory. -/
def probeMigration (call : UpdateCall) (staging : Path) : Op Unit := do
  extract call.archive call.traversal staging (call.faults .probe)
  match call.migration with
  | none => rmtreeIgnoringErrors staging (call.faults .dropStaging)
  | some (.packageError message code) =>
    rmtreeIgnoringErrors staging (call.faults .dropStaging)
    throw (.packageError message code)
  | some (.crash c) => raise c

/-- Everything that `update` checks before it takes the lock. -/
def checkUpdate (call : UpdateCall) :
    Op (InstalledPackageRecord × ModuleManifest × ValidationResult) := do
  match ← repoGet call.moduleId (call.faults .readCurrent) with
  | none => throw (.packageError ("module not installed: " ++ call.moduleId) moduleNotInstalled)
  | some current =>
    let validation ← liftExcept call.validation
    let manifest ← liftExcept (acceptedManifest validation)
    if manifest.moduleId ≠ call.moduleId then
      throw (.packageError "module_id mismatch" moduleNotInstalled)
    else
      let lower ← orInvalidVersion
        (isLower settings.versions manifest.version current.installedVersion)
      if lower ∧ call.allowDowngrade = false then
        throw (.packageError "version downgrade not allowed" versionDowngradeNotAllowed)
      else
        raiseIf call.impact
        let migrates ← orInvalidVersion
          (requiresMigration settings.versions current.installedVersion manifest.version)
        runIf (migrates = true)
          (probeMigration call (stagingDir settings.modulesPath call.moduleId manifest.version))
        return (current, manifest, validation)

/-- The backup of the installed package. -/
def backUp (call : UpdateCall) (current : InstalledPackageRecord) : Op Unit := do
  let backup := backupDir settings.modulesPath call.moduleId current.installedVersion
  rmtreeIfExists backup (call.faults .dropBackup)
  copytree current.packagePath backup (call.faults .copyBackup)

def updatedRecord (call : UpdateCall) (current : InstalledPackageRecord) (manifest : ModuleManifest)
    (validation : ValidationResult) : InstalledPackageRecord where
  moduleId := current.moduleId
  installedVersion := manifest.version
  packageState := .installed
  packagePath := installedDir settings.modulesPath call.moduleId manifest.version
  stagingPath := none
  publisher := manifest.publisher
  source := current.source
  checksumSha256 := computePackageContentSha256 call.archive
  signatureStatus := if validation.signatureValid then .valid else .unsigned
  rollbackVersion := some current.installedVersion
  previousPackagePath :=
    some (backupDir settings.modulesPath call.moduleId current.installedVersion)
  moduleApiVersion := manifest.moduleApiVersion
  restartRequired := true
  metadata := buildInstallMetadata manifest validation

/-- Whether the health gate lets an update through: package errors other than its own are passed over. -/
def healthGate (call : UpdateCall) (manifest : ModuleManifest) (staging : Path) : Op Unit :=
  match call.faults .readManifest with
  | some fault => raise fault.crash
  | none =>
    match evaluatePackageHealth manifest call.health with
    | .ok () => pure ()
    | .error (.packageError message code) =>
      if code = healthGateFailed then do
        rmtreeIgnoringErrors staging (call.faults .dropStaging)
        throw (.packageError message code)
      else pure ()
    | .error (.crash c) => raise c

/-- The body of the `try` statement. -/
def promote (call : UpdateCall) (current : InstalledPackageRecord) (manifest : ModuleManifest)
    (validation : ValidationResult) : Op Unit := do
  let staging := stagingDir settings.modulesPath call.moduleId manifest.version
  let installed := installedDir settings.modulesPath call.moduleId manifest.version
  extract call.archive call.traversal staging (call.faults .extract)
  healthGate call manifest staging
  rmtreeIfExists installed (call.faults .dropInstalled)
  move staging installed (call.faults .move)
  modify fun s => { s with promoted := true }
  raiseIf ((call.faults .checksum).map fun fault => .crash fault.crash)
  upsert (updatedRecord settings call current manifest validation) (call.faults .upsert)
  commit (call.faults .commit)

/-- `rollback`, and the quarantine where it is refused. -/
def rollbackOrQuarantine (call : UpdateCall) (current : InstalledPackageRecord) (reason : String)
    (lastError : Option String) : Op Unit :=
  tryCatch (do let _ ← rollback settings call.moduleId call.faults) fun
    | .packageError _ _ => do
      let _ ← quarantinePackage current reason lastError call.now call.faults
    | .crash c => raise c

/-- The `except` clauses. -/
def handleFailure (call : UpdateCall) (current : InstalledPackageRecord) (manifest : ModuleManifest) :
    Raised → Op Unit
  | .packageError message code => do
    sessionRollback (call.faults .sessionRollback)
    runIf (code = healthGateFailed ∧ (← get).promoted = true)
      (rollbackOrQuarantine settings call current "health_gate_failed" (some message))
    rmtreeIgnoringErrors (stagingDir settings.modulesPath call.moduleId manifest.version)
      (call.faults .dropStaging)
    throw (.packageError message code)
  | .crash .exception => do
    rmtreeIgnoringErrors (stagingDir settings.modulesPath call.moduleId manifest.version)
      (call.faults .dropStaging)
    rollbackOrQuarantine settings call current "update_failed" none
    raise .exception
  | .crash .interrupted => raise .interrupted

/-- `PackageUpdater.update`. -/
def update (call : UpdateCall) : Op PackageMutationResult := do
  let (current, manifest, validation) ← checkUpdate settings call
  withLock call.acquire (call.faults .release) do
    backUp settings call current
    tryCatch (promote settings call current manifest validation)
      (handleFailure settings call current manifest)
  return {
    moduleId := call.moduleId
    success := true
    message := "Package updated; restart required"
    packageState := PackageState.installed.value
    installedVersion := some manifest.version
    restartRequired := true
    rollbackVersion := some current.installedVersion }

/-! ### Install and remove -/

structure InstallCall where
  archive : PackageTree
  source : String
  validation : Except Raised ValidationResult
  traversal : Option Traversal
  acquire : Option Raised
  faults : Faults

def installedRecord (call : InstallCall) (manifest : ModuleManifest) (validation : ValidationResult)
    (status : SignatureStatus) : InstalledPackageRecord where
  moduleId := manifest.moduleId
  installedVersion := manifest.version
  packageState := .installed
  packagePath := installedDir settings.modulesPath manifest.moduleId manifest.version
  publisher := manifest.publisher
  source := call.source
  checksumSha256 := computePackageContentSha256 call.archive
  signatureStatus := status
  rollbackVersion := none
  previousPackagePath := none
  moduleApiVersion := manifest.moduleApiVersion
  restartRequired := true
  metadata := buildInstallMetadata manifest validation

def placePackage (call : InstallCall) (manifest : ModuleManifest) (validation : ValidationResult) :
    Op Unit := do
  let staging := stagingDir settings.modulesPath manifest.moduleId manifest.version
  let installed := installedDir settings.modulesPath manifest.moduleId manifest.version
  let status := if validation.signatureValid then SignatureStatus.valid else .unsigned
  extract call.archive call.traversal staging (call.faults .extract)
  if status = .unsigned ∧ settings.allowUnsignedModules = false then
    throw (.packageError "unsigned package rejected" signatureInvalid)
  else
    rmtreeIfExists installed (call.faults .dropInstalled)
    move staging installed (call.faults .move)
    raiseIf ((call.faults .checksum).map fun fault => .crash fault.crash)
    upsert (installedRecord settings call manifest validation status) (call.faults .upsert)
    commit (call.faults .commit)

/-- `PackageInstaller.install`. -/
def install (call : InstallCall) : Op PackageMutationResult := do
  let validation ← liftExcept call.validation
  let manifest ← liftExcept (acceptedManifest validation)
  withLock call.acquire (call.faults .release)
    (tryCatch (placePackage settings call manifest validation) fun
      | .crash .interrupted => raise .interrupted
      | e => do
        rmtreeIgnoringErrors (stagingDir settings.modulesPath manifest.moduleId manifest.version)
          (call.faults .dropStaging)
        throw e)
  return {
    moduleId := manifest.moduleId
    success := true
    message := "Package installed; restart required for activation"
    packageState := PackageState.installed.value
    installedVersion := some manifest.version
    restartRequired := true }

/-- Who still uses a module. -/
structure ImpactReport where
  affectedModules : List String
  affectedSites : List String
  affectedDevices : List String
  deriving Repr, DecidableEq

/-- `PackageRemover.remove`. -/
def remove (moduleId : String) (impact : Except Raised ImpactReport) (acquire : Option Raised)
    (faults : Faults) : Op PackageMutationResult := do
  match ← repoGet moduleId (faults .readCurrent) with
  | none => throw (.packageError ("module not installed: " ++ moduleId) moduleNotInstalled)
  | some current =>
    let impact ← liftExcept impact
    if impact.affectedDevices ≠ [] then
      throw (.packageError "module has registered devices" moduleHasDevices)
    else if impact.affectedSites ≠ [] ∨ impact.affectedModules ≠ [] then
      throw (.packageError "module in use" moduleInUse)
    else
      withLock acquire (faults .release) do
        runIf ((← pathExists current.packagePath) = true)
          (rmtreeIgnoringErrors current.packagePath (faults .dropPackage))
        delete moduleId (faults .upsert)
        commit (faults .commit)
      return {
        moduleId := moduleId
        success := true
        message := "Package removed; restart required"
        packageState := PackageState.removing.value
        restartRequired := true }

end EnergyCore.Packages
