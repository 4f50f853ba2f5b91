import EnergyCore.PackageArchives.PackageValidator

/-!
# Installing and updating from an archive

`install` and `update` with the paths that they change: the lock file, the staging directory, the installed directory
and the backup. What the database answers, and what the package's own code does at the health gate and in a migration,
is given with the call.
-/

namespace EnergyCore.PackageArchives

open FallibleSteps JsonValues PosixPaths
open Packages (Path Raised Crash SignatureStatus ModuleManifest InstalledPackageRecord PackageMutationResult
  PackageState signatureInvalid moduleNotInstalled versionDowngradeNotAllowed healthGateFailed rollbackUnavailable)

variable (v : PackageValidator) (disk : Disk)

/-! ### Directories -/

/-- `root / top / module_id / version`. -/
def packageDir (top moduleId version : String) : Path :=
  join (join (join v.settings.modulesPath top) moduleId) version

def installedDir (moduleId version : String) : Path := packageDir v "installed" moduleId version

def backupDir (moduleId version : String) : Path := packageDir v "backups" moduleId version

def lockDir : Path := join v.settings.modulesPath ".locks"

def lockFile (moduleId : String) : Path := join (lockDir v) (moduleId ++ ".lock")

/-! ### The lock and the database -/

def packageLocked : String := "PACKAGE_LOCKED"

/-- `with self._lock.acquire(module_id)`. -/
def withLock {α : Type} (moduleId : String) (body : FileOp α) : FileOp α := do
  let lock ← ask disk
  if lock.found = false then throw (.packageError ("package mutation locked: " ++ moduleId) packageLocked)
  else do
    mkdirParents disk (lockDir v)
    perform disk (.write (resolve (lockFile v moduleId)))
    let result ← tryCatch body fun e => do
      perform disk (.unlink (resolve (lockFile v moduleId)))
      throw e
    perform disk (.unlink (resolve (lockFile v moduleId)))
    return result

/-- A statement of the database session. -/
def query : FileOp Unit := do
  let answer ← ask disk
  raiseFault answer.fault

def installedVersions (rows : List InstalledPackageRecord) : InstalledVersions :=
  rows.map fun row => (row.moduleId, row.installedVersion)

/-- The members of the archive, which is opened again. -/
def openArchive (file : Option ArchiveFile) : Except Raised Archive :=
  match file.bind ArchiveFile.members with
  | none => .error (.crash .exception)
  | some archive => .ok archive

/-! ### Install -/

/-- What an installation leaves: its result, the stored record, and the files in the installed directory. -/
structure Installed where
  result : PackageMutationResult
  record : InstalledPackageRecord
  files : Tree

def signatureStatusOf (validation : Validation) : SignatureStatus :=
  if validation.signatureValid then .valid else .unsigned

def installedRecord (source : String) (manifest : ModuleManifest) (validation : Validation) (checksum : String) :
    InstalledPackageRecord where
  moduleId := manifest.moduleId
  installedVersion := manifest.version
  packageState := .installed
  packagePath := installedDir v manifest.moduleId manifest.version
  publisher := manifest.publisher
  source := source
  checksumSha256 := checksum
  signatureStatus := signatureStatusOf validation
  rollbackVersion := none
  previousPackagePath := none
  moduleApiVersion := manifest.moduleApiVersion
  restartRequired := true
  metadata := Packages.buildInstallMetadata manifest validation.toValidationResult

def installedResult (manifest : ModuleManifest) : PackageMutationResult where
  moduleId := manifest.moduleId
  success := true
  message := "Package installed; restart required for activation"
  packageState := PackageState.installed.value
  installedVersion := some manifest.version
  restartRequired := true

def placePackage (source : String) (archive : Archive) (manifest : ModuleManifest) (validation : Validation) :
    FileOp Installed := do
  let staging := stagingDir v manifest.moduleId manifest.version
  let installed := installedDir v manifest.moduleId manifest.version
  let files ← extract disk archive staging
  if signatureStatusOf validation = .unsigned ∧ v.settings.allowUnsignedModules = false then
    throw (.packageError "unsigned package rejected" signatureInvalid)
  else do
    rmtreeIfExists disk installed
    move disk staging installed
    let checksum ← liftExcept (contentHash v.lib archive)
    query disk
    query disk
    return ⟨installedResult manifest, installedRecord v source manifest validation checksum, files⟩

/-- `PackageInstaller.install`. -/
def install (rows : List InstalledPackageRecord) (source : String) (file : Option ArchiveFile) :
    FileOp Installed := do
  query disk
  let validation ← validateArchive v disk file (installedVersions rows) false
  let manifest ← liftExcept (Packages.acceptedManifest validation.toValidationResult)
  let archive ← liftExcept (openArchive file)
  withLock v disk manifest.moduleId
    (tryCatch (placePackage v disk source archive manifest validation) fun e =>
      if e = .crash .interrupted then throw e
      else do
        rmtreeIgnoringErrors (stagingDir v manifest.moduleId manifest.version)
        throw e)

/-! ### Rollback -/

/-- `PackageRollbackService.rollback`, with the row that it reads. -/
def rollback (moduleId : String) (row : Option InstalledPackageRecord) : FileOp Unit := do
  query disk
  match row with
  | none => throw (.packageError ("module not installed: " ++ moduleId) moduleNotInstalled)
  | some current =>
    match Packages.rollbackTarget current with
    | none => throw (.packageError "rollback unavailable" rollbackUnavailable)
    | some (version, _) => do
      let found ← pathExists disk
      if found then do
        let target := installedDir v moduleId version
        rmtreeIfExists disk target
        copytree disk target
        query disk
        query disk
      else throw (.packageError "rollback backup missing" rollbackUnavailable)

/-! ### Update -/

/-- A call of `update`, with the rows that are read in its course, and what the analysis of the impact, the migration
script and the health gate end in. -/
structure UpdateCall where
  moduleId : String
  allowDowngrade : Bool
  current : Option InstalledPackageRecord
  rows : List InstalledPackageRecord
  impact : Option Raised
  migration : Option Raised
  health : Option Raised
  rowAtRollback : Option InstalledPackageRecord

variable (call : UpdateCall) (file : Option ArchiveFile)

def raiseIf : Option Raised → FileOp Unit
  | none => pure ()
  | some e => throw e

/-- `PackageImpactAnalyzer.assert_update_allowed`, which validates the archive once more. -/
def assertUpdateAllowed : FileOp Unit := do
  query disk
  let _ ← validateArchive v disk file (installedVersions call.rows) true
  raiseIf call.impact

/-- The dry run of a configuration migration, in the staging directory. -/
def probeMigration (archive : Archive) (staging : Path) : FileOp Unit := do
  let _ ← extract disk archive staging
  match call.migration with
  | none => rmtreeIgnoringErrors staging
  | some (.packageError message code) => do
    rmtreeIgnoringErrors staging
    throw (.packageError message code)
  | some (.crash c) => raise c

/-- Everything that `update` does before it takes the lock. -/
def checkUpdate : FileOp (InstalledPackageRecord × ModuleManifest × Archive) := do
  query disk
  match call.current with
  | none => throw (.packageError ("module not installed: " ++ call.moduleId) moduleNotInstalled)
  | some current => do
    query disk
    let others := (installedVersions call.rows).filter fun row => decide (row.1 ≠ call.moduleId)
    let validation ← validateArchive v disk file others true
    let manifest ← liftExcept (Packages.acceptedManifest validation.toValidationResult)
    let archive ← liftExcept (openArchive file)
    if manifest.moduleId ≠ call.moduleId then
      throw (.packageError "module_id mismatch" moduleNotInstalled)
    else do
      let lower ← liftExcept
        (orRaise (Packages.isLower v.settings.versions manifest.version current.installedVersion))
      if lower ∧ call.allowDowngrade = false then
        throw (.packageError "version downgrade not allowed" versionDowngradeNotAllowed)
      else do
        assertUpdateAllowed v disk call file
        let migrates ← liftExcept
          (orRaise (Packages.requiresMigration v.settings.versions current.installedVersion manifest.version))
        runIf (migrates = true)
          (probeMigration disk call archive (stagingDir v call.moduleId manifest.version))
        return (current, manifest, archive)

/-- The backup of the installed package. -/
def backUp (current : InstalledPackageRecord) : FileOp Unit := do
  let backup := backupDir v call.moduleId current.installedVersion
  rmtreeIfExists disk backup
  copytree disk backup

/-- Whether the health gate lets an update through: package errors other than its own are passed over. -/
def healthGate (staging : Path) : FileOp Unit :=
  match call.health with
  | none => pure ()
  | some (.packageError message code) =>
    if code = healthGateFailed then do
      rmtreeIgnoringErrors staging
      throw (.packageError message code)
    else pure ()
  | some (.crash c) => raise c

/-- The body of the `try` statement. -/
def promote (manifest : ModuleManifest) (archive : Archive) : FileOp Unit := do
  let staging := stagingDir v call.moduleId manifest.version
  let installed := installedDir v call.moduleId manifest.version
  let _ ← extract disk archive staging
  healthGate call staging
  rmtreeIfExists disk installed
  move disk staging installed
  modify fun w => { w with promoted := true }
  let _ ← liftExcept (contentHash v.lib archive)
  query disk
  query disk

/-- `rollback`, and the quarantine of the row where it is refused. -/
def rollbackOrQuarantine : FileOp Unit :=
  tryCatch (rollback v disk call.moduleId call.rowAtRollback) fun
    | .packageError _ _ => do
      query disk
      query disk
    | .crash c => raise c

/-- The `except` clauses. -/
def handleFailure (manifest : ModuleManifest) : Raised → FileOp Unit
  | .packageError message code => do
    query disk
    runIf (code = healthGateFailed ∧ (← get).promoted = true) (rollbackOrQuarantine v disk call)
    rmtreeIgnoringErrors (stagingDir v call.moduleId manifest.version)
    throw (.packageError message code)
  | .crash .exception => do
    rmtreeIgnoringErrors (stagingDir v call.moduleId manifest.version)
    rollbackOrQuarantine v disk call
    raise .exception
  | .crash .interrupted => raise .interrupted

/-- `PackageUpdater.update`. -/
def update : FileOp PackageMutationResult := do
  let (current, manifest, archive) ← checkUpdate v disk call file
  withLock v disk call.moduleId do
    backUp v disk call current
    tryCatch (promote v disk call manifest archive) (handleFailure v disk call manifest)
  return {
    moduleId := call.moduleId
    success := true
    message := "Package updated; restart required"
    packageState := PackageState.installed.value
    installedVersion := some manifest.version
    restartRequired := true
    rollbackVersion := some current.installedVersion }

/-! ### The outcome of an installation -/

theorem acceptedManifest_ok {validation : Validation} {manifest : ModuleManifest}
    (h : Packages.acceptedManifest validation.toValidationResult = .ok manifest) :
    validation.valid = true ∧ validation.manifest = some manifest ∧ validation.installAllowed = true := by
  unfold Packages.acceptedManifest at h
  cases hmanifest : validation.manifest with
  | none =>
    simp only [hmanifest] at h
    cases h
  | some found =>
    simp only [hmanifest] at h
    split_ifs at h with hvalid
    rw [not_or, Bool.not_eq_false, Bool.not_eq_false] at hvalid
    exact ⟨hvalid.1, by rw [Except.ok.inj h], hvalid.2⟩

theorem openArchive_ok {file : Option ArchiveFile} {archive : Archive} (h : openArchive file = .ok archive) :
    ∃ file', file = some file' ∧ file'.members = some archive := by
  unfold openArchive at h
  cases file with
  | none => cases h
  | some file' =>
    rw [Option.bind_some] at h
    cases hmembers : file'.members with
    | none =>
      rw [hmembers] at h
      cases h
    | some archive' =>
      rw [hmembers] at h
      exact ⟨file', rfl, by rw [hmembers, Except.ok.inj h]⟩

end EnergyCore.PackageArchives
