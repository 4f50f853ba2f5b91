import EnergyCore.PackageArchives.FileEffects
import EnergyCore.PackageArchives.ManifestChecks
import EnergyCore.PackageArchives.PackageSignature

/-!
# Validating an archive

The checks of `validate_archive` in the order of the source: the limits, the manifest, what the manifest states, and, if
nothing is wrong so far, the signature of the files extracted into a staging directory.

* `keeps_validateManifest` — the effects of a validation are those of its staging directory;
* `ends_validateArchive` — what is known of an archive that is accepted;
* `returns_validateArchive` — an archive with what is asked for is accepted.
-/

namespace EnergyCore.PackageArchives

open FallibleSteps JsonValues PosixPaths
open Packages (Path Raised Crash SignatureStatus ValidationResult ModuleManifest Versions)

/-! ### Settings and services -/

structure Settings extends Packages.Settings where
  packageMaxBytes : ℕ
  emicVersion : String
  moduleApiVersion : ℤ

/-- What the governance service is asked about. -/
structure PolicyRequest where
  moduleId : String
  publisherId : String
  permissions : List String
  providedCapabilities : List String
  deriving Repr, DecidableEq

structure PolicyOutcome where
  decision : String
  reasonCodes : List String
  explanation : Option String
  publisherTier : Option String
  controlCapable : Bool
  policyVersion : Option ℤ
  deriving Repr, DecidableEq

/-- The installed versions by module. -/
abbrev InstalledVersions := List (String × String)

/-- A validator with what it relies on: the checks of permissions, capabilities and hosts, the known module types, the
checks of dependencies, and the governance service, which is there if there is a session. -/
structure PackageValidator where
  settings : Settings
  trustStore : Option PublisherTrustStore
  lib : PyLib
  verify : Ed25519Verify
  checkPermissions : ModuleManifest → Except Raised Unit
  isModuleType : String → Bool
  checkDependencies : ModuleManifest → InstalledVersions → Except Raised Unit
  governance : Option (PolicyRequest → PolicyOutcome)

def moduleIdProtected : String := "MODULE_ID_PROTECTED"
def moduleAlreadyInstalled : String := "MODULE_ALREADY_INSTALLED"
def incompatibleEmicVersion : String := "INCOMPATIBLE_EMIC_VERSION"
def incompatibleModuleApiVersion : String := "INCOMPATIBLE_MODULE_API_VERSION"

structure Validation extends ValidationResult where
  publisherIdentityValid : Bool := false
  policy : Option PolicyOutcome := none
  deriving Repr, DecidableEq

def rejected (errors : List String) : Validation := { valid := false, errors := errors }

/-- A file that is to be validated: its size, and its members if it is a zip archive. -/
structure ArchiveFile where
  size : ℕ
  members : Option Archive

variable (v : PackageValidator)

/-! ### The manifest -/

/-- `except PackageError as exc: return ValidationResult(valid=False, errors=(exc.code,))`. -/
def orRejected {α : Type} (r : Except Raised α) (next : α → FileOp Validation) : FileOp Validation :=
  match r with
  | .ok a => next a
  | .error (.packageError _ code) => pure (rejected [code])
  | .error (.crash c) => raise c

/-- The manifest as it stands in the archive, or the result if there is none that can be read. -/
inductive ManifestRead where
  | found (raw : Json)
  | rejected (error : String)
  | raised (e : Raised)

def readManifest (archive : Archive) : ManifestRead :=
  if manifestJson ∉ namelist archive then
    .raised (.packageError "manifest.json missing" invalidManifest)
  else match read archive manifestJson with
    | .error .badZipFile => .rejected "invalid zip archive"
    | .error .other => .raised (.crash .exception)
    | .ok data =>
      match v.lib.loads data with
      | .error .decodeError => .rejected invalidManifest
      | .error .other => .raised (.crash .exception)
      | .ok raw => .found raw

/-! ### The checks of the manifest -/

/-- `except PackageError as exc: errors.append(exc.code)`. -/
def codeOf (r : Except Raised Unit) : Except Raised (List String) :=
  match r with
  | .ok () => .ok []
  | .error (.packageError _ code) => .ok [code]
  | .error (.crash c) => .error (.crash c)

def emicVersionErrors (manifest : Manifest) : List String :=
  let versions := v.settings.versions
  let known := do
    let emicVersion ← versions.parse v.settings.emicVersion
    let minimum ← versions.parse manifest.minimumEmicVersion
    return (emicVersion, minimum)
  match known with
  | none => [incompatibleEmicVersion]
  | some (emicVersion, minimum) =>
    let low := if versions.lt emicVersion minimum then [incompatibleEmicVersion] else []
    match manifest.maximumEmicVersion with
    | none => low
    | some maximum =>
      if maximum = "" then low
      else match versions.parse maximum with
        | none => low ++ [incompatibleEmicVersion]
        | some maximum =>
          low ++ if versions.lt maximum emicVersion then [incompatibleEmicVersion] else []

def dependencyCycle : String := "DEPENDENCY_CYCLE"

/-- `detect_cycles` of the graph that holds the module alone. -/
def cycleErrors (manifest : Manifest) : List String :=
  if manifest.moduleDependencies.any fun d => decide (d.moduleId = manifest.moduleId) then [dependencyCycle] else []

def staticErrors (archive : Archive) (raw : Dict) (manifest : Manifest) (installed : InstalledVersions) :
    Except Raised (List String) := do
  let permissionErrors ← codeOf (v.checkPermissions manifest.toModuleManifest)
  let hashErrors ← codeOf
    (verifyContentHashes v.lib archive raw manifest.archiveSha256 manifest.manifestSha256)
  let dependencyErrors ← codeOf (v.checkDependencies manifest.toModuleManifest installed)
  return emicVersionErrors v manifest
    ++ (if manifest.moduleApiVersion > v.settings.moduleApiVersion then [incompatibleModuleApiVersion] else [])
    ++ permissionErrors
    ++ (if v.isModuleType manifest.moduleType then [] else [invalidManifest])
    ++ hashErrors ++ dependencyErrors ++ cycleErrors manifest

/-! ### The staged files -/

def stagingDir (moduleId version : String) : Path :=
  join (join (join v.settings.modulesPath ".staging") moduleId) version

def validationDir (manifest : Manifest) : Path :=
  stagingDir v manifest.moduleId ("validate-" ++ manifest.version)

/-- The signature of the staged files, or the code of the error; the staging directory is removed in any case. -/
def stagedSignature (disk : Disk) (archive : Archive) (raw : Dict) (manifest : Manifest) :
    FileOp (Except String SignatureStatus) := do
  let staging := validationDir v manifest
  let body : FileOp (Except String SignatureStatus) := do
    let packageDir ← extract disk archive staging
    let status ← liftExcept (verifySignature v.lib v.verify v.settings.allowUnsignedModules v.trustStore packageDir
      raw archive)
    return .ok status
  let outcome ← tryCatch body fun
    | .packageError _ code => pure (.error code)
    | .crash c => do
      rmtreeIgnoringErrors staging
      raise c
  rmtreeIgnoringErrors staging
  return outcome

/-! ### The result -/

def signatureErrors (status : SignatureStatus) : List String :=
  match status with
  | .unsigned | .missing => if v.settings.allowUnsignedModules then [] else [Packages.signatureInvalid]
  | .invalid => [Packages.signatureInvalid]
  | .valid => []

/-- The policy of the publisher that the manifest names. -/
def policyOf (manifest : Manifest) : Option PolicyOutcome :=
  v.governance.map fun evaluate => evaluate {
    moduleId := manifest.moduleId
    publisherId := manifest.publisher
    permissions := manifest.permissions
    providedCapabilities := manifest.providedCapabilities }

def conclude (manifest : Manifest) (errors : List String) (status : SignatureStatus) : Validation :=
  let errors := errors ++ signatureErrors v status
  let signed := decide (status = .invalid ∨ status = .valid)
  let signatureValid := decide (status = .valid)
  if errors ≠ [] then
    { valid := false, errors := errors, signed := signed, signatureValid := signatureValid,
      publisherTrusted := signatureValid, publisherIdentityValid := signatureValid }
  else
    { valid := true, manifest := some manifest.toModuleManifest, signed := signed,
      signatureValid := signatureValid, publisherTrusted := signatureValid,
      publisherIdentityValid := signatureValid,
      installAllowed := signatureValid ||
        (v.settings.allowUnsignedModules && decide (status = .unsigned)),
      policy := policyOf v manifest }

def validateManifest (disk : Disk) (archive : Archive) (raw : Dict) (manifest : Manifest)
    (installed : InstalledVersions) : FileOp Validation := do
  let errors ← liftExcept (staticErrors v archive raw manifest installed)
  if errors ≠ [] then return conclude v manifest errors .missing
  else
    match ← stagedSignature v disk archive raw manifest with
    | .error code => return conclude v manifest [code] .missing
    | .ok status => return conclude v manifest [] status

def validateMembers (disk : Disk) (archive : Archive) (installed : InstalledVersions) (allowReinstall : Bool) :
    FileOp Validation :=
  orRejected (inspectArchiveLimits archive) fun _ =>
    match readManifest v archive with
    | .raised e => throw e
    | .rejected error => pure (rejected [error])
    | .found raw =>
      orRejected (parseManifestDict v.lib raw) fun (raw, manifest) =>
        if isProtectedModuleId manifest.moduleId then pure (rejected [moduleIdProtected])
        else if manifest.moduleId ∈ installed.map Prod.fst ∧ allowReinstall = false then
          pure (rejected [moduleAlreadyInstalled])
        else validateManifest v disk archive raw manifest installed

/-- `PackageValidator.validate_archive`. -/
def validateArchive (disk : Disk) (file : Option ArchiveFile) (installed : InstalledVersions)
    (allowReinstall : Bool) : FileOp Validation :=
  match file with
  | none => pure (rejected ["archive not found"])
  | some file =>
    if file.size > v.settings.packageMaxBytes then pure (rejected [packageTooLarge])
    else match file.members with
      | none => raise .exception
      | some archive => validateMembers v disk archive installed allowReinstall

/-! ### What is accepted -/

/-- What has been found out about an archive whose manifest is checked: it is within the limits, and its manifest is one
of a module that may be installed. -/
structure Inspected (archive : Archive) (raw : Dict) (manifest : Manifest) : Prop where
  limits : inspectArchiveLimits archive = .ok ()
  listed : manifestJson ∈ namelist archive
  readable : ∃ data, read archive manifestJson = .ok data ∧ v.lib.loads data = .ok (.obj raw)
  parsed : parseFields v.lib raw = .ok manifest
  unprotected : isProtectedModuleId manifest.moduleId = false

/-- What has been found out about an archive that is accepted with a signature status. -/
structure Accepted (disk : Disk) (archive : Archive) (raw : Dict) (manifest : Manifest)
    (status : SignatureStatus) (packageDir : Tree) : Prop extends Inspected v archive raw manifest where
  hashes : verifyContentHashes v.lib archive raw manifest.archiveSha256 manifest.manifestSha256 = .ok ()
  staged : extractedOver (filesThere disk (validationDir v manifest)) archive = .ok packageDir
  signature : verifySignature v.lib v.verify v.settings.allowUnsignedModules v.trustStore packageDir raw archive
    = .ok status

theorem readManifest_found {archive : Archive} {raw : Json} (h : readManifest v archive = .found raw) :
    manifestJson ∈ namelist archive ∧ ∃ data, read archive manifestJson = .ok data ∧ v.lib.loads data = .ok raw := by
  unfold readManifest at h
  split_ifs at h with hlisted
  refine ⟨hlisted, ?_⟩
  cases hread : read archive manifestJson with
  | error e =>
    rw [hread] at h
    cases e <;> cases h
  | ok data =>
    rw [hread] at h
    cases hloads : v.lib.loads data with
    | error e =>
      simp only [hloads] at h
      cases e <;> cases h
    | ok raw' =>
      simp only [hloads, ManifestRead.found.injEq] at h
      exact ⟨data, rfl, by rw [hloads, h]⟩

theorem codeOf_nil {r : Except Raised Unit} (h : codeOf r = .ok []) : r = .ok () := by
  cases r with
  | ok u => rfl
  | error e =>
    cases e with
    | packageError message code => exact absurd (Except.ok.inj h) (List.cons_ne_nil _ _)
    | crash c => cases h

theorem staticErrors_nil {archive : Archive} {raw : Dict} {manifest : Manifest} {installed : InstalledVersions}
    (h : staticErrors v archive raw manifest installed = .ok []) :
    verifyContentHashes v.lib archive raw manifest.archiveSha256 manifest.manifestSha256 = .ok () := by
  unfold staticErrors at h
  cases hpermissions : codeOf (v.checkPermissions manifest.toModuleManifest) with
  | error e =>
    rw [hpermissions] at h
    cases h
  | ok permissionErrors =>
    cases hhashes : codeOf
      (verifyContentHashes v.lib archive raw manifest.archiveSha256 manifest.manifestSha256) with
    | error e =>
      rw [hpermissions, hhashes] at h
      cases h
    | ok hashErrors =>
      cases hdependencies : codeOf (v.checkDependencies manifest.toModuleManifest installed) with
      | error e =>
        rw [hpermissions, hhashes, hdependencies] at h
        cases h
      | ok dependencyErrors =>
        rw [hpermissions, hhashes, hdependencies] at h
        have h := Except.ok.inj h
        simp only [List.append_eq_nil_iff] at h
        exact codeOf_nil (h.1.1.2 ▸ hhashes)

theorem orRejected_ok {α : Type} (a : α) (next : α → FileOp Validation) : orRejected (.ok a) next = next a := rfl

theorem ends_orRejected {α : Type} {r : Except Raised α} {next : α → FileOp Validation} {w : World}
    {Q : Validation → World → Prop} {E : Raised → World → Prop} (hok : ∀ a, r = .ok a → Ends (next a) w Q E)
    (hrejected : ∀ code, Q (rejected [code]) w) (hraised : ∀ c, E (.crash c) w) : Ends (orRejected r next) w Q E := by
  cases r with
  | ok a => exact hok a rfl
  | error e =>
    cases e with
    | packageError message code => exact hrejected code
    | crash c => exact hraised c

/-- A validation that reaches the checks of the manifest. -/
theorem ends_validateArchive_of_inspected {disk : Disk} {file : Option ArchiveFile} {installed : InstalledVersions}
    {allowReinstall : Bool} {w : World} {Q : Validation → World → Prop} {E : Raised → World → Prop}
    (hchecked : ∀ file' archive raw manifest, file = some file' → file'.members = some archive →
      Inspected v archive raw manifest → Ends (validateManifest v disk archive raw manifest installed) w Q E)
    (hrejected : ∀ errors, Q (rejected errors) w) (hraised : ∀ e, E e w) :
    Ends (validateArchive v disk file installed allowReinstall) w Q E := by
  cases file with
  | none => exact ends_pure (hrejected _)
  | some file =>
    refine ends_ite (fun _ => ends_pure (hrejected _)) fun _ => ?_
    cases hmembers : file.members with
    | none => exact ends_throw (hraised _)
    | some archive =>
      refine ends_orRejected (fun _ hlimits => ?_) (fun _ => hrejected _) fun _ => hraised _
      cases hread : readManifest v archive with
      | raised e => exact ends_throw (hraised e)
      | rejected error => exact ends_pure (hrejected _)
      | found raw =>
        obtain ⟨hlisted, data, hdata, hloads⟩ := readManifest_found v hread
        refine ends_orRejected (fun parsed hparsed => ?_) (fun _ => hrejected _) fun _ => hraised _
        obtain ⟨members, manifest⟩ := parsed
        obtain ⟨rfl, hfields⟩ := parseManifestDict_ok v.lib hparsed
        refine ends_ite (fun _ => ends_pure (hrejected _)) fun hunprotected => ?_
        refine ends_ite (fun _ => ends_pure (hrejected _)) fun _ => ?_
        exact hchecked file archive members manifest rfl hmembers
          ⟨hlimits, hlisted, ⟨data, hdata, hloads⟩, hfields, by simpa using hunprotected⟩

/-! ### The effects and the outcome -/

section

variable {P : Effect → Prop} {I : World → Prop} (hI : Stable P I) (disk : Disk) {archive : Archive} {raw : Dict}
  {manifest : Manifest} (hlimits : inspectArchiveLimits archive = .ok ())
  (h : FillsDirectory P (validationDir v manifest))

include hI hlimits h

theorem keeps_stagedSignature : Keeps I (stagedSignature v disk archive raw manifest) := by
  refine keeps_bind (keeps_tryCatch ?_ fun e => ?_) fun _ => keeps_bind (keeps_log hI h.removes) fun _ => keeps_pure _
  · exact keeps_bind (keeps_extract disk hI h hlimits) fun _ =>
      keeps_bind (keeps_liftExcept _) fun _ => keeps_pure _
  · cases e with
    | packageError message code => exact keeps_pure _
    | crash c => exact keeps_bind (keeps_log hI h.removes) fun _ => keeps_throw _

/-- **The effects of a validation** are those of its staging directory. -/
theorem keeps_validateManifest (installed : InstalledVersions) :
    Keeps I (validateManifest v disk archive raw manifest installed) := by
  refine keeps_bind (keeps_liftExcept _) fun errors => keeps_ite (keeps_pure _) ?_
  refine keeps_bind (keeps_stagedSignature v hI disk hlimits h) fun outcome => ?_
  cases outcome with
  | error code => exact keeps_pure _
  | ok status => exact keeps_pure _

end

theorem ends_stagedSignature (disk : Disk) {archive : Archive} {raw : Dict} {manifest : Manifest}
    (hlimits : inspectArchiveLimits archive = .ok ()) (w : World) :
    Ends (stagedSignature v disk archive raw manifest) w (fun outcome _ => ∀ status, outcome = .ok status →
        ∃ packageDir, extractedOver (filesThere disk (validationDir v manifest)) archive = .ok packageDir ∧
          verifySignature v.lib v.verify v.settings.allowUnsignedModules v.trustStore packageDir raw archive
            = .ok status) (fun _ _ => True) := by
  refine ends_bind (ends_tryCatch_any ?_ fun e w' => ?_)
    fun outcome w' houtcome => ends_bind (ends_modify houtcome) fun _ _ h => ends_pure h
  · refine ends_bind (ends_extract disk hlimits w) fun packageDir w₁ hstaged => ?_
    refine ends_bind ((ends_liftExcept _ w₁).mono (fun _ _ h => h.1) fun _ _ _ => trivial) ?_
    intro status w₂ hsignature
    refine ends_pure fun status' hstatus => ⟨packageDir, hstaged, ?_⟩
    rw [hsignature, Except.ok.inj hstatus]
  · cases e with
    | packageError message code => exact ends_pure fun status hstatus => by cases hstatus
    | crash c => exact ends_bind (ends_true w') fun _ _ _ => ends_throw trivial

theorem conclude_valid {manifest : Manifest} {errors : List String} {status : SignatureStatus}
    (h : (conclude v manifest errors status).valid = true) : errors = [] ∧ signatureErrors v status = [] := by
  unfold conclude at h
  dsimp only at h
  split_ifs at h with herrors
  exact List.append_eq_nil_iff.mp (not_not.mp herrors)

/-- **What is accepted.** A valid result is that of an archive whose hashes agree and whose staged files have the
signature status that the result was made with. -/
theorem ends_validateManifest (disk : Disk) {archive : Archive} {raw : Dict} {manifest : Manifest}
    (hinspected : Inspected v archive raw manifest) (installed : InstalledVersions) (w : World) :
    Ends (validateManifest v disk archive raw manifest installed) w
      (fun result _ => result.valid = true → ∃ status packageDir,
        Accepted v disk archive raw manifest status packageDir ∧ result = conclude v manifest [] status)
      (fun _ _ => True) := by
  refine ends_bind ((ends_liftExcept _ w).mono (fun _ _ h => h.1) fun _ _ _ => trivial) ?_
  intro errors w₁ herrors
  refine ends_ite (fun hne => ends_pure fun hvalid => absurd (conclude_valid v hvalid).1 hne) fun hnil => ?_
  rw [not_not.mp hnil] at herrors
  refine ends_bind (ends_stagedSignature v disk hinspected.limits w₁) fun outcome w₂ houtcome => ?_
  cases outcome with
  | error code =>
    refine ends_pure fun hvalid => ?_
    exact absurd (conclude_valid v hvalid).1 (List.cons_ne_nil code [])
  | ok status =>
    refine ends_pure fun _ => ?_
    obtain ⟨packageDir, hstaged, hsignature⟩ := houtcome status rfl
    exact ⟨status, packageDir, ⟨hinspected, staticErrors_nil v herrors, hstaged, hsignature⟩, rfl⟩

/-- What remains of a validation once everything but the signature has been checked. -/
theorem validateArchive_eq {disk : Disk} {file : ArchiveFile} {archive : Archive} {raw : Dict} {manifest : Manifest}
    {installed : InstalledVersions} {allowReinstall : Bool} (hsize : file.size ≤ v.settings.packageMaxBytes)
    (hmembers : file.members = some archive) (hinspected : Inspected v archive raw manifest)
    (hparsed : parseManifestDict v.lib (.obj raw) = .ok (raw, manifest))
    (hnew : manifest.moduleId ∉ installed.map Prod.fst)
    (hstatic : staticErrors v archive raw manifest installed = .ok []) :
    validateArchive v disk (some file) installed allowReinstall = do
      match ← stagedSignature v disk archive raw manifest with
      | .error code => return conclude v manifest [code] .missing
      | .ok status => return conclude v manifest [] status := by
  obtain ⟨data, hread, hloads⟩ := hinspected.readable
  have hfound : readManifest v archive = .found (.obj raw) := by
    unfold readManifest
    rw [if_neg (not_not.mpr hinspected.listed), hread]
    simp only [hloads]
  unfold validateArchive validateMembers validateManifest
  simp only [hmembers]
  rw [if_neg (by omega), hinspected.limits, orRejected_ok, hfound]
  dsimp only
  rw [hparsed, orRejected_ok, if_neg (by rw [hinspected.unprotected]; simp), if_neg fun h => hnew h.1, hstatic]
  rfl

/-- **What is checked is all that is checked.** On a disk without faults, an archive that passes the checks one by one
is accepted. -/
theorem returns_validateArchive (allowReinstall : Bool) {disk : Disk} (hquiet : Quiet disk) {file : ArchiveFile} {archive : Archive}
    {raw : Dict} {manifest : Manifest} {installed : InstalledVersions} {status : SignatureStatus} {packageDir : Tree}
    (hsize : file.size ≤ v.settings.packageMaxBytes) (hmembers : file.members = some archive)
    (haccepted : Accepted v disk archive raw manifest status packageDir)
    (hparsed : parseManifestDict v.lib (.obj raw) = .ok (raw, manifest))
    (hnew : manifest.moduleId ∉ installed.map Prod.fst)
    (hstatic : staticErrors v archive raw manifest installed = .ok []) :
    Returns (validateArchive v disk (some file) installed allowReinstall) fun result =>
      result = conclude v manifest [] status := by
  have hstaged : Returns (stagedSignature v disk archive raw manifest) fun outcome => outcome = .ok status := by
    refine returns_bind (returns_tryCatch (Q := fun outcome => outcome = .ok status) ?_) fun outcome houtcome =>
      returns_bind (returns_log _) fun _ _ => returns_pure houtcome
    refine returns_bind (returns_extract hquiet haccepted.limits haccepted.staged) fun tree htree => ?_
    rw [htree, haccepted.signature]
    exact returns_bind (returns_liftExcept rfl) fun status' hstatus => returns_pure (by rw [hstatus])
  rw [validateArchive_eq v hsize hmembers haccepted.toInspected hparsed hnew hstatic]
  refine returns_bind hstaged fun outcome houtcome => ?_
  rw [houtcome]
  exact returns_pure rfl

/-- The staging directory is removed, however the validation of the signature ends. -/
theorem ends_stagedSignature_removes {disk : Disk} {archive : Archive} {raw : Dict} {manifest : Manifest}
    (w : World) : Ends (stagedSignature v disk archive raw manifest) w
      (fun _ w' => Effect.removeTree (resolve (validationDir v manifest)) ∈ w'.effects)
      (fun _ w' => Effect.removeTree (resolve (validationDir v manifest)) ∈ w'.effects) := by
  have hlog : ∀ w₁, Ends (rmtreeIgnoringErrors (validationDir v manifest)) w₁
      (fun _ w' => Effect.removeTree (resolve (validationDir v manifest)) ∈ w'.effects)
      (fun _ w' => Effect.removeTree (resolve (validationDir v manifest)) ∈ w'.effects) :=
    fun w₁ => ends_modify (List.mem_append_right _ (List.mem_singleton_self _))
  refine ends_bind (Q := fun _ _ => True) (ends_tryCatch (ends_true w) fun e w₁ _ => ?_) fun outcome w₁ _ =>
    ends_bind (hlog w₁) fun _ _ h => ends_pure h
  cases e with
  | packageError message code => exact ends_pure trivial
  | crash c => exact ends_bind (hlog w₁) fun _ _ h => ends_throw h

/-- The outcome of a whole validation. -/
theorem ends_validateArchive (disk : Disk) (file : Option ArchiveFile) (installed : InstalledVersions)
    (allowReinstall : Bool) (w : World) : Ends (validateArchive v disk file installed allowReinstall) w
      (fun result _ => result.valid = true → ∃ file' archive raw manifest status packageDir,
        file = some file' ∧ file'.members = some archive ∧
          Accepted v disk archive raw manifest status packageDir ∧ result = conclude v manifest [] status)
      (fun _ _ => True) := by
  refine ends_validateArchive_of_inspected v (fun file' archive raw manifest hfile hmembers hinspected => ?_)
    (fun errors hvalid => by cases hvalid) fun _ => trivial
  refine (ends_validateManifest v disk hinspected installed w).mono (fun result w' h hvalid => ?_) fun _ _ h => h
  obtain ⟨status, packageDir, haccepted, hresult⟩ := h hvalid
  exact ⟨file', archive, raw, manifest, status, packageDir, hfile, hmembers, haccepted, hresult⟩

end EnergyCore.PackageArchives
