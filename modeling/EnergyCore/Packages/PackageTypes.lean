import EnergyCore.Foundations.JsonValues
import EnergyCore.Foundations.KeywordFields
import EnergyCore.Foundations.Sha256
import Mathlib.Data.List.Infix

/-!
# Module packages

The record that the registry keeps of an installed module, the trees of files that packages are made of with
their content hash, and the errors of the package lifecycle.
-/

namespace EnergyCore.Packages

open JsonValues KeywordFields

/-! ### Errors -/

/-- What an operation raises: a `PackageError` with its text and code, another `Exception`, or a `BaseException`
that no `except Exception` catches. -/
inductive Crash where
  | exception
  | interrupted
  deriving Repr, DecidableEq

inductive Raised where
  | packageError (message code : String)
  | crash (c : Crash)
  deriving Repr, DecidableEq

def moduleNotInstalled : String := "MODULE_NOT_INSTALLED"
def rollbackUnavailable : String := "ROLLBACK_UNAVAILABLE"
def versionDowngradeNotAllowed : String := "VERSION_DOWNGRADE_NOT_ALLOWED"
def signatureInvalid : String := "SIGNATURE_INVALID"
def pathTraversal : String := "PATH_TRAVERSAL"
def healthGateFailed : String := "HEALTH_GATE_FAILED"
def moduleHasDevices : String := "MODULE_HAS_DEVICES"
def moduleInUse : String := "MODULE_IN_USE"

/-! ### Records -/

inductive PackageState where
  | available
  | installed
  | updateAvailable
  | disabled
  | broken
  | quarantined
  | removing
  deriving Repr, DecidableEq

def PackageState.value : PackageState → String
  | .available => "available"
  | .installed => "installed"
  | .updateAvailable => "update_available"
  | .disabled => "disabled"
  | .broken => "broken"
  | .quarantined => "quarantined"
  | .removing => "removing"

inductive SignatureStatus where
  | valid
  | unsigned
  | invalid
  | missing
  deriving Repr, DecidableEq

/-- The parts of a path. -/
abbrev Path := List String

structure InstalledPackageRecord where
  moduleId : String
  installedVersion : String
  packageState : PackageState
  packagePath : Path
  publisher : String
  source : String
  checksumSha256 : String
  signatureStatus : SignatureStatus
  rollbackVersion : Option String
  previousPackagePath : Option Path
  moduleApiVersion : ℤ
  restartRequired : Bool
  stagingPath : Option Path := none
  metadata : Dict := []
  deriving Repr

structure PackageMutationResult where
  moduleId : String
  success : Bool
  message : String
  packageState : String
  installedVersion : Option String := none
  restartRequired : Bool := false
  rollbackVersion : Option String := none
  deriving Repr, DecidableEq

structure ModuleDependencySpec where
  moduleId : String
  versionRange : String := "*"
  deriving Repr, DecidableEq

structure ModuleManifest where
  moduleId : String
  name : String
  version : String
  publisher : String
  entrypoint : String
  moduleApiVersion : ℤ
  minimumEmicVersion : String
  providedCapabilities : List String
  requiredCapabilities : List String
  optionalCapabilities : List String
  moduleDependencies : List ModuleDependencySpec
  permissions : List String
  maximumEmicVersion : Option String := none
  deriving Repr, DecidableEq

structure ValidationResult where
  valid : Bool
  manifest : Option ModuleManifest := none
  errors : List String := []
  signed : Bool := false
  signatureValid : Bool := false
  publisherTrusted : Bool := false
  installAllowed : Bool := false
  deriving Repr, DecidableEq

def optionalStr : Option String → Json
  | none => .null
  | some s => .str s

def boolean (b : Bool) : Json := .num (.bool b)

def strings (texts : List String) : Json := .arr (texts.map .str)

def buildInstallMetadata (manifest : ModuleManifest) (validation : ValidationResult) : Dict :=
  [("entrypoint", .str manifest.entrypoint),
    ("name", .str manifest.name),
    ("signed", boolean validation.signed),
    ("signature_valid", boolean validation.signatureValid),
    ("publisher_trusted", boolean validation.publisherTrusted),
    ("publisher_status", .str (if validation.publisherTrusted then "trusted"
      else if validation.signed = false then "unsigned_dev" else "unknown")),
    ("permissions", strings manifest.permissions),
    ("provided_capabilities", strings manifest.providedCapabilities),
    ("required_capabilities", strings manifest.requiredCapabilities),
    ("optional_capabilities", strings manifest.optionalCapabilities),
    ("module_dependencies", .arr (manifest.moduleDependencies.map fun dep =>
      .obj [("module_id", .str dep.moduleId), ("version_range", .str dep.versionRange)])),
    ("minimum_emic_version", .str manifest.minimumEmicVersion),
    ("maximum_emic_version", optionalStr manifest.maximumEmicVersion),
    ("module_api_version", .num (.int manifest.moduleApiVersion))]

/-- `dict.update`. -/
def updateItems (d updates : Dict) : Dict :=
  updates.foldl (fun d item => Fields.assign d item.1 item.2) d

/-! ### Package contents -/

/-- A tree of package files: what `json.loads` makes of `manifest.json`, and the bytes of the other files under
their names. -/
structure PackageTree where
  manifest : Option Dict
  files : List (String × List ℕ)
  deriving Repr

def utf8 (text : String) : List ℕ := (text.toList.flatMap String.utf8EncodeChar).map UInt8.toNat

def startsWith (text start : String) : Bool := start.toList.isPrefixOf text.toList

def endsWith (text ending : String) : Bool := ending.toList.isSuffixOf text.toList

/-- `part in text`. -/
def contains (text part : String) : Bool := decide (part.toList <:+: text.toList)

@[irreducible] def sha256Bytes (bytes : List ℕ) : String :=
  let ws := Sha256.words (Sha256.pad bytes)
  Sha256.hexdigest ((Sha256.blocks ws.length ws).foldl Sha256.compress Sha256.initialState)

/-- `_include_in_content_hash`. -/
def includeInContentHash (relativePath : String) : Bool :=
  if startsWith relativePath "integrity/signature.json" then false
  else if endsWith relativePath ".pyc" then false
  else if contains relativePath "/__pycache__/" || startsWith relativePath "__pycache__/" then false
  else true

def canonicalManifestBytes (raw : Dict) : List ℕ :=
  utf8 (dumps (.obj (raw.filter fun m => decide (m.1 ≠ "integrity"))))

def manifestSha256 (raw : Dict) : String := sha256Bytes (canonicalManifestBytes raw)

/-- `compute_package_content_sha256`. -/
def computePackageContentSha256 (tree : PackageTree) : String :=
  let manifestFile := match tree.manifest with
    | none => []
    | some raw => [("manifest.json", canonicalManifestBytes raw)]
  let members := (manifestFile ++ tree.files).insertionSort fun m m' => m.1 ≤ m'.1
  sha256Bytes ((members.filter fun m => includeInContentHash m.1).flatMap fun m =>
    utf8 m.1 ++ 0 :: m.2)

end EnergyCore.Packages
