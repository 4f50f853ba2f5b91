import EnergyCore.Packages.PackageStore

/-!
# The integrity check of the loader

What the loader verifies of an installed package at startup, before it registers the module.

* `verifyInstalledPackage_congr` — the check depends on the tree and the checksum;
* `verifyInstalledPackage_checksum` — what is accepted has the checksum of its record.
-/

namespace EnergyCore.Packages

open JsonValues

/-- The text operations, the signature check with the trusted keys, and the setting that the loader relies on. -/
structure LoaderChecks where
  lower : String → String
  str : Json → String
  verifySignature : PackageTree → Dict → Bool
  allowUnsigned : Bool

/-- `_include_in_verify_archive`. -/
def includeInVerifyArchive (relativePath : String) : Bool :=
  if startsWith relativePath "__pycache__/" || startsWith relativePath "integrity/signature.json" then false
  else if endsWith relativePath ".pyc" then false
  else if relativePath = ".verify-loader.zip" then false
  else true

/-- The archive that the loader packs. -/
def verifyArchive (tree : PackageTree) : PackageTree :=
  { tree with files := tree.files.filter fun file => includeInVerifyArchive file.1 }

def hasSignature (tree : PackageTree) : Bool :=
  tree.files.any fun file => decide (file.1 = "integrity/signature.json")

/-- Whether the manifest has the hash that it states, if it states one; `none` stands for an exception. -/
def manifestHashAgrees (checks : LoaderChecks) (manifestRaw : Dict) : Option Bool :=
  match getItemOr manifestRaw "integrity" (.obj []) with
  | .obj integrity =>
    let stated := getItem integrity "manifest_sha256"
    if stated.truthy then
      some (decide (checks.lower (manifestSha256 manifestRaw) = checks.lower (checks.str stated)))
    else some true
  | _ => none

/-- `_verify_installed_package`. -/
def verifyInstalledPackage (checks : LoaderChecks) (record : InstalledPackageRecord) (files : Directories) :
    Option Dict := do
  let tree ← files record.packagePath
  let manifestRaw ← tree.manifest
  if checks.lower (computePackageContentSha256 (verifyArchive tree)) ≠
      checks.lower record.checksumSha256 then none
  else if manifestHashAgrees checks manifestRaw ≠ some true then none
  else if hasSignature tree then
    if checks.verifySignature tree manifestRaw then some manifestRaw else none
  else if checks.allowUnsigned then some manifestRaw
  else none

theorem verifyInstalledPackage_congr (checks : LoaderChecks) (record record' : InstalledPackageRecord)
    {files files' : Directories} (hchecksum : record'.checksumSha256 = record.checksumSha256)
    (hfiles : files' record'.packagePath = files record.packagePath) :
    verifyInstalledPackage checks record' files' = verifyInstalledPackage checks record files := by
  unfold verifyInstalledPackage
  rw [hchecksum, hfiles]

theorem verifyInstalledPackage_checksum {checks : LoaderChecks} {record : InstalledPackageRecord}
    {files : Directories} (h : verifyInstalledPackage checks record files ≠ none) :
    ∃ tree, files record.packagePath = some tree ∧
      checks.lower (computePackageContentSha256 (verifyArchive tree)) = checks.lower record.checksumSha256 := by
  unfold verifyInstalledPackage at h
  cases htree : files record.packagePath with
  | none => simp [htree] at h
  | some tree =>
    refine ⟨tree, rfl, ?_⟩
    cases hmanifest : tree.manifest with
    | none => simp [htree, hmanifest] at h
    | some manifestRaw =>
      by_contra hne
      simp [htree, hmanifest, hne] at h

end EnergyCore.Packages
