import EnergyCore.PackageArchives.PackageValidator

/-!
# Packages of two files

The smallest packages: a manifest that states its hash, and a signature of it, for any version, publisher and key.

* `accepted_packageArchive` — such a package passes every check, whoever of the trusted publishers has signed it.
-/

namespace EnergyCore.PackageArchives

open JsonValues KeywordFields PosixPaths
open Packages (Path Raised SignatureStatus ModuleManifest startsWith contains utf8
  canonicalManifestBytes boolean)

/-! ### The two documents -/

def demoFields (version publisher : String) : Dict :=
  [("configuration_schema", .obj []), ("description", .str "Demo"), ("entrypoint", .str "demo:main"),
    ("minimum_emic_version", .str "1"), ("module_api_version", .num (.int 1)), ("module_dependencies", .arr []),
    ("module_id", .str "demo.meter"), ("module_type", .str "feature"), ("name", .str "Demo"),
    ("optional_capabilities", .arr []), ("permissions", .arr []), ("provided_capabilities", .arr []),
    ("publisher", .str publisher), ("required_capabilities", .arr []),
    ("requires_restart_on_update", boolean true), ("supports_per_site_activation", boolean true),
    ("version", .str version)]

def demoManifest (version publisher contentSha256 : String) : Dict :=
  demoFields version publisher ++ [("integrity", .obj [("archive_sha256", .str contentSha256)])]

def demoParsed (version publisher contentSha256 : String) : Manifest where
  moduleId := "demo.meter"
  name := "Demo"
  version := version
  publisher := publisher
  entrypoint := "demo:main"
  moduleApiVersion := 1
  minimumEmicVersion := "1"
  providedCapabilities := []
  requiredCapabilities := []
  optionalCapabilities := []
  moduleDependencies := []
  permissions := []
  moduleType := "feature"
  archiveSha256 := contentSha256
  manifestSha256 := none

def demoSignature (publisher contentSha256 manifestSha256 : String) : Dict :=
  [("algorithm", .str "ed25519"), ("content_sha256", .str contentSha256), ("key_id", .str "k1"),
    ("manifest_sha256", .str manifestSha256), ("publisher", .str publisher), ("signature", .str "AAAA")]

def manifestText (raw : Dict) : Bytes := utf8 (dumps (.obj raw))

/-- The signature file starts with a blank. -/
def signatureText (raw : Dict) : Bytes := 32 :: utf8 (dumps (.obj raw))

theorem signatureText_ne_manifestText (signature manifest : Dict) :
    signatureText signature ≠ manifestText manifest := by
  obtain ⟨rest, hrest⟩ := utf8_dumps_obj manifest
  unfold signatureText manifestText
  rw [hrest]
  intro h
  exact absurd (List.cons.inj h).1 (by decide)

/-- A library whose `json.loads` knows these two texts. -/
def demoLib (sha256 : Bytes → String) (manifest signature : Dict) : PyLib where
  sha256 := sha256
  loads bytes :=
    if bytes = manifestText manifest then .ok (.obj manifest)
    else if bytes = signatureText signature then .ok (.obj signature)
    else .error .decodeError
  lower text := text
  str
    | .str text => text
    | value => dumps value
  int
    | .num n => some n.value
    | _ => none
  dict
    | .obj members => some members
    | _ => none
  b64decode text := if text = "AAAA" then some [0, 0, 0] else none
  fromhex _ := none
  lower_sha256 _ := rfl
  lower_lower _ := rfl

section

variable (sha256 : Bytes → String) (manifest signature : Dict)

theorem loads_manifestText :
    (demoLib sha256 manifest signature).loads (manifestText manifest) = .ok (.obj manifest) := if_pos rfl

theorem loads_signatureText :
    (demoLib sha256 manifest signature).loads (signatureText signature) = .ok (.obj signature) :=
  (if_neg (signatureText_ne_manifestText signature manifest)).trans (if_pos rfl)

theorem parse_demoManifest (version publisher hash : String) :
    parseManifestDict (demoLib sha256 manifest signature) (.obj (demoManifest version publisher hash))
      = .ok (demoManifest version publisher hash, demoParsed version publisher hash) := rfl

end

/-! ### The archive -/

def demoMember (name : String) (h : nul ∉ name.toList) (data : Bytes) (size : ℕ) : ZipMember where
  filename := name
  contents := .ok data
  fileSize := size
  compressSize := size
  noNul := h

def demoArchive (manifest signature : Dict) : Archive :=
  [demoMember "manifest.json" (by decide +kernel) (manifestText manifest) 512,
    demoMember "integrity/signature.json" (by decide +kernel) (signatureText signature) 310]

def demoTree (manifest signature : Dict) : Tree :=
  [(["manifest.json"], manifestText manifest), (signaturePath, signatureText signature)]

section

variable (manifest signature : Dict)

theorem namelist_demoArchive :
    namelist (demoArchive manifest signature) = ["manifest.json", "integrity/signature.json"] := rfl

theorem fileNames_demoArchive :
    fileNames (demoArchive manifest signature) = ["manifest.json", "integrity/signature.json"] := by
  unfold fileNames
  rw [namelist_demoArchive]
  decide +kernel

theorem coveredNames_demoArchive : coveredNames (demoArchive manifest signature) = ["manifest.json"] := by
  unfold coveredNames
  rw [namelist_demoArchive]
  decide +kernel

theorem read_demoArchive : read (demoArchive manifest signature) "manifest.json" = .ok (manifestText manifest) ∧
      read (demoArchive manifest signature) "integrity/signature.json" = .ok (signatureText signature) :=
  ⟨rfl, rfl⟩

theorem limits_demoArchive : inspectArchiveLimits (demoArchive manifest signature) = .ok () := by
  have hmanifest : isDir "manifest.json" = false ∧ contains "manifest.json" ".." = false ∧
      startsWith "manifest.json" "/" = false ∧ startsWith "manifest.json" "\\" = false := by decide +kernel
  have hsignature : isDir "integrity/signature.json" = false ∧ contains "integrity/signature.json" ".." = false ∧
      startsWith "integrity/signature.json" "/" = false ∧
        startsWith "integrity/signature.json" "\\" = false := by decide +kernel
  simp [inspectArchiveLimits, demoArchive, inspectMembers, demoMember, hmanifest, hsignature, maxEntries,
    maxCompressionRatio, maxUncompressedBytes]

theorem extracted_demoArchive :
    extractedOver [] (demoArchive manifest signature) = .ok (demoTree manifest signature) := by
  have hmanifest : parts "manifest.json" = ["manifest.json"] := by decide +kernel
  have hsignature : parts "integrity/signature.json" = signaturePath := by decide +kernel
  obtain ⟨hread, hread'⟩ := read_demoArchive manifest signature
  unfold extractedOver
  rw [fileNames_demoArchive]
  simp only [putMembers, putMember, readOrRaise, hread, hread', hmanifest, hsignature]
  rfl

end

/-! ### The package -/

def demoVersions : Packages.Versions where
  Version := ℕ
  parse text := if text = "1" then some 1 else if text = "2" then some 2 else none
  lt a b := decide (a < b)
  major a := a

def demoValidator (lib : PyLib) (keys : List PublisherKeyRecord) (verify : Ed25519Verify) : PackageValidator where
  settings := {
    modulesPath := ["modules"]
    allowUnsignedModules := false
    versions := demoVersions
    packageMaxBytes := 1000000
    emicVersion := "1"
    moduleApiVersion := 1 }
  trustStore := some { memory := keys }
  lib := lib
  verify := verify
  checkPermissions _ := .ok ()
  isModuleType value := decide (value ∈ ["core", "feature", "integration", "provider"])
  checkDependencies _ _ := .ok ()
  governance := none

/-- A disk on which nothing fails, and every directory is found. -/
def demoDisk : Disk where
  answers _ := { found := true }
  present _ := []

theorem quiet_demoDisk : Quiet demoDisk := fun _ => rfl

theorem filesThere_demoDisk (target : Path) : filesThere demoDisk target = [] := ite_self []

def demoKey (publisher : String) (publicKey : Bytes) : PublisherKeyRecord :=
  { publisherId := publisher, keyId := "k1", publicKey := publicKey, status := .trusted }

variable (sha256 : Bytes → String) (version publisher signatory : String)

def demoContentHash : String :=
  sha256 (contentStream [("manifest.json", canonicalManifestBytes (demoFields version publisher))])

def demoManifestHash : String := sha256 (canonicalManifestBytes (demoFields version publisher))

def demoRaw : Dict := demoManifest version publisher (demoContentHash sha256 version publisher)

def demoSigned : Dict :=
  demoSignature signatory (demoContentHash sha256 version publisher) (demoManifestHash sha256 version publisher)

/-- The two publishers are trusted, and the key of the signatory has signed the hashes. -/
def packageValidator : PackageValidator :=
  demoValidator (demoLib sha256 (demoRaw sha256 version publisher) (demoSigned sha256 version publisher signatory))
    [demoKey "acme" [1], demoKey "mallory" [2]]
    fun key signature message => decide (demoKey signatory key ∈ [demoKey "acme" [1], demoKey "mallory" [2]] ∧
      signature = [0, 0, 0] ∧
      message = signingDigest (demoContentHash sha256 version publisher) (demoManifestHash sha256 version publisher))

def packageArchive : Archive :=
  demoArchive (demoRaw sha256 version publisher) (demoSigned sha256 version publisher signatory)

def packageFile : ArchiveFile := { size := 1200, members := some (packageArchive sha256 version publisher signatory) }

def packageTree : Tree :=
  demoTree (demoRaw sha256 version publisher) (demoSigned sha256 version publisher signatory)

def packageManifest : Manifest := demoParsed version publisher (demoContentHash sha256 version publisher)

theorem canonical_demoRaw : canonicalManifestBytes (demoRaw sha256 version publisher)
      = canonicalManifestBytes (demoFields version publisher) := by
  unfold canonicalManifestBytes demoRaw demoManifest
  rw [List.filter_append]
  rfl

theorem hashable_packageArchive : Hashable (packageValidator sha256 version publisher signatory).lib
        (packageArchive sha256 version publisher signatory) "manifest.json" ∧
      formOf (packageValidator sha256 version publisher signatory).lib
        (packageArchive sha256 version publisher signatory) "manifest.json"
          = canonicalManifestBytes (demoFields version publisher) := by
  have hcontents : contentsOf (packageArchive sha256 version publisher signatory) "manifest.json"
      = manifestText (demoRaw sha256 version publisher) := rfl
  have hform : hashedForm (packageValidator sha256 version publisher signatory).lib "manifest.json"
      (manifestText (demoRaw sha256 version publisher))
        = .ok (canonicalManifestBytes (demoFields version publisher)) := by
    unfold hashedForm canonicalForm
    rw [if_pos (show "manifest.json" = manifestJson from rfl), show (packageValidator sha256 version publisher signatory).lib.loads _ = _ from
      loads_manifestText sha256 _ _]
    exact congrArg Except.ok (canonical_demoRaw sha256 version publisher)
  have hformOf : formOf (packageValidator sha256 version publisher signatory).lib
      (packageArchive sha256 version publisher signatory) "manifest.json"
        = canonicalManifestBytes (demoFields version publisher) := by
    unfold formOf
    rw [hcontents, hform]
  refine ⟨⟨rfl, ?_⟩, hformOf⟩
  rw [hformOf, hcontents, hform]

/-- The content hash is the one that the manifest states. -/
theorem contentHash_packageArchive : contentHash (packageValidator sha256 version publisher signatory).lib
      (packageArchive sha256 version publisher signatory) = .ok (demoContentHash sha256 version publisher) := by
  obtain ⟨hhashable, hform⟩ := hashable_packageArchive sha256 version publisher signatory
  have hcovered : coveredNames (packageArchive sha256 version publisher signatory) = ["manifest.json"] :=
    coveredNames_demoArchive _ _
  have hall : ∀ name ∈ coveredNames (packageArchive sha256 version publisher signatory),
      Hashable (packageValidator sha256 version publisher signatory).lib
        (packageArchive sha256 version publisher signatory) name := by
    intro name hname
    rw [hcovered, List.mem_singleton] at hname
    rw [hname]
    exact hhashable
  have hblocks := contentBlocks_of_hashable _ hall
  rw [hcovered, List.map_singleton, hform] at hblocks
  unfold contentHash
  rw [hblocks]
  rfl

theorem manifestHash_packageArchive :
    manifestHash (packageValidator sha256 version publisher signatory).lib (demoRaw sha256 version publisher)
      = demoManifestHash sha256 version publisher := by
  unfold manifestHash
  rw [canonical_demoRaw]
  rfl

theorem staticErrors_packageArchive (installed : InstalledVersions) :
    staticErrors (packageValidator sha256 version publisher signatory)
      (packageArchive sha256 version publisher signatory) (demoRaw sha256 version publisher)
      (packageManifest sha256 version publisher) installed = .ok [] := by
  have hhashes : verifyContentHashes (packageValidator sha256 version publisher signatory).lib
      (packageArchive sha256 version publisher signatory) (demoRaw sha256 version publisher)
      (demoContentHash sha256 version publisher) none = .ok () := by
    unfold verifyContentHashes
    rw [contentHash_packageArchive]
    exact if_neg (not_not.mpr rfl)
  unfold staticErrors
  rw [show verifyContentHashes _ _ _ (packageManifest sha256 version publisher).archiveSha256
    (packageManifest sha256 version publisher).manifestSha256 = _ from hhashes]
  rfl

theorem signatory_packageArchive : signatoryOf (packageValidator sha256 version publisher signatory).lib
      (signatureText (demoSigned sha256 version publisher signatory)) = some (signatory, "k1") := by
  unfold signatoryOf
  rw [show (packageValidator sha256 version publisher signatory).lib.loads _ = _ from loads_signatureText sha256 _ _]
  rfl

/-- The signatory is one of the trusted publishers. -/
def Trusted (signatory : String) : Prop := signatory = "acme" ∨ signatory = "mallory"

theorem signature_packageArchive (h : Trusted signatory) :
    verifySignature (packageValidator sha256 version publisher signatory).lib
      (packageValidator sha256 version publisher signatory).verify false
      (packageValidator sha256 version publisher signatory).trustStore
      (packageTree sha256 version publisher signatory) (demoRaw sha256 version publisher)
      (packageArchive sha256 version publisher signatory) = .ok .valid := by
  have hdata : Fields.get (packageTree sha256 version publisher signatory) signaturePath
      = some (signatureText (demoSigned sha256 version publisher signatory)) := rfl
  have hloads : (packageValidator sha256 version publisher signatory).lib.loads
      (signatureText (demoSigned sha256 version publisher signatory))
        = .ok (.obj (demoSigned sha256 version publisher signatory)) := loads_signatureText sha256 _ _
  have hpayload : loadSignature (packageValidator sha256 version publisher signatory).lib
      (signatureText (demoSigned sha256 version publisher signatory)) = .ok {
        algorithm := "ed25519"
        publisher := signatory
        keyId := "k1"
        contentSha256 := demoContentHash sha256 version publisher
        manifestSha256 := demoManifestHash sha256 version publisher
        signature := "AAAA" } := by
    unfold loadSignature
    rw [hloads]
    rfl
  have hexists : existsIn (packageTree sha256 version publisher signatory) signaturePath = true := rfl
  unfold verifySignature
  rw [hexists, if_neg (Bool.noConfusion ·), hdata]
  simp only [signatory_packageArchive]
  rcases h with rfl | rfl
  all_goals
    unfold verifySignatureFile
    rw [hpayload, contentHash_packageArchive, manifestHash_packageArchive]
    simp [packageValidator, demoValidator, assertTrusted, getPublicKey, demoKey, demoLib, bind, Except.bind]

theorem inspected_packageArchive : Inspected (packageValidator sha256 version publisher signatory)
      (packageArchive sha256 version publisher signatory) (demoRaw sha256 version publisher)
      (packageManifest sha256 version publisher) where
  limits := limits_demoArchive _ _
  listed := by
    unfold packageArchive
    rw [namelist_demoArchive]
    exact List.mem_cons_self
  readable := ⟨_, (read_demoArchive _ _).1, loads_manifestText sha256 _ _⟩
  parsed := (parseManifestDict_ok _ (parse_demoManifest sha256 _ _ version publisher _)).2
  unprotected := by
    show isProtectedModuleId "demo.meter" = false
    decide +kernel

/-- **A signed package is accepted**, also one that another publisher than that of the manifest has signed. -/
theorem accepted_packageArchive (h : Trusted signatory) :
    Accepted (packageValidator sha256 version publisher signatory) demoDisk
      (packageArchive sha256 version publisher signatory) (demoRaw sha256 version publisher)
      (packageManifest sha256 version publisher) .valid (packageTree sha256 version publisher signatory) where
  toInspected := inspected_packageArchive sha256 version publisher signatory
  hashes := by
    have h := staticErrors_packageArchive sha256 version publisher signatory []
    exact staticErrors_nil _ h
  staged := by
    rw [filesThere_demoDisk]
    exact extracted_demoArchive _ _
  signature := signature_packageArchive sha256 version publisher signatory h

theorem conclude_packageArchive :
    (conclude (packageValidator sha256 version publisher signatory) (packageManifest sha256 version publisher) []
      .valid).publisherIdentityValid = true ∧
    (conclude (packageValidator sha256 version publisher signatory) (packageManifest sha256 version publisher) []
      .valid).manifest = some (packageManifest sha256 version publisher).toModuleManifest := ⟨rfl, rfl⟩

/-- The validation of such a package. -/
theorem validate_packageArchive (h : Trusted signatory) (w : World) :
    ∃ result w', validateArchive (packageValidator sha256 version publisher signatory) demoDisk
        (some (packageFile sha256 version publisher signatory)) [] false w = .ok result w' ∧
      result.publisherIdentityValid = true ∧
      result.manifest = some (packageManifest sha256 version publisher).toModuleManifest := by
  have hsize : (packageFile sha256 version publisher signatory).size
      ≤ (packageValidator sha256 version publisher signatory).settings.packageMaxBytes :=
    show 1200 ≤ 1000000 by decide
  have hmembers : (packageFile sha256 version publisher signatory).members
      = some (packageArchive sha256 version publisher signatory) := rfl
  obtain ⟨result, w', hrun, hresult⟩ := (returns_validateArchive _ false quiet_demoDisk hsize hmembers
      (accepted_packageArchive sha256 version publisher signatory h)
      (parse_demoManifest sha256 _ _ version publisher _) List.not_mem_nil
      (staticErrors_packageArchive sha256 version publisher signatory [])).run w
  rw [hresult] at hrun
  exact ⟨_, w', hrun, conclude_packageArchive sha256 version publisher signatory⟩

end EnergyCore.PackageArchives
