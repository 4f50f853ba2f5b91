import EnergyCore.Distribution.Downloader
import EnergyCore.PackageArchives.PackageValidator
import EnergyCore.SupplyChain.ReleaseSecurity

/-!
# Staging artifacts

`fetch_release` downloads a release of the catalog, evaluates it, and stages or quarantines it. It works on a session
of the database, which it commits several times; a session in which a call has failed fails all later calls.

* `fetchBody` — the calls of `fetch_release` in the order of the source, with what each of them is answered;
* `fetchRelease` — the same with the row that it is about, and with what is recorded when one of them raises.
-/

namespace EnergyCore.Distribution

open FallibleSteps Governance Marketplace PackageArchives
open SupplyChain
open Packages (ModuleManifest)

/-! ### Rows -/

inductive ArtifactState where
  | discovered
  | downloadPending
  | downloading
  | downloaded
  | verifying
  | verified
  | policyReview
  | staged
  | quarantined
  | rejected
  deriving Repr, DecidableEq

structure ArtifactProvenance where
  publisherId : String
  moduleId : String
  version : String
  releaseId : String
  artifactDigest : String
  source : String
  catalogMetadataVersion : Option ℤ
  sbomDigest : Option String
  deriving Repr, DecidableEq

structure ArtifactRow where
  moduleId : String
  publisherId : String
  version : String
  releaseId : String
  contentSha256 : String
  sourceType : String
  artifactSize : Option ℤ
  catalogVersion : Option ℤ
  state : ArtifactState := .discovered
  cachePath : Option String := none
  quarantinePath : Option String := none
  reasonCodes : List String := []
  provenance : Option ArtifactProvenance := none
  deriving Repr, DecidableEq

structure ArtifactSecurity where
  integrityVerified : Bool
  sbomStatus : SbomStatus
  advisoryStatus : AdvisoryStatus
  highestSeverity : SecuritySeverity
  vulnerabilityCount : ℕ
  criticalCount : ℕ
  highCount : ℕ
  securityReviewRequired : Bool
  policyDecision : PolicyDecision
  reasonCodes : List String
  deriving Repr, DecidableEq

structure ParsedSbom where
  format : String
  specVersion : String
  components : List SbomComponent
  rawDigest : String
  deriving Repr, DecidableEq

/-- The tables of artifacts, their evaluations, their SBOMs and their vulnerabilities, by the digest of the artifact. -/
structure Database where
  artifacts : String → Option ArtifactRow := fun _ => none
  security : String → Option ArtifactSecurity := fun _ => none
  sboms : String → Option ParsedSbom := fun _ => none
  vulnerabilities : String → List VulnerabilityMatch := fun _ => []

/-- What is committed, the session, whether one of its calls has failed, and the files. -/
structure Staging where
  stored : Database := {}
  session : Database := {}
  broken : Bool := false
  cache : Cache := fun _ => none
  quarantine : String → Option Bytes := fun _ => none

abbrev StagingOp := EStateM Failure Staging

/-! ### Answers -/

/-- The calls of the database. -/
inductive DbCall where
  | getOrCreate
  | setState (state : ArtifactState)
  | commit (state : ArtifactState)
  | saveSbom
  | policy
  | upsertSecurity
  | replaceVulnerabilities
  deriving Repr, DecidableEq

structure OwnershipResult where
  decision : PolicyDecision
  reasonCodes : List String
  deriving Repr, DecidableEq

/-- The format, the version and the components that are found in the bytes of an SBOM. -/
structure SbomDocument where
  format : String
  specVersion : String
  components : List SbomComponent
  deriving Repr, DecidableEq

/-- What a call of the service is given: the release that the trusted catalog names, the network, the validator, the
decision on the ownership, the SBOM parser, the advisories that are cached, the policy, and what fails. -/
structure FetchAnswers where
  resolve : String → String → Except Failure ArtifactDescriptor
  settings : DownloadSettings
  network : Network
  promotes : String → Option String := fun _ => none
  validator : PackageValidator
  disk : Disk
  ownership : PolicyRequest → Except Failure OwnershipResult
  sbomDocument : Bytes → Option SbomDocument
  advisories : Option (Option (List AdvisoryEntry))
  packaging : Packaging
  policy : Except Failure SupplyChainPolicy
  failing : DbCall → Option String := fun _ => none
  quarantineDir : Option String := none
  copying : Option String := none

variable (lib : ArtifactLib) (answers : FetchAnswers)

def liftExcept {α : Type} : Except Failure α → StagingOp α
  | .ok a => pure a
  | .error failure => throw failure

/-! ### The database -/

def pendingRollback : Failure := .exception "This Session's transaction has been rolled back"

/-- A call of the session that changes it, unless it fails. -/
def dbCall (call : DbCall) (change : Database → Database) : StagingOp Unit := do
  if (← get).broken then throw pendingRollback
  else match answers.failing call with
    | some text => do
      modify fun s => { s with broken := true }
      throw (.exception text)
    | none => modify fun s => { s with session := change s.session }

def commit (state : ArtifactState) : StagingOp Unit := do
  dbCall answers (.commit state) id
  modify fun s => { s with stored := s.session }

def Database.setArtifact (db : Database) (digest : String) (row : ArtifactRow) : Database :=
  { db with artifacts := Function.update db.artifacts digest (some row) }

def rowOf (d : ArtifactDescriptor) : ArtifactRow where
  moduleId := d.moduleId
  publisherId := d.publisherId
  version := d.version
  releaseId := d.releaseId
  contentSha256 := d.contentSha256
  sourceType := d.source.value
  artifactSize := d.artifactSize
  catalogVersion := d.catalogVersion

def Database.addArtifact (db : Database) (d : ArtifactDescriptor) : Database :=
  match db.artifacts d.contentSha256 with
  | some _ => db
  | none => db.setArtifact d.contentSha256 (rowOf d)

/-- `ArtifactRepository.get_or_create`: from then on there is a row with the digest of the descriptor. -/
def getOrCreate (d : ArtifactDescriptor) : StagingOp Unit := dbCall answers .getOrCreate fun db => db.addArtifact d

/-- The optional arguments of `set_state`. -/
structure StateChange where
  cachePath : Option String := none
  quarantinePath : Option String := none
  reasonCodes : List String := []
  provenance : Option ArtifactProvenance := none

def ArtifactRow.withState (row : ArtifactRow) (state : ArtifactState) (change : StateChange) : ArtifactRow :=
  { row with
    state := state
    cachePath := change.cachePath.or row.cachePath
    quarantinePath := change.quarantinePath.or row.quarantinePath
    reasonCodes := if change.reasonCodes ≠ [] then change.reasonCodes else row.reasonCodes
    provenance := change.provenance.or row.provenance }

def Database.changeState (db : Database) (digest : String) (state : ArtifactState) (change : StateChange) : Database :=
  match db.artifacts digest with
  | some row => db.setArtifact digest (row.withState state change)
  | none => db

/-- `ArtifactRepository.set_state` of the row with a digest. -/
def setState (digest : String) (state : ArtifactState) (change : StateChange) : StagingOp Unit :=
  dbCall answers (.setState state) fun db => db.changeState digest state change

/-! ### Files -/

def downloadArtifact (d : ArtifactDescriptor) : StagingOp DownloadResult := do
  let (result, cache) :=
    download lib answers.settings answers.network (answers.promotes d.contentSha256) (← get).cache d
  modify fun s => { s with cache := cache }
  liftExcept result

def missingFile : Failure := .exception "No such file or directory"

def readFile (name : String) : StagingOp Bytes := do
  match (← get).cache name with
  | some content => return content
  | none => throw missingFile

/-! ### Validation -/

def Failure.ofRaised : Packages.Raised → Failure
  | .packageError message _ => .exception message
  | .crash _ => .exception ""

def validate (content : Bytes) : Except Failure Validation :=
  match validateArchive { answers.validator with lib := lib.toPyLib } answers.disk
      (some ⟨content.length, lib.openZip content⟩) [] true {} with
  | .ok validation _ => .ok validation
  | .error raised _ => .error (.ofRaised raised)

def identityMismatch : String := DistributionErrorCode.packageIdentityMismatch.value
def packageSignatureInvalid : String := DistributionErrorCode.packageSignatureInvalid.value

/-- What is found of the identity that the manifest states. -/
def identityCodes (d : ArtifactDescriptor) : Option ModuleManifest → List String
  | none => [packageSignatureInvalid]
  | some manifest =>
    (if d.moduleId ≠ manifest.moduleId then [identityMismatch] else []) ++
      (if d.version ≠ manifest.version then [identityMismatch] else []) ++
      (if d.publisherId ≠ manifest.publisher then [identityMismatch] else [])

def ownershipRequest (d : ArtifactDescriptor) (manifest : Option ModuleManifest) : PolicyRequest where
  moduleId := d.moduleId
  publisherId := d.publisherId
  permissions := (manifest.map ModuleManifest.permissions).getD []
  providedCapabilities := (manifest.map ModuleManifest.providedCapabilities).getD []

/-- The reasons that are found before the SBOM is read. -/
def packageCodes (d : ArtifactDescriptor) (validation : Validation) (ownership : OwnershipResult) : List String :=
  identityCodes d validation.manifest ++ validation.errors ++ ownership.reasonCodes ++
    (if ownership.decision = .deny then [DistributionErrorCode.policyDenied.value] else []) ++
    (if validation.signatureValid = false ∧
        ¬ (answers.validator.settings.allowUnsignedModules = true ∧ validation.valid = true) then
      [packageSignatureInvalid] else [])

/-! ### The SBOM -/

/-- `_read_embedded_sbom`. -/
def readEmbeddedSbom (content : Bytes) : Except Failure (Option Bytes) :=
  match lib.openZip content with
  | none => .error (.exception "File is not a zip file")
  | some archive =>
    match ["sbom.json", "cyclonedx.json", "bom.json"].find? fun name => decide (name ∈ namelist archive) with
    | none => .ok none
    | some name =>
      match read archive name with
      | .ok data => .ok (some data)
      | .error _ => .error (.exception "Bad zip member")

def sbomDescriptor (d : ArtifactDescriptor) (url sha256 : String) : ArtifactDescriptor where
  moduleId := d.moduleId
  publisherId := d.publisherId
  version := d.version
  releaseId := d.releaseId ++ ":sbom"
  artifactUrl := url
  contentSha256 := sha256
  artifactSize := none
  source := d.source
  sbomReference := some { embedded := true }

/-- The SBOM that is referred to by its URL. -/
def externalSbom (d : ArtifactDescriptor) (url sha256 : String) : StagingOp Bytes := do
  match (← get).cache ("sbom-" ++ sha256) with
  | some raw => return raw
  | none => do
    let result ← downloadArtifact lib answers (sbomDescriptor d url sha256)
    readFile result.path

/-- A text that is there and not empty. -/
def nonEmpty (text : Option String) : Option String := text.filter fun text => decide (text ≠ "")

def readSbom (d : ArtifactDescriptor) (content : Bytes) : StagingOp (Option Bytes) :=
  match d.sbomReference with
  | none => pure none
  | some reference =>
    if reference.embedded then liftExcept (readEmbeddedSbom lib content)
    else
      match nonEmpty reference.url, nonEmpty reference.sha256 with
      | some url, some sha256 => do
        let raw ← externalSbom lib answers d url sha256
        return some raw
      | _, _ => pure none

def maxSbomBytes : ℕ := 5242880

/-- `parse_sbom`. -/
def parseSbom (raw : Bytes) (expectedDigest : Option String) : Option ParsedSbom :=
  let digest := lib.sha256 raw
  if raw.length > maxSbomBytes then none
  else if (nonEmpty expectedDigest).any fun expected => decide (digest ≠ lib.lower expected) then none
  else (answers.sbomDocument raw).map fun document =>
    { format := document.format, specVersion := document.specVersion, components := document.components,
      rawDigest := digest }

/-- What the SBOM contributes: its status, what was parsed of it, and the reasons. -/
structure SbomFinding where
  status : SbomStatus
  parsed : Option ParsedSbom
  reasonCodes : List String
  deriving Repr, DecidableEq

def sbomMissing : SbomFinding := { status := .missing, parsed := none, reasonCodes := [] }

def evaluateSbom (d : ArtifactDescriptor) (raw : Option Bytes) : StagingOp SbomFinding :=
  match raw with
  | none | some [] => pure sbomMissing
  | some raw =>
    match parseSbom lib answers raw (d.sbomReference.bind SbomReference.sha256) with
    | none => pure { status := .invalid, parsed := none, reasonCodes := ["SBOM_INVALID"] }
    | some parsed =>
      tryCatch
        (do
          dbCall answers .saveSbom fun db =>
            { db with sboms := Function.update db.sboms d.contentSha256 (some parsed) }
          return { status := .valid, parsed := some parsed, reasonCodes := [] })
        fun _ => return { status := .invalid, parsed := some parsed, reasonCodes := ["SBOM_INVALID"] }

/-! ### The evaluation -/

/-- The cached advisories with their status, and the reasons. -/
def readAdvisories : AdvisoryStatus × List AdvisoryEntry × List String :=
  match answers.advisories with
  | none => (.unavailable, [], [])
  | some none => (.untrusted, [], ["ADVISORY_DATA_UNTRUSTED"])
  | some (some advisories) => (.trusted, advisories, [])

def securityOf (snapshot : ReleaseSecuritySnapshot) (reasonCodes : List String) : ArtifactSecurity where
  integrityVerified := snapshot.integrityVerified
  sbomStatus := snapshot.sbomStatus
  advisoryStatus := snapshot.advisoryStatus
  highestSeverity := snapshot.highestSeverity
  vulnerabilityCount := snapshot.vulnerabilityCount
  criticalCount := snapshot.criticalCount
  highCount := snapshot.highCount
  securityReviewRequired := snapshot.securityReviewRequired
  policyDecision := snapshot.policyDecision
  reasonCodes := reasonCodes.eraseDups

/-- The reasons that block an artifact. -/
def blockingCodes : List String :=
  [identityMismatch, packageSignatureInvalid, DistributionErrorCode.artifactDigestMismatch.value]

/-- What has been found of a downloaded artifact. -/
structure Findings where
  validation : Validation
  ownership : OwnershipResult
  sbom : SbomFinding

def vulnerabilitiesOf (found : Findings) : List VulnerabilityMatch :=
  match found.sbom.parsed with
  | some parsed => matchVulnerabilities answers.packaging parsed.components (readAdvisories answers).2.1
  | none => []

def snapshotOf (found : Findings) (policy : SupplyChainPolicy) : ReleaseSecuritySnapshot :=
  evaluateRelease
    { sbomStatus := found.sbom.status
      advisoryStatus := (readAdvisories answers).1
      supplyChainPolicy := policy
      governanceDecision := found.ownership.decision
      integrityVerified := found.validation.valid } (vulnerabilitiesOf answers found)

def reasonCodesOf (d : ArtifactDescriptor) (found : Findings) (policy : SupplyChainPolicy) : List String :=
  packageCodes answers d found.validation found.ownership ++ found.sbom.reasonCodes ++ (readAdvisories answers).2.2 ++
    (snapshotOf answers found policy).reasonCodes

def blocks (d : ArtifactDescriptor) (found : Findings) (policy : SupplyChainPolicy) : Bool :=
  blocksStaging (snapshotOf answers found policy) policy || decide (found.ownership.decision = .deny) ||
    (reasonCodesOf answers d found policy).any fun code => decide (code ∈ blockingCodes)

def finalState (blocked : Bool) : ArtifactState := if blocked then .quarantined else .staged

def provenanceOf (d : ArtifactDescriptor) (found : Findings) : ArtifactProvenance where
  publisherId := d.publisherId
  moduleId := d.moduleId
  version := d.version
  releaseId := d.releaseId
  artifactDigest := d.contentSha256
  source := d.source.value
  catalogMetadataVersion := d.catalogVersion
  sbomDigest := found.sbom.parsed.map ParsedSbom.rawDigest

structure StagingResult where
  state : ArtifactState
  reasonCodes : List String
  securityStatus : SecuritySeverity
  policyDecision : PolicyDecision
  deriving Repr, DecidableEq

/-- A file operation, which may fail. -/
def fileOp (failing : Option String) : StagingOp Unit :=
  match failing with
  | some text => throw (.exception text)
  | none => pure ()

/-- The copy of a blocked artifact. -/
def copyBlocked (digest : String) (content : Bytes) : StagingOp Unit := do
  fileOp answers.copying
  modify fun s => { s with quarantine := Function.update s.quarantine digest (some content) }

/-- The part of `fetch_release` that records what was found, from the policy on. -/
def concludeArtifact (d : ArtifactDescriptor) (path : String) (content : Bytes) (found : Findings) :
    StagingOp StagingResult := do
  let digest := d.contentSha256
  dbCall answers .policy id
  let policy ← liftExcept answers.policy
  let security := snapshotOf answers found policy
  let reasonCodes := reasonCodesOf answers d found policy
  dbCall answers .upsertSecurity fun db =>
    { db with security := Function.update db.security digest (some (securityOf security reasonCodes)) }
  dbCall answers .replaceVulnerabilities fun db =>
    { db with vulnerabilities := Function.update db.vulnerabilities digest (vulnerabilitiesOf answers found) }
  let blocked := blocks answers d found policy
  fileOp answers.quarantineDir
  runIf (blocked = true) (copyBlocked answers digest content)
  setState answers digest (finalState blocked)
    { cachePath := some path
      quarantinePath := if blocked then some digest else none
      reasonCodes := reasonCodes.eraseDups
      provenance := some (provenanceOf d found) }
  commit answers (finalState blocked)
  return { state := finalState blocked, reasonCodes := reasonCodes.eraseDups,
           securityStatus := security.highestSeverity, policyDecision := security.policyDecision }

/-- The part of `fetch_release` that evaluates a downloaded artifact. -/
def evaluateArtifact (d : ArtifactDescriptor) (path : String) (content : Bytes) : StagingOp StagingResult := do
  let validation ← liftExcept (validate lib answers content)
  let ownership ← liftExcept (answers.ownership (ownershipRequest d validation.manifest))
  let raw ← readSbom lib answers d content
  let sbom ← evaluateSbom lib answers d raw
  concludeArtifact answers d path content { validation := validation, ownership := ownership, sbom := sbom }

/-! ### A release -/

/-- The body of the `try` in `fetch_release`. -/
def fetchBody (d : ArtifactDescriptor) : StagingOp StagingResult := do
  setState answers d.contentSha256 .downloadPending {}
  commit answers .downloadPending
  setState answers d.contentSha256 .downloading {}
  let result ← downloadArtifact lib answers d
  setState answers d.contentSha256 .downloaded { cachePath := some result.path }
  commit answers .downloaded
  setState answers d.contentSha256 .verifying {}
  let content ← readFile result.path
  evaluateArtifact lib answers d result.path content

/-- The handlers of `fetch_release`. -/
def fetchFailed (d : ArtifactDescriptor) (failure : Failure) : StagingOp StagingResult := do
  let (code, raised) := match failure with
    | .distribution _ code => (code.value, failure)
    | .exception text => ("STAGING_FAILED", .distribution text .artifactNotFound)
  setState answers d.contentSha256 .rejected { reasonCodes := [code] }
  commit answers .rejected
  throw raised

/-- `ArtifactStagingService.fetch_release`. -/
def fetchRelease (moduleId version : String) : StagingOp StagingResult := do
  let d ← liftExcept (answers.resolve moduleId version)
  getOrCreate answers d
  tryCatch (fetchBody lib answers d) (fetchFailed answers d)

/-! ### Runs -/

/-- A call of the service. -/
structure FetchCall where
  moduleId : String
  version : String
  answers : FetchAnswers

/-- What a call does, in a session of its own. -/
def fetchStep (lib : ArtifactLib) (s : Staging) (call : FetchCall) : Staging :=
  match fetchRelease lib call.answers call.moduleId call.version { s with session := s.stored, broken := false } with
  | .ok _ s' => s'
  | .error _ s' => s'

end EnergyCore.Distribution
