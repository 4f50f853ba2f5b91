import EnergyCore.Foundations.Clock
import EnergyCore.Marketplace.AdvisoryPolicy

/-!
# The trust cache

The one row that keeps the marketplace metadata that is trusted, and the two operations on it: applying the
result of a sync, and marking the marketplace as offline.
-/

namespace EnergyCore.Marketplace

open JsonValues

/-! ### States -/

inductive MetadataHealth where
  | uninitialized
  | healthy
  | stale
  | expired
  | offline
  | invalid
  | unavailable
  | disabled
  deriving Repr, DecidableEq

inductive RevocationFreshness where
  | fresh
  | stale
  | expired
  | unavailable
  deriving Repr, DecidableEq

inductive SyncOutcome where
  | success
  | failed
  | rejected
  | skipped
  | inProgress
  deriving Repr, DecidableEq

structure MarketplaceMetadataVersions where
  rootVersion : ℤ
  timestampVersion : ℤ
  snapshotVersion : ℤ
  targetsVersion : ℤ
  deriving Repr, DecidableEq

structure MarketplaceSyncResult where
  outcome : SyncOutcome
  message : String := ""
  versions : Option MarketplaceMetadataVersions := none
  catalog : Option Dict := none
  revocations : Option Dict := none
  advisories : Option Dict := none
  metadataExpiresAt : Option Instant := none
  deriving Repr

structure RollbackRejection where
  role : String
  trustedVersion : ℤ
  incomingVersion : ℤ
  deriving Repr, DecidableEq

structure TrustMetadataUpdatedEvent where
  cacheGeneration : ℤ
  versions : MarketplaceMetadataVersions
  catalog : Option Dict
  revocations : Dict
  deriving Repr

structure ApplySyncResult where
  rowChanged : Bool
  promoted : Bool
  rollback : Option RollbackRejection := none
  revocationsChanged : Bool := false
  advisoriesChanged : Bool := false
  rootRotated : Bool := false
  trustEvent : Option TrustMetadataUpdatedEvent := none
  deriving Repr

/-- A column of JSON text, which is kept as the value that it reads as, if it does. -/
inductive JsonText where
  | corrupt
  | parsed (value : Json)
  deriving Repr

/-- `json.dumps` of a dictionary. -/
def JsonText.ofDict (d : Dict) : JsonText := .parsed (.obj d)

structure MarketplaceTrustCache where
  enabled : Bool := false
  cacheState : MetadataHealth := .uninitialized
  revocationState : RevocationFreshness := .unavailable
  cacheGeneration : ℤ := 0
  rootVersion : Option ℤ := none
  timestampVersion : Option ℤ := none
  snapshotVersion : Option ℤ := none
  targetsVersion : Option ℤ := none
  catalogJson : Option JsonText := none
  revocationsJson : Option JsonText := none
  advisoriesJson : Option JsonText := none
  advisoriesGeneration : Option ℤ := none
  advisoriesContentHash : Option String := none
  advisoriesUpdatedAt : Option Instant := none
  revocationGeneration : Option ℤ := none
  revocationContentHash : Option String := none
  metadataExpiresAt : Option Instant := none
  catalogUpdatedAt : Option Instant := none
  revocationUpdatedAt : Option Instant := none
  lastSuccessAt : Option Instant := none
  lastAttemptAt : Option Instant := none
  lastError : Option String := none
  syncFailed : Bool := false
  deriving Repr

/-! ### Reading the row -/

/-- `json.loads` of a column that is used as a dictionary. -/
def readDict (column : Option JsonText) : Except Raised (Option Dict) :=
  match column with
  | none => .ok none
  | some .corrupt => .error .jsonDecodeError
  | some (.parsed .null) => .ok none
  | some (.parsed (.obj members)) => .ok (some members)
  | some (.parsed _) => .error .attributeError

namespace MarketplaceTrustCache

variable (text : PyText) (row : MarketplaceTrustCache)

def parseRevocations : Except Raised (Option Dict) := readDict row.revocationsJson

def parseAdvisories : Except Raised (Option Dict) := readDict row.advisoriesJson

/-- A trusted version must be positive. -/
def validateVersion (fieldName : String) (version : Option ℤ) : Except Raised Unit :=
  if version.getD 0 < 1 then .error (.cacheValidation ("Invalid trusted " ++ fieldName)) else .ok ()

def validateCacheRow : Except Raised Unit :=
  if row.lastSuccessAt = none then .ok ()
  else do
    validateVersion "root_version" row.rootVersion
    validateVersion "timestamp_version" row.timestampVersion
    validateVersion "snapshot_version" row.snapshotVersion
    validateVersion "targets_version" row.targetsVersion
    match row.catalogJson with
    | some .corrupt => .error (.cacheValidation "Corrupt catalog_json")
    | _ => .ok ()
    match row.revocationsJson with
    | none => .ok ()
    | some .corrupt => .error (.cacheValidation "Corrupt revocations_json")
    | some (.parsed _) =>
      let raw ← row.parseRevocations
      match parseRevocationBundle text raw with
      | .error error => .error (.revocationPolicy error)
      | .ok _ => .ok ()

/-- A version that would go back. -/
def rolledBack (role : String) (incoming : ℤ) (trusted : Option ℤ) : Option RollbackRejection :=
  match trusted with
  | none => none
  | some trusted =>
    if incoming < trusted then
      some { role := role, trustedVersion := trusted, incomingVersion := incoming }
    else none

def detectMetadataRollback (incoming : MarketplaceMetadataVersions) : Option RollbackRejection :=
  if row.lastSuccessAt = none then none
  else
    (rolledBack "root" incoming.rootVersion row.rootVersion).or
      ((rolledBack "timestamp" incoming.timestampVersion row.timestampVersion).or
        ((rolledBack "snapshot" incoming.snapshotVersion row.snapshotVersion).or
          (rolledBack "targets" incoming.targetsVersion row.targetsVersion)))

def computeStates (now : Instant) : MetadataHealth × RevocationFreshness :=
  match row.lastSuccessAt with
  | none => (.uninitialized, .unavailable)
  | some lastSuccessAt =>
    if row.metadataExpiresAt.any fun expires => decide (now ≥ expires) then (.expired, .expired)
    else
      let catalogAge := now - row.catalogUpdatedAt.getD lastSuccessAt
      let revocationAge := now - row.revocationUpdatedAt.getD lastSuccessAt
      (if catalogAge > 3600 then .stale else .healthy,
        if revocationAge > 86400 then .expired
        else if revocationAge > 3600 then .stale
        else .fresh)

/-! ### Applying a sync -/

/-- The row with the states of an instant. -/
def withStates (now : Instant) : MarketplaceTrustCache :=
  { row with
    cacheState := (row.computeStates now).1
    revocationState := (row.computeStates now).2 }

/-- The row after a sync that is rejected. -/
def rejected (now : Instant) (message : String) : MarketplaceTrustCache :=
  withStates
    { row with
      syncFailed := true
      lastError := some message } now

/-- The row after a sync that failed. -/
def failed (now : Instant) (message : String) : MarketplaceTrustCache × Except Raised ApplySyncResult :=
  let row :=
    { row with
      syncFailed := true
      lastError := some message }
  let kept : ApplySyncResult := { rowChanged := true, promoted := false }
  if row.lastSuccessAt = none then
    ({ row with
        cacheState := .unavailable
        revocationState := .unavailable }, .ok kept)
  else
    match row.validateCacheRow text with
    | .ok () => (row.withStates now, .ok kept)
    | .error (.cacheValidation error) =>
      ({ row with
          cacheState := .invalid
          revocationState := .unavailable
          lastError := some error }, .ok kept)
    | .error exception => (row, .error exception)

/-- The parsed bundle and the merged list, if the revocations are accepted. -/
def acceptRevocations (incoming : Dict) : Except CheckError (RevocationBundle × Dict) :=
  match parseRevocationBundle text (some incoming) with
  | .error error => .error (.policy error)
  | .ok bundle =>
    match validateRevocationMonotonicity row.revocationGeneration row.revocationContentHash bundle with
    | .error error => .error (.policy error)
    | .ok () =>
      match row.parseRevocations with
      | .error exception => .error (.raised exception)
      | .ok trustedRaw => .ok (bundle, mergeRevocationBundles text trustedRaw bundle)

/-- What is written of the advisories. -/
structure AcceptedAdvisories where
  bundle : AdvisoryBundle
  merged : Dict
  changed : Bool

def acceptAdvisories (incoming : Option Dict) : Except CheckError (Option AcceptedAdvisories) :=
  match incoming with
  | none => .ok none
  | some incoming =>
    match parseAdvisoryBundle text (some incoming) with
    | .error error => .error error
    | .ok bundle =>
      match validateAdvisoryMonotonicity row.advisoriesGeneration row.advisoriesContentHash bundle with
      | .error error => .error error
      | .ok () =>
        match row.parseAdvisories with
        | .error exception => .error (.raised exception)
        | .ok trustedRaw =>
          match mergeAdvisoryBundles text trustedRaw bundle with
          | .error exception => .error (.raised exception)
          | .ok merged => .ok (some
              { bundle := bundle
                merged := merged
                changed := !same (.obj (trustedRaw.getD [])) (.obj merged) })

/-- `incoming.get("bundle", {}).get("generation", 0)`. -/
def rawGeneration (incoming : Dict) : ℤ :=
  match getItem (getItem incoming "bundle").asDict "generation" with
  | .num n => n.value
  | _ => 0

/-- What a policy error ends in; a rollback is reported as one. -/
def policyRejection (error : PolicyError) (role : String) (trusted : Option ℤ) (incoming : Dict) :
    ApplySyncResult where
  rowChanged := true
  promoted := false
  rollback :=
    if error.errorCode = .metadataRollbackDetected then
      some
        { role := role
          trustedVersion := trusted.getD 0
          incomingVersion := rawGeneration incoming }
    else none

/-- The row that an accepted sync writes. -/
def promote (result : MarketplaceSyncResult) (versions : MarketplaceMetadataVersions) (now : Instant)
    (bundle : RevocationBundle) (merged : Dict) (revocationsChanged : Bool)
    (advisories : Option AcceptedAdvisories) : MarketplaceTrustCache :=
  withStates
    { row with
      cacheGeneration := row.cacheGeneration + 1
      rootVersion := some versions.rootVersion
      timestampVersion := some versions.timestampVersion
      snapshotVersion := some versions.snapshotVersion
      targetsVersion := some versions.targetsVersion
      catalogJson := some (.ofDict (result.catalog.getD []))
      revocationsJson := some (.ofDict merged)
      revocationGeneration := some bundle.generation.value
      revocationContentHash := some (bundleContentHash merged)
      advisoriesJson := (advisories.map fun a => JsonText.ofDict a.merged).or row.advisoriesJson
      advisoriesGeneration :=
        (advisories.map fun a => a.bundle.generation.value).or row.advisoriesGeneration
      advisoriesContentHash :=
        (advisories.map fun a => bundleContentHash a.merged).or row.advisoriesContentHash
      advisoriesUpdatedAt :=
        match advisories with
        | none => row.advisoriesUpdatedAt
        | some a => if a.changed then some now else row.advisoriesUpdatedAt.or (some now)
      metadataExpiresAt := result.metadataExpiresAt
      lastSuccessAt := some now
      lastError := none
      syncFailed := false
      catalogUpdatedAt := some now
      revocationUpdatedAt := if revocationsChanged then some now else row.revocationUpdatedAt.or (some now) }
    now

/-- `apply_sync_result`: the row afterwards, also where an exception is raised. -/
def applySyncResult (enabled : Bool) (result : MarketplaceSyncResult) (now : Instant) :
    MarketplaceTrustCache × Except Raised ApplySyncResult :=
  let row :=
    { row with
      enabled := enabled
      lastAttemptAt := some now }
  match result.outcome, result.versions with
  | .success, some versions =>
    match row.validateCacheRow text with
    | .error exception => (row, .error exception)
    | .ok () =>
      match row.detectMetadataRollback versions with
      | some rollback =>
        (row.rejected now ("METADATA_ROLLBACK_DETECTED: " ++ rollback.role ++ " "
          ++ toString rollback.incomingVersion ++ " < " ++ toString rollback.trustedVersion),
          .ok { rowChanged := true, promoted := false, rollback := some rollback })
      | none =>
        match row.acceptRevocations text (result.revocations.getD []) with
        | .error (.raised exception) => (row, .error exception)
        | .error (.policy error) => (row.rejected now error.message,
            .ok (policyRejection error "revocations" row.revocationGeneration
              (result.revocations.getD [])))
        | .ok (bundle, merged) =>
          match row.acceptAdvisories text result.advisories with
          | .error (.raised exception) => (row, .error exception)
          | .error (.policy error) => (row.rejected now error.message,
              .ok (policyRejection error "advisories" row.advisoriesGeneration
                (result.advisories.getD [])))
          | .ok advisories =>
            match row.parseRevocations with
            | .error exception => (row, .error exception)
            | .ok trustedRaw =>
              let changed := revocationsChanged trustedRaw (some merged)
              let promoted := row.promote result versions now bundle merged changed advisories
              (promoted, .ok
                { rowChanged := true
                  promoted := true
                  revocationsChanged := changed
                  advisoriesChanged := (advisories.map fun a => a.changed).getD false
                  rootRotated :=
                    row.rootVersion.any fun root => decide (versions.rootVersion > root)
                  trustEvent := some
                    { cacheGeneration := promoted.cacheGeneration
                      versions := versions
                      catalog := result.catalog
                      revocations := merged } })
  | _, _ => row.failed text now result.message

/-- `mark_offline`: the row afterwards, also where an exception is raised. -/
def markOffline (enabled : Bool) (message : String) (now : Instant) : MarketplaceTrustCache × Except Raised Unit :=
  let row :=
    { row with
      enabled := enabled
      lastAttemptAt := some now
      lastError := some message
      syncFailed := true }
  match row.validateCacheRow text with
  | .error (.cacheValidation _) =>
    ({ row with
        cacheState := .invalid
        revocationState := .unavailable }, .ok ())
  | .error exception => (row, .error exception)
  | .ok () =>
    ({ row with
        cacheState := .offline
        revocationState :=
          if row.lastSuccessAt = none then .unavailable else (row.computeStates now).2 }, .ok ())

end MarketplaceTrustCache

end EnergyCore.Marketplace
