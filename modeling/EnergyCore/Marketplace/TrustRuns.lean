import EnergyCore.Marketplace.TrustCache

/-!
# Runs of the trust cache

A run is a list of calls, each of which applies the result of a sync or marks the marketplace as offline.

* `applySyncResult_step` — what one sync can do: it is accepted, and the trusted payload is replaced at once, or
  the payload is left alone;
* `trusted_unchanged` — nothing but an accepted sync touches the payload;
* `versions_never_rolled_back` — no call of a run lowers a version or a generation.
-/

namespace EnergyCore.Marketplace

open JsonValues StepRun

/-! ### The trusted payload -/

/-- The fields of a row that are trusted; the others hold states and diagnostics. -/
structure TrustedPayload where
  cacheGeneration : ℤ
  rootVersion : Option ℤ
  timestampVersion : Option ℤ
  snapshotVersion : Option ℤ
  targetsVersion : Option ℤ
  catalogJson : Option JsonText
  catalogUpdatedAt : Option Instant
  revocationsJson : Option JsonText
  revocationGeneration : Option ℤ
  revocationContentHash : Option String
  revocationUpdatedAt : Option Instant
  advisoriesJson : Option JsonText
  advisoriesGeneration : Option ℤ
  advisoriesContentHash : Option String
  advisoriesUpdatedAt : Option Instant
  metadataExpiresAt : Option Instant
  lastSuccessAt : Option Instant

namespace MarketplaceTrustCache

def trusted (row : MarketplaceTrustCache) : TrustedPayload where
  cacheGeneration := row.cacheGeneration
  rootVersion := row.rootVersion
  timestampVersion := row.timestampVersion
  snapshotVersion := row.snapshotVersion
  targetsVersion := row.targetsVersion
  catalogJson := row.catalogJson
  catalogUpdatedAt := row.catalogUpdatedAt
  revocationsJson := row.revocationsJson
  revocationGeneration := row.revocationGeneration
  revocationContentHash := row.revocationContentHash
  revocationUpdatedAt := row.revocationUpdatedAt
  advisoriesJson := row.advisoriesJson
  advisoriesGeneration := row.advisoriesGeneration
  advisoriesContentHash := row.advisoriesContentHash
  advisoriesUpdatedAt := row.advisoriesUpdatedAt
  metadataExpiresAt := row.metadataExpiresAt
  lastSuccessAt := row.lastSuccessAt

@[simp] theorem trusted_withStates (row : MarketplaceTrustCache) (now : Instant) :
    (row.withStates now).trusted = row.trusted := rfl

@[simp] theorem trusted_rejected (row : MarketplaceTrustCache) (now : Instant) (message : String) :
    (row.rejected now message).trusted = row.trusted := rfl

theorem trusted_failed (text : PyText) (row : MarketplaceTrustCache) (now : Instant)
    (message : String) : (row.failed text now message).1.trusted = row.trusted := by
  unfold failed
  by_cases hfirst : row.lastSuccessAt = none
  · simp only [hfirst, if_true]
    simp only [trusted, hfirst]
  · simp only [hfirst, if_false]
    split
    · rfl
    · rfl
    · rfl

/-- The row as a call first writes it. -/
def attempted (row : MarketplaceTrustCache) (enabled : Bool) (now : Instant) : MarketplaceTrustCache :=
  { row with
    enabled := enabled
    lastAttemptAt := some now }

end MarketplaceTrustCache

open MarketplaceTrustCache

/-- Whether a call ended in a promotion. -/
def promotes : Except Raised ApplySyncResult → Bool
  | .ok result => result.promoted
  | .error _ => false

variable (text : PyText)

/-! ### One call -/

theorem promotes_failed (row : MarketplaceTrustCache) (now : Instant) (message : String) :
    promotes (row.failed text now message).2 = false := by
  unfold failed
  by_cases hfirst : row.lastSuccessAt = none
  · simp only [hfirst, if_true]
    rfl
  · simp only [hfirst, if_false]
    split
    · rfl
    · rfl
    · rfl

theorem acceptRevocations_iff {row : MarketplaceTrustCache} {incoming : Dict}
    {bundle : RevocationBundle} {merged : Dict} : row.acceptRevocations text incoming = .ok (bundle, merged) ↔
      parseRevocationBundle text (some incoming) = .ok bundle ∧
      validateRevocationMonotonicity row.revocationGeneration row.revocationContentHash bundle = .ok () ∧
      ∃ trustedRaw, row.parseRevocations = .ok trustedRaw ∧
        mergeRevocationBundles text trustedRaw bundle = merged := by
  unfold acceptRevocations
  cases hparse : parseRevocationBundle text (some incoming) with
  | error error => simp
  | ok parsed =>
    cases hvalid : validateRevocationMonotonicity row.revocationGeneration
        row.revocationContentHash parsed with
    | error error =>
      simp only [hvalid, Except.ok.injEq, reduceCtorEq, false_iff, not_and]
      rintro rfl hok
      rw [hvalid] at hok
      cases hok
    | ok u =>
      cases hraw : row.parseRevocations with
      | error exception => simp [hvalid]
      | ok trustedRaw =>
        simp only [hvalid, Except.ok.injEq, Prod.mk.injEq, exists_eq_left']
        constructor
        · rintro ⟨rfl, hmerged⟩
          exact ⟨rfl, hvalid, hmerged⟩
        · rintro ⟨rfl, -, hmerged⟩
          exact ⟨rfl, hmerged⟩

theorem acceptAdvisories_some {row : MarketplaceTrustCache} {incoming : Dict}
    {advisories : Option AcceptedAdvisories} :
    row.acceptAdvisories text (some incoming) = .ok advisories ↔
      ∃ bundle trustedRaw merged,
        parseAdvisoryBundle text (some incoming) = .ok bundle ∧
        validateAdvisoryMonotonicity row.advisoriesGeneration row.advisoriesContentHash bundle = .ok () ∧
        row.parseAdvisories = .ok trustedRaw ∧
        mergeAdvisoryBundles text trustedRaw bundle = .ok merged ∧
        advisories = some
          { bundle := bundle
            merged := merged
            changed := !same (.obj (trustedRaw.getD [])) (.obj merged) } := by
  unfold acceptAdvisories
  dsimp only
  cases hparse : parseAdvisoryBundle text (some incoming) with
  | error error => simp
  | ok parsed =>
    cases hvalid : validateAdvisoryMonotonicity row.advisoriesGeneration
        row.advisoriesContentHash parsed with
    | error error =>
      simp only [hvalid, Except.ok.injEq, reduceCtorEq, false_iff, not_exists, not_and]
      rintro bundle trustedRaw merged rfl hok
      rw [hvalid] at hok
      cases hok
    | ok u =>
      cases hraw : row.parseAdvisories with
      | error exception => simp [hvalid]
      | ok trustedRaw =>
        cases hmerge : mergeAdvisoryBundles text trustedRaw parsed with
        | error exception =>
          simp only [hvalid, hmerge, Except.ok.injEq, reduceCtorEq, false_iff, not_exists, not_and]
          rintro bundle raw merged rfl - rfl hok
          rw [hmerge] at hok
          cases hok
        | ok merged =>
          simp only [hvalid, hmerge, Except.ok.injEq]
          constructor
          · rintro rfl
            exact ⟨parsed, trustedRaw, merged, rfl, hvalid, rfl, hmerge, rfl⟩
          · rintro ⟨bundle, raw, merged', rfl, -, rfl, hok, rfl⟩
            rw [hmerge, Except.ok.injEq] at hok
            rw [hok]

/-- What an accepted sync has gone through. -/
structure Accepts (row : MarketplaceTrustCache) (result : MarketplaceSyncResult)
    (versions : MarketplaceMetadataVersions) (bundle : RevocationBundle) (merged : Dict)
    (advisories : Option AcceptedAdvisories) : Prop where
  success : result.outcome = .success
  present : result.versions = some versions
  valid : row.validateCacheRow text = .ok ()
  noRollback : row.detectMetadataRollback versions = none
  revocations : row.acceptRevocations text (result.revocations.getD []) = .ok (bundle, merged)
  advisories : row.acceptAdvisories text result.advisories = .ok advisories

/-- **One sync.** It is accepted, and the trusted payload is replaced at once, or the payload is left alone. -/
theorem applySyncResult_step {row : MarketplaceTrustCache} {enabled : Bool}
    {result : MarketplaceSyncResult} {now : Instant} {next : MarketplaceTrustCache}
    {outcome : Except Raised ApplySyncResult} (h : row.applySyncResult text enabled result now = (next, outcome)) :
    (∃ versions bundle merged advisories changed, Accepts text row result versions bundle merged advisories ∧
      next = (row.attempted enabled now).promote result versions now bundle merged changed advisories ∧
      promotes outcome = true) ∨ (next.trusted = row.trusted ∧ promotes outcome = false) := by
  unfold applySyncResult at h
  simp only at h
  split at h
  · rename_i versions houtcome hversions
    split at h
    · obtain ⟨rfl, rfl⟩ := h
      exact .inr ⟨rfl, rfl⟩
    · rename_i hvalid
      split at h
      · obtain ⟨rfl, rfl⟩ := h
        exact .inr ⟨rfl, rfl⟩
      · rename_i hrollback
        split at h
        · obtain ⟨rfl, rfl⟩ := h
          exact .inr ⟨rfl, rfl⟩
        · obtain ⟨rfl, rfl⟩ := h
          exact .inr ⟨rfl, rfl⟩
        · rename_i bundle merged hrevocations
          split at h
          · obtain ⟨rfl, rfl⟩ := h
            exact .inr ⟨rfl, rfl⟩
          · obtain ⟨rfl, rfl⟩ := h
            exact .inr ⟨rfl, rfl⟩
          · rename_i advisories hadvisories
            split at h
            · obtain ⟨rfl, rfl⟩ := h
              exact .inr ⟨rfl, rfl⟩
            · obtain ⟨rfl, rfl⟩ := h
              exact .inl ⟨versions, bundle, merged, advisories, _,
                ⟨houtcome, hversions, hvalid, hrollback, hrevocations, hadvisories⟩, rfl, rfl⟩
  · refine .inr ⟨?_, ?_⟩
    · have hnext : _ = next := congrArg Prod.fst h
      rw [← hnext]
      exact trusted_failed text _ now result.message
    · have houtcome : _ = outcome := congrArg Prod.snd h
      rw [← houtcome]
      exact promotes_failed text _ now result.message

/-- Marking the marketplace as offline leaves the payload alone. -/
theorem trusted_markOffline (row : MarketplaceTrustCache) (enabled : Bool) (message : String)
    (now : Instant) : (row.markOffline text enabled message now).1.trusted = row.trusted := by
  unfold markOffline
  simp only
  split
  · rfl
  · rfl
  · rfl

/-- **Failed syncs change no trusted content.** A sync that is not accepted, because its result reports a failure,
is rejected or raises an exception, leaves the trusted payload as it is, as does marking the marketplace as offline. -/
theorem trusted_unchanged (row : MarketplaceTrustCache) (enabled : Bool)
    (result : MarketplaceSyncResult) (message : String) (now : Instant) (h : result.outcome ≠ .success ∨
      promotes (row.applySyncResult text enabled result now).2 = false) :
    (row.applySyncResult text enabled result now).1.trusted = row.trusted ∧
      (row.markOffline text enabled message now).1.trusted = row.trusted := by
  refine ⟨?_, trusted_markOffline text row enabled message now⟩
  rcases applySyncResult_step text (Prod.eta _).symm with
    ⟨versions, bundle, merged, advisories, changed, haccepts, -, hpromotes⟩ | ⟨htrusted, -⟩
  · rcases h with hfailed | hrejected
    · exact absurd haccepts.success hfailed
    · rw [hpromotes] at hrejected
      exact absurd hrejected (by decide)
  · exact htrusted

/-- A result of a failed download. -/
theorem trusted_unchanged_download :
    (({} : MarketplaceTrustCache).applySyncResult .ascii true
        { outcome := .failed, message := "timeout" } 10).1.trusted
        = ({} : MarketplaceTrustCache).trusted ∧
      (({} : MarketplaceTrustCache).markOffline .ascii true "no url" 10).1.trusted
        = ({} : MarketplaceTrustCache).trusted :=
  trusted_unchanged .ascii {} true { outcome := .failed, message := "timeout" } "no url" 10
    (.inl (by decide))

/-! ### Runs -/

inductive TrustCall where
  | sync (enabled : Bool) (result : MarketplaceSyncResult) (now : Instant)
  | offline (enabled : Bool) (message : String) (now : Instant)

/-- The row after a call. -/
def trustStep (row : MarketplaceTrustCache) : TrustCall → MarketplaceTrustCache
  | .sync enabled result now => (row.applySyncResult text enabled result now).1
  | .offline enabled message now => (row.markOffline text enabled message now).1

/-- A number that may be missing is kept or raised. -/
def NotLowered : Option ℤ → Option ℤ → Prop
  | none, _ => True
  | some _, none => False
  | some before, some after => before ≤ after

@[simp] theorem NotLowered.refl (n : Option ℤ) : NotLowered n n := by
  cases n with
  | none => trivial
  | some n => exact Int.le_refl n

/-- No version and no generation of the payload goes back. -/
structure NoRollback (before after : TrustedPayload) : Prop where
  root : NotLowered before.rootVersion after.rootVersion
  timestamp : NotLowered before.timestampVersion after.timestampVersion
  snapshot : NotLowered before.snapshotVersion after.snapshotVersion
  targets : NotLowered before.targetsVersion after.targetsVersion
  revocations : NotLowered before.revocationGeneration after.revocationGeneration
  advisories : NotLowered before.advisoriesGeneration after.advisoriesGeneration
  cache : before.cacheGeneration ≤ after.cacheGeneration

theorem NoRollback.refl (payload : TrustedPayload) : NoRollback payload payload :=
  ⟨.refl _, .refl _, .refl _, .refl _, .refl _, .refl _, Int.le_refl _⟩

/-- Without a success there are no versions. -/
def VersionsFromSuccess (row : MarketplaceTrustCache) : Prop :=
  row.lastSuccessAt = none →
    row.rootVersion = none ∧ row.timestampVersion = none ∧ row.snapshotVersion = none ∧
      row.targetsVersion = none

theorem notLowered_of_rolledBack {role : String} {incoming : ℤ} {trusted : Option ℤ}
    (h : rolledBack role incoming trusted = none) : NotLowered trusted (some incoming) := by
  cases trusted with
  | none => trivial
  | some version =>
    rw [rolledBack] at h
    split_ifs at h with hlower
    exact not_lt.mp hlower

theorem notLowered_of_detectMetadataRollback {row : MarketplaceTrustCache}
    {versions : MarketplaceMetadataVersions} (hrow : VersionsFromSuccess row)
    (h : row.detectMetadataRollback versions = none) : NotLowered row.rootVersion (some versions.rootVersion) ∧
      NotLowered row.timestampVersion (some versions.timestampVersion) ∧
      NotLowered row.snapshotVersion (some versions.snapshotVersion) ∧
      NotLowered row.targetsVersion (some versions.targetsVersion) := by
  unfold detectMetadataRollback at h
  split_ifs at h with hfirst
  · obtain ⟨hroot, htimestamp, hsnapshot, htargets⟩ := hrow hfirst
    rw [hroot, htimestamp, hsnapshot, htargets]
    exact ⟨trivial, trivial, trivial, trivial⟩
  · rw [Option.or_eq_none_iff, Option.or_eq_none_iff, Option.or_eq_none_iff] at h
    obtain ⟨hroot, htimestamp, hsnapshot, htargets⟩ := h
    exact ⟨notLowered_of_rolledBack hroot, notLowered_of_rolledBack htimestamp,
      notLowered_of_rolledBack hsnapshot, notLowered_of_rolledBack htargets⟩

theorem notLowered_of_validateRevocationMonotonicity {trusted : Option ℤ} {hash : Option String}
    {bundle : RevocationBundle} (h : validateRevocationMonotonicity trusted hash bundle = .ok ()) :
    NotLowered trusted (some bundle.generation.value) := by
  cases trusted with
  | none => trivial
  | some generation =>
    rw [validateRevocationMonotonicity] at h
    split_ifs at h with hlower
    · exact not_lt.mp hlower
    · exact not_lt.mp hlower

theorem notLowered_of_validateAdvisoryMonotonicity {trusted : Option ℤ} {hash : Option String}
    {bundle : AdvisoryBundle} (h : validateAdvisoryMonotonicity trusted hash bundle = .ok ()) :
    NotLowered trusted (some bundle.generation.value) := by
  cases trusted with
  | none => trivial
  | some generation =>
    rw [validateAdvisoryMonotonicity] at h
    split_ifs at h with hlower
    all_goals exact not_lt.mp hlower

/-- What an accepted sync writes is not behind the payload. -/
theorem noRollback_promote {row : MarketplaceTrustCache} {result : MarketplaceSyncResult}
    {versions : MarketplaceMetadataVersions} {bundle : RevocationBundle} {merged : Dict}
    {advisories : Option AcceptedAdvisories} (hrow : VersionsFromSuccess row)
    (h : Accepts text row result versions bundle merged advisories) (enabled : Bool) (now : Instant)
    (changed : Bool) : NoRollback row.trusted
      ((row.attempted enabled now).promote result versions now bundle merged changed advisories).trusted := by
  obtain ⟨hroot, htimestamp, hsnapshot, htargets⟩ := notLowered_of_detectMetadataRollback hrow h.noRollback
  obtain ⟨-, hrevocations, -⟩ := (acceptRevocations_iff text).mp h.revocations
  refine ⟨hroot, htimestamp, hsnapshot, htargets, notLowered_of_validateRevocationMonotonicity hrevocations, ?_, ?_⟩
  · have hadvisories := h.advisories
    cases hincoming : result.advisories with
    | none =>
      rw [hincoming, acceptAdvisories, Except.ok.injEq] at hadvisories
      rw [← hadvisories]
      exact .refl _
    | some incoming =>
      rw [hincoming] at hadvisories
      obtain ⟨parsed, trustedRaw, mergedAdvisories, -, hvalid, -, -, rfl⟩ :=
        (acceptAdvisories_some text).mp hadvisories
      exact notLowered_of_validateAdvisoryMonotonicity hvalid
  · show row.cacheGeneration ≤ row.cacheGeneration + 1
    omega

/-- One call rolls nothing back. -/
theorem noRollback_trustStep {row : MarketplaceTrustCache} (hrow : VersionsFromSuccess row) (call : TrustCall) :
    NoRollback row.trusted (trustStep text row call).trusted ∧ VersionsFromSuccess (trustStep text row call) := by
  have hkept : ∀ next : MarketplaceTrustCache, next.trusted = row.trusted →
      NoRollback row.trusted next.trusted ∧ VersionsFromSuccess next := by
    intro next hnext
    refine ⟨hnext ▸ .refl _, fun hfirst => ?_⟩
    have hsame : row.lastSuccessAt = none := (congrArg TrustedPayload.lastSuccessAt hnext).symm.trans hfirst
    obtain ⟨hroot, htimestamp, hsnapshot, htargets⟩ := hrow hsame
    exact ⟨(congrArg TrustedPayload.rootVersion hnext).trans hroot,
      (congrArg TrustedPayload.timestampVersion hnext).trans htimestamp,
      (congrArg TrustedPayload.snapshotVersion hnext).trans hsnapshot,
      (congrArg TrustedPayload.targetsVersion hnext).trans htargets⟩
  cases call with
  | sync enabled result now =>
    rcases applySyncResult_step text (Prod.eta (row.applySyncResult text enabled result now)).symm with
      ⟨versions, bundle, merged, advisories, changed, haccepts, hnext, -⟩ | ⟨htrusted, -⟩
    · rw [trustStep, hnext]
      refine ⟨noRollback_promote text hrow haccepts enabled now changed, fun hfirst => ?_⟩
      exact absurd hfirst (Option.some_ne_none now)
    · exact hkept _ htrusted
  | offline enabled message now => exact hkept _ (trusted_markOffline text row enabled message now)

/-- **Trust never rolls back.** Over every run from a new row, no call lowers the version of the root, the
timestamp, the snapshot or the targets, the generation of the revocations or of the advisories, or the generation
of the cache. -/
theorem versions_never_rolled_back (calls : List TrustCall) :
    AllSteps (trustStep text) (fun row call => NoRollback row.trusted (trustStep text row call).trusted) {} calls := by
  have hnew : VersionsFromSuccess {} := fun _ => ⟨rfl, rfl, rfl, rfl⟩
  have hany : AllSteps (trustStep text) (fun _ _ => True) {} calls :=
    AllSteps.of_forall_mem (P := fun _ => True) fun _ _ => trivial
  exact AllSteps.of_invariant (I := VersionsFromSuccess)
    (fun row call hrow _ => noRollback_trustStep text hrow call) hnew hany

end EnergyCore.Marketplace
