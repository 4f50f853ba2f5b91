import EnergyCore.Marketplace.RevocationDurability

/-!
# Applying a sync once more

What an accepted sync meets when its result is applied a second time. The hash that the row keeps is the hash of
the merged list, and the next bundle of the same generation is compared by the hash it came with.

* `sameTrust_of_accepts` — merging the same bundle a second time changes no active entry;
* `accepts_promote_iff` — when a second application is accepted;
* `resync_iff` — the second application is accepted, and changes nothing, exactly if the merges wrote the bundles as
  they came;
* `resync_rejected` — a list that was carried over makes the second application fail.
-/

namespace EnergyCore.Marketplace

open JsonValues KeywordFields KeyedChanges StepRun
open Sha256
open MarketplaceTrustCache

variable (text : PyText)

/-! ### Active advisories -/

/-- The active advisories of the cached list of a row. -/
def activeAdvisories (row : MarketplaceTrustCache) : Except Raised (Fields String Dict) :=
  match row.parseAdvisories with
  | .ok trustedRaw => trustedAdvisories text trustedRaw
  | .error exception => .error exception

/-- What a second application leaves as it is. -/
structure SameTrust (row row' : MarketplaceTrustCache) : Prop where
  rootVersion : row'.rootVersion = row.rootVersion
  timestampVersion : row'.timestampVersion = row.timestampVersion
  snapshotVersion : row'.snapshotVersion = row.snapshotVersion
  targetsVersion : row'.targetsVersion = row.targetsVersion
  revocationGeneration : row'.revocationGeneration = row.revocationGeneration
  advisoriesGeneration : row'.advisoriesGeneration = row.advisoriesGeneration
  revocations : cachedActive text row' = cachedActive text row
  advisories : activeAdvisories text row' = activeAdvisories text row

/-! ### Accepted syncs -/

/-- What a sync that passes every check writes. -/
theorem applySyncResult_eq_promote {row : MarketplaceTrustCache} {result : MarketplaceSyncResult}
    {versions : MarketplaceMetadataVersions} {bundle : RevocationBundle} {merged : Dict}
    {advisories : Option AcceptedAdvisories}
    (h : Accepts text row result versions bundle merged advisories) {trustedRaw : Option Dict}
    (hraw : row.parseRevocations = .ok trustedRaw) (enabled : Bool) (now : Instant) :
    (row.applySyncResult text enabled result now).1
        = (row.attempted enabled now).promote result versions now bundle merged
          (revocationsChanged trustedRaw (some merged)) advisories ∧
      promotes (row.applySyncResult text enabled result now).2 = true := by
  have hvalid : (row.attempted enabled now).validateCacheRow text = .ok () := h.valid
  have hrollback : (row.attempted enabled now).detectMetadataRollback versions = none := h.noRollback
  have hrevocations : (row.attempted enabled now).acceptRevocations text (result.revocations.getD [])
      = .ok (bundle, merged) := h.revocations
  have hadvisories : (row.attempted enabled now).acceptAdvisories text result.advisories
      = .ok advisories := h.advisories
  have hraw : (row.attempted enabled now).parseRevocations = .ok trustedRaw := hraw
  unfold applySyncResult
  unfold attempted at hvalid hrollback hrevocations hadvisories hraw
  simp only [h.success, h.present, hvalid, hrollback, hrevocations, hadvisories, hraw]
  exact ⟨rfl, rfl⟩

/-- A sync that passes every check is accepted. -/
theorem applySyncResult_of_accepts {row : MarketplaceTrustCache} {result : MarketplaceSyncResult}
    {versions : MarketplaceMetadataVersions} {bundle : RevocationBundle} {merged : Dict}
    {advisories : Option AcceptedAdvisories}
    (h : Accepts text row result versions bundle merged advisories) (enabled : Bool) (now : Instant) : ∃ changed,
      (row.applySyncResult text enabled result now).1
        = (row.attempted enabled now).promote result versions now bundle merged changed advisories ∧
      promotes (row.applySyncResult text enabled result now).2 = true := by
  obtain ⟨-, -, trustedRaw, hraw, -⟩ := (acceptRevocations_iff text).mp h.revocations
  exact ⟨_, applySyncResult_eq_promote text h hraw enabled now⟩

/-! ### The row that was written -/

theorem bind_ok_iff {x y : Except Raised Unit} : (x >>= fun _ => y) = .ok () ↔ x = .ok () ∧ y = .ok () := by
  cases x with
  | error exception => exact iff_of_false (fun h => by cases h) (fun h => by cases h.1)
  | ok u => exact (and_iff_right rfl).symm

theorem validateVersion_ok_iff {fieldName : String} {version : ℤ} :
    validateVersion fieldName (some version) = .ok () ↔ 1 ≤ version := by
  unfold validateVersion
  rw [Option.getD_some]
  split_ifs with hlow
  · exact iff_of_false (fun h => by cases h) (not_le.mpr hlow)
  · exact iff_of_true rfl (not_lt.mp hlow)

/-- A row with a success, texts that read and a list that parses is valid if its versions are positive. -/
theorem validateCacheRow_ok_iff {row : MarketplaceTrustCache} {versions : MarketplaceMetadataVersions}
    {catalog : Json} {merged : Dict} {bundle : RevocationBundle} (hsuccess : row.lastSuccessAt ≠ none)
    (hroot : row.rootVersion = some versions.rootVersion)
    (htimestamp : row.timestampVersion = some versions.timestampVersion)
    (hsnapshot : row.snapshotVersion = some versions.snapshotVersion)
    (htargets : row.targetsVersion = some versions.targetsVersion)
    (hcatalog : row.catalogJson = some (.parsed catalog)) (hrevocations : row.revocationsJson = some (.ofDict merged))
    (hparse : parseRevocationBundle text (some merged) = .ok bundle) : row.validateCacheRow text = .ok () ↔
      1 ≤ versions.rootVersion ∧ 1 ≤ versions.timestampVersion ∧ 1 ≤ versions.snapshotVersion ∧
        1 ≤ versions.targetsVersion := by
  have hraw : row.parseRevocations = .ok (some merged) := by
    unfold parseRevocations
    rw [hrevocations]
    rfl
  unfold validateCacheRow
  rw [if_neg hsuccess, hroot, htimestamp, hsnapshot, htargets, hcatalog, hrevocations, hraw]
  rw [bind_ok_iff, validateVersion_ok_iff, bind_ok_iff, validateVersion_ok_iff, bind_ok_iff,
    validateVersion_ok_iff, bind_ok_iff, validateVersion_ok_iff]
  refine and_congr_right fun _ => and_congr_right fun _ => and_congr_right fun _ => and_iff_left ?_
  simp only [bind, Except.bind, JsonText.ofDict, hparse]

/-- The trusted versions are no rollback. -/
theorem detectMetadataRollback_same {row : MarketplaceTrustCache} {versions : MarketplaceMetadataVersions}
    (hroot : row.rootVersion = some versions.rootVersion)
    (htimestamp : row.timestampVersion = some versions.timestampVersion)
    (hsnapshot : row.snapshotVersion = some versions.snapshotVersion)
    (htargets : row.targetsVersion = some versions.targetsVersion) : row.detectMetadataRollback versions = none := by
  have hkept : ∀ role (version : ℤ), rolledBack role version (some version) = none :=
    fun role version => if_neg (lt_irrefl version)
  unfold detectMetadataRollback
  rw [hroot, htimestamp, hsnapshot, htargets, hkept, hkept, hkept, hkept]
  exact ite_self _

/-! ### The second application -/

/-- Whether a result can be applied once more: its versions are positive, and the merges write the bundles as they
came. -/
structure Resyncable (row : MarketplaceTrustCache) (result : MarketplaceSyncResult) : Prop where
  versions : ∀ versions, result.versions = some versions →
    1 ≤ versions.rootVersion ∧ 1 ≤ versions.timestampVersion ∧ 1 ≤ versions.snapshotVersion ∧
      1 ≤ versions.targetsVersion
  revocations : ∀ bundle trustedRaw,
    parseRevocationBundle text (some (result.revocations.getD [])) = .ok bundle →
    row.parseRevocations = .ok trustedRaw →
    bundleContentHash (mergeRevocationBundles text trustedRaw bundle)
      = bundleContentHash (result.revocations.getD [])
  advisories : ∀ incoming bundle trustedRaw merged, result.advisories = some incoming →
    parseAdvisoryBundle text (some incoming) = .ok bundle →
    row.parseAdvisories = .ok trustedRaw →
    mergeAdvisoryBundles text trustedRaw bundle = .ok merged →
    bundleContentHash merged = bundleContentHash incoming

theorem bundleContentHash_ne_empty (payload : Dict) : bundleContentHash payload ≠ "" := sha256_ne_empty _

/-- A bundle of the trusted generation passes exactly with the trusted hash. -/
theorem validateRevocationMonotonicity_same {bundle : RevocationBundle} {merged : Dict} :
    validateRevocationMonotonicity (some bundle.generation.value) (some (bundleContentHash merged)) bundle
        = .ok () ↔ bundle.contentHash = bundleContentHash merged := by
  rw [validateRevocationMonotonicity, Option.getD_some, if_neg (lt_irrefl _)]
  split_ifs with hmutated
  · exact iff_of_false (fun h => by cases h) hmutated.2.2
  · refine iff_of_true rfl (not_not.mp fun hne => hmutated ⟨rfl, ?_, hne⟩)
    exact bundleContentHash_ne_empty merged

theorem validateAdvisoryMonotonicity_same {bundle : AdvisoryBundle} {merged : Dict} :
    validateAdvisoryMonotonicity (some bundle.generation.value) (some (bundleContentHash merged)) bundle = .ok () ↔
      bundle.contentHash = bundleContentHash merged := by
  rw [validateAdvisoryMonotonicity, Option.getD_some, if_neg (lt_irrefl _)]
  split_ifs with hmutated hwiped
  · exact iff_of_false (fun h => by cases h) hmutated.2.2
  · exact absurd hwiped.1 (lt_irrefl _)
  · refine iff_of_true rfl (not_not.mp fun hne => hmutated ⟨rfl, ?_, hne⟩)
    exact bundleContentHash_ne_empty merged

section

variable {row : MarketplaceTrustCache} {result : MarketplaceSyncResult}
  {versions : MarketplaceMetadataVersions} {bundle : RevocationBundle} {merged : Dict}
  {advisories : Option AcceptedAdvisories}
  (h : Accepts text row result versions bundle merged advisories) (enabled changed : Bool) (now : Instant)

include h

/-- The row that a sync writes accepts the revocations of the sync once more exactly if they were merged as they
came. -/
theorem acceptRevocations_promote (merged' : Dict) :
    (((row.attempted enabled now).promote result versions now bundle merged changed advisories).acceptRevocations
        text (result.revocations.getD []) = .ok (bundle, merged')) ↔
      bundleContentHash merged = bundleContentHash (result.revocations.getD []) ∧
        mergeRevocationBundles text (some merged) bundle = merged' := by
  obtain ⟨hparse, -, -⟩ := (acceptRevocations_iff text).mp h.revocations
  have hhash := (parseRevocationBundle_parsed text hparse).2
  rw [acceptRevocations_iff]
  show (_ ∧ validateRevocationMonotonicity (some bundle.generation.value)
    (some (bundleContentHash merged)) bundle = .ok () ∧
    ∃ trustedRaw, (.ok (some merged) : Except Raised (Option Dict)) = .ok trustedRaw ∧ _) ↔ _
  rw [validateRevocationMonotonicity_same, hhash]
  constructor
  · rintro ⟨-, hsame, trustedRaw, hraw, hmerged⟩
    cases hraw
    exact ⟨hsame.symm, hmerged⟩
  · rintro ⟨hsame, hmerged⟩
    exact ⟨hparse, hsame.symm, some merged, rfl, hmerged⟩

/-- The same for the advisories. -/
theorem acceptAdvisories_promote {incoming : Dict} (hincoming : result.advisories = some incoming)
    {accepted : AcceptedAdvisories} (haccepted : advisories = some accepted)
    {advisories' : Option AcceptedAdvisories} :
    ((row.attempted enabled now).promote result versions now bundle merged changed advisories).acceptAdvisories
        text (some incoming) = .ok advisories' ↔
      bundleContentHash accepted.merged = bundleContentHash incoming ∧
        ∃ merged', mergeAdvisoryBundles text (some accepted.merged) accepted.bundle = .ok merged' ∧
          advisories' = some
            { bundle := accepted.bundle
              merged := merged'
              changed := !same (.obj accepted.merged) (.obj merged') } := by
  have hadvisories := h.advisories
  rw [hincoming, acceptAdvisories_some] at hadvisories
  obtain ⟨parsed, trustedRaw, mergedAdvisories, hparse, -, -, -, hsame⟩ := hadvisories
  rw [haccepted, Option.some.injEq] at hsame
  have hhash := (parseAdvisoryBundle_parsed text hparse).2
  rw [acceptAdvisories_some, haccepted, hsame]
  constructor
  · rintro ⟨bundle', trustedRaw', merged', hparse', hvalid, hraw, hmerged, hresult⟩
    rw [hparse, Except.ok.injEq] at hparse'
    rw [← hparse'] at hvalid hmerged hresult
    have hraw : (.ok (some mergedAdvisories) : Except Raised (Option Dict)) = .ok trustedRaw' := hraw
    cases hraw
    have hvalid := validateAdvisoryMonotonicity_same.mp hvalid
    exact ⟨hvalid.symm.trans hhash, merged', hmerged, hresult⟩
  · rintro ⟨hequal, merged', hmerged, hresult⟩
    refine ⟨parsed, some mergedAdvisories, merged', hparse, ?_, rfl, hmerged, hresult⟩
    exact validateAdvisoryMonotonicity_same.mpr (hhash.trans hequal.symm)

/-- The advisories of a row that was written by a sync. -/
theorem activeAdvisories_promote {incoming : Dict} (hincoming : result.advisories = some incoming)
    {accepted : AcceptedAdvisories} (haccepted : advisories = some accepted) : ∃ active, (Fields.keys active).Nodup ∧
      (∀ k d, (k, d) ∈ applyAll active (accepted.bundle.advisories.flatMap (advisoryChanges text)) →
        IsActiveAdvisory text k d) ∧ accepted.bundle.Parsed text ∧
      trustedAdvisories text (some accepted.merged) = .ok (byKey
        ((applyAll active (accepted.bundle.advisories.flatMap (advisoryChanges text))).map
          fun e => (e.1, rereadDict text e.2))) := by
  have hadvisories := h.advisories
  rw [hincoming, acceptAdvisories_some] at hadvisories
  obtain ⟨parsed, trustedRaw, mergedAdvisories, hparse, -, -, hmerged, hsame⟩ := hadvisories
  rw [haccepted, Option.some.injEq] at hsame
  rw [hsame]
  have hparsed := (parseAdvisoryBundle_parsed text hparse).1
  cases htrusted : trustedAdvisories text trustedRaw with
  | error exception =>
    rw [mergeAdvisoryBundles, htrusted] at hmerged
    cases hmerged
  | ok active =>
    obtain ⟨hkeys, hactive⟩ := trustedAdvisories_active text htrusted
    refine ⟨active, hkeys, ?_, hparsed, ?_⟩
    · intro k d hmem
      rw [← mergedAdvisories_eq] at hmem
      exact isActiveAdvisory_of_merged text hparsed hkeys hactive hmem
    · rw [← mergedAdvisories_eq]
      exact trustedAdvisories_merged text hparsed htrusted hmerged

/-- **When a sync is accepted again.** -/
theorem accepts_promote_iff : (∃ versions' bundle' merged' advisories', Accepts text
        ((row.attempted enabled now).promote result versions now bundle merged changed advisories) result
        versions' bundle' merged' advisories') ↔ Resyncable text row result := by
  obtain ⟨hparse, -, trustedRaw, hraw, hmerged⟩ := (acceptRevocations_iff text).mp h.revocations
  obtain ⟨reread, hreread, -⟩ := parseRevocationBundle_merged text
    (parseRevocationBundle_parsed text hparse).1 trustedRaw
  rw [hmerged] at hreread
  have hvalid : ((row.attempted enabled now).promote result versions now bundle merged changed
      advisories).validateCacheRow text = .ok () ↔ _ :=
    validateCacheRow_ok_iff text (Option.some_ne_none now) rfl rfl rfl rfl rfl rfl hreread
  constructor
  · rintro ⟨versions', bundle', merged', advisories', hagain⟩
    have hversions : versions' = versions := Option.some.inj (hagain.present.symm.trans h.present)
    have hbundle : bundle' = bundle := by
      obtain ⟨hparse', -⟩ := (acceptRevocations_iff text).mp hagain.revocations
      exact Except.ok.inj (hparse'.symm.trans hparse)
    refine ⟨fun versions'' hpresent => ?_, fun bundle'' trustedRaw'' hparse'' hraw'' => ?_,
      fun incoming bundle'' trustedRaw'' merged'' hincoming hparse'' hraw'' hmerged'' => ?_⟩
    · rw [Option.some.inj (hpresent.symm.trans h.present)]
      exact hvalid.mp hagain.valid
    · rw [Except.ok.inj (hparse''.symm.trans hparse), Except.ok.inj (hraw''.symm.trans hraw), hmerged]
      have hrevocations := hagain.revocations
      rw [hbundle] at hrevocations
      exact ((acceptRevocations_promote text h enabled changed now merged').mp hrevocations).1
    · have hadvisories := h.advisories
      rw [hincoming, acceptAdvisories_some] at hadvisories
      obtain ⟨parsed, trustedRaw', mergedAdvisories, hparse', -, hraw', hmerged', haccepted⟩ := hadvisories
      rw [Except.ok.inj (hparse''.symm.trans hparse'), Except.ok.inj (hraw''.symm.trans hraw'),
        hmerged', Except.ok.injEq] at hmerged''
      have hagainAdvisories := hagain.advisories
      rw [hincoming] at hagainAdvisories
      rw [← hmerged'']
      exact ((acceptAdvisories_promote text h enabled changed now hincoming haccepted).mp hagainAdvisories).1
  · intro hresync
    have hhash := hresync.revocations bundle trustedRaw hparse hraw
    rw [hmerged] at hhash
    have hrevocations := (acceptRevocations_promote text h enabled changed now
      (mergeRevocationBundles text (some merged) bundle)).mpr ⟨hhash, rfl⟩
    have hrollback : ((row.attempted enabled now).promote result versions now bundle merged changed
        advisories).detectMetadataRollback versions = none :=
      detectMetadataRollback_same rfl rfl rfl rfl
    have haccepts := fun advisories' hadvisories' => (⟨h.success, h.present,
      hvalid.mpr (hresync.versions versions h.present), hrollback, hrevocations, hadvisories'⟩ :
      Accepts text ((row.attempted enabled now).promote result versions now bundle merged changed
        advisories) result versions bundle (mergeRevocationBundles text (some merged) bundle) advisories')
    cases hincoming : result.advisories with
    | none =>
      refine ⟨_, _, _, none, haccepts none ?_⟩
      rw [hincoming]
      rfl
    | some incoming =>
      have hadvisories := h.advisories
      rw [hincoming, acceptAdvisories_some] at hadvisories
      obtain ⟨parsed, trustedRaw', mergedAdvisories, hparse', -, hraw', hmerged', haccepted⟩ := hadvisories
      obtain ⟨active, -, -, -, htrusted⟩ := activeAdvisories_promote text h hincoming haccepted
      have hagain := (acceptAdvisories_promote text h enabled changed now hincoming haccepted).mpr
        ⟨hresync.advisories incoming parsed trustedRaw' mergedAdvisories hincoming hparse' hraw' hmerged',
          _, by rw [mergeAdvisoryBundles, htrusted]; rfl, rfl⟩
      rw [← hincoming] at hagain
      exact ⟨_, _, _, _, haccepts _ hagain⟩

end

/-- What an accepted second application leaves as it is. -/
theorem sameTrust_of_accepts {row : MarketplaceTrustCache} {result : MarketplaceSyncResult}
    {versions versions' : MarketplaceMetadataVersions} {bundle bundle' : RevocationBundle}
    {merged merged' : Dict} {advisories advisories' : Option AcceptedAdvisories}
    {enabled enabled' changed changed' : Bool} {now now' : Instant}
    (h : Accepts text row result versions bundle merged advisories) (hagain : Accepts text
      ((row.attempted enabled now).promote result versions now bundle merged changed advisories) result
      versions' bundle' merged' advisories') : SameTrust text
      ((row.attempted enabled now).promote result versions now bundle merged changed advisories)
      ((((row.attempted enabled now).promote result versions now bundle merged changed
        advisories).attempted enabled' now').promote result versions' now' bundle' merged' changed' advisories') := by
  obtain ⟨hparse, -, trustedRaw, hraw, hmerged⟩ := (acceptRevocations_iff text).mp h.revocations
  have hversions : versions' = versions := Option.some.inj (hagain.present.symm.trans h.present)
  have hbundle : bundle' = bundle := by
    obtain ⟨hparse', -⟩ := (acceptRevocations_iff text).mp hagain.revocations
    exact Except.ok.inj (hparse'.symm.trans hparse)
  have hparsed := (parseRevocationBundle_parsed text hparse).1
  have hrevocations := hagain.revocations
  rw [hbundle] at hrevocations
  obtain ⟨-, hmerged'⟩ := (acceptRevocations_promote text h enabled changed now merged').mp hrevocations
  have hcached : trustedActive text (some merged') = trustedActive text (some merged) := by
    rw [← hmerged', trustedActive_merged text hparsed, mergedActive_eq, ← hmerged,
      trustedActive_merged text hparsed, mergedActive_eq]
    exact applyAll_again (nodup_keys_trustedActive text trustedRaw) _
  have hadvisories := hagain.advisories
  cases hincoming : result.advisories with
  | none =>
    have hfirst := h.advisories
    rw [hincoming, acceptAdvisories, Except.ok.injEq] at hfirst hadvisories
    rw [← hadvisories, hversions, hbundle]
    exact ⟨rfl, rfl, rfl, rfl, rfl, rfl, hcached, rfl⟩
  | some incoming =>
    rw [hincoming] at hadvisories
    obtain ⟨accepted, haccepted⟩ : ∃ accepted, advisories = some accepted := by
      have hfirst := h.advisories
      rw [hincoming, acceptAdvisories_some] at hfirst
      obtain ⟨parsed, trustedRaw', mergedAdvisories, -, -, -, -, haccepted⟩ := hfirst
      exact ⟨_, haccepted⟩
    obtain ⟨-, mergedAgain, hmergedAgain, hagainAccepted⟩ :=
      (acceptAdvisories_promote text h enabled changed now hincoming haccepted).mp hadvisories
    obtain ⟨active, hkeys, hactive, hbundleParsed, htrusted⟩ := activeAdvisories_promote text h hincoming haccepted
    have hread : trustedAdvisories text (some mergedAgain)
        = trustedAdvisories text (some accepted.merged) := by
      rw [trustedAdvisories_merged text hbundleParsed htrusted hmergedAgain, mergedAdvisories_eq, htrusted]
      exact congrArg Except.ok
        (applyAll_readBack hkeys _ fun k d hmem => rereadDict_rereadDict text (hactive k d hmem))
    rw [hagainAccepted, haccepted, hversions, hbundle]
    exact ⟨rfl, rfl, rfl, rfl, rfl, rfl, hcached, hread⟩

/-- **Applying a sync once more.** After a sync that is accepted, applying the same result once more is accepted as
well, and leaves the versions, the generations and the active revocations and advisories as they are, exactly if the
versions are positive and the merges wrote the bundles as they came. -/
theorem resync_iff (row : MarketplaceTrustCache) (enabled enabled' : Bool)
    (result : MarketplaceSyncResult) (now now' : Instant)
    (h : promotes (row.applySyncResult text enabled result now).2 = true) :
    let row₁ := (row.applySyncResult text enabled result now).1
    promotes (row₁.applySyncResult text enabled' result now').2 = true ∧
        SameTrust text row₁ (row₁.applySyncResult text enabled' result now').1 ↔
      Resyncable text row result := by
  intro row₁
  rcases applySyncResult_step text (Prod.eta (row.applySyncResult text enabled result now)).symm with
    ⟨versions, bundle, merged, advisories, changed, haccepts, hnext, -⟩ | ⟨-, hrejected⟩
  · rw [← accepts_promote_iff text haccepts enabled changed now, ← hnext]
    constructor
    · rintro ⟨hpromotes, -⟩
      rcases applySyncResult_step text (Prod.eta (row₁.applySyncResult text enabled' result now')).symm with
        ⟨versions', bundle', merged', advisories', -, hagain, -, -⟩ | ⟨-, hrejected⟩
      · exact ⟨versions', bundle', merged', advisories', hagain⟩
      · rw [hpromotes] at hrejected
        cases hrejected
    · rintro ⟨versions', bundle', merged', advisories', hagain⟩
      obtain ⟨changed', hrow, hpromotes⟩ := applySyncResult_of_accepts text hagain enabled' now'
      refine ⟨hpromotes, ?_⟩
      show SameTrust text (row.applySyncResult text enabled result now).1
        ((row.applySyncResult text enabled result now).1.applySyncResult text enabled' result now').1
      rw [hrow]
      rw [hnext] at hagain ⊢
      exact sameTrust_of_accepts text haccepts hagain
  · rw [h] at hrejected
    cases hrejected

/-! ### A list that is superseded -/

/-- A successful download of a bundle of revocations, in the form in which lists are written. -/
def revocationResult (generation : ℤ) (entries : List Dict) : MarketplaceSyncResult where
  outcome := .success
  versions := some ⟨1, 1, 1, 1⟩
  revocations := some
    [("bundle", .obj
        [("schema_version", .num (.int 1)), ("generation", .num (.int generation)),
          ("generated_at", .str "2026-01-01")]),
      ("revocations", .arr (entries.map Json.obj))]

/-- A list without entries, on a new row. -/
theorem resync_iff_empty :
    let row₁ := (({} : MarketplaceTrustCache).applySyncResult .ascii true (revocationResult 1 []) 0).1
    promotes (row₁.applySyncResult .ascii true (revocationResult 1 []) 60).2 = true ∧
        SameTrust .ascii row₁ (row₁.applySyncResult .ascii true (revocationResult 1 []) 60).1 ↔
      Resyncable .ascii {} (revocationResult 1 []) :=
  resync_iff .ascii {} true true (revocationResult 1 []) 0 60 (by decide +kernel)

/-- **A second application that is rejected.** A revocation is accepted, and then superseded by the next
generation; the list that is written leaves the superseding entry out, so that applying the same result once more
counts as a mutation of its generation. -/
theorem resync_rejected : let revoked := (({} : MarketplaceTrustCache).applySyncResult .ascii true
      (revocationResult 1 [[("revocation_id", .str "r1"), ("scope", .str "module")]]) 0).1
    let superseding := revocationResult 2
      [[("revocation_id", .str "r2"), ("action", .str "SUPERSEDE"),
        ("supersedes_revocation_id", .str "r1")]]
    promotes (revoked.applySyncResult .ascii true superseding 60).2 = true ∧
      promotes ((revoked.applySyncResult .ascii true superseding 60).1.applySyncResult .ascii true
        superseding 120).2 = false ∧
      ((revoked.applySyncResult .ascii true superseding 60).1.applySyncResult .ascii true
        superseding 120).1.lastError = some "Revocation generation 2 content mutation detected" := by
  decide +kernel

end EnergyCore.Marketplace
