import EnergyCore.Marketplace.Resync

/-!
# The freshness of what an accepted sync writes

The age of the revocations is counted from the last sync that changed them, not from the last sync that confirmed
them: a feed that stays as it is grows old however often it is downloaded.

* `applySyncResult_promoted` — what a promotion writes, with the comparison that moves the timestamp;
* `promoted_fresh_iff` — when the revocations are fresh after an accepted sync.
-/

namespace EnergyCore.Marketplace

open JsonValues
open MarketplaceTrustCache

variable (text : PyText)

/-- Whether the list that a result is merged into differs from the list that the row caches. -/
def BringsChange (row : MarketplaceTrustCache) (result : MarketplaceSyncResult) : Prop :=
  ∃ bundle trustedRaw,
    parseRevocationBundle text (some (result.revocations.getD [])) = .ok bundle ∧
    row.parseRevocations = .ok trustedRaw ∧
    revocationsChanged trustedRaw (some (mergeRevocationBundles text trustedRaw bundle)) = true

/-- What a sync that is accepted writes, in terms of what the row caches. -/
theorem applySyncResult_promoted {row : MarketplaceTrustCache} {enabled : Bool}
    {result : MarketplaceSyncResult} {now : Instant}
    (h : promotes (row.applySyncResult text enabled result now).2 = true) : ∃ versions bundle trustedRaw advisories,
      parseRevocationBundle text (some (result.revocations.getD [])) = .ok bundle ∧
      row.parseRevocations = .ok trustedRaw ∧ (row.applySyncResult text enabled result now).1
        = (row.attempted enabled now).promote result versions now bundle
          (mergeRevocationBundles text trustedRaw bundle)
          (revocationsChanged trustedRaw (some (mergeRevocationBundles text trustedRaw bundle))) advisories := by
  rcases applySyncResult_step text (Prod.eta (row.applySyncResult text enabled result now)).symm with
    ⟨versions, bundle, merged, advisories, changed, haccepts, -, -⟩ | ⟨-, hrejected⟩
  · obtain ⟨hparse, -, trustedRaw, hraw, hmerged⟩ := (acceptRevocations_iff text).mp haccepts.revocations
    have hnext := (applySyncResult_eq_promote text haccepts hraw enabled now).1
    rw [← hmerged] at hnext
    exact ⟨versions, bundle, trustedRaw, advisories, hparse, hraw, hnext⟩
  · rw [h] at hrejected
    cases hrejected

/-- The state of the revocations in a row that a sync has just written. -/
theorem revocationState_promote (row : MarketplaceTrustCache) {result : MarketplaceSyncResult}
    (versions : MarketplaceMetadataVersions) {now : Instant} (bundle : RevocationBundle) (merged : Dict)
    (changed : Bool) (advisories : Option AcceptedAdvisories)
    (hexpires : ∀ expires, result.metadataExpiresAt = some expires → now < expires) :
    (row.promote result versions now bundle merged changed advisories).revocationState = .fresh ↔
      changed = true ∨ ∀ updated, row.revocationUpdatedAt = some updated → now - updated ≤ 3600 := by
  have hunexpired : (result.metadataExpiresAt.any fun expires => decide (now ≥ expires)) = false := by
    cases hresult : result.metadataExpiresAt with
    | none => rfl
    | some expires => exact decide_eq_false (not_le.mpr (hexpires expires hresult))
  have hstate : (row.promote result versions now bundle merged changed advisories).revocationState
      = if now - (if changed then some now else row.revocationUpdatedAt.or (some now)).getD now > 86400
          then .expired
        else if now - (if changed then some now else row.revocationUpdatedAt.or (some now)).getD now > 3600
          then .stale
        else .fresh := by
    show (if result.metadataExpiresAt.any (fun expires => decide (now ≥ expires)) then
      (MetadataHealth.expired, RevocationFreshness.expired) else _).2 = _
    rw [hunexpired]
    rfl
  rw [hstate]
  cases changed with
  | true =>
    rw [if_pos rfl, Option.getD_some, sub_self, if_neg (by norm_num), if_neg (by norm_num)]
    exact iff_of_true rfl (.inl rfl)
  | false =>
    rw [if_neg Bool.false_ne_true]
    cases hupdated : row.revocationUpdatedAt with
    | none =>
      rw [Option.none_or, Option.getD_some, sub_self, if_neg (by norm_num), if_neg (by norm_num)]
      exact iff_of_true rfl (.inr fun updated h => by cases h)
    | some updated =>
      rw [Option.some_or, Option.getD_some]
      constructor
      · intro hfresh
        refine .inr fun updated' hsame => ?_
        rw [← Option.some.inj hsame]
        by_contra hlate
        rw [if_pos (not_le.mp hlate)] at hfresh
        split_ifs at hfresh
      · rintro (hchanged | hrecent)
        · cases hchanged
        · have hrecent := hrecent updated rfl
          rw [if_neg (by linarith), if_neg (not_lt.mpr hrecent)]

/-- **When an accepted sync renews trust.** After a sync that is promoted, with metadata that is not expired, the
revocations are fresh exactly if the merged list differs from the cached one, or the cached one was written without
a timestamp or within the last hour. -/
theorem promoted_fresh_iff (row : MarketplaceTrustCache) (enabled : Bool)
    (result : MarketplaceSyncResult) (now : Instant)
    (hpromotes : promotes (row.applySyncResult text enabled result now).2 = true)
    (hexpires : ∀ expires, result.metadataExpiresAt = some expires → now < expires) :
    (row.applySyncResult text enabled result now).1.revocationState = .fresh ↔ BringsChange text row result ∨
        ∀ updated, row.revocationUpdatedAt = some updated → now - updated ≤ 3600 := by
  obtain ⟨versions, bundle, trustedRaw, advisories, hparse, hraw, hnext⟩ :=
    applySyncResult_promoted text hpromotes
  have hchange : BringsChange text row result ↔
      revocationsChanged trustedRaw (some (mergeRevocationBundles text trustedRaw bundle)) = true := by
    constructor
    · rintro ⟨bundle', trustedRaw', hparse', hraw', hchanged⟩
      rw [Except.ok.inj (hparse.symm.trans hparse'), Except.ok.inj (hraw.symm.trans hraw')]
      exact hchanged
    · intro hchanged
      exact ⟨bundle, trustedRaw, hparse, hraw, hchanged⟩
  rw [hnext, hchange]
  exact revocationState_promote (row.attempted enabled now) versions bundle _ _ advisories hexpires

/-- The first sync of a new row. -/
theorem promoted_fresh_iff_first :
    (({} : MarketplaceTrustCache).applySyncResult .ascii true (revocationResult 1 []) 0).1.revocationState
        = .fresh ↔ BringsChange .ascii {} (revocationResult 1 []) ∨
        ∀ updated, ({} : MarketplaceTrustCache).revocationUpdatedAt = some updated → (0 : Instant) - updated ≤ 3600 :=
  promoted_fresh_iff .ascii {} true (revocationResult 1 []) 0 (by decide +kernel)
    (fun expires h => by cases h)

/-- **A feed that is confirmed two hours later.** The second sync is accepted, its metadata does not expire, and
the revocations are stale. -/
theorem confirmed_stale :
    let confirmed := ({} : MarketplaceTrustCache).applySyncResult .ascii true (revocationResult 1 []) 0
    let again := confirmed.1.applySyncResult .ascii true (revocationResult 1 []) 7200
    promotes confirmed.2 = true ∧ promotes again.2 = true ∧ again.1.revocationState = .stale := by
  decide +kernel

end EnergyCore.Marketplace
