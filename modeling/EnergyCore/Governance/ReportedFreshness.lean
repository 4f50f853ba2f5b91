import EnergyCore.Governance.RevocationReader
import EnergyCore.Marketplace.Resync

/-!
# The freshness that is reported

Freshness is a function of time, but the row keeps the states of its last writer. A sync writes the states of its
own instant, unless it failed on a row without trust; marking the marketplace as offline writes a state that time does
not give.

* `states_trustStep` — what one call leaves in the two states;
* `computeStates_eq_iff` — the states of two instants differ exactly if a limit was passed in between;
* `reportsComputed_iff` — over every history: when the view and the context report the states of their own instant.
-/

namespace EnergyCore.Governance

open JsonValues Marketplace StepRun
open MarketplaceTrustCache

variable (text : PyText)

/-! ### Limits -/

/-- Whether the metadata has expired. -/
def Lapsed (row : MarketplaceTrustCache) (now : Instant) : Prop :=
  ∃ expires, row.metadataExpiresAt = some expires ∧ expires ≤ now

/-- An age that passes a limit. -/
def Passes (limit age₀ age : ℚ) : Prop := age₀ ≤ limit ∧ limit < age

/-- Whether one of the limits that the states depend on is passed between two instants. -/
def LimitPassed (row : MarketplaceTrustCache) (now₀ now : Instant) : Prop :=
  ∃ success, row.lastSuccessAt = some success ∧ ¬ Lapsed row now₀ ∧
    (Lapsed row now ∨
      Passes 3600 (now₀ - row.catalogUpdatedAt.getD success) (now - row.catalogUpdatedAt.getD success) ∨
      Passes 3600 (now₀ - row.revocationUpdatedAt.getD success) (now - row.revocationUpdatedAt.getD success) ∨
      Passes 86400 (now₀ - row.revocationUpdatedAt.getD success)
        (now - row.revocationUpdatedAt.getD success))

theorem lapsed_iff (row : MarketplaceTrustCache) (now : Instant) :
    (row.metadataExpiresAt.any fun expires => decide (now ≥ expires)) = true ↔ Lapsed row now := by
  unfold Lapsed
  cases row.metadataExpiresAt with
  | none => simp
  | some expires => simp

theorem Lapsed.mono {row : MarketplaceTrustCache} {now₀ now : Instant} (hle : now₀ ≤ now)
    (h : Lapsed row now₀) : Lapsed row now := by
  obtain ⟨expires, hexpires, hpassed⟩ := h
  exact ⟨expires, hexpires, le_trans hpassed hle⟩

/-- The state of the catalog for an age. -/
theorem catalogState_eq_iff {age₀ age : ℚ} (hle : age₀ ≤ age) :
    (if age₀ > 3600 then MetadataHealth.stale else .healthy)
        = (if age > 3600 then MetadataHealth.stale else .healthy) ↔ ¬ Passes 3600 age₀ age := by
  unfold Passes
  by_cases h₀ : age₀ > 3600
  · rw [if_pos h₀, if_pos (lt_of_lt_of_le h₀ hle)]
    exact iff_of_true rfl fun h => absurd h.1 (not_le.mpr h₀)
  · rw [if_neg h₀]
    by_cases h : age > 3600
    · rw [if_pos h]
      exact iff_of_false (fun h => by cases h) fun hnot => hnot ⟨not_lt.mp h₀, h⟩
    · rw [if_neg h]
      exact iff_of_true rfl fun hpassed => h hpassed.2

/-- The state of the revocations for an age. -/
theorem revocationState_eq_iff {age₀ age : ℚ} (hle : age₀ ≤ age) :
    (if age₀ > 86400 then RevocationFreshness.expired else if age₀ > 3600 then .stale else .fresh)
        = (if age > 86400 then RevocationFreshness.expired else if age > 3600 then .stale else .fresh) ↔
      ¬ Passes 3600 age₀ age ∧ ¬ Passes 86400 age₀ age := by
  unfold Passes
  by_cases hday₀ : age₀ > 86400
  · rw [if_pos hday₀, if_pos (lt_of_lt_of_le hday₀ hle)]
    exact iff_of_true rfl ⟨fun h => by linarith [h.1], fun h => absurd h.1 (not_le.mpr hday₀)⟩
  · rw [if_neg hday₀]
    by_cases hday : age > 86400
    · rw [if_pos hday]
      refine iff_of_false (fun h => ?_) fun hnot => hnot.2 ⟨not_lt.mp hday₀, hday⟩
      split_ifs at h
    · rw [if_neg hday]
      by_cases hhour₀ : age₀ > 3600
      · rw [if_pos hhour₀, if_pos (lt_of_lt_of_le hhour₀ hle)]
        exact iff_of_true rfl ⟨fun h => absurd h.1 (not_le.mpr hhour₀), fun h => hday h.2⟩
      · rw [if_neg hhour₀]
        by_cases hhour : age > 3600
        · rw [if_pos hhour]
          exact iff_of_false (fun h => by cases h) fun hnot => hnot.1 ⟨not_lt.mp hhour₀, hhour⟩
        · rw [if_neg hhour]
          exact iff_of_true rfl ⟨fun h => hhour h.2, fun h => hday h.2⟩

/-- **Two instants.** The states of a later instant are those of an earlier one exactly if no limit was passed. -/
theorem computeStates_eq_iff (row : MarketplaceTrustCache) {now₀ now : Instant} (hle : now₀ ≤ now) :
    row.computeStates now₀ = row.computeStates now ↔ ¬ LimitPassed row now₀ now := by
  unfold computeStates LimitPassed
  cases row.lastSuccessAt with
  | none => exact iff_of_true rfl fun ⟨success, h, _⟩ => by cases h
  | some success =>
    dsimp only
    by_cases h₀ : Lapsed row now₀
    · rw [if_pos ((lapsed_iff row now₀).mpr h₀), if_pos ((lapsed_iff row now).mpr (h₀.mono hle))]
      exact iff_of_true rfl fun ⟨success, _, h, _⟩ => h h₀
    · rw [if_neg (mt (lapsed_iff row now₀).mp h₀)]
      by_cases h : Lapsed row now
      · rw [if_pos ((lapsed_iff row now).mpr h)]
        refine iff_of_false (fun hsame => ?_) fun hnot => hnot ⟨success, rfl, h₀, .inl h⟩
        have hcatalog := congrArg Prod.fst hsame
        dsimp only at hcatalog
        split_ifs at hcatalog
      · rw [if_neg (mt (lapsed_iff row now).mp h), Prod.mk.injEq, catalogState_eq_iff (by linarith),
          revocationState_eq_iff (by linarith), ← not_or, ← not_or]
        refine not_congr ⟨fun hpassed => ⟨success, rfl, h₀, .inr hpassed⟩, ?_⟩
        rintro ⟨success', hsuccess, -, hlapsed | hpassed⟩
        · exact absurd hlapsed h
        · rw [Option.some.inj hsuccess]
          exact hpassed

/-! ### What a call writes -/

/-- The states that a call writes: those of its instant, or a mark that time does not give. -/
inductive StateWrite where
  | computed (now : Instant)
  | marked
  deriving Repr, DecidableEq

/-- What a call writes into the two states, if it writes them: a call that raises an exception does not. -/
def stateWrite (row : MarketplaceTrustCache) : TrustCall → Option StateWrite
  | .sync enabled result now =>
    match (row.applySyncResult text enabled result now).2 with
    | .error _ => none
    | .ok _ => some
        (if (result.outcome ≠ .success ∨ result.versions = none) ∧
            (row.lastSuccessAt = none ∨ row.validateCacheRow text ≠ .ok ()) then .marked
        else .computed now)
  | .offline enabled message now =>
    match (row.markOffline text enabled message now).2 with
    | .error _ => none
    | .ok () => some .marked

/-- What the states of a row are, after a write. -/
def Written (row : MarketplaceTrustCache) : StateWrite → Prop
  | .computed now => (row.cacheState, row.revocationState) = row.computeStates now
  | .marked => row.cacheState = .offline ∨ row.cacheState = .invalid ∨ row.cacheState = .unavailable

theorem computeStates_congr {row row' : MarketplaceTrustCache} (h : row'.trusted = row.trusted)
    (now : Instant) : row'.computeStates now = row.computeStates now := by
  unfold computeStates
  rw [show row'.lastSuccessAt = row.lastSuccessAt from congrArg TrustedPayload.lastSuccessAt h,
    show row'.metadataExpiresAt = row.metadataExpiresAt from congrArg TrustedPayload.metadataExpiresAt h,
    show row'.catalogUpdatedAt = row.catalogUpdatedAt from congrArg TrustedPayload.catalogUpdatedAt h,
    show row'.revocationUpdatedAt = row.revocationUpdatedAt from congrArg TrustedPayload.revocationUpdatedAt h]

theorem written_withStates (row : MarketplaceTrustCache) (now : Instant) :
    Written (row.withStates now) (.computed now) := rfl

/-- The states of the metadata that time gives. -/
theorem computeStates_health (row : MarketplaceTrustCache) (now : Instant) :
    (row.computeStates now).1 = .uninitialized ∨ (row.computeStates now).1 = .expired ∨
      (row.computeStates now).1 = .stale ∨ (row.computeStates now).1 = .healthy := by
  unfold computeStates
  split
  · exact .inl rfl
  · split_ifs
    · exact .inr (.inl rfl)
    · dsimp only
      split_ifs
      · exact .inr (.inr (.inl rfl))
      · exact .inr (.inr (.inr rfl))

/-- Marks are states that are never computed. -/
theorem not_computed_of_marked {row : MarketplaceTrustCache} (h : Written row .marked) (now : Instant) :
    (row.cacheState, row.revocationState) ≠ row.computeStates now := by
  intro hsame
  have hhealth : row.cacheState = (row.computeStates now).1 := congrArg Prod.fst hsame
  have hcomputed := computeStates_health row now
  rw [← hhealth] at hcomputed
  rcases h with h | h | h
  all_goals
    rw [h] at hcomputed
    simp at hcomputed

/-- What a failed sync writes. -/
theorem written_failed (row : MarketplaceTrustCache) (now : Instant) (message : String) :
    (∃ applied, (row.failed text now message).2 = .ok applied ∧ Written (row.failed text now message).1
        (if row.lastSuccessAt = none ∨ row.validateCacheRow text ≠ .ok () then .marked else .computed now)) ∨
    ∃ exception, (row.failed text now message).2 = .error exception ∧
      (row.failed text now message).1.cacheState = row.cacheState ∧
      (row.failed text now message).1.revocationState = row.revocationState := by
  have hsame : MarketplaceTrustCache.validateCacheRow text
      { row with
        syncFailed := true
        lastError := some message } = row.validateCacheRow text := rfl
  unfold failed
  by_cases hfirst : row.lastSuccessAt = none
  · dsimp only
    rw [if_pos hfirst, if_pos (.inl hfirst)]
    exact .inl ⟨_, rfl, .inr (.inr rfl)⟩
  · dsimp only
    rw [if_neg hfirst, hsame]
    cases hvalid : row.validateCacheRow text with
    | ok u =>
      rw [if_neg (fun h => h.elim hfirst fun hne => hne rfl)]
      exact .inl ⟨_, rfl, written_withStates _ now⟩
    | error exception =>
      rw [if_pos (.inr (fun h => by cases h))]
      cases exception with
      | cacheValidation error => exact .inl ⟨_, rfl, .inr (.inl rfl)⟩
      | revocationPolicy error => exact .inr ⟨_, rfl, rfl, rfl⟩
      | jsonDecodeError => exact .inr ⟨_, rfl, rfl, rfl⟩
      | attributeError => exact .inr ⟨_, rfl, rfl, rfl⟩
      | typeError => exact .inr ⟨_, rfl, rfl, rfl⟩

/-- What a sync writes: the states of its instant, unless it raises an exception or failed. -/
theorem written_applySyncResult (row : MarketplaceTrustCache) (enabled : Bool)
    {result : MarketplaceSyncResult} (now : Instant) {versions : MarketplaceMetadataVersions}
    (hsuccess : result.outcome = .success) (hversions : result.versions = some versions)
    {next : MarketplaceTrustCache} {outcome : Except Raised ApplySyncResult}
    (h : row.applySyncResult text enabled result now = (next, outcome)) :
    (∃ applied, outcome = .ok applied ∧ Written next (.computed now)) ∨
      ∃ exception, outcome = .error exception ∧ next.cacheState = row.cacheState ∧
        next.revocationState = row.revocationState := by
  unfold applySyncResult at h
  rw [hsuccess, hversions] at h
  dsimp only at h
  split at h
  · obtain ⟨rfl, rfl⟩ := h
    exact .inr ⟨_, rfl, rfl, rfl⟩
  · split at h
    · obtain ⟨rfl, rfl⟩ := h
      exact .inl ⟨_, rfl, written_withStates _ now⟩
    · split at h
      · obtain ⟨rfl, rfl⟩ := h
        exact .inr ⟨_, rfl, rfl, rfl⟩
      · obtain ⟨rfl, rfl⟩ := h
        exact .inl ⟨_, rfl, written_withStates _ now⟩
      · split at h
        · obtain ⟨rfl, rfl⟩ := h
          exact .inr ⟨_, rfl, rfl, rfl⟩
        · obtain ⟨rfl, rfl⟩ := h
          exact .inl ⟨_, rfl, written_withStates _ now⟩
        · split at h
          · obtain ⟨rfl, rfl⟩ := h
            exact .inr ⟨_, rfl, rfl, rfl⟩
          · obtain ⟨rfl, rfl⟩ := h
            exact .inl ⟨_, rfl, written_withStates _ now⟩

/-- What marking as offline writes. -/
theorem written_markOffline (row : MarketplaceTrustCache) (enabled : Bool) (message : String)
    (now : Instant) {next : MarketplaceTrustCache} {outcome : Except Raised Unit}
    (h : row.markOffline text enabled message now = (next, outcome)) : (outcome = .ok () ∧ Written next .marked) ∨
      ∃ exception, outcome = .error exception ∧ next.cacheState = row.cacheState ∧
        next.revocationState = row.revocationState := by
  unfold markOffline at h
  dsimp only at h
  split at h
  · obtain ⟨rfl, rfl⟩ := h
    exact .inl ⟨rfl, .inr (.inl rfl)⟩
  · obtain ⟨rfl, rfl⟩ := h
    exact .inr ⟨_, rfl, rfl, rfl⟩
  · obtain ⟨rfl, rfl⟩ := h
    exact .inl ⟨rfl, .inl rfl⟩

/-- **One call.** It writes the states it is said to write, or leaves the two states and the trusted payload. -/
theorem states_trustStep (row : MarketplaceTrustCache) (call : TrustCall) :
    (∃ write, stateWrite text row call = some write ∧ Written (trustStep text row call) write) ∨
      (stateWrite text row call = none ∧ (trustStep text row call).cacheState = row.cacheState ∧
        (trustStep text row call).revocationState = row.revocationState ∧
        (trustStep text row call).trusted = row.trusted) := by
  cases call with
  | sync enabled result now =>
    unfold stateWrite trustStep
    dsimp only
    by_cases hresult : result.outcome ≠ .success ∨ result.versions = none
    · have hfailed := applySyncResult_eq_failed text row enabled hresult now
      have htrusted := trusted_failed text (row.attempted enabled now) now result.message
      rw [hfailed]
      rcases written_failed text (row.attempted enabled now) now result.message with
        ⟨applied, hok, hwritten⟩ | ⟨exception, herror, hhealth, hfreshness⟩
      · rw [hok]
        refine .inl ⟨_, rfl, ?_⟩
        have hcases : ((result.outcome ≠ .success ∨ result.versions = none) ∧
            (row.lastSuccessAt = none ∨ row.validateCacheRow text ≠ .ok ())) ↔
            row.lastSuccessAt = none ∨ row.validateCacheRow text ≠ .ok () := and_iff_right hresult
        rw [if_congr hcases rfl rfl]
        exact hwritten
      · rw [herror]
        exact .inr ⟨rfl, hhealth, hfreshness, htrusted⟩
    · obtain ⟨hsuccess, hversions⟩ := not_or.mp hresult
      obtain ⟨versions, hversions⟩ := Option.ne_none_iff_exists'.mp hversions
      rcases written_applySyncResult text row enabled now (not_not.mp hsuccess) hversions
        (Prod.eta (row.applySyncResult text enabled result now)).symm with
        ⟨applied, hok, hwritten⟩ | ⟨exception, herror, hhealth, hfreshness⟩
      · rw [hok]
        refine .inl ⟨_, rfl, ?_⟩
        rw [if_neg (fun h => hresult h.1)]
        exact hwritten
      · rw [herror]
        refine .inr ⟨rfl, hhealth, hfreshness, ?_⟩
        rcases applySyncResult_step text (Prod.eta (row.applySyncResult text enabled result now)).symm with
          ⟨_, _, _, _, _, -, -, hpromotes⟩ | ⟨htrusted, -⟩
        · rw [herror] at hpromotes
          cases hpromotes
        · exact htrusted
  | offline enabled message now =>
    unfold stateWrite trustStep
    dsimp only
    rcases written_markOffline text row enabled message now
      (Prod.eta (row.markOffline text enabled message now)).symm with
      ⟨hok, hwritten⟩ | ⟨exception, herror, hhealth, hfreshness⟩
    · rw [hok]
      exact .inl ⟨_, rfl, hwritten⟩
    · rw [herror]
      exact .inr ⟨rfl, hhealth, hfreshness, trusted_markOffline text row enabled message now⟩

/-! ### Histories -/

/-- A row, with the last write of its states. -/
def writeStep (s : MarketplaceTrustCache × StateWrite) (call : TrustCall) : MarketplaceTrustCache × StateWrite :=
  (trustStep text s.1 call, (stateWrite text s.1 call).getD s.2)

/-- The row that a history ends in, and the last write of its states; a new row has those of its creation. -/
def history (created : Instant) (calls : List TrustCall) : MarketplaceTrustCache × StateWrite :=
  run (writeStep text) ({}, .computed created) calls

/-- The instant of a call. -/
def calledAt : TrustCall → Instant
  | .sync _ _ now => now
  | .offline _ _ now => now

/-- A list of revocations as merges write it. -/
def MergedList (row : MarketplaceTrustCache) : Prop :=
  row.revocationsJson = none ∨ ∃ trustedRaw bundle,
    row.revocationsJson = some (.ofDict (mergeRevocationBundles text trustedRaw bundle))

/-- The row of a history is the row of the run. -/
theorem history_fst (created : Instant) (calls : List TrustCall) :
    (history text created calls).1 = run (trustStep text) {} calls := by
  have hall : AllSteps (writeStep text) (fun _ _ => True) ({}, .computed created) calls :=
    AllSteps.of_forall_mem (P := fun _ => True) fun _ _ => trivial
  have hsimulates := @run_simulates _ _ _ _ (writeStep text) (trustStep text) Prod.fst id (fun _ => True) (fun _ _ => True)
    (fun _ _ _ _ => trivial) (fun _ _ _ _ => rfl) _ _ trivial hall
  rw [List.map_id] at hsimulates
  exact hsimulates

/-- Only the states of its own instant are written by a call. -/
theorem calledAt_of_computed {row : MarketplaceTrustCache} {call : TrustCall} {now : Instant}
    (h : stateWrite text row call = some (.computed now)) : now = calledAt call := by
  cases call with
  | sync enabled result now' =>
    unfold stateWrite at h
    dsimp only at h
    split at h
    · cases h
    · rw [Option.some.injEq] at h
      split_ifs at h
      cases h
      rfl
  | offline enabled message now' =>
    unfold stateWrite at h
    dsimp only at h
    split at h
    · cases h
    · cases h

theorem mergedList_of_trusted {row row' : MarketplaceTrustCache} (h : row'.trusted = row.trusted)
    (hmerged : MergedList text row) : MergedList text row' := by
  unfold MergedList at hmerged ⊢
  rw [show row'.revocationsJson = row.revocationsJson from congrArg TrustedPayload.revocationsJson h]
  exact hmerged

/-- What the row caches was written by a merge. -/
theorem mergedList_trustStep {row : MarketplaceTrustCache} (h : MergedList text row) (call : TrustCall) :
    MergedList text (trustStep text row call) := by
  cases call with
  | sync enabled result now =>
    rcases applySyncResult_step text (Prod.eta (row.applySyncResult text enabled result now)).symm with
      ⟨versions, bundle, merged, advisories, changed, haccepts, hnext, -⟩ | ⟨htrusted, -⟩
    · obtain ⟨-, -, trustedRaw, -, hmerged⟩ := (acceptRevocations_iff text).mp haccepts.revocations
      show MergedList text (row.applySyncResult text enabled result now).1
      rw [hnext, ← hmerged]
      exact .inr ⟨trustedRaw, bundle, rfl⟩
    · exact mergedList_of_trusted text htrusted h
  | offline enabled message now =>
    exact mergedList_of_trusted text (trusted_markOffline text row enabled message now) h

theorem readable_of_mergedList {row : MarketplaceTrustCache} (h : MergedList text row) :
    ReadableRevocations row.revocationsJson := by
  rcases h with h | ⟨trustedRaw, bundle, h⟩
  · rw [h]
    trivial
  · rw [h]
    exact fun _ hnone => by cases hnone

/-- What a history keeps: the states are as they were written, at an instant that has passed. -/
structure Kept (now : Instant) (s : MarketplaceTrustCache × StateWrite) : Prop where
  written : Written s.1 s.2
  passed : ∀ now₀, s.2 = .computed now₀ → now₀ ≤ now
  merged : MergedList text s.1

theorem kept_writeStep {now : Instant} {s : MarketplaceTrustCache × StateWrite} {call : TrustCall}
    (h : Kept text now s) (hcall : calledAt call ≤ now) : Kept text now (writeStep text s call) := by
  obtain ⟨row, write⟩ := s
  have hmerged : MergedList text (trustStep text row call) := mergedList_trustStep text h.merged call
  rcases states_trustStep text row call with
    ⟨write', hwrite, hwritten⟩ | ⟨hwrite, hhealth, hfreshness, htrusted⟩
  · have hstep : writeStep text (row, write) call = (trustStep text row call, write') := by
      unfold writeStep
      rw [hwrite]
      rfl
    rw [hstep]
    refine ⟨hwritten, fun now₀ hcomputed => ?_, hmerged⟩
    have hcomputed : write' = .computed now₀ := hcomputed
    rw [hcomputed] at hwrite
    rw [calledAt_of_computed text hwrite]
    exact hcall
  · have hstep : writeStep text (row, write) call = (trustStep text row call, write) := by
      unfold writeStep
      rw [hwrite]
      rfl
    rw [hstep]
    refine ⟨?_, h.passed, hmerged⟩
    have hwritten : Written row write := h.written
    cases write with
    | computed now₀ =>
      show (_, _) = _
      rw [hhealth, hfreshness, computeStates_congr htrusted]
      exact hwritten
    | marked =>
      show _ ∨ _ ∨ _
      rw [hhealth]
      exact hwritten

theorem kept_history {now created : Instant} (hcreated : created ≤ now) {calls : List TrustCall}
    (hcalls : ∀ call ∈ calls, calledAt call ≤ now) : Kept text now (history text created calls) := by
  have hnew : Kept text now ({}, .computed created) := by
    refine ⟨rfl, fun now₀ hcomputed => ?_, .inl rfl⟩
    rw [← StateWrite.computed.inj hcomputed]
    exact hcreated
  exact AllSteps.preserves (I := Kept text now) (fun s call h hcall => kept_writeStep text h hcall) hnew
    (AllSteps.of_forall_mem hcalls)

/-! ### What is reported -/

/-- A row of which the view, and the context of the policy engine, report the states of their own instant. -/
structure ReportsComputed (row : MarketplaceTrustCache) (enabled : Bool) (now : Instant) : Prop where
  view : ∃ view, row.buildStatusView text enabled now = .ok view ∧
    (view.metadataHealth, view.revocationFreshness) = row.computeStates now
  context : ∃ context, loadContext text row enabled now = .ok context ∧
    context.metadataHealth = (row.computeStates now).1.value ∧
    context.freshness = (row.computeStates now).2.value

/-- A row whose revocations can be read reports the states of an instant exactly if it is valid and stores them. -/
theorem reportsComputed_iff_stored {row : MarketplaceTrustCache}
    (hreadable : ReadableRevocations row.revocationsJson) (enabled : Bool) (now : Instant) :
    ReportsComputed text row enabled now ↔ enabled = true ∧ row.validateCacheRow text = .ok () ∧
        (row.cacheState, row.revocationState) = row.computeStates now := by
  have hmarks : ∀ health, health = .disabled ∨ health = .invalid →
      (health, RevocationFreshness.unavailable) ≠ row.computeStates now := by
    intro health hmark hsame
    have hcomputed := computeStates_health row now
    rw [← hsame] at hcomputed
    rcases hmark with rfl | rfl
    all_goals simp at hcomputed
  constructor
  · intro h
    obtain ⟨view, hview, hstates⟩ := h.view
    rcases (row.buildStatusView_ok_iff text enabled now view).mp hview with
      ⟨-, hdisabled⟩ | ⟨-, message, -, hinvalid⟩ | ⟨henabled, hvalid, hstored⟩
    · rw [hdisabled] at hstates
      exact absurd hstates (hmarks _ (.inl rfl))
    · rw [hinvalid] at hstates
      exact absurd hstates (hmarks _ (.inr rfl))
    · rw [hstored] at hstates
      exact ⟨henabled, hvalid, hstates⟩
  · rintro ⟨henabled, hvalid, hstates⟩
    have hview : row.buildStatusView text enabled now = .ok (row.storedView true now) :=
      (row.buildStatusView_ok_iff text enabled now _).mpr (.inr (.inr ⟨henabled, hvalid, rfl⟩))
    obtain ⟨raw, matched, hraw, hmatched⟩ := (parseMatches_ok_iff text row).mpr hreadable
    have hhealth : row.cacheState = (row.computeStates now).1 := congrArg Prod.fst hstates
    have hfreshness : row.revocationState = (row.computeStates now).2 := congrArg Prod.snd hstates
    refine ⟨⟨_, hview, hstates⟩, _, (loadContext_ok_iff text row enabled now _).mpr
      ⟨_, raw, matched, hview, hraw, hmatched, rfl⟩, ?_, ?_⟩
    · exact congrArg MetadataHealth.value hhealth
    · exact congrArg RevocationFreshness.value hfreshness

/-- **When freshness is reported as it is.** For every history of syncs and offline marks and every later instant:
the status view, and the context that the policy engine decides on, report the states of that instant exactly if the
marketplace is switched on, the row is valid, the last call that wrote its states computed them, and no limit was
passed since. -/
theorem reportsComputed_iff (calls : List TrustCall) (created now : Instant) (enabled : Bool)
    (hcreated : created ≤ now) (hcalls : ∀ call ∈ calls, calledAt call ≤ now) :
    ReportsComputed text (run (trustStep text) {} calls) enabled now ↔
      enabled = true ∧ (run (trustStep text) {} calls).validateCacheRow text = .ok () ∧
        ∃ now₀, (history text created calls).2 = .computed now₀ ∧
          ¬ LimitPassed (run (trustStep text) {} calls) now₀ now := by
  have hkept := kept_history text hcreated hcalls
  have hwritten := hkept.written
  have hmerged := hkept.merged
  rw [history_fst] at hwritten hmerged
  rw [reportsComputed_iff_stored text (readable_of_mergedList text hmerged)]
  refine and_congr_right fun _ => and_congr_right fun _ => ?_
  cases hwrite : (history text created calls).2 with
  | computed now₀ =>
    rw [hwrite] at hwritten
    have hwritten : _ = (run (trustStep text) {} calls).computeStates now₀ := hwritten
    rw [hwritten, computeStates_eq_iff _ (hkept.passed now₀ hwrite)]
    constructor
    · intro h
      exact ⟨now₀, rfl, h⟩
    · rintro ⟨now₁, hsame, h⟩
      rw [StateWrite.computed.inj hsame]
      exact h
  | marked =>
    rw [hwrite] at hwritten
    exact iff_of_false (not_computed_of_marked hwritten now) fun ⟨now₀, h, _⟩ => by cases h

/-- A row that was synced within the hour. -/
theorem reportsComputed_iff_recent :
    ReportsComputed .ascii (run (trustStep .ascii) {} [.sync true (revocationResult 1 []) 0]) true 1800 ↔ true = true ∧
        (run (trustStep .ascii) {} [.sync true (revocationResult 1 []) 0]).validateCacheRow .ascii = .ok () ∧
        ∃ now₀, (history .ascii 0 [.sync true (revocationResult 1 []) 0]).2 = .computed now₀ ∧
          ¬ LimitPassed (run (trustStep .ascii) {} [.sync true (revocationResult 1 []) 0]) now₀ 1800 :=
  reportsComputed_iff .ascii [.sync true (revocationResult 1 []) 0] 0 1800 true (by norm_num)
    (fun call hmem => by
      rw [List.mem_singleton.mp hmem]
      show (0 : ℚ) ≤ 1800
      norm_num)

/-- **A day without a sync.** The view still reports healthy metadata and fresh revocations. -/
theorem unsynced_fresh : let row := run (trustStep .ascii) {} [.sync true (revocationResult 1 []) 0]
    ¬ ReportsComputed .ascii row true 100000 ∧
      (row.buildStatusView .ascii true 100000).map (fun view =>
        (view.metadataHealth, view.revocationFreshness)) = .ok (.healthy, .fresh) ∧
      row.computeStates 100000 = (.stale, .expired) := by
  intro row
  have hview : (row.buildStatusView .ascii true 100000).map (fun view =>
      (view.metadataHealth, view.revocationFreshness)) = .ok (.healthy, .fresh) := by decide +kernel
  have hcomputed : row.computeStates 100000 = (.stale, .expired) := by decide +kernel
  refine ⟨fun h => ?_, hview, hcomputed⟩
  obtain ⟨view, hok, hstates⟩ := h.view
  rw [hok] at hview
  have hreported : (view.metadataHealth, view.revocationFreshness) = (.healthy, .fresh) := Except.ok.inj hview
  rw [hstates, hcomputed] at hreported
  cases hreported

end EnergyCore.Governance
