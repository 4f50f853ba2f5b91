import EnergyCore.Governance.PolicyEngine
import EnergyCore.Marketplace.StatusView

/-!
# The revocation reader

The context that the policy engine decides on: the states of the status view, and the revocations of the cached list,
which is read once more and by other rules than a bundle is parsed by.

* `parseMatches_ok_iff` — the values that the reader reads revocations of;
* `evaluate_of_untrusted` — a context with invalid metadata is denied everything;
* `reported_iff` — the rows whose corruption is reported, and denied, by everything that reads them.
-/

namespace EnergyCore.Governance

open JsonValues Marketplace

variable (text : PyText)

/-! ### Reading the revocations -/

/-- A field that is compared with a text; other values are equal to none. -/
def textField : Json → Option String
  | .str s => some s
  | _ => none

/-- One entry: a dictionary that revokes something is a match. -/
def parseMatch : Json → Option RevocationMatch
  | .obj entry =>
    if text.upper (text.str (getItemOr entry "action" (.str "REVOKE"))) ≠ "REVOKE" then none
    else some
      { publisherId := textField (getItem entry "publisher_id")
        moduleId := textField (getItem entry "module_id") }
  | _ => none

/-- `_parse_matches`; a value that is no list, text or dictionary is not iterable. -/
def parseMatches (raw : Option Dict) : Except Raised (List RevocationMatch) :=
  match raw with
  | none => .ok []
  | some raw =>
    match ((getItem raw "revocations").orElse (.arr [])).iterate with
    | none => .error .typeError
    | some entries => .ok (entries.filterMap (parseMatch text))

/-- `load_context`. -/
def loadContext (row : MarketplaceTrustCache) (enabled : Bool) (now : Instant) :
    Except Raised RevocationContext := do
  let view ← row.buildStatusView text enabled now
  let raw ← row.parseRevocations
  let matched ← parseMatches text raw
  return {
    freshness := view.revocationFreshness.value
    metadataHealth := view.metadataHealth.value
    revocations := matched }

theorem loadContext_ok_iff (row : MarketplaceTrustCache) (enabled : Bool) (now : Instant)
    (context : RevocationContext) :
    loadContext text row enabled now = .ok context ↔
      ∃ view raw matched, row.buildStatusView text enabled now = .ok view ∧ row.parseRevocations = .ok raw ∧
        parseMatches text raw = .ok matched ∧
        context = { freshness := view.revocationFreshness.value
                    metadataHealth := view.metadataHealth.value
                    revocations := matched } := by
  unfold loadContext
  cases hview : row.buildStatusView text enabled now with
  | error exception => simp [bind, Except.bind]
  | ok view =>
    cases hraw : row.parseRevocations with
    | error exception => simp [bind, Except.bind]
    | ok raw =>
      cases hmatched : parseMatches text raw with
      | error exception => simp [bind, Except.bind, hmatched]
      | ok matched => simp [bind, Except.bind, pure, Except.pure, hmatched, eq_comm]

/-- A column that the reader reads: a dictionary, with revocations that can be iterated over if there are any. -/
def ReadableRevocations : Option JsonText → Prop
  | none => True
  | some .corrupt => False
  | some (.parsed .null) => True
  | some (.parsed (.obj raw)) =>
    (getItem raw "revocations").truthy = true → (getItem raw "revocations").iterate ≠ none
  | some (.parsed _) => False

/-- A value, or an empty list in the place of one that is false, cannot be iterated over. -/
theorem iterate_orElse_eq_none (value : Json) :
    (value.orElse (.arr [])).iterate = none ↔ value.truthy = true ∧ value.iterate = none := by
  unfold Json.orElse
  cases htruthy : value.truthy with
  | false =>
    rw [if_neg Bool.false_ne_true]
    exact iff_of_false (fun h => by cases h) (fun h => by cases h.1)
  | true =>
    rw [if_pos rfl]
    exact (and_iff_right rfl).symm

/-- **The columns that are read.** -/
theorem parseMatches_ok_iff (row : MarketplaceTrustCache) :
    (∃ raw matched, row.parseRevocations = .ok raw ∧ parseMatches text raw = .ok matched) ↔
      ReadableRevocations row.revocationsJson := by
  unfold MarketplaceTrustCache.parseRevocations
  cases row.revocationsJson with
  | none => exact iff_of_true ⟨none, [], rfl, rfl⟩ trivial
  | some column =>
    cases column with
    | corrupt => exact iff_of_false (fun ⟨raw, matched, h, _⟩ => by cases h) id
    | parsed value =>
      cases value with
      | null => exact iff_of_true ⟨none, [], rfl, rfl⟩ trivial
      | obj raw =>
        have hmatches : (∃ matched, parseMatches text (some raw) = .ok matched) ↔
            ((getItem raw "revocations").orElse (.arr [])).iterate ≠ none := by
          unfold parseMatches
          cases hiterate : ((getItem raw "revocations").orElse (.arr [])).iterate with
          | none => simp [hiterate]
          | some entries => simp [hiterate]
        have hreadable : ReadableRevocations (some (.parsed (.obj raw))) ↔
            ((getItem raw "revocations").orElse (.arr [])).iterate ≠ none := by
          rw [ne_eq, iterate_orElse_eq_none, not_and]
          rfl
        rw [hreadable, ← hmatches]
        constructor
        · rintro ⟨raw', matched, hraw, hmatched⟩
          cases hraw
          exact ⟨matched, hmatched⟩
        · rintro ⟨matched, hmatched⟩
          exact ⟨some raw, matched, rfl, hmatched⟩
      | num _ | float _ | str _ | arr _ =>
        exact iff_of_false (fun ⟨raw, matched, h, _⟩ => by cases h) id

/-! ### Contexts without trust -/

/-- **Invalid metadata denies everything**, whatever the policy, the publisher and the action are. -/
theorem evaluate_of_untrusted {context : RevocationContext} (h : context.metadataHealth = "invalid")
    (lower : String → String) (policy : InstallationPolicySnapshot)
    (publisher : Option PublisherSnapshot) (request : PolicyEvaluationInput)
    (henabled : request.marketplaceMetadataEnabled = true) :
    (evaluate lower policy publisher (some context) request).decision = .deny := by
  unfold evaluate
  cases publisher with
  | none => rfl
  | some publisher =>
    dsimp only
    split_ifs with howner
    · rfl
    · have htrust : ∀ controlCapable, revocationDecision publisher request policy controlCapable (some context)
            = some (denied publisher request policy controlCapable .revocationStateUntrusted
              "Revocation metadata is invalid or unavailable.") := by
        intro controlCapable
        unfold revocationDecision
        dsimp only
        rw [if_pos henabled]
        unfold revocationTrustDecision
        rw [if_neg (not_not.mpr (mem_packageGovernanceActions request.action)), if_pos (.inl h)]
      rw [htrust]
      rfl

/-! ### Corrupt rows -/

/-- A row whose corruption is reported: the view, marking it as offline and a failed sync return and find it invalid,
and the context that is loaded of it is denied every action. -/
structure Reported (row : MarketplaceTrustCache) (enabled : Bool) : Prop where
  view : ∀ now, ∃ view, row.buildStatusView text enabled now = .ok view ∧ view.metadataHealth = .invalid
  offline : ∀ message now, (row.markOffline text enabled message now).2 = .ok () ∧
    (row.markOffline text enabled message now).1.cacheState = .invalid
  failedSync : ∀ result now, result.outcome ≠ .success ∨ result.versions = none →
    (∃ applied, (row.applySyncResult text enabled result now).2 = .ok applied) ∧
      (row.applySyncResult text enabled result now).1.cacheState = .invalid
  denied : ∀ now, ∃ context, loadContext text row enabled now = .ok context ∧
    ∀ lower policy publisher request, request.marketplaceMetadataEnabled = enabled →
      (evaluate lower policy publisher (some context) request).decision = .deny

/-- A trusted version that is missing or not positive. -/
def BadVersion (row : MarketplaceTrustCache) : Prop :=
  row.rootVersion.getD 0 < 1 ∨ row.timestampVersion.getD 0 < 1 ∨ row.snapshotVersion.getD 0 < 1 ∨
    row.targetsVersion.getD 0 < 1

theorem validateVersion_bind {fieldName : String} {version : Option ℤ} {rest : Except Raised Unit} :
    (∃ message, (MarketplaceTrustCache.validateVersion fieldName version >>= fun _ => rest)
        = .error (.cacheValidation message)) ↔
      version.getD 0 < 1 ∨ ∃ message, rest = .error (.cacheValidation message) := by
  unfold MarketplaceTrustCache.validateVersion
  split_ifs with hlow
  · exact iff_of_true ⟨_, rfl⟩ (.inl hlow)
  · rw [or_iff_right hlow]
    rfl

/-- Reading a list of revocations does not end in a validation error. -/
theorem readDict_ne_invalid (value : Json) (message : String) :
    readDict (some (.parsed value)) ≠ .error (.cacheValidation message) := by
  cases value <;> exact fun h => by cases h

/-- **The rows that are found invalid.** Other corruption passes, or raises something else. -/
theorem validateCacheRow_invalid_iff (row : MarketplaceTrustCache) :
    (∃ message, row.validateCacheRow text = .error (.cacheValidation message)) ↔ row.lastSuccessAt ≠ none ∧
        (BadVersion row ∨ row.catalogJson = some .corrupt ∨ row.revocationsJson = some .corrupt) := by
  unfold MarketplaceTrustCache.validateCacheRow
  by_cases hsuccess : row.lastSuccessAt = none
  · rw [if_pos hsuccess]
    exact iff_of_false (fun ⟨message, h⟩ => by cases h) fun h => h.1 hsuccess
  rw [if_neg hsuccess, and_iff_right hsuccess, validateVersion_bind, validateVersion_bind,
    validateVersion_bind, validateVersion_bind]
  unfold BadVersion
  rw [or_assoc, or_assoc, or_assoc]
  refine or_congr_right (or_congr_right (or_congr_right (or_congr_right ?_)))
  rcases hcatalog : row.catalogJson with _ | (_ | catalog)
  case some.corrupt => exact iff_of_true ⟨_, rfl⟩ (.inl rfl)
  -- A catalog that reads leaves the decision to the revocations.
  all_goals
    rw [or_iff_right (fun h => by cases h)]
    dsimp only [bind, Except.bind]
    cases hrevocations : row.revocationsJson with
    | none => exact iff_of_false (fun ⟨message, h⟩ => by cases h) (fun h => by cases h)
    | some column =>
      cases column with
      | corrupt => exact iff_of_true ⟨_, rfl⟩ rfl
      | parsed value =>
        refine iff_of_false ?_ (fun h => by cases h)
        rintro ⟨message, h⟩
        have hread : row.parseRevocations = readDict (some (.parsed value)) := congrArg readDict hrevocations
        dsimp only at h
        rw [hread] at h
        cases hraw : readDict (some (.parsed value)) with
        | error exception =>
          rw [hraw] at h
          cases h
          exact readDict_ne_invalid value message hraw
        | ok raw =>
          rw [hraw] at h
          dsimp only at h
          cases hparse : parseRevocationBundle text raw with
          | error error => rw [hparse] at h; cases h
          | ok bundle => rw [hparse] at h; cases h

/-! ### When corruption is reported -/

theorem markOffline_invalid_iff (row : MarketplaceTrustCache) (enabled : Bool) (message : String) (now : Instant) :
    ((row.markOffline text enabled message now).2 = .ok () ∧
      (row.markOffline text enabled message now).1.cacheState = .invalid) ↔
      ∃ error, row.validateCacheRow text = .error (.cacheValidation error) := by
  have hsame : MarketplaceTrustCache.validateCacheRow text
      { row with
        enabled := enabled
        lastAttemptAt := some now
        lastError := some message
        syncFailed := true } = row.validateCacheRow text := rfl
  unfold MarketplaceTrustCache.markOffline
  dsimp only
  rw [hsame]
  cases hvalid : row.validateCacheRow text with
  | ok u => exact iff_of_false (fun h => by cases h.2) (fun ⟨error, h⟩ => by cases h)
  | error exception =>
    cases exception with
    | cacheValidation error => exact iff_of_true ⟨rfl, rfl⟩ ⟨error, rfl⟩
    | revocationPolicy error => exact iff_of_false (fun h => by cases h.1) (fun ⟨error, h⟩ => by cases h)
    | jsonDecodeError => exact iff_of_false (fun h => by cases h.1) (fun ⟨error, h⟩ => by cases h)
    | attributeError => exact iff_of_false (fun h => by cases h.1) (fun ⟨error, h⟩ => by cases h)
    | typeError => exact iff_of_false (fun h => by cases h.1) (fun ⟨error, h⟩ => by cases h)

/-- A result without versions, or of another outcome than success, is a failed sync. -/
theorem applySyncResult_eq_failed (row : MarketplaceTrustCache) (enabled : Bool)
    {result : MarketplaceSyncResult} (hresult : result.outcome ≠ .success ∨ result.versions = none)
    (now : Instant) : row.applySyncResult text enabled result now
      = (row.attempted enabled now).failed text now result.message := by
  unfold MarketplaceTrustCache.applySyncResult
  dsimp only
  split
  · rename_i versions houtcome hversions
    rcases hresult with hresult | hresult
    · exact absurd houtcome hresult
    · rw [hversions] at hresult
      cases hresult
  · rfl

/-- A failed sync of a row that is invalid. -/
theorem applySyncResult_failed_invalid {row : MarketplaceTrustCache} {error : String}
    (hinvalid : row.validateCacheRow text = .error (.cacheValidation error)) (enabled : Bool)
    {result : MarketplaceSyncResult} (hresult : result.outcome ≠ .success ∨ result.versions = none)
    (now : Instant) : (∃ applied, (row.applySyncResult text enabled result now).2 = .ok applied) ∧
      (row.applySyncResult text enabled result now).1.cacheState = .invalid := by
  obtain ⟨hsuccess, -⟩ := (validateCacheRow_invalid_iff text row).mp ⟨error, hinvalid⟩
  have hinvalid' : MarketplaceTrustCache.validateCacheRow text
      { row.attempted enabled now with
        syncFailed := true
        lastError := some result.message } = .error (.cacheValidation error) := hinvalid
  rw [applySyncResult_eq_failed text row enabled hresult now]
  unfold MarketplaceTrustCache.failed
  dsimp only
  rw [if_neg (show ¬ (row.attempted enabled now).lastSuccessAt = none from hsuccess), hinvalid']
  exact ⟨⟨_, rfl⟩, rfl⟩

/-- **Which corruption is reported.** For every row: the status view, marking it as offline and a failed sync return
and find the row invalid, and the loaded context is denied every action, exactly if the marketplace is switched on, the
row has had a success, one of its versions is missing or not positive or its catalog does not read, and the reader can
read its revocations. -/
theorem reported_iff (row : MarketplaceTrustCache) (enabled : Bool) : Reported text row enabled ↔
      enabled = true ∧ row.lastSuccessAt ≠ none ∧ (BadVersion row ∨ row.catalogJson = some .corrupt) ∧
        ReadableRevocations row.revocationsJson := by
  constructor
  · intro h
    obtain ⟨error, hinvalid⟩ := (markOffline_invalid_iff text row enabled "" 0).mp (h.offline "" 0)
    obtain ⟨hsuccess, hcorrupt⟩ := (validateCacheRow_invalid_iff text row).mp ⟨error, hinvalid⟩
    obtain ⟨context, hcontext, -⟩ := h.denied 0
    obtain ⟨-, raw, matched, -, hraw, hmatched, -⟩ := (loadContext_ok_iff text row enabled 0 context).mp hcontext
    have hreadable := (parseMatches_ok_iff text row).mp ⟨raw, matched, hraw, hmatched⟩
    refine ⟨?_, hsuccess, ?_, hreadable⟩
    · obtain ⟨view, hview, hhealth⟩ := h.view 0
      rcases (row.buildStatusView_ok_iff text enabled 0 view).mp hview with
        ⟨-, hdisabled⟩ | ⟨henabled, -⟩ | ⟨henabled, -⟩
      · rw [hdisabled] at hhealth
        cases hhealth
      · exact henabled
      · exact henabled
    · rcases hcorrupt with hversion | hcatalog | hrevocations
      · exact .inl hversion
      · exact .inr hcatalog
      · rw [hrevocations] at hreadable
        exact hreadable.elim
  · rintro ⟨henabled, hsuccess, hcorrupt, hreadable⟩
    obtain ⟨error, hinvalid⟩ := (validateCacheRow_invalid_iff text row).mpr ⟨hsuccess, hcorrupt.imp id .inl⟩
    have hview : ∀ now, row.buildStatusView text enabled now
        = .ok (row.markedView true .invalid (some error) true) := fun now =>
      (row.buildStatusView_ok_iff text enabled now _).mpr (.inr (.inl ⟨henabled, error, hinvalid, rfl⟩))
    refine ⟨fun now => ⟨_, hview now, rfl⟩, fun message now => ?_, fun result now hresult => ?_,
      fun now => ?_⟩
    · exact (markOffline_invalid_iff text row enabled message now).mpr ⟨error, hinvalid⟩
    · exact applySyncResult_failed_invalid text hinvalid enabled hresult now
    · obtain ⟨raw, matched, hraw, hmatched⟩ := (parseMatches_ok_iff text row).mpr hreadable
      refine ⟨_, (loadContext_ok_iff text row enabled now _).mpr ⟨_, raw, matched, hview now, hraw, hmatched, rfl⟩, ?_⟩
      intro lower policy publisher request hrequest
      exact evaluate_of_untrusted rfl lower policy publisher request (hrequest.trans henabled)

/-- A trusted row, with the given text in the column of its revocations. -/
def trustedRow (revocations : JsonText) : MarketplaceTrustCache where
  enabled := true
  cacheState := .healthy
  revocationState := .fresh
  rootVersion := some 1
  timestampVersion := some 1
  snapshotVersion := some 1
  targetsVersion := some 1
  revocationsJson := some revocations
  lastSuccessAt := some 0

/-- **Corruption that is thrown.** With a list of revocations that has no header, marking the row as offline raises
the error of the revocation policy; with text that is no JSON, the reader raises. -/
theorem corrupt_row_thrown :
    (¬ Reported .ascii (trustedRow (.parsed (.obj []))) true ∧
      ((trustedRow (.parsed (.obj []))).markOffline .ascii true "no url" 0).2
        = .error (.revocationPolicy
          { message := "Invalid revocation bundle header", errorCode := .invalidMetadata })) ∧
    ¬ Reported .ascii (trustedRow .corrupt) true ∧
      loadContext .ascii (trustedRow .corrupt) true 0 = .error .jsonDecodeError := by
  have hraised : ((trustedRow (.parsed (.obj []))).markOffline .ascii true "no url" 0).2 = .error (.revocationPolicy
        { message := "Invalid revocation bundle header", errorCode := .invalidMetadata }) := by decide +kernel
  have hunread : loadContext .ascii (trustedRow .corrupt) true 0 = .error .jsonDecodeError := by rfl
  refine ⟨⟨fun h => ?_, hraised⟩, fun h => ?_, hunread⟩
  · have hoffline := (h.offline "no url" 0).1
    rw [hraised] at hoffline
    cases hoffline
  · obtain ⟨context, hcontext, -⟩ := h.denied 0
    rw [hunread] at hcontext
    cases hcontext

end EnergyCore.Governance
