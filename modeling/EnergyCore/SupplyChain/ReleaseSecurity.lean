import EnergyCore.Governance.PolicyEngine
import EnergyCore.SupplyChain.VulnerabilityMatcher

/-!
# The security of a release

The decision on a release, from the vulnerabilities that were matched and the decision of the install policy.

* `blocksStaging_mono` — a longer list of vulnerabilities never lifts a block;
* `decision_mono_iff` — when a longer list is decided no less restrictively: the threshold ranks unknown severities
  above all that are known, while the highest severity of a list ranks them below.
-/

namespace EnergyCore.SupplyChain

open BestByRank Governance Marketplace

/-! ### Types -/

inductive SbomStatus where
  | missing
  | valid
  | invalid
  | unverified
  deriving Repr, DecidableEq

inductive AdvisoryStatus where
  | unavailable
  | trusted
  | untrusted
  | stale
  deriving Repr, DecidableEq

structure SupplyChainPolicy where
  requireSbom : Bool := false
  denyCriticalVulnerabilities : Bool := true
  maxAllowedSeverity : SecuritySeverity := .high
  requireReviewForHigh : Bool := true
  deriving Repr, DecidableEq

structure ReleaseSecuritySnapshot where
  sbomStatus : SbomStatus
  advisoryStatus : AdvisoryStatus
  highestSeverity : SecuritySeverity
  vulnerabilityCount : ℕ
  criticalCount : ℕ
  highCount : ℕ
  securityReviewRequired : Bool
  reasonCodes : List String
  integrityVerified : Bool
  policyDecision : PolicyDecision
  vulnerabilities : List VulnerabilityMatch
  deriving Repr, DecidableEq

/-! ### The evaluator -/

/-- The order of severities that the threshold is compared in: unknown ones come after all that are known. -/
def sevOrder : List SecuritySeverity := [.none, .low, .medium, .high, .critical, .unknown]

def sevRank (severity : SecuritySeverity) : ℕ := sevOrder.idxOf severity

/-- How many vulnerabilities of a severity were matched. -/
def countOf (severity : SecuritySeverity) (vulnerabilities : List VulnerabilityMatch) : ℕ :=
  vulnerabilities.countP fun v => decide (v.matched = true ∧ v.severity = severity)

/-- What is evaluated besides the vulnerabilities. -/
structure ReleaseContext where
  sbomStatus : SbomStatus
  advisoryStatus : AdvisoryStatus
  supplyChainPolicy : SupplyChainPolicy
  governanceDecision : PolicyDecision
  integrityVerified : Bool
  deriving Repr, DecidableEq

section

variable (release : ReleaseContext) (vulnerabilities : List VulnerabilityMatch)

/-- The reviews that the state of the release asks for. -/
def statusReview : Bool :=
  (decide (release.sbomStatus = .missing) && release.supplyChainPolicy.requireSbom) ||
    decide (release.advisoryStatus = .untrusted)

/-- The reviews that the counts of vulnerabilities ask for. -/
def countReview : Bool :=
  (release.supplyChainPolicy.denyCriticalVulnerabilities &&
      decide (countOf .critical vulnerabilities > 0)) ||
    (release.supplyChainPolicy.requireReviewForHigh && decide (countOf .high vulnerabilities > 0))

/-- Whether the highest severity exceeds what is allowed. -/
def exceedsAllowed : Bool :=
  decide (sevRank (highestSeverity vulnerabilities)
    > sevRank release.supplyChainPolicy.maxAllowedSeverity)

def reviewRequired : Bool :=
  statusReview release || countReview release vulnerabilities || exceedsAllowed release vulnerabilities

/-- The decision, given whether a review is required. -/
def policyDecision (governanceDecision : PolicyDecision) (reviewRequired : Bool) : PolicyDecision :=
  if governanceDecision = .deny then .deny
  else if reviewRequired ∧ governanceDecision = .allow then .requireSecurityReview
  else governanceDecision

/-- The reasons, in the order in which they are found. -/
def reasons : List String :=
  (if release.integrityVerified then [] else ["INTEGRITY_NOT_VERIFIED"]) ++
    (if release.sbomStatus = .missing ∧ release.supplyChainPolicy.requireSbom then ["SBOM_MISSING"]
      else []) ++
    (if release.sbomStatus = .invalid then ["SBOM_INVALID"] else []) ++
    (if release.advisoryStatus = .untrusted then ["ADVISORY_DATA_UNTRUSTED"] else []) ++
    (if countOf .critical vulnerabilities > 0 then ["VULNERABILITY_CRITICAL"] else []) ++
    (if countOf .high vulnerabilities > 0 then ["VULNERABILITY_HIGH"] else []) ++
    (if exceedsAllowed release vulnerabilities then ["SUPPLY_CHAIN_REVIEW_REQUIRED"] else []) ++
    (if reviewRequired release vulnerabilities ∧ release.governanceDecision = .allow then
        ["SUPPLY_CHAIN_REVIEW_REQUIRED"]
      else [])

/-- `ReleaseSecurityEvaluator.evaluate`. -/
def evaluateRelease : ReleaseSecuritySnapshot where
  sbomStatus := release.sbomStatus
  advisoryStatus := release.advisoryStatus
  highestSeverity := highestSeverity vulnerabilities
  vulnerabilityCount := vulnerabilities.countP VulnerabilityMatch.matched
  criticalCount := countOf .critical vulnerabilities
  highCount := countOf .high vulnerabilities
  securityReviewRequired := reviewRequired release vulnerabilities
  reasonCodes := (reasons release vulnerabilities).eraseDups
  integrityVerified := release.integrityVerified
  policyDecision := policyDecision release.governanceDecision (reviewRequired release vulnerabilities)
  vulnerabilities := vulnerabilities

end

def blocksStaging (snapshot : ReleaseSecuritySnapshot) (policy : SupplyChainPolicy) : Bool :=
  if !snapshot.integrityVerified then true
  else if snapshot.policyDecision = .deny then true
  else if policy.denyCriticalVulnerabilities ∧ snapshot.criticalCount > 0 then true
  else decide (snapshot.sbomStatus = .invalid)

/-! ### Longer lists -/

/-- How restrictive a decision is. -/
def restrictiveness : PolicyDecision → ℕ
  | .allow => 0
  | .requireAdminApproval => 1
  | .requireSecurityReview => 1
  | .deny => 2

theorem countOf_pos_iff {severity : SecuritySeverity} {vulnerabilities : List VulnerabilityMatch} :
    countOf severity vulnerabilities > 0 ↔ severity ∈ matchedSeverities vulnerabilities := by
  unfold countOf
  rw [gt_iff_lt, List.countP_pos_iff, mem_matchedSeverities]
  simp only [decide_eq_true_eq]

/-- The order of the threshold goes along with the order of the highest severity, unless an unknown severity gives
way to one that is known. -/
theorem sevRank_le_of_matchRank_le {severity severity' : SecuritySeverity}
    (h : matchRank severity ≤ matchRank severity') :
    sevRank severity ≤ sevRank severity' ∨ (severity = .unknown ∧ severity' ≠ .unknown) := by
  revert h
  cases severity <;> cases severity' <;> decide

section

variable (release : ReleaseContext) {found more : List VulnerabilityMatch}

theorem countReview_mono (h : found ⊆ more) (hreview : countReview release found = true) :
    countReview release more = true := by
  unfold countReview at hreview ⊢
  rw [Bool.or_eq_true, Bool.and_eq_true, Bool.and_eq_true, decide_eq_true_eq, decide_eq_true_eq,
    countOf_pos_iff, countOf_pos_iff] at hreview ⊢
  rcases hreview with ⟨hpolicy, hcount⟩ | ⟨hpolicy, hcount⟩
  · exact .inl ⟨hpolicy, matchedSeverities_mono h hcount⟩
  · exact .inr ⟨hpolicy, matchedSeverities_mono h hcount⟩

/-- A review that is no longer required makes a decision less restrictive exactly of an approval. -/
theorem restrictiveness_policyDecision_le_iff (decision : PolicyDecision) (review review' : Bool) :
    restrictiveness (policyDecision decision review) ≤ restrictiveness (policyDecision decision review') ↔
      ¬ (decision = .allow ∧ review = true ∧ review' = false) := by
  cases decision <;> cases review <;> cases review' <;> decide

theorem policyDecision_deny_iff (decision : PolicyDecision) (review : Bool) :
    policyDecision decision review = .deny ↔ decision = .deny := by
  cases decision <;> cases review <;> decide

theorem blocksStaging_iff (snapshot : ReleaseSecuritySnapshot) (policy : SupplyChainPolicy) :
    blocksStaging snapshot policy = true ↔ snapshot.integrityVerified = false ∨ snapshot.policyDecision = .deny ∨
        (policy.denyCriticalVulnerabilities = true ∧ snapshot.criticalCount > 0) ∨ snapshot.sbomStatus = .invalid := by
  unfold blocksStaging
  split_ifs with hintegrity hdeny hcritical
  · exact iff_of_true rfl (.inl (by simpa using hintegrity))
  · exact iff_of_true rfl (.inr (.inl hdeny))
  · exact iff_of_true rfl (.inr (.inr (.inl hcritical)))
  · have hverified : ¬ snapshot.integrityVerified = false := by simpa using hintegrity
    rw [decide_eq_true_eq, or_iff_right hverified, or_iff_right hdeny, or_iff_right hcritical]

/-- **Blocks stay.** A longer list of vulnerabilities never lifts a block on staging. -/
theorem blocksStaging_mono (h : found ⊆ more) (policy : SupplyChainPolicy)
    (hblocks : blocksStaging (evaluateRelease release found) policy = true) :
    blocksStaging (evaluateRelease release more) policy = true := by
  rw [blocksStaging_iff] at hblocks ⊢
  rcases hblocks with hintegrity | hdeny | ⟨hpolicy, hcritical⟩ | hinvalid
  · exact .inl hintegrity
  · refine .inr (.inl ?_)
    have hgovernance := (policyDecision_deny_iff _ _).mp hdeny
    exact (policyDecision_deny_iff _ _).mpr hgovernance
  · refine .inr (.inr (.inl ⟨hpolicy, ?_⟩))
    exact countOf_pos_iff.mpr (matchedSeverities_mono h (countOf_pos_iff.mp hcritical))
  · exact .inr (.inr (.inr hinvalid))

/-- A vulnerability of unknown severity that exceeds what is allowed, hidden by a known severity which asks for no
review. -/
structure UnknownMasked (release : ReleaseContext) (found more : List VulnerabilityMatch) : Prop where
  allowed : release.governanceDecision = .allow
  unknown : highestSeverity found = .unknown
  limited : release.supplyChainPolicy.maxAllowedSeverity ≠ .unknown
  known : highestSeverity more ≠ .unknown
  tolerated : sevRank (highestSeverity more) ≤ sevRank release.supplyChainPolicy.maxAllowedSeverity
  noCritical : release.supplyChainPolicy.denyCriticalVulnerabilities = true →
    .critical ∉ matchedSeverities more
  noHigh : release.supplyChainPolicy.requireReviewForHigh = true → .high ∉ matchedSeverities more
  sbom : ¬ (release.sbomStatus = .missing ∧ release.supplyChainPolicy.requireSbom = true)
  trusted : release.advisoryStatus ≠ .untrusted

theorem sevRank_lt_unknown_iff {severity : SecuritySeverity} :
    sevRank severity < sevRank .unknown ↔ severity ≠ .unknown := by
  cases severity <;> decide

theorem countReview_eq_false_iff {found : List VulnerabilityMatch} : countReview release found = false ↔
      (release.supplyChainPolicy.denyCriticalVulnerabilities = true → .critical ∉ matchedSeverities found) ∧
      (release.supplyChainPolicy.requireReviewForHigh = true → .high ∉ matchedSeverities found) := by
  unfold countReview
  rw [Bool.or_eq_false_iff, Bool.and_eq_false_imp, Bool.and_eq_false_imp, decide_eq_false_iff_not,
    decide_eq_false_iff_not, countOf_pos_iff, countOf_pos_iff]

theorem statusReview_eq_false_iff : statusReview release = false ↔
      ¬ (release.sbomStatus = .missing ∧ release.supplyChainPolicy.requireSbom = true) ∧
        release.advisoryStatus ≠ .untrusted := by
  unfold statusReview
  rw [Bool.or_eq_false_iff, Bool.and_eq_false_imp, decide_eq_true_eq, decide_eq_false_iff_not, not_and,
    Bool.eq_false_iff]

/-- **A review that is lost.** A longer list loses a review exactly if it hides an unknown severity. -/
theorem review_lost_iff (h : found ⊆ more) :
    (release.governanceDecision = .allow ∧ reviewRequired release found = true ∧
      reviewRequired release more = false) ↔ UnknownMasked release found more := by
  unfold reviewRequired
  rw [Bool.or_eq_false_iff, Bool.or_eq_false_iff, statusReview_eq_false_iff, countReview_eq_false_iff]
  constructor
  · rintro ⟨hallow, hreview, ⟨⟨hsbom, htrusted⟩, hcritical, hhigh⟩, hexceeds⟩
    have hstatus : statusReview release = false := (statusReview_eq_false_iff release).mpr ⟨hsbom, htrusted⟩
    have hcount : countReview release found = false := by
      by_contra hcount
      have hmore := countReview_mono release h (Bool.not_eq_false _ ▸ hcount)
      rw [(countReview_eq_false_iff release).mpr ⟨hcritical, hhigh⟩] at hmore
      cases hmore
    rw [hstatus, hcount, Bool.false_or, Bool.false_or] at hreview
    unfold exceedsAllowed at hreview hexceeds
    rw [decide_eq_true_eq] at hreview
    rw [decide_eq_false_iff_not, not_lt] at hexceeds
    rcases sevRank_le_of_matchRank_le (highestSeverity_mono h) with hle | ⟨hunknown, hknown⟩
    · exact absurd hreview (not_lt.mpr (le_trans hle hexceeds))
    · rw [hunknown] at hreview
      exact ⟨hallow, hunknown, sevRank_lt_unknown_iff.mp hreview, hknown, hexceeds, hcritical, hhigh, hsbom, htrusted⟩
  · intro hmasked
    refine ⟨hmasked.allowed, ?_, ⟨⟨hmasked.sbom, hmasked.trusted⟩, hmasked.noCritical, hmasked.noHigh⟩, ?_⟩
    · have hexceeds : exceedsAllowed release found = true := by
        unfold exceedsAllowed
        rw [decide_eq_true_eq, hmasked.unknown]
        exact sevRank_lt_unknown_iff.mpr hmasked.limited
      rw [hexceeds, Bool.or_true]
    · unfold exceedsAllowed
      rw [decide_eq_false_iff_not, not_lt]
      exact hmasked.tolerated

/-- A longer list is decided no less restrictively exactly if it hides no unknown severity. -/
theorem decision_mono_iff (h : found ⊆ more) : (restrictiveness (evaluateRelease release found).policyDecision
        ≤ restrictiveness (evaluateRelease release more).policyDecision ∧
      ∀ policy, blocksStaging (evaluateRelease release found) policy = true →
        blocksStaging (evaluateRelease release more) policy = true) ↔ ¬ UnknownMasked release found more := by
  rw [← review_lost_iff release h]
  show (restrictiveness (policyDecision _ _) ≤ restrictiveness (policyDecision _ _) ∧ _) ↔ _
  rw [restrictiveness_policyDecision_le_iff]
  exact and_iff_left fun policy => blocksStaging_mono release h policy

/-- **When severity is monotone.** For lists of vulnerabilities, and for lists of advisories that are matched with
the components of a release, the longer list is decided no less restrictively, and never lifts a block, exactly if
it hides no unknown severity. -/
theorem severity_mono_iff (packaging : Packaging) (components : List SbomComponent)
    {advisories moreAdvisories : List AdvisoryEntry} (h : found ⊆ more)
    (hadvisories : advisories ⊆ moreAdvisories) : ((restrictiveness (evaluateRelease release found).policyDecision
        ≤ restrictiveness (evaluateRelease release more).policyDecision ∧
      ∀ policy, blocksStaging (evaluateRelease release found) policy = true →
        blocksStaging (evaluateRelease release more) policy = true) ↔ ¬ UnknownMasked release found more) ∧
    ((restrictiveness (evaluateRelease release (matchVulnerabilities packaging components advisories)).policyDecision
        ≤ restrictiveness
          (evaluateRelease release (matchVulnerabilities packaging components moreAdvisories)).policyDecision ∧
      ∀ policy, blocksStaging (evaluateRelease release (matchVulnerabilities packaging components advisories)) policy
          = true → blocksStaging
          (evaluateRelease release (matchVulnerabilities packaging components moreAdvisories)) policy = true) ↔
      ¬ UnknownMasked release (matchVulnerabilities packaging components advisories)
        (matchVulnerabilities packaging components moreAdvisories)) :=
  ⟨decision_mono_iff release h,
    decision_mono_iff release (matchVulnerabilities_mono packaging components hadvisories)⟩

end

/-! ### A hidden severity -/

def verifiedRelease : ReleaseContext where
  sbomStatus := .valid
  advisoryStatus := .trusted
  supplyChainPolicy := {}
  governanceDecision := .allow
  integrityVerified := true

/-- A vulnerability that was matched. -/
def vulnerability (advisoryId : String) (severity : SecuritySeverity) : VulnerabilityMatch where
  advisoryId := advisoryId
  componentName := "libfoo"
  componentVersion := some "1.0"
  purl := none
  severity := severity
  matched := true
  versionStatus := "MATCHED"

/-- Packages whose versions are all valid, and in no range. -/
def unranged : Packaging where
  validVersion _ := true
  validSpecifier _ := true
  contains _ _ := false

/-- A critical vulnerability that is added to one of unknown severity. -/
theorem severity_mono_iff_critical :
    ((restrictiveness (evaluateRelease verifiedRelease [vulnerability "A1" .unknown]).policyDecision
        ≤ restrictiveness (evaluateRelease verifiedRelease
          [vulnerability "A1" .unknown, vulnerability "A2" .critical]).policyDecision ∧
      ∀ policy, blocksStaging (evaluateRelease verifiedRelease [vulnerability "A1" .unknown]) policy = true →
        blocksStaging (evaluateRelease verifiedRelease
          [vulnerability "A1" .unknown, vulnerability "A2" .critical]) policy = true) ↔
      ¬ UnknownMasked verifiedRelease [vulnerability "A1" .unknown]
        [vulnerability "A1" .unknown, vulnerability "A2" .critical]) ∧
    ((restrictiveness (evaluateRelease verifiedRelease (matchVulnerabilities unranged [] [])).policyDecision
        ≤ restrictiveness (evaluateRelease verifiedRelease (matchVulnerabilities unranged [] [])).policyDecision ∧
      ∀ policy, blocksStaging (evaluateRelease verifiedRelease (matchVulnerabilities unranged [] [])) policy = true →
        blocksStaging (evaluateRelease verifiedRelease (matchVulnerabilities unranged [] [])) policy = true) ↔
      ¬ UnknownMasked verifiedRelease (matchVulnerabilities unranged [] []) (matchVulnerabilities unranged [] [])) :=
  severity_mono_iff verifiedRelease unranged [] (List.cons_subset_cons _ (List.nil_subset _))
    (List.nil_subset [])

/-- **A low severity hides an unknown one.** A release with a vulnerability of unknown severity is sent to a review;
with one of low severity besides, it is allowed. -/
theorem low_hides_unknown : [vulnerability "A1" .unknown] ⊆ [vulnerability "A1" .unknown, vulnerability "A2" .low] ∧
      (evaluateRelease verifiedRelease [vulnerability "A1" .unknown]).policyDecision = .requireSecurityReview ∧
      (evaluateRelease verifiedRelease
        [vulnerability "A1" .unknown, vulnerability "A2" .low]).policyDecision = .allow :=
  ⟨List.cons_subset_cons _ (List.nil_subset _), by decide, by decide⟩

end EnergyCore.SupplyChain
