import EnergyCore.Foundations.BestByRank
import EnergyCore.Marketplace.AdvisoryPolicy

/-!
# Matching vulnerabilities

The components of a release against the advisories, and the highest severity of what matches. Versions and
version ranges are those of a packaging library, which is left open.

* `matchVulnerabilities_mono` — more advisories match no less;
* `highestSeverity_mono` — a longer list has no lower highest severity.
-/

namespace EnergyCore.SupplyChain

open BestByRank JsonValues Marketplace

/-! ### Matching -/

structure SbomComponent where
  name : String
  version : Option String
  purl : Option String := none
  deriving Repr, DecidableEq

structure VulnerabilityMatch where
  advisoryId : String
  componentName : String
  componentVersion : Option String
  purl : Option String
  severity : SecuritySeverity
  matched : Bool
  versionStatus : String
  deriving Repr, DecidableEq

/-- Versions and version ranges, as the packaging library reads them. -/
structure Packaging where
  validVersion : String → Bool
  validSpecifier : Json → Bool
  contains : Json → String → Bool

section

variable (packaging : Packaging)

/-- `_version_in_range`. -/
def versionInRange (version : Option String) (rangeExpr : Json) (fixed : List String) : Bool × String :=
  match version with
  | none => (false, "UNKNOWN")
  | some version =>
    if version = "" then (false, "UNKNOWN")
    else if version ∈ fixed then (false, "FIXED")
    else if !rangeExpr.truthy then (true, "MATCHED")
    else if !packaging.validVersion version then (false, "UNKNOWN")
    else if !packaging.validSpecifier rangeExpr then (false, "UNKNOWN")
    else
      let matched := packaging.contains rangeExpr version
      (matched, if matched then "MATCHED" else "NOT_AFFECTED")

/-- What an advisory says of a component. -/
def componentStatus (adv : AdvisoryEntry) (comp : SbomComponent) : Bool × String :=
  if adv.affectedPurl.truthy && comp.purl.any fun purl =>
      decide (purl ≠ "") && same adv.affectedPurl (.str purl) then
    versionInRange packaging comp.version adv.affectedVersionRange adv.fixedVersions
  else if adv.affectedPackage.truthy && same (.str comp.name) adv.affectedPackage then
    versionInRange packaging comp.version adv.affectedVersionRange adv.fixedVersions
  else (false, "NOT_AFFECTED")

/-- The matches of one advisory. -/
def advisoryMatches (components : List SbomComponent) (adv : AdvisoryEntry) : List VulnerabilityMatch :=
  if adv.withdrawn then []
  else components.filterMap fun comp =>
    let (matched, versionStatus) := componentStatus packaging adv comp
    if matched ∧ versionStatus = "MATCHED" then
      some
        { advisoryId := adv.advisoryId
          componentName := comp.name
          componentVersion := comp.version
          purl := comp.purl
          severity := adv.severity
          matched := true
          versionStatus := versionStatus }
    else none

def matchVulnerabilities (components : List SbomComponent) (advisories : List AdvisoryEntry) :
    List VulnerabilityMatch :=
  advisories.flatMap (advisoryMatches packaging components)

/-- More advisories match no less. -/
theorem matchVulnerabilities_mono (components : List SbomComponent) {advisories more : List AdvisoryEntry}
    (h : advisories ⊆ more) : matchVulnerabilities packaging components advisories
      ⊆ matchVulnerabilities packaging components more := by
  intro v hv
  obtain ⟨adv, hadv, hv⟩ := List.mem_flatMap.mp hv
  exact List.mem_flatMap.mpr ⟨adv, h hadv, hv⟩

end

/-! ### The highest severity -/

/-- The order of severities in which the highest is looked for: unknown ones come before all that are known. -/
def matchOrder : List SecuritySeverity := [.none, .unknown, .low, .medium, .high, .critical]

def matchRank (severity : SecuritySeverity) : ℕ := matchOrder.idxOf severity

def highestSeverity (found : List VulnerabilityMatch) : SecuritySeverity :=
  found.foldl (fun highest v =>
    if v.matched ∧ matchRank v.severity > matchRank highest then v.severity else highest) .none

/-- The severities of what matches. -/
def matchedSeverities (found : List VulnerabilityMatch) : List SecuritySeverity :=
  (found.filter VulnerabilityMatch.matched).map VulnerabilityMatch.severity

theorem mem_matchedSeverities {found : List VulnerabilityMatch} {severity : SecuritySeverity} :
    severity ∈ matchedSeverities found ↔ ∃ v ∈ found, v.matched = true ∧ v.severity = severity := by
  unfold matchedSeverities
  rw [List.mem_map]
  simp only [List.mem_filter, and_assoc]

theorem matchedSeverities_mono {found more : List VulnerabilityMatch} (h : found ⊆ more) :
    matchedSeverities found ⊆ matchedSeverities more := by
  intro severity hseverity
  obtain ⟨v, hv, hmatched⟩ := mem_matchedSeverities.mp hseverity
  exact mem_matchedSeverities.mpr ⟨v, h hv, hmatched⟩

theorem highestSeverity_eq (found : List VulnerabilityMatch) :
    highestSeverity found = bestByRank matchRank .none (matchedSeverities found) := by
  unfold highestSeverity
  generalize SecuritySeverity.none = highest
  induction found generalizing highest with
  | nil => rfl
  | cons v found ih =>
    rw [List.foldl_cons, ih]
    unfold matchedSeverities
    by_cases hmatched : v.matched = true
    · rw [List.filter_cons_of_pos hmatched, List.map_cons, bestByRank_cons]
      simp only [hmatched, true_and]
    · rw [List.filter_cons_of_neg hmatched, if_neg fun h => hmatched h.1]

/-- **A longer list has no lower highest severity.** -/
theorem highestSeverity_mono {found more : List VulnerabilityMatch} (h : found ⊆ more) :
    matchRank (highestSeverity found) ≤ matchRank (highestSeverity more) := by
  rw [highestSeverity_eq, highestSeverity_eq]
  exact rank_bestByRank_mono matchRank .none (matchedSeverities_mono h)

end EnergyCore.SupplyChain
