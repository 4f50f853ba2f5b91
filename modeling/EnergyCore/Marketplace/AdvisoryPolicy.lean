import EnergyCore.Marketplace.RevocationPolicy
import Mathlib.Data.List.ReduceOption

/-!
# The advisory policy

Advisory bundles are parsed, checked against the trusted generation, and merged with the cached list: active
advisories persist unless they are withdrawn.

* `parseAdvisoryEntry_advisoryToDict`, `reread_reread` — an active entry is read back up to what is not cached,
  which is missing from then on;
* `trustedAdvisories_merged` — a merged list is read back as the entries it was made of.
-/

namespace EnergyCore.Marketplace

open JsonValues KeywordFields KeyedChanges StepRun

/-! ### Severities -/

inductive SecuritySeverity where
  | none
  | low
  | medium
  | high
  | critical
  | unknown
  deriving Repr, DecidableEq

namespace SecuritySeverity

/-- The value of a member. -/
def label : SecuritySeverity → String
  | .none => "NONE"
  | .low => "LOW"
  | .medium => "MEDIUM"
  | .high => "HIGH"
  | .critical => "CRITICAL"
  | .unknown => "UNKNOWN"

/-- `SecuritySeverity(label)`, or `UNKNOWN` for other labels. -/
def ofLabel (label : String) : SecuritySeverity :=
  if label = "NONE" then .none
  else if label = "LOW" then .low
  else if label = "MEDIUM" then .medium
  else if label = "HIGH" then .high
  else if label = "CRITICAL" then .critical
  else .unknown

@[simp] theorem ofLabel_label (s : SecuritySeverity) : ofLabel s.label = s := by
  cases s <;> decide

end SecuritySeverity

/-! ### Errors -/

/-- What ends a step early: a policy error, which is caught, or another exception, which is not. -/
inductive Raised where
  | cacheValidation (message : String)
  | revocationPolicy (error : PolicyError)
  | jsonDecodeError
  | attributeError
  | typeError
  deriving Repr, DecidableEq

inductive CheckError where
  | policy (error : PolicyError)
  | raised (exception : Raised)
  deriving Repr, DecidableEq

def invalidAdvisories {α : Type*} (message : String) : Except CheckError α :=
  .error (.policy { message := message, errorCode := .invalidMetadata })

/-! ### Bundles -/

def withdrawnStatus : String := "WITHDRAWN"

structure AdvisoryEntry where
  advisoryId : String
  source : String
  severity : SecuritySeverity
  publishedAt : Json
  updatedAt : Json
  status : String
  affectedPurl : Json
  affectedPackage : Json
  affectedVersionRange : Json
  fixedVersions : List String
  references : List String
  withdrawn : Bool
  deriving Repr

structure AdvisoryBundle where
  generation : PyInt
  generatedAt : String
  advisories : List AdvisoryEntry
  contentHash : String
  deriving Repr

section

variable (text : PyText)

/-- `item.get("references") or []`, which must be something to iterate over. -/
def parseReferences (item : Dict) : Except CheckError (List String) :=
  let references := getItem item "references"
  if references.truthy then
    match references.iterate with
    | none => .error (.raised .typeError)
    | some items => .ok ((items.filter Json.truthy).map text.str)
  else .ok []

/-- An entry, or nothing for an item that is skipped. -/
def parseAdvisoryEntry (item : Json) : Except CheckError (Option AdvisoryEntry) :=
  match item with
  | .obj item =>
    match (getItem item "advisory_id").nonemptyStr with
    | none => .ok none
    | some advisoryId =>
      let status := text.upper (text.str (getItemOr item "status" (.str "ACTIVE")))
      let affected := (getItem item "affected").asDict
      let fixed := (getItem item "fixed_versions").orElse
        ((getItem affected "fixed_versions").orElse (.arr []))
      (parseReferences text item).map fun references =>
        some
          { advisoryId := advisoryId
            source := text.str (getItemOr item "source" (.str "emic"))
            severity := .ofLabel (text.upper (text.str (getItemOr item "severity" (.str "UNKNOWN"))))
            publishedAt := getItem item "published_at"
            updatedAt := getItem item "updated_at"
            status := status
            affectedPurl := (getItem affected "purl").orElse (getItem item "affected_purl")
            affectedPackage :=
              (getItem affected "package").orElse (getItem item "affected_package")
            affectedVersionRange :=
              (getItem affected "version_range").orElse (getItem item "affected_version_range")
            fixedVersions := fixed.asList.map text.str
            references := references
            withdrawn := decide (status = withdrawnStatus)
              || (getItemOr item "withdrawn" (.num (.bool false))).truthy }
  | _ => .ok none

def parseAdvisoryBundle (raw : Option Dict) : Except CheckError AdvisoryBundle :=
  match raw with
  | none => invalidAdvisories "Missing advisory bundle"
  | some raw =>
    match getItem raw "bundle" with
    | .obj bundleMeta =>
      match positiveInt (getItem bundleMeta "generation") with
      | none => invalidAdvisories "Invalid advisory generation"
      | some generation =>
        match (getItem bundleMeta "generated_at").nonemptyStr with
        | none => invalidAdvisories "Invalid advisory generated_at"
        | some generatedAt =>
          match getItemOr raw "advisories" (.arr []) with
          | .arr items => (items.mapM (parseAdvisoryEntry text)).map fun entries =>
            { generation := generation
              generatedAt := generatedAt
              advisories := entries.reduceOption
              contentHash := bundleContentHash raw }
          | _ => invalidAdvisories "Invalid advisories list"
    | _ => invalidAdvisories "Invalid advisory bundle header"

def validateAdvisoryMonotonicity (trustedGeneration : Option ℤ) (trustedHash : Option String)
    (incoming : AdvisoryBundle) : Except CheckError Unit :=
  match trustedGeneration with
  | none => .ok ()
  | some trusted =>
    if incoming.generation.value < trusted then
      .error (.policy
        { message := "Advisory rollback: " ++ toString incoming.generation.value ++ " < "
            ++ toString trusted
          errorCode := .metadataRollbackDetected })
    else if incoming.generation.value = trusted ∧ trustedHash.getD "" ≠ "" ∧
        incoming.contentHash ≠ trustedHash.getD "" then
      invalidAdvisories "Advisory generation unchanged but content hash differs"
    else if incoming.generation.value > trusted ∧ incoming.advisories.length = 0 then
      invalidAdvisories "Advisory wipe rejected: empty bundle with higher generation"
    else .ok ()

/-! ### Merging -/

/-- `_advisory_to_dict`. -/
def advisoryToDict (entry : AdvisoryEntry) : Dict :=
  [("advisory_id", .str entry.advisoryId), ("severity", .str entry.severity.label),
    ("status", .str entry.status), ("source", .str entry.source),
    ("withdrawn", .num (.bool entry.withdrawn)),
    ("affected", .obj
      [("purl", entry.affectedPurl), ("package", entry.affectedPackage),
        ("version_range", entry.affectedVersionRange),
        ("fixed_versions", .arr (entry.fixedVersions.map Json.str))])]

/-- Whether the entry is withdrawn. -/
def AdvisoryEntry.isWithdrawn (entry : AdvisoryEntry) : Bool :=
  entry.withdrawn || decide (text.upper entry.status = withdrawnStatus)

/-- The active entries of the cached list; a list that is not a bundle has none. -/
def trustedAdvisories (trustedRaw : Option Dict) : Except Raised (Fields String Dict) :=
  match trustedRaw with
  | none => .ok []
  | some trustedRaw =>
    match parseAdvisoryBundle text (some trustedRaw) with
    | .error (.policy _) => .ok []
    | .error (.raised exception) => .error exception
    | .ok trusted => .ok
        (run (fun active entry =>
          if entry.isWithdrawn text then active
          else Fields.assign active entry.advisoryId (advisoryToDict entry)) [] trusted.advisories)

/-- One incoming entry. Entries have no `supersedes_advisory_id`, so that a superseding one removes nothing. -/
def mergeAdvisoryStep (active : Fields String Dict) (entry : AdvisoryEntry) : Fields String Dict :=
  if entry.isWithdrawn text then pop active entry.advisoryId
  else Fields.assign active entry.advisoryId (advisoryToDict entry)

def mergedAdvisories (active : Fields String Dict) (incoming : AdvisoryBundle) : Fields String Dict :=
  run (mergeAdvisoryStep text) active incoming.advisories

def sortedAdvisories (active : Fields String Dict) : List Dict :=
  (active.map Prod.snd).insertionSort fun d d' =>
    (getItem d "advisory_id").strD ≤ (getItem d' "advisory_id").strD

def mergeAdvisoryBundles (trustedRaw : Option Dict) (incoming : AdvisoryBundle) : Except Raised Dict :=
  (trustedAdvisories text trustedRaw).map fun active =>
    [("bundle", .obj
        [("generation", .num incoming.generation), ("generated_at", .str incoming.generatedAt)]),
      ("advisories", .arr ((sortedAdvisories (mergedAdvisories text active incoming)).map Json.obj))]

/-! ### Advisories are read back -/

/-- What parsing makes sure of. -/
structure AdvisoryEntry.Parsed (entry : AdvisoryEntry) : Prop where
  named : entry.advisoryId ≠ ""
  status : text.upper entry.status = entry.status

theorem parseAdvisoryEntry_parsed {item : Json} {entry : AdvisoryEntry}
    (h : parseAdvisoryEntry text item = .ok (some entry)) : entry.Parsed text := by
  unfold parseAdvisoryEntry at h
  split at h
  · rename_i item
    split at h
    · cases h
    · rename_i advisoryId hid
      dsimp only at h
      cases hreferences : parseReferences text item with
      | error error => rw [hreferences] at h; cases h
      | ok references =>
        rw [hreferences] at h
        cases h
        exact ⟨(Json.nonemptyStr_eq_some hid).2, text.upper_upper _⟩
  · cases h

/-- An entry that was parsed is withdrawn if its field says so. -/
theorem isWithdrawn_of_parseAdvisoryEntry {item : Json} {entry : AdvisoryEntry}
    (h : parseAdvisoryEntry text item = .ok (some entry)) : entry.isWithdrawn text = entry.withdrawn := by
  unfold parseAdvisoryEntry at h
  split at h
  · rename_i item
    split at h
    · cases h
    · dsimp only at h
      cases hreferences : parseReferences text item with
      | error error => rw [hreferences] at h; cases h
      | ok references =>
        rw [hreferences] at h
        cases h
        unfold AdvisoryEntry.isWithdrawn
        dsimp only
        rw [text.upper_upper, Bool.or_right_comm, Bool.or_self]
  · cases h

/-- An entry as it is read back; what is not cached is missing. -/
def reread (entry : AdvisoryEntry) : AdvisoryEntry :=
  { entry with
    publishedAt := .null
    updatedAt := .null
    affectedPurl := entry.affectedPurl.orElse .null
    affectedPackage := entry.affectedPackage.orElse .null
    affectedVersionRange := entry.affectedVersionRange.orElse .null
    references := []
    withdrawn := decide (entry.status = withdrawnStatus) || entry.withdrawn }

theorem upper_label (severity : SecuritySeverity) : text.upper severity.label = severity.label := by
  refine text.upper_of_all ?_
  cases severity with
  | none | low | medium | high | critical | unknown => decide +kernel

theorem parseAdvisoryEntry_advisoryToDict {entry : AdvisoryEntry} (h : entry.Parsed text) :
    parseAdvisoryEntry text (.obj (advisoryToDict entry)) = .ok (some (reread entry)) := by
  have hid : getItem (advisoryToDict entry) "advisory_id" = .str entry.advisoryId := rfl
  have hstatus : getItemOr (advisoryToDict entry) "status" (.str "ACTIVE") = .str entry.status := rfl
  have hseverity : getItemOr (advisoryToDict entry) "severity" (.str "UNKNOWN") = .str entry.severity.label := rfl
  have hsource : getItemOr (advisoryToDict entry) "source" (.str "emic") = .str entry.source := rfl
  have hreferences : parseReferences text (advisoryToDict entry) = .ok [] := rfl
  have hwithdrawn : (getItemOr (advisoryToDict entry) "withdrawn" (.num (.bool false))).truthy
      = entry.withdrawn := by
    show decide ((if entry.withdrawn = true then (1 : ℤ) else 0) ≠ 0) = entry.withdrawn
    cases entry.withdrawn with
    | true => rfl
    | false => rfl
  have hfixed : (getItem (advisoryToDict entry) "fixed_versions").orElse
      ((getItem (getItem (advisoryToDict entry) "affected").asDict "fixed_versions").orElse (.arr []))
      = .arr (entry.fixedVersions.map Json.str) := by
    show (if (!(entry.fixedVersions.map Json.str).isEmpty) = true then
      Json.arr (entry.fixedVersions.map Json.str) else .arr []) = _
    cases entry.fixedVersions with
    | nil => rfl
    | cons version versions => rfl
  have hversions : (Json.arr (entry.fixedVersions.map Json.str)).asList.map text.str
      = entry.fixedVersions := by
    show (entry.fixedVersions.map Json.str).map text.str = entry.fixedVersions
    rw [List.map_map]
    exact (List.map_congr_left fun s _ => text.str_str s).trans (List.map_id _)
  unfold parseAdvisoryEntry
  simp only [hid, Json.nonemptyStr_str h.named, hstatus, hseverity, hsource, hreferences, hwithdrawn,
    hfixed, hversions, text.str_str, h.status, upper_label, SecuritySeverity.ofLabel_label]
  rfl

theorem orElse_orElse (value : Json) : (value.orElse .null).orElse .null = value.orElse .null := by
  unfold Json.orElse
  by_cases h : value.truthy = true
  · rw [if_pos h, if_pos h]
  · rw [if_neg h, ite_self]

/-- Reading an entry back a second time changes nothing. -/
theorem reread_reread (entry : AdvisoryEntry) : reread (reread entry) = reread entry := by
  unfold reread
  simp only [orElse_orElse, ← Bool.or_assoc, Bool.or_self]

/-! ### The merge as a log of changes -/

/-- What an incoming entry changes. -/
def advisoryChanges (entry : AdvisoryEntry) : List (Change String Dict) :=
  if entry.isWithdrawn text then [.drop entry.advisoryId]
  else [.put entry.advisoryId (advisoryToDict entry)]

theorem mergedAdvisories_eq (active : Fields String Dict) (incoming : AdvisoryBundle) :
    mergedAdvisories text active incoming = applyAll active (incoming.advisories.flatMap (advisoryChanges text)) := by
  refine run_eq_applyAll (fun active entry => ?_) _ _
  unfold mergeAdvisoryStep advisoryChanges
  split_ifs
  · rfl
  · rfl

/-- An active advisory that is kept under its identifier. -/
def IsActiveAdvisory (k : String) (d : Dict) : Prop :=
  ∃ entry : AdvisoryEntry, entry.advisoryId = k ∧ entry.Parsed text ∧ entry.isWithdrawn text = false ∧
    d = advisoryToDict entry

/-- The dictionary of an active advisory after it is read back. -/
def rereadDict (d : Dict) : Dict :=
  match parseAdvisoryEntry text (.obj d) with
  | .ok (some entry) => advisoryToDict entry
  | _ => d

theorem AdvisoryEntry.Parsed.reread {entry : AdvisoryEntry} (h : entry.Parsed text) :
    (reread entry).Parsed text := ⟨h.named, h.status⟩

theorem isWithdrawn_reread {entry : AdvisoryEntry} (h : entry.Parsed text) :
    (reread entry).isWithdrawn text = entry.isWithdrawn text := by
  have hstatus := h.status
  unfold AdvisoryEntry.isWithdrawn
  show (decide (entry.status = withdrawnStatus) || entry.withdrawn
    || decide (text.upper entry.status = withdrawnStatus)) = _
  rw [hstatus, Bool.or_comm (decide _) entry.withdrawn, Bool.or_assoc, Bool.or_self]

theorem rereadDict_advisoryToDict {entry : AdvisoryEntry} (h : entry.Parsed text) :
    rereadDict text (advisoryToDict entry) = advisoryToDict (reread entry) := by
  unfold rereadDict
  rw [parseAdvisoryEntry_advisoryToDict text h]

theorem rereadDict_rereadDict {k : String} {d : Dict} (h : IsActiveAdvisory text k d) :
    rereadDict text (rereadDict text d) = rereadDict text d := by
  obtain ⟨entry, -, hparsed, -, rfl⟩ := h
  rw [rereadDict_advisoryToDict text hparsed, rereadDict_advisoryToDict text hparsed.reread, reread_reread]

/-! ### A merged list is read back -/

theorem isActiveAdvisory_of_put {entries : List AdvisoryEntry} (h : ∀ entry ∈ entries, entry.Parsed text)
    {k : String} {d : Dict} (hput : Change.put k d ∈ entries.flatMap (advisoryChanges text)) :
    IsActiveAdvisory text k d := by
  obtain ⟨entry, hentry, hput⟩ := List.mem_flatMap.mp hput
  unfold advisoryChanges at hput
  split_ifs at hput with hwithdrawn
  · cases List.mem_singleton.mp hput
  · cases List.mem_singleton.mp hput
    exact ⟨entry, rfl, h entry hentry, Bool.eq_false_iff.mpr hwithdrawn, rfl⟩

/-- The entries that a cached list keeps active. -/
def keptAdvisoryChanges (entry : AdvisoryEntry) : List (Change String Dict) :=
  if entry.isWithdrawn text then [] else [.put entry.advisoryId (advisoryToDict entry)]

theorem trustedAdvisories_eq {raw : Dict} {trusted : AdvisoryBundle}
    (h : parseAdvisoryBundle text (some raw) = .ok trusted) : trustedAdvisories text (some raw)
      = .ok (applyAll [] (trusted.advisories.flatMap (keptAdvisoryChanges text))) := by
  unfold trustedAdvisories
  simp only [h]
  refine congrArg Except.ok (run_eq_applyAll (fun active entry => ?_) _ _)
  unfold keptAdvisoryChanges
  split_ifs
  · rfl
  · rfl

/-- What parsing demands of a bundle. -/
structure AdvisoryBundle.Parsed (bundle : AdvisoryBundle) : Prop where
  generation : 1 ≤ bundle.generation.value
  generatedAt : bundle.generatedAt ≠ ""
  entries : ∀ entry ∈ bundle.advisories, entry.Parsed text

theorem parseAdvisoryBundle_parsed {raw : Dict} {bundle : AdvisoryBundle}
    (h : parseAdvisoryBundle text (some raw) = .ok bundle) :
    bundle.Parsed text ∧ bundle.contentHash = bundleContentHash raw := by
  unfold parseAdvisoryBundle at h
  dsimp only at h
  split at h
  · split at h
    · cases h
    · rename_i generation hgeneration
      split at h
      · cases h
      · rename_i generatedAt hgenerated
        split at h
        · rename_i items hitems
          cases hentries : items.mapM (parseAdvisoryEntry text) with
          | error error => rw [hentries] at h; cases h
          | ok entries =>
            rw [hentries] at h
            cases h
            refine ⟨⟨(positiveInt_eq_some hgeneration).2, (Json.nonemptyStr_eq_some hgenerated).2,
              fun entry hentry => ?_⟩, rfl⟩
            obtain ⟨item, -, hitem⟩ := mem_of_mapM_ok hentries _ (List.reduceOption_mem_iff.mp hentry)
            exact parseAdvisoryEntry_parsed text hitem
        · cases h
  · cases h

/-- An entry of a bundle that was parsed is withdrawn if its field says so. -/
theorem isWithdrawn_of_mem {raw : Dict} {bundle : AdvisoryBundle}
    (h : parseAdvisoryBundle text (some raw) = .ok bundle) {entry : AdvisoryEntry}
    (hentry : entry ∈ bundle.advisories) : entry.isWithdrawn text = entry.withdrawn := by
  unfold parseAdvisoryBundle at h
  dsimp only at h
  split at h
  · split at h
    · cases h
    · split at h
      · cases h
      · split at h
        · rename_i items hitems
          cases hentries : items.mapM (parseAdvisoryEntry text) with
          | error error => rw [hentries] at h; cases h
          | ok entries =>
            rw [hentries] at h
            cases h
            obtain ⟨item, -, hitem⟩ := mem_of_mapM_ok hentries _ (List.reduceOption_mem_iff.mp hentry)
            exact isWithdrawn_of_parseAdvisoryEntry text hitem
        · cases h
  · cases h

theorem trustedAdvisories_active {trustedRaw : Option Dict} {active : Fields String Dict}
    (h : trustedAdvisories text trustedRaw = .ok active) :
    (Fields.keys active).Nodup ∧ ∀ k d, (k, d) ∈ active → IsActiveAdvisory text k d := by
  cases trustedRaw with
  | none =>
    cases h
    exact ⟨nodup_keys_nil, fun k d hmem => absurd hmem List.not_mem_nil⟩
  | some raw =>
    cases hparse : parseAdvisoryBundle text (some raw) with
    | error error =>
      unfold trustedAdvisories at h
      simp only [hparse] at h
      cases error with
      | policy error =>
        cases h
        exact ⟨nodup_keys_nil, fun k d hmem => absurd hmem List.not_mem_nil⟩
      | raised exception => cases h
    | ok trusted =>
      rw [trustedAdvisories_eq text hparse, Except.ok.injEq] at h
      rw [← h]
      refine ⟨nodup_keys_applyAll nodup_keys_nil _, fun k d hmem => ?_⟩
      refine forall_mem_applyAll (P := IsActiveAdvisory text) nodup_keys_nil
        (fun k d hmem => absurd hmem List.not_mem_nil) (fun k d hput => ?_) hmem
      obtain ⟨entry, hentry, hput⟩ := List.mem_flatMap.mp hput
      unfold keptAdvisoryChanges at hput
      split_ifs at hput with hwithdrawn
      · exact absurd hput List.not_mem_nil
      · cases List.mem_singleton.mp hput
        exact ⟨entry, rfl, (parseAdvisoryBundle_parsed text hparse).1.entries entry hentry,
          Bool.eq_false_iff.mpr hwithdrawn, rfl⟩

section

variable {incoming : AdvisoryBundle} {active : Fields String Dict}

theorem isActiveAdvisory_of_merged (hincoming : incoming.Parsed text) (hkeys : (Fields.keys active).Nodup)
    (hactive : ∀ k d, (k, d) ∈ active → IsActiveAdvisory text k d) {k : String} {d : Dict}
    (h : (k, d) ∈ mergedAdvisories text active incoming) : IsActiveAdvisory text k d := by
  rw [mergedAdvisories_eq] at h
  exact forall_mem_applyAll (P := IsActiveAdvisory text) hkeys hactive
    (fun k d => isActiveAdvisory_of_put text hincoming.entries) h

theorem nodup_keys_mergedAdvisories (hkeys : (Fields.keys active).Nodup) :
    (Fields.keys (mergedAdvisories text active incoming)).Nodup := by
  rw [mergedAdvisories_eq]
  exact nodup_keys_applyAll hkeys _

end

theorem sortedAdvisories_eq {active : Fields String Dict} (h : ∀ k d, (k, d) ∈ active → IsActiveAdvisory text k d) :
    sortedAdvisories active = (byKey active).map Prod.snd := by
  unfold sortedAdvisories byKey
  rw [List.map_insertionSort (r := fun e e' : String × Dict => e.1 ≤ e'.1)
    (s := fun d d' : Dict => (getItem d "advisory_id").strD ≤ (getItem d' "advisory_id").strD)
    Prod.snd active]
  intro e he e' he'
  obtain ⟨entry, hid, -, -, hdict⟩ := h e.1 e.2 he
  obtain ⟨entry', hid', -, -, hdict'⟩ := h e'.1 e'.2 he'
  rw [hdict, hdict', ← hid, ← hid']
  rfl

theorem mapM_parseAdvisoryEntry {active : Fields String Dict}
    (h : ∀ k d, (k, d) ∈ active → IsActiveAdvisory text k d) : ∃ entries : List (Option AdvisoryEntry),
      ((active.map Prod.snd).map Json.obj).mapM (parseAdvisoryEntry text) = .ok entries ∧
      entries.reduceOption.flatMap (keptAdvisoryChanges text)
        = puts (active.map fun e => (e.1, rereadDict text e.2)) := by
  induction active with
  | nil => exact ⟨[], rfl, rfl⟩
  | cons e active ih =>
    obtain ⟨entries, hmapM, hputs⟩ := ih fun k d hmem => h k d (List.mem_cons_of_mem e hmem)
    obtain ⟨entry, hid, hparsed, hwithdrawn, hdict⟩ := h e.1 e.2 List.mem_cons_self
    refine ⟨some (reread entry) :: entries, ?_, ?_⟩
    · rw [List.map_cons, List.map_cons, List.mapM_cons, hdict, parseAdvisoryEntry_advisoryToDict text hparsed, hmapM]
      rfl
    · have hkept : (reread entry).isWithdrawn text = false := (isWithdrawn_reread text hparsed).trans hwithdrawn
      rw [List.reduceOption_cons_of_some, List.flatMap_cons, hputs, keptAdvisoryChanges, hkept,
        if_neg Bool.false_ne_true, List.map_cons, hdict, rereadDict_advisoryToDict text hparsed,
        ← hid]
      rfl

/-- A merged list is parsed as the entries it was made of, in the order of their identifiers. -/
theorem parseAdvisoryBundle_merged {trustedRaw : Option Dict} {incoming : AdvisoryBundle}
    {active : Fields String Dict} {merged : Dict} (hincoming : incoming.Parsed text)
    (htrusted : trustedAdvisories text trustedRaw = .ok active)
    (hmerged : mergeAdvisoryBundles text trustedRaw incoming = .ok merged) :
    ∃ trusted, parseAdvisoryBundle text (some merged) = .ok trusted ∧
      trusted.advisories.flatMap (keptAdvisoryChanges text)
        = puts (byKey ((mergedAdvisories text active incoming).map fun e => (e.1, rereadDict text e.2))) := by
  obtain ⟨hkeys, hactive⟩ := trustedAdvisories_active text htrusted
  have hall := fun k d => isActiveAdvisory_of_merged text hincoming hkeys hactive (k := k) (d := d)
  have hsorted : ∀ k d, (k, d) ∈ byKey (mergedAdvisories text active incoming) →
      IsActiveAdvisory text k d := fun k d hmem => hall k d ((byKey_perm _).mem_iff.mp hmem)
  obtain ⟨entries, hmapM, hputs⟩ := mapM_parseAdvisoryEntry text hsorted
  rw [mergeAdvisoryBundles, htrusted] at hmerged
  have hmerged : _ = merged := Except.ok.inj hmerged
  dsimp only at hmerged
  rw [sortedAdvisories_eq text hall] at hmerged
  have hlow : positiveInt (.num incoming.generation) = some incoming.generation :=
    if_neg (not_lt.mpr hincoming.generation)
  have hheader : getItem merged "bundle" = .obj
      [("generation", .num incoming.generation), ("generated_at", .str incoming.generatedAt)] := by
    rw [← hmerged]
    rfl
  have hitems : getItemOr merged "advisories" (.arr [])
      = .arr (((byKey (mergedAdvisories text active incoming)).map Prod.snd).map Json.obj) := by
    rw [← hmerged]
    rfl
  have hgeneration : getItem [("generation", .num incoming.generation),
      ("generated_at", .str incoming.generatedAt)] "generation" = .num incoming.generation := rfl
  have hgenerated : getItem [("generation", .num incoming.generation),
      ("generated_at", .str incoming.generatedAt)] "generated_at" = .str incoming.generatedAt := rfl
  have hparse : parseAdvisoryBundle text (some merged) = .ok
      { generation := incoming.generation
        generatedAt := incoming.generatedAt
        advisories := entries.reduceOption
        contentHash := bundleContentHash merged } := by
    unfold parseAdvisoryBundle
    simp only [hheader, hgeneration, hgenerated, hlow, hitems, hmapM, Json.nonemptyStr_str hincoming.generatedAt]
    rfl
  rw [byKey_map]
  exact ⟨_, hparse, hputs⟩

/-- **A merged list is read back** as the entries it was made of, in the order of their identifiers. -/
theorem trustedAdvisories_merged {trustedRaw : Option Dict} {incoming : AdvisoryBundle}
    {active : Fields String Dict} {merged : Dict} (hincoming : incoming.Parsed text)
    (htrusted : trustedAdvisories text trustedRaw = .ok active)
    (hmerged : mergeAdvisoryBundles text trustedRaw incoming = .ok merged) : trustedAdvisories text (some merged)
      = .ok (byKey ((mergedAdvisories text active incoming).map fun e => (e.1, rereadDict text e.2))) := by
  obtain ⟨hkeys, -⟩ := trustedAdvisories_active text htrusted
  obtain ⟨trusted, hparse, hputs⟩ := parseAdvisoryBundle_merged text hincoming htrusted hmerged
  have hnodup : (Fields.keys ((mergedAdvisories text active incoming).map
      fun e => (e.1, rereadDict text e.2))).Nodup := by
    unfold Fields.keys
    rw [List.map_map]
    exact nodup_keys_mergedAdvisories text hkeys
  rw [trustedAdvisories_eq text hparse, hputs, applyAll_puts (nodup_keys_byKey hnodup)]

end

end EnergyCore.Marketplace
