import EnergyCore.Foundations.JsonValues
import EnergyCore.Foundations.KeyedChanges
import EnergyCore.Foundations.Sha256

/-!
# The revocation policy

Revocation bundles are parsed, checked against the generation that is trusted, and merged with the cached list:
active revocations persist unless they are superseded.

* `parseRevocationEntry_entryToDict` — an active entry is read back from its dictionary;
* `mergedActive_eq` — a merge applies the changes of the incoming entries, one after another;
* `trustedActive_merged` — a merged list is read back as the entries it was made of.
-/

namespace EnergyCore.Marketplace

open JsonValues KeywordFields KeyedChanges StepRun
open Sha256

/-! ### Errors -/

inductive MetadataErrorCode where
  | networkError
  | tlsError
  | httpError
  | invalidSignature
  | unknownRoot
  | expiredMetadata
  | metadataRollbackDetected
  | invalidMetadata
  | invalidCache
  | sizeLimitExceeded
  | redirectRejected
  | syncInProgress
  | timeout
  deriving Repr, DecidableEq

/-- `RevocationPolicyError`, and `AdvisoryPolicyError`. -/
structure PolicyError where
  message : String
  errorCode : MetadataErrorCode
  deriving Repr, DecidableEq

def invalidMetadata {α : Type*} (message : String) : Except PolicyError α :=
  .error { message := message, errorCode := .invalidMetadata }

/-! ### Bundles -/

def revokeAction : String := "REVOKE"

def supersedeAction : String := "SUPERSEDE"

/-- An entry; the fields that are copied as they are keep their values, and null where they are missing. -/
structure RevocationEntry where
  revocationId : String
  scope : String
  publisherId : Json
  moduleId : Json
  version : Json
  artifactHash : Json
  reason : Json
  severity : Json
  effectiveAt : Json
  action : String
  supersedesRevocationId : Option String
  deriving Repr

structure RevocationBundle where
  schemaVersion : PyInt
  generation : PyInt
  generatedAt : String
  revocations : List RevocationEntry
  contentHash : String
  deriving Repr

def bundleContentHash (payload : Dict) : String := sha256 (dumps (.obj payload))

section

variable (text : PyText)

def parseRevocationEntry (item : Json) : Except PolicyError RevocationEntry :=
  match item with
  | .obj item =>
    match (getItem item "revocation_id").nonemptyStr with
    | none => invalidMetadata "Missing revocation_id"
    | some revocationId =>
      let action := text.upper (text.str (getItemOr item "action" (.str revokeAction)))
      let supersedes := getItem item "supersedes_revocation_id"
      if action ≠ revokeAction ∧ action ≠ supersedeAction then
        invalidMetadata ("Invalid revocation action: " ++ action)
      else if action = supersedeAction ∧ supersedes.nonemptyStr = none then
        invalidMetadata "SUPERSEDE requires supersedes_revocation_id"
      else
        .ok
          { revocationId := revocationId
            scope := text.str (getItemOr item "scope" (.str "global"))
            publisherId := getItem item "publisher_id"
            moduleId := getItem item "module_id"
            version := getItem item "version"
            artifactHash := getItem item "artifact_hash"
            reason := getItem item "reason"
            severity := getItem item "severity"
            effectiveAt := getItem item "effective_at"
            action := action
            supersedesRevocationId := match supersedes with
              | .str s => some s
              | _ => none }
  | _ => invalidMetadata "Invalid revocation entry"

/-- A generation, which must be positive. -/
def positiveInt : Json → Option PyInt
  | .num n => if n.value < 1 then none else some n
  | _ => none

def parseRevocationBundle (raw : Option Dict) : Except PolicyError RevocationBundle :=
  match raw with
  | none => invalidMetadata "Missing revocation bundle"
  | some raw =>
    match getItem raw "bundle" with
    | .obj bundleMeta =>
      match positiveInt (getItem bundleMeta "generation") with
      | none => invalidMetadata "Invalid revocation generation"
      | some generation =>
        match getItemOr bundleMeta "schema_version" (.num (.int 1)) with
        | .num schemaVersion =>
          match (getItem bundleMeta "generated_at").nonemptyStr with
          | none => invalidMetadata "Invalid revocation generated_at"
          | some generatedAt =>
            match getItem raw "revocations" with
            | .arr items => (items.mapM (parseRevocationEntry text)).map fun entries =>
              { schemaVersion := schemaVersion
                generation := generation
                generatedAt := generatedAt
                revocations := entries
                contentHash := bundleContentHash raw }
            | .null => .ok
                { schemaVersion := schemaVersion
                  generation := generation
                  generatedAt := generatedAt
                  revocations := []
                  contentHash := bundleContentHash raw }
            | _ => invalidMetadata "Invalid revocations list"
        | _ => invalidMetadata "Invalid revocation schema_version"
    | _ => invalidMetadata "Invalid revocation bundle header"

end

def validateRevocationMonotonicity (trustedGeneration : Option ℤ) (trustedHash : Option String)
    (incoming : RevocationBundle) : Except PolicyError Unit :=
  match trustedGeneration with
  | none => .ok ()
  | some trusted =>
    if incoming.generation.value < trusted then
      .error
        { message := "Revocation generation rollback " ++ toString incoming.generation.value ++ " < "
            ++ toString trusted
          errorCode := .metadataRollbackDetected }
    else if incoming.generation.value = trusted ∧ trustedHash.getD "" ≠ "" ∧
        incoming.contentHash ≠ trustedHash.getD "" then
      invalidMetadata ("Revocation generation " ++ toString incoming.generation.value
        ++ " content mutation detected")
    else .ok ()

/-! ### Merging -/

/-- The members of an entry that may be missing. -/
def entryOptions (entry : RevocationEntry) : Dict :=
  [("publisher_id", entry.publisherId), ("module_id", entry.moduleId), ("version", entry.version),
    ("artifact_hash", entry.artifactHash), ("reason", entry.reason), ("severity", entry.severity),
    ("effective_at", entry.effectiveAt),
    ("supersedes_revocation_id", (entry.supersedesRevocationId.map Json.str).getD .null)]

/-- `_entry_to_dict`. -/
def entryToDict (entry : RevocationEntry) : Dict :=
  [("revocation_id", .str entry.revocationId), ("scope", .str entry.scope),
    ("action", .str entry.action)] ++ optionalMembers (entryOptions entry)

/-- The active entries of the cached list; a list that is not a bundle has none. -/
def trustedActive (text : PyText) (trustedRaw : Option Dict) : Fields String Dict :=
  match trustedRaw with
  | none => []
  | some trustedRaw =>
    match parseRevocationBundle text (some trustedRaw) with
    | .error _ => []
    | .ok trusted =>
      run (fun active entry =>
        if entry.action = revokeAction then
          Fields.assign active entry.revocationId (entryToDict entry)
        else active) [] trusted.revocations

/-- One incoming entry. -/
def mergeStep (active : Fields String Dict) (entry : RevocationEntry) : Fields String Dict :=
  if entry.action = supersedeAction ∧ entry.supersedesRevocationId.getD "" ≠ "" then
    pop active (entry.supersedesRevocationId.getD "")
  else if entry.action = revokeAction then
    Fields.assign active entry.revocationId (entryToDict entry)
  else active

/-- The active entries after a merge. -/
def mergedActive (text : PyText) (trustedRaw : Option Dict) (incoming : RevocationBundle) : Fields String Dict :=
  run mergeStep (trustedActive text trustedRaw) incoming.revocations

/-- `sorted(active.values(), key=...)`: the identifier of an entry is its key. -/
def sortedEntries (active : Fields String Dict) : List Dict :=
  (active.map Prod.snd).insertionSort fun d d' =>
    (getItem d "revocation_id").strD ≤ (getItem d' "revocation_id").strD

def mergeRevocationBundles (text : PyText) (trustedRaw : Option Dict) (incoming : RevocationBundle) : Dict :=
  [("bundle", .obj
      [("schema_version", .num incoming.schemaVersion), ("generation", .num incoming.generation),
        ("generated_at", .str incoming.generatedAt)]),
    ("revocations", .arr ((sortedEntries (mergedActive text trustedRaw incoming)).map Json.obj))]

/-- `revocations_changed`. -/
def revocationsChanged (beforeRaw afterRaw : Option Dict) : Bool :=
  match beforeRaw, afterRaw with
  | none, none => false
  | some before, some after => decide (bundleContentHash before ≠ bundleContentHash after)
  | _, _ => true

/-! ### Entries are read back -/

/-- What parsing demands of an entry. -/
structure RevocationEntry.Parsed (entry : RevocationEntry) : Prop where
  named : entry.revocationId ≠ ""
  action : entry.action = revokeAction ∨ entry.action = supersedeAction
  superseded : entry.action = supersedeAction → entry.supersedesRevocationId.getD "" ≠ ""

theorem revokeAction_ne : revokeAction ≠ supersedeAction := by decide

section

variable (text : PyText)

theorem parseRevocationEntry_parsed {item : Json} {entry : RevocationEntry}
    (h : parseRevocationEntry text item = .ok entry) : entry.Parsed := by
  unfold parseRevocationEntry at h
  split at h
  · rename_i item
    split at h
    · cases h
    · rename_i revocationId hid
      dsimp only at h
      split_ifs at h with haction hsupersedes
      · cases h
      · cases h
      · cases h
        refine ⟨(Json.nonemptyStr_eq_some hid).2, ?_, fun hsupersede => ?_⟩
        · by_contra hneither
          rw [not_or] at hneither
          exact haction hneither
        · cases hvalue : getItem item "supersedes_revocation_id" with
          | str s =>
            intro hempty
            refine hsupersedes ⟨hsupersede, ?_⟩
            rw [hvalue]
            exact if_pos hempty
          | null | num _ | float _ | arr _ | obj _ =>
            exact absurd ⟨hsupersede, by rw [hvalue]; rfl⟩ hsupersedes
  · cases h

/-- A member that may be missing is read from the dictionary of an entry. -/
theorem getItem_entryToDict (entry : RevocationEntry) (key : String) (h : key ∉ ["revocation_id", "scope", "action"]) :
    getItem (entryToDict entry) key = getItem (entryOptions entry) key := by
  have hnodup : ((entryOptions entry).map Prod.fst).Nodup := by
    show ["publisher_id", "module_id", "version", "artifact_hash", "reason", "severity", "effective_at",
      "supersedes_revocation_id"].Nodup
    decide
  rw [← getItem_optionalMembers hnodup]
  unfold getItem getItemOr entryToDict
  rw [findItem_append, findItem_eq_none h, Option.none_or]

/-- **Active entries are read back** from their dictionaries. -/
theorem parseRevocationEntry_entryToDict {entry : RevocationEntry} (hid : entry.revocationId ≠ "")
    (haction : entry.action = revokeAction) : parseRevocationEntry text (.obj (entryToDict entry)) = .ok entry := by
  have hrevoke : text.upper revokeAction = revokeAction := text.upper_of_all (by decide +kernel)
  have hidItem : getItem (entryToDict entry) "revocation_id" = .str entry.revocationId := rfl
  have hactionItem : getItemOr (entryToDict entry) "action" (.str revokeAction) = .str entry.action := rfl
  have hscopeItem : getItemOr (entryToDict entry) "scope" (.str "global") = .str entry.scope := rfl
  have hsupersedesItem : getItem (entryToDict entry) "supersedes_revocation_id"
      = (entry.supersedesRevocationId.map Json.str).getD .null :=
    getItem_entryToDict entry _ (by decide)
  unfold parseRevocationEntry
  simp only [hidItem, Json.nonemptyStr_str hid, hactionItem, hscopeItem, text.str_str, haction, hrevoke,
    hsupersedesItem]
  rw [if_neg (fun h => h.1 rfl), if_neg (fun h => revokeAction_ne h.1),
    getItem_entryToDict entry "publisher_id" (by decide),
    getItem_entryToDict entry "module_id" (by decide),
    getItem_entryToDict entry "version" (by decide),
    getItem_entryToDict entry "artifact_hash" (by decide),
    getItem_entryToDict entry "reason" (by decide),
    getItem_entryToDict entry "severity" (by decide),
    getItem_entryToDict entry "effective_at" (by decide)]
  have hsupersedes : (match (entry.supersedesRevocationId.map Json.str).getD .null with
      | .str s => some s
      | _ => none) = entry.supersedesRevocationId := by
    cases entry.supersedesRevocationId with
    | none => rfl
    | some s => rfl
  rw [hsupersedes, ← haction]
  rfl

/-! ### The merge as a log of changes -/

/-- What an incoming entry changes. -/
def entryChanges (entry : RevocationEntry) : List (Change String Dict) :=
  if entry.action = supersedeAction ∧ entry.supersedesRevocationId.getD "" ≠ "" then
    [.drop (entry.supersedesRevocationId.getD "")]
  else if entry.action = revokeAction then [.put entry.revocationId (entryToDict entry)]
  else []

/-- **The merge is a log**: the changes of the incoming entries, one after another. -/
theorem mergedActive_eq (trustedRaw : Option Dict) (incoming : RevocationBundle) :
    mergedActive text trustedRaw incoming
      = applyAll (trustedActive text trustedRaw) (incoming.revocations.flatMap entryChanges) := by
  refine run_eq_applyAll (fun active entry => ?_) _ _
  unfold mergeStep entryChanges
  split_ifs
  · rfl
  · rfl
  · rfl

/-- An active entry: a revocation that is kept under its identifier. -/
def IsActive (k : String) (d : Dict) : Prop :=
  ∃ entry : RevocationEntry, entry.revocationId = k ∧ k ≠ "" ∧ entry.action = revokeAction ∧
    d = entryToDict entry

theorem isActive_of_put {entries : List RevocationEntry} (h : ∀ entry ∈ entries, entry.Parsed)
    {k : String} {d : Dict} (hput : Change.put k d ∈ entries.flatMap entryChanges) : IsActive k d := by
  obtain ⟨entry, hentry, hput⟩ := List.mem_flatMap.mp hput
  unfold entryChanges at hput
  split_ifs at hput with hsupersede hrevoke
  · cases List.mem_singleton.mp hput
  · cases List.mem_singleton.mp hput
    exact ⟨entry, rfl, (h entry hentry).named, hrevoke, rfl⟩
  · exact absurd hput List.not_mem_nil

/-- What parsing demands of a bundle. -/
structure RevocationBundle.Parsed (bundle : RevocationBundle) : Prop where
  generation : 1 ≤ bundle.generation.value
  generatedAt : bundle.generatedAt ≠ ""
  entries : ∀ entry ∈ bundle.revocations, entry.Parsed

theorem positiveInt_eq_some {value : Json} {n : PyInt} (h : positiveInt value = some n) :
    value = .num n ∧ 1 ≤ n.value := by
  cases value with
  | num n' =>
    rw [positiveInt] at h
    split_ifs at h with hlow
    rw [Option.some.injEq] at h
    exact ⟨congrArg Json.num h, h ▸ not_lt.mp hlow⟩
  | null | float _ | str _ | arr _ | obj _ => cases h

theorem parseRevocationBundle_parsed {raw : Dict} {bundle : RevocationBundle}
    (h : parseRevocationBundle text (some raw) = .ok bundle) :
    bundle.Parsed ∧ bundle.contentHash = bundleContentHash raw := by
  unfold parseRevocationBundle at h
  dsimp only at h
  split at h
  · split at h
    · cases h
    · rename_i generation hgeneration
      split at h
      · split at h
        · cases h
        · rename_i generatedAt hgenerated
          have hlow := (positiveInt_eq_some hgeneration).2
          have hnonempty := (Json.nonemptyStr_eq_some hgenerated).2
          split at h
          · rename_i items hitems
            cases hentries : items.mapM (parseRevocationEntry text) with
            | error error => rw [hentries] at h; cases h
            | ok entries =>
              rw [hentries] at h
              cases h
              refine ⟨⟨hlow, hnonempty, fun entry hentry => ?_⟩, rfl⟩
              obtain ⟨item, -, hitem⟩ := mem_of_mapM_ok hentries entry hentry
              exact parseRevocationEntry_parsed text hitem
          · cases h
            exact ⟨⟨hlow, hnonempty, fun entry hentry => absurd hentry List.not_mem_nil⟩, rfl⟩
          · cases h
      · cases h
  · cases h

/-! ### A merged list is read back -/

/-- The entries that a cached list keeps active. -/
def keptChanges (entry : RevocationEntry) : List (Change String Dict) :=
  if entry.action = revokeAction then [.put entry.revocationId (entryToDict entry)] else []

theorem trustedActive_eq {raw : Dict} {trusted : RevocationBundle}
    (h : parseRevocationBundle text (some raw) = .ok trusted) :
    trustedActive text (some raw) = applyAll [] (trusted.revocations.flatMap keptChanges) := by
  unfold trustedActive
  simp only [h]
  refine run_eq_applyAll (fun active entry => ?_) _ _
  unfold keptChanges
  split_ifs
  · rfl
  · rfl

theorem nodup_keys_trustedActive (trustedRaw : Option Dict) : (Fields.keys (trustedActive text trustedRaw)).Nodup := by
  cases trustedRaw with
  | none => exact List.nodup_nil
  | some raw =>
    cases hparse : parseRevocationBundle text (some raw) with
    | error error =>
      unfold trustedActive
      simp only [hparse]
      exact List.nodup_nil
    | ok trusted =>
      rw [trustedActive_eq text hparse]
      exact nodup_keys_applyAll nodup_keys_nil _

theorem isActive_of_trustedActive {trustedRaw : Option Dict} {k : String} {d : Dict}
    (h : (k, d) ∈ trustedActive text trustedRaw) : IsActive k d := by
  cases trustedRaw with
  | none => exact absurd h List.not_mem_nil
  | some raw =>
    cases hparse : parseRevocationBundle text (some raw) with
    | error error =>
      unfold trustedActive at h
      simp only [hparse] at h
      exact absurd h List.not_mem_nil
    | ok trusted =>
      rw [trustedActive_eq text hparse] at h
      refine forall_mem_applyAll (P := IsActive) nodup_keys_nil
        (fun k d hmem => absurd hmem List.not_mem_nil) (fun k d hput => ?_) h
      obtain ⟨entry, hentry, hput⟩ := List.mem_flatMap.mp hput
      unfold keptChanges at hput
      split_ifs at hput with hrevoke
      · cases List.mem_singleton.mp hput
        have hparsed := (parseRevocationBundle_parsed text hparse).1.entries entry hentry
        exact ⟨entry, rfl, hparsed.named, hrevoke, rfl⟩
      · exact absurd hput List.not_mem_nil

theorem isActive_of_mergedActive {incoming : RevocationBundle} (hincoming : incoming.Parsed)
    (trustedRaw : Option Dict) {k : String} {d : Dict}
    (h : (k, d) ∈ mergedActive text trustedRaw incoming) : IsActive k d := by
  rw [mergedActive_eq] at h
  exact forall_mem_applyAll (P := IsActive) (nodup_keys_trustedActive text trustedRaw)
    (fun k d => isActive_of_trustedActive text) (fun k d => isActive_of_put hincoming.entries) h

theorem nodup_keys_mergedActive (trustedRaw : Option Dict) (incoming : RevocationBundle) :
    (Fields.keys (mergedActive text trustedRaw incoming)).Nodup := by
  rw [mergedActive_eq]
  exact nodup_keys_applyAll (nodup_keys_trustedActive text trustedRaw) _

/-- The entries of a merged list are sorted by the keys they are kept under. -/
theorem sortedEntries_eq {active : Fields String Dict} (h : ∀ k d, (k, d) ∈ active → IsActive k d) :
    sortedEntries active = (byKey active).map Prod.snd := by
  unfold sortedEntries byKey
  rw [List.map_insertionSort (r := fun e e' : String × Dict => e.1 ≤ e'.1)
    (s := fun d d' : Dict => (getItem d "revocation_id").strD ≤ (getItem d' "revocation_id").strD)
    Prod.snd active]
  intro e he e' he'
  obtain ⟨entry, hid, -, -, hdict⟩ := h e.1 e.2 he
  obtain ⟨entry', hid', -, -, hdict'⟩ := h e'.1 e'.2 he'
  rw [hdict, hdict', ← hid, ← hid']
  rfl

theorem mapM_parseRevocationEntry {active : Fields String Dict} (h : ∀ k d, (k, d) ∈ active → IsActive k d) :
    ∃ entries : List RevocationEntry,
      ((active.map Prod.snd).map Json.obj).mapM (parseRevocationEntry text) = .ok entries ∧
      entries.flatMap keptChanges = puts active := by
  induction active with
  | nil => exact ⟨[], rfl, rfl⟩
  | cons e active ih =>
    obtain ⟨entries, hmapM, hputs⟩ := ih fun k d hmem => h k d (List.mem_cons_of_mem e hmem)
    obtain ⟨entry, hid, hne, haction, hdict⟩ := h e.1 e.2 List.mem_cons_self
    refine ⟨entry :: entries, ?_, ?_⟩
    · rw [List.map_cons, List.map_cons, List.mapM_cons, hdict,
        parseRevocationEntry_entryToDict text (hid ▸ hne) haction, hmapM]
      rfl
    · rw [List.flatMap_cons, hputs, keptChanges, if_pos haction, hid, ← hdict]
      rfl

/-- A merged list is parsed without an error. -/
theorem parseRevocationBundle_merged {incoming : RevocationBundle} (hincoming : incoming.Parsed)
    (trustedRaw : Option Dict) :
    ∃ bundle, parseRevocationBundle text (some (mergeRevocationBundles text trustedRaw incoming)) = .ok bundle ∧
      bundle.revocations.flatMap keptChanges = puts (byKey (mergedActive text trustedRaw incoming)) := by
  have hactive := fun k d => isActive_of_mergedActive text hincoming trustedRaw (k := k) (d := d)
  have hsorted : ∀ k d, (k, d) ∈ byKey (mergedActive text trustedRaw incoming) → IsActive k d :=
    fun k d hmem => hactive k d ((byKey_perm _).mem_iff.mp hmem)
  obtain ⟨entries, hmapM, hputs⟩ := mapM_parseRevocationEntry text hsorted
  have hlow : positiveInt (.num incoming.generation) = some incoming.generation :=
    if_neg (not_lt.mpr hincoming.generation)
  refine ⟨{
    schemaVersion := incoming.schemaVersion
    generation := incoming.generation
    generatedAt := incoming.generatedAt
    revocations := entries
    contentHash := bundleContentHash (mergeRevocationBundles text trustedRaw incoming) }, ?_, hputs⟩
  have hheader : getItem (mergeRevocationBundles text trustedRaw incoming) "bundle" = .obj
      [("schema_version", .num incoming.schemaVersion), ("generation", .num incoming.generation),
        ("generated_at", .str incoming.generatedAt)] := rfl
  have hitems : getItem (mergeRevocationBundles text trustedRaw incoming) "revocations"
      = .arr (((byKey (mergedActive text trustedRaw incoming)).map Prod.snd).map Json.obj) := by
    rw [← sortedEntries_eq hactive]
    rfl
  have hgeneration : getItem [("schema_version", .num incoming.schemaVersion),
      ("generation", .num incoming.generation), ("generated_at", .str incoming.generatedAt)] "generation"
      = .num incoming.generation := rfl
  have hschema : getItemOr [("schema_version", .num incoming.schemaVersion),
      ("generation", .num incoming.generation), ("generated_at", .str incoming.generatedAt)]
      "schema_version" (.num (.int 1)) = .num incoming.schemaVersion := rfl
  have hgenerated : getItem [("schema_version", .num incoming.schemaVersion),
      ("generation", .num incoming.generation), ("generated_at", .str incoming.generatedAt)]
      "generated_at" = .str incoming.generatedAt := rfl
  unfold parseRevocationBundle
  simp only [hheader, hgeneration, hschema, hgenerated, hlow, hitems, hmapM,
    Json.nonemptyStr_str hincoming.generatedAt]
  rfl

/-- **A merged list is read back** as the entries it was made of, in the order of their identifiers. -/
theorem trustedActive_merged {incoming : RevocationBundle} (hincoming : incoming.Parsed)
    (trustedRaw : Option Dict) : trustedActive text (some (mergeRevocationBundles text trustedRaw incoming))
      = byKey (mergedActive text trustedRaw incoming) := by
  obtain ⟨bundle, hparse, hputs⟩ := parseRevocationBundle_merged text hincoming trustedRaw
  rw [trustedActive_eq text hparse, hputs,
    applyAll_puts (nodup_keys_byKey (nodup_keys_mergedActive text trustedRaw incoming))]

end

end EnergyCore.Marketplace
