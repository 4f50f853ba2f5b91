import EnergyCore.SupplyChain.VulnerabilityMatcher
import EnergyCore.Marketplace.TrustRuns

/-!
# The advisory feed

The advisory bundles that are accepted one after another, and the list that is cached of them. The cached list is
written as dictionaries and parsed again by the next merge.

* `tracks_feed` — after every feed, the list holds the advisories whose last entry is not withdrawn, as they are
  read back;
* `advisories_live_iff` — the list holds what the feed introduced and nothing withdrew or superseded, and nothing that
  matching reads is lost, exactly along the feeds whose bundles do not do three things;
* `listed_run_iff` — what a run of the trust cache lists.
-/

namespace EnergyCore.SupplyChain

open JsonValues KeywordFields KeyedChanges StepRun
open Marketplace

/-! ### What matching reads -/

/-- The fields of an advisory that matching reads. -/
structure MatchFields where
  advisoryId : String
  severity : SecuritySeverity
  affectedPurl : Json
  affectedPackage : Json
  affectedVersionRange : Json
  fixedVersions : List String
  withdrawn : Bool

def matchFields (adv : AdvisoryEntry) : MatchFields where
  advisoryId := adv.advisoryId
  severity := adv.severity
  affectedPurl := adv.affectedPurl
  affectedPackage := adv.affectedPackage
  affectedVersionRange := adv.affectedVersionRange
  fixedVersions := adv.fixedVersions
  withdrawn := adv.withdrawn

/-! ### Accepted bundles -/

variable (text : PyText)

/-- A payload that parses as an advisory bundle. -/
structure IncomingAdvisories where
  raw : Dict
  bundle : AdvisoryBundle
  parsed : parseAdvisoryBundle text (some raw) = .ok bundle

variable {text}

/-- The entry of an identifier that comes last. -/
def lastEntry (entries : List AdvisoryEntry) (advisoryId : String) : Option AdvisoryEntry :=
  (entries.filter fun entry => decide (entry.advisoryId = advisoryId)).getLast?

namespace IncomingAdvisories

variable (incoming : IncomingAdvisories text) (advisoryId : String)

/-- The items of the list, before they are parsed. -/
def items : List Json := (getItemOr incoming.raw "advisories" (.arr [])).asList

/-- The bundle brings the advisory. -/
def Introduces : Prop :=
  ∃ entry ∈ incoming.bundle.advisories, entry.advisoryId = advisoryId ∧ entry.isWithdrawn text = false

/-- The bundle withdraws the advisory. -/
def Withdraws : Prop :=
  ∃ entry ∈ incoming.bundle.advisories, entry.advisoryId = advisoryId ∧ entry.isWithdrawn text = true

/-- An item of the bundle is a superseding entry, and names the advisory. -/
def Supersedes : Prop :=
  ∃ item ∈ incoming.items, ∃ entry, parseAdvisoryEntry text item = .ok (some entry) ∧
    entry.isWithdrawn text = false ∧ entry.status = "SUPERSEDE" ∧
    (getItem item.asDict "supersedes_advisory_id").nonemptyStr = some advisoryId

end IncomingAdvisories

/-! ### The cached list -/

/-- The identifier stands in the cached list. -/
def Listed (cached : Option Dict) (advisoryId : String) : Prop :=
  ∃ raw, cached = some raw ∧ ∃ item ∈ (getItemOr raw "advisories" (.arr [])).asList,
    (getItem item.asDict "advisory_id").strD = advisoryId

/-- The cached list, parsed again, holds an advisory with all that matching reads of this one. -/
def Survives (text : PyText) (cached : Option Dict) (entry : AdvisoryEntry) : Prop :=
  ∃ raw bundle, cached = some raw ∧ parseAdvisoryBundle text (some raw) = .ok bundle ∧
    ∃ entry' ∈ bundle.advisories, matchFields entry' = matchFields entry

/-- The list after a merge. -/
def mergeNext (cached : Option Dict) (incoming : IncomingAdvisories text) : Option Dict :=
  match mergeAdvisoryBundles text cached incoming.bundle with
  | .ok merged => some merged
  | .error _ => cached

/-! ### Feeds -/

/-- The cached list, with the bundles that were accepted so far. -/
abbrev Feed (text : PyText) := Option Dict × List (IncomingAdvisories text)

def feedStep (s : Feed text) (incoming : IncomingAdvisories text) : Feed text :=
  (mergeNext s.1 incoming, s.2 ++ [incoming])

/-- All entries of a feed, in their order. -/
def allEntries (past : List (IncomingAdvisories text)) : List AdvisoryEntry :=
  past.flatMap fun incoming => incoming.bundle.advisories

/-- Some bundle introduced the advisory, and neither it nor a later one withdrew or superseded it. -/
def Lives (past : List (IncomingAdvisories text)) (advisoryId : String) : Prop :=
  ∃ before incoming after, past = before ++ incoming :: after ∧ incoming.Introduces advisoryId ∧
    ∀ later ∈ incoming :: after, ¬ later.Withdraws advisoryId ∧ ¬ later.Supersedes advisoryId

/-- **A list that is faithful to its feed**: it holds the advisories that live, with all that matching reads of them. -/
structure Faithful (s : Feed text) : Prop where
  listed : ∀ advisoryId, Listed s.1 advisoryId ↔ Lives s.2 advisoryId
  survives : ∀ advisoryId entry, lastEntry (allEntries s.2) advisoryId = some entry →
    Listed s.1 advisoryId → Survives text s.1 entry

/-- The fields that are kept by `or`: null, or true. -/
structure Plain (entry : AdvisoryEntry) : Prop where
  affectedPurl : entry.affectedPurl.truthy = true ∨ entry.affectedPurl = .null
  affectedPackage : entry.affectedPackage.truthy = true ∨ entry.affectedPackage = .null
  affectedVersionRange : entry.affectedVersionRange.truthy = true ∨ entry.affectedVersionRange = .null

/-- The advisory is listed after the merge: the bundle's last word on it, or the list's. -/
def Stays (cached : Option Dict) (incoming : IncomingAdvisories text) (advisoryId : String) : Prop :=
  (∃ entry, lastEntry incoming.bundle.advisories advisoryId = some entry ∧ entry.isWithdrawn text = false) ∨
    (lastEntry incoming.bundle.advisories advisoryId = none ∧ Listed cached advisoryId)

/-- **A harmless bundle**: it introduces no advisory after it withdrew it, supersedes none that stays listed, and
introduces none with a value that is false but not null. -/
structure Harmless (cached : Option Dict) (incoming : IncomingAdvisories text) : Prop where
  withdrawn : ∀ advisoryId entry, lastEntry incoming.bundle.advisories advisoryId = some entry →
    entry.isWithdrawn text = false → ¬ incoming.Withdraws advisoryId
  superseded : ∀ advisoryId, incoming.Supersedes advisoryId → ¬ Stays cached incoming advisoryId
  plain : ∀ advisoryId entry, lastEntry incoming.bundle.advisories advisoryId = some entry →
    entry.isWithdrawn text = false → Plain entry

/-! ### Last entries -/

theorem lastEntry_append (entries more : List AdvisoryEntry) (advisoryId : String) :
    lastEntry (entries ++ more) advisoryId = (lastEntry more advisoryId).or (lastEntry entries advisoryId) := by
  unfold lastEntry
  rw [List.filter_append, List.getLast?_append]

theorem mem_of_lastEntry {entries : List AdvisoryEntry} {advisoryId : String} {entry : AdvisoryEntry}
    (h : lastEntry entries advisoryId = some entry) : entry ∈ entries ∧ entry.advisoryId = advisoryId := by
  have hmem := List.mem_of_getLast? h
  rw [List.mem_filter, decide_eq_true_eq] at hmem
  exact hmem

theorem lastEntry_ne_none {entries : List AdvisoryEntry} {entry : AdvisoryEntry} (h : entry ∈ entries) :
    lastEntry entries entry.advisoryId ≠ none := by
  intro hnone
  have hempty := List.getLast?_eq_none_iff.mp hnone
  have hmem : entry ∈ entries.filter fun e => decide (e.advisoryId = entry.advisoryId) :=
    List.mem_filter.mpr ⟨h, decide_eq_true rfl⟩
  rw [hempty] at hmem
  exact absurd hmem List.not_mem_nil

theorem allEntries_concat (past : List (IncomingAdvisories text)) (incoming : IncomingAdvisories text) :
    allEntries (past ++ [incoming]) = allEntries past ++ incoming.bundle.advisories := by
  unfold allEntries
  rw [List.flatMap_append, List.flatMap_singleton]

/-- The last change of an advisory is that of its last entry. -/
theorem lastChange_advisoryChanges (entries : List AdvisoryEntry) (advisoryId : String) :
    (lastChange (entries.flatMap (advisoryChanges text)) advisoryId).map Change.value
      = (lastEntry entries advisoryId).map fun entry =>
        if entry.isWithdrawn text then none else some (advisoryToDict entry) := by
  induction entries using List.reverseRecOn with
  | nil => rfl
  | append_singleton entries entry ih =>
    have hchange : ∃ c, advisoryChanges text entry = [c] ∧ c.key = entry.advisoryId ∧
        c.value = if entry.isWithdrawn text then none else some (advisoryToDict entry) := by
      unfold advisoryChanges
      split_ifs
      · exact ⟨_, rfl, rfl, rfl⟩
      · exact ⟨_, rfl, rfl, rfl⟩
    obtain ⟨c, hc, hkey, hvalue⟩ := hchange
    rw [List.flatMap_append, List.flatMap_singleton, hc, lastChange_concat, lastEntry_append, hkey]
    by_cases hid : entry.advisoryId = advisoryId
    · have hlast : lastEntry [entry] advisoryId = some entry := by
        unfold lastEntry
        rw [List.filter_cons_of_pos (by simpa using hid)]
        rfl
      rw [if_pos hid, hlast, Option.map_some, hvalue]
      rfl
    · have hlast : lastEntry [entry] advisoryId = none := by
        unfold lastEntry
        rw [List.filter_cons_of_neg (by simpa using hid)]
        rfl
      rw [if_neg hid, hlast, Option.none_or]
      exact ih

/-! ### What the list holds -/

/-- What is active of an advisory after a feed: its last entry as it is read back, unless that is withdrawn. -/
def activeOf (past : List (IncomingAdvisories text)) (advisoryId : String) : Option Dict :=
  (lastEntry (allEntries past) advisoryId).bind fun entry =>
    if entry.isWithdrawn text then none else some (advisoryToDict (reread entry))

theorem activeOf_eq_some {past : List (IncomingAdvisories text)} {advisoryId : String} {d : Dict} :
    activeOf past advisoryId = some d ↔
      ∃ entry, lastEntry (allEntries past) advisoryId = some entry ∧ entry.isWithdrawn text = false ∧
        advisoryToDict (reread entry) = d := by
  unfold activeOf
  rw [Option.bind_eq_some_iff]
  refine exists_congr fun entry => and_congr_right fun _ => ?_
  cases entry.isWithdrawn text with
  | true => exact iff_of_false (fun h => by cases h) (fun h => by cases h.1)
  | false => exact ⟨fun h => ⟨rfl, Option.some.inj h⟩, fun h => congrArg some h.2⟩

theorem parsed_of_mem_allEntries {past : List (IncomingAdvisories text)} {entry : AdvisoryEntry}
    (h : entry ∈ allEntries past) : entry.Parsed text := by
  obtain ⟨incoming, -, hentry⟩ := List.mem_flatMap.mp h
  exact (parseAdvisoryBundle_parsed text incoming.parsed).1.entries entry hentry

/-- What is active is not changed by reading it back. -/
theorem map_rereadDict_activeOf (past : List (IncomingAdvisories text)) (advisoryId : String) :
    (activeOf past advisoryId).map (rereadDict text) = activeOf past advisoryId := by
  cases hactive : activeOf past advisoryId with
  | none => rfl
  | some d =>
    obtain ⟨entry, hlast, -, hdict⟩ := activeOf_eq_some.mp hactive
    have hparsed := parsed_of_mem_allEntries (mem_of_lastEntry hlast).1
    rw [← hdict, Option.map_some, rereadDict_advisoryToDict text hparsed.reread, reread_reread]

/-- A cached list that is parsed as these entries. -/
def ReadAs (text : PyText) (cached : Option Dict) (entries : Fields String Dict) : Prop :=
  (cached = none ∧ entries = []) ∨
    ∃ raw trusted, cached = some raw ∧ parseAdvisoryBundle text (some raw) = .ok trusted ∧
      trusted.advisories.flatMap (keptAdvisoryChanges text) = puts entries

theorem trustedAdvisories_of_readAs {cached : Option Dict} {entries : Fields String Dict}
    (hnodup : (Fields.keys entries).Nodup) (h : ReadAs text cached entries) :
    trustedAdvisories text cached = .ok entries := by
  rcases h with ⟨hcached, hentries⟩ | ⟨raw, trusted, hcached, hparse, hputs⟩
  · rw [hcached, hentries]
    rfl
  · rw [hcached, trustedAdvisories_eq text hparse, hputs, applyAll_puts hnodup]

/-- What the cached list keeps of its feed. -/
structure Tracks (s : Feed text) : Prop where
  read : ∃ entries, (Fields.keys entries).Nodup ∧ ReadAs text s.1 entries ∧
    ∀ advisoryId, Fields.get entries advisoryId = activeOf s.2 advisoryId
  listed : ∀ advisoryId, Listed s.1 advisoryId ↔ activeOf s.2 advisoryId ≠ none

/-- What stands in a merged list is what is active after the merge. -/
theorem listed_merged_iff {cached : Option Dict} {incoming : IncomingAdvisories text}
    {active : Fields String Dict} {merged : Dict} (htrusted : trustedAdvisories text cached = .ok active)
    (hmerged : mergeAdvisoryBundles text cached incoming.bundle = .ok merged) (advisoryId : String) :
    Listed (some merged) advisoryId ↔ Fields.get (mergedAdvisories text active incoming.bundle) advisoryId ≠ none := by
  obtain ⟨hkeys, hactive⟩ := trustedAdvisories_active text htrusted
  have hincoming := (parseAdvisoryBundle_parsed text incoming.parsed).1
  have hall := fun k d => isActiveAdvisory_of_merged text hincoming hkeys hactive (k := k) (d := d)
  have hnodup : (Fields.keys (mergedAdvisories text active incoming.bundle)).Nodup :=
    nodup_keys_mergedAdvisories text hkeys
  rw [mergeAdvisoryBundles, htrusted] at hmerged
  have hmerged : _ = merged := Except.ok.inj hmerged
  dsimp only at hmerged
  rw [sortedAdvisories_eq text hall] at hmerged
  have hitems : (getItemOr merged "advisories" (.arr [])).asList
      = ((byKey (mergedAdvisories text active incoming.bundle)).map Prod.snd).map Json.obj := by
    rw [← hmerged]
    rfl
  rw [Option.ne_none_iff_exists']
  constructor
  · rintro ⟨raw, hraw, item, hitem, hid⟩
    rw [← Option.some.inj hraw, hitems, List.map_map] at hitem
    obtain ⟨⟨k, d⟩, he, rfl⟩ := List.mem_map.mp hitem
    rw [(byKey_perm _).mem_iff] at he
    obtain ⟨entry, hkey, -, -, hdict⟩ := hall k d he
    have hname : k = advisoryId := by
      rw [← hid, ← hkey]
      show entry.advisoryId = (getItem d "advisory_id").strD
      rw [hdict]
      rfl
    exact ⟨d, (get_eq_some_iff hnodup).mpr (hname ▸ he)⟩
  · rintro ⟨d, hd⟩
    have hmem := (get_eq_some_iff hnodup).mp hd
    obtain ⟨entry, hkey, -, -, hdict⟩ := hall advisoryId d hmem
    refine ⟨merged, rfl, .obj d, ?_, ?_⟩
    · rw [hitems, List.map_map]
      exact List.mem_map.mpr ⟨(advisoryId, d), (byKey_perm _).mem_iff.mpr hmem, rfl⟩
    · show (getItem d "advisory_id").strD = advisoryId
      rw [hdict, ← hkey]
      rfl

/-- The active entry of an advisory after a merge, before it is read back. -/
theorem get_mergedAdvisories (active : Fields String Dict) (incoming : AdvisoryBundle) (advisoryId : String) :
    Fields.get (mergedAdvisories text active incoming) advisoryId
      = ((lastEntry incoming.advisories advisoryId).map fun entry =>
        if entry.isWithdrawn text then none else some (advisoryToDict entry)).getD
          (Fields.get active advisoryId) := by
  rw [mergedAdvisories_eq, get_applyAll, lastChange_advisoryChanges]

/-- **One merge.** -/
theorem tracks_feedStep {s : Feed text} (h : Tracks s) (incoming : IncomingAdvisories text) :
    Tracks (feedStep s incoming) := by
  obtain ⟨cached, past⟩ := s
  obtain ⟨active, hkeys, hreadAs, hget⟩ := h.read
  have htrusted : trustedAdvisories text cached = .ok active := trustedAdvisories_of_readAs hkeys hreadAs
  have hincoming := (parseAdvisoryBundle_parsed text incoming.parsed).1
  obtain ⟨merged, hmerged⟩ : ∃ merged, mergeAdvisoryBundles text cached incoming.bundle = .ok merged := by
    rw [mergeAdvisoryBundles, htrusted]
    exact ⟨_, rfl⟩
  have hnext : mergeNext cached incoming = some merged := by
    unfold mergeNext
    rw [hmerged]
  obtain ⟨trusted, hparse, hputs⟩ := parseAdvisoryBundle_merged text hincoming htrusted hmerged
  have hnodup : (Fields.keys ((mergedAdvisories text active incoming.bundle).map
      fun e => (e.1, rereadDict text e.2))).Nodup := by
    unfold Fields.keys
    rw [List.map_map]
    exact nodup_keys_mergedAdvisories text hkeys
  -- The last entry of the bundle decides, and otherwise the list that was read.
  have hlast : ∀ advisoryId, (Fields.get (mergedAdvisories text active incoming.bundle) advisoryId).map
      (rereadDict text) = activeOf (past ++ [incoming]) advisoryId := by
    intro advisoryId
    rw [get_mergedAdvisories]
    cases hentry : lastEntry incoming.bundle.advisories advisoryId with
    | some entry =>
      obtain ⟨hmem, -⟩ := mem_of_lastEntry hentry
      unfold activeOf
      rw [allEntries_concat, lastEntry_append, hentry, Option.map_some, Option.getD_some, Option.some_or,
        Option.bind_some]
      cases entry.isWithdrawn text with
      | true => rfl
      | false => exact congrArg some (rereadDict_advisoryToDict text (hincoming.entries entry hmem))
    | none =>
      rw [Option.map_none, Option.getD_none, hget, map_rereadDict_activeOf]
      unfold activeOf
      rw [allEntries_concat, lastEntry_append, hentry, Option.none_or]
  refine ⟨⟨_, nodup_keys_byKey hnodup, .inr ⟨merged, trusted, hnext, hparse, hputs⟩, fun advisoryId => ?_⟩,
    fun advisoryId => ?_⟩
  · rw [get_byKey hnodup, Fields.get_map_entries fun _ => rereadDict text]
    exact hlast advisoryId
  · show Listed (mergeNext cached incoming) advisoryId ↔ activeOf (past ++ [incoming]) advisoryId ≠ none
    rw [hnext, listed_merged_iff htrusted hmerged, ← hlast, ne_eq, ne_eq, Option.map_eq_none_iff]

/-- Nothing is listed before the first merge. -/
theorem tracks_new : Tracks ((none, []) : Feed text) where
  read := ⟨[], nodup_keys_nil, .inl ⟨rfl, rfl⟩, fun _ => rfl⟩
  listed _ := iff_of_false (fun ⟨raw, h, _⟩ => by cases h) fun h => h rfl

/-- **Every feed** leaves a list that holds the advisories whose last entry is not withdrawn. -/
theorem tracks_feed (feed : List (IncomingAdvisories text)) : Tracks (run feedStep (none, []) feed) := by
  have hall : AllSteps feedStep (fun _ _ => True) ((none, []) : Feed text) feed :=
    AllSteps.of_forall_mem (P := fun _ => True) fun _ _ => trivial
  exact AllSteps.preserves (I := Tracks) (fun s incoming h _ => tracks_feedStep h incoming) tracks_new hall

theorem Tracks.listed_iff {s : Feed text} (h : Tracks s) (advisoryId : String) : Listed s.1 advisoryId ↔
      ∃ entry, lastEntry (allEntries s.2) advisoryId = some entry ∧ entry.isWithdrawn text = false := by
  rw [h.listed, Option.ne_none_iff_exists']
  constructor
  · rintro ⟨d, hd⟩
    obtain ⟨entry, hlast, hactive, -⟩ := activeOf_eq_some.mp hd
    exact ⟨entry, hlast, hactive⟩
  · rintro ⟨entry, hlast, hactive⟩
    exact ⟨_, activeOf_eq_some.mpr ⟨entry, hlast, hactive, rfl⟩⟩

/-! ### What is lost by reading back -/

theorem orElse_null_eq_iff (value : Json) : value.orElse .null = value ↔ value.truthy = true ∨ value = .null := by
  unfold Json.orElse
  cases htruthy : value.truthy with
  | true => exact iff_of_true rfl (.inl rfl)
  | false =>
    rw [if_neg Bool.false_ne_true, or_iff_right Bool.false_ne_true]
    exact eq_comm

theorem withdrawn_of_active {entry : AdvisoryEntry} (h : entry.isWithdrawn text = false) :
    entry.withdrawn = false := by
  unfold AdvisoryEntry.isWithdrawn at h
  exact (Bool.or_eq_false_iff.mp h).1

/-- Reading an entry back keeps what matching reads exactly if its fields are plain. -/
theorem matchFields_reread_iff {entry : AdvisoryEntry} (hparsed : entry.Parsed text)
    (hactive : entry.isWithdrawn text = false) : matchFields (reread entry) = matchFields entry ↔ Plain entry := by
  have hwithdrawn : (reread entry).withdrawn = entry.withdrawn := by
    rw [withdrawn_of_active hactive]
    exact withdrawn_of_active ((isWithdrawn_reread text hparsed).trans hactive)
  unfold matchFields
  rw [MatchFields.mk.injEq, hwithdrawn]
  constructor
  · rintro ⟨-, -, hpurl, hpackage, hrange, -, -⟩
    exact ⟨(orElse_null_eq_iff _).mp hpurl, (orElse_null_eq_iff _).mp hpackage, (orElse_null_eq_iff _).mp hrange⟩
  · rintro ⟨hpurl, hpackage, hrange⟩
    exact ⟨rfl, rfl, (orElse_null_eq_iff _).mpr hpurl, (orElse_null_eq_iff _).mpr hpackage,
      (orElse_null_eq_iff _).mpr hrange, rfl, rfl⟩

/-- The dictionary of an entry holds what matching reads. -/
theorem matchFields_of_advisoryToDict {entry entry' : AdvisoryEntry}
    (h : advisoryToDict entry' = advisoryToDict entry) (hwithdrawn : entry'.withdrawn = entry.withdrawn) :
    matchFields entry' = matchFields entry := by
  unfold advisoryToDict at h
  simp only [List.cons.injEq, Prod.mk.injEq, Json.str.injEq, Json.obj.injEq, Json.arr.injEq, true_and, and_true] at h
  obtain ⟨hid, hseverity, -, -, -, hpurl, hpackage, hrange, hfixed⟩ := h
  have hseverity : entry'.severity = entry.severity := by
    rw [← SecuritySeverity.ofLabel_label entry'.severity, hseverity, SecuritySeverity.ofLabel_label]
  have hfixed : entry'.fixedVersions = entry.fixedVersions :=
    List.map_injective_iff.mpr (fun s s' h => Json.str.inj h) hfixed
  unfold matchFields
  rw [hid, hseverity, hpurl, hpackage, hrange, hfixed, hwithdrawn]

/-- An active advisory survives exactly if its fields are plain. -/
theorem survives_iff {s : Feed text} (h : Tracks s) {advisoryId : String} {entry : AdvisoryEntry}
    (hlast : lastEntry (allEntries s.2) advisoryId = some entry)
    (hactive : entry.isWithdrawn text = false) : Survives text s.1 entry ↔ Plain entry := by
  obtain ⟨hmem, hid⟩ := mem_of_lastEntry hlast
  have hparsed := parsed_of_mem_allEntries hmem
  obtain ⟨entries, hnodup, hread, hget⟩ := h.read
  have hfound : (advisoryId, advisoryToDict (reread entry)) ∈ entries := by
    rw [← get_eq_some_iff hnodup, hget]
    exact activeOf_eq_some.mpr ⟨entry, hlast, hactive, rfl⟩
  rcases hread with ⟨-, hempty⟩ | ⟨raw, trusted, hcached, hparse, hputs⟩
  · rw [hempty] at hfound
    exact absurd hfound List.not_mem_nil
  have hreread : (reread entry).isWithdrawn text = false := (isWithdrawn_reread text hparsed).trans hactive
  -- The entry of the parsed list is the one that was read back.
  have hentry : ∀ entry' ∈ trusted.advisories, entry'.isWithdrawn text = false →
      entry'.advisoryId = advisoryId → matchFields entry' = matchFields (reread entry) := by
    intro entry' hentry' hactive' hid'
    have hput : Change.put advisoryId (advisoryToDict entry')
        ∈ trusted.advisories.flatMap (keptAdvisoryChanges text) := by
      refine List.mem_flatMap.mpr ⟨entry', hentry', ?_⟩
      unfold keptAdvisoryChanges
      rw [hactive', if_neg Bool.false_ne_true, hid']
      exact List.mem_singleton_self _
    rw [hputs] at hput
    obtain ⟨e, he, hchange⟩ := List.mem_map.mp hput
    obtain ⟨hkey, hdict⟩ := Change.put.inj hchange
    have hvalue : (advisoryId, advisoryToDict entry') ∈ entries := by
      rw [← hkey, ← hdict]
      exact he
    have hsame := (get_eq_some_iff hnodup).mpr hvalue
    rw [(get_eq_some_iff hnodup).mpr hfound, Option.some.injEq] at hsame
    exact matchFields_of_advisoryToDict hsame.symm
      ((withdrawn_of_active hactive').trans (withdrawn_of_active hreread).symm)
  rw [← matchFields_reread_iff hparsed hactive]
  constructor
  · rintro ⟨raw', trusted', hcached', hparse', entry', hentry', hfields⟩
    rw [← Option.some.inj (hcached.symm.trans hcached')] at hparse'
    rw [← Except.ok.inj (hparse.symm.trans hparse')] at hentry'
    have hwithdrawn : entry'.withdrawn = entry.withdrawn := congrArg MatchFields.withdrawn hfields
    have hid' : entry'.advisoryId = entry.advisoryId := congrArg MatchFields.advisoryId hfields
    have hactive' : entry'.isWithdrawn text = false := by
      rw [isWithdrawn_of_mem text hparse hentry', hwithdrawn]
      exact withdrawn_of_active hactive
    exact (hentry entry' hentry' hactive' (hid'.trans hid)).symm.trans hfields
  · intro hfields
    have hput : Change.put advisoryId (advisoryToDict (reread entry)) ∈ puts entries :=
      List.mem_map_of_mem (f := fun e : String × Dict => Change.put e.1 e.2) hfound
    rw [← hputs] at hput
    obtain ⟨entry', hentry', hput⟩ := List.mem_flatMap.mp hput
    unfold keptAdvisoryChanges at hput
    split_ifs at hput with hwithdrawn'
    · exact absurd hput List.not_mem_nil
    · obtain ⟨hid', -⟩ := Change.put.inj (List.mem_singleton.mp hput)
      have hactive' := Bool.eq_false_iff.mpr hwithdrawn'
      exact ⟨raw, trusted, hcached, hparse, entry', hentry', (hentry entry' hentry' hactive' hid'.symm).trans hfields⟩

/-! ### One bundle -/

theorem introduces_of_lastEntry {incoming : IncomingAdvisories text} {advisoryId : String}
    {entry : AdvisoryEntry} (hlast : lastEntry incoming.bundle.advisories advisoryId = some entry)
    (hactive : entry.isWithdrawn text = false) : incoming.Introduces advisoryId := by
  obtain ⟨hmem, hid⟩ := mem_of_lastEntry hlast
  exact ⟨entry, hmem, hid, hactive⟩

theorem withdraws_of_lastEntry {incoming : IncomingAdvisories text} {advisoryId : String}
    {entry : AdvisoryEntry} (hlast : lastEntry incoming.bundle.advisories advisoryId = some entry)
    (hwithdrawn : entry.isWithdrawn text = true) : incoming.Withdraws advisoryId := by
  obtain ⟨hmem, hid⟩ := mem_of_lastEntry hlast
  exact ⟨entry, hmem, hid, hwithdrawn⟩

/-- What lives after one more bundle. -/
theorem lives_concat (past : List (IncomingAdvisories text)) (incoming : IncomingAdvisories text)
    (advisoryId : String) : Lives (past ++ [incoming]) advisoryId ↔
      (¬ incoming.Withdraws advisoryId ∧ ¬ incoming.Supersedes advisoryId) ∧
        (incoming.Introduces advisoryId ∨ Lives past advisoryId) := by
  constructor
  · rintro ⟨before, introducing, after, hpast, hintroduces, hlater⟩
    rcases List.eq_nil_or_concat after with rfl | ⟨after, last, rfl⟩
    · obtain ⟨-, hlast⟩ := List.append_inj' hpast rfl
      obtain ⟨rfl, -⟩ := List.cons.inj hlast
      exact ⟨hlater _ (List.mem_singleton_self _), .inl hintroduces⟩
    · rw [List.concat_eq_append, ← List.cons_append, ← List.append_assoc] at hpast
      obtain ⟨hbefore, hlast⟩ := List.append_inj' hpast rfl
      obtain ⟨rfl, -⟩ := List.cons.inj hlast
      rw [List.concat_eq_append] at hlater
      refine ⟨hlater _ (List.mem_cons_of_mem _ (List.mem_append_right _ (List.mem_singleton_self _))),
        .inr ⟨before, introducing, after, hbefore, hintroduces, fun later hmem => ?_⟩⟩
      refine hlater later ?_
      rw [← List.cons_append]
      exact List.mem_append_left _ hmem
  · rintro ⟨hlast, hintroduces | ⟨before, introducing, after, hpast, hintroduces, hlater⟩⟩
    · exact ⟨past, incoming, [], rfl, hintroduces, fun later hmem => List.mem_singleton.mp hmem ▸ hlast⟩
    · refine ⟨before, introducing, after ++ [incoming], ?_, hintroduces, fun later hmem => ?_⟩
      · rw [hpast, List.append_assoc, List.cons_append]
      · rw [← List.cons_append] at hmem
        rcases List.mem_append.mp hmem with hmem | hmem
        · exact hlater later hmem
        · exact List.mem_singleton.mp hmem ▸ hlast

/-- What is listed after one more bundle. -/
theorem listed_feedStep_iff {s : Feed text} (h : Tracks s) (incoming : IncomingAdvisories text)
    (advisoryId : String) : Listed (feedStep s incoming).1 advisoryId ↔ Stays s.1 incoming advisoryId := by
  rw [(tracks_feedStep h incoming).listed_iff]
  unfold Stays
  rw [h.listed_iff]
  show (∃ entry, lastEntry (allEntries (s.2 ++ [incoming])) advisoryId = some entry ∧ _) ↔ _
  rw [allEntries_concat, lastEntry_append]
  cases hlast : lastEntry incoming.bundle.advisories advisoryId with
  | some entry => simp
  | none => simp

/-- **One bundle** keeps a faithful list faithful exactly if it is harmless. -/
theorem faithful_feedStep_iff {s : Feed text} (htracks : Tracks s) (h : Faithful s)
    (incoming : IncomingAdvisories text) : Faithful (feedStep s incoming) ↔ Harmless s.1 incoming := by
  have hlistedNext := listed_feedStep_iff htracks incoming
  have hlives : ∀ advisoryId, Lives (feedStep s incoming).2 advisoryId ↔ _ := lives_concat s.2 incoming
  have hall : ∀ advisoryId, lastEntry (allEntries (feedStep s incoming).2) advisoryId
      = (lastEntry incoming.bundle.advisories advisoryId).or (lastEntry (allEntries s.2) advisoryId) := by
    intro advisoryId
    show lastEntry (allEntries (s.2 ++ [incoming])) advisoryId = _
    rw [allEntries_concat, lastEntry_append]
  constructor
  · intro hnext
    have hlive : ∀ advisoryId, Stays s.1 incoming advisoryId →
        ¬ incoming.Withdraws advisoryId ∧ ¬ incoming.Supersedes advisoryId := fun advisoryId hstays =>
      ((hlives advisoryId).mp ((hnext.listed advisoryId).mp ((hlistedNext advisoryId).mpr hstays))).1
    refine ⟨fun advisoryId entry hlast hactive => ?_, fun advisoryId hsupersedes hstays => ?_,
      fun advisoryId entry hlast hactive => ?_⟩
    · exact (hlive advisoryId (.inl ⟨entry, hlast, hactive⟩)).1
    · exact (hlive advisoryId hstays).2 hsupersedes
    · have hlast' : lastEntry (allEntries (feedStep s incoming).2) advisoryId = some entry := by
        rw [hall, hlast, Option.some_or]
      refine (survives_iff (tracks_feedStep htracks incoming) hlast' hactive).mp ?_
      exact hnext.survives advisoryId entry hlast' ((hlistedNext advisoryId).mpr (.inl ⟨entry, hlast, hactive⟩))
  · intro hharmless
    refine ⟨fun advisoryId => ?_, fun advisoryId entry hlast hlisted => ?_⟩
    · rw [hlistedNext, hlives]
      constructor
      · intro hstays
        refine ⟨⟨?_, fun hsupersedes => hharmless.superseded advisoryId hsupersedes hstays⟩, ?_⟩
        · rcases hstays with ⟨entry, hlast, hactive⟩ | ⟨hnone, -⟩
          · exact hharmless.withdrawn advisoryId entry hlast hactive
          · rintro ⟨entry, hmem, hid, -⟩
            exact lastEntry_ne_none hmem (hid ▸ hnone)
        · rcases hstays with ⟨entry, hlast, hactive⟩ | ⟨-, hlisted⟩
          · exact .inl (introduces_of_lastEntry hlast hactive)
          · exact .inr ((h.listed advisoryId).mp hlisted)
      · rintro ⟨⟨hwithdraws, -⟩, hlive⟩
        cases hlast : lastEntry incoming.bundle.advisories advisoryId with
        | some entry =>
          refine .inl ⟨entry, hlast, Bool.eq_false_iff.mpr fun hwithdrawn => hwithdraws ?_⟩
          exact withdraws_of_lastEntry hlast hwithdrawn
        | none =>
          rcases hlive with ⟨entry, hmem, hid, -⟩ | hlive
          · exact absurd (hid ▸ hlast) (lastEntry_ne_none hmem)
          · exact .inr ⟨hlast, (h.listed advisoryId).mpr hlive⟩
    · obtain ⟨entry', hlast', hactive⟩ := ((tracks_feedStep htracks incoming).listed_iff advisoryId).mp hlisted
      rw [Option.some.inj (hlast'.symm.trans hlast)] at hactive
      refine (survives_iff (tracks_feedStep htracks incoming) hlast hactive).mpr ?_
      rw [hall] at hlast
      cases hown : lastEntry incoming.bundle.advisories advisoryId with
      | some entry'' =>
        rw [hown, Option.some_or, Option.some.injEq] at hlast
        rw [← hlast] at hactive ⊢
        exact hharmless.plain advisoryId entry'' hown hactive
      | none =>
        rw [hown, Option.none_or] at hlast
        refine (survives_iff htracks hlast hactive).mp (h.survives advisoryId entry hlast ?_)
        exact (htracks.listed_iff advisoryId).mpr ⟨entry, hlast, hactive⟩

/-! ### Every feed -/

theorem faithful_new : Faithful ((none, []) : Feed text) where
  listed advisoryId := by
    refine iff_of_false (fun ⟨raw, h, _⟩ => by cases h) ?_
    rintro ⟨before, incoming, after, hpast, -⟩
    exact absurd hpast (by simp)
  survives advisoryId entry h := by cases h

variable (text)

/-- **Advisories live until they are withdrawn or superseded.** Along every feed of accepted bundles, the cached list is
faithful after every bundle exactly if every bundle is harmless. -/
theorem advisories_live_iff (feed : List (IncomingAdvisories text)) :
    AllSteps feedStep (fun s incoming => Faithful (feedStep s incoming)) ((none, []) : Feed text) feed ↔
      AllSteps feedStep (fun s incoming => Harmless s.1 incoming) ((none, []) : Feed text) feed := by
  have hany : AllSteps feedStep (fun _ _ => True) ((none, []) : Feed text) feed :=
    AllSteps.of_forall_mem (P := fun _ => True) fun _ _ => trivial
  refine AllSteps.congr_of_invariant (I := fun s => Tracks s ∧ Faithful s) ?_ ?_
    ⟨tracks_new, faithful_new⟩ hany
  · rintro s incoming ⟨htracks, hfaithful⟩ - hharmless
    exact ⟨tracks_feedStep htracks incoming, (faithful_feedStep_iff htracks hfaithful incoming).mpr hharmless⟩
  · rintro s incoming ⟨htracks, hfaithful⟩ -
    exact faithful_feedStep_iff htracks hfaithful incoming

/-! ### An advisory that is superseded -/

/-- A payload with one advisory. -/
def advisoryPayload (generation : ℤ) (item : Dict) : Dict :=
  [("bundle", .obj
      [("generation", .num (.int generation)), ("generated_at", .str "2026-01-01")]),
    ("advisories", .arr [.obj item])]

/-- The entry that is parsed of an item with these fields, and no others. -/
def plainEntry (advisoryId status : String) : AdvisoryEntry where
  advisoryId := advisoryId
  source := "emic"
  severity := .unknown
  publishedAt := .null
  updatedAt := .null
  status := status
  affectedPurl := .null
  affectedPackage := .null
  affectedVersionRange := .null
  fixedVersions := []
  references := []
  withdrawn := false

def supersededItem : Dict := [("advisory_id", .str "a1")]

def supersedingItem : Dict :=
  [("advisory_id", .str "a2"), ("status", .str "SUPERSEDE"), ("supersedes_advisory_id", .str "a1")]

theorem parse_superseded : parseAdvisoryBundle .ascii (some (advisoryPayload 1 supersededItem)) = .ok
    { generation := .int 1
      generatedAt := "2026-01-01"
      advisories := [plainEntry "a1" "ACTIVE"]
      contentHash := bundleContentHash (advisoryPayload 1 supersededItem) } := by
  rfl

theorem parse_superseding : parseAdvisoryBundle .ascii (some (advisoryPayload 2 supersedingItem)) = .ok
    { generation := .int 2
      generatedAt := "2026-01-01"
      advisories := [plainEntry "a2" "SUPERSEDE"]
      contentHash := bundleContentHash (advisoryPayload 2 supersedingItem) } := by
  rfl

/-- **A superseded advisory stays listed.** The identifier that a superseding entry names is not parsed. -/
theorem superseded_advisory_listed : ∃ first second : IncomingAdvisories .ascii,
      first.raw = advisoryPayload 1 supersededItem ∧ second.raw = advisoryPayload 2 supersedingItem ∧
      second.Supersedes "a1" ∧ Listed (run feedStep ((none, []) : Feed .ascii) [first, second]).1 "a1" ∧
      ¬ AllSteps feedStep (fun s incoming => Faithful (feedStep s incoming)) ((none, []) : Feed .ascii)
        [first, second] := by
  let first : IncomingAdvisories .ascii := ⟨_, _, parse_superseded⟩
  let second : IncomingAdvisories .ascii := ⟨_, _, parse_superseding⟩
  have hsupersedes : second.Supersedes "a1" :=
    ⟨.obj supersedingItem, List.mem_singleton_self _, plainEntry "a2" "SUPERSEDE", rfl, rfl, rfl, rfl⟩
  have hlisted : Listed (run feedStep ((none, []) : Feed .ascii) [first, second]).1 "a1" :=
    ((tracks_feed [first, second]).listed_iff "a1").mpr ⟨plainEntry "a1" "ACTIVE", rfl, rfl⟩
  refine ⟨first, second, rfl, rfl, hsupersedes, hlisted, ?_⟩
  rintro ⟨-, hfaithful, -⟩
  have hlives := (hfaithful.listed "a1").mp hlisted
  exact ((lives_concat [first] second "a1").mp hlives).1.2 hsupersedes

/-! ### The feed of a run -/

/-- The advisory payloads that the syncs of a run were promoted with. -/
def acceptedPayloads (row : MarketplaceTrustCache) : List TrustCall → List Dict
  | [] => []
  | .sync enabled result now :: calls =>
    (if promotes (row.applySyncResult text enabled result now).2 then result.advisories.toList else [])
      ++ acceptedPayloads (row.applySyncResult text enabled result now).1 calls
  | .offline enabled message now :: calls =>
    acceptedPayloads (row.markOffline text enabled message now).1 calls

theorem parseAdvisories_of_trusted {row row' : MarketplaceTrustCache} (h : row'.trusted = row.trusted) :
    row'.parseAdvisories = row.parseAdvisories :=
  congrArg readDict (congrArg TrustedPayload.advisoriesJson h)

/-- One sync appends its advisories to the feed, if it is promoted. -/
theorem parseAdvisories_applySyncResult {row : MarketplaceTrustCache} {s : Feed text}
    (h : row.parseAdvisories = .ok s.1) (enabled : Bool) (result : MarketplaceSyncResult) (now : Instant) :
    ∃ feed : List (IncomingAdvisories text), feed.map IncomingAdvisories.raw
        = (if promotes (row.applySyncResult text enabled result now).2 then result.advisories.toList else []) ∧
      (row.applySyncResult text enabled result now).1.parseAdvisories = .ok (run feedStep s feed).1 := by
  rcases applySyncResult_step text (Prod.eta (row.applySyncResult text enabled result now)).symm with
    ⟨versions, bundle, merged, advisories, changed, haccepts, hnext, hpromotes⟩ | ⟨htrusted, hrejected⟩
  · rw [if_pos hpromotes, hnext]
    have hadvisories := haccepts.advisories
    cases hincoming : result.advisories with
    | none =>
      rw [hincoming] at hadvisories
      have hnone : none = advisories := Except.ok.inj hadvisories
      rw [← hnone]
      exact ⟨[], rfl, h⟩
    | some raw =>
      rw [hincoming, acceptAdvisories_some] at hadvisories
      obtain ⟨parsed, trustedRaw, mergedAdvisories, hparse, -, hraw, hmerged, haccepted⟩ := hadvisories
      rw [Except.ok.inj (hraw.symm.trans h)] at hmerged
      refine ⟨[⟨raw, parsed, hparse⟩], rfl, ?_⟩
      have hmergeNext : mergeNext s.1 (⟨raw, parsed, hparse⟩ : IncomingAdvisories text)
          = some mergedAdvisories := by
        unfold mergeNext
        rw [hmerged]
      refine Eq.trans ?_ (congrArg Except.ok hmergeNext.symm)
      rw [haccepted]
      rfl
  · rw [if_neg (by rw [hrejected]; exact Bool.false_ne_true)]
    exact ⟨[], rfl, (parseAdvisories_of_trusted htrusted).trans h⟩

theorem past_run (feed : List (IncomingAdvisories text)) (s : Feed text) : (run feedStep s feed).2 = s.2 ++ feed := by
  induction feed generalizing s with
  | nil => exact (List.append_nil _).symm
  | cons incoming feed ih =>
    rw [run_cons, ih]
    exact List.append_assoc _ _ _

theorem parseAdvisories_run (calls : List TrustCall) {row : MarketplaceTrustCache} {s : Feed text}
    (h : row.parseAdvisories = .ok s.1) :
    ∃ feed : List (IncomingAdvisories text),
      feed.map IncomingAdvisories.raw = acceptedPayloads text row calls ∧
      (run (trustStep text) row calls).parseAdvisories = .ok (run feedStep s feed).1 := by
  induction calls generalizing row s with
  | nil => exact ⟨[], rfl, h⟩
  | cons call calls ih =>
    cases call with
    | sync enabled result now =>
      obtain ⟨feed, hraw, hnext⟩ := parseAdvisories_applySyncResult text h enabled result now
      obtain ⟨rest, hrest, hrun⟩ := ih hnext
      refine ⟨feed ++ rest, ?_, ?_⟩
      · rw [List.map_append, hraw, hrest]
        rfl
      · rw [run_append]
        exact hrun
    | offline enabled message now =>
      have hnext := (parseAdvisories_of_trusted (trusted_markOffline text row enabled message now)).trans h
      exact ih hnext

/-- **The advisories of a run.** After any run of the trust cache, the list holds the advisories whose last entry in a
promoted payload is not withdrawn. -/
theorem listed_run_iff (calls : List TrustCall) :
    ∃ (feed : List (IncomingAdvisories text)) (cached : Option Dict),
      feed.map IncomingAdvisories.raw = acceptedPayloads text {} calls ∧
      (run (trustStep text) {} calls).parseAdvisories = .ok cached ∧
      ∀ advisoryId, Listed cached advisoryId ↔
        ∃ entry, lastEntry (allEntries feed) advisoryId = some entry ∧ entry.isWithdrawn text = false := by
  obtain ⟨feed, hraw, hrun⟩ := parseAdvisories_run text calls (show ({} : MarketplaceTrustCache).parseAdvisories =
    .ok ((none, []) : Feed text).1 from rfl)
  have hpast := past_run text feed ((none, []) : Feed text)
  refine ⟨feed, _, hraw, hrun, fun advisoryId => ?_⟩
  rw [(tracks_feed feed).listed_iff, hpast, List.nil_append]

end EnergyCore.SupplyChain
