import EnergyCore.Marketplace.RevocationPolicy

/-!
# The order of the entries of a bundle

A merge takes the entries of a bundle one after another. Which of them comes first matters for one kind of pair only: a
revocation, and an entry of the same bundle that supersedes it.

* `agreeOn_of_apart` — other entries leave the same under a key, whichever comes last;
* `orderFree_iff` — the order does not matter exactly if there is no such pair.
-/

namespace EnergyCore.Marketplace

open JsonValues KeywordFields KeyedChanges

/-! ### Merged lists -/

section

variable (text : PyText) (trustedRaw : Option Dict)

/-- A bundle with other entries. -/
def RevocationBundle.withEntries (incoming : RevocationBundle) (entries : List RevocationEntry) : RevocationBundle :=
  { incoming with revocations := entries }

/-- The identifier stands in the merged list. -/
def Listed (incoming : RevocationBundle) (revocationId : String) : Prop :=
  ∃ d ∈ sortedEntries (mergedActive text trustedRaw incoming),
    (getItem d "revocation_id").strD = revocationId

/-- An entry of the bundle supersedes the revocation. -/
def NamedBySupersede (incoming : RevocationBundle) (revocationId : String) : Prop :=
  ∃ entry ∈ incoming.revocations,
    entry.action = supersedeAction ∧ entry.supersedesRevocationId = some revocationId

/-- The revocation is active before the merge, or comes with the bundle. -/
def Revoked (incoming : RevocationBundle) (revocationId : String) : Prop :=
  Fields.get (trustedActive text trustedRaw) revocationId ≠ none ∨
    ∃ entry ∈ incoming.revocations, entry.action = revokeAction ∧ entry.revocationId = revocationId

/-- **The order does not matter**: every order of the entries is merged to the same, without what an entry supersedes,
and with every other revocation. -/
structure OrderFree (incoming : RevocationBundle) : Prop where
  same : ∀ entries, entries.Perm incoming.revocations →
    mergeRevocationBundles text trustedRaw (incoming.withEntries entries)
      = mergeRevocationBundles text trustedRaw incoming
  superseded : ∀ entries, entries.Perm incoming.revocations → ∀ revocationId,
    NamedBySupersede incoming revocationId →
      ¬ Listed text trustedRaw (incoming.withEntries entries) revocationId
  kept : ∀ entries, entries.Perm incoming.revocations → ∀ revocationId,
    Revoked text trustedRaw incoming revocationId → ¬ NamedBySupersede incoming revocationId →
      Listed text trustedRaw (incoming.withEntries entries) revocationId

/-- No revocation is superseded by the bundle that brings it. -/
def Apart (incoming : RevocationBundle) : Prop :=
  ∀ entry ∈ incoming.revocations, entry.action = revokeAction →
    ¬ NamedBySupersede incoming entry.revocationId

end

/-! ### The entries of a key -/

section

variable {incoming : RevocationBundle}

/-- What an entry changes is its own revocation, or the one that it supersedes. -/
theorem mem_entryChanges {entry : RevocationEntry} {c : Change String Dict} (h : c ∈ entryChanges entry) :
    (entry.action = supersedeAction ∧ entry.supersedesRevocationId = some c.key ∧ c.value = none) ∨
      (entry.action = revokeAction ∧ entry.revocationId = c.key ∧ c.value = some (entryToDict entry)) := by
  unfold entryChanges at h
  split_ifs at h with hsupersede hrevoke
  · rw [List.mem_singleton.mp h]
    refine .inl ⟨hsupersede.1, ?_, rfl⟩
    cases hid : entry.supersedesRevocationId with
    | none =>
      rw [hid] at hsupersede
      exact absurd rfl hsupersede.2
    | some s => rfl
  · rw [List.mem_singleton.mp h]
    exact .inr ⟨hrevoke, rfl, rfl⟩
  · exact absurd h List.not_mem_nil

/-- **Apart, entries agree.** -/
theorem agreeOn_of_apart (hdistinct : (incoming.revocations.map RevocationEntry.revocationId).Nodup)
    (h : Apart incoming) (k : String) : AgreeOn (incoming.revocations.flatMap entryChanges) k := by
  intro c hc c' hc' hkey hkey'
  obtain ⟨entry, hentry, hc⟩ := List.mem_flatMap.mp hc
  obtain ⟨entry', hentry', hc'⟩ := List.mem_flatMap.mp hc'
  rcases mem_entryChanges hc with ⟨haction, hnamed, hvalue⟩ | ⟨haction, hid, hvalue⟩
  · rcases mem_entryChanges hc' with ⟨haction', hnamed', hvalue'⟩ | ⟨haction', hid', hvalue'⟩
    · rw [hvalue, hvalue']
    · refine absurd ⟨entry, hentry, haction, ?_⟩ (h entry' hentry' haction')
      rw [hnamed, hkey, hid', hkey']
  · rcases mem_entryChanges hc' with ⟨haction', hnamed', hvalue'⟩ | ⟨haction', hid', hvalue'⟩
    · refine absurd ⟨entry', hentry', haction', ?_⟩ (h entry hentry haction)
      rw [hnamed', hkey', hid, hkey]
    · have hsame : entry = entry' := List.inj_on_of_nodup_map hdistinct hentry hentry' (by rw [hid, hkey, hid', hkey'])
      rw [hvalue, hvalue', hsame]

theorem supersede_mem_changes (hparsed : incoming.Parsed) {revocationId : String}
    (h : NamedBySupersede incoming revocationId) :
    Change.drop revocationId ∈ incoming.revocations.flatMap entryChanges := by
  obtain ⟨entry, hentry, haction, hnamed⟩ := h
  refine List.mem_flatMap.mpr ⟨entry, hentry, ?_⟩
  have hnonempty := (hparsed.entries entry hentry).superseded haction
  unfold entryChanges
  rw [if_pos ⟨haction, hnonempty⟩, hnamed]
  exact List.mem_singleton_self _

theorem entryChanges_revoke {entry : RevocationEntry} (haction : entry.action = revokeAction) :
    entryChanges entry = [.put entry.revocationId (entryToDict entry)] := by
  unfold entryChanges
  rw [if_neg fun h => revokeAction_ne (haction.symm.trans h.1), if_pos haction]

theorem revoke_mem_changes {entry : RevocationEntry} (hentry : entry ∈ incoming.revocations)
    (haction : entry.action = revokeAction) :
    Change.put entry.revocationId (entryToDict entry) ∈ incoming.revocations.flatMap entryChanges := by
  refine List.mem_flatMap.mpr ⟨entry, hentry, ?_⟩
  rw [entryChanges_revoke haction]
  exact List.mem_singleton_self _

end

/-! ### The merge -/

section

variable {text : PyText} {trustedRaw : Option Dict} {incoming : RevocationBundle}

theorem RevocationBundle.Parsed.withEntries (hparsed : incoming.Parsed) {entries : List RevocationEntry}
    (hperm : entries.Perm incoming.revocations) : (incoming.withEntries entries).Parsed where
  generation := hparsed.generation
  generatedAt := hparsed.generatedAt
  entries entry hentry := hparsed.entries entry (hperm.mem_iff.mp hentry)

/-- What stands in the merged list is what is active after the merge. -/
theorem listed_iff (hparsed : incoming.Parsed) (revocationId : String) : Listed text trustedRaw incoming revocationId ↔
      Fields.get (mergedActive text trustedRaw incoming) revocationId ≠ none := by
  have hactive := fun k d => isActive_of_mergedActive text hparsed trustedRaw (k := k) (d := d)
  have hnodup := nodup_keys_mergedActive text trustedRaw incoming
  unfold Listed
  rw [sortedEntries_eq hactive, Option.ne_none_iff_exists']
  constructor
  · rintro ⟨d, hd, hid⟩
    obtain ⟨⟨k, d'⟩, he, rfl⟩ := List.mem_map.mp hd
    rw [(byKey_perm _).mem_iff] at he
    obtain ⟨entry, hkey, -, -, hdict⟩ := hactive k d' he
    have hname : k = revocationId := by
      rw [← hid, ← hkey, hdict]
      rfl
    exact ⟨d', (get_eq_some_iff hnodup).mpr (hname ▸ he)⟩
  · rintro ⟨d, hd⟩
    have hmem := (get_eq_some_iff hnodup).mp hd
    obtain ⟨entry, hkey, -, -, hdict⟩ := hactive revocationId d hmem
    refine ⟨d, List.mem_map.mpr ⟨(revocationId, d), (byKey_perm _).mem_iff.mpr hmem, rfl⟩, ?_⟩
    rw [hdict, ← hkey]
    rfl

theorem get_mergedActive_perm (h : ∀ k, AgreeOn (incoming.revocations.flatMap entryChanges) k)
    {entries : List RevocationEntry} (hperm : entries.Perm incoming.revocations) (k : String) :
    Fields.get (mergedActive text trustedRaw (incoming.withEntries entries)) k
      = Fields.get (mergedActive text trustedRaw incoming) k := by
  rw [mergedActive_eq, mergedActive_eq]
  exact get_applyAll_perm (hperm.symm.flatMap_right entryChanges) (h k) _

/-- **Apart, the order does not matter.** -/
theorem orderFree_of_apart (hparsed : incoming.Parsed)
    (hdistinct : (incoming.revocations.map RevocationEntry.revocationId).Nodup) (h : Apart incoming) :
    OrderFree text trustedRaw incoming := by
  have hagree := agreeOn_of_apart hdistinct h
  have hget : ∀ {entries : List RevocationEntry}, entries.Perm incoming.revocations → ∀ k,
      Fields.get (mergedActive text trustedRaw (incoming.withEntries entries)) k
        = Fields.get (mergedActive text trustedRaw incoming) k :=
    fun hperm => get_mergedActive_perm hagree hperm
  refine ⟨fun entries hperm => ?_, fun entries hperm revocationId hnamed hlisted => ?_,
    fun entries hperm revocationId hrevoked hnamed => ?_⟩
  · have hsorted : sortedEntries (mergedActive text trustedRaw (incoming.withEntries entries))
        = sortedEntries (mergedActive text trustedRaw incoming) := by
      rw [sortedEntries_eq fun k d => isActive_of_mergedActive text (hparsed.withEntries hperm) trustedRaw,
        sortedEntries_eq fun k d => isActive_of_mergedActive text hparsed trustedRaw,
        byKey_congr (nodup_keys_mergedActive text trustedRaw _) (nodup_keys_mergedActive text trustedRaw _)
          (hget hperm)]
    unfold mergeRevocationBundles
    rw [hsorted]
    rfl
  · rw [listed_iff (hparsed.withEntries hperm), hget hperm, mergedActive_eq] at hlisted
    exact hlisted (get_applyAll_of_agree (hagree revocationId) _ (supersede_mem_changes hparsed hnamed) rfl)
  · rw [listed_iff (hparsed.withEntries hperm), hget hperm, mergedActive_eq]
    by_cases hincoming : ∃ entry ∈ incoming.revocations, entry.action = revokeAction ∧
        entry.revocationId = revocationId
    · obtain ⟨entry, hentry, haction, hid⟩ := hincoming
      rw [get_applyAll_of_agree (hagree revocationId) _ (revoke_mem_changes hentry haction) hid]
      exact Option.some_ne_none _
    · rw [get_applyAll_of_unchanged]
      · exact hrevoked.resolve_right hincoming
      · intro c hc hkey
        obtain ⟨entry, hentry, hc⟩ := List.mem_flatMap.mp hc
        rcases mem_entryChanges hc with ⟨haction, hname, -⟩ | ⟨haction, hid, -⟩
        · exact hnamed ⟨entry, hentry, haction, hkey ▸ hname⟩
        · exact hincoming ⟨entry, hentry, haction, hid.trans hkey⟩

variable (text trustedRaw) in
/-- A revocation and the entry that supersedes it may be put at the end, the revocation last. -/
theorem exists_perm_revoke_last {entry : RevocationEntry} (hentry : entry ∈ incoming.revocations)
    (haction : entry.action = revokeAction) : ∃ entries, entries.Perm incoming.revocations ∧
      Fields.get (mergedActive text trustedRaw (incoming.withEntries entries)) entry.revocationId ≠ none := by
  obtain ⟨before, after, hsplit⟩ := List.append_of_mem hentry
  refine ⟨before ++ after ++ [entry], ?_, ?_⟩
  · rw [hsplit, List.append_assoc]
    exact (List.perm_append_comm.trans (List.Perm.refl _)).append_left before
  · have hkey : (Change.put entry.revocationId (entryToDict entry)).key = entry.revocationId := rfl
    rw [mergedActive_eq]
    show Fields.get (applyAll _ ((before ++ after ++ [entry]).flatMap entryChanges)) _ ≠ none
    rw [List.flatMap_append, List.flatMap_singleton, entryChanges_revoke haction, get_applyAll,
      lastChange_concat, if_pos hkey]
    exact Option.some_ne_none _

/-- **When the order does not matter.** The entries of a bundle with distinct identifiers may come in any order exactly
if no revocation is superseded by the bundle that brings it. -/
theorem orderFree_iff {raw : Dict} (hparse : parseRevocationBundle text (some raw) = .ok incoming)
    (hdistinct : (incoming.revocations.map RevocationEntry.revocationId).Nodup) :
    OrderFree text trustedRaw incoming ↔ Apart incoming := by
  have hparsed := (parseRevocationBundle_parsed text hparse).1
  refine ⟨fun h entry hentry haction hnamed => ?_, orderFree_of_apart hparsed hdistinct⟩
  obtain ⟨entries, hperm, hget⟩ := exists_perm_revoke_last text trustedRaw hentry haction
  exact h.superseded entries hperm _ hnamed ((listed_iff (hparsed.withEntries hperm) _).mpr hget)

end

/-! ### A revocation that is superseded and brought again -/

/-- A bundle of entries. -/
def bundleOf (entries : List Dict) : Dict :=
  [("bundle", .obj [("generation", .num (.int 2)), ("generated_at", .str "2026-01-01")]),
    ("revocations", .arr (entries.map Json.obj))]

def supersedeR1 : Dict :=
  [("revocation_id", .str "s1"), ("action", .str "SUPERSEDE"), ("supersedes_revocation_id", .str "r1")]

def revokeOf (revocationId : String) : Dict := [("revocation_id", .str revocationId)]

theorem eq_ok_of_toOption {ε α : Type*} {r : Except ε α} {a : α} (h : r.toOption = some a) : r = .ok a := by
  cases r with
  | error e => cases h
  | ok b => exact congrArg Except.ok (Option.some.inj h)

/-- A bundle that supersedes one revocation and brings another. -/
theorem orderFree_other :
    ∃ incoming, parseRevocationBundle .ascii (some (bundleOf [supersedeR1, revokeOf "r2"])) = .ok incoming ∧
      (OrderFree .ascii (some (bundleOf [revokeOf "r1"])) incoming ↔ Apart incoming) ∧ Apart incoming := by
  have hany : (parseRevocationBundle .ascii (some (bundleOf [supersedeR1, revokeOf "r2"]))).toOption.any
      (fun incoming => decide ((incoming.revocations.map RevocationEntry.revocationId).Nodup ∧
        ∀ entry ∈ incoming.revocations, entry.action = revokeAction → ∀ entry' ∈ incoming.revocations,
          entry'.supersedesRevocationId ≠ some entry.revocationId)) = true := by
    decide +kernel
  obtain ⟨incoming, hincoming, hfound⟩ := (Option.any_eq_true _ _).mp hany
  obtain ⟨hdistinct, hapart⟩ := of_decide_eq_true hfound
  have hparse := eq_ok_of_toOption hincoming
  refine ⟨incoming, hparse, orderFree_iff hparse hdistinct, fun entry hentry haction => ?_⟩
  rintro ⟨entry', hentry', -, hnamed⟩
  exact hapart entry hentry haction entry' hentry' hnamed

/-- **A superseded revocation stays** where it comes after the entry that supersedes it. -/
theorem superseded_revocation_listed :
    ∃ incoming, parseRevocationBundle .ascii (some (bundleOf [supersedeR1, revokeOf "r1"])) = .ok incoming ∧
      (incoming.revocations.map RevocationEntry.revocationId).Nodup ∧ NamedBySupersede incoming "r1" ∧
      Listed .ascii none incoming "r1" ∧
      ¬ Listed .ascii none (incoming.withEntries incoming.revocations.reverse) "r1" ∧
      ¬ OrderFree .ascii none incoming := by
  have hany : (parseRevocationBundle .ascii (some (bundleOf [supersedeR1, revokeOf "r1"]))).toOption.any
      (fun incoming => decide ((incoming.revocations.map RevocationEntry.revocationId).Nodup ∧
        (∃ entry ∈ incoming.revocations, entry.action = supersedeAction ∧
          entry.supersedesRevocationId = some "r1") ∧
        (∃ d ∈ sortedEntries (mergedActive .ascii none incoming), (getItem d "revocation_id").strD = "r1") ∧
        ¬ ∃ d ∈ sortedEntries (mergedActive .ascii none (incoming.withEntries incoming.revocations.reverse)),
          (getItem d "revocation_id").strD = "r1")) = true := by
    decide +kernel
  obtain ⟨incoming, hincoming, hfound⟩ := (Option.any_eq_true _ _).mp hany
  obtain ⟨hdistinct, hnamed, hlisted, hother⟩ := of_decide_eq_true hfound
  refine ⟨incoming, eq_ok_of_toOption hincoming, hdistinct, hnamed, hlisted, hother, fun h => ?_⟩
  exact h.superseded incoming.revocations (List.Perm.refl _) "r1" hnamed hlisted

end EnergyCore.Marketplace
