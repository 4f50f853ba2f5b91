import EnergyCore.Packages.PackageLoader
import EnergyCore.Packages.UpdateOutcomes

/-!
# A rollback after an update

What the registry and the loader make of a module that is updated and then rolled back, whatever happens to other
modules in between.

* `rollback_of_update` — the restored record is the updated one, at the version and with the files from before;
* `rollback_undoes_iff` — when the rollback undoes the update;
* `rollback_rejected` — the loader rejects the restored package otherwise.
-/

namespace EnergyCore.Packages

open FallibleSteps StepRun

/-! ### The property -/

/-- The fields that say what a package is trusted for. -/
structure SameTrustFields (before after : InstalledPackageRecord) : Prop where
  checksum : after.checksumSha256 = before.checksumSha256
  signature : after.signatureStatus = before.signatureStatus
  publisher : after.publisher = before.publisher
  moduleApiVersion : after.moduleApiVersion = before.moduleApiVersion
  metadata : after.metadata = before.metadata

/-- The registry has the fields of the record from before, and the loader accepts the package if it did. -/
def Undone (checks : LoaderChecks) (before : InstalledPackageRecord) (w w' : PackageWorld) : Prop :=
  ∃ after, w'.registry before.moduleId = some after ∧ SameTrustFields before after ∧
    (verifyInstalledPackage checks before w.files ≠ none →
      verifyInstalledPackage checks after w'.files ≠ none)

/-- The update brings a package that the registry can not tell from the installed one. -/
def Republishes (call : UpdateCall) (before : InstalledPackageRecord) : Prop :=
  ∃ validation manifest, call.validation = .ok validation ∧ validation.manifest = some manifest ∧
    computePackageContentSha256 call.archive = before.checksumSha256 ∧
    (if validation.signatureValid then SignatureStatus.valid else .unsigned) = before.signatureStatus ∧
    manifest.publisher = before.publisher ∧ manifest.moduleApiVersion = before.moduleApiVersion ∧
    buildInstallMetadata manifest validation = before.metadata

/-! ### Update and rollback -/

/-- What a successful update leaves to a rollback. -/
theorem update_returns {settings : Settings} {w : PackageWorld} (hw : Placed settings.modulesPath w.registry)
    {call : UpdateCall} (hupdate : w.raises (update settings call) = false) {before : InstalledPackageRecord}
    (hbefore : w.registry call.moduleId = some before) :
    ∃ validation manifest, call.validation = .ok validation ∧ validation.manifest = some manifest ∧
      (step settings w (.update call)).registry call.moduleId =
        some (updatedRecord settings call before manifest validation) ∧ (step settings w (.update call)).files
          (backupDir settings.modulesPath call.moduleId before.installedVersion) = w.files before.packagePath := by
  obtain ⟨_, s, hrun, hexec⟩ := PackageWorld.exec_of_returns hupdate
  obtain ⟨checked, hreaches, hexit, -, hrecord, hfiles⟩ := (update_leaves hw call).ok hrun
  have hstep : step settings w (.update call) = ⟨s.committed, s.files⟩ := hexec
  obtain ⟨s₀, -, hcheck, -⟩ := hreaches
  obtain ⟨hrow, hvalidation, haccepted, -⟩ := (Attempt.ends_checkUpdate settings w call).ok hcheck
  obtain rfl := Option.some.inj (hrow.symm.trans hbefore)
  rw [Attempt.leaves, hexit] at hrecord hfiles
  refine ⟨checked.2.2, checked.2.1, hvalidation, manifest_of_accepted haccepted, ?_, ?_⟩
  · rw [hstep]
    exact hrecord
  · rw [hstep]
    refine (hfiles.backup _).trans ?_
    have hne : (attempt settings w call checked).backup ≠ (attempt settings w call checked).installed :=
      backupDir_ne_installedDir _ _ _ _ _
    exact (Function.update_of_ne hne _ _).trans (Function.update_self _ _ _)

/-- What a successful rollback makes of a record. -/
theorem rollback_returns {settings : Settings} {w : PackageWorld} (hw : Placed settings.modulesPath w.registry)
    {moduleId : String} {faults : Faults} (hrollback : w.raises (rollback settings moduleId faults) = false)
    {row : InstalledPackageRecord} (hrow : w.registry moduleId = some row) :
    ∃ version p tree, rollbackTarget row = some (version, p) ∧ w.files p = some tree ∧
      (step settings w (.rollback moduleId faults)).registry moduleId =
        some (restoredRecord row version (installedDir settings.modulesPath moduleId version)) ∧
      (step settings w (.rollback moduleId faults)).files
        (installedDir settings.modulesPath moduleId version) = some tree := by
  obtain ⟨_, s, hrun, hexec⟩ := PackageWorld.exec_of_returns hrollback
  have hstep : step settings w (.rollback moduleId faults) = ⟨s.committed, s.files⟩ := hexec
  have hends : Ends (rollback settings moduleId faults) w.session _ _ :=
    ends_rollback hrow (hw _ _ hrow) (offStaging_refl w.files)
  obtain ⟨record, files, houtcome, hrecord, hfiles⟩ := hends.ok hrun
  obtain ⟨version, p, tree, htarget, htree, rfl, rfl⟩ := rollbackOutcome_restores houtcome
  refine ⟨version, p, tree, htarget, htree, ?_, ?_⟩
  · rw [hstep]
    exact hrecord
  · rw [hstep]
    exact (hfiles.installed version).trans (Function.update_self _ _ _)

/-- **What a rollback restores.** After an update and any calls about other modules, a rollback leaves the record of
the update, at the version from before, with the files from before. -/
theorem rollback_of_update {settings : Settings} {w : PackageWorld} (hw : Placed settings.modulesPath w.registry)
    {call : UpdateCall} (hupdate : w.raises (update settings call) = false) {before : InstalledPackageRecord}
    (hbefore : w.registry call.moduleId = some before) {others : List Call}
    (hothers : ∀ other ∈ others, other.moduleId ≠ some call.moduleId) {faults : Faults}
    (hrollback : (run (step settings) (step settings w (.update call)) others).raises
      (rollback settings call.moduleId faults) = false) :
    ∃ validation manifest, call.validation = .ok validation ∧ validation.manifest = some manifest ∧
      (step settings (run (step settings) (step settings w (.update call)) others)
          (.rollback call.moduleId faults)).registry call.moduleId =
        some (restoredRecord (updatedRecord settings call before manifest validation)
          before.installedVersion before.packagePath) ∧
      (step settings (run (step settings) (step settings w (.update call)) others)
          (.rollback call.moduleId faults)).files before.packagePath = w.files before.packagePath := by
  obtain ⟨validation, manifest, hvalidation, hmanifest, hrow, hbackup⟩ := update_returns hw hupdate hbefore
  have hupdated := placed_step hw (.update call)
  have hsame := sameModule_run hupdated hothers
  have hplaced : Placed settings.modulesPath (run (step settings) (step settings w (.update call)) others).registry :=
    AllSteps.preserves (I := fun w : PackageWorld => Placed settings.modulesPath w.registry)
      (fun _ other h (_ : True) => placed_step h other) hupdated (AllSteps.of_forall_mem fun _ _ => trivial)
  obtain ⟨version, p, tree, htarget, htree, hrecord, hfiles⟩ :=
    rollback_returns hplaced hrollback (hsame.record.trans hrow)
  obtain ⟨hversion, hprevious⟩ := rollbackTarget_eq_some htarget
  obtain rfl : before.installedVersion = version := Option.some.inj hversion
  obtain rfl : backupDir settings.modulesPath call.moduleId before.installedVersion = p := Option.some.inj hprevious
  have hactive := (hw _ _ hbefore).packagePath
  rw [hsame.files _ (workDir_backup _ _ _), hbackup] at htree
  rw [← hactive] at hrecord hfiles
  exact ⟨validation, manifest, hvalidation, hmanifest, hrecord, hfiles.trans htree.symm⟩

/-! ### Any history -/

/-- **When a rollback undoes an update.** After any history, a successful update and the next successful rollback of
the module leave the trust fields from before, and a package that the loader accepts as before, exactly if the update
brought a package that the registry can not tell from the installed one. -/
theorem rollback_undoes_iff (settings : Settings) (checks : LoaderChecks) (calls : List Call) (call : UpdateCall)
    (before : InstalledPackageRecord) (others : List Call) (faults : Faults)
    (hbefore : (run (step settings) PackageWorld.empty calls).registry call.moduleId = some before)
    (hupdate : (run (step settings) PackageWorld.empty calls).raises (update settings call) = false)
    (hothers : ∀ other ∈ others, other.moduleId ≠ some call.moduleId)
    (hrollback : (run (step settings) PackageWorld.empty (calls ++ .update call :: others)).raises
      (rollback settings call.moduleId faults) = false) :
    Undone checks before (run (step settings) PackageWorld.empty calls) (run (step settings) PackageWorld.empty
          (calls ++ .update call :: others ++ [.rollback call.moduleId faults])) ↔ Republishes call before := by
  have hw := placed_run settings calls
  have howner := (hw _ _ hbefore).owner
  rw [run_append, run_append, run_cons, run_cons, run_nil]
  rw [run_append, run_cons] at hrollback
  obtain ⟨validation, manifest, hvalidation, hmanifest, hrecord, hfiles⟩ :=
    rollback_of_update hw hupdate hbefore hothers hrollback
  constructor
  · rintro ⟨after, hafter, htrust, -⟩
    rw [howner] at hafter
    obtain rfl := Option.some.inj (hrecord.symm.trans hafter)
    exact ⟨validation, manifest, hvalidation, hmanifest, htrust.checksum, htrust.signature, htrust.publisher,
      htrust.moduleApiVersion, htrust.metadata⟩
  · rintro ⟨validation', manifest', hvalidation', hmanifest', hchecksum, hsignature, hpublisher, hversion,
      hmetadata⟩
    obtain rfl := Except.ok.inj (hvalidation.symm.trans hvalidation')
    obtain rfl := Option.some.inj (hmanifest.symm.trans hmanifest')
    have hloads : verifyInstalledPackage checks (restoredRecord
        (updatedRecord settings call before manifest validation) before.installedVersion before.packagePath) _ =
        verifyInstalledPackage checks before _ :=
      verifyInstalledPackage_congr checks before (restoredRecord
        (updatedRecord settings call before manifest validation) before.installedVersion before.packagePath)
        hchecksum hfiles
    refine ⟨restoredRecord (updatedRecord settings call before manifest validation) before.installedVersion
      before.packagePath, ?_, ⟨hchecksum, hsignature, hpublisher, hversion, hmetadata⟩, hloads.trans_ne⟩
    rw [howner]
    exact hrecord

/-- **The loader rejects the restored package** when the update brought one with another checksum. -/
theorem rollback_rejected (settings : Settings) (checks : LoaderChecks) (calls : List Call) (call : UpdateCall)
    (before : InstalledPackageRecord) (others : List Call) (faults : Faults)
    (hbefore : (run (step settings) PackageWorld.empty calls).registry call.moduleId = some before)
    (hupdate : (run (step settings) PackageWorld.empty calls).raises (update settings call) = false)
    (hothers : ∀ other ∈ others, other.moduleId ≠ some call.moduleId)
    (hrollback : (run (step settings) PackageWorld.empty (calls ++ .update call :: others)).raises
      (rollback settings call.moduleId faults) = false) (haccepted : verifyInstalledPackage checks before
      (run (step settings) PackageWorld.empty calls).files ≠ none)
    (hchecksum : checks.lower (computePackageContentSha256 call.archive) ≠ checks.lower before.checksumSha256) :
    ∃ after, (run (step settings) PackageWorld.empty
        (calls ++ .update call :: others ++ [.rollback call.moduleId faults])).registry call.moduleId =
        some after ∧ after.installedVersion = before.installedVersion ∧
      verifyInstalledPackage checks after (run (step settings) PackageWorld.empty
        (calls ++ .update call :: others ++ [.rollback call.moduleId faults])).files = none := by
  have hw := placed_run settings calls
  rw [run_append, run_append, run_cons, run_cons, run_nil]
  rw [run_append, run_cons] at hrollback
  obtain ⟨validation, manifest, -, -, hrecord, hfiles⟩ := rollback_of_update hw hupdate hbefore hothers hrollback
  refine ⟨_, hrecord, rfl, ?_⟩
  by_contra hrestored
  obtain ⟨tree, htree, hhash⟩ := verifyInstalledPackage_checksum haccepted
  obtain ⟨tree', htree', hhash'⟩ := verifyInstalledPackage_checksum hrestored
  have hsame : tree' = tree := Option.some.inj ((htree'.symm.trans hfiles).trans htree)
  rw [hsame, hhash] at hhash'
  exact hchecksum hhash'.symm

/-- Digests are lower-case already. -/
def demoChecks : LoaderChecks where
  lower text := text
  str value := value.strD
  verifySignature _ _ := true
  allowUnsigned := true

/-- The first version is installed, updated to the second one and rolled back: the record of the first version has the
checksum of the second one, and the loader, which accepted the first version before, rejects it now. -/
theorem rollback_not_undone : ∃ before after,
      (run (step Demo.settings) PackageWorld.empty [Demo.install "1.0.0"]).registry Demo.moduleId = some before ∧
      (run (step Demo.settings) PackageWorld.empty
        ([Demo.install "1.0.0"] ++ Call.update (Demo.update "1.1.0" Demo.noFaults) :: [] ++
          [Call.rollback Demo.moduleId Demo.noFaults])).registry Demo.moduleId = some after ∧
      after.installedVersion = before.installedVersion ∧ verifyInstalledPackage demoChecks before
        (run (step Demo.settings) PackageWorld.empty [Demo.install "1.0.0"]).files ≠ none ∧
      verifyInstalledPackage demoChecks after (run (step Demo.settings) PackageWorld.empty
        ([Demo.install "1.0.0"] ++ Call.update (Demo.update "1.1.0" Demo.noFaults) :: [] ++
          [Call.rollback Demo.moduleId Demo.noFaults])).files = none ∧
      ¬ Undone demoChecks before (run (step Demo.settings) PackageWorld.empty [Demo.install "1.0.0"])
        (run (step Demo.settings) PackageWorld.empty
          ([Demo.install "1.0.0"] ++ Call.update (Demo.update "1.1.0" Demo.noFaults) :: [] ++
            [Call.rollback Demo.moduleId Demo.noFaults])) := by
  have hmodule : Demo.moduleId = (Demo.update "1.1.0" Demo.noFaults).moduleId := rfl
  rw [hmodule]
  have hverified : ((run (step Demo.settings) PackageWorld.empty [Demo.install "1.0.0"]).registry
      (Demo.update "1.1.0" Demo.noFaults).moduleId).any (fun before => (verifyInstalledPackage demoChecks before
        (run (step Demo.settings) PackageWorld.empty [Demo.install "1.0.0"]).files).isSome &&
      decide (demoChecks.lower (computePackageContentSha256 (Demo.archive "1.1.0")) ≠
        demoChecks.lower before.checksumSha256)) = true := by decide +kernel
  obtain ⟨before, hbefore, hboth⟩ := (Option.any_eq_true _ _).mp hverified
  rw [Bool.and_eq_true, decide_eq_true_eq] at hboth
  have haccepted : verifyInstalledPackage demoChecks before
      (run (step Demo.settings) PackageWorld.empty [Demo.install "1.0.0"]).files ≠ none :=
    Option.isSome_iff_ne_none.mp hboth.1
  obtain ⟨after, hafter, hversion, hrejected⟩ := rollback_rejected Demo.settings demoChecks
    [Demo.install "1.0.0"] (Demo.update "1.1.0" Demo.noFaults) before [] Demo.noFaults hbefore
    (by decide +kernel) (fun _ h => absurd h List.not_mem_nil) (by decide +kernel) haccepted hboth.2
  refine ⟨before, after, hbefore, hafter, hversion, haccepted, hrejected, ?_⟩
  rintro ⟨after', hafter', -, hloads⟩
  rw [(placed_run Demo.settings [Demo.install "1.0.0"] _ _ hbefore).owner] at hafter'
  obtain rfl := Option.some.inj (hafter.symm.trans hafter')
  exact hloads haccepted hrejected

theorem rollback_undoes_iff_demo :
    ∃ before, (run (step Demo.settings) PackageWorld.empty [Demo.install "1.0.0"]).registry Demo.moduleId =
        some before ∧ (Undone demoChecks before (run (step Demo.settings) PackageWorld.empty [Demo.install "1.0.0"])
          (run (step Demo.settings) PackageWorld.empty
            ([Demo.install "1.0.0"] ++ Call.update (Demo.update "1.1.0" Demo.noFaults) :: [] ++
              [Call.rollback Demo.moduleId Demo.noFaults])) ↔
        Republishes (Demo.update "1.1.0" Demo.noFaults) before) := by
  have hmodule : Demo.moduleId = (Demo.update "1.1.0" Demo.noFaults).moduleId := rfl
  rw [hmodule]
  have hinstalled : ((run (step Demo.settings) PackageWorld.empty [Demo.install "1.0.0"]).registry
      (Demo.update "1.1.0" Demo.noFaults).moduleId).isSome = true := by decide +kernel
  obtain ⟨before, hbefore⟩ := Option.isSome_iff_exists.mp hinstalled
  exact ⟨before, hbefore, rollback_undoes_iff Demo.settings demoChecks [Demo.install "1.0.0"]
    (Demo.update "1.1.0" Demo.noFaults) before [] Demo.noFaults hbefore (by decide +kernel)
    (fun _ h => absurd h List.not_mem_nil) (by decide +kernel)⟩

end EnergyCore.Packages
