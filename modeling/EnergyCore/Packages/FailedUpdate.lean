import EnergyCore.Packages.UpdateOutcomes

/-!
# Failed updates

Whether a failed update can be seen afterwards: in the record of the module and in its active directory, after any
history of calls.

* `exitLeaves_same_iff`, `leaves_same_iff` — which ways out of an update leave the module as it was;
* `failed_update_invisible_iff` — when a failed update is invisible;
* `failed_update_older` — a failed update that activates the version before the installed one.
-/

namespace EnergyCore.Packages

open FallibleSteps StepRun

/-! ### The property -/

/-- The record and the active directory of an installed module, before and after. -/
structure SameInstallation (before after : InstalledPackageRecord) (files files' : Directories) : Prop where
  packagePath : after.packagePath = before.packagePath
  checksum : after.checksumSha256 = before.checksumSha256
  state : after.packageState = before.packageState
  rollback : after.rollbackVersion = before.rollbackVersion
  content : files' before.packagePath = files before.packagePath

/-- The module is under quarantine, and what was installed is no longer there. -/
structure QuarantinedForLoss (before after : InstalledPackageRecord) (files files' : Directories) : Prop where
  state : after.packageState = .quarantined
  content : files' before.packagePath ≠ files before.packagePath

theorem SameInstallation.congr {before after : InstalledPackageRecord} {files files' files'' : Directories}
    (h : SameInstallation before after files files')
    (hfiles : files'' before.packagePath = files' before.packagePath) : SameInstallation before after files files'' :=
  ⟨h.packagePath, h.checksum, h.state, h.rollback, hfiles.trans h.content⟩

theorem QuarantinedForLoss.congr {before after : InstalledPackageRecord} {files files' files'' : Directories}
    (h : QuarantinedForLoss before after files files')
    (hfiles : files'' before.packagePath = files' before.packagePath) :
    QuarantinedForLoss before after files files'' :=
  ⟨h.state, fun heq => h.content (hfiles.symm.trans heq)⟩

/-- A failed call cannot be seen: the installed version is still the one from before, and the installation is the
same, or quarantined because it was lost. -/
def Invisible (w w' : PackageWorld) (moduleId : String) : Prop :=
  ∀ before, w.registry moduleId = some before → ∃ after, w'.registry moduleId = some after ∧
    after.installedVersion = before.installedVersion ∧
    (SameInstallation before after w.files w'.files ∨ QuarantinedForLoss before after w.files w'.files)

/-! ### The condition -/

namespace Attempt

variable (a : Attempt)

/-- What was installed is still there, or the module was under quarantine already. -/
def Survives (files : Directories) : Prop :=
  files a.current.packagePath = a.world.files a.current.packagePath ∨
    a.current.packageState = .quarantined

/-- The same package is installed once more, over a record that such an update has written. -/
structure SameAgain : Prop where
  version : a.manifest.version = a.current.installedVersion
  checksum : computePackageContentSha256 a.call.archive = a.current.checksumSha256
  state : a.current.packageState = .installed
  rollback : a.current.rollbackVersion = some a.current.installedVersion
  content : a.world.files a.current.packagePath = some a.call.archive

/-- The row that is still pending has the checksum of the installed package, which can not be rolled back. -/
structure SameRestored (x : Exit) : Prop where
  pending : x.pending = true
  checksum : computePackageContentSha256 a.call.archive = a.current.checksumSha256
  state : a.current.packageState = .installed
  rollback : a.current.rollbackVersion = none

/-- When a way out of the `try` block does no harm. -/
def ExitHarmless (x : Exit) : Prop :=
  match x.raised with
  | .packageError _ _ => True
  | .crash .interrupted => a.Survives x.files
  | .crash .exception =>
    match a.recovery x with
    | .fails _ files => a.Survives files
    | .refused =>
      if quarantineFails a.call.faults then a.Survives x.files
      else x.files a.current.packagePath ≠ a.world.files a.current.packagePath ∨
        a.current.packageState = .quarantined
    | .restores _ _ => a.SameRestored x

def Harmless : Prop :=
  match a.tryExit with
  | none => a.SameAgain
  | some x => a.ExitHarmless x

end Attempt

/-- An update that reaches its `try` block leaves it, and recovers, in a way that does no harm. -/
def Harmless (settings : Settings) (w : PackageWorld) (call : UpdateCall) : Prop :=
  ∀ checked, (attempt settings w call checked).Reaches → (attempt settings w call checked).Harmless

/-! ### Ways out -/

namespace Attempt

variable {a : Attempt}

/-- The module as it was, in what an attempt leaves. -/
def Same (a : Attempt) (left : InstalledPackageRecord × Directories) : Prop :=
  left.1.installedVersion = a.current.installedVersion ∧
    (SameInstallation a.current left.1 a.world.files left.2 ∨
      QuarantinedForLoss a.current left.1 a.world.files left.2)

/-- A way out is before the directory of the new version is touched, or changes nothing else. -/
theorem exit_cases {x : Exit} (h : a.tryExit = some x) :
    (x.files = a.backedUp ∨ ∃ tree, x.files = Function.update a.backedUp a.installed tree) ∧
      ∀ message code, x.raised = .packageError message code → x.files = a.backedUp := by
  simp only [tryExit, registerExit, Option.or_eq_some_iff, Option.map_eq_some_iff] at h
  rcases h with ⟨fault, -, rfl⟩ | ⟨-, ⟨traversal, -, rfl⟩ | ⟨-, ⟨e, -, rfl⟩ | ⟨-, ⟨fault, -, rfl⟩ |
    ⟨-, ⟨fault, -, rfl⟩ | ⟨-, ⟨fault, -, rfl⟩ | ⟨-, ⟨fault, -, rfl⟩ | ⟨-, fault, -, rfl⟩⟩⟩⟩⟩⟩⟩
  · exact ⟨.inl rfl, fun _ _ _ => rfl⟩
  · exact ⟨.inl rfl, fun _ _ _ => rfl⟩
  · exact ⟨.inl rfl, fun _ _ _ => rfl⟩
  · exact ⟨.inr ⟨_, rfl⟩, fun _ _ h => absurd h (by simp [switching])⟩
  · exact ⟨.inr ⟨_, rfl⟩, fun _ _ h => absurd h (by simp [switching])⟩
  · exact ⟨.inr ⟨_, rfl⟩, fun _ _ h => absurd h (by simp [late])⟩
  · exact ⟨.inr ⟨_, rfl⟩, fun _ _ h => absurd h (by simp [late])⟩
  · exact ⟨.inr ⟨_, rfl⟩, fun _ _ h => absurd h (by simp [late])⟩

/-- The backup is there whichever way the `try` block is left. -/
theorem exit_backup {x : Exit} (h : a.tryExit = some x) : x.files a.backup = a.world.files a.current.packagePath := by
  have hbackup : a.backedUp a.backup = a.world.files a.current.packagePath := Function.update_self _ _ _
  have hne : a.backup ≠ a.installed := backupDir_ne_installedDir _ _ _ _ _
  rcases (exit_cases h).1 with hfiles | ⟨tree, hfiles⟩
  · rw [hfiles, hbackup]
  · rw [hfiles, Function.update_of_ne hne, hbackup]

/-- The record stays. -/
theorem same_current_iff (files : Directories) : a.Same (a.current, files) ↔ a.Survives files := by
  constructor
  · rintro ⟨-, h | h⟩
    · exact .inl h.content
    · exact .inr h.state
  · intro h
    by_cases hcontent : files a.current.packagePath = a.world.files a.current.packagePath
    · exact ⟨rfl, .inl ⟨rfl, rfl, rfl, rfl, hcontent⟩⟩
    · exact ⟨rfl, .inr ⟨h.resolve_left hcontent, hcontent⟩⟩

/-- The record goes under quarantine. -/
theorem same_quarantined_iff (reason : String) (lastError : Option String) (now : String) (files : Directories) :
    a.Same (quarantinedRecord a.current reason lastError now, files) ↔
      files a.current.packagePath ≠ a.world.files a.current.packagePath ∨ a.current.packageState = .quarantined := by
  constructor
  · rintro ⟨-, h | h⟩
    · exact .inr h.state.symm
    · exact .inl h.content
  · intro h
    by_cases hcontent : files a.current.packagePath = a.world.files a.current.packagePath
    · have hstate := h.resolve_left (not_not.mpr hcontent)
      exact ⟨rfl, .inl ⟨rfl, rfl, hstate.symm, rfl, hcontent⟩⟩
    · exact ⟨rfl, .inr ⟨rfl, hcontent⟩⟩

/-- The rollback goes through. -/
theorem same_restored_iff (hplaced : PlacedRecord a.settings.modulesPath a.call.moduleId a.current)
    {x : Exit} (hexit : a.tryExit = some x) {record : InstalledPackageRecord} {files : Directories}
    (hrecovery : a.recovery x = .restores record files) : a.Same (record, files) ↔ a.SameRestored x := by
  obtain ⟨version, p, tree, htarget, htree, rfl, rfl⟩ := rollbackOutcome_restores hrecovery
  obtain ⟨hversion, hprevious⟩ := rollbackTarget_eq_some htarget
  unfold row at hversion hprevious
  cases hpending : x.pending with
  | false =>
    rw [hpending, if_neg (by simp)] at hversion
    constructor
    · rintro ⟨-, h | h⟩
      · exact absurd (h.rollback.trans hversion) (by simp [restoredRecord])
      · exact absurd h.state (by simp [restoredRecord])
    · intro h
      exact absurd (hpending.symm.trans h.pending) (by simp)
  | true =>
    rw [hpending, if_pos rfl] at hversion hprevious
    have hversion : a.current.installedVersion = version := Option.some.inj hversion
    have hp : a.backup = p := Option.some.inj hprevious
    have hactive : installedDir a.settings.modulesPath a.call.moduleId version = a.current.packagePath := by
      rw [hplaced.packagePath, hversion]
    have hcontent : a.world.files a.current.packagePath = some tree := by
      rw [← exit_backup hexit, hp, htree]
    have hrow : a.row x = a.newRecord := by rw [row, hpending, if_pos rfl]
    rw [hrow, hactive]
    constructor
    · rintro ⟨-, h | h⟩
      · exact ⟨hpending, h.checksum, h.state.symm, h.rollback.symm⟩
      · exact absurd h.state (by simp [restoredRecord])
    · intro h
      refine ⟨hversion.symm, .inl ⟨rfl, h.checksum, h.state.symm, h.rollback.symm, ?_⟩⟩
      show Function.update x.files a.current.packagePath (some tree) a.current.packagePath = _
      rw [Function.update_self, hcontent]

/-- **The ways out of the `try` block that leave the module as it was.** -/
theorem exitLeaves_same_iff (hplaced : PlacedRecord a.settings.modulesPath a.call.moduleId a.current)
    {x : Exit} (hexit : a.tryExit = some x) : a.Same (a.exitLeaves x) ↔ a.ExitHarmless x := by
  unfold exitLeaves ExitHarmless
  cases hraised : x.raised with
  | packageError message code =>
    refine ⟨fun _ => trivial, fun _ => (same_current_iff _).mpr (.inl ?_)⟩
    have hne : a.current.packagePath ≠ a.backup := by
      rw [hplaced.packagePath]
      exact (backupDir_ne_installedDir _ _ _ _ _).symm
    rw [(exit_cases hexit).2 message code hraised, backedUp, Function.update_of_ne hne]
  | crash c =>
    cases c with
    | interrupted => exact same_current_iff _
    | exception =>
      cases hrecovery : a.recovery x with
      | fails c files => exact same_current_iff files
      | refused =>
        simp only
        split_ifs
        · exact same_current_iff _
        · exact same_quarantined_iff _ _ _ _
      | restores record files => exact same_restored_iff hplaced hexit hrecovery

/-- Only the lock file was in the way. -/
theorem same_new_iff (hplaced : PlacedRecord a.settings.modulesPath a.call.moduleId a.current) :
    a.Same (a.newRecord, a.promoted) ↔ a.SameAgain := by
  have hcontent : a.manifest.version = a.current.installedVersion →
      a.promoted a.current.packagePath = some a.call.archive := by
    intro hversion
    have hactive : a.current.packagePath = a.installed := by rw [hplaced.packagePath, ← hversion]; rfl
    rw [hactive]
    exact Function.update_self _ _ _
  constructor
  · rintro ⟨hversion, h | h⟩
    · exact ⟨hversion, h.checksum, h.state.symm, h.rollback.symm, h.content.symm.trans (hcontent hversion)⟩
    · exact absurd h.state (by simp [newRecord, updatedRecord])
  · intro h
    refine ⟨h.version, .inl ⟨?_, h.checksum, h.state.symm, h.rollback.symm, ?_⟩⟩
    · rw [hplaced.packagePath, ← h.version]
      rfl
    · exact (hcontent h.version).trans h.content.symm

theorem leaves_same_iff (hplaced : PlacedRecord a.settings.modulesPath a.call.moduleId a.current) :
    a.Same a.leaves ↔ a.Harmless := by
  unfold leaves Harmless
  cases hexit : a.tryExit with
  | none => exact same_new_iff hplaced
  | some x => exact exitLeaves_same_iff hplaced hexit

end Attempt

/-! ### Any history -/

/-- An attempt that is reached is of the record in the registry, and the only one. -/
theorem reaches_unique {settings : Settings} {w : PackageWorld} {call : UpdateCall}
    {checked checked' : InstalledPackageRecord × ModuleManifest × ValidationResult}
    (h : (attempt settings w call checked).Reaches) (h' : (attempt settings w call checked').Reaches) :
    checked' = checked := by
  obtain ⟨s, -, hcheck, -⟩ := h
  obtain ⟨s', -, hcheck', -⟩ := h'
  exact (EStateM.Result.ok.inj (hcheck'.symm.trans hcheck)).1

theorem row_of_reaches {settings : Settings} {w : PackageWorld} {call : UpdateCall}
    {checked : InstalledPackageRecord × ModuleManifest × ValidationResult}
    (h : (attempt settings w call checked).Reaches) : w.registry call.moduleId = some checked.1 := by
  obtain ⟨s, -, hcheck, -⟩ := h
  exact ((Attempt.ends_checkUpdate settings w call).ok hcheck).1

theorem invisible_iff_harmless {settings : Settings} {w : PackageWorld}
    (hw : Placed settings.modulesPath w.registry) {call : UpdateCall}
    (hraises : w.raises (update settings call) = true) :
    Invisible w (step settings w (.update call)) call.moduleId ↔ Harmless settings w call := by
  obtain ⟨e, s, hrun, hexec⟩ := PackageWorld.exec_of_raises hraises
  have hstep : step settings w (.update call) = ⟨s.committed, s.files⟩ := hexec
  rw [hstep]
  rcases (update_leaves hw call).error hrun with ⟨checked, hreaches, hrecord, hfiles⟩ | ⟨hnot, huntouched⟩
  · have hrow := row_of_reaches hreaches
    have hplaced : PlacedRecord settings.modulesPath call.moduleId checked.1 := hw _ _ hrow
    have hactive : s.files checked.1.packagePath =
        (attempt settings w call checked).leaves.2 checked.1.packagePath := by
      rw [hplaced.packagePath]
      exact hfiles.installed _
    have hsame := Attempt.leaves_same_iff (a := attempt settings w call checked) hplaced
    constructor
    · intro hinvisible checked' hreaches'
      rw [reaches_unique hreaches hreaches', ← hsame]
      obtain ⟨after, hafter, hversion, h⟩ := hinvisible checked.1 hrow
      obtain rfl := Option.some.inj (hrecord.symm.trans hafter)
      exact ⟨hversion, h.imp (fun h => h.congr hactive.symm) fun h => h.congr hactive.symm⟩
    · intro hharmless before hbefore
      obtain rfl := Option.some.inj (hrow.symm.trans hbefore)
      obtain ⟨hversion, h⟩ := hsame.mpr (hharmless checked hreaches)
      exact ⟨_, hrecord, hversion, h.imp (fun h => h.congr hactive) fun h => h.congr hactive⟩
  · refine ⟨fun _ checked hreaches => absurd hreaches (hnot checked), fun _ before hbefore => ?_⟩
    refine ⟨before, by rw [huntouched.committed]; exact hbefore, rfl, .inl ⟨rfl, rfl, rfl, rfl, ?_⟩⟩
    rw [(hw _ _ hbefore).packagePath]
    exact huntouched.files _

/-- **When a failed update is invisible.** After any history of calls, an update that fails leaves the module as it
was, or quarantined because it was lost, exactly if it does not reach its `try` block or leaves that harmlessly. -/
theorem failed_update_invisible_iff (settings : Settings) (calls : List Call) (call : UpdateCall)
    (hraises : (run (step settings) PackageWorld.empty calls).raises (update settings call) = true) :
    Invisible (run (step settings) PackageWorld.empty calls)
        (run (step settings) PackageWorld.empty (calls ++ [.update call])) call.moduleId ↔
      Harmless settings (run (step settings) PackageWorld.empty calls) call := by
  rw [run_append]
  exact invisible_iff_harmless (placed_run settings calls) hraises

/-- The third version can not be moved to its place: the module is back at the first version. -/
theorem failed_update_older : (run (step Demo.settings) PackageWorld.empty Demo.history).raises
        (update Demo.settings (Demo.update "1.2.0" (Demo.failsAt .move))) = true ∧
      ((run (step Demo.settings) PackageWorld.empty Demo.history).registry Demo.moduleId).map
        (·.installedVersion) = some "1.1.0" ∧ ((run (step Demo.settings) PackageWorld.empty
          (Demo.history ++ [.update (Demo.update "1.2.0" (Demo.failsAt .move))])).registry
        Demo.moduleId).map (·.installedVersion) = some "1.0.0" ∧
      ¬ Invisible (run (step Demo.settings) PackageWorld.empty Demo.history)
        (run (step Demo.settings) PackageWorld.empty
          (Demo.history ++ [.update (Demo.update "1.2.0" (Demo.failsAt .move))])) Demo.moduleId := by
  have hbefore : ((run (step Demo.settings) PackageWorld.empty Demo.history).registry Demo.moduleId).map
      (·.installedVersion) = some "1.1.0" := by decide +kernel
  have hafter : ((run (step Demo.settings) PackageWorld.empty
      (Demo.history ++ [.update (Demo.update "1.2.0" (Demo.failsAt .move))])).registry Demo.moduleId).map
      (·.installedVersion) = some "1.0.0" := by decide +kernel
  refine ⟨by decide +kernel, hbefore, hafter, fun hinvisible => ?_⟩
  obtain ⟨before, hrow, hversion⟩ := Option.map_eq_some_iff.mp hbefore
  obtain ⟨after, hrow', hversion', -⟩ := hinvisible before hrow
  rw [hrow', Option.map_some, hversion', hversion] at hafter
  exact absurd hafter (by decide)

theorem failed_update_invisible_iff_demo : Invisible (run (step Demo.settings) PackageWorld.empty Demo.history)
        (run (step Demo.settings) PackageWorld.empty
          (Demo.history ++ [.update (Demo.update "1.2.0" (Demo.failsAt .move))])) Demo.moduleId ↔
      Harmless Demo.settings (run (step Demo.settings) PackageWorld.empty Demo.history)
        (Demo.update "1.2.0" (Demo.failsAt .move)) :=
  failed_update_invisible_iff Demo.settings Demo.history (Demo.update "1.2.0" (Demo.failsAt .move))
    (by decide +kernel)

end EnergyCore.Packages
