import EnergyCore.Foundations.StepRun
import EnergyCore.Packages.PackageLifecycle

/-!
# Runs of package operations

The modules path over any number of calls. What a call about one module can touch is said once: the rows of that
module and its own directories.

* `step_of_admits` — a call keeps whatever such changes keep;
* `placed_run` — every record points to its own directories;
* `sameModule_run` — calls about other modules leave a module as it is.
-/

namespace EnergyCore.Packages

open FallibleSteps StepRun

/-! ### Calls -/

/-- What is there between two calls. -/
structure PackageWorld where
  registry : Registry
  files : Directories

namespace PackageWorld

/-- A modules path on which nothing was installed yet. -/
def empty : PackageWorld where
  registry _ := none
  files _ := none

/-- A call starts with a session of its own. -/
def session (w : PackageWorld) : Session where
  committed := w.registry
  rows := w.registry
  files := w.files

/-- What a call leaves: the committed rows and the directories, whether it returned or raised. -/
def exec {α : Type} (w : PackageWorld) (m : Op α) : PackageWorld :=
  match m w.session with
  | .ok _ s => ⟨s.committed, s.files⟩
  | .error _ s => ⟨s.committed, s.files⟩

/-- Whether a call raises. -/
def raises {α : Type} (w : PackageWorld) (m : Op α) : Bool :=
  match m w.session with
  | .ok _ _ => false
  | .error _ _ => true

theorem exec_of_returns {α : Type} {w : PackageWorld} {m : Op α} (h : w.raises m = false) :
    ∃ a s, m w.session = .ok a s ∧ w.exec m = ⟨s.committed, s.files⟩ := by
  unfold raises at h
  unfold exec
  cases hrun : m w.session with
  | ok a s => exact ⟨a, s, rfl, rfl⟩
  | error e s => simp [hrun] at h

theorem exec_of_raises {α : Type} {w : PackageWorld} {m : Op α} (h : w.raises m = true) :
    ∃ e s, m w.session = .error e s ∧ w.exec m = ⟨s.committed, s.files⟩ := by
  unfold raises at h
  unfold exec
  cases hrun : m w.session with
  | ok a s => simp [hrun] at h
  | error e s => exact ⟨e, s, rfl, rfl⟩

end PackageWorld

inductive Call where
  | install (call : InstallCall)
  | update (call : UpdateCall)
  | rollback (moduleId : String) (faults : Faults)
  | remove (moduleId : String) (impact : Except Raised ImpactReport) (acquire : Option Raised)
      (faults : Faults)
  /-- The loader quarantines an installed module at startup. -/
  | quarantine (moduleId : String) (reason : String) (lastError : Option String) (now : String)
      (faults : Faults)

/-- The module that a call is about, if it gets to know one. -/
def Call.moduleId : Call → Option String
  | .install call =>
    match call.validation with
    | .ok validation => validation.manifest.map ModuleManifest.moduleId
    | .error _ => none
  | .update call => call.moduleId
  | .rollback moduleId _ => moduleId
  | .remove moduleId _ _ _ => moduleId
  | .quarantine moduleId _ _ _ _ => moduleId

/-- `quarantine_package` of the record that is in the registry. -/
def quarantineInstalled (moduleId : String) (reason : String) (lastError : Option String) (now : String)
    (faults : Faults) : Op Unit := do
  match ← repoGet moduleId none with
  | none => pure ()
  | some record => do
    let _ ← quarantinePackage record reason lastError now faults

def step (settings : Settings) (w : PackageWorld) : Call → PackageWorld
  | .install call => w.exec (install settings call)
  | .update call => w.exec (update settings call)
  | .rollback moduleId faults => w.exec (rollback settings moduleId faults)
  | .remove moduleId impact acquire faults => w.exec (remove moduleId impact acquire faults)
  | .quarantine moduleId reason lastError now faults =>
    w.exec (quarantineInstalled moduleId reason lastError now faults)

/-! ### What a call can touch -/

/-- The directories of a module. -/
def WorkDir (root : Path) (moduleId : String) (p : Path) : Prop :=
  ∃ version, p = stagingDir root moduleId version ∨ p = installedDir root moduleId version ∨
    p = backupDir root moduleId version

/-- The record of a module that points to the module's own directories. -/
structure PlacedRecord (root : Path) (moduleId : String) (record : InstalledPackageRecord) : Prop where
  owner : record.moduleId = moduleId
  packagePath : record.packagePath = installedDir root moduleId record.installedVersion
  previous : ∀ version p, rollbackTarget record = some (version, p) → p = backupDir root moduleId version

/-- Nothing that a call about the module does breaks `I`, and `I` knows the module's record. -/
structure Admits (root : Path) (moduleId : String) (I : Session → Prop) : Prop where
  setDir : ∀ s p tree, WorkDir root moduleId p → I s →
    I { s with files := Function.update s.files p tree }
  putRow : ∀ s record, PlacedRecord root moduleId record → I s →
    I { s with rows := Function.update s.rows moduleId (some record) }
  dropRow : ∀ s, I s → I { s with rows := Function.update s.rows moduleId none }
  commit : ∀ s, I s → I { s with committed := s.rows }
  rollback : ∀ s, I s → I { s with rows := s.committed }
  promoted : ∀ s, I s → I { s with promoted := true }
  placed : ∀ s record, I s → s.rows moduleId = some record → PlacedRecord root moduleId record

theorem workDir_staging (root : Path) (moduleId version : String) :
    WorkDir root moduleId (stagingDir root moduleId version) := ⟨version, .inl rfl⟩

theorem workDir_installed (root : Path) (moduleId version : String) :
    WorkDir root moduleId (installedDir root moduleId version) := ⟨version, .inr (.inl rfl)⟩

theorem workDir_backup (root : Path) (moduleId version : String) :
    WorkDir root moduleId (backupDir root moduleId version) := ⟨version, .inr (.inr rfl)⟩

/-! ### Records -/

theorem placedRecord_quarantined {root : Path} {moduleId : String} {record : InstalledPackageRecord}
    (h : PlacedRecord root moduleId record) (reason : String) (lastError : Option String) (now : String) :
    PlacedRecord root moduleId (quarantinedRecord record reason lastError now) :=
  ⟨h.owner, h.packagePath, h.previous⟩

theorem placedRecord_restored {root : Path} {moduleId : String} {record : InstalledPackageRecord}
    (h : PlacedRecord root moduleId record) (version : String) : PlacedRecord root moduleId
      (restoredRecord record version (installedDir root moduleId version)) :=
  ⟨h.owner, rfl, fun _ _ hnone => absurd hnone (by simp [rollbackTarget, restoredRecord])⟩

theorem rollbackTarget_eq_some {record : InstalledPackageRecord} {version : String} {p : Path}
    (h : rollbackTarget record = some (version, p)) :
    record.rollbackVersion = some version ∧ record.previousPackagePath = some p := by
  unfold rollbackTarget at h
  cases hversion : record.rollbackVersion with
  | none => simp [hversion] at h
  | some version' =>
    cases hprevious : record.previousPackagePath with
    | none => simp [hversion, hprevious] at h
    | some p' =>
      rw [hversion, hprevious] at h
      by_cases hempty : version' = ""
      · simp [hempty] at h
      · simpa [hempty] using h

theorem placedRecord_updated {settings : Settings} {call : UpdateCall} {record : InstalledPackageRecord}
    (h : PlacedRecord settings.modulesPath call.moduleId record) (manifest : ModuleManifest)
    (validation : ValidationResult) : PlacedRecord settings.modulesPath call.moduleId
      (updatedRecord settings call record manifest validation) := by
  refine ⟨h.owner, rfl, fun version p htarget => ?_⟩
  obtain ⟨hversion, hprevious⟩ := rollbackTarget_eq_some htarget
  have hversion : record.installedVersion = version := Option.some.inj hversion
  rw [← Option.some.inj hprevious, hversion]

theorem placedRecord_installed (settings : Settings) (call : InstallCall) (manifest : ModuleManifest)
    (validation : ValidationResult) (status : SignatureStatus) : PlacedRecord settings.modulesPath manifest.moduleId
      (installedRecord settings call manifest validation status) :=
  ⟨rfl, rfl, fun _ _ hnone => absurd hnone (by simp [rollbackTarget, installedRecord])⟩

/-! ### Steps -/

section Steps

variable {I : Session → Prop}

theorem keeps_raise {α : Type} (c : Crash) : Keeps I (raise c : Op α) := keeps_throw _

theorem keeps_pathExists (p : Path) : Keeps I (pathExists p) :=
  keeps_bind keeps_get fun _ => keeps_pure _

theorem keeps_raiseIf (e : Option Raised) : Keeps I (raiseIf e) := by
  cases e with
  | none => exact keeps_pure _
  | some e => exact keeps_throw e

theorem keeps_liftExcept {α : Type} (r : Except Raised α) : Keeps I (liftExcept r) := by
  cases r with
  | ok a => exact keeps_pure a
  | error e => exact keeps_throw e

theorem yields_liftExcept {α : Type} (r : Except Raised α) : Yields I (fun a => r = .ok a) (liftExcept r) := by
  cases r with
  | ok a => exact yields_pure rfl
  | error e => exact yields_throw e

theorem keeps_orInvalidVersion (b : Option Bool) : Keeps I (orInvalidVersion b) := by
  cases b with
  | none => exact keeps_raise _
  | some b => exact keeps_pure b

theorem keeps_rmtree {p : Path} (hp : ∀ tree, Keeps I (setDir p tree)) (fault : Option Fault) :
    Keeps I (rmtree p fault) := by
  cases fault with
  | none => exact hp none
  | some fault => exact keeps_bind (hp _) fun _ => keeps_raise _

theorem keeps_rmtreeIfExists {p : Path} (hp : ∀ tree, Keeps I (setDir p tree)) (fault : Option Fault) :
    Keeps I (rmtreeIfExists p fault) :=
  keeps_bind (keeps_pathExists p) fun _ => keeps_runIf (keeps_rmtree hp fault)

theorem keeps_rmtreeIgnoringErrors {p : Path} (hp : ∀ tree, Keeps I (setDir p tree)) (fault : Option Fault) :
    Keeps I (rmtreeIgnoringErrors p fault) := hp _

theorem keeps_copytree (src : Path) {dst : Path} (hdst : ∀ tree, Keeps I (setDir dst tree))
    (fault : Option Fault) : Keeps I (copytree src dst fault) := by
  refine keeps_bind keeps_get fun s => ?_
  cases s.files src with
  | none => exact keeps_raise _
  | some tree =>
    refine keeps_bind (keeps_pathExists dst) fun found => keeps_ite (keeps_raise _) ?_
    cases fault with
    | none => exact hdst _
    | some fault => exact keeps_bind (hdst _) fun _ => keeps_raise _

theorem keeps_move {src dst : Path} (hsrc : ∀ tree, Keeps I (setDir src tree))
    (hdst : ∀ tree, Keeps I (setDir dst tree)) (fault : Option Fault) : Keeps I (move src dst fault) := by
  refine keeps_bind keeps_get fun s => ?_
  cases s.files src with
  | none => exact keeps_raise _
  | some tree =>
    cases fault with
    | none => exact keeps_bind (hdst _) fun _ => hsrc _
    | some fault => exact keeps_bind (hdst _) fun _ => keeps_raise _

theorem keeps_extract (archive : PackageTree) (traversal : Option Traversal) {target : Path}
    (ht : ∀ tree, Keeps I (setDir target tree)) (fault : Option Fault) :
    Keeps I (extract archive traversal target fault) := by
  cases fault with
  | some fault => exact keeps_bind (ht _) fun _ => keeps_raise _
  | none =>
    cases traversal with
    | some traversal => exact keeps_bind (ht _) fun _ => keeps_throw _
    | none => exact ht _

theorem keeps_withLock {α : Type} (acquire : Option Raised) (release : Option Fault) {body : Op α}
    (hbody : Keeps I body) : Keeps I (withLock acquire release body) := by
  cases acquire with
  | some e => exact keeps_throw e
  | none =>
    cases release with
    | none =>
      exact keeps_bind (keeps_tryCatch hbody fun e => keeps_bind (keeps_pure _) fun _ => keeps_throw e)
        fun _ => keeps_bind (keeps_pure _) fun _ => keeps_pure _
    | some fault =>
      exact keeps_bind (keeps_tryCatch hbody fun e => keeps_bind (keeps_raise _) fun _ => keeps_throw e)
        fun _ => keeps_bind (keeps_raise _) fun _ => keeps_pure _

end Steps

namespace Admits

variable {root : Path} {moduleId : String} {I : Session → Prop} (h : Admits root moduleId I)

include h

theorem dir {p : Path} (hp : WorkDir root moduleId p) : ∀ tree, Keeps I (Packages.setDir p tree) :=
  fun tree => keeps_modify fun s hs => h.setDir s p tree hp hs

/-- A record that is read is one of the module's own. -/
theorem yields_repoGet (fault : Option Fault) :
    Yields I (fun found => ∀ record, found = some record → PlacedRecord root moduleId record)
      (repoGet moduleId fault) := by
  intro s hs
  cases fault with
  | none => exact ⟨fun record hrecord => h.placed s record hs hrecord, hs⟩
  | some fault => exact ends_throw hs

theorem keeps_setRow {record : InstalledPackageRecord} (hr : PlacedRecord root moduleId record) :
    Keeps I (setRow record.moduleId (some record)) :=
  keeps_modify fun s hs => by
    rw [hr.owner]
    exact h.putRow s record hr hs

theorem keeps_upsert {record : InstalledPackageRecord} (hr : PlacedRecord root moduleId record)
    (fault : Option Fault) : Keeps I (upsert record fault) := by
  cases fault with
  | none => exact h.keeps_setRow hr
  | some fault => exact keeps_bind (keeps_runIf (h.keeps_setRow hr)) fun _ => keeps_raise _

theorem keeps_delete (fault : Option Fault) : Keeps I (delete moduleId fault) := by
  have hdrop : Keeps I (setRow moduleId none) := keeps_modify h.dropRow
  cases fault with
  | none => exact hdrop
  | some fault => exact keeps_bind (keeps_runIf hdrop) fun _ => keeps_raise _

theorem keeps_commit (fault : Option Fault) : Keeps I (Packages.commit fault) := by
  cases fault with
  | none => exact keeps_modify h.commit
  | some fault => exact keeps_bind (keeps_runIf (keeps_modify h.rollback)) fun _ => keeps_raise _

theorem keeps_sessionRollback (fault : Option Fault) : Keeps I (sessionRollback fault) := by
  cases fault with
  | none => exact keeps_modify h.rollback
  | some fault => exact keeps_raise _

end Admits

/-! ### Operations -/

section Operations

variable {settings : Settings} {I : Session → Prop}

theorem keeps_quarantinePackage {moduleId : String} (h : Admits settings.modulesPath moduleId I)
    {record : InstalledPackageRecord} (hr : PlacedRecord settings.modulesPath moduleId record)
    (reason : String) (lastError : Option String) (now : String) (faults : Faults) :
    Keeps I (quarantinePackage record reason lastError now faults) :=
  keeps_bind (h.keeps_upsert (placedRecord_quarantined hr reason lastError now) _) fun _ =>
    keeps_bind (h.keeps_commit _) fun _ => keeps_pure _

theorem keeps_rollback {moduleId : String} (h : Admits settings.modulesPath moduleId I)
    (faults : Faults) : Keeps I (rollback settings moduleId faults) := by
  refine (h.yields_repoGet _).keeps_bind fun found hfound => ?_
  cases found with
  | none => exact keeps_throw _
  | some record =>
    have hr := hfound record rfl
    dsimp only
    cases rollbackTarget record with
    | none => exact keeps_throw _
    | some target =>
      obtain ⟨version, backupPath⟩ := target
      have htarget := h.dir (workDir_installed settings.modulesPath moduleId version)
      refine keeps_bind (keeps_pathExists backupPath) fun found => keeps_ite ?_ (keeps_throw _)
      exact keeps_bind (keeps_rmtreeIfExists htarget _) fun _ =>
        keeps_bind (keeps_copytree backupPath htarget _) fun _ =>
          keeps_bind (h.keeps_upsert (placedRecord_restored hr version) _) fun _ =>
            keeps_bind (h.keeps_commit _) fun _ => keeps_pure _

theorem keeps_probeMigration {call : UpdateCall} {staging : Path}
    (hstaging : ∀ tree, Keeps I (setDir staging tree)) : Keeps I (probeMigration call staging) := by
  refine keeps_bind (keeps_extract _ _ hstaging _) fun _ => ?_
  cases call.migration with
  | none => exact keeps_rmtreeIgnoringErrors hstaging _
  | some e =>
    cases e with
    | packageError message code =>
      exact keeps_bind (keeps_rmtreeIgnoringErrors hstaging _) fun _ => keeps_throw _
    | crash c => exact keeps_raise c

/-- What passes the checks was read from the registry, and its archive was accepted. -/
theorem yields_checkUpdate {call : UpdateCall} {P : InstalledPackageRecord → Prop}
    (hread : Yields I (fun found => ∀ record, found = some record → P record)
      (repoGet call.moduleId (call.faults .readCurrent))) (hstaging : ∀ version tree,
      Keeps I (setDir (stagingDir settings.modulesPath call.moduleId version) tree)) :
    Yields I (fun checked => P checked.1 ∧ call.validation = .ok checked.2.2 ∧
      acceptedManifest checked.2.2 = .ok checked.2.1) (checkUpdate settings call) := by
  refine hread.bind fun found hfound => ?_
  cases found with
  | none => exact yields_throw _
  | some record =>
    refine (yields_liftExcept _).bind fun validation hvalidation => ?_
    refine (yields_liftExcept _).bind fun manifest haccepted => yields_ite (yields_throw _) ?_
    refine yields_bind (keeps_orInvalidVersion _) fun lower => yields_ite (yields_throw _) ?_
    refine yields_bind (keeps_raiseIf _) fun _ =>
      yields_bind (keeps_orInvalidVersion _) fun migrates => ?_
    exact yields_bind (keeps_runIf (keeps_probeMigration (hstaging manifest.version))) fun _ =>
      yields_pure ⟨hfound record rfl, hvalidation, haccepted⟩

section Update

variable {call : UpdateCall} (h : Admits settings.modulesPath call.moduleId I)
  {current : InstalledPackageRecord}

include h

theorem keeps_backUp : Keeps I (backUp settings call current) :=
  keeps_bind (keeps_rmtreeIfExists (h.dir (workDir_backup _ _ _)) _) fun _ =>
    keeps_copytree _ (h.dir (workDir_backup _ _ _)) _

theorem keeps_healthGate (manifest : ModuleManifest) (version : String) : Keeps I (healthGate call manifest
      (stagingDir settings.modulesPath call.moduleId version)) := by
  unfold healthGate
  cases call.faults .readManifest with
  | some fault => exact keeps_raise _
  | none =>
    rcases evaluatePackageHealth manifest call.health with (⟨message, code⟩ | c) | _
    · exact keeps_ite
        (keeps_bind (keeps_rmtreeIgnoringErrors (h.dir (workDir_staging _ _ _)) _) fun _ => keeps_throw _)
        (keeps_pure _)
    · exact keeps_raise c
    · exact keeps_pure _

theorem keeps_promote (hr : PlacedRecord settings.modulesPath call.moduleId current)
    (manifest : ModuleManifest) (validation : ValidationResult) :
    Keeps I (promote settings call current manifest validation) := by
  have hstaging := h.dir (workDir_staging settings.modulesPath call.moduleId manifest.version)
  have hinstalled := h.dir (workDir_installed settings.modulesPath call.moduleId manifest.version)
  exact keeps_bind (keeps_extract _ _ hstaging _) fun _ =>
    keeps_bind (keeps_healthGate h manifest _) fun _ =>
    keeps_bind (keeps_rmtreeIfExists hinstalled _) fun _ =>
    keeps_bind (keeps_move hstaging hinstalled _) fun _ =>
    keeps_bind (keeps_modify h.promoted) fun _ =>
    keeps_bind (keeps_raiseIf _) fun _ =>
    keeps_bind (h.keeps_upsert (placedRecord_updated hr manifest validation) _) fun _ =>
    h.keeps_commit _

theorem keeps_rollbackOrQuarantine (hr : PlacedRecord settings.modulesPath call.moduleId current)
    (reason : String) (lastError : Option String) :
    Keeps I (rollbackOrQuarantine settings call current reason lastError) := by
  refine keeps_tryCatch (keeps_bind (keeps_rollback h _) fun _ => keeps_pure _) fun e => ?_
  cases e with
  | packageError message code =>
    exact keeps_bind (keeps_quarantinePackage h hr _ _ _ _) fun _ => keeps_pure _
  | crash c => exact keeps_raise c

theorem keeps_handleFailure (hr : PlacedRecord settings.modulesPath call.moduleId current)
    (manifest : ModuleManifest) (e : Raised) : Keeps I (handleFailure settings call current manifest e) := by
  have hstaging := h.dir (workDir_staging settings.modulesPath call.moduleId manifest.version)
  rcases e with ⟨message, code⟩ | (_ | _)
  · refine keeps_bind (h.keeps_sessionRollback _) fun _ => keeps_bind keeps_get fun s => ?_
    exact keeps_bind (keeps_runIf (keeps_rollbackOrQuarantine h hr _ _)) fun _ =>
      keeps_bind (keeps_rmtreeIgnoringErrors hstaging _) fun _ => keeps_throw _
  · exact keeps_bind (keeps_rmtreeIgnoringErrors hstaging _) fun _ =>
      keeps_bind (keeps_rollbackOrQuarantine h hr _ _) fun _ => keeps_raise _
  · exact keeps_raise _

theorem keeps_update : Keeps I (update settings call) := by
  have hstaging := fun version => h.dir (workDir_staging settings.modulesPath call.moduleId version)
  refine (yields_checkUpdate (h.yields_repoGet _) hstaging).keeps_bind fun checked hchecked => ?_
  obtain ⟨current, manifest, validation⟩ := checked
  have hr := hchecked.1
  refine keeps_bind (keeps_withLock _ _ ?_) fun _ => keeps_pure _
  exact keeps_bind (keeps_backUp h) fun _ =>
    keeps_tryCatch (keeps_promote h hr manifest validation) (keeps_handleFailure h hr manifest)

end Update

theorem manifest_of_accepted {validation : ValidationResult} {manifest : ModuleManifest}
    (h : acceptedManifest validation = .ok manifest) : validation.manifest = some manifest := by
  unfold acceptedManifest at h
  cases hmanifest : validation.manifest with
  | none => simp [hmanifest] at h
  | some manifest' =>
    simp only [hmanifest] at h
    split_ifs at h with hinvalid
    exact congrArg some (Except.ok.inj h)

theorem keeps_placePackage {call : InstallCall} {manifest : ModuleManifest}
    (h : Admits settings.modulesPath manifest.moduleId I) (validation : ValidationResult) :
    Keeps I (placePackage settings call manifest validation) := by
  have hstaging := h.dir (workDir_staging settings.modulesPath manifest.moduleId manifest.version)
  have hinstalled := h.dir (workDir_installed settings.modulesPath manifest.moduleId manifest.version)
  refine keeps_bind (keeps_extract _ _ hstaging _) fun _ => keeps_ite (keeps_throw _) ?_
  exact keeps_bind (keeps_rmtreeIfExists hinstalled _) fun _ =>
    keeps_bind (keeps_move hstaging hinstalled _) fun _ =>
    keeps_bind (keeps_raiseIf _) fun _ =>
    keeps_bind (h.keeps_upsert (placedRecord_installed settings call manifest validation _) _) fun _ =>
    h.keeps_commit _

theorem keeps_install {call : InstallCall} (h : ∀ moduleId, (Call.install call).moduleId = some moduleId →
      Admits settings.modulesPath moduleId I) : Keeps I (install settings call) := by
  refine (yields_liftExcept _).keeps_bind fun validation hvalidation => ?_
  refine (yields_liftExcept _).keeps_bind fun manifest haccepted => ?_
  have hadmits : Admits settings.modulesPath manifest.moduleId I := by
    refine h _ ?_
    rw [Call.moduleId, hvalidation]
    show validation.manifest.map ModuleManifest.moduleId = some manifest.moduleId
    rw [manifest_of_accepted haccepted, Option.map_some]
  refine keeps_bind (keeps_withLock _ _ (keeps_tryCatch (keeps_placePackage hadmits validation) ?_))
    fun _ => keeps_pure _
  have hcleanup : ∀ e, Keeps I (do
      rmtreeIgnoringErrors (stagingDir settings.modulesPath manifest.moduleId manifest.version)
        (call.faults .dropStaging)
      throw e : Op Unit) := fun e =>
    keeps_bind (keeps_rmtreeIgnoringErrors (hadmits.dir (workDir_staging _ _ _)) _) fun _ => keeps_throw e
  rintro (⟨message, code⟩ | (_ | _))
  · exact hcleanup _
  · exact hcleanup _
  · exact keeps_raise _

theorem keeps_remove {moduleId : String} (h : Admits settings.modulesPath moduleId I)
    (impact : Except Raised ImpactReport) (acquire : Option Raised) (faults : Faults) :
    Keeps I (remove moduleId impact acquire faults) := by
  refine (h.yields_repoGet _).keeps_bind fun found hfound => ?_
  cases found with
  | none => exact keeps_throw _
  | some record =>
    have hr := hfound record rfl
    have hpackage : WorkDir settings.modulesPath moduleId record.packagePath := by
      rw [hr.packagePath]
      exact workDir_installed _ _ _
    refine keeps_bind (keeps_liftExcept _) fun impact => keeps_ite (keeps_throw _) ?_
    refine keeps_ite (keeps_throw _) (keeps_bind (keeps_withLock _ _ ?_) fun _ => keeps_pure _)
    exact keeps_bind (keeps_pathExists _) fun found =>
      keeps_bind (keeps_runIf (keeps_rmtreeIgnoringErrors (h.dir hpackage) _)) fun _ =>
      keeps_bind (h.keeps_delete _) fun _ => h.keeps_commit _

theorem keeps_quarantineInstalled {moduleId : String} (h : Admits settings.modulesPath moduleId I)
    (reason : String) (lastError : Option String) (now : String) (faults : Faults) :
    Keeps I (quarantineInstalled moduleId reason lastError now faults) := by
  refine (h.yields_repoGet _).keeps_bind fun found hfound => ?_
  cases found with
  | none => exact keeps_pure _
  | some record =>
    exact keeps_bind (keeps_quarantinePackage h (hfound record rfl) _ _ _ _) fun _ => keeps_pure _

end Operations

/-! ### Runs -/

theorem exec_of_keeps {α : Type} {I : Session → Prop} {m : Op α} (hm : Keeps I m) {w : PackageWorld}
    (hw : I w.session) : ∃ s, I s ∧ w.exec m = ⟨s.committed, s.files⟩ := by
  have hends := hm _ hw
  unfold PackageWorld.exec
  cases hrun : m w.session with
  | ok a s => exact ⟨s, hends.ok hrun, rfl⟩
  | error e s => exact ⟨s, hends.error hrun, rfl⟩

/-- **What a call may change.** A call leaves behind a session that has everything that changes to the rows and
directories of its module keep. -/
theorem step_of_admits {settings : Settings} {I : Session → Prop} {w : PackageWorld} {call : Call}
    (h : ∀ moduleId, call.moduleId = some moduleId → Admits settings.modulesPath moduleId I)
    (hw : I w.session) : ∃ s, I s ∧ step settings w call = ⟨s.committed, s.files⟩ := by
  cases call with
  | install call => exact exec_of_keeps (keeps_install h) hw
  | update call => exact exec_of_keeps (keeps_update (h _ rfl)) hw
  | rollback moduleId faults => exact exec_of_keeps (keeps_rollback (h _ rfl) faults) hw
  | remove moduleId impact acquire faults =>
    exact exec_of_keeps (keeps_remove (h _ rfl) impact acquire faults) hw
  | quarantine moduleId reason lastError now faults =>
    exact exec_of_keeps (keeps_quarantineInstalled (h _ rfl) reason lastError now faults) hw

/-- Every record points to its module's own directories. -/
def Placed (root : Path) (registry : Registry) : Prop :=
  ∀ moduleId record, registry moduleId = some record → PlacedRecord root moduleId record

theorem placed_update {root : Path} {registry : Registry} (h : Placed root registry)
    {moduleId : String} {row : Option InstalledPackageRecord}
    (hr : ∀ record, row = some record → PlacedRecord root moduleId record) :
    Placed root (Function.update registry moduleId row) := by
  intro id record hrecord
  by_cases hid : id = moduleId
  · subst hid
    rw [Function.update_self] at hrecord
    exact hr record hrecord
  · rw [Function.update_of_ne hid] at hrecord
    exact h id record hrecord

theorem admits_placed (root : Path) (moduleId : String) :
    Admits root moduleId fun s => Placed root s.committed ∧ Placed root s.rows where
  setDir _ _ _ _ hs := hs
  putRow _ record hr hs := ⟨hs.1, placed_update hs.2 fun _ h => Option.some.inj h ▸ hr⟩
  dropRow _ hs := ⟨hs.1, placed_update hs.2 fun _ h => absurd h (by simp)⟩
  commit _ hs := ⟨hs.2, hs.2⟩
  rollback _ hs := ⟨hs.1, hs.1⟩
  promoted _ hs := hs
  placed s record hs hrecord := hs.2 _ record hrecord

theorem placed_step {settings : Settings} {w : PackageWorld}
    (hw : Placed settings.modulesPath w.registry) (call : Call) : Placed settings.modulesPath (step settings w call).registry := by
  have hadmits : ∀ moduleId, call.moduleId = some moduleId → Admits settings.modulesPath moduleId _ :=
    fun moduleId _ => admits_placed _ moduleId
  obtain ⟨s, hs, hstep⟩ := step_of_admits hadmits (w := w) ⟨hw, hw⟩
  rw [hstep]
  exact hs.1

theorem placed_run (settings : Settings) (calls : List Call) :
    Placed settings.modulesPath (run (step settings) PackageWorld.empty calls).registry := by
  have hinit : Placed settings.modulesPath PackageWorld.empty.registry :=
    fun _ _ h => absurd h (by simp [PackageWorld.empty])
  have hstep : ∀ w call, Placed settings.modulesPath w.registry → True →
      Placed settings.modulesPath (step settings w call).registry :=
    fun w call hw _ => placed_step hw call
  exact AllSteps.preserves (I := fun w : PackageWorld => Placed settings.modulesPath w.registry) hstep
    hinit (AllSteps.of_forall_mem fun _ _ => trivial)

/-- The record and the directories of a module are the same. -/
structure SameModule (root : Path) (moduleId : String) (w w' : PackageWorld) : Prop where
  record : w'.registry moduleId = w.registry moduleId
  files : ∀ p, WorkDir root moduleId p → w'.files p = w.files p

theorem workDir_inj {root : Path} {moduleId moduleId' : String} {p : Path}
    (h : WorkDir root moduleId p) (h' : WorkDir root moduleId' p) : moduleId = moduleId' := by
  obtain ⟨version, h⟩ := h
  obtain ⟨version', h'⟩ := h'
  have hparts : ∃ area area', root ++ [area, moduleId, version] = root ++ [area', moduleId', version'] := by
    rcases h with rfl | rfl | rfl <;> rcases h' with h' | h' | h' <;> exact ⟨_, _, h'⟩
  obtain ⟨area, area', hparts⟩ := hparts
  have hparts := List.append_cancel_left hparts
  simp only [List.cons.injEq] at hparts
  exact hparts.2.1

/-- A session that has the module as it was in `w`. -/
structure AsIn (root : Path) (moduleId : String) (w : PackageWorld) (s : Session) : Prop where
  placed : Placed root s.committed ∧ Placed root s.rows
  committed : s.committed moduleId = w.registry moduleId
  rows : s.rows moduleId = w.registry moduleId
  files : ∀ p, WorkDir root moduleId p → s.files p = w.files p

theorem admits_asIn {root : Path} {moduleId moduleId' : String} (hne : moduleId' ≠ moduleId)
    (w : PackageWorld) : Admits root moduleId' (AsIn root moduleId w) where
  setDir s p tree hp hs := by
    refine ⟨hs.placed, hs.committed, hs.rows, fun p' hp' => ?_⟩
    have hp'ne : p' ≠ p := fun heq => hne (workDir_inj hp (heq ▸ hp'))
    exact (Function.update_of_ne hp'ne _ _).trans (hs.files p' hp')
  putRow s record hr hs :=
    ⟨(admits_placed root moduleId').putRow s record hr hs.placed, hs.committed,
      (Function.update_of_ne hne.symm _ _).trans hs.rows, hs.files⟩
  dropRow s hs :=
    ⟨(admits_placed root moduleId').dropRow s hs.placed, hs.committed,
      (Function.update_of_ne hne.symm _ _).trans hs.rows, hs.files⟩
  commit _ hs := ⟨⟨hs.placed.2, hs.placed.2⟩, hs.rows, hs.rows, hs.files⟩
  rollback _ hs := ⟨⟨hs.placed.1, hs.placed.1⟩, hs.committed, hs.committed, hs.files⟩
  promoted _ hs := ⟨hs.placed, hs.committed, hs.rows, hs.files⟩
  placed s record hs hrecord := hs.placed.2 _ record hrecord

theorem sameModule_step {settings : Settings} {w : PackageWorld}
    (hw : Placed settings.modulesPath w.registry) {call : Call} {moduleId : String}
    (hcall : call.moduleId ≠ some moduleId) : SameModule settings.modulesPath moduleId w (step settings w call) := by
  have hadmits : ∀ moduleId', call.moduleId = some moduleId' →
      Admits settings.modulesPath moduleId' (AsIn settings.modulesPath moduleId w) := by
    intro moduleId' hmodule
    have hne : moduleId' ≠ moduleId := fun heq => hcall (by rw [hmodule, heq])
    exact admits_asIn hne w
  obtain ⟨s, hs, hstep⟩ := step_of_admits hadmits ⟨⟨hw, hw⟩, rfl, rfl, fun _ _ => rfl⟩
  rw [hstep]
  exact ⟨hs.committed, hs.files⟩

/-- **Other modules.** A run of calls about other modules leaves the record and the directories of a module as
they are. -/
theorem sameModule_run {settings : Settings} {w : PackageWorld}
    (hw : Placed settings.modulesPath w.registry) {calls : List Call} {moduleId : String} (hcalls : ∀ call ∈ calls, call.moduleId ≠ some moduleId) :
    SameModule settings.modulesPath moduleId w (run (step settings) w calls) := by
  induction calls generalizing w with
  | nil => exact ⟨rfl, fun _ _ => rfl⟩
  | cons call calls ih =>
    have hfirst := sameModule_step hw (hcalls call (by simp))
    have hrest := ih (placed_step hw call) fun call' hmem => hcalls call' (by simp [hmem])
    rw [run_cons]
    refine ⟨hrest.record.trans hfirst.record, fun p hp => ?_⟩
    rw [hrest.files p hp, hfirst.files p hp]

/-! ### A module with three versions -/

namespace Demo

def versions : Versions where
  Version := ℕ
  parse version := match version with
    | "1.0.0" => some 0
    | "1.1.0" => some 1
    | "1.2.0" => some 2
    | _ => none
  lt v v' := decide (v < v')
  major _ := 1

def settings : Settings where
  modulesPath := ["modules"]
  allowUnsignedModules := true
  versions := versions

def moduleId : String := "integration.demo"

def manifest (version : String) : ModuleManifest where
  moduleId := moduleId
  name := "Demo"
  version := version
  publisher := "emic-labs"
  entrypoint := "demo:create_module"
  moduleApiVersion := 1
  minimumEmicVersion := "1.0.0"
  providedCapabilities := []
  requiredCapabilities := []
  optionalCapabilities := []
  moduleDependencies := []
  permissions := []

def archive (version : String) : PackageTree where
  manifest := some [("version", .str version)]
  files := [("module/demo.py", utf8 "0")]

def validation (version : String) : ValidationResult where
  valid := true
  manifest := some (manifest version)
  installAllowed := true

def noFaults : Faults := fun _ => none

def failsAt (failing : Step) : Faults := fun step =>
  if step = failing then some ⟨.exception, none, false⟩ else none

def install (version : String) : Call :=
  .install ⟨archive version, "upload", .ok (validation version), none, none, noFaults⟩

def update (version : String) (faults : Faults) : UpdateCall where
  moduleId := moduleId
  archive := archive version
  allowDowngrade := false
  validation := .ok (validation version)
  impact := none
  migration := none
  traversal := none
  health := .ok none
  acquire := none
  now := "2026-07-01T12:00:00+00:00"
  faults := faults

/-- The first version is installed, and updated to the second one. -/
def history : List Call := [install "1.0.0", .update (update "1.1.0" noFaults)]

end Demo

end EnergyCore.Packages
