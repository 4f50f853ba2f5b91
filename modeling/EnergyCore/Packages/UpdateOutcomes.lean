import EnergyCore.Packages.PackageRuns

/-!
# What an update leaves

Every way out of `PackageUpdater.update`, as a function of the state before the call and of what fails in it.

* `Attempt.tryExit` — where the `try` block is left, `Attempt.recovery` — how far the rollback in the handler gets;
* `ends_promote`, `ends_rollback`, `ends_handleFailure` — the parts of the update do just that;
* `update_leaves` — the record and the directories after an update that failed.
-/

namespace EnergyCore.Packages

open FallibleSteps

/-! ### Attempts -/

/-- An update at work: the record it has read, and the manifest it has accepted. -/
structure Attempt where
  settings : Settings
  world : PackageWorld
  call : UpdateCall
  current : InstalledPackageRecord
  manifest : ModuleManifest
  validation : ValidationResult

namespace Attempt

variable (a : Attempt)

def staging : Path := stagingDir a.settings.modulesPath a.call.moduleId a.manifest.version

def installed : Path := installedDir a.settings.modulesPath a.call.moduleId a.manifest.version

def backup : Path := backupDir a.settings.modulesPath a.call.moduleId a.current.installedVersion

def newRecord : InstalledPackageRecord :=
  updatedRecord a.settings a.call a.current a.manifest a.validation

/-- The directories once the installed package is backed up. -/
def backedUp : Directories :=
  Function.update a.world.files a.backup (a.world.files a.current.packagePath)

/-- The directories once the new package is in its place. -/
def promoted : Directories := Function.update a.backedUp a.installed (some a.call.archive)

/-- A way out of the `try` block: what is raised, the directories, and whether the session reads the new row. -/
structure Exit where
  raised : Raised
  files : Directories
  pending : Bool

def healthExit : Option Raised :=
  match a.call.faults .readManifest with
  | some fault => some (.crash fault.crash)
  | none =>
    match evaluatePackageHealth a.manifest a.call.health with
    | .ok () => none
    | .error (.packageError message code) =>
      if code = healthGateFailed then some (.packageError message code) else none
    | .error (.crash c) => some (.crash c)

/-- Before the installed directories are touched. -/
def early (e : Raised) : Exit := ⟨e, a.backedUp, false⟩

/-- While the directory of the new version is replaced. -/
def switching (fault : Fault) : Exit :=
  ⟨.crash fault.crash, Function.update a.backedUp a.installed fault.left, false⟩

/-- With the new package in its place. -/
def late (pending : Bool) (fault : Fault) : Exit := ⟨.crash fault.crash, a.promoted, pending⟩

def dropFault : Option Fault :=
  if (a.backedUp a.installed).isSome then a.call.faults .dropInstalled else none

/-- The registry writes at the end of the `try` block. -/
def registerExit : Option Exit :=
  ((a.call.faults .checksum).map (a.late false)).or <|
  ((a.call.faults .upsert).map fun fault => a.late fault.seen fault).or <|
  (a.call.faults .commit).map fun fault => a.late fault.seen fault

/-- The first step of the `try` block that raises. -/
def tryExit : Option Exit :=
  ((a.call.faults .extract).map fun fault => a.early (.crash fault.crash)).or <|
  (a.call.traversal.map fun traversal => a.early (.packageError traversal.message pathTraversal)).or <|
  (a.healthExit.map a.early).or <|
  (a.dropFault.map a.switching).or <|
  ((a.call.faults .move).map a.switching).or <|
  a.registerExit

end Attempt

/-- How the restore of a backup is cut off, if it is: the directories that are left. -/
def restoreExit (faults : Faults) (files : Directories) (target : Path) (tree : PackageTree) :
    Option (Crash × Directories) :=
  let leaving (fault : Fault) := (fault.crash, Function.update files target fault.left)
  let restored (fault : Fault) := (fault.crash, Function.update files target (some tree))
  ((if (files target).isSome then faults .dropTarget else none).map leaving).or <|
  ((faults .copyBack).map leaving).or <|
  ((faults .restoreUpsert).map restored).or <|
  (faults .restoreCommit).map restored

/-- What a rollback comes to. -/
inductive Recovery where
  | fails (c : Crash) (files : Directories)
  | refused
  | restores (record : InstalledPackageRecord) (files : Directories)

def rollbackOutcome (settings : Settings) (moduleId : String) (faults : Faults)
    (row : InstalledPackageRecord) (files : Directories) : Recovery :=
  match faults .readBack with
  | some fault => .fails fault.crash files
  | none =>
    match rollbackTarget row with
    | none => .refused
    | some (version, p) =>
      match files p with
      | none => .refused
      | some tree =>
        let target := installedDir settings.modulesPath moduleId version
        match restoreExit faults files target tree with
        | some (c, files) => .fails c files
        | none =>
          .restores (restoredRecord row version target)
            (Function.update files target (some tree))

theorem rollbackOutcome_restores {settings : Settings} {moduleId : String} {faults : Faults}
    {row record : InstalledPackageRecord} {files files' : Directories}
    (h : rollbackOutcome settings moduleId faults row files = .restores record files') :
    ∃ version p tree, rollbackTarget row = some (version, p) ∧ files p = some tree ∧
      record = restoredRecord row version (installedDir settings.modulesPath moduleId version) ∧
      files' = Function.update files (installedDir settings.modulesPath moduleId version) (some tree) := by
  unfold rollbackOutcome at h
  cases hread : faults .readBack with
  | some fault => simp [hread] at h
  | none =>
    cases htarget : rollbackTarget row with
    | none => simp [hread, htarget] at h
    | some target =>
      obtain ⟨version, p⟩ := target
      cases htree : files p with
      | none => simp [hread, htarget, htree] at h
      | some tree =>
        simp only [hread, htarget, htree] at h
        split at h
        · exact absurd h (by simp)
        · obtain ⟨hrecord, hfiles⟩ := Recovery.restores.inj h
          exact ⟨version, p, tree, rfl, htree, hrecord.symm, hfiles.symm⟩

/-- Whether the quarantine itself fails. -/
def quarantineFails (faults : Faults) : Bool :=
  (faults .quarantineUpsert).isSome || (faults .quarantineCommit).isSome

namespace Attempt

variable (a : Attempt)

/-- The row that the handler reads. -/
def row (x : Exit) : InstalledPackageRecord := if x.pending then a.newRecord else a.current

/-- The rollback in the handler of a failure. -/
def recovery (x : Exit) : Recovery :=
  rollbackOutcome a.settings a.call.moduleId a.call.faults (a.row x) x.files

/-- The record and the directories after a failure in the `try` block. -/
def exitLeaves (x : Exit) : InstalledPackageRecord × Directories :=
  match x.raised with
  | .packageError _ _ => (a.current, x.files)
  | .crash .interrupted => (a.current, x.files)
  | .crash .exception =>
    match a.recovery x with
    | .fails _ files => (a.current, files)
    | .refused =>
      (if quarantineFails a.call.faults then a.current
        else quarantinedRecord a.current "update_failed" none a.call.now, x.files)
    | .restores record files => (record, files)

/-- The record and the directories after the call, which may still fail to remove its lock file. -/
def leaves : InstalledPackageRecord × Directories :=
  match a.tryExit with
  | none => (a.newRecord, a.promoted)
  | some x => a.exitLeaves x

end Attempt

/-! ### Working directories -/

/-- The same directories, the staging directories of the module apart. -/
def OffStaging (root : Path) (moduleId : String) (f g : Directories) : Prop :=
  ∀ p, (∀ version, p ≠ stagingDir root moduleId version) → f p = g p

section OffStaging

variable {root : Path} {moduleId : String} {f g : Directories}

theorem offStaging_refl (f : Directories) : OffStaging root moduleId f f := fun _ _ => rfl

theorem OffStaging.update (h : OffStaging root moduleId f g) (p : Path) (tree : Option PackageTree) :
    OffStaging root moduleId (Function.update f p tree) (Function.update g p tree) := by
  intro q hq
  by_cases hqp : q = p
  · rw [hqp, Function.update_self, Function.update_self]
  · rw [Function.update_of_ne hqp, Function.update_of_ne hqp]
    exact h q hq

theorem OffStaging.staging (h : OffStaging root moduleId f g) (version : String) (tree : Option PackageTree) :
    OffStaging root moduleId (Function.update f (stagingDir root moduleId version) tree) g := by
  intro q hq
  rw [Function.update_of_ne (hq version)]
  exact h q hq

theorem OffStaging.installed (h : OffStaging root moduleId f g) (version : String) :
    f (installedDir root moduleId version) = g (installedDir root moduleId version) :=
  h _ fun version' => (stagingDir_ne_installedDir root moduleId moduleId version' version).symm

theorem OffStaging.backup (h : OffStaging root moduleId f g) (version : String) :
    f (backupDir root moduleId version) = g (backupDir root moduleId version) :=
  h _ fun version' => backupDir_ne_stagingDir root moduleId moduleId version version'

end OffStaging

/-! ### The `try` block -/

namespace Attempt

variable {a : Attempt}

/-- Backed up, and nothing done yet. -/
structure Ready (a : Attempt) (s : Session) : Prop where
  committed : s.committed = a.world.registry
  rows : s.rows = a.world.registry
  promoted : s.promoted = false
  files : OffStaging a.settings.modulesPath a.call.moduleId s.files a.backedUp

theorem Ready.staging {s : Session} (h : a.Ready s) (tree : Option PackageTree) :
    a.Ready { s with files := Function.update s.files a.staging tree } :=
  ⟨h.committed, h.rows, h.promoted, h.files.staging _ _⟩

/-- The `try` block was left at `x`. -/
structure LeftAt (a : Attempt) (x : Exit) (s : Session) : Prop where
  committed : s.committed = a.world.registry
  row : s.rows a.call.moduleId = some (a.row x)
  promoted : ∀ message code, x.raised = .packageError message code → s.promoted = false
  files : OffStaging a.settings.modulesPath a.call.moduleId s.files x.files

theorem Ready.leftAt {s : Session} (h : a.Ready s)
    (hrow : a.world.registry a.call.moduleId = some a.current) (e : Raised) : a.LeftAt (a.early e) s :=
  ⟨h.committed, by rw [h.rows]; exact hrow, fun _ _ _ => h.promoted, h.files⟩

/-- The `try` block raised `e`. -/
def Left (a : Attempt) (e : Raised) (s : Session) : Prop :=
  ∃ x, a.tryExit = some x ∧ e = x.raised ∧ a.LeftAt x s

theorem ends_healthGate {s : Session} (hs : a.Ready s) :
    Ends (healthGate a.call a.manifest a.staging) s (fun _ s' => a.healthExit = none ∧ s' = s)
      (fun e s' => a.healthExit = some e ∧ a.Ready s') := by
  unfold healthGate healthExit
  cases a.call.faults .readManifest with
  | some fault => exact ends_throw ⟨rfl, hs⟩
  | none =>
    rcases evaluatePackageHealth a.manifest a.call.health with (⟨message, code⟩ | c) | _
    · refine ends_ite (fun hcode => ?_) fun hcode => ?_
      · exact ends_bind (ends_modify (hs.staging _)) fun _ s' hs' =>
          ends_throw ⟨by simp only [if_pos hcode], hs'⟩
      · exact ends_pure ⟨by simp only [if_neg hcode], rfl⟩
    · exact ends_throw ⟨rfl, hs⟩
    · exact ends_pure ⟨rfl, rfl⟩

/-- The directory of the new version is replaced. -/
structure Switched (a : Attempt) (tree : Option PackageTree) (s : Session) : Prop where
  committed : s.committed = a.world.registry
  rows : s.rows = a.world.registry
  files : OffStaging a.settings.modulesPath a.call.moduleId s.files
    (Function.update a.backedUp a.installed tree)

theorem Ready.switched {s : Session} (h : a.Ready s) (tree : Option PackageTree) :
    a.Switched tree { s with files := Function.update s.files a.installed tree } :=
  ⟨h.committed, h.rows, h.files.update _ _⟩

theorem Switched.again {s : Session} {tree : Option PackageTree} (h : a.Switched tree s)
    (tree' : Option PackageTree) :
    a.Switched tree' { s with files := Function.update s.files a.installed tree' } := by
  refine ⟨h.committed, h.rows, ?_⟩
  have hfiles := h.files.update a.installed tree'
  rwa [Function.update_idem] at hfiles

theorem Switched.leftAt {s : Session} {tree : Option PackageTree} (h : a.Switched tree s)
    (hrow : a.world.registry a.call.moduleId = some a.current) (c : Crash) :
    a.LeftAt ⟨.crash c, Function.update a.backedUp a.installed tree, false⟩ s :=
  ⟨h.committed, by rw [h.rows]; exact hrow, fun _ _ h => absurd h (by simp), h.files⟩

theorem ends_replaceInstalled {s : Session} (hs : a.Ready s)
    (hrow : a.world.registry a.call.moduleId = some a.current)
    (hstaged : s.files a.staging = some a.call.archive) {α : Type} {next : Op α} {Q : α → Session → Prop}
    {E : Raised → Session → Prop}
    (hdrop : ∀ fault, a.dropFault = some fault → ∀ s', a.LeftAt (a.switching fault) s' → E (.crash fault.crash) s')
    (hmove : ∀ fault, a.dropFault = none → a.call.faults .move = some fault →
      ∀ s', a.LeftAt (a.switching fault) s' → E (.crash fault.crash) s')
    (hnext : a.dropFault = none → a.call.faults .move = none →
      ∀ s', a.Switched (some a.call.archive) s' → Ends next s' Q E) :
    Ends (do
      rmtreeIfExists a.installed (a.call.faults .dropInstalled)
      move a.staging a.installed (a.call.faults .move)
      next) s Q E := by
  have hpresent : (if (s.files a.installed).isSome then a.call.faults .dropInstalled else none) = a.dropFault := by
    rw [dropFault, show s.files a.installed = a.backedUp a.installed from hs.files.installed _]
  refine ends_bind ((ends_rmtreeIfExists a.installed (a.call.faults .dropInstalled) s).mono (fun _ s' h => h) ?_) ?_
  · rintro e s' ⟨fault, hfault, rfl, rfl⟩
    exact hdrop fault (hpresent ▸ hfault) _ ((hs.switched _).leftAt hrow _)
  rintro _ s₁ ⟨hnone, hs₁⟩
  rw [hpresent] at hnone
  have hswitched : a.Switched none s₁ := hs₁ ▸ hs.switched none
  have hstaged₁ : s₁.files a.staging = some a.call.archive := by
    rw [hs₁]
    exact (Function.update_of_ne (stagingDir_ne_installedDir _ _ _ _ _) _ _).trans hstaged
  refine ends_bind ((ends_move hstaged₁ (a.call.faults .move)).mono (fun _ s' h => h) ?_) ?_
  · rintro e s' ⟨fault, hfault, rfl, rfl⟩
    exact hmove fault hnone hfault _ ((hswitched.again _).leftAt hrow _)
  rintro _ s₂ ⟨hmoved, hs₂⟩
  refine hnext hnone hmoved s₂ ?_
  rw [hs₂]
  have hfiles := (hswitched.again (some a.call.archive)).files
  exact ⟨hswitched.committed, hswitched.rows, hfiles.staging _ _⟩

/-- The row of the module, whether or not the session reads the new one. -/
theorem row_of_seen {rows : Registry} (hrow : rows a.call.moduleId = some a.current)
    (howner : a.current.moduleId = a.call.moduleId) (seen : Bool) (fault : Fault) :
    (if seen then Function.update rows a.newRecord.moduleId (some a.newRecord) else rows) a.call.moduleId =
      some (a.row (a.late seen fault)) := by
  have hnew : a.newRecord.moduleId = a.call.moduleId := howner
  cases seen with
  | true =>
    rw [if_pos rfl, hnew, Function.update_self]
    rfl
  | false =>
    rw [if_neg (by simp), hrow]
    rfl

/-- The registry is told about the new package. -/
theorem ends_register {s : Session} (hs : a.Switched (some a.call.archive) s)
    (hrow : a.world.registry a.call.moduleId = some a.current)
    (howner : a.current.moduleId = a.call.moduleId) :
    Ends (do
      raiseIf ((a.call.faults .checksum).map fun fault => .crash fault.crash)
      upsert a.newRecord (a.call.faults .upsert)
      commit (a.call.faults .commit)) s
      (fun _ s' => a.registerExit = none ∧ s'.committed a.call.moduleId = some a.newRecord ∧
        OffStaging a.settings.modulesPath a.call.moduleId s'.files a.promoted)
      (fun e s' => ∃ x, a.registerExit = some x ∧ e = x.raised ∧ a.LeftAt x s') := by
  have hrows : s.rows a.call.moduleId = some a.current := by rw [hs.rows, hrow]
  have hnew : a.newRecord.moduleId = a.call.moduleId := howner
  have hnotPackageError : ∀ pending fault message code,
      (a.late pending fault).raised = .packageError message code → s.promoted = false :=
    fun _ _ _ _ h => absurd h (by simp [late])
  cases hchecksum : a.call.faults .checksum with
  | some fault =>
    refine ends_bind (ends_throw ?_) fun _ _ h => (h : False).elim
    refine ⟨a.late false fault, ?_, rfl, hs.leftAt hrow _⟩
    simp only [registerExit, hchecksum, Option.map_some, Option.some_or]
  | none =>
    refine ends_bind (ends_pure (Q := fun _ s' => s' = s) rfl) ?_
    rintro _ _ rfl
    refine ends_bind ((ends_upsert a.newRecord (a.call.faults .upsert) _).mono (fun _ s' h => h) ?_) ?_
    · rintro e s' ⟨fault, hfault, rfl, rfl⟩
      refine ⟨a.late fault.seen fault, ?_, rfl, hs.committed, row_of_seen hrows howner _ _,
        hnotPackageError _ _, hs.files⟩
      simp only [registerExit, hchecksum, hfault, Option.map_some, Option.map_none, Option.none_or, Option.some_or]
    rintro _ s₂ ⟨hupsert, rfl⟩
    refine (ends_commit (a.call.faults .commit) _).mono ?_ ?_
    · rintro _ s' ⟨hcommit, rfl⟩
      refine ⟨?_, ?_, hs.files⟩
      · simp only [registerExit, hchecksum, hupsert, hcommit, Option.map_none, Option.none_or]
      · rw [hnew]
        exact Function.update_self _ _ _
    · rintro e s' ⟨fault, hfault, rfl, rfl⟩
      refine ⟨a.late fault.seen fault, ?_, rfl, hs.committed, ?_, hnotPackageError _ _, hs.files⟩
      · simp only [registerExit, hchecksum, hupsert, hfault, Option.map_some, Option.map_none, Option.none_or]
      · rw [← row_of_seen hrows howner, ← hs.rows.trans hs.committed.symm]

theorem ends_promote {s : Session} (hs : a.Ready s) (hrow : a.world.registry a.call.moduleId = some a.current)
    (howner : a.current.moduleId = a.call.moduleId) :
    Ends (promote a.settings a.call a.current a.manifest a.validation) s
      (fun _ s' => a.tryExit = none ∧ s'.committed a.call.moduleId = some a.newRecord ∧
        OffStaging a.settings.modulesPath a.call.moduleId s'.files a.promoted) a.Left := by
  refine ends_bind ((ends_extract a.call.archive a.call.traversal a.staging (a.call.faults .extract) s).mono
    (fun _ s' h => h) ?_) ?_
  · rintro e s' (⟨fault, hfault, rfl, rfl⟩ | ⟨hfault, traversal, htraversal, rfl, rfl⟩)
    · exact ⟨a.early (.crash fault.crash), by simp only [tryExit, hfault, Option.map_some, Option.some_or],
        rfl, (hs.staging _).leftAt hrow _⟩
    · refine ⟨a.early (.packageError traversal.message pathTraversal), ?_, rfl, (hs.staging _).leftAt hrow _⟩
      simp only [tryExit, hfault, htraversal, Option.map_some, Option.map_none, Option.none_or, Option.some_or]
  rintro _ s₁ ⟨hextract, htraversal, hs₁⟩
  have hready : a.Ready s₁ := hs₁ ▸ hs.staging (some a.call.archive)
  have hstaged : s₁.files a.staging = some a.call.archive := by rw [hs₁]; exact Function.update_self _ _ _
  refine ends_bind ((ends_healthGate hready).mono (fun _ s' h => h) fun e s' h => ?_) ?_
  · refine ⟨a.early e, ?_, rfl, h.2.leftAt hrow _⟩
    simp only [tryExit, hextract, htraversal, h.1, Option.map_some, Option.map_none, Option.none_or, Option.some_or]
  rintro _ s₂ ⟨hhealth, rfl⟩
  refine ends_replaceInstalled hready hrow hstaged (fun fault hdrop s' hleft => ?_)
    (fun fault hdrop hmove s' hleft => ?_) fun hdrop hmove s' hswitched => ?_
  · refine ⟨a.switching fault, ?_, rfl, hleft⟩
    simp only [tryExit, hextract, htraversal, hhealth, hdrop, Option.map_some, Option.map_none, Option.none_or,
      Option.some_or]
  · refine ⟨a.switching fault, ?_, rfl, hleft⟩
    simp only [tryExit, hextract, htraversal, hhealth, hdrop, hmove, Option.map_some, Option.map_none,
      Option.none_or, Option.some_or]
  have hlate : a.tryExit = a.registerExit := by
    simp only [tryExit, hextract, htraversal, hhealth, hdrop, hmove, Option.map_none, Option.none_or]
  refine ends_bind (ends_modify (Q := fun _ => a.Switched (some a.call.archive))
    ⟨hswitched.committed, hswitched.rows, hswitched.files⟩) fun _ s₃ hs₃ => ?_
  refine (ends_register hs₃ hrow howner).mono (fun _ s' h => ?_) fun e s' h => ?_
  · rw [hlate]
    exact h
  · unfold Left
    rw [hlate]
    exact h

end Attempt

/-! ### The rollback -/

section Rollback

variable {root : Path} {moduleId : String} {faults : Faults} {s : Session} {files : Directories}

theorem ends_restore {α : Type} {p target : Path} {tree : PackageTree} {record : InstalledPackageRecord}
    (result : α) (hfiles : OffStaging root moduleId s.files files) (htarget : s.files target = files target)
    (hp : s.files p = some tree) (hne : p ≠ target) (howner : record.moduleId = moduleId) :
    Ends (do
      rmtreeIfExists target (faults .dropTarget)
      copytree p target (faults .copyBack)
      upsert record (faults .restoreUpsert)
      commit (faults .restoreCommit)
      return result) s
      (fun _ s' => restoreExit faults files target tree = none ∧
        s'.committed moduleId = some record ∧
        OffStaging root moduleId s'.files (Function.update files target (some tree)))
      (fun e s' => s'.committed = s.committed ∧ ∃ c files',
        restoreExit faults files target tree = some (c, files') ∧ e = .crash c ∧
          OffStaging root moduleId s'.files files') := by
  have hleft : ∀ tree', OffStaging root moduleId
      (Function.update (Function.update s.files target none) target tree') (Function.update files target tree') := by
    intro tree'
    rw [Function.update_idem]
    exact hfiles.update target tree'
  refine ends_bind ((ends_rmtreeIfExists target (faults .dropTarget) s).mono (fun _ s' h => h) ?_) ?_
  · rintro e s' ⟨fault, hfault, rfl, rfl⟩
    rw [htarget] at hfault
    refine ⟨rfl, fault.crash, _, ?_, rfl, hfiles.update target fault.left⟩
    simp only [restoreExit, hfault, Option.map_some, Option.some_or]
  rintro _ s₁ ⟨hdrop, rfl⟩
  rw [htarget] at hdrop
  have hsrc : (Function.update s.files target none) p = some tree := by
    rw [Function.update_of_ne hne, hp]
  refine ends_bind ((ends_copytree hsrc (Function.update_self _ _ _) (faults .copyBack)).mono (fun _ s' h => h) ?_) ?_
  · rintro e s' ⟨fault, hfault, rfl, rfl⟩
    refine ⟨rfl, fault.crash, _, ?_, rfl, hleft fault.left⟩
    simp only [restoreExit, hdrop, hfault, Option.map_some, Option.map_none, Option.none_or, Option.some_or]
  rintro _ s₂ ⟨hcopy, rfl⟩
  refine ends_bind ((ends_upsert record (faults .restoreUpsert) _).mono (fun _ s' h => h) ?_) ?_
  · rintro e s' ⟨fault, hfault, rfl, rfl⟩
    refine ⟨rfl, fault.crash, _, ?_, rfl, hleft (some tree)⟩
    simp only [restoreExit, hdrop, hcopy, hfault, Option.map_some, Option.map_none, Option.none_or, Option.some_or]
  rintro _ s₃ ⟨hupsert, rfl⟩
  refine ends_bind ((ends_commit (faults .restoreCommit) _).mono (fun _ s' h => h) ?_) ?_
  · rintro e s' ⟨fault, hfault, rfl, rfl⟩
    refine ⟨rfl, fault.crash, _, ?_, rfl, hleft (some tree)⟩
    simp only [restoreExit, hdrop, hcopy, hupsert, hfault, Option.map_some, Option.map_none, Option.none_or]
  rintro _ s₄ ⟨hcommit, rfl⟩
  refine ends_pure ⟨?_, ?_, hleft (some tree)⟩
  · simp only [restoreExit, hdrop, hcopy, hupsert, hcommit, Option.map_none, Option.none_or]
  · rw [← howner]
    exact Function.update_self _ _ _

theorem ends_rollback {settings : Settings} {row : InstalledPackageRecord}
    (hrow : s.rows moduleId = some row) (hplaced : PlacedRecord settings.modulesPath moduleId row)
    (hfiles : OffStaging settings.modulesPath moduleId s.files files) : Ends (rollback settings moduleId faults) s
      (fun _ s' => ∃ record files', rollbackOutcome settings moduleId faults row files =
          .restores record files' ∧ s'.committed moduleId = some record ∧
          OffStaging settings.modulesPath moduleId s'.files files') (fun e s' => s'.committed = s.committed ∧
        ((∃ c files', rollbackOutcome settings moduleId faults row files = .fails c files' ∧
            e = .crash c ∧ OffStaging settings.modulesPath moduleId s'.files files') ∨
          ∃ message code, rollbackOutcome settings moduleId faults row files = .refused ∧
            e = .packageError message code ∧ OffStaging settings.modulesPath moduleId s'.files files)) := by
  refine ends_bind ((ends_repoGet moduleId (faults .readBack) s).mono (fun _ s' h => h) ?_) ?_
  · rintro e s' ⟨fault, hfault, rfl, rfl⟩
    refine ⟨rfl, .inl ⟨fault.crash, files, ?_, rfl, hfiles⟩⟩
    simp only [rollbackOutcome, hfault]
  rintro found s₁ ⟨hread, rfl, rfl⟩
  rw [hrow]
  show Ends (match rollbackTarget row with
    | none => _
    | some (version, backupPath) => _) s₁ _ _
  cases htarget : rollbackTarget row with
  | none =>
    refine ends_throw ⟨rfl, .inr ⟨_, _, ?_, rfl, hfiles⟩⟩
    simp only [rollbackOutcome, hread, htarget]
  | some target =>
    obtain ⟨version, p⟩ := target
    have hp : p = backupDir settings.modulesPath moduleId version := hplaced.previous version p htarget
    have hsame : s₁.files p = files p := hp ▸ hfiles.backup version
    refine ends_bind (ends_pathExists p s₁) ?_
    rintro found s' ⟨rfl, rfl⟩
    cases htree : files p with
    | none =>
      refine ends_ite (fun hfound => absurd hfound (by rw [hsame, htree]; simp)) fun _ => ?_
      refine ends_throw ⟨rfl, .inr ⟨_, _, ?_, rfl, hfiles⟩⟩
      simp only [rollbackOutcome, hread, htarget, htree]
    | some tree =>
      have hne : p ≠ installedDir settings.modulesPath moduleId version := hp ▸ backupDir_ne_installedDir _ _ _ _ _
      have howner : (restoredRecord row version
          (installedDir settings.modulesPath moduleId version)).moduleId = moduleId := hplaced.owner
      refine ends_ite (fun _ => ?_) fun hfound => absurd (by rw [hsame, htree]; rfl) hfound
      refine (ends_restore _ hfiles (hfiles.installed version) (hsame.trans htree) hne howner).mono ?_ ?_
      · rintro _ s'' ⟨hnone, hcommitted, hleft⟩
        refine ⟨_, _, ?_, hcommitted, hleft⟩
        simp only [rollbackOutcome, hread, htarget, htree, hnone]
      · rintro e s'' ⟨hcommitted, c, files', hsome, rfl, hleft⟩
        refine ⟨hcommitted, .inl ⟨c, files', ?_, rfl, hleft⟩⟩
        simp only [rollbackOutcome, hread, htarget, htree, hsome]

end Rollback

/-! ### The handlers -/

theorem ends_quarantinePackage (record : InstalledPackageRecord) (reason : String)
    (lastError : Option String) (now : String) (faults : Faults) (s : Session) :
    Ends (quarantinePackage record reason lastError now faults) s
      (fun _ s' => quarantineFails faults = false ∧ s'.files = s.files ∧
        s'.committed record.moduleId = some (quarantinedRecord record reason lastError now))
      (fun _ s' => quarantineFails faults = true ∧ s'.files = s.files ∧ s'.committed = s.committed) := by
  refine ends_bind ((ends_upsert _ (faults .quarantineUpsert) s).mono (fun _ s' h => h) ?_) ?_
  · rintro e s' ⟨fault, hfault, rfl, rfl⟩
    exact ⟨by rw [quarantineFails, hfault]; rfl, rfl, rfl⟩
  rintro _ s₁ ⟨hupsert, rfl⟩
  refine ends_bind ((ends_commit (faults .quarantineCommit) _).mono (fun _ s' h => h) ?_) ?_
  · rintro e s' ⟨fault, hfault, rfl, rfl⟩
    exact ⟨by rw [quarantineFails, hupsert, hfault]; rfl, rfl, rfl⟩
  rintro _ s₂ ⟨hcommit, rfl⟩
  refine ends_pure ⟨by rw [quarantineFails, hupsert, hcommit]; rfl, rfl, ?_⟩
  exact Function.update_self _ _ _

namespace Attempt

variable {a : Attempt}

/-- What the registry holds of the module, and the directories. -/
def Holds (a : Attempt) (left : InstalledPackageRecord × Directories) (s : Session) : Prop :=
  s.committed a.call.moduleId = some left.1 ∧
    OffStaging a.settings.modulesPath a.call.moduleId s.files left.2

theorem placed_row (hplaced : PlacedRecord a.settings.modulesPath a.call.moduleId a.current) (x : Exit) :
    PlacedRecord a.settings.modulesPath a.call.moduleId (a.row x) := by
  unfold row
  split_ifs with hpending
  · exact placedRecord_updated hplaced a.manifest a.validation
  · exact hplaced

theorem ends_recover {x : Exit} (hraised : x.raised = .crash .exception) {s : Session} (hs : a.LeftAt x s)
    (hrow : a.world.registry a.call.moduleId = some a.current)
    (hplaced : PlacedRecord a.settings.modulesPath a.call.moduleId a.current) :
    Ends (rollbackOrQuarantine a.settings a.call a.current "update_failed" none) s
      (fun _ => a.Holds (a.exitLeaves x)) (fun _ => a.Holds (a.exitLeaves x)) := by
  have hcommitted : s.committed a.call.moduleId = some a.current := by rw [hs.committed, hrow]
  refine ends_tryCatch (ends_bind ((ends_rollback hs.row (placed_row hplaced x) hs.files).mono
    (fun _ s' h => h) fun e s' h => h) fun _ s' h => ends_pure ?_) ?_
  · obtain ⟨record, files, houtcome, hrecord, hfiles⟩ := h
    simp only [exitLeaves, hraised, recovery, houtcome]
    exact ⟨hrecord, hfiles⟩
  · rintro e s' ⟨hsame, ⟨c, files, houtcome, rfl, hfiles⟩ | ⟨message, code, houtcome, rfl, hfiles⟩⟩
    · refine ends_throw ?_
      simp only [exitLeaves, hraised, recovery, houtcome]
      exact ⟨by rw [hsame, hcommitted], hfiles⟩
    · refine ends_bind ((ends_quarantinePackage a.current "update_failed" none a.call.now
        a.call.faults s').mono (fun _ s' h => h) ?_) ?_
      · rintro e s'' ⟨hfails, hdirs, hregistry⟩
        simp only [exitLeaves, hraised, recovery, houtcome, hfails, if_true]
        exact ⟨by rw [hregistry, hsame, hcommitted], by rw [hdirs]; exact hfiles⟩
      · rintro _ s'' ⟨hfails, hdirs, hregistry⟩
        refine ends_pure ?_
        simp only [exitLeaves, hraised, recovery, houtcome, hfails]
        exact ⟨by rw [← hplaced.owner]; exact hregistry, by rw [hdirs]; exact hfiles⟩

theorem ends_handleFailure {x : Exit} {s : Session} (hs : a.LeftAt x s)
    (hrow : a.world.registry a.call.moduleId = some a.current)
    (hplaced : PlacedRecord a.settings.modulesPath a.call.moduleId a.current) :
    Ends (handleFailure a.settings a.call a.current a.manifest x.raised) s (fun _ _ => False)
      (fun _ => a.Holds (a.exitLeaves x)) := by
  have hcommitted : s.committed a.call.moduleId = some a.current := by rw [hs.committed, hrow]
  cases hraised : x.raised with
  | packageError message code =>
    have hleaves : a.exitLeaves x = (a.current, x.files) := by simp only [exitLeaves, hraised]
    rw [hleaves]
    unfold handleFailure
    cases a.call.faults .sessionRollback with
    | some fault => exact ends_bind (ends_throw ⟨hcommitted, hs.files⟩) fun _ _ h => (h : False).elim
    | none =>
      refine ends_bind (ends_modify (Q := fun _ s' => s' = { s with rows := s.committed }) rfl) ?_
      rintro _ s₁ rfl
      refine ends_bind (ends_get (Q := fun b s' => b.promoted = false ∧ s' = { s with rows := s.committed })
        ⟨hs.promoted message code hraised, rfl⟩) ?_
      rintro b s' ⟨hpromoted, rfl⟩
      refine ends_bind (ends_runIf (Q := fun _ s' => s' = { s with rows := s.committed })
        (fun hgate => absurd hgate.2 (by rw [hpromoted]; simp)) fun _ => rfl) ?_
      rintro _ s₂ rfl
      exact ends_bind (ends_modify (Q := fun _ => a.Holds (a.current, x.files))
        ⟨hcommitted, hs.files.staging _ _⟩) fun _ s₃ h => ends_throw h
  | crash c =>
    cases c with
    | interrupted =>
      have hleaves : a.exitLeaves x = (a.current, x.files) := by simp only [exitLeaves, hraised]
      rw [hleaves]
      exact ends_throw ⟨hcommitted, hs.files⟩
    | «exception» =>
      refine ends_bind (ends_modify (Q := fun _ => a.LeftAt x)
        ⟨hs.committed, hs.row, hs.promoted, hs.files.staging _ _⟩) fun _ s₁ hs₁ => ?_
      exact ends_bind (ends_recover hraised hs₁ hrow hplaced) fun _ s₂ hs₂ => ends_throw hs₂

end Attempt

/-! ### The whole call -/

namespace Attempt

variable {a : Attempt}

/-- The attempt passes the checks, gets the lock and backs the installed package up. -/
def Reaches (a : Attempt) : Prop :=
  ∃ s s', checkUpdate a.settings a.call a.world.session = .ok (a.current, a.manifest, a.validation) s ∧
    a.call.acquire = none ∧ backUp a.settings a.call a.current s = .ok () s'

/-- Only the staging directories have been worked on. -/
structure Fresh (settings : Settings) (w : PackageWorld) (moduleId : String) (s : Session) : Prop where
  committed : s.committed = w.registry
  rows : s.rows = w.registry
  promoted : s.promoted = false
  files : OffStaging settings.modulesPath moduleId s.files w.files

/-- The module is as it was, its staging and backup directories apart. -/
structure Untouched (settings : Settings) (w : PackageWorld) (moduleId : String) (s : Session) : Prop where
  committed : s.committed = w.registry
  files : ∀ version, s.files (installedDir settings.modulesPath moduleId version) =
    w.files (installedDir settings.modulesPath moduleId version)

theorem Fresh.untouched {settings : Settings} {w : PackageWorld} {moduleId : String} {s : Session}
    (h : Fresh settings w moduleId s) : Untouched settings w moduleId s :=
  ⟨h.committed, fun version => h.files.installed version⟩

theorem ends_checkUpdate (settings : Settings) (w : PackageWorld) (call : UpdateCall) :
    Ends (checkUpdate settings call) w.session
      (fun checked s => w.registry call.moduleId = some checked.1 ∧ call.validation = .ok checked.2.2 ∧
        acceptedManifest checked.2.2 = .ok checked.2.1 ∧ Fresh settings w call.moduleId s)
      (fun _ s => Fresh settings w call.moduleId s) := by
  have hread : Yields (Fresh settings w call.moduleId)
      (fun found => ∀ record, found = some record → w.registry call.moduleId = some record)
      (repoGet call.moduleId (call.faults .readCurrent)) := by
    intro s hs
    refine (ends_repoGet call.moduleId (call.faults .readCurrent) s).mono ?_ ?_
    · rintro found s' ⟨-, rfl, rfl⟩
      exact ⟨fun record hrecord => by rw [← hs.rows]; exact hrecord, hs⟩
    · rintro e s' ⟨fault, -, -, rfl⟩
      exact hs
  have hstaging : ∀ version tree, Keeps (Fresh settings w call.moduleId)
      (setDir (stagingDir settings.modulesPath call.moduleId version) tree) := fun version tree =>
    keeps_modify fun s hs => ⟨hs.committed, hs.rows, hs.promoted, hs.files.staging version tree⟩
  refine ((yields_checkUpdate hread hstaging) w.session ⟨rfl, rfl, rfl, offStaging_refl _⟩).mono ?_ fun _ _ h => h
  rintro checked s ⟨⟨hrow, hvalidation, haccepted⟩, hfresh⟩
  exact ⟨hrow, hvalidation, haccepted, hfresh⟩

theorem ends_backUp (hplaced : PlacedRecord a.settings.modulesPath a.call.moduleId a.current) {s : Session}
    (hs : Fresh a.settings a.world a.call.moduleId s) : Ends (backUp a.settings a.call a.current) s (fun _ => a.Ready)
      (fun _ => Untouched a.settings a.world a.call.moduleId) := by
  have hactive : s.files a.current.packagePath = a.world.files a.current.packagePath := by
    rw [hplaced.packagePath]
    exact hs.files.installed _
  have hne : a.current.packagePath ≠ a.backup := by
    rw [hplaced.packagePath]
    exact (backupDir_ne_installedDir _ _ _ _ _).symm
  have huntouched : ∀ tree, Untouched a.settings a.world a.call.moduleId
      { s with files := Function.update s.files a.backup tree } := by
    refine fun tree => ⟨hs.committed, fun version => ?_⟩
    have hinstalled : installedDir a.settings.modulesPath a.call.moduleId version ≠ a.backup :=
      (backupDir_ne_installedDir _ _ _ _ _).symm
    exact (Function.update_of_ne hinstalled _ _).trans (hs.files.installed version)
  refine ends_bind ((ends_rmtreeIfExists a.backup (a.call.faults .dropBackup) s).mono (fun _ s' h => h) ?_) ?_
  · rintro e s' ⟨fault, -, -, rfl⟩
    exact huntouched _
  rintro _ s₁ ⟨-, rfl⟩
  cases htree : a.world.files a.current.packagePath with
  | none =>
    have hsrc : (Function.update s.files a.backup none) a.current.packagePath = none := by
      rw [Function.update_of_ne hne, hactive, htree]
    refine (ends_copytree_missing hsrc (a.call.faults .copyBackup)).mono (fun _ _ h => h.elim) ?_
    rintro e s' ⟨-, rfl⟩
    exact huntouched none
  | some tree =>
    have hsrc : (Function.update s.files a.backup none) a.current.packagePath = some tree := by
      rw [Function.update_of_ne hne, hactive, htree]
    refine (ends_copytree hsrc (Function.update_self _ _ _) (a.call.faults .copyBackup)).mono ?_ ?_
    · rintro _ s' ⟨-, rfl⟩
      refine ⟨hs.committed, hs.rows, hs.promoted, ?_⟩
      show OffStaging _ _ (Function.update (Function.update s.files a.backup none) a.backup (some tree)) _
      rw [Function.update_idem, backedUp, htree]
      exact hs.files.update a.backup (some tree)
    · rintro e s' ⟨fault, -, -, rfl⟩
      show Untouched _ _ _ { s with
        files := Function.update (Function.update s.files a.backup none) a.backup fault.left }
      rw [Function.update_idem]
      exact huntouched _

end Attempt

theorem ends_withLock {α : Type} {release : Option Fault} {body : Op α} {s : Session}
    {Q : α → Session → Prop} {E : Raised → Session → Prop} (hbody : Ends body s Q E) :
    Ends (withLock none release body) s (fun result s' => release = none ∧ Q result s')
      (fun _ s' => (∃ e, E e s') ∨ ∃ result, Q result s') := by
  cases release with
  | none =>
    refine ends_bind (ends_tryCatch hbody fun e s' h =>
      ends_bind (ends_pure (Q := fun _ => E e) h) fun _ s' h => ends_throw (.inl ⟨e, h⟩))
      fun result s' h => ?_
    exact ends_bind (ends_pure (Q := fun _ => Q result) h) fun _ s' h => ends_pure ⟨rfl, h⟩
  | some fault =>
    refine ends_bind (ends_tryCatch hbody fun e s' h =>
      ends_bind (ends_throw (.inl ⟨e, h⟩)) fun _ _ h => (h : False).elim) fun result s' h => ?_
    exact ends_bind (ends_throw (.inr ⟨result, h⟩)) fun _ _ h => (h : False).elim

/-- The attempt that a call makes of a record, a manifest and a validation. -/
def attempt (settings : Settings) (w : PackageWorld) (call : UpdateCall)
    (checked : InstalledPackageRecord × ModuleManifest × ValidationResult) : Attempt :=
  ⟨settings, w, call, checked.1, checked.2.1, checked.2.2⟩

/-- **What an update leaves.** A call that does not reach its `try` block leaves the module as it was; the others
leave the record and the directories that `Attempt.leaves` says, whether they return or raise. -/
theorem update_leaves {settings : Settings} {w : PackageWorld} (hw : Placed settings.modulesPath w.registry)
    (call : UpdateCall) : Ends (update settings call) w.session
      (fun _ s => ∃ checked, (attempt settings w call checked).Reaches ∧
        (attempt settings w call checked).tryExit = none ∧ call.faults .release = none ∧
        (attempt settings w call checked).Holds (attempt settings w call checked).leaves s)
      (fun _ s => (∃ checked, (attempt settings w call checked).Reaches ∧
          (attempt settings w call checked).Holds (attempt settings w call checked).leaves s) ∨
        (∀ checked, ¬ (attempt settings w call checked).Reaches) ∧ Attempt.Untouched settings w call.moduleId s) := by
  have hchecks := Attempt.ends_checkUpdate settings w call
  cases hcheck : checkUpdate settings call w.session with
  | error e s =>
    refine ends_bind_of_error hcheck (.inr ⟨?_, (hchecks.error hcheck).untouched⟩)
    rintro checked ⟨s₁, s₂, hchecked, -⟩
    exact absurd (hcheck.symm.trans hchecked) (by simp)
  | ok checked s =>
    obtain ⟨hrow, -, -, hfresh⟩ := hchecks.ok hcheck
    have hplaced := hw _ _ hrow
    have hsame : ∀ checked' s₁, checkUpdate settings call w.session = .ok checked' s₁ →
        checked' = checked ∧ s₁ = s := by
      intro checked' s₁ h
      have h := h.symm.trans hcheck
      exact ⟨(EStateM.Result.ok.inj h).1, (EStateM.Result.ok.inj h).2⟩
    refine ends_bind_of_ok hcheck ?_
    cases hacquire : call.acquire with
    | some e =>
      refine ends_bind (ends_throw (.inr ⟨?_, hfresh.untouched⟩)) fun _ _ h => (h : False).elim
      rintro checked' ⟨s₁, s₂, -, hnone, -⟩
      exact absurd (hacquire.symm.trans hnone) (by simp)
    | none =>
      have hbackUp := Attempt.ends_backUp (a := attempt settings w call checked) hplaced hfresh
      cases hback : backUp settings call checked.1 s with
      | error e s' =>
        refine ends_bind ((ends_withLock (ends_bind_of_error (R := fun _ _ => False)
          (E := fun _ => Attempt.Untouched settings w call.moduleId) hback
          (hbackUp.error hback))).mono (fun _ _ h => h.2) ?_) fun _ _ h => (h : False).elim
        rintro _ s₃ (⟨e, huntouched⟩ | ⟨_, himpossible⟩)
        · refine .inr ⟨?_, huntouched⟩
          rintro checked' ⟨s₁, s₂, hchecked, -, hbacked⟩
          obtain ⟨rfl, rfl⟩ := hsame checked' s₁ hchecked
          exact absurd (hback.symm.trans hbacked) (by simp)
        · exact himpossible.elim
      | ok _ s' =>
        have hready := hbackUp.ok hback
        have hreaches : (attempt settings w call checked).Reaches := ⟨s, s', hcheck, hacquire, hback⟩
        have hpromote := Attempt.ends_promote hready hrow hplaced.owner
        have hbody := ends_tryCatch hpromote (fun e s₁ hleft => show
          Ends (handleFailure settings call checked.1 checked.2.1 e) s₁ _
            (fun _ => (attempt settings w call checked).Holds
              (attempt settings w call checked).leaves) by
          obtain ⟨x, hx, rfl, hleftAt⟩ := hleft
          refine (Attempt.ends_handleFailure hleftAt hrow hplaced).mono (fun _ _ h => h.elim) ?_
          intro _ s₂ hholds
          rw [Attempt.leaves, hx]
          exact hholds)
        have hnew : ∀ s₁, (attempt settings w call checked).tryExit = none ∧
            s₁.committed call.moduleId = some (attempt settings w call checked).newRecord ∧
            OffStaging settings.modulesPath call.moduleId s₁.files
              (attempt settings w call checked).promoted →
            (attempt settings w call checked).Holds (attempt settings w call checked).leaves s₁ := by
          intro s₁ h
          rw [Attempt.leaves, h.1]
          exact h.2
        refine ends_bind ((ends_withLock (ends_bind_of_ok hback hbody)).mono
          (fun _ s₁ h => ⟨checked, hreaches, h.2.1, h.1, hnew s₁ h.2⟩) ?_) fun _ s₁ h => ends_pure h
        rintro _ s₁ (⟨e, hholds⟩ | ⟨_, h⟩)
        · exact .inl ⟨checked, hreaches, hholds⟩
        · exact .inl ⟨checked, hreaches, hnew s₁ h⟩

end EnergyCore.Packages
