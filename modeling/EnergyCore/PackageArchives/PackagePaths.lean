import EnergyCore.PackageArchives.PackageOperations
import EnergyCore.PackageArchives.SignedPackages
import EnergyCore.Packages.PackageRuns

/-!
# Where package operations write

The paths that validating, installing and updating change, whatever the disk answers and wherever a call ends. A version
becomes a part of these paths without being checked, so the result is about archives and rows whose versions do not go
back and do not start at the root.

* `operation_withinPackage` — every change is in the three directories of the module, or is the lock, or makes a
  directory on the way.
-/

namespace EnergyCore.PackageArchives

open FallibleSteps JsonValues PosixPaths
open Packages (Path Raised ModuleManifest InstalledPackageRecord sha256Bytes)

variable (v : PackageValidator)

/-! ### The directories of a module -/

def packageTops : List String := [".staging", "installed", "backups"]

/-- The path is one of the three directories of the module, or below one. -/
def InPackageDirs (moduleId : String) (q : Path) : Prop :=
  ∃ top ∈ packageTops, resolve v.settings.modulesPath ++ [top, moduleId] <+: q

/-- The path is met on the way to one of these directories or to that of the locks. -/
def OnTheWay (moduleId : String) (q : Path) : Prop :=
  ∃ p base, q = resolve p ∧ (base = v.settings.modulesPath ∨ base = resolve v.settings.modulesPath) ∧
    ((∃ top ∈ packageTops, p <+: base ++ [top, moduleId]) ∨ p <+: lockDir v)

/-- What an operation on a module may change. -/
def WithinPackage (moduleId : String) (e : Effect) : Prop :=
  (∀ q, e.Touches q → InPackageDirs v moduleId q) ∨
    (∃ q, e = .mkdir q ∧ OnTheWay v moduleId q) ∨
    e = .write (resolve (lockFile v moduleId)) ∨ e = .unlink (resolve (lockFile v moduleId))

/-! ### Paths of packages -/

theorem join_plain {base : Path} {part : String} (h : Plain part) : join base part = base ++ [part] := by
  have habsolute : isAbsolute part = false := by
    refine decide_eq_false fun hhead => h.1 ?_
    cases hpart : part.toList with
    | nil =>
      rw [hpart] at hhead
      cases hhead
    | cons c cs =>
      rw [hpart, List.head?_cons, Option.some.injEq] at hhead
      rw [hhead]
      exact List.mem_cons_self
  rw [join, if_neg (by rw [habsolute]; simp), parts_of_notMem h.1, if_neg (by simp [h.2])]

/-- The parts of a package directory below the root. -/
def packageParts (top moduleId version : String) : List String := top :: moduleId :: parts version

theorem packageDir_eq {top moduleId version : String} (htop : Plain top) (hmodule : Plain moduleId)
    (hversion : SafeName version) :
    packageDir v top moduleId version = v.settings.modulesPath ++ packageParts top moduleId version := by
  unfold packageDir
  rw [join_plain htop, join_plain hmodule, join, if_neg (by rw [hversion.1]; simp)]
  simp [packageParts]

theorem resolve_packageDir {top moduleId version : String} (htop : top ∈ packageTops)
    (hmodule : matchesModuleId moduleId = true) (hversion : SafeName version) :
    packageDir v top moduleId version = v.settings.modulesPath ++ packageParts top moduleId version ∧
      resolve (packageDir v top moduleId version)
        = resolve v.settings.modulesPath ++ packageParts top moduleId version ∧
      ".." ∉ packageParts top moduleId version := by
  have hplain : Plain top ∧ top ≠ ".." := by
    unfold packageTops at htop
    revert top
    decide +kernel
  obtain ⟨hmodule, hback⟩ := plain_of_matchesModuleId hmodule
  have heq := packageDir_eq v hplain.1 hmodule hversion
  have hparts : ".." ∉ packageParts top moduleId version := by
    unfold packageParts
    rw [List.mem_cons, List.mem_cons, not_or, not_or]
    exact ⟨Ne.symm hplain.2, Ne.symm hback, hversion.2⟩
  refine ⟨heq, ?_, hparts⟩
  rw [heq, resolve_append _ hparts]

theorem inPackageDirs_append {top moduleId version : String} (htop : top ∈ packageTops) (q rest : Path)
    (h : resolve v.settings.modulesPath ++ packageParts top moduleId version ++ rest <+: q) :
    InPackageDirs v moduleId q := by
  refine ⟨top, htop, List.IsPrefix.trans ?_ h⟩
  exact ⟨parts version ++ rest, by simp [packageParts]⟩

/-- A directory that is made for a package is in it, or on the way. -/
theorem withinPackage_mkdir {top moduleId version : String} {base rest q : Path} (htop : top ∈ packageTops)
    (hbase : base = v.settings.modulesPath ∨ base = resolve v.settings.modulesPath)
    (hback : ".." ∉ packageParts top moduleId version ++ rest)
    (hq : q <+: base ++ (packageParts top moduleId version ++ rest)) :
    WithinPackage v moduleId (.mkdir (resolve q)) := by
  have hway : base ++ [top, moduleId] <+: base ++ (packageParts top moduleId version ++ rest) :=
    ⟨parts version ++ rest, by simp [packageParts]⟩
  have hroot : resolve base = resolve v.settings.modulesPath := by
    rcases hbase with rfl | rfl
    · rfl
    · exact resolve_of_notMem (notMem_resolve _)
  rcases List.prefix_or_prefix_of_prefix hq hway with hshort | ⟨r, rfl⟩
  · exact .inr (.inl ⟨_, rfl, q, base, rfl, hbase, .inl ⟨top, htop, hshort⟩⟩)
  · refine .inl ?_
    rintro _ rfl
    have hr : ".." ∉ [top, moduleId] ++ r := by
      rw [List.append_assoc, List.prefix_append_right_inj] at hq
      exact fun hmem => hback (hq.subset hmem)
    rw [List.append_assoc, resolve_append base hr, hroot, ← List.append_assoc]
    exact ⟨top, htop, List.prefix_append _ r⟩

/-- **The directories of a package** may be filled. -/
theorem fillsDirectory_packageDir {top moduleId version : String} (htop : top ∈ packageTops)
    (hmodule : matchesModuleId moduleId = true) (hversion : SafeName version) :
    FillsDirectory (WithinPackage v moduleId) (packageDir v top moduleId version) := by
  obtain ⟨heq, hresolve, hback⟩ := resolve_packageDir v htop hmodule hversion
  refine ⟨.inl fun q hq => ?_, fun q hq => ?_, fun p q hp hq => ?_, fun p => .inl ?_⟩
  · rw [hresolve] at hq
    exact inPackageDirs_append v htop q [] (by rwa [List.append_nil])
  · rw [heq] at hq
    rw [← List.append_nil (packageParts top moduleId version)] at hq hback
    exact withinPackage_mkdir v htop (.inl rfl) hback hq
  · rw [hresolve, List.append_assoc] at hq
    refine withinPackage_mkdir v htop (.inr rfl) ?_ hq
    rw [List.mem_append, not_or]
    exact ⟨hback, hp⟩
  · rintro _ rfl
    rw [hresolve]
    exact inPackageDirs_append v htop _ p (List.prefix_refl _)

theorem safeName_validate {version : String} (h : SafeName version) : SafeName ("validate-" ++ version) := by
  refine ⟨?_, dotdot_notMem_parts_append (by decide +kernel) (fun rest heq => ?_) h.2⟩
  · unfold isAbsolute
    rw [String.toList_append]
    exact decide_eq_false (by simp)
  · have htext := congrArg String.toList heq
    rw [String.toList_ofList] at htext
    have hhead := congrArg List.head? htext
    simp at hhead

/-! ### Operations on one module -/

theorem FillsDirectory.mono {P P' : Effect → Prop} {target : Path} (h : FillsDirectory P target)
    (himp : ∀ e, P e → P' e) : FillsDirectory P' target where
  removes := himp _ h.removes
  makes q hq := himp _ (h.makes q hq)
  makesBelow p q hp hq := himp _ (h.makesBelow p q hp hq)
  writes p := himp _ (h.writes p)

/-- What a package operation may change. -/
def WithinSomePackage (e : Effect) : Prop :=
  ∃ moduleId, matchesModuleId moduleId = true ∧ WithinPackage v moduleId e

/-- The versions of the manifests in an archive do not leave their directory. -/
def SafeVersions (file : Option ArchiveFile) : Prop :=
  ∀ file' archive raw manifest, file = some file' → file'.members = some archive →
    Inspected v archive raw manifest → SafeName manifest.version

theorem fillsDirectory_some {top moduleId version : String} (htop : top ∈ packageTops)
    (hmodule : matchesModuleId moduleId = true) (hversion : SafeName version) :
    FillsDirectory (WithinSomePackage v) (packageDir v top moduleId version) :=
  (fillsDirectory_packageDir v htop hmodule hversion).mono fun _ he => ⟨moduleId, hmodule, he⟩

theorem staging_mem : ".staging" ∈ packageTops ∧ "installed" ∈ packageTops ∧ "backups" ∈ packageTops := by
  decide +kernel

section

variable {I : World → Prop} (hI : Stable (WithinSomePackage v) I) (disk : Disk)

include hI

theorem keeps_validateArchive {file : Option ArchiveFile} (hversions : SafeVersions v file)
    (installed : InstalledVersions) (allowReinstall : Bool) :
    Keeps I (validateArchive v disk file installed allowReinstall) := by
  intro w hw
  refine ends_validateArchive_of_inspected v (fun file' archive raw manifest hfile hmembers hinspected => ?_)
    (fun _ => hw) fun _ => hw
  have hmodule := matchesModuleId_of_unprotected hinspected.unprotected
  have hversion := safeName_validate (hversions file' archive raw manifest hfile hmembers hinspected)
  exact keeps_validateManifest v hI disk hinspected.limits (fillsDirectory_some v staging_mem.1 hmodule hversion)
    installed w hw

/-- A validation, with what is known of the archive where its result is used. -/
theorem ends_validateArchive_within {file : Option ArchiveFile} (hversions : SafeVersions v file)
    (installed : InstalledVersions) (allowReinstall : Bool) {w : World} (hw : I w) :
    Ends (validateArchive v disk file installed allowReinstall) w
      (fun result w' => I w' ∧ ∀ manifest, Packages.acceptedManifest result.toValidationResult = .ok manifest →
        matchesModuleId manifest.moduleId = true ∧ SafeName manifest.version ∧
          ∀ archive, openArchive file = .ok archive → inspectArchiveLimits archive = .ok ()) (fun _ w' => I w') := by
  refine ((keeps_validateArchive v hI disk hversions installed allowReinstall w hw).and
    (ends_validateArchive v disk file installed allowReinstall w)).mono ?_ fun _ _ h => h.1
  rintro result w' ⟨hw', hresult⟩
  refine ⟨hw', fun found hfound => ?_⟩
  obtain ⟨hvalid, hmanifest, -⟩ := acceptedManifest_ok hfound
  obtain ⟨file', archive, raw, manifest, status, validated, hfile, hmembers, haccepted, rfl⟩ := hresult hvalid
  have heq : (conclude v manifest [] status).manifest = some manifest.toModuleManifest := by
    unfold conclude
    dsimp only
    rw [List.nil_append, (conclude_valid v hvalid).2, if_neg (not_not.mpr rfl)]
  obtain rfl := Option.some.inj (heq.symm.trans hmanifest)
  refine ⟨matchesModuleId_of_unprotected haccepted.unprotected,
    hversions file' archive raw manifest hfile hmembers haccepted.toInspected, fun archive' hopen => ?_⟩
  obtain ⟨file'', hfile', hmembers'⟩ := openArchive_ok hopen
  rw [hfile, Option.some.injEq] at hfile'
  subst hfile'
  rw [hmembers, Option.some.injEq] at hmembers'
  rw [← hmembers']
  exact haccepted.limits

theorem keeps_query : Keeps I (query disk) :=
  keeps_bind (keeps_ask disk hI) fun _ => keeps_raiseFault _

theorem keeps_withLock {α : Type} {moduleId : String} (hmodule : matchesModuleId moduleId = true)
    {body : FileOp α} (hbody : Keeps I body) : Keeps I (withLock v disk moduleId body) := by
  have hunlink : Keeps I (perform disk (.unlink (resolve (lockFile v moduleId)))) :=
    keeps_perform disk hI ⟨moduleId, hmodule, .inr (.inr (.inr rfl))⟩
  refine keeps_bind (keeps_ask disk hI) fun _ => keeps_ite (keeps_throw _) ?_
  refine keeps_bind (keeps_mkdirParents disk hI fun q hq => ⟨moduleId, hmodule, .inr (.inl ?_)⟩) fun _ => ?_
  · exact ⟨_, rfl, q, v.settings.modulesPath, rfl, .inl rfl, .inr hq⟩
  · refine keeps_bind (keeps_perform disk hI ⟨moduleId, hmodule, .inr (.inr (.inl rfl))⟩) fun _ => ?_
    refine keeps_bind (keeps_tryCatch hbody fun e => ?_) fun _ => keeps_bind hunlink fun _ => keeps_pure _
    exact keeps_bind hunlink fun _ => keeps_throw e

/-- Moving between the directories of a package. -/
theorem keeps_move_package {src dst moduleId version : String} (hsrc : src ∈ packageTops)
    (hdst : dst ∈ packageTops) (hmodule : matchesModuleId moduleId = true) (hversion : SafeName version) :
    Keeps I (move disk (packageDir v src moduleId version) (packageDir v dst moduleId version)) := by
  have hfill := fillsDirectory_some v hdst hmodule hversion
  have hin : ∀ {t : String}, t ∈ packageTops → ∀ q, resolve (packageDir v t moduleId version) <+: q →
      InPackageDirs v moduleId q := by
    intro t ht q hq
    rw [(resolve_packageDir v ht hmodule hversion).2.1] at hq
    exact inPackageDirs_append v ht q [] (by rwa [List.append_nil])
  refine keeps_move disk hI ⟨moduleId, hmodule, .inl fun q hq => ?_⟩ hfill.makes
    ⟨moduleId, hmodule, .inl fun q hq => hin hdst q hq⟩ ⟨moduleId, hmodule, .inl fun q hq => hin hsrc q hq⟩
  exact hq.elim (hin hsrc q) (hin hdst q)

theorem keeps_placePackage {manifest : ModuleManifest} (hmodule : matchesModuleId manifest.moduleId = true)
    (hversion : SafeName manifest.version) (source : String) {archive : Archive}
    (hlimits : inspectArchiveLimits archive = .ok ()) (validation : Validation) :
    Keeps I (placePackage v disk source archive manifest validation) := by
  have hstaging := fillsDirectory_some v staging_mem.1 hmodule hversion
  have hinstalled := fillsDirectory_some v staging_mem.2.1 hmodule hversion
  refine keeps_bind (keeps_extract disk hI hstaging hlimits) fun files => keeps_ite (keeps_throw _) ?_
  refine keeps_bind (keeps_rmtreeIfExists disk hI hinstalled.removes) fun _ => ?_
  refine keeps_bind (keeps_move_package v hI disk staging_mem.1 staging_mem.2.1 hmodule hversion) fun _ => ?_
  refine keeps_bind (keeps_liftExcept _) fun checksum => keeps_bind (keeps_query v hI disk) fun _ => ?_
  exact keeps_bind (keeps_query v hI disk) fun _ => keeps_pure _

theorem keeps_install (rows : List InstalledPackageRecord) (source : String) {file : Option ArchiveFile}
    (hversions : SafeVersions v file) : Keeps I (install v disk rows source file) := by
  refine keeps_bind (keeps_query v hI disk) fun _ w hw => ?_
  refine ends_bind (ends_validateArchive_within v hI disk hversions _ false hw) ?_
  rintro validation w₁ ⟨hw₁, hknown⟩
  refine ends_bind ((ends_liftExcept _ w₁).mono (fun _ _ h => h) fun e w₂ h => by rw [h.2]; exact hw₁) ?_
  rintro manifest w₂ ⟨hmanifest, rfl⟩
  obtain ⟨hmodule, hversion, harchive⟩ := hknown manifest hmanifest
  refine ends_bind ((ends_liftExcept _ w₂).mono (fun _ _ h => h) fun e w₃ h => by rw [h.2]; exact hw₁) ?_
  rintro archive w₃ ⟨hopen, rfl⟩
  refine keeps_withLock v hI disk hmodule (keeps_tryCatch ?_ fun e => ?_) w₃ hw₁
  · exact keeps_placePackage v hI disk hmodule hversion source (harchive archive hopen) validation
  · refine keeps_ite (keeps_throw e) (keeps_bind (keeps_log hI ?_) fun _ => keeps_throw e)
    exact (fillsDirectory_some v staging_mem.1 hmodule hversion).removes

/-- The tree below a directory of a package is removed and copied anew. -/
theorem keeps_replace {top moduleId version : String} (htop : top ∈ packageTops)
    (hmodule : matchesModuleId moduleId = true) (hversion : SafeName version) :
    Keeps I (rmtreeIfExists disk (packageDir v top moduleId version)) ∧
      Keeps I (copytree disk (packageDir v top moduleId version)) := by
  have hfill := fillsDirectory_some v htop hmodule hversion
  refine ⟨keeps_rmtreeIfExists disk hI hfill.removes, keeps_copytree disk hI hfill.makes ?_⟩
  refine ⟨moduleId, hmodule, .inl fun q hq => ?_⟩
  rw [Effect.Touches, (resolve_packageDir v htop hmodule hversion).2.1] at hq
  exact inPackageDirs_append v htop q [] (by rwa [List.append_nil])

theorem keeps_rollback {moduleId : String} (hmodule : matchesModuleId moduleId = true)
    {row : Option InstalledPackageRecord}
    (hversions : ∀ current version, row = some current → current.rollbackVersion = some version →
      SafeName version) : Keeps I (rollback v disk moduleId row) := by
  refine keeps_bind (keeps_query v hI disk) fun _ => ?_
  cases row with
  | none => exact keeps_throw _
  | some current =>
    cases htarget : Packages.rollbackTarget current with
    | none =>
      simp only [htarget]
      exact keeps_throw _
    | some target =>
      obtain ⟨version, previous⟩ := target
      have hversion := (Packages.rollbackTarget_eq_some htarget).1
      have hreplace := keeps_replace v hI disk staging_mem.2.1 hmodule (hversions current version rfl hversion)
      simp only [htarget]
      refine keeps_bind (keeps_pathExists disk hI) fun found => keeps_ite ?_ (keeps_throw _)
      refine keeps_bind hreplace.1 fun _ => keeps_bind hreplace.2 fun _ => ?_
      exact keeps_bind (keeps_query v hI disk) fun _ => keeps_query v hI disk

/-! ### Updates -/

variable (call : UpdateCall)

omit hI in
theorem keeps_raiseIf (e : Option Raised) : Keeps I (raiseIf e) := by
  cases e with
  | none => exact keeps_pure ()
  | some e => exact keeps_throw e

theorem keeps_assertUpdateAllowed {file : Option ArchiveFile} (hversions : SafeVersions v file) :
    Keeps I (assertUpdateAllowed v disk call file) :=
  keeps_bind (keeps_query v hI disk) fun _ =>
    keeps_bind (keeps_validateArchive v hI disk hversions _ true) fun _ => keeps_raiseIf _

theorem keeps_probeMigration {staging : Path} (h : FillsDirectory (WithinSomePackage v) staging)
    {archive : Archive} (hlimits : inspectArchiveLimits archive = .ok ()) :
    Keeps I (probeMigration disk call archive staging) := by
  refine keeps_bind (keeps_extract disk hI h hlimits) fun _ => ?_
  cases call.migration with
  | none => exact keeps_log hI h.removes
  | some e =>
    cases e with
    | packageError message code => exact keeps_bind (keeps_log hI h.removes) fun _ => keeps_throw _
    | crash c => exact keeps_throw _

/-- What is known once an update has been checked. -/
theorem ends_checkUpdate {file : Option ArchiveFile} (hversions : SafeVersions v file) {w : World} (hw : I w) :
    Ends (checkUpdate v disk call file) w
      (fun checked w' => I w' ∧ call.current = some checked.1 ∧ matchesModuleId call.moduleId = true ∧
        SafeName checked.2.1.version ∧ inspectArchiveLimits checked.2.2 = .ok ()) (fun _ w' => I w') := by
  have hlift : ∀ {α : Type} (r : Except Raised α) {w : World}, I w →
      Ends (liftExcept r) w (fun a w' => r = .ok a ∧ I w') fun _ w' => I w' :=
    fun r w hw => (ends_liftExcept r w).mono (fun _ _ h => ⟨h.1, by rw [h.2]; exact hw⟩)
      fun _ _ h => by rw [h.2]; exact hw
  refine ends_bind (keeps_query v hI disk w hw) fun _ w₁ hw₁ => ?_
  cases hcurrent : call.current with
  | none => exact ends_throw hw₁
  | some current =>
    refine ends_bind (keeps_query v hI disk w₁ hw₁) fun _ w₂ hw₂ => ?_
    refine ends_bind (ends_validateArchive_within v hI disk hversions _ true hw₂) ?_
    rintro validation w₃ ⟨hw₃, hknown⟩
    refine ends_bind (hlift _ hw₃) ?_
    rintro manifest w₄ ⟨hmanifest, hw₄⟩
    obtain ⟨hmodule, hversion, harchive⟩ := hknown manifest hmanifest
    refine ends_bind (hlift _ hw₄) ?_
    rintro archive w₅ ⟨hopen, hw₅⟩
    refine ends_ite (fun _ => ends_throw hw₅) fun hsame => ?_
    rw [not_not] at hsame
    rw [hsame] at hmodule
    refine ends_bind (hlift _ hw₅) ?_
    rintro lower w₆ ⟨-, hw₆⟩
    refine ends_ite (fun _ => ends_throw hw₆) fun _ => ?_
    refine ends_bind (keeps_assertUpdateAllowed v hI disk call hversions w₆ hw₆) fun _ w₇ hw₇ => ?_
    refine ends_bind (hlift _ hw₇) ?_
    rintro migrates w₈ ⟨-, hw₈⟩
    have hprobe := keeps_probeMigration v hI disk call
      (fillsDirectory_some v staging_mem.1 hmodule hversion) (harchive archive hopen)
    refine ends_bind (keeps_runIf hprobe w₈ hw₈) fun _ w₉ hw₉ => ?_
    exact ends_pure ⟨hw₉, rfl, hmodule, hversion, harchive archive hopen⟩

theorem keeps_promote (hmodule : matchesModuleId call.moduleId = true) {manifest : ModuleManifest}
    (hversion : SafeName manifest.version) {archive : Archive} (hlimits : inspectArchiveLimits archive = .ok ()) :
    Keeps I (promote v disk call manifest archive) := by
  have hstaging := fillsDirectory_some v staging_mem.1 hmodule hversion
  have hreplace := keeps_replace v hI disk staging_mem.2.1 hmodule hversion
  refine keeps_bind (keeps_extract disk hI hstaging hlimits) fun files => keeps_bind ?_ fun _ => ?_
  · unfold healthGate
    cases call.health with
    | none => exact keeps_pure ()
    | some e =>
      cases e with
      | packageError message code =>
        exact keeps_ite (keeps_bind (keeps_log hI hstaging.removes) fun _ => keeps_throw _) (keeps_pure ())
      | crash c => exact keeps_throw _
  · refine keeps_bind hreplace.1 fun _ => ?_
    refine keeps_bind (keeps_move_package v hI disk staging_mem.1 staging_mem.2.1 hmodule hversion) fun _ => ?_
    refine keeps_bind (keeps_modify fun w hw => hI.promotes w true hw) fun _ => ?_
    exact keeps_bind (keeps_liftExcept _) fun _ => keeps_bind (keeps_query v hI disk) fun _ =>
      keeps_query v hI disk

theorem keeps_handleFailure (hmodule : matchesModuleId call.moduleId = true)
    (hrow : ∀ current version, call.rowAtRollback = some current → current.rollbackVersion = some version →
      SafeName version) {manifest : ModuleManifest} (hversion : SafeName manifest.version) (e : Raised) :
    Keeps I (handleFailure v disk call manifest e) := by
  have hstaging := fillsDirectory_some v staging_mem.1 hmodule hversion
  have hrollback : Keeps I (rollbackOrQuarantine v disk call) := by
    refine keeps_tryCatch (keeps_rollback v hI disk hmodule hrow) fun e => ?_
    cases e with
    | packageError message code =>
      exact keeps_bind (keeps_query v hI disk) fun _ => keeps_query v hI disk
    | crash c => exact keeps_throw _
  cases e with
  | packageError message code =>
    refine keeps_bind (keeps_query v hI disk) fun _ => keeps_bind keeps_get fun w => ?_
    refine keeps_bind (keeps_runIf hrollback) fun _ => ?_
    exact keeps_bind (keeps_log hI hstaging.removes) fun _ => keeps_throw _
  | crash c =>
    cases c with
    | «exception» =>
      exact keeps_bind (keeps_log hI hstaging.removes) fun _ => keeps_bind hrollback fun _ => keeps_throw _
    | interrupted => exact keeps_throw _

/-- The versions in the rows that an update reads do not leave their directory. -/
def SafeRows : Prop :=
  (∀ current, call.current = some current → SafeName current.installedVersion) ∧
    ∀ current version, call.rowAtRollback = some current → current.rollbackVersion = some version →
      SafeName version

theorem keeps_update {file : Option ArchiveFile} (hversions : SafeVersions v file) (hrows : SafeRows call) :
    Keeps I (update v disk call file) := by
  intro w hw
  refine ends_bind (ends_checkUpdate v hI disk call hversions hw) ?_
  rintro ⟨current, manifest, archive⟩ w₁ ⟨hw₁, hcurrent, hmodule, hversion, hlimits⟩
  refine keeps_bind (keeps_withLock v hI disk hmodule ?_) (fun _ => keeps_pure _) w₁ hw₁
  have hreplace := keeps_replace v hI disk staging_mem.2.2 hmodule (hrows.1 current hcurrent)
  refine keeps_bind (keeps_bind hreplace.1 fun _ => hreplace.2) fun _ => ?_
  exact keeps_tryCatch (keeps_promote v hI disk call hmodule hversion hlimits)
    fun e => keeps_handleFailure v hI disk call hmodule hrows.2 hversion e

end

/-! ### All operations -/

variable (disk : Disk)

/-- The calls that a package archive is given to. -/
inductive Operation where
  | validateArchive (installed : InstalledVersions) (allowReinstall : Bool)
  | install (rows : List InstalledPackageRecord) (source : String)
  | update (call : UpdateCall)

def Operation.run (file : Option ArchiveFile) : Operation → FileOp Unit
  | .validateArchive installed allowReinstall => do
    let _ ← PackageArchives.validateArchive v disk file installed allowReinstall
  | .install rows source => do
    let _ ← PackageArchives.install v disk rows source file
  | .update call => do
    let _ ← PackageArchives.update v disk call file

/-- Everything that a call has changed where it ends, normally or not. -/
def effectsOf (m : FileOp Unit) : List Effect :=
  match m {} with
  | .ok _ w => w.effects
  | .error _ w => w.effects

theorem effectsOf_of_ends {m : FileOp Unit} {R : List Effect → Prop}
    (h : Ends m {} (fun _ w => R w.effects) fun _ w => R w.effects) : R (effectsOf m) := by
  unfold Ends at h
  unfold effectsOf
  cases hrun : m {} with
  | ok u w =>
    rw [hrun] at h
    exact h
  | error e w =>
    rw [hrun] at h
    exact h

def Operation.SafeRows : Operation → Prop
  | .update call => PackageArchives.SafeRows call
  | _ => True

/-- **Where packages write.** If the versions in the archive and in the rows do not leave their directory, everything
that a call changes is in the three directories of a module with an accepted name, or is its lock, or is a directory
made on the way to them. -/
theorem operation_withinPackage (op : Operation) {file : Option ArchiveFile} (hversions : SafeVersions v file)
    (hrows : op.SafeRows) : ∀ e ∈ effectsOf (op.run v disk file), WithinSomePackage v e := by
  have hI := stable_allEffects (WithinSomePackage v)
  have hkeeps : Keeps (AllEffects (WithinSomePackage v)) (op.run v disk file) := by
    cases op with
    | validateArchive installed allowReinstall =>
      exact keeps_bind (keeps_validateArchive v hI disk hversions installed allowReinstall) fun _ => keeps_pure _
    | install rows source =>
      exact keeps_bind (keeps_install v hI disk rows source hversions) fun _ => keeps_pure _
    | update call => exact keeps_bind (keeps_update v hI disk call hversions hrows) fun _ => keeps_pure _
  exact effectsOf_of_ends (R := fun effects => ∀ e ∈ effects, WithinSomePackage v e)
    (hkeeps {} fun e he => absurd he List.not_mem_nil)

/-! ### A package of two files -/

section

variable (sha256 : Bytes → String) (version publisher signatory : String)

theorem safeVersions_packageFile (h : SafeName version) :
    SafeVersions (packageValidator sha256 version publisher signatory)
      (some (packageFile sha256 version publisher signatory)) := by
  intro file' archive raw manifest hfile hmembers hinspected
  obtain rfl := Option.some.inj hfile
  obtain rfl : packageArchive sha256 version publisher signatory = archive := Option.some.inj hmembers
  obtain ⟨data, hread, hloads⟩ := hinspected.readable
  have haccepted := parse_demoManifest sha256 (demoRaw sha256 version publisher)
    (demoSigned sha256 version publisher signatory) version publisher (demoContentHash sha256 version publisher)
  obtain rfl := Except.ok.inj ((read_demoArchive _ _).1.symm.trans hread)
  have hraw := Except.ok.inj ((loads_manifestText sha256 _ _).symm.trans hloads)
  rw [Json.obj.injEq] at hraw
  subst hraw
  have hmanifest := Except.ok.inj ((parseManifestDict_ok _ haccepted).2.symm.trans hinspected.parsed)
  rw [← hmanifest]
  exact h

/-- Whatever the version is, the validation removes its directory. -/
theorem validate_removes :
    Effect.removeTree (resolve (validationDir (packageValidator sha256 version publisher signatory)
        (packageManifest sha256 version publisher)))
      ∈ effectsOf (Operation.run (packageValidator sha256 version publisher signatory) demoDisk
        (some (packageFile sha256 version publisher signatory)) (.validateArchive [] false)) := by
  have hsize : (packageFile sha256 version publisher signatory).size
      ≤ (packageValidator sha256 version publisher signatory).settings.packageMaxBytes :=
    show 1200 ≤ 1000000 by decide
  have heq := @validateArchive_eq (packageValidator sha256 version publisher signatory) demoDisk _ _ _ _ [] false hsize
    rfl
    (inspected_packageArchive sha256 version publisher signatory)
    (parse_demoManifest sha256 _ _ version publisher _) List.not_mem_nil
    (staticErrors_packageArchive sha256 version publisher signatory [])
  refine effectsOf_of_ends (R := fun effects => _ ∈ effects) ?_
  unfold Operation.run
  dsimp only
  rw [heq]
  refine ends_bind (ends_bind (ends_stagedSignature_removes _ _) fun outcome w hw => ?_) fun _ _ hw => ends_pure hw
  cases outcome with
  | error code => exact ends_pure hw
  | ok status => exact ends_pure hw

theorem ends_perform_mem (disk : Disk) (e : Effect) (w : World) :
    Ends (perform disk e) w (fun _ w' => e ∈ w'.effects) (fun _ w' => e ∈ w'.effects) := by
  have hlog : Ends (log e) w (fun _ w' => e ∈ w'.effects) fun _ w' => e ∈ w'.effects :=
    ends_modify (List.mem_append_right w.effects (List.mem_singleton_self e))
  refine ends_bind hlog fun _ w' hw => ?_
  exact keeps_bind (keeps_ask disk (stable_mem (fun _ => True) e)) (fun _ => keeps_raiseFault _) w' hw

/-- The lock of a module is written where the lock is taken. -/
theorem ends_withLock_writes {α : Type} {v : PackageValidator} {moduleId : String} {body : FileOp α}
    (hbody : Keeps (fun w => Effect.write (resolve (lockFile v moduleId)) ∈ w.effects) body) (w : World) :
    Ends (withLock v demoDisk moduleId body) w (fun _ w' => Effect.write (resolve (lockFile v moduleId)) ∈ w'.effects)
      (fun _ w' => Effect.write (resolve (lockFile v moduleId)) ∈ w'.effects) := by
  have hI := stable_mem (fun _ => True) (Effect.write (resolve (lockFile v moduleId)))
  have hunlink := keeps_perform demoDisk hI (e := .unlink (resolve (lockFile v moduleId))) trivial
  refine ends_bind_of_ok (a := { found := true }) rfl ?_
  rw [if_neg (by simp)]
  refine ends_bind ((returns_mkdirParents quiet_demoDisk _ _).mono (fun _ _ h => h) fun _ _ h => h.elim)
    fun _ w₂ _ => ends_bind (ends_perform_mem demoDisk _ w₂) fun _ w₃ hw₃ => ?_
  refine keeps_bind (keeps_tryCatch hbody fun e => ?_) (fun _ => keeps_bind hunlink fun _ => keeps_pure _) w₃ hw₃
  exact keeps_bind hunlink fun _ => keeps_throw e

/-- An installation writes the lock file. -/
theorem install_writes_lock (h : Trusted signatory) (hversion : SafeName version) :
    Effect.write (resolve (lockFile (packageValidator sha256 version publisher signatory) "demo.meter"))
      ∈ effectsOf (Operation.run (packageValidator sha256 version publisher signatory) demoDisk
        (some (packageFile sha256 version publisher signatory)) (.install [] "upload")) := by
  have hsize : (packageFile sha256 version publisher signatory).size
      ≤ (packageValidator sha256 version publisher signatory).settings.packageMaxBytes :=
    show 1200 ≤ 1000000 by decide
  have hvalidates := returns_validateArchive (packageValidator sha256 version publisher signatory) false
    quiet_demoDisk hsize rfl (accepted_packageArchive sha256 version publisher signatory h)
    (parse_demoManifest sha256 _ _ version publisher _) List.not_mem_nil
    (staticErrors_packageArchive sha256 version publisher signatory [])
  refine effectsOf_of_ends (R := fun effects => _ ∈ effects) ?_
  refine ends_bind (Q := fun _ w => _ ∈ w.effects) ?_ fun _ _ hw => ends_pure hw
  refine ends_bind_of_ok (a := ()) rfl ?_
  refine ends_bind ((hvalidates _).mono (fun _ _ h => h) fun _ _ h => h.elim) ?_
  rintro _ w₂ rfl
  have hmodule : matchesModuleId "demo.meter" = true := by decide +kernel
  have hmanifest := conclude_packageArchive sha256 version publisher signatory
  have hI := stable_mem (WithinSomePackage (packageValidator sha256 version publisher signatory))
    (Effect.write (resolve (lockFile (packageValidator sha256 version publisher signatory) "demo.meter")))
  refine ends_bind_of_ok (a := (packageManifest sha256 version publisher).toModuleManifest) rfl ?_
  refine ends_bind_of_ok (a := packageArchive sha256 version publisher signatory) rfl ?_
  refine ends_withLock_writes (keeps_tryCatch ?_ fun e => ?_) _
  · exact keeps_placePackage _ hI demoDisk hmodule hversion "upload" (limits_demoArchive _ _) _
  · refine keeps_ite (keeps_throw e) (keeps_bind (keeps_log hI ?_) fun _ => keeps_throw e)
    exact (fillsDirectory_some _ staging_mem.1 hmodule hversion).removes

end

theorem safeName_one : SafeName "1" := by
  refine ⟨?_, ?_⟩ <;> decide +kernel

/-- The installation of a package, where everything it changes is within its own directories but for the lock. -/
theorem acme_effects : (∀ e ∈ effectsOf (Operation.run (packageValidator sha256Bytes "1" "acme" "acme") demoDisk
        (some (packageFile sha256Bytes "1" "acme" "acme")) (.install [] "upload")),
      WithinSomePackage (packageValidator sha256Bytes "1" "acme" "acme") e) ∧
    Effect.write (resolve (lockFile (packageValidator sha256Bytes "1" "acme" "acme") "demo.meter"))
      ∈ effectsOf (Operation.run (packageValidator sha256Bytes "1" "acme" "acme") demoDisk
        (some (packageFile sha256Bytes "1" "acme" "acme")) (.install [] "upload")) := by
  refine ⟨?_, install_writes_lock sha256Bytes "1" "acme" "acme" (.inl rfl) safeName_one⟩
  exact operation_withinPackage _ demoDisk (.install [] "upload")
    (safeVersions_packageFile sha256Bytes "1" "acme" "acme" safeName_one) trivial

/-- The lock of an installation is outside the three directories of every module, and so is what a validation removes
where the version goes back. -/
theorem changes_outside : (∃ e ∈ effectsOf (Operation.run (packageValidator sha256Bytes "1" "acme" "acme") demoDisk
        (some (packageFile sha256Bytes "1" "acme" "acme")) (.install [] "upload")), ∃ q, e.Touches q ∧
        ∀ moduleId, ¬ InPackageDirs (packageValidator sha256Bytes "1" "acme" "acme") moduleId q) ∧
    ∃ e ∈ effectsOf (Operation.run (packageValidator sha256Bytes "1/../../../../victim" "acme" "acme") demoDisk
        (some (packageFile sha256Bytes "1/../../../../victim" "acme" "acme")) (.validateArchive [] false)),
      e.Touches ["victim"] ∧ ∀ moduleId,
        ¬ InPackageDirs (packageValidator sha256Bytes "1/../../../../victim" "acme" "acme") moduleId ["victim"] := by
  have hlock : resolve (lockFile (packageValidator sha256Bytes "1" "acme" "acme") "demo.meter")
      = ["modules", ".locks", "demo.meter.lock"] := by
    show resolve (join (join ["modules"] ".locks") "demo.meter.lock") = _
    decide +kernel
  have hvictim : resolve (validationDir (packageValidator sha256Bytes "1/../../../../victim" "acme" "acme")
      (packageManifest sha256Bytes "1/../../../../victim" "acme")) = ["victim"] := by
    show resolve (join (join (join ["modules"] ".staging") "demo.meter") ("validate-" ++ "1/../../../../victim")) = _
    decide +kernel
  have hroot : resolve ["modules"] = ["modules"] := by decide +kernel
  refine ⟨⟨_, install_writes_lock sha256Bytes "1" "acme" "acme" (.inl rfl) safeName_one, _, rfl, ?_⟩,
    _, validate_removes sha256Bytes "1/../../../../victim" "acme" "acme", ?_, ?_⟩
  · rintro moduleId ⟨top, htop, hbelow⟩
    rw [hlock, show resolve (packageValidator sha256Bytes "1" "acme" "acme").settings.modulesPath = _ from hroot,
      List.singleton_append, List.cons_prefix_cons, List.cons_prefix_cons] at hbelow
    rw [hbelow.2.1] at htop
    exact absurd htop (by decide +kernel)
  · rw [hvictim]
    exact List.prefix_refl _
  · rintro moduleId ⟨top, htop, hbelow⟩
    have hlength := hbelow.length_le
    rw [List.length_append, show resolve (packageValidator sha256Bytes "1/../../../../victim" "acme"
      "acme").settings.modulesPath = _ from hroot] at hlength
    simp at hlength

end EnergyCore.PackageArchives
