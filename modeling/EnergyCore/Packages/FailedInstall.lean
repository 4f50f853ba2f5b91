import EnergyCore.Packages.PackageRuns

/-!
# Failed installs

Whether an install that failed can be seen afterwards: in the registry, in the directories of installed packages, and
in its staging directory.

* `InstallAttempt.stop` — the step at which an install raises;
* `ends_placePackage` — what is there when the handler starts;
* `install_leaves` — what is there after the call;
* `failed_install_traceless_iff` — when a failed install leaves no trace.
-/

namespace EnergyCore.Packages

open FallibleSteps

/-! ### Attempts -/

/-- An install at work: it has accepted a manifest and holds the lock. -/
structure InstallAttempt where
  settings : Settings
  world : PackageWorld
  call : InstallCall
  manifest : ModuleManifest
  validation : ValidationResult

/-- Where an install raises: before it touches the directory of the installed package, while it replaces that, with
the new package in its place, or when everything is committed. -/
inductive Stop where
  | early (raised : Raised) (staged : Option PackageTree)
  | switching (fault : Fault)
  | late (fault : Fault)
  | committed

/-- What the handler catches, if it comes to that. -/
def Stop.raised : Stop → Option Raised
  | early raised _ => raised
  | switching fault => some (.crash fault.crash)
  | late fault => some (.crash fault.crash)
  | committed => none

namespace InstallAttempt

variable (a : InstallAttempt)

def staging : Path := stagingDir a.settings.modulesPath a.manifest.moduleId a.manifest.version

def installed : Path := installedDir a.settings.modulesPath a.manifest.moduleId a.manifest.version

def status : SignatureStatus := if a.validation.signatureValid then .valid else .unsigned

def newRecord : InstalledPackageRecord := installedRecord a.settings a.call a.manifest a.validation a.status

/-- An unsigned package where such are not allowed. -/
def unsignedExit : Option Raised :=
  if a.status = .unsigned ∧ a.settings.allowUnsignedModules = false then
    some (.packageError "unsigned package rejected" signatureInvalid)
  else none

/-- The directory of the version is removed if it is there. -/
def dropFault : Option Fault :=
  if (a.world.files a.installed).isSome then a.call.faults .dropInstalled else none

def registerFault : Option Fault :=
  (a.call.faults .checksum).or ((a.call.faults .upsert).or (a.call.faults .commit))

/-- The first step that raises. -/
def stop : Stop :=
  (((a.call.faults .extract).map fun fault => Stop.early (.crash fault.crash) fault.left).or <|
  (a.call.traversal.map fun traversal =>
    Stop.early (.packageError traversal.message pathTraversal) traversal.extracted).or <|
  (a.unsignedExit.map fun e => Stop.early e (some a.call.archive)).or <|
  ((a.dropFault.or (a.call.faults .move)).map Stop.switching).or <|
  a.registerFault.map Stop.late).getD .committed

/-- The attempt comes from a call: its archive is accepted and the lock is free. -/
structure Reaches : Prop where
  validation : a.call.validation = .ok a.validation
  accepted : acceptedManifest a.validation = .ok a.manifest
  locked : a.call.acquire = none

/-! ### What is left -/

/-- The staging directory when the handler starts. -/
def staged : Option PackageTree :=
  match a.stop with
  | .early _ tree => tree
  | .switching _ => some a.call.archive
  | .late _ => none
  | .committed => none

/-- The directory of the version when the handler starts, which does not touch it. -/
def placed : Option PackageTree :=
  match a.stop with
  | .early _ _ => a.world.files a.installed
  | .switching fault => fault.left
  | .late _ => some a.call.archive
  | .committed => some a.call.archive

/-- What the cleanup leaves of the staging directory. -/
def cleaned : Option PackageTree := (a.call.faults .dropStaging).bind Fault.left

/-- The staging directory after the call: the handler does not see a `BaseException`. -/
def leftover : Option PackageTree :=
  match a.stop.raised with
  | none => none
  | some (.crash .interrupted) => a.staged
  | some _ => a.cleaned

def registered : Registry :=
  match a.stop with
  | .committed => Function.update a.world.registry a.manifest.moduleId (some a.newRecord)
  | _ => a.world.registry

/-- The registry and the directories, with the staging directory as given. -/
structure LeftAt (tree : Option PackageTree) (s : Session) : Prop where
  committed : s.committed = a.registered
  staged : s.files a.staging = tree
  placed : s.files a.installed = a.placed
  others : ∀ p, p ≠ a.staging → p ≠ a.installed → s.files p = a.world.files p

variable {a}

theorem installed_ne_staging : a.installed ≠ a.staging :=
  (stagingDir_ne_installedDir _ _ _ _ _).symm

/-- Only the staging directory was touched. -/
theorem leftAt_early {e : Raised} {tree : Option PackageTree} (h : a.stop = .early e tree) :
    a.LeftAt a.staged { a.world.session with files := Function.update a.world.files a.staging tree } where
  committed := by
    rw [registered, h]
    rfl
  staged := by
    rw [staged, h]
    exact Function.update_self _ _ _
  placed := by
    rw [placed, h]
    exact Function.update_of_ne installed_ne_staging _ _
  others _ hp _ := Function.update_of_ne hp _ _

/-- The files while the directory of the version is replaced. -/
theorem leftAt_switching {fault : Fault} {s : Session} (h : a.stop = .switching fault)
    (hcommitted : s.committed = a.world.registry) (hfiles : s.files = Function.update
      (Function.update a.world.files a.staging (some a.call.archive)) a.installed fault.left) :
    a.LeftAt a.staged s where
  committed := by
    rw [registered, h]
    exact hcommitted
  staged := by
    rw [staged, h, hfiles, Function.update_of_ne installed_ne_staging.symm]
    exact Function.update_self _ _ _
  placed := by
    rw [placed, h, hfiles]
    exact Function.update_self _ _ _
  others p hp hp' := by rw [hfiles, Function.update_of_ne hp', Function.update_of_ne hp]

/-- The files once the new package is in its place. -/
def PlacedFiles (a : InstallAttempt) (files : Directories) : Prop :=
  files a.staging = none ∧ files a.installed = some a.call.archive ∧
    ∀ p, p ≠ a.staging → p ≠ a.installed → files p = a.world.files p

theorem leftAt_late {fault : Fault} {s : Session} (h : a.stop = .late fault)
    (hcommitted : s.committed = a.world.registry) (hfiles : a.PlacedFiles s.files) : a.LeftAt a.staged s where
  committed := by
    rw [registered, h]
    exact hcommitted
  staged := by
    rw [staged, h]
    exact hfiles.1
  placed := by
    rw [placed, h]
    exact hfiles.2.1
  others := hfiles.2.2

theorem leftAt_committed {s : Session} (h : a.stop = .committed)
    (hcommitted : s.committed = Function.update a.world.registry a.manifest.moduleId (some a.newRecord))
    (hfiles : a.PlacedFiles s.files) : a.LeftAt a.staged s where
  committed := by
    rw [registered, h]
    exact hcommitted
  staged := by
    rw [staged, h]
    exact hfiles.1
  placed := by
    rw [placed, h]
    exact hfiles.2.1
  others := hfiles.2.2

/-! ### The `try` block -/

/-- The body was left at the stop of the attempt. -/
def Raises (a : InstallAttempt) (e : Raised) (s : Session) : Prop :=
  a.stop.raised = some e ∧ a.LeftAt a.staged s

/-- The registry is told about the new package. -/
theorem ends_register {s : Session} (hstop : a.stop = (a.registerFault.map Stop.late).getD .committed)
    (hcommitted : s.committed = a.world.registry) (hrows : s.rows = a.world.registry)
    (hfiles : a.PlacedFiles s.files) :
    Ends (do
      raiseIf ((a.call.faults .checksum).map fun fault => .crash fault.crash)
      upsert a.newRecord (a.call.faults .upsert)
      commit (a.call.faults .commit)) s
      (fun _ s' => a.stop = .committed ∧ a.LeftAt a.staged s') a.Raises := by
  have hlate : ∀ fault, a.registerFault = some fault → a.stop = .late fault := by
    intro fault hfault
    rw [hstop, hfault]
    rfl
  have hraises : ∀ fault, a.registerFault = some fault → ∀ s', s'.committed = a.world.registry →
      a.PlacedFiles s'.files → a.Raises (.crash fault.crash) s' := by
    intro fault hfault s' hcommitted' hfiles'
    refine ⟨?_, leftAt_late (hlate fault hfault) hcommitted' hfiles'⟩
    rw [hlate fault hfault]
    rfl
  cases hchecksum : a.call.faults .checksum with
  | some fault =>
    refine ends_bind (ends_throw (hraises fault ?_ s hcommitted hfiles)) fun _ _ h => (h : False).elim
    rw [registerFault, hchecksum, Option.some_or]
  | none =>
    refine ends_bind (ends_pure (Q := fun _ s' => s' = s) rfl) ?_
    rintro _ _ rfl
    refine ends_bind ((ends_upsert a.newRecord (a.call.faults .upsert) _).mono (fun _ s' h => h) ?_) ?_
    · rintro e s' ⟨fault, hfault, rfl, rfl⟩
      refine hraises fault ?_ _ hcommitted hfiles
      rw [registerFault, hchecksum, hfault, Option.none_or, Option.some_or]
    rintro _ s₂ ⟨hupsert, rfl⟩
    refine (ends_commit (a.call.faults .commit) _).mono ?_ ?_
    · rintro _ s' ⟨hcommit, rfl⟩
      have hdone : a.stop = .committed := by
        rw [hstop, registerFault, hchecksum, hupsert, hcommit]
        rfl
      refine ⟨hdone, leftAt_committed hdone ?_ hfiles⟩
      dsimp only
      rw [hrows]
      rfl
    · rintro e s' ⟨fault, hfault, rfl, rfl⟩
      refine hraises fault ?_ _ hcommitted hfiles
      rw [registerFault, hchecksum, hupsert, hfault, Option.none_or, Option.none_or]

/-- The staged files take the place of the version's directory. -/
theorem ends_replace {s : Session} (hstop : a.stop = ((((a.dropFault.or (a.call.faults .move)).map
      Stop.switching).or <| a.registerFault.map Stop.late).getD .committed))
    (hcommitted : s.committed = a.world.registry) (hrows : s.rows = a.world.registry)
    (hfiles : s.files = Function.update a.world.files a.staging (some a.call.archive)) :
    Ends (do
      rmtreeIfExists a.installed (a.call.faults .dropInstalled)
      move a.staging a.installed (a.call.faults .move)
      raiseIf ((a.call.faults .checksum).map fun fault => .crash fault.crash)
      upsert a.newRecord (a.call.faults .upsert)
      commit (a.call.faults .commit)) s
      (fun _ s' => a.stop = .committed ∧ a.LeftAt a.staged s') a.Raises := by
  have hpresent : (if (s.files a.installed).isSome then a.call.faults .dropInstalled else none) =
      a.dropFault := by
    rw [hfiles, Function.update_of_ne installed_ne_staging]
    rfl
  have hraises : ∀ fault, a.dropFault.or (a.call.faults .move) = some fault → ∀ s',
      s'.committed = a.world.registry → s'.files = Function.update s.files a.installed fault.left →
      a.Raises (.crash fault.crash) s' := by
    intro fault hfault s' hcommitted' hfiles'
    have hswitching : a.stop = .switching fault := by
      rw [hstop, hfault]
      rfl
    rw [hfiles] at hfiles'
    refine ⟨?_, leftAt_switching hswitching hcommitted' hfiles'⟩
    rw [hswitching]
    rfl
  refine ends_bind ((ends_rmtreeIfExists a.installed (a.call.faults .dropInstalled) s).mono (fun _ s' h => h) ?_) ?_
  · rintro e s' ⟨fault, hfault, rfl, rfl⟩
    rw [hpresent] at hfault
    exact hraises fault (by rw [hfault, Option.some_or]) _ hcommitted rfl
  rintro _ s₁ ⟨hdrop, hs₁⟩
  rw [hpresent] at hdrop
  have hstaged : s₁.files a.staging = some a.call.archive := by
    rw [hs₁]
    show Function.update s.files a.installed none a.staging = _
    rw [Function.update_of_ne installed_ne_staging.symm, hfiles, Function.update_self]
  refine ends_bind ((ends_move hstaged (a.call.faults .move)).mono (fun _ s' h => h) ?_) ?_
  · rintro e s' ⟨fault, hfault, rfl, rfl⟩
    refine hraises fault (by rw [hdrop, hfault, Option.none_or]) _ (by rw [hs₁]; exact hcommitted) ?_
    rw [hs₁]
    exact Function.update_idem _ _ _
  rintro _ s₂ ⟨hmove, rfl⟩
  refine ends_register ?_ (by rw [hs₁]; exact hcommitted) (by rw [hs₁]; exact hrows) ⟨?_, ?_, ?_⟩
  · rw [hstop, hdrop, hmove]
    rfl
  · exact Function.update_self _ _ _
  · dsimp only
    rw [Function.update_of_ne installed_ne_staging, Function.update_self]
  · intro p hp hp'
    dsimp only
    rw [Function.update_of_ne hp, Function.update_of_ne hp', hs₁]
    show Function.update s.files a.installed none p = _
    rw [Function.update_of_ne hp', hfiles, Function.update_of_ne hp]

theorem ends_placePackage : Ends (placePackage a.settings a.call a.manifest a.validation) a.world.session
      (fun _ s => a.stop = .committed ∧ a.LeftAt a.staged s) a.Raises := by
  have hraises : ∀ e tree, a.stop = .early e tree → a.Raises e
      { a.world.session with files := Function.update a.world.files a.staging tree } := by
    intro e tree hstop
    refine ⟨?_, leftAt_early hstop⟩
    rw [hstop]
    rfl
  refine ends_bind ((ends_extract a.call.archive a.call.traversal a.staging (a.call.faults .extract) _).mono
    (fun _ s' h => h) ?_) ?_
  · rintro e s' (⟨fault, hfault, rfl, rfl⟩ | ⟨hfault, traversal, htraversal, rfl, rfl⟩)
    · refine hraises _ fault.left ?_
      rw [stop, hfault]
      rfl
    · refine hraises _ traversal.extracted ?_
      rw [stop, hfault, htraversal]
      rfl
  rintro _ s₁ ⟨hextract, htraversal, rfl⟩
  refine ends_ite (fun hunsigned => ?_) fun hsigned => ?_
  · refine ends_throw (hraises _ (some a.call.archive) ?_)
    have hexit : a.unsignedExit = some (.packageError "unsigned package rejected" signatureInvalid) := if_pos hunsigned
    rw [stop, hextract, htraversal, hexit]
    rfl
  · have hexit : a.unsignedExit = none := if_neg hsigned
    refine ends_replace ?_ rfl rfl rfl
    rw [stop, hextract, htraversal, hexit]
    rfl

/-! ### The call -/

theorem LeftAt.cleaned {s : Session} (h : a.LeftAt a.staged s) :
    a.LeftAt a.cleaned { s with files := Function.update s.files a.staging a.cleaned } where
  committed := h.committed
  staged := Function.update_self _ _ _
  placed := by
    show Function.update s.files a.staging a.cleaned a.installed = _
    rw [Function.update_of_ne installed_ne_staging]
    exact h.placed
  others p hp hp' := by
    show Function.update s.files a.staging a.cleaned p = _
    rw [Function.update_of_ne hp]
    exact h.others p hp hp'

/-- The `try` statement. -/
theorem ends_try :
    Ends (tryCatch (placePackage a.settings a.call a.manifest a.validation) fun
      | .crash .interrupted => raise .interrupted
      | e => do
        rmtreeIgnoringErrors a.staging (a.call.faults .dropStaging)
        throw e) a.world.session
      (fun _ s => a.LeftAt a.leftover s) (fun _ s => a.LeftAt a.leftover s) := by
  refine ends_tryCatch (ends_placePackage.mono ?_ fun e s h => h) ?_
  · rintro _ s ⟨hstop, hleft⟩
    have hnone : a.leftover = a.staged := by
      rw [leftover, staged, hstop]
      rfl
    rw [hnone]
    exact hleft
  · rintro e s ⟨hraised, hleft⟩
    have hcleaned : a.leftover = a.cleaned → Ends (do
        rmtreeIgnoringErrors a.staging (a.call.faults .dropStaging)
        throw e) s (fun (_ : Unit) s => a.LeftAt a.leftover s) (fun _ s => a.LeftAt a.leftover s) := by
      intro hleftover
      rw [hleftover]
      exact ends_bind (ends_modify hleft.cleaned) fun _ s' hs' => ends_throw hs'
    match e, hraised with
    | .packageError message code, hraised => exact hcleaned (by rw [leftover, hraised])
    | .crash .exception, hraised => exact hcleaned (by rw [leftover, hraised])
    | .crash .interrupted, hraised =>
      have hleftover : a.leftover = a.staged := by rw [leftover, hraised]
      rw [hleftover]
      exact ends_throw hleft

/-- **What an install leaves** that holds the lock, whether it returns or raises. -/
theorem install_leaves (h : a.Reaches) :
    Ends (install a.settings a.call) a.world.session (fun _ s => a.LeftAt a.leftover s)
      (fun _ s => a.LeftAt a.leftover s) := by
  unfold install
  rw [h.validation]
  refine ends_bind (ends_pure (Q := fun v s => v = a.validation ∧ s = a.world.session) ⟨rfl, rfl⟩) ?_
  rintro _ _ ⟨rfl, rfl⟩
  rw [h.accepted]
  refine ends_bind (ends_pure (Q := fun m s => m = a.manifest ∧ s = a.world.session) ⟨rfl, rfl⟩) ?_
  rintro _ _ ⟨rfl, rfl⟩
  refine ends_bind (Q := fun _ s => a.LeftAt a.leftover s) ?_ fun _ s hs => ends_pure hs
  unfold withLock
  rw [h.locked]
  cases a.call.faults .release with
  | none =>
    refine ends_bind (ends_tryCatch ends_try fun e s hs => ends_bind (ends_pure hs) fun _ s hs =>
      ends_throw hs) fun _ s hs => ends_bind (ends_pure hs) fun _ s hs => ends_pure hs
  | some fault =>
    refine ends_bind (ends_tryCatch ends_try fun e s hs => ends_bind (ends_throw hs) fun _ s hs =>
      ends_throw hs) fun _ s hs => ends_bind (ends_throw hs) fun _ s hs => ends_pure hs

end InstallAttempt

/-- An install that does not get the lock, or does not come that far, touches nothing. -/
theorem install_untouched {settings : Settings} {w : PackageWorld} {call : InstallCall}
    (h : ∀ manifest validation, ¬ (InstallAttempt.mk settings w call manifest validation).Reaches) :
    Ends (install settings call) w.session (fun _ _ => False) (fun _ s => s = w.session) := by
  unfold install
  cases hvalidation : call.validation with
  | error e => exact ends_bind (ends_throw rfl) fun _ _ h => (h : False).elim
  | ok validation =>
    refine ends_bind (ends_pure (Q := fun v s => v = validation ∧ s = w.session) ⟨rfl, rfl⟩) ?_
    rintro v _ ⟨hv, rfl⟩
    rw [hv]
    cases haccepted : acceptedManifest validation with
    | error e => exact ends_bind (ends_throw rfl) fun _ _ h => (h : False).elim
    | ok manifest =>
      refine ends_bind (ends_pure (Q := fun m s => m = manifest ∧ s = w.session) ⟨rfl, rfl⟩) ?_
      rintro m _ ⟨hm, rfl⟩
      rw [hm]
      cases hlock : call.acquire with
      | none => exact absurd ⟨hvalidation, haccepted, hlock⟩ (h manifest validation)
      | some e =>
        refine ends_bind ?_ fun _ _ h => (h : False).elim
        exact ends_throw rfl

/-! ### Traces -/

/-- A failed install leaves no trace: the registry and the directories of installed packages are as before, and a
call that has got the lock leaves no staging directory. -/
structure NoTrace (settings : Settings) (w : PackageWorld) (call : InstallCall) (w' : PackageWorld) : Prop where
  registry : w'.registry = w.registry
  installed : ∀ moduleId version,
    w'.files (installedDir settings.modulesPath moduleId version) =
      w.files (installedDir settings.modulesPath moduleId version)
  staging : ∀ manifest validation, (InstallAttempt.mk settings w call manifest validation).Reaches →
    w'.files (stagingDir settings.modulesPath manifest.moduleId manifest.version) = none

namespace InstallAttempt

/-- When an install that raises there leaves no trace. -/
def Harmless (a : InstallAttempt) : Prop :=
  match a.stop with
  -- what was extracted is removed, or an interrupt left nothing of it
  | .early (.crash .interrupted) staged => staged = none
  | .early _ _ => a.cleaned = none
  -- what is left of the directory is what was there
  | .switching fault =>
    fault.crash = .exception ∧ a.cleaned = none ∧ fault.left = a.world.files a.installed
  -- the same package was there
  | .late fault =>
    (fault.crash = .exception → a.cleaned = none) ∧ a.world.files a.installed = some a.call.archive
  | .committed =>
    a.world.registry a.manifest.moduleId = some a.newRecord ∧
      a.world.files a.installed = some a.call.archive

theorem harmless_iff (a : InstallAttempt) :
    a.Harmless ↔ a.registered = a.world.registry ∧ a.placed = a.world.files a.installed ∧ a.leftover = none := by
  unfold Harmless registered placed leftover staged
  cases a.stop with
  | early raised staged =>
    cases raised with
    | packageError message code => simp [Stop.raised]
    | crash c => cases c <;> simp [Stop.raised]
  | switching fault =>
    rcases fault with ⟨_ | _, left, seen⟩
    · simp [Stop.raised, and_comm]
    · simp [Stop.raised]
  | late fault =>
    rcases fault with ⟨_ | _, left, seen⟩
    · simp [Stop.raised, and_comm, eq_comm]
    · simp [Stop.raised, eq_comm]
  | committed =>
    have hsame : Function.update a.world.registry a.manifest.moduleId (some a.newRecord) = a.world.registry ↔
        a.world.registry a.manifest.moduleId = some a.newRecord := by
      rw [Function.update_eq_self_iff]
      exact eq_comm
    simp [Stop.raised, hsame, eq_comm]

end InstallAttempt

theorem installAttempt_unique {settings : Settings} {w : PackageWorld} {call : InstallCall}
    {manifest manifest' : ModuleManifest} {validation validation' : ValidationResult}
    (h : (InstallAttempt.mk settings w call manifest validation).Reaches)
    (h' : (InstallAttempt.mk settings w call manifest' validation').Reaches) :
    manifest = manifest' ∧ validation = validation' := by
  have hvalidation : validation = validation' := Except.ok.inj (h.validation.symm.trans h'.validation)
  have haccepted := h'.accepted
  rw [← hvalidation] at haccepted
  exact ⟨Except.ok.inj (h.accepted.symm.trans haccepted), hvalidation⟩

/-- **When a failed install leaves no trace.** In any state of the registry and the directories, an install that
raises leaves no trace exactly if it does not get the lock, or raises where that is harmless. -/
theorem failed_install_traceless_iff (settings : Settings) (w : PackageWorld) (call : InstallCall)
    (hraises : w.raises (install settings call) = true) : NoTrace settings w call (step settings w (.install call)) ↔
      ∀ manifest validation, (InstallAttempt.mk settings w call manifest validation).Reaches →
        (InstallAttempt.mk settings w call manifest validation).Harmless := by
  obtain ⟨e, s, hrun, hexec⟩ := PackageWorld.exec_of_raises hraises
  rw [show step settings w (.install call) = ⟨s.committed, s.files⟩ from hexec]
  by_cases hreaches : ∃ manifest validation,
      (InstallAttempt.mk settings w call manifest validation).Reaches
  · obtain ⟨manifest, validation, hreaches⟩ := hreaches
    have hleft := (InstallAttempt.install_leaves hreaches).error hrun
    generalize ha : InstallAttempt.mk settings w call manifest validation = a at hreaches hleft
    have hworld : a.world = w := by rw [← ha]
    have hstaging : stagingDir settings.modulesPath manifest.moduleId manifest.version = a.staging := by
      rw [← ha]
      rfl
    have hinstalled : installedDir settings.modulesPath manifest.moduleId manifest.version = a.installed := by
      rw [← ha]
      rfl
    have hharmless : (∀ manifest validation, (InstallAttempt.mk settings w call manifest validation).Reaches →
        (InstallAttempt.mk settings w call manifest validation).Harmless) ↔ a.Harmless := by
      constructor
      · intro h
        have := h manifest validation (by rw [ha]; exact hreaches)
        rwa [ha] at this
      · intro h manifest' validation' hreaches'
        obtain ⟨rfl, rfl⟩ := installAttempt_unique (by rw [ha]; exact hreaches) hreaches'
        rw [ha]
        exact h
    rw [hharmless, a.harmless_iff]
    constructor
    · intro h
      refine ⟨?_, ?_, ?_⟩
      · rw [← hleft.committed, hworld]
        exact h.registry
      · rw [← hleft.placed, hworld, ← hinstalled]
        exact h.installed _ _
      · rw [← hleft.staged, ← hstaging]
        exact h.staging manifest validation (by rw [ha]; exact hreaches)
    · rintro ⟨hregistered, hplaced, hleftover⟩
      refine ⟨?_, fun moduleId version => ?_, fun manifest' validation' hreaches' => ?_⟩
      · rw [← hworld, ← hregistered]
        exact hleft.committed
      · by_cases hsame : installedDir settings.modulesPath moduleId version = a.installed
        · rw [hsame, ← hworld, ← hplaced]
          exact hleft.placed
        · rw [← hworld]
          refine hleft.others _ (fun h => ?_) hsame
          rw [← hstaging] at h
          exact stagingDir_ne_installedDir _ _ _ _ _ h.symm
      · obtain ⟨rfl, -⟩ := installAttempt_unique (by rw [ha]; exact hreaches) hreaches'
        rw [hstaging, ← hleftover]
        exact hleft.staged
  · have hnot : ∀ manifest validation, ¬ (InstallAttempt.mk settings w call manifest validation).Reaches :=
      fun manifest validation h => hreaches ⟨manifest, validation, h⟩
    have hs := (install_untouched hnot).error hrun
    rw [hs]
    exact iff_of_true ⟨rfl, fun _ _ => rfl, fun manifest validation h => absurd h (hnot manifest validation)⟩
      fun manifest validation h => absurd h (hnot manifest validation)

namespace Demo

/-- The first install of the module, which raises at the given step. -/
def failingInstall (failing : Step) : InstallCall where
  archive := archive "1.0.0"
  source := "upload"
  validation := .ok (validation "1.0.0")
  traversal := none
  acquire := none
  faults := failsAt failing

end Demo

open Demo

/-- The commit fails: the package stays in its place, without a row. -/
theorem failed_commit_traced : PackageWorld.empty.raises (Packages.install settings (failingInstall .commit)) = true ∧
      ¬ NoTrace settings PackageWorld.empty (failingInstall .commit)
        (Packages.step settings PackageWorld.empty (.install (failingInstall .commit))) := by
  refine ⟨by decide +kernel, fun htrace => ?_⟩
  have hplaced : ((Packages.step settings PackageWorld.empty (.install (failingInstall .commit))).files
      (installedDir settings.modulesPath moduleId "1.0.0")).isSome = true := by decide +kernel
  rw [htrace.installed] at hplaced
  exact absurd hplaced (by decide)

theorem failed_extract_traceless_iff :
    PackageWorld.empty.raises (Packages.install settings (failingInstall .extract)) = true ∧
      (NoTrace settings PackageWorld.empty (failingInstall .extract)
          (Packages.step settings PackageWorld.empty (.install (failingInstall .extract))) ↔
        ∀ manifest validation, (InstallAttempt.mk settings PackageWorld.empty (failingInstall .extract) manifest
            validation).Reaches →
          (InstallAttempt.mk settings PackageWorld.empty (failingInstall .extract) manifest validation).Harmless) :=
  ⟨by decide +kernel,
    failed_install_traceless_iff settings PackageWorld.empty (failingInstall .extract) (by decide +kernel)⟩

end EnergyCore.Packages
