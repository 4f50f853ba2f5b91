import EnergyCore.Foundations.FallibleSteps
import EnergyCore.PackageArchives.ArchiveMembers

/-!
# File operations

The operations on directories that the package code is made of, as a log of the paths that they change. What is found
on the disk, and which operation fails, is not decided here: a disk gives an answer to every question, in their order,
and the files that a directory already has when it is met through a path that goes back.

* `keeps_extract` — what an extraction does to the disk;
* `ends_extract` — the files that it leaves in the directory;
* `returns_extract` — on a disk without faults it does leave them.
-/

namespace EnergyCore.PackageArchives

open FallibleSteps PosixPaths
open Packages (Path Raised Crash pathTraversal)

/-! ### Effects -/

/-- A change on the disk; the operations on trees change everything below a path. -/
inductive Effect where
  | mkdir (p : Path)
  | write (p : Path)
  | unlink (p : Path)
  | removeTree (p : Path)
  | copyTree (dst : Path)
  | move (src dst : Path)
  deriving Repr, DecidableEq

/-- The paths that an effect creates, writes, moves or deletes. -/
def Effect.Touches : Effect → Path → Prop
  | .mkdir p, q | .write p, q | .unlink p, q => q = p
  | .removeTree p, q | .copyTree p, q => p <+: q
  | .move src dst, q => src <+: q ∨ dst <+: q

/-- What the disk says when it is asked: whether the path is there, and whether the operation fails. -/
structure DiskAnswer where
  found : Bool := false
  fault : Option Crash := none
  deriving Repr, DecidableEq

structure Disk where
  answers : ℕ → DiskAnswer
  present : Path → Tree

/-- The changes so far, how many questions have been asked, and whether an update has promoted its staged files. -/
structure World where
  effects : List Effect := []
  asked : ℕ := 0
  promoted : Bool := false
  deriving Repr, DecidableEq

abbrev FileOp := EStateM Raised World

def raise {α : Type} (c : Crash) : FileOp α := throw (.crash c)

def raiseFault : Option Crash → FileOp Unit
  | none => pure ()
  | some c => raise c

def liftExcept {α : Type} : Except Raised α → FileOp α
  | .ok a => pure a
  | .error e => throw e

variable (disk : Disk)

def ask : FileOp DiskAnswer := do
  let asked := (← get).asked
  modify fun w => { w with asked := asked + 1 }
  return disk.answers asked

def log (e : Effect) : FileOp Unit := modify fun w => { w with effects := w.effects ++ [e] }

/-- An operation that may fail halfway. -/
def perform (e : Effect) : FileOp Unit := do
  log e
  let answer ← ask disk
  raiseFault answer.fault

def pathExists : FileOp Bool := do
  let answer ← ask disk
  raiseFault answer.fault
  return answer.found

def rmtree (p : Path) : FileOp Unit := perform disk (.removeTree (resolve p))

/-- `shutil.rmtree(p, ignore_errors=True)`. -/
def rmtreeIgnoringErrors (p : Path) : FileOp Unit := log (.removeTree (resolve p))

/-- `if p.exists(): shutil.rmtree(p)`. -/
def rmtreeIfExists (p : Path) : FileOp Unit := do
  let found ← pathExists disk
  runIf (found = true) (rmtree disk p)

def mkdirEach : List Path → FileOp Unit
  | [] => pure ()
  | p :: ps => do
    let answer ← ask disk
    runIf (answer.found = false) (perform disk (.mkdir (resolve p)))
    mkdirEach ps

/-- `p.mkdir(parents=True, exist_ok=True)`: what is missing on the way is made. -/
def mkdirParents (p : Path) : FileOp Unit := mkdirEach disk p.inits

/-! ### Extraction -/

def placeAt (base : Path) (tree : Tree) (dest : Path) (data : Bytes) : Except Raised Tree :=
  match below base dest with
  | none => .ok tree
  | some p => writeFile tree p data

def extractMember (archive : Archive) (target : Path) (tree : Tree) (member : String) : FileOp Tree :=
  match safeJoin target member with
  | none => throw (.packageError "path traversal detected" pathTraversal)
  | some dest => do
    mkdirParents disk dest.dropLast
    perform disk (.write dest)
    let data ← liftExcept (readOrRaise archive member)
    liftExcept (placeAt (resolve target) tree dest data)

def extractMembers (archive : Archive) (target : Path) : List String → Tree → FileOp Tree
  | [], tree => pure tree
  | member :: members, tree => do
    let tree' ← extractMember disk archive target tree member
    extractMembers archive target members tree'

/-- The files that are in a directory once it has been removed, if it was found, and made again: a path that goes back
is not found while a directory on the way is missing, and may then lead to one that is there. -/
def filesThere (target : Path) : Tree := if ".." ∈ target then disk.present (resolve target) else []

/-- `PackageExtractor.extract`, with the files that are then in the directory. -/
def extract (archive : Archive) (target : Path) : FileOp Tree := do
  rmtreeIfExists disk target
  mkdirParents disk target
  extractMembers disk archive target (fileNames archive) (filesThere disk target)

/-- `shutil.move` to a place where nothing is: a rename, or a copy where a directory above the place is missing. -/
def move (src dst : Path) : FileOp Unit := do
  let answer ← ask disk
  if answer.found then perform disk (.move (resolve src) (resolve dst))
  else do
    mkdirParents disk dst.dropLast
    perform disk (.copyTree (resolve dst))
    perform disk (.removeTree (resolve src))

def copytree (dst : Path) : FileOp Unit := do
  mkdirParents disk dst.dropLast
  perform disk (.copyTree (resolve dst))

/-! ### The effects -/

/-- All effects so far have a property. -/
def AllEffects (P : Effect → Prop) (w : World) : Prop := ∀ e ∈ w.effects, P e

/-- What stays true while the log grows by effects that have a property. -/
structure Stable (P : Effect → Prop) (I : World → Prop) : Prop where
  logs : ∀ w e, P e → I w → I { w with effects := w.effects ++ [e] }
  asks : ∀ w n, I w → I { w with asked := n }
  promotes : ∀ w b, I w → I { w with promoted := b }

theorem stable_allEffects (P : Effect → Prop) : Stable P (AllEffects P) where
  logs w e he hw e' he' := by
    rcases List.mem_append.mp he' with he' | he'
    · exact hw e' he'
    · rw [List.mem_singleton.mp he']
      exact he
  asks _ _ hw := hw
  promotes _ _ hw := hw

/-- What has been logged stays logged. -/
theorem stable_mem (P : Effect → Prop) (e : Effect) : Stable P fun w => e ∈ w.effects where
  logs _ _ _ hw := List.mem_append_left _ hw
  asks _ _ hw := hw
  promotes _ _ hw := hw

/-- What may happen in a directory: it is removed, made and filled. -/
structure FillsDirectory (P : Effect → Prop) (target : Path) : Prop where
  removes : P (.removeTree (resolve target))
  makes : ∀ q, q <+: target → P (.mkdir (resolve q))
  makesBelow : ∀ p q, ".." ∉ p → q <+: resolve target ++ p → P (.mkdir (resolve q))
  writes : ∀ p, P (.write (resolve target ++ p))

section Keeps

variable {P : Effect → Prop} {I : World → Prop}

theorem keeps_raiseFault (fault : Option Crash) : Keeps I (raiseFault fault) := by
  cases fault with
  | none => exact keeps_pure ()
  | some c => exact keeps_throw _

theorem keeps_liftExcept {α : Type} (r : Except Raised α) : Keeps I (liftExcept r) := by
  cases r with
  | ok a => exact keeps_pure a
  | error e => exact keeps_throw e

variable (hI : Stable P I)

include hI

theorem keeps_ask : Keeps I (ask disk) :=
  keeps_bind keeps_get fun _ => keeps_bind (keeps_modify fun w h => hI.asks w _ h) fun _ => keeps_pure _

theorem keeps_log {e : Effect} (he : P e) : Keeps I (log e) := keeps_modify fun w h => hI.logs w e he h

theorem keeps_perform {e : Effect} (he : P e) : Keeps I (perform disk e) :=
  keeps_bind (keeps_log hI he) fun _ => keeps_bind (keeps_ask disk hI) fun _ => keeps_raiseFault _

theorem keeps_pathExists : Keeps I (pathExists disk) :=
  keeps_bind (keeps_ask disk hI) fun _ => keeps_bind (keeps_raiseFault _) fun _ => keeps_pure _

theorem keeps_rmtreeIfExists {p : Path} (h : P (.removeTree (resolve p))) : Keeps I (rmtreeIfExists disk p) :=
  keeps_bind (keeps_pathExists disk hI) fun _ => keeps_runIf (keeps_perform disk hI h)

theorem keeps_mkdirParents {p : Path} (h : ∀ q, q <+: p → P (.mkdir (resolve q))) : Keeps I (mkdirParents disk p) := by
  have hinits : ∀ q ∈ p.inits, P (.mkdir (resolve q)) := fun q hq => h q ((List.mem_inits q p).mp hq)
  unfold mkdirParents
  generalize p.inits = ps at hinits ⊢
  induction ps with
  | nil => exact keeps_pure ()
  | cons q ps ih =>
    refine keeps_bind (keeps_ask disk hI) fun _ => keeps_bind (keeps_runIf ?_) fun _ => ih ?_
    · exact keeps_perform disk hI (hinits q List.mem_cons_self)
    · exact fun q' hq' => hinits q' (List.mem_cons_of_mem q hq')

theorem keeps_copytree {dst : Path} (hmakes : ∀ q, q <+: dst → P (.mkdir (resolve q)))
    (hcopy : P (.copyTree (resolve dst))) : Keeps I (copytree disk dst) :=
  keeps_bind (keeps_mkdirParents disk hI fun q hq => hmakes q (hq.trans (List.dropLast_prefix _))) fun _ =>
    keeps_perform disk hI hcopy

theorem keeps_move {src dst : Path} (hmove : P (.move (resolve src) (resolve dst)))
    (hmakes : ∀ q, q <+: dst → P (.mkdir (resolve q))) (hcopy : P (.copyTree (resolve dst)))
    (hremove : P (.removeTree (resolve src))) : Keeps I (move disk src dst) := by
  refine keeps_bind (keeps_ask disk hI) fun _ => keeps_ite (keeps_perform disk hI hmove) ?_
  refine keeps_bind (keeps_mkdirParents disk hI fun q hq => hmakes q (hq.trans (List.dropLast_prefix _))) fun _ =>
    keeps_bind (keeps_perform disk hI hcopy) fun _ => keeps_perform disk hI hremove

theorem keeps_extractMember {target : Path} (h : FillsDirectory P target) (archive : Archive) (tree : Tree)
    {member : String} (hmember : SafeName member) : Keeps I (extractMember disk archive target tree member) := by
  unfold extractMember
  rw [safeJoin_of_safeName target hmember]
  refine keeps_bind (keeps_mkdirParents disk hI fun q hq => ?_) fun _ =>
    keeps_bind (keeps_perform disk hI (h.writes _)) fun _ =>
      keeps_bind (keeps_liftExcept _) fun _ => keeps_liftExcept _
  exact h.makesBelow _ q hmember.2 (hq.trans (List.dropLast_prefix _))

theorem keeps_extractMembers {target : Path} (h : FillsDirectory P target) (archive : Archive)
    {members : List String} (hmembers : ∀ member ∈ members, SafeName member) (tree : Tree) :
    Keeps I (extractMembers disk archive target members tree) := by
  induction members generalizing tree with
  | nil => exact keeps_pure tree
  | cons member members ih =>
    unfold extractMembers
    exact keeps_bind (keeps_extractMember disk hI h archive tree (hmembers member List.mem_cons_self))
      fun tree' => ih (fun member' hm => hmembers member' (List.mem_cons_of_mem member hm)) tree'

/-- **The effects of an extraction** stay in the directory it fills. -/
theorem keeps_extract {target : Path} (h : FillsDirectory P target) {archive : Archive}
    (hlimits : inspectArchiveLimits archive = .ok ()) : Keeps I (extract disk archive target) :=
  keeps_bind (keeps_rmtreeIfExists disk hI h.removes) fun _ =>
    keeps_bind (keeps_mkdirParents disk hI h.makes) fun _ =>
      keeps_extractMembers disk hI h archive (safeName_of_inspect hlimits) _

end Keeps

/-! ### The files -/

theorem ends_true {α : Type} {m : FileOp α} (w : World) : Ends m w (fun _ _ => True) fun _ _ => True := by
  unfold Ends
  cases m w with
  | ok a w' => trivial
  | error e w' => trivial

theorem ends_liftExcept {α : Type} (r : Except Raised α) (w : World) :
    Ends (liftExcept r) w (fun a w' => r = .ok a ∧ w' = w) fun e w' => r = .error e ∧ w' = w := by
  cases r with
  | ok a => exact ⟨rfl, rfl⟩
  | error e => exact ⟨rfl, rfl⟩

theorem ends_extractMember {target : Path} (archive : Archive) (tree : Tree) {member : String}
    (hmember : SafeName member) (w : World) : Ends (extractMember disk archive target tree member) w
      (fun tree' _ => putMember archive tree member = .ok tree') (fun _ _ => True) := by
  unfold extractMember
  rw [safeJoin_of_safeName target hmember]
  refine ends_bind (ends_true w) fun _ w₁ _ => ends_bind (ends_true w₁) fun _ w₂ _ => ?_
  refine ends_bind ((ends_liftExcept _ w₂).mono (fun _ _ h => h) fun _ _ _ => trivial) ?_
  rintro data w₃ ⟨hread, rfl⟩
  unfold placeAt putMember
  rw [below_append, hread]
  exact (ends_liftExcept _ w₃).mono (fun _ _ h => h.1) fun _ _ _ => trivial

theorem ends_extractMembers {target : Path} (archive : Archive) {members : List String}
    (hmembers : ∀ member ∈ members, SafeName member) (tree : Tree) (w : World) :
    Ends (extractMembers disk archive target members tree) w
      (fun tree' _ => putMembers archive members tree = .ok tree') (fun _ _ => True) := by
  induction members generalizing tree w with
  | nil => exact rfl
  | cons member members ih =>
    unfold extractMembers
    refine ends_bind (ends_extractMember disk archive tree (hmembers member List.mem_cons_self) w)
      fun tree' w' hput => ?_
    unfold putMembers
    rw [hput]
    exact ih (fun member' hm => hmembers member' (List.mem_cons_of_mem member hm)) tree' w'

/-- **The files of an extraction** are those of the members, over what is there. -/
theorem ends_extract {target : Path} {archive : Archive} (hlimits : inspectArchiveLimits archive = .ok ())
    (w : World) : Ends (extract disk archive target) w
      (fun tree _ => extractedOver (filesThere disk target) archive = .ok tree) (fun _ _ => True) :=
  ends_bind (ends_true w) fun _ w' _ => ends_bind (ends_true w') fun _ w'' _ =>
    ends_extractMembers disk archive (safeName_of_inspect hlimits) _ w''

/-! ### A disk without faults -/

/-- No operation fails. -/
def Quiet (disk : Disk) : Prop := ∀ n, (disk.answers n).fault = none

/-- A computation that returns, from every state, something that has a property. -/
def Returns {α : Type} (m : FileOp α) (Q : α → Prop) : Prop :=
  ∀ w, Ends m w (fun a _ => Q a) fun _ _ => False

section Quiet

variable {α β : Type} {m : FileOp α} {Q : α → Prop} {R : β → Prop}

theorem returns_pure {a : α} (h : Q a) : Returns (pure a) Q := fun _ => ends_pure h

theorem returns_bind {f : α → FileOp β} (h : Returns m Q) (hf : ∀ a, Q a → Returns (f a) R) :
    Returns (m >>= f) R := fun w => ends_bind (h w) fun a w' ha => hf a ha w'

theorem returns_tryCatch {handler : Raised → FileOp α} (h : Returns m Q) : Returns (tryCatch m handler) Q :=
  fun w => ends_tryCatch (h w) fun _ _ hfalse => hfalse.elim

theorem returns_liftExcept {r : Except Raised α} {a : α} (h : r = .ok a) : Returns (liftExcept r) fun b => b = a := by
  rw [h]
  exact returns_pure rfl

theorem returns_log (e : Effect) : Returns (log e) fun _ => True := fun _ => ends_modify trivial

theorem returns_runIf {c : Prop} [Decidable c] {m : FileOp Unit} (h : Returns m fun _ => True) :
    Returns (runIf c m) fun _ => True := fun w => ends_runIf (fun _ => h w) fun _ => trivial

/-- What a returning computation returns. -/
theorem Returns.run (h : Returns m Q) (w : World) : ∃ a w', m w = .ok a w' ∧ Q a := by
  have hends := h w
  unfold Ends at hends
  cases hm : m w with
  | ok a w' =>
    rw [hm] at hends
    exact ⟨a, w', rfl, hends⟩
  | error e w' =>
    rw [hm] at hends
    exact hends.elim

variable {disk} (hquiet : Quiet disk)

include hquiet

theorem returns_ask : Returns (ask disk) fun answer => answer.fault = none :=
  fun w => ends_bind (ends_get (Q := fun _ w' => w' = w) rfl) fun _ _ _ =>
    ends_bind (ends_modify (Q := fun _ _ => True) trivial) fun _ _ _ => ends_pure (hquiet _)

theorem returns_perform (e : Effect) : Returns (perform disk e) fun _ => True :=
  returns_bind (returns_log e) fun _ _ => returns_bind (returns_ask hquiet) fun answer hanswer => by
    rw [hanswer]
    exact returns_pure trivial

theorem returns_pathExists : Returns (pathExists disk) fun _ => True :=
  returns_bind (returns_ask hquiet) fun answer hanswer => by
    rw [hanswer]
    exact returns_bind (Q := fun _ => True) (returns_pure trivial) fun _ _ => returns_pure trivial

theorem returns_rmtreeIfExists (p : Path) : Returns (rmtreeIfExists disk p) fun _ => True :=
  returns_bind (returns_pathExists hquiet) fun _ _ => returns_runIf (returns_perform hquiet _)

theorem returns_mkdirParents (p : Path) : Returns (mkdirParents disk p) fun _ => True := by
  unfold mkdirParents
  induction p.inits with
  | nil => exact returns_pure trivial
  | cons q qs ih =>
    exact returns_bind (returns_ask hquiet) fun _ _ =>
      returns_bind (returns_runIf (returns_perform hquiet _)) fun _ _ => ih

theorem returns_extractMembers {target : Path} {archive : Archive} {members : List String}
    (hmembers : ∀ member ∈ members, SafeName member) {tree packageDir : Tree}
    (h : putMembers archive members tree = .ok packageDir) :
    Returns (extractMembers disk archive target members tree) fun tree' => tree' = packageDir := by
  induction members generalizing tree with
  | nil => exact returns_pure (Except.ok.inj h)
  | cons member members ih =>
    unfold extractMembers extractMember
    rw [safeJoin_of_safeName target (hmembers member List.mem_cons_self)]
    unfold putMembers putMember at h
    cases hread : readOrRaise archive member with
    | error e =>
      rw [hread] at h
      cases h
    | ok data =>
      rw [hread] at h
      cases hwrite : writeFile tree (parts member) data with
      | error e =>
        simp only [hwrite] at h
        cases h
      | ok tree' =>
        simp only [hwrite] at h
        refine returns_bind (Q := fun t => t = tree') ?_ fun t ht => ?_
        · refine returns_bind (returns_mkdirParents hquiet _) fun _ _ =>
            returns_bind (returns_perform hquiet _) fun _ _ =>
              returns_bind (returns_liftExcept rfl) fun data' hdata' => ?_
          refine returns_liftExcept ?_
          rw [placeAt, below_append, hdata']
          exact hwrite
        · rw [ht]
          exact ih (fun member' hm => hmembers member' (List.mem_cons_of_mem member hm)) h

theorem returns_extract {target : Path} {archive : Archive} (hlimits : inspectArchiveLimits archive = .ok ())
    {packageDir : Tree} (h : extractedOver (filesThere disk target) archive = .ok packageDir) :
    Returns (extract disk archive target) fun tree => tree = packageDir :=
  returns_bind (returns_rmtreeIfExists hquiet _) fun _ _ =>
    returns_bind (returns_mkdirParents hquiet _) fun _ _ =>
      returns_extractMembers hquiet (safeName_of_inspect hlimits) h

end Quiet

end EnergyCore.PackageArchives
