import EnergyCore.Foundations.KeyedChanges

/-!
# The supervisor of the vehicle integrations

`VehicleIntegrationSupervisor` between its await points: `start_site` and `stop_site`, the refreshes of the
supervisor loop, and the endings of the `_run_site` tasks, over the dictionary of the runtimes. What happens
between two awaits is one event.

* `Supervisor.step` — one event;
* `Live` — a task that has not finished.
-/

namespace EnergyCore.Vehicles

open KeywordFields KeyedChanges

/-! ### The state -/

/-- `_SiteRuntime`, with the number of its task. -/
structure SiteRuntime where
  siteId : ℕ
  task : Option ℕ
  deriving Repr, DecidableEq

/-- A `_run_site` task. -/
structure RunTask where
  siteId : ℕ
  cancelled : Bool := false
  finished : Bool := false
  deriving Repr, DecidableEq

/-- Where the supervisor loop awaits. -/
inductive LoopState where
  | waiting
  /-- The provider of the site is being built, for no runtime or for one without a running task. -/
  | building (siteId : ℕ) (seen : Option ℕ) (rest enabled : List ℕ)
  /-- A runtime that left the dictionary is being stopped. -/
  | removing (awaited : Option ℕ) (rest enabled : List ℕ)
  deriving Repr, DecidableEq

/-- The runtime objects and the tasks are numbered in the order of their creation; the dictionary holds
numbers of runtime objects. -/
structure Supervisor where
  runtimes : Fields ℕ ℕ := []
  objects : List SiteRuntime := []
  tasks : List RunTask := []
  /-- The calls of `start_site` that await. -/
  starting : List ℕ := []
  loop : LoopState := .waiting
  deriving Repr, DecidableEq

namespace Supervisor

def taskOf (st : Supervisor) (runtime : ℕ) : Option ℕ := (st.objects[runtime]?).bind (·.task)

/-- `task.done()`. -/
def done (st : Supervisor) (task : ℕ) : Bool := (st.tasks[task]?).all (·.finished)

/-- `runtime.task` is neither `None` nor done. -/
def running (st : Supervisor) (runtime : ℕ) : Bool := (st.taskOf runtime).any fun t => !st.done t

/-! ### What the events do -/

/-- A new runtime with a new task takes the site's place in the dictionary. -/
def createRuntime (st : Supervisor) (siteId : ℕ) : Supervisor :=
  { st with
    tasks := st.tasks ++ [{ siteId := siteId }]
    objects := st.objects ++ [{ siteId := siteId, task := some st.tasks.length }]
    runtimes := Fields.assign st.runtimes siteId st.objects.length }

/-- A new task for a runtime that exists. -/
def restartRuntime (st : Supervisor) (siteId runtime : ℕ) : Supervisor :=
  { st with
    tasks := st.tasks ++ [{ siteId := siteId }]
    objects := st.objects.modify runtime fun o => { o with task := some st.tasks.length } }

/-- The runtime leaves the dictionary, and its task is cancelled: `_stop_site` up to its first await. -/
def popAndCancel (st : Supervisor) (siteId runtime : ℕ) : Supervisor :=
  { st with
    runtimes := pop st.runtimes siteId
    tasks := match st.taskOf runtime with
      | some t => st.tasks.modify t fun k => { k with cancelled := true }
      | none => st.tasks }

/-- The loop's last part: the sites that are not enabled are stopped, one after the other. A site that has left
the dictionary in the meantime is a `KeyError`, which ends the refresh. -/
def removeNext (enabled : List ℕ) (st : Supervisor) : List ℕ → Supervisor
  | [] => { st with loop := .waiting }
  | siteId :: rest =>
    if siteId ∈ enabled then removeNext enabled st rest
    else
      match Fields.get st.runtimes siteId with
      | none => { st with loop := .waiting }
      | some runtime =>
        { st.popAndCancel siteId runtime with
          loop := .removing (st.taskOf runtime) rest enabled }

/-- The loop's first part, up to the next site whose provider has to be built. -/
def buildNext (enabled : List ℕ) (st : Supervisor) : List ℕ → Supervisor
  | [] => removeNext enabled st (Fields.keys st.runtimes)
  | siteId :: rest =>
    match Fields.get st.runtimes siteId with
    | none => { st with loop := .building siteId none rest enabled }
    | some runtime =>
      if st.running runtime then buildNext enabled st rest
      else { st with loop := .building siteId (some runtime) rest enabled }

/-- `start_site` up to its first await. -/
def startSite (st : Supervisor) (siteId : ℕ) : Supervisor :=
  if (Fields.get st.runtimes siteId).any fun r => (st.taskOf r).isSome then st
  else { st with starting := siteId :: st.starting }

/-- `start_site` after its awaits: it creates a runtime, or it has found none to create or has raised. -/
def startResumed (st : Supervisor) (siteId : ℕ) (created : Bool) : Supervisor :=
  if siteId ∈ st.starting then
    let resumed := { st with starting := st.starting.erase siteId }
    if created then resumed.createRuntime siteId else resumed
  else st

def stopSite (st : Supervisor) (siteId : ℕ) : Supervisor :=
  match Fields.get st.runtimes siteId with
  | none => st
  | some runtime => st.popAndCancel siteId runtime

/-- The loop after a provider is built. -/
def providerBuilt (st : Supervisor) : Supervisor :=
  match st.loop with
  | .building siteId none rest enabled => buildNext enabled (st.createRuntime siteId) rest
  | .building siteId (some runtime) rest enabled =>
    buildNext enabled (st.restartRuntime siteId runtime) rest
  | _ => st

/-- The runtime objects after the write-back, which goes to whatever runtime the dictionary has for the site. -/
def writeBack (st : Supervisor) (siteId : ℕ) (writesBack : Bool) : List SiteRuntime :=
  if writesBack then
    match Fields.get st.runtimes siteId with
    | some runtime => st.objects.modify runtime fun o => { o with task := none }
    | none => st.objects
  else st.objects

def endTask (st : Supervisor) (siteId task : ℕ) (writesBack : Bool) : Supervisor :=
  { st with
    tasks := st.tasks.modify task fun k => { k with finished := true }
    objects := st.writeBack siteId writesBack }

/-- The end of a `_run_site` task. Only a task that was cancelled can end without the write-back: before it has
begun, or while it closes its provider. -/
def taskFinished (st : Supervisor) (task : ℕ) (writesBack : Bool) : Supervisor :=
  match st.tasks[task]? with
  | none => st
  | some k =>
    if k.finished = true ∨ (writesBack = false ∧ k.cancelled = false) then st
    else st.endTask k.siteId task writesBack

/-- The loop goes on when the awaited task is done. -/
def awaitedDone (st : Supervisor) (awaited : Option ℕ) : Bool := awaited.all st.done

end Supervisor

/-- What can happen between two awaits. -/
inductive SupervisorEvent where
  | startSite (siteId : ℕ)
  | startResumed (siteId : ℕ) (created : Bool)
  | stopSite (siteId : ℕ)
  /-- The loop has the enabled sites. -/
  | refreshListed (enabled : List ℕ)
  | providerBuilt
  /-- `_stop_site` returns to the loop. -/
  | siteRemoved
  /-- An exception ends the refresh. -/
  | refreshFailed
  | taskFinished (task : ℕ) (writesBack : Bool)
  deriving Repr, DecidableEq

namespace Supervisor

/-- One event; an event that cannot happen changes nothing. -/
def step (st : Supervisor) : SupervisorEvent → Supervisor
  | .startSite siteId => st.startSite siteId
  | .startResumed siteId created => st.startResumed siteId created
  | .stopSite siteId => st.stopSite siteId
  | .refreshListed enabled =>
    match st.loop with
    | .waiting => buildNext enabled st enabled
    | _ => st
  | .providerBuilt => st.providerBuilt
  | .siteRemoved =>
    match st.loop with
    | .removing awaited rest enabled =>
      if st.awaitedDone awaited then removeNext enabled st rest else st
    | _ => st
  | .refreshFailed =>
    match st.loop with
    | .waiting => st
    | .building _ _ _ _ => { st with loop := .waiting }
    | .removing awaited _ _ => if st.awaitedDone awaited then { st with loop := .waiting } else st
  | .taskFinished task writesBack => st.taskFinished task writesBack

/-- The task runs for the site and has not finished. -/
def Live (st : Supervisor) (siteId task : ℕ) : Prop :=
  ∃ k, st.tasks[task]? = some k ∧ k.siteId = siteId ∧ k.finished = false

/-- At most one task that has not finished exists for each site. -/
def OneWorker (st : Supervisor) : Prop :=
  ∀ siteId task task', st.Live siteId task → st.Live siteId task' → task = task'

end Supervisor

end EnergyCore.Vehicles
