import EnergyCore.Vehicles.SiteSupervisor

/-!
# One worker for each site

No site should have two unfinished `_run_site` tasks, in whatever order its calls and the loop get their turns.
The supervisor checks the dictionary before its awaits and creates the task after them.

* `Undisturbed` — what the check has found still holds when the task is created, and no cancelled task of the
  site is still on its way out;
* `Supervised` — every unfinished task is the one of its site's entry, or is cancelled, and no site has two;
* `oneWorker_of_undisturbed` — a run of undisturbed events has at most one unfinished task for each site.
-/

namespace EnergyCore.Vehicles.Supervisor

open KeywordFields KeyedChanges StepRun

/-! ### The condition -/

/-- The dictionary has no runtime with a running task for the site, and no task of the site that was cancelled is
still on its way out. -/
def Vacant (st : Supervisor) (siteId : ℕ) : Prop :=
  (∀ runtime, Fields.get st.runtimes siteId = some runtime → st.running runtime = false) ∧
    ∀ k ∈ st.tasks, k.siteId = siteId → k.cancelled = true → k.finished = true

/-- When an event is about to create a task, the site is still vacant, and a runtime that gets a new task is
still the site's entry. -/
def Undisturbed (st : Supervisor) : SupervisorEvent → Prop
  | .startResumed siteId created => siteId ∈ st.starting → created = true → st.Vacant siteId
  | .providerBuilt => ∀ siteId seen rest enabled, st.loop = .building siteId seen rest enabled →
      st.Vacant siteId ∧ ∀ runtime, seen = some runtime → Fields.get st.runtimes siteId = some runtime
  | _ => True

/-! ### The invariant -/

structure Supervised (st : Supervisor) : Prop where
  /-- An entry's runtime belongs to the entry's site. -/
  entries : ∀ siteId runtime, Fields.get st.runtimes siteId = some runtime →
    ∃ o, st.objects[runtime]? = some o ∧ o.siteId = siteId
  /-- An unfinished task is cancelled, or the task of its site's entry. -/
  owned : ∀ siteId task, st.Live siteId task →
    (∃ k, st.tasks[task]? = some k ∧ k.cancelled = true) ∨
      ∃ runtime, Fields.get st.runtimes siteId = some runtime ∧ st.taskOf runtime = some task
  oneWorker : st.OneWorker

theorem supervised_empty : ({} : Supervisor).Supervised where
  entries := by simp [Fields.get]
  owned := by
    rintro siteId task ⟨k, hk, -⟩
    simp at hk
  oneWorker := by
    rintro siteId task task' ⟨k, hk, -⟩
    simp at hk

/-- A vacant site has no unfinished task. -/
theorem Supervised.not_live {st : Supervisor} (h : st.Supervised) {siteId : ℕ} (hvacant : st.Vacant siteId)
    (task : ℕ) : ¬ st.Live siteId task := by
  intro hlive
  obtain ⟨k, hk, hsite, hunfinished⟩ := hlive
  rcases h.owned siteId task ⟨k, hk, hsite, hunfinished⟩ with ⟨k', hk', hcancelled⟩ | ⟨r, hr, htask⟩
  · obtain rfl := Option.some.inj (hk.symm.trans hk')
    have hfinished := hvacant.2 k (List.mem_of_getElem? hk) hsite hcancelled
    rw [hunfinished] at hfinished
    exact Bool.false_ne_true hfinished
  · have hidle := hvacant.1 r hr
    simp [running, done, htask, hk, hunfinished] at hidle

/-! ### Steps that create no task -/

theorem Supervised.withLoop {st : Supervisor} (h : st.Supervised) (loop : LoopState) :
    ({ st with loop := loop } : Supervisor).Supervised := ⟨h.entries, h.owned, h.oneWorker⟩

theorem Supervised.withStarting {st : Supervisor} (h : st.Supervised) (starting : List ℕ) :
    ({ st with starting := starting } : Supervisor).Supervised := ⟨h.entries, h.owned, h.oneWorker⟩

/-- What is unfinished after a task was changed was unfinished before. -/
theorem live_of_modify {st st' : Supervisor} {i : ℕ} {f : RunTask → RunTask}
    (htasks : st'.tasks = st.tasks.modify i f) (hsite : ∀ k, (f k).siteId = k.siteId)
    (hfinished : ∀ k, (f k).finished = false → k.finished = false) {siteId task : ℕ}
    (h : st'.Live siteId task) : st.Live siteId task := by
  obtain ⟨k, hk, hsite', hunfinished⟩ := h
  rw [htasks, List.getElem?_modify] at hk
  obtain ⟨k₀, hk₀, rfl⟩ := Option.map_eq_some_iff.mp hk
  refine ⟨k₀, hk₀, ?_, ?_⟩
  · rw [← hsite']
    split_ifs
    · exact (hsite k₀).symm
    · rfl
  · split_ifs at hunfinished
    · exact hfinished k₀ hunfinished
    · exact hunfinished

theorem OneWorker.of_live {st st' : Supervisor} (h : st.OneWorker)
    (hlive : ∀ {siteId task}, st'.Live siteId task → st.Live siteId task) : st'.OneWorker :=
  fun siteId task task' htask htask' => h siteId task task' (hlive htask) (hlive htask')

theorem popAndCancel_tasks_of_some {st : Supervisor} {siteId runtime task : ℕ}
    (h : st.taskOf runtime = some task) :
    (st.popAndCancel siteId runtime).tasks
      = st.tasks.modify task fun k => { k with cancelled := true } := by
  simp only [Supervisor.popAndCancel, h]

theorem popAndCancel_tasks_of_none {st : Supervisor} {siteId runtime : ℕ}
    (h : st.taskOf runtime = none) : (st.popAndCancel siteId runtime).tasks = st.tasks := by
  simp only [Supervisor.popAndCancel, h]

theorem live_of_popAndCancel {st : Supervisor} {siteId runtime siteId' task : ℕ}
    (h : (st.popAndCancel siteId runtime).Live siteId' task) : st.Live siteId' task := by
  cases htask : st.taskOf runtime with
  | none =>
    obtain ⟨k, hk, hlive⟩ := h
    rw [popAndCancel_tasks_of_none htask] at hk
    exact ⟨k, hk, hlive⟩
  | some t =>
    exact live_of_modify (popAndCancel_tasks_of_some htask) (fun _ => rfl) (fun _ hk => hk) h

/-- A task that was cancelled stays so, and the popped runtime's is. -/
theorem cancelled_popAndCancel {st : Supervisor} {siteId runtime task : ℕ} {k : RunTask}
    (hk : st.tasks[task]? = some k) (h : k.cancelled = true ∨ st.taskOf runtime = some task) :
    ∃ k', (st.popAndCancel siteId runtime).tasks[task]? = some k' ∧ k'.cancelled = true := by
  cases htask : st.taskOf runtime with
  | none =>
    rw [htask] at h
    exact ⟨k, by rw [popAndCancel_tasks_of_none htask, hk], h.resolve_right (by simp)⟩
  | some t =>
    rw [popAndCancel_tasks_of_some htask, List.getElem?_modify, hk]
    refine ⟨_, rfl, ?_⟩
    split_ifs with heq
    · rfl
    · refine h.resolve_right fun hother => heq ?_
      exact Option.some.inj (htask.symm.trans hother)

/-- Stopping a site keeps the invariant: the task that leaves the dictionary is cancelled. -/
theorem Supervised.popAndCancel {st : Supervisor} (h : st.Supervised) {siteId runtime : ℕ}
    (hentry : Fields.get st.runtimes siteId = some runtime) : (st.popAndCancel siteId runtime).Supervised := by
  have hget : ∀ siteId', Fields.get (st.popAndCancel siteId runtime).runtimes siteId'
      = if siteId = siteId' then none else Fields.get st.runtimes siteId' := get_pop st.runtimes siteId
  refine ⟨?_, ?_, h.oneWorker.of_live live_of_popAndCancel⟩
  · intro siteId' r hr
    rw [hget] at hr
    split_ifs at hr
    exact h.entries siteId' r hr
  · intro siteId' task hlive
    have hbefore := live_of_popAndCancel hlive
    obtain ⟨k, hk, -⟩ := id hbefore
    rcases h.owned siteId' task hbefore with ⟨k', hk', hcancelled⟩ | ⟨r, hr, htask⟩
    · exact .inl (cancelled_popAndCancel hk' (.inl hcancelled))
    · by_cases hsame : siteId = siteId'
      · subst hsame
        obtain rfl := Option.some.inj (hentry.symm.trans hr)
        exact .inl (cancelled_popAndCancel hk (.inr htask))
      · exact .inr ⟨r, by rw [hget, if_neg hsame, hr], htask⟩

theorem taskFinished_cases (st : Supervisor) (task : ℕ) (writesBack : Bool) : st.taskFinished task writesBack = st ∨
      ∃ siteId, st.Live siteId task ∧ st.taskFinished task writesBack = st.endTask siteId task writesBack := by
  unfold Supervisor.taskFinished
  cases hk : st.tasks[task]? with
  | none => exact .inl rfl
  | some k =>
    dsimp only
    split_ifs with hends
    · exact .inl rfl
    · have hunfinished : k.finished = false := Bool.eq_false_iff.mpr (not_or.mp hends).1
      exact .inr ⟨k.siteId, ⟨k, hk, rfl, hunfinished⟩, rfl⟩

/-- The write-back leaves the runtimes of the other sites alone. -/
theorem writeBack_getElem? {st : Supervisor} (h : st.Supervised) {siteId siteId' r : ℕ}
    (hr : Fields.get st.runtimes siteId' = some r) (hne : siteId' ≠ siteId) (writesBack : Bool) :
    (st.writeBack siteId writesBack)[r]? = st.objects[r]? := by
  unfold writeBack
  split_ifs
  · cases hentry : Fields.get st.runtimes siteId with
    | none => rfl
    | some runtime =>
      have hother : runtime ≠ r := by
        rintro rfl
        obtain ⟨o, ho, hsite⟩ := h.entries siteId' _ hr
        obtain ⟨o', ho', hsite'⟩ := h.entries siteId _ hentry
        obtain rfl := Option.some.inj (ho.symm.trans ho')
        exact hne (hsite.symm.trans hsite')
      dsimp only
      rw [List.getElem?_modify_ne _ _ hother]
  · rfl

theorem writeBack_siteId {st : Supervisor} {r : ℕ} {o : SiteRuntime} (ho : st.objects[r]? = some o)
    (siteId : ℕ) (writesBack : Bool) :
    ∃ o', (st.writeBack siteId writesBack)[r]? = some o' ∧ o'.siteId = o.siteId := by
  unfold writeBack
  split_ifs
  · cases Fields.get st.runtimes siteId with
    | none => exact ⟨o, ho, rfl⟩
    | some runtime =>
      dsimp only
      rw [List.getElem?_modify, ho]
      refine ⟨_, rfl, ?_⟩
      split_ifs <;> rfl
  · exact ⟨o, ho, rfl⟩

/-- The end of a task keeps the invariant: the write-back finds the entry of the site, and no other unfinished
task of the site can be its task. -/
theorem Supervised.taskFinished {st : Supervisor} (h : st.Supervised) (task : ℕ) (writesBack : Bool) :
    (st.taskFinished task writesBack).Supervised := by
  rcases taskFinished_cases st task writesBack with heq | ⟨siteId, hended, heq⟩
  · rw [heq]
    exact h
  · rw [heq]
    have hlive : ∀ {siteId' task'}, (st.endTask siteId task writesBack).Live siteId' task' →
        st.Live siteId' task' ∧ task' ≠ task := by
      intro siteId' task' hlive
      have hbefore : st.Live siteId' task' :=
        live_of_modify (f := fun k => { k with finished := true }) rfl (fun _ => rfl)
          (fun _ hk => absurd hk Bool.true_eq_false.mp) hlive
      refine ⟨hbefore, ?_⟩
      rintro rfl
      obtain ⟨k, hk, -, hunfinished⟩ := hlive
      simp only [endTask, List.getElem?_modify_eq] at hk
      obtain ⟨k₀, -, rfl⟩ := Option.map_eq_some_iff.mp hk
      simp at hunfinished
    refine ⟨?_, ?_, h.oneWorker.of_live fun hl => (hlive hl).1⟩
    · intro siteId' r hr
      obtain ⟨o, ho, hsite⟩ := h.entries siteId' r hr
      obtain ⟨o', ho', hsite'⟩ := writeBack_siteId ho siteId writesBack
      exact ⟨o', ho', hsite'.trans hsite⟩
    · intro siteId' task' hl
      obtain ⟨hbefore, hne⟩ := hlive hl
      rcases h.owned siteId' task' hbefore with ⟨k, hk, hcancelled⟩ | ⟨r, hr, htask⟩
      · refine .inl ⟨k, ?_, hcancelled⟩
        simp only [endTask]
        rw [List.getElem?_modify_ne _ _ hne.symm, hk]
      · have hsite : siteId' ≠ siteId := by
          rintro rfl
          exact hne (h.oneWorker siteId' task' task hbefore hended)
        refine .inr ⟨r, hr, ?_⟩
        simp only [taskOf, endTask]
        rw [writeBack_getElem? h hr hsite]
        exact htask

/-! ### Steps that create a task -/

theorem live_append {st st' : Supervisor} {siteId : ℕ} (htasks : st'.tasks = st.tasks ++ [{ siteId := siteId }])
    {siteId' task : ℕ} (h : st'.Live siteId' task) :
    st.Live siteId' task ∨ (siteId' = siteId ∧ task = st.tasks.length) := by
  obtain ⟨k, hk, hsite, hunfinished⟩ := h
  rw [htasks] at hk
  rw [List.getElem?_append] at hk
  split_ifs at hk with hold
  · exact .inl ⟨k, hk, hsite, hunfinished⟩
  · rw [List.getElem?_singleton] at hk
    split_ifs at hk with hzero
    obtain rfl := Option.some.inj hk
    exact .inr ⟨hsite.symm, by omega⟩

theorem getElem?_append_of_some {α : Type*} {l m : List α} {i : ℕ} {a : α} (h : l[i]? = some a) :
    (l ++ m)[i]? = some a := by
  obtain ⟨hlt, -⟩ := List.getElem?_eq_some_iff.mp h
  rw [List.getElem?_append_left hlt, h]

/-- A task that is created for a vacant site is its only unfinished one. -/
theorem Supervised.oneWorker_append {st st' : Supervisor} (h : st.Supervised) {siteId : ℕ}
    (hvacant : st.Vacant siteId) (htasks : st'.tasks = st.tasks ++ [{ siteId := siteId }]) :
    st'.OneWorker := by
  intro siteId' task task' htask htask'
  rcases live_append htasks htask with hl | ⟨rfl, rfl⟩
  · rcases live_append htasks htask' with hl' | ⟨rfl, -⟩
    · exact h.oneWorker siteId' task task' hl hl'
    · exact absurd hl (h.not_live hvacant task)
  · rcases live_append htasks htask' with hl' | ⟨-, rfl⟩
    · exact absurd hl' (h.not_live hvacant task')
    · rfl

/-- The tasks are owned after one is created for a vacant site, if its entry owns the new task and the entries of
the other sites are left alone. -/
theorem Supervised.owned_append {st st' : Supervisor} (h : st.Supervised) {siteId : ℕ}
    (hvacant : st.Vacant siteId) (htasks : st'.tasks = st.tasks ++ [{ siteId := siteId }])
    (hnew : ∃ runtime, Fields.get st'.runtimes siteId = some runtime ∧
      st'.taskOf runtime = some st.tasks.length)
    (hothers : ∀ siteId' r task, siteId' ≠ siteId → Fields.get st.runtimes siteId' = some r →
      st.taskOf r = some task → Fields.get st'.runtimes siteId' = some r ∧ st'.taskOf r = some task)
    {siteId' task : ℕ} (hl : st'.Live siteId' task) :
    (∃ k, st'.tasks[task]? = some k ∧ k.cancelled = true) ∨
      ∃ runtime, Fields.get st'.runtimes siteId' = some runtime ∧ st'.taskOf runtime = some task := by
  rcases live_append htasks hl with hbefore | ⟨rfl, rfl⟩
  · have hne : siteId' ≠ siteId := by
      rintro rfl
      exact h.not_live hvacant task hbefore
    rcases h.owned siteId' task hbefore with ⟨k, hk, hcancelled⟩ | ⟨r, hr, htask⟩
    · exact .inl ⟨k, by rw [htasks, getElem?_append_of_some hk], hcancelled⟩
    · exact .inr ⟨r, hothers siteId' r task hne hr htask⟩
  · exact .inr hnew

theorem Supervised.createRuntime {st : Supervisor} (h : st.Supervised) {siteId : ℕ}
    (hvacant : st.Vacant siteId) : (st.createRuntime siteId).Supervised := by
  have hget : ∀ siteId', Fields.get (st.createRuntime siteId).runtimes siteId'
      = if siteId = siteId' then some st.objects.length else Fields.get st.runtimes siteId' :=
    fun siteId' => Fields.get_assign st.runtimes siteId siteId' st.objects.length
  have hnew : (st.createRuntime siteId).objects[st.objects.length]?
      = some { siteId := siteId, task := some st.tasks.length } := List.getElem?_concat_length
  refine ⟨?_, fun siteId' task => h.owned_append hvacant rfl ?_ ?_, h.oneWorker_append hvacant rfl⟩
  · intro siteId' r hr
    rw [hget] at hr
    split_ifs at hr with hsame
    · obtain rfl := Option.some.inj hr
      exact ⟨_, hnew, hsame⟩
    · obtain ⟨o, ho, hsite⟩ := h.entries siteId' r hr
      exact ⟨o, getElem?_append_of_some ho, hsite⟩
  · exact ⟨st.objects.length, by rw [hget, if_pos rfl], by rw [taskOf, hnew, Option.bind_some]⟩
  · intro siteId' r task hne hr htask
    refine ⟨by rw [hget, if_neg hne.symm, hr], ?_⟩
    obtain ⟨o, ho, ho'⟩ := Option.bind_eq_some_iff.mp htask
    exact Option.bind_eq_some_iff.mpr ⟨o, getElem?_append_of_some ho, ho'⟩

theorem Supervised.restartRuntime {st : Supervisor} (h : st.Supervised) {siteId runtime : ℕ}
    (hvacant : st.Vacant siteId) (hentry : Fields.get st.runtimes siteId = some runtime) :
    (st.restartRuntime siteId runtime).Supervised := by
  obtain ⟨o, ho, hsite⟩ := h.entries siteId runtime hentry
  refine ⟨?_, fun siteId' task => h.owned_append hvacant rfl ?_ ?_, h.oneWorker_append hvacant rfl⟩
  · intro siteId' r hr
    obtain ⟨o', ho', hsite'⟩ := h.entries siteId' r hr
    simp only [Supervisor.restartRuntime, List.getElem?_modify]
    rw [ho']
    refine ⟨_, rfl, ?_⟩
    rw [← hsite']
    split_ifs <;> rfl
  · refine ⟨runtime, hentry, ?_⟩
    simp only [taskOf, Supervisor.restartRuntime, List.getElem?_modify_eq, ho]
    rfl
  · intro siteId' r task hne hr htask
    have hother : runtime ≠ r := by
      rintro rfl
      obtain ⟨o', ho', hsite'⟩ := h.entries siteId' _ hr
      obtain rfl := Option.some.inj (ho.symm.trans ho')
      exact hne (hsite'.symm.trans hsite)
    refine ⟨hr, ?_⟩
    simp only [taskOf, Supervisor.restartRuntime]
    rw [List.getElem?_modify_ne _ _ hother]
    exact htask

/-! ### The loop -/

theorem Supervised.removeNext {st : Supervisor} (h : st.Supervised) (enabled sites : List ℕ) :
    (removeNext enabled st sites).Supervised := by
  induction sites with
  | nil => exact h.withLoop _
  | cons siteId rest ih =>
    rw [Supervisor.removeNext]
    split_ifs
    · exact ih
    · cases hentry : Fields.get st.runtimes siteId with
      | none => exact h.withLoop _
      | some runtime => exact (h.popAndCancel hentry).withLoop _

theorem Supervised.buildNext {st : Supervisor} (h : st.Supervised) (enabled sites : List ℕ) :
    (buildNext enabled st sites).Supervised := by
  induction sites with
  | nil => exact h.removeNext enabled _
  | cons siteId rest ih =>
    rw [Supervisor.buildNext]
    cases Fields.get st.runtimes siteId with
    | none => exact h.withLoop _
    | some runtime =>
      dsimp only
      split_ifs
      · exact ih
      · exact h.withLoop _

theorem Supervised.providerBuilt {st : Supervisor} (h : st.Supervised)
    (hundisturbed : st.Undisturbed .providerBuilt) : st.providerBuilt.Supervised := by
  unfold Supervisor.providerBuilt
  cases hloop : st.loop with
  | waiting => exact h
  | removing awaited rest enabled => exact h
  | building siteId seen rest enabled =>
    obtain ⟨hvacant, hseen⟩ := hundisturbed siteId seen rest enabled hloop
    cases seen with
    | none => exact (h.createRuntime hvacant).buildNext enabled rest
    | some runtime => exact (h.restartRuntime hvacant (hseen runtime rfl)).buildNext enabled rest

/-- **One event.** An undisturbed event keeps the invariant. -/
theorem Supervised.step {st : Supervisor} (h : st.Supervised) {event : SupervisorEvent}
    (hundisturbed : st.Undisturbed event) : (st.step event).Supervised := by
  cases event with
  | startSite siteId =>
    show (st.startSite siteId).Supervised
    unfold Supervisor.startSite
    split_ifs
    · exact h
    · exact h.withStarting _
  | startResumed siteId created =>
    show (st.startResumed siteId created).Supervised
    unfold Supervisor.startResumed
    split_ifs with hstarting hcreated
    · exact (h.withStarting _).createRuntime (hundisturbed hstarting hcreated)
    · exact h.withStarting _
    · exact h
  | stopSite siteId =>
    show (st.stopSite siteId).Supervised
    unfold Supervisor.stopSite
    cases hentry : Fields.get st.runtimes siteId with
    | none => exact h
    | some runtime => exact h.popAndCancel hentry
  | refreshListed enabled =>
    unfold Supervisor.step
    cases st.loop with
    | waiting => exact h.buildNext enabled enabled
    | building siteId seen rest enabled' => exact h
    | removing awaited rest enabled' => exact h
  | providerBuilt => exact h.providerBuilt hundisturbed
  | siteRemoved =>
    unfold Supervisor.step
    cases st.loop with
    | waiting => exact h
    | building siteId seen rest enabled => exact h
    | removing awaited rest enabled =>
      dsimp only
      split_ifs
      · exact h.removeNext enabled rest
      · exact h
  | refreshFailed =>
    unfold Supervisor.step
    cases st.loop with
    | waiting => exact h
    | building siteId seen rest enabled => exact h.withLoop _
    | removing awaited rest enabled =>
      dsimp only
      split_ifs
      · exact h.withLoop _
      · exact h
  | taskFinished task writesBack => exact h.taskFinished task writesBack

/-- **One worker for each site**, after every event of an undisturbed run. -/
theorem oneWorker_of_undisturbed {events : List SupervisorEvent} (h : AllSteps Supervisor.step Undisturbed {} events) :
    AllSteps Supervisor.step (fun st event => (st.step event).OneWorker) {} events :=
  AllSteps.of_invariant
    (fun _ _ hsupervised hundisturbed =>
      ⟨(hsupervised.step hundisturbed).oneWorker, hsupervised.step hundisturbed⟩)
    supervised_empty h

/-! ### Two runs of one site -/

section Demo

/-- The site is stopped while the loop refreshes: the loop starts a second task before the cancelled one has
closed its provider, whose write-back then makes the loop start a third one. -/
def demoStopWhileRefreshing : List SupervisorEvent :=
  [.refreshListed [1], .providerBuilt, .stopSite 1, .refreshListed [1], .providerBuilt,
    .taskFinished 0 true, .refreshListed [1], .providerBuilt]

/-- The second and the third task both run, and neither was cancelled. -/
theorem two_workers : ¬ ∀ events, AllSteps Supervisor.step (fun st event => (st.step event).OneWorker) {} events := by
  intro h
  obtain ⟨-, -, -, -, -, -, -, hlast, -⟩ := h demoStopWhileRefreshing
  have heq := hlast 1 1 2 ⟨{ siteId := 1 }, by decide +kernel, rfl, rfl⟩
    ⟨{ siteId := 1 }, by decide +kernel, rfl, rfl⟩
  omega

/-- The site is started, stopped, and started again by the loop after its task has finished. -/
def demoStopBeforeRefresh : List SupervisorEvent :=
  [.startSite 1, .startResumed 1 true, .stopSite 1, .taskFinished 0 true, .refreshListed [1],
    .providerBuilt]

theorem demo_vacant {st : Supervisor} {siteId : ℕ} (hentry : Fields.get st.runtimes siteId = none)
    (htasks : ∀ k ∈ st.tasks, k.cancelled = true → k.finished = true) : st.Vacant siteId := by
  refine ⟨fun runtime hr => ?_, fun k hk _ => htasks k hk⟩
  rw [hentry] at hr
  exact absurd hr (by simp)

theorem demo_oneWorker :
    AllSteps Supervisor.step (fun st event => (st.step event).OneWorker) {} demoStopBeforeRefresh := by
  refine oneWorker_of_undisturbed ⟨trivial, ?_, trivial, trivial, trivial, ?_, trivial⟩
  · exact fun _ _ => demo_vacant (by decide +kernel) (by decide +kernel)
  · intro siteId seen rest enabled hloop
    have hbuilding : LoopState.building 1 none [] [1] = .building siteId seen rest enabled := hloop
    obtain ⟨rfl, rfl, -, -⟩ := LoopState.building.inj hbuilding
    exact ⟨demo_vacant (by decide +kernel) (by decide +kernel), fun runtime hr => absurd hr (by simp)⟩

end Demo

end EnergyCore.Vehicles.Supervisor
