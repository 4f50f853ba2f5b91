import EnergyCore.Modules.Orchestrator

/-!
# Rules for the calls of the orchestrator

What an invariant has to survive so that a call of the orchestrator keeps it, with all calls nested in it.

* `Survives`, `SurvivesMarks` — what a reevaluation does by itself, and what starting and stopping one module does;
* `keepsRaising_reevaluateDependents`, `keepsRaising_body` — the operations keep what their nested calls keep;
* `keepsRaising_perform` — and so does a call, to any depth.
-/

namespace EnergyCore.Modules.ModuleOrchestrator

open FallibleSteps KeywordFields

/-- The handle of one module is replaced. -/
def setHandle (s : OrchestratorState) (moduleId : String) (handle : ModuleRuntimeHandle) : OrchestratorState :=
  { s with handles := Function.update s.handles moduleId handle }

@[simp] theorem handles_setHandle (s : OrchestratorState) (moduleId : String) (handle : ModuleRuntimeHandle) :
    (setHandle s moduleId handle).handles moduleId = handle := by
  unfold setHandle
  exact Function.update_self moduleId handle s.handles

theorem handles_setHandle_of_ne (s : OrchestratorState) {moduleId other : String} (hne : other ≠ moduleId)
    (handle : ModuleRuntimeHandle) : (setHandle s moduleId handle).handles other = s.handles other := by
  unfold setHandle
  exact Function.update_of_ne hne handle s.handles

/-- What a reevaluation does by itself: it awaits calls, changes the registry, and marks modules as blocked. -/
structure Survives (I : OrchestratorState → Prop) (R : PyException → Prop) : Prop where
  awaits : ∀ s, I s → I { s with asked := s.asked + 1 }
  raises : ∀ s text, I s → R ⟨s.asked, text⟩
  registry : ∀ s capabilities, I s → I { s with capabilities := capabilities }
  blocks : ∀ s moduleId handle, I s → handle.state = .blocked → I (setHandle s moduleId handle)

/-- What starting and stopping one module does besides. -/
structure SurvivesMarks (I : OrchestratorState → Prop) (R : PyException → Prop) (moduleId : String) : Prop
    extends Survives I R where
  marks : ∀ s handle, I s → handle.state ≠ .failed → I (setHandle s moduleId handle)
  fails : ∀ s exc, I s → R exc → I (setHandle s moduleId ⟨.failed, some (.exception exc)⟩)

/-- Where an exception may leave the state; calls nested too deep leave it anywhere. -/
def Raised (I : OrchestratorState → Prop) (R : PyException → Prop) (e : Interrupt) (s : OrchestratorState) : Prop :=
  ∀ exc, e = .raised exc → I s ∧ R exc

/-- The action keeps `I` when it returns and when it raises, and what it raises has `R`. -/
abbrev Carries (I : OrchestratorState → Prop) (R : PyException → Prop) {α : Type} (action : Action α) : Prop :=
  KeepsRaising I (Raised I R) action

theorem raised_of {I : OrchestratorState → Prop} {R : PyException → Prop} {exc : PyException} {s : OrchestratorState}
    (hs : I s) (hexc : R exc) : Raised I R (.raised exc) s := fun _ heq => Interrupt.raised.inj heq ▸ ⟨hs, hexc⟩

theorem Raised.of_ne {I : OrchestratorState → Prop} {R : PyException → Prop} {e : Interrupt} {s : OrchestratorState}
    (h : Raised I R e s) (hne : e ≠ .exhausted) : I s := by
  cases e with
  | raised exc => exact (h exc rfl).1
  | exhausted => exact absurd rfl hne

/-- However the action ends, it leaves a state with `P`. -/
abbrev Leaves {α : Type} (action : Action α) (s : OrchestratorState) (P : OrchestratorState → Prop) : Prop :=
  Ends action s (fun _ => P) fun e s' => e ≠ .exhausted → P s'

theorem leaves_of_carries {I : OrchestratorState → Prop} {R : PyException → Prop} {α : Type} {action : Action α}
    (h : Carries I R action) {s : OrchestratorState} (hs : I s) : Leaves action s I :=
  (h s hs).mono (fun _ _ hs' => hs') fun _ _ hs' => hs'.of_ne

theorem Leaves.mono {α : Type} {action : Action α} {s : OrchestratorState} {P P' : OrchestratorState → Prop}
    (h : Leaves action s P) (hP : ∀ s', P s' → P' s') : Leaves action s P' :=
  Ends.mono h (fun _ s' hs' => hP s' hs') fun _ s' hs' hne => hP s' (hs' hne)

theorem Leaves.and {α : Type} {action : Action α} {s : OrchestratorState} {P P' : OrchestratorState → Prop}
    (h : Leaves action s P) (h' : Leaves action s P') : Leaves action s fun s' => P s' ∧ P' s' :=
  (Ends.and h h').mono (fun _ _ hs' => hs') fun _ _ hs' hne => ⟨hs'.1 hne, hs'.2 hne⟩

variable {o : ModuleOrchestrator} {I : OrchestratorState → Prop} {R : PyException → Prop} {moduleId : String}
  {perform : Call → Action Unit}

/-! ### Steps -/

theorem keepsRaising_ask (h : Survives I R) : Carries I R o.ask := by
  intro s hs
  unfold Ends ask
  cases hraises : (o.answers s.asked).raises with
  | none => exact h.awaits s hs
  | some text => exact raised_of (h.awaits s hs) (h.raises s text hs)

theorem keepsRaising_emitRuntimeState (h : Survives I R) : Carries I R o.emitRuntimeState :=
  keepsRaising_bind (keepsRaising_ask h) fun _ => keepsRaising_pure ()

theorem keepsRaising_lookUpPublisher (h : Survives I R) (descriptor : ModuleDescriptor) :
    Carries I R (o.lookUpPublisher descriptor) :=
  keepsRaising_runIf (keepsRaising_bind (keepsRaising_ask h) fun _ => keepsRaising_pure ())

theorem keepsRaising_unregisterModule (h : Survives I R) : Carries I R (o.unregisterModule moduleId) :=
  keepsRaising_modify fun s hs => h.registry s _ hs

theorem keepsRaising_registerCapabilities (h : Survives I R) : Carries I R (o.registerCapabilities moduleId) := by
  intro s hs
  unfold Ends registerCapabilities
  cases hraises : (o.answers s.asked).raises with
  | none => exact h.registry _ _ (h.awaits s hs)
  | some text => exact raised_of (h.registry _ _ (h.awaits s hs)) (h.raises s text hs)

theorem keepsRaising_mark_blocked (h : Survives I R) (reason : String) :
    Carries I R (mark moduleId (.markBlocked reason)) :=
  keepsRaising_modify fun s hs => h.blocks s moduleId _ hs rfl

theorem keepsRaising_mark (h : SurvivesMarks I R moduleId) {f : ModuleRuntimeHandle → ModuleRuntimeHandle}
    (hf : ∀ handle, (f handle).state ≠ .failed) : Carries I R (mark moduleId f) :=
  keepsRaising_modify fun s hs => h.marks s _ hs (hf _)

theorem keepsRaising_mark_failed (h : SurvivesMarks I R moduleId) {exc : PyException} (hexc : R exc) :
    Carries I R (mark moduleId (.markFailed exc)) :=
  keepsRaising_modify fun s hs => h.fails s exc hs hexc

theorem keepsRaising_exceptException {action : Action Unit} {handler : PyException → Action Unit}
    (h : Carries I R action) (hh : ∀ exc, R exc → Carries I R (handler exc)) :
    Carries I R (exceptException action handler) := by
  intro s hs
  refine ends_tryCatch (h s hs) fun e s' hs' => ?_
  cases e with
  | raised exc =>
    obtain ⟨hs', hexc⟩ := hs' exc rfl
    exact hh exc hexc s' hs'
  | exhausted => exact ends_throw hs'

theorem keepsRaising_finallyDo {action last : Action Unit} (h : Carries I R action)
    (hl : Carries I R last) : Carries I R (finallyDo action last) := by
  intro s hs
  have hfirst := h s hs
  unfold Ends at hfirst
  unfold Ends finallyDo
  cases haction : action s with
  | ok a s' =>
    rw [haction] at hfirst
    exact hl s' hfirst
  | error e s' =>
    rw [haction] at hfirst
    cases e with
    | exhausted => exact hfirst
    | raised exc =>
      obtain ⟨hs', hexc⟩ := hfirst exc rfl
      exact keepsRaising_bind hl (fun _ => keepsRaising_throw fun _ hs'' => raised_of hs'' hexc) s' hs'

/-- Whatever the body leaves when it raises, the handler starts there. -/
theorem leaves_exceptException {action : Action Unit} {handler : PyException → Action Unit} {s : OrchestratorState}
    {P : OrchestratorState → Prop} (P' : OrchestratorState → Prop)
    (h : Ends action s (fun _ => P) fun e s' => e ≠ .exhausted → P' s')
    (hh : ∀ exc s', P' s' → Leaves (handler exc) s' P) : Leaves (exceptException action handler) s P := by
  refine ends_tryCatch h fun e s' hs' => ?_
  cases e with
  | raised exc => exact hh exc s' (hs' fun heq => nomatch heq)
  | exhausted => exact ends_throw fun hne => absurd rfl hne

/-! ### Reevaluation -/

section

variable (h : Survives I R) (hperform : ∀ call, Carries I R (perform call))

include h hperform

theorem keepsRaising_reevaluateOne (changed : String) (tryStart : Bool) (descriptor : ModuleDescriptor) :
    Carries I R (o.reevaluateOne perform changed tryStart descriptor) := by
  unfold reevaluateOne
  refine keepsRaising_ite (fun _ => keepsRaising_pure ()) fun _ => keepsRaising_bind keepsRaising_get fun s => ?_
  refine keepsRaising_ite (fun _ => keepsRaising_runIf (hperform _)) fun _ => ?_
  refine keepsRaising_ite (fun _ => hperform _) fun _ => keepsRaising_runIf ?_
  exact keepsRaising_bind (keepsRaising_mark_blocked h _) fun _ => keepsRaising_emitRuntimeState h

theorem keepsRaising_reevaluateEach (changed : String) (tryStart : Bool) (descriptors : List ModuleDescriptor) :
    Carries I R (o.reevaluateEach perform changed tryStart descriptors) := by
  induction descriptors with
  | nil => exact keepsRaising_pure ()
  | cons descriptor descriptors ih =>
    exact keepsRaising_bind (keepsRaising_reevaluateOne h hperform changed tryStart descriptor) fun _ => ih

/-- A reevaluation keeps what the nested calls keep. -/
theorem keepsRaising_reevaluateDependents (changed : String) (tryStart : Bool) :
    Carries I R (o.reevaluateDependents perform changed tryStart) :=
  keepsRaising_bind (keepsRaising_ask h) fun _ => keepsRaising_reevaluateEach h hperform changed tryStart _

end

/-! ### The two operations -/

section

variable (h : SurvivesMarks I R moduleId) (hperform : ∀ call, Carries I R (perform call))

include h hperform

theorem keepsRaising_startBlocked (result : CanStartResult) :
    Carries I R (o.startBlocked perform moduleId result) := by
  unfold startBlocked
  refine keepsRaising_bind (keepsRaising_mark_blocked h.toSurvives _) fun _ => ?_
  refine keepsRaising_bind (keepsRaising_emitRuntimeState h.toSurvives) fun _ => ?_
  refine keepsRaising_bind (keepsRaising_unregisterModule h.toSurvives) fun _ => ?_
  exact keepsRaising_reevaluateDependents h.toSurvives hperform moduleId false

omit hperform in
theorem keepsRaising_startIsolated : Carries I R (o.startIsolated moduleId) := by
  unfold startIsolated
  refine keepsRaising_bind (keepsRaising_ask h.toSurvives) fun _ => ?_
  refine keepsRaising_bind (keepsRaising_ask h.toSurvives) fun current => keepsRaising_ite (fun _ => ?_) fun _ => ?_
  · refine keepsRaising_bind (keepsRaising_registerCapabilities h.toSurvives) fun _ => ?_
    refine keepsRaising_bind (keepsRaising_mark h fun _ hfailed => nomatch hfailed) fun _ => ?_
    exact keepsRaising_emitRuntimeState h.toSurvives
  · refine keepsRaising_bind (keepsRaising_mark_blocked h.toSurvives _) fun _ => ?_
    exact keepsRaising_emitRuntimeState h.toSurvives

theorem keepsRaising_startInProcess : Carries I R (o.startInProcess perform moduleId) := by
  unfold startInProcess
  refine keepsRaising_exceptException ?_ fun exc hexc => ?_
  · refine keepsRaising_bind (keepsRaising_ask h.toSurvives) fun _ => ?_
    refine keepsRaising_bind (keepsRaising_registerCapabilities h.toSurvives) fun _ => ?_
    refine keepsRaising_bind (keepsRaising_mark h fun _ hfailed => nomatch hfailed) fun _ => ?_
    refine keepsRaising_bind (keepsRaising_emitRuntimeState h.toSurvives) fun _ => ?_
    exact keepsRaising_reevaluateDependents h.toSurvives hperform moduleId true
  · refine keepsRaising_bind (keepsRaising_mark_failed h hexc) fun _ => ?_
    refine keepsRaising_bind (keepsRaising_emitRuntimeState h.toSurvives) fun _ => ?_
    exact keepsRaising_unregisterModule h.toSurvives

theorem keepsRaising_startModule : Carries I R (o.startModule perform moduleId) := by
  unfold startModule
  refine keepsRaising_ite (fun _ => keepsRaising_pure ()) fun _ => ?_
  cases o.resolver.modules.get moduleId with
  | none => exact keepsRaising_pure ()
  | some descriptor =>
    refine keepsRaising_bind keepsRaising_get fun s => keepsRaising_ite (fun _ => keepsRaising_pure ()) fun _ => ?_
    unfold startRequested
    refine keepsRaising_bind (keepsRaising_ask h.toSurvives) fun _ => keepsRaising_ite (fun _ => ?_) fun _ => ?_
    · refine keepsRaising_bind (keepsRaising_mark h fun _ hfailed => nomatch hfailed) fun _ => ?_
      exact keepsRaising_emitRuntimeState h.toSurvives
    · refine keepsRaising_bind keepsRaising_get fun s => keepsRaising_ite (fun _ => ?_) fun _ => ?_
      · exact keepsRaising_startBlocked h hperform _
      · unfold startPermitted
        refine keepsRaising_bind (keepsRaising_mark h fun _ hfailed => nomatch hfailed) fun _ => ?_
        refine keepsRaising_bind (keepsRaising_emitRuntimeState h.toSurvives) fun _ => ?_
        refine keepsRaising_bind (keepsRaising_lookUpPublisher h.toSurvives descriptor) fun _ => ?_
        exact keepsRaising_ite (fun _ => keepsRaising_startIsolated h) fun _ => keepsRaising_startInProcess h hperform

theorem keepsRaising_stopInProcess : Carries I R (o.stopInProcess perform moduleId) := by
  unfold stopInProcess
  refine keepsRaising_finallyDo (keepsRaising_exceptException ?_ fun exc hexc => ?_) ?_
  · exact keepsRaising_bind (keepsRaising_ask h.toSurvives) fun _ => keepsRaising_pure ()
  · exact keepsRaising_bind (keepsRaising_mark_failed h hexc) fun _ => keepsRaising_emitRuntimeState h.toSurvives
  · refine keepsRaising_bind (keepsRaising_unregisterModule h.toSurvives) fun _ => ?_
    refine keepsRaising_bind (keepsRaising_mark h fun _ hfailed => nomatch hfailed) fun _ => ?_
    refine keepsRaising_bind (keepsRaising_emitRuntimeState h.toSurvives) fun _ => ?_
    exact keepsRaising_reevaluateDependents h.toSurvives hperform moduleId false

theorem keepsRaising_stopModule : Carries I R (o.stopModule perform moduleId) := by
  unfold stopModule
  refine keepsRaising_bind keepsRaising_get fun s => keepsRaising_ite (fun _ => keepsRaising_pure ()) fun _ => ?_
  unfold stopRequested
  refine keepsRaising_bind (keepsRaising_mark h fun _ hfailed => nomatch hfailed) fun _ => ?_
  refine keepsRaising_bind (keepsRaising_emitRuntimeState h.toSurvives) fun _ => ?_
  cases o.resolver.modules.get moduleId with
  | none => exact keepsRaising_stopInProcess h hperform
  | some descriptor =>
    refine keepsRaising_bind (keepsRaising_lookUpPublisher h.toSurvives descriptor) fun _ => ?_
    refine keepsRaising_ite (fun _ => ?_) fun _ => keepsRaising_stopInProcess h hperform
    unfold stopIsolated
    refine keepsRaising_bind (keepsRaising_ask h.toSurvives) fun _ => ?_
    refine keepsRaising_bind (keepsRaising_unregisterModule h.toSurvives) fun _ => ?_
    refine keepsRaising_bind (keepsRaising_mark h fun _ hfailed => nomatch hfailed) fun _ => ?_
    exact keepsRaising_emitRuntimeState h.toSurvives

end

/-- The operations keep what their nested calls keep. -/
theorem keepsRaising_body {call : Call} (h : SurvivesMarks I R call.moduleId)
    (hperform : ∀ call, Carries I R (perform call)) : Carries I R (o.body perform call) := by
  cases call with
  | start moduleId => exact keepsRaising_startModule h hperform
  | stop moduleId => exact keepsRaising_stopModule h hperform

/-! ### Calls -/

theorem ends_recordVisit {call : Call} {action : Action Unit} {s : OrchestratorState}
    {Q : Unit → OrchestratorState → Prop} {E : Interrupt → OrchestratorState → Prop}
    (h : Ends action s (fun a s' => Q a (logged call s s')) fun e s' => e ≠ .exhausted → E e (logged call s s'))
    (hexhausted : ∀ s', E .exhausted s') : Ends (recordVisit call action) s Q E := by
  unfold Ends at h
  unfold Ends recordVisit
  cases haction : action s with
  | ok a s' =>
    rw [haction] at h
    exact h
  | error e s' =>
    rw [haction] at h
    cases e with
    | exhausted => exact hexhausted s'
    | raised exc => exact h fun heq => nomatch heq

/-- What the action leaves, the call leaves once it is logged. -/
theorem leaves_recordVisit {call : Call} {action : Action Unit} {s : OrchestratorState} {P : OrchestratorState → Prop}
    (h : Leaves action s fun s' => P (logged call s s')) : Leaves (recordVisit call action) s P :=
  ends_recordVisit (Ends.mono h (fun _ _ hs' => hs') fun _ _ hs' hne _ => hs' hne) fun _ hne => absurd rfl hne

theorem carries_of_leaves {I : OrchestratorState → Prop} {α : Type} {action : Action α}
    (h : ∀ s, I s → Leaves action s I) : Carries I (fun _ => True) action :=
  fun s hs => Ends.mono (h s hs) (fun _ _ hs' => hs') fun _ _ hs' _ heq => ⟨hs' (heq ▸ fun hne => nomatch hne), trivial⟩

/-- **A call keeps**, with all calls nested in it, what survives the two operations and does not depend on the log. -/
theorem keepsRaising_perform (h : ∀ moduleId, SurvivesMarks I R moduleId)
    (hlog : ∀ s visits, I s → I { s with visits := visits }) (fuel : ℕ) (call : Call) :
    Carries I R (o.perform fuel call) := by
  induction fuel generalizing call with
  | zero => exact keepsRaising_throw fun _ _ exc heq => nomatch heq
  | succ fuel ih =>
    intro s hs
    refine ends_recordVisit ((keepsRaising_body (h call.moduleId) ih s hs).mono (fun _ s' hs' => hlog s' _ hs') ?_)
      fun s' exc heq => nomatch heq
    exact fun e s' hs' _ exc heq => ⟨hlog s' _ (hs' exc heq).1, (hs' exc heq).2⟩

end EnergyCore.Modules.ModuleOrchestrator
