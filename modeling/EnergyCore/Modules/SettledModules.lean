import EnergyCore.Modules.CallRules

/-!
# Modules that are left in transition

A call that ends should leave its module in a state from which it can go on, and should not hide that the handler of
the module failed to stop.

* `Settled`, `Smooth` — how a call should end, and when what it awaits lets it;
* `ends_body_of_not_smooth` — a call that is not smooth leaves its module unsettled;
* `soundFor_body` — a smooth call settles its module if the calls nested in it do;
* `settled_iff_smooth` — of any call and all calls nested in it, every one settles its module exactly if every one is
  smooth.
-/

namespace EnergyCore.Modules.ModuleOrchestrator

open FallibleSteps KeywordFields

/-! ### How a call should end -/

/-- The module is in one of the states that a start or a stop passes through. -/
def InTransition (s : Snapshot) (moduleId : String) : Prop :=
  s.status moduleId = .starting ∨ s.status moduleId = .stopping

/-- The call with the number `n` raises. -/
def Raises (o : ModuleOrchestrator) (n : ℕ) : Prop := (o.answers n).raises ≠ none

/-- The calls that are awaited for the publisher of a module. -/
def publisherCalls (descriptor : ModuleDescriptor) : ℕ := if hasPublisher descriptor = true then 1 else 0

def stopPublisherCalls (o : ModuleOrchestrator) (moduleId : String) : ℕ :=
  (o.resolver.modules.get moduleId).elim 0 publisherCalls

/-- A stop that begins in `s` awaits `handler.stop`, which raises `exc`. -/
structure HandlerStopRaised (o : ModuleOrchestrator) (s : Snapshot) (moduleId : String) (exc : PyException) : Prop where
  requested : s.status moduleId ≠ .stopped ∧ s.status moduleId ≠ .stopping
  reached : ∀ i < 1 + o.stopPublisherCalls moduleId, ¬ o.Raises (s.asked + i)
  inProcess : (o.resolver.modules.get moduleId).any requiresIsolatedRuntime = false
  raisedBy : exc.raisedBy = s.asked + (1 + o.stopPublisherCalls moduleId)
  raises : (o.answers exc.raisedBy).raises = some exc.text

/-- After the call, its module is not in transition, and if its handler failed to stop, it has failed with this
error. -/
structure Settled (o : ModuleOrchestrator) (v : Visit) : Prop where
  leaves : ¬ InTransition v.after v.call.moduleId
  visible : ∀ exc, v.call = .stop v.call.moduleId → HandlerStopRaised o v.before v.call.moduleId exc →
    v.after.handles v.call.moduleId = ⟨.failed, some (.exception exc)⟩

/-! ### When nothing comes in between -/

/-- From the call number `n` on, nothing raises while the module is `STARTING`: the announcement, the look-up of the
publisher, and for an isolated module its adapter, the list of runtimes, and the registration. -/
def StartWindow (o : ModuleOrchestrator) (n : ℕ) (descriptor : ModuleDescriptor) : Prop :=
  (∀ i < 1 + publisherCalls descriptor, ¬ o.Raises (n + i)) ∧
    (requiresIsolatedRuntime descriptor = true →
      ¬ o.Raises (n + (1 + publisherCalls descriptor)) ∧ ¬ o.Raises (n + (1 + publisherCalls descriptor) + 1) ∧
        ((o.answers (n + (1 + publisherCalls descriptor) + 1)).running = true →
          ¬ o.Raises (n + (1 + publisherCalls descriptor) + 1 + 1)))

/-- A start finds its module in a state that it may leave alone, or comes through. -/
def StartsSmoothly (o : ModuleOrchestrator) (s : Snapshot) (moduleId : String) : Prop :=
  if o.resolver.settings.moduleGateEnabled = false then ¬ InTransition s moduleId
  else
    match o.resolver.modules.get moduleId with
    | none => ¬ InTransition s moduleId
    | some descriptor =>
      s.status moduleId = .running ∨ s.status moduleId ≠ .starting ∧
        (o.Raises s.asked → s.status moduleId ≠ .stopping) ∧
        (¬ o.Raises s.asked → (Fields.get o.enabledMap moduleId).any id = true →
          (o.canStart s moduleId).canStart = true → o.StartWindow (s.asked + 1) descriptor)

/-- A stop finds its module stopped, or nothing raises while it is `STOPPING`: the announcement, the look-up of the
publisher, and the handler or the adapter. -/
def StopsSmoothly (o : ModuleOrchestrator) (s : Snapshot) (moduleId : String) : Prop :=
  s.status moduleId = .stopped ∨
    s.status moduleId ≠ .stopping ∧ ∀ i < 1 + o.stopPublisherCalls moduleId + 1, ¬ o.Raises (s.asked + i)

def Smooth (o : ModuleOrchestrator) (s : Snapshot) : Call → Prop
  | .start moduleId => o.StartsSmoothly s moduleId
  | .stop moduleId => o.StopsSmoothly s moduleId

/-! ### Awaiting -/

section

variable {o : ModuleOrchestrator} {s : OrchestratorState} {moduleId : String} {α : Type}
  {Q : α → OrchestratorState → Prop} {E : Interrupt → OrchestratorState → Prop}

theorem ends_ask_bind {f : Answer → Action α}
    (hok : ¬ o.Raises s.asked → Ends (f (o.answers s.asked)) { s with asked := s.asked + 1 } Q E)
    (hraise : ∀ text, (o.answers s.asked).raises = some text →
      E (.raised ⟨s.asked, text⟩) { s with asked := s.asked + 1 }) : Ends (o.ask >>= f) s Q E := by
  cases hraises : (o.answers s.asked).raises with
  | none =>
    have hrun : o.ask s = .ok (o.answers s.asked) { s with asked := s.asked + 1 } := by
      unfold ask
      rw [hraises]
    exact ends_bind_of_ok hrun (hok fun h => h hraises)
  | some text =>
    have hrun : o.ask s = .error (.raised ⟨s.asked, text⟩) { s with asked := s.asked + 1 } := by
      unfold ask
      rw [hraises]
    exact ends_bind_of_error hrun (hraise text hraises)

theorem ends_emitRuntimeState_bind {f : Unit → Action α}
    (hok : ¬ o.Raises s.asked → Ends (f ()) { s with asked := s.asked + 1 } Q E)
    (hraise : ∀ text, (o.answers s.asked).raises = some text →
      E (.raised ⟨s.asked, text⟩) { s with asked := s.asked + 1 }) : Ends (o.emitRuntimeState >>= f) s Q E := by
  unfold emitRuntimeState
  rw [bind_assoc]
  exact ends_ask_bind hok hraise

/-- The look-up of the publisher awaits as many calls as are counted for it. -/
theorem ends_lookUpPublisher_bind {descriptor : ModuleDescriptor} {f : Unit → Action α}
    (hok : (∀ i < publisherCalls descriptor, ¬ o.Raises (s.asked + i)) →
      Ends (f ()) { s with asked := s.asked + publisherCalls descriptor } Q E)
    (hraise : publisherCalls descriptor = 1 → ∀ text, (o.answers s.asked).raises = some text →
      E (.raised ⟨s.asked, text⟩) { s with asked := s.asked + 1 }) :
    Ends (o.lookUpPublisher descriptor >>= f) s Q E := by
  unfold lookUpPublisher runIf
  by_cases hpublisher : hasPublisher descriptor = true
  · have hcalls : publisherCalls descriptor = 1 := if_pos hpublisher
    rw [hcalls] at hok
    rw [if_pos hpublisher, bind_assoc]
    refine ends_ask_bind (fun hquiet => hok fun i hi => ?_) (hraise hcalls)
    rw [Nat.lt_one_iff.mp hi]
    exact hquiet
  · have hcalls : publisherCalls descriptor = 0 := if_neg hpublisher
    rw [hcalls] at hok
    rw [if_neg hpublisher]
    exact hok fun i hi => absurd hi (Nat.not_lt_zero i)

theorem ends_registerCapabilities_bind {f : Unit → Action α}
    (hok : ¬ o.Raises s.asked → ∀ capabilities,
      Ends (f ()) { s with asked := s.asked + 1, capabilities := capabilities } Q E)
    (hraise : ∀ text capabilities, (o.answers s.asked).raises = some text →
      E (.raised ⟨s.asked, text⟩) { s with asked := s.asked + 1, capabilities := capabilities }) :
    Ends (o.registerCapabilities moduleId >>= f) s Q E := by
  cases hraises : (o.answers s.asked).raises with
  | none =>
    obtain ⟨capabilities, hrun⟩ : ∃ capabilities, o.registerCapabilities moduleId s =
        .ok () { s with asked := s.asked + 1, capabilities := capabilities } := by
      unfold registerCapabilities
      dsimp only
      rw [hraises]
      exact ⟨_, rfl⟩
    exact ends_bind_of_ok hrun (hok (fun h => h hraises) capabilities)
  | some text =>
    obtain ⟨capabilities, hrun⟩ : ∃ capabilities, o.registerCapabilities moduleId s =
        .error (.raised ⟨s.asked, text⟩) { s with asked := s.asked + 1, capabilities := capabilities } := by
      unfold registerCapabilities
      dsimp only
      rw [hraises]
      exact ⟨_, rfl⟩
    exact ends_bind_of_error hrun (hraise text capabilities hraises)

theorem ends_mark_bind {g : ModuleRuntimeHandle → ModuleRuntimeHandle} {f : Unit → Action α}
    (h : Ends (f ()) (setHandle s moduleId (g (s.handles moduleId))) Q E) : Ends (mark moduleId g >>= f) s Q E :=
  ends_bind_of_ok rfl h

end

theorem status_setHandle (s : OrchestratorState) (moduleId : String) (handle : ModuleRuntimeHandle) :
    (setHandle s moduleId handle).status moduleId = handle.state := by
  unfold Snapshot.status
  rw [handles_setHandle]

/-! ### A call that is not smooth -/

section

variable {o : ModuleOrchestrator} {perform : Call → Action Unit} {s : OrchestratorState} {moduleId : String}

theorem ends_startIsolated_of_window (htransition : InTransition s.toSnapshot moduleId)
    (hwindow : ¬ (¬ o.Raises s.asked ∧ ¬ o.Raises (s.asked + 1) ∧
      ((o.answers (s.asked + 1)).running = true → ¬ o.Raises (s.asked + 1 + 1)))) :
    Leaves (o.startIsolated moduleId) s fun s' => InTransition s'.toSnapshot moduleId := by
  unfold startIsolated
  refine ends_ask_bind (fun hfirst => ends_ask_bind (fun hsecond => ?_) fun text _ => ?_) fun text _ => ?_
  · refine ends_ite (fun hrunning => ?_) fun hrunning => ?_
    · have hthird : o.Raises (s.asked + 1 + 1) := by
        by_contra hquiet
        exact hwindow ⟨hfirst, hsecond, fun _ => hquiet⟩
      exact ends_registerCapabilities_bind (fun hquiet => absurd hthird hquiet) fun _ _ _ _ => htransition
    · exact absurd ⟨hfirst, hsecond, fun h => absurd h hrunning⟩ hwindow
  · exact fun _ => htransition
  · exact fun _ => htransition

theorem ends_startPermitted_of_window {descriptor : ModuleDescriptor} (hwindow : ¬ o.StartWindow s.asked descriptor) :
    Leaves (o.startPermitted perform moduleId descriptor) s fun s' => InTransition s'.toSnapshot moduleId := by
  have hstarting : InTransition (setHandle s moduleId (s.handles moduleId).markStarting).toSnapshot moduleId :=
    .inl (status_setHandle s moduleId _)
  unfold startPermitted
  refine ends_mark_bind (ends_emitRuntimeState_bind (fun hfirst => ?_) fun _ _ _ => hstarting)
  refine ends_lookUpPublisher_bind (fun hpublisher => ?_) fun _ _ _ _ => hstarting
  have hquiet : ∀ i < 1 + publisherCalls descriptor, ¬ o.Raises (s.asked + i) := by
    intro i hi
    cases i with
    | zero => exact hfirst
    | succ i =>
      have hlater := hpublisher i (by omega)
      rw [show s.asked + (i + 1) = s.asked + 1 + i by omega]
      exact hlater
  refine ends_ite (fun hisolated => ?_) fun hisolated => ?_
  · refine ends_startIsolated_of_window hstarting fun hrest => hwindow ⟨hquiet, fun _ => ?_⟩
    rw [← Nat.add_assoc]
    exact hrest
  · exact absurd ⟨hquiet, fun h => absurd h hisolated⟩ hwindow

/-- A start that is not smooth leaves its module in transition. -/
theorem ends_startModule_of_not_smooth (h : ¬ o.StartsSmoothly s.toSnapshot moduleId) :
    Leaves (o.startModule perform moduleId) s fun s' => InTransition s'.toSnapshot moduleId := by
  unfold StartsSmoothly at h
  unfold startModule
  by_cases hgate : o.resolver.settings.moduleGateEnabled = false
  · rw [if_pos hgate] at h ⊢
    exact not_not.mp h
  rw [if_neg hgate] at h ⊢
  cases hget : o.resolver.modules.get moduleId with
  | none =>
    rw [hget] at h
    exact not_not.mp h
  | some descriptor =>
    rw [hget] at h
    have hrunning : s.status moduleId ≠ .running := fun hrunning => h (.inl hrunning)
    refine ends_bind (Q := fun a s' => a = s ∧ s' = s) (ends_get ⟨rfl, rfl⟩) fun a s' heq => ?_
    obtain ⟨rfl, rfl⟩ := heq
    refine ends_ite (fun hleaves => hleaves.elim (fun hr => absurd hr hrunning) fun hstarting => .inl hstarting) ?_
    intro hproceeds
    have hstarting : s'.status moduleId ≠ .starting := fun hstarting => hproceeds (.inr hstarting)
    unfold startRequested
    refine ends_ask_bind (fun hquiet => ?_) fun text htext => ?_
    · have hrest : ¬ ((Fields.get o.enabledMap moduleId).any id = true →
          (o.canStart s'.toSnapshot moduleId).canStart = true → o.StartWindow (s'.asked + 1) descriptor) :=
        fun hrest => h (.inr ⟨hstarting, fun hraises => absurd hraises hquiet, fun _ => hrest⟩)
      push Not at hrest
      obtain ⟨henabled, hcan, hwindow⟩ := hrest
      refine ends_ite (fun hdisabled => ?_) fun _ => ?_
      · rw [henabled] at hdisabled
        cases hdisabled
      · refine ends_bind_of_ok rfl (ends_ite (fun hcannot => ?_) fun _ => ?_)
        · have hsame : (o.canStart s'.toSnapshot moduleId).canStart = false := hcannot
          rw [hcan] at hsame
          cases hsame
        · exact ends_startPermitted_of_window hwindow
    · have hraises : o.Raises s'.asked := fun hnone => by
        rw [htext] at hnone
        cases hnone
      intro _
      by_contra hnot
      refine h (.inr ⟨hstarting, fun _ hstopping => hnot (.inr hstopping), fun hquiet => absurd hraises hquiet⟩)

/-- The error with the number `n` is not the one that the module has failed with, and all later ones are others. -/
structure Past (n : ℕ) (moduleId : String) (s : OrchestratorState) : Prop where
  asked : n < s.asked
  gone : ∀ exc, s.handles moduleId = ⟨.failed, some (.exception exc)⟩ → n < exc.raisedBy

/-- An exception that a later call than `n` raised. -/
def Later (n : ℕ) (exc : PyException) : Prop := n < exc.raisedBy

theorem survivesMarks_past (n : ℕ) (failing changed : String) : SurvivesMarks (Past n failing) (Later n) changed := by
  have hset : ∀ s handle moduleId, Past n failing s →
      (∀ exc, handle = ⟨.failed, some (.exception exc)⟩ → n < exc.raisedBy) →
      Past n failing (setHandle s moduleId handle) := by
    intro s handle moduleId hs hhandle
    refine ⟨hs.asked, fun exc hexc => ?_⟩
    by_cases hsame : failing = moduleId
    · subst hsame
      rw [handles_setHandle] at hexc
      exact hhandle exc hexc
    · rw [handles_setHandle_of_ne s hsame] at hexc
      exact hs.gone exc hexc
  refine ⟨⟨fun s hs => ⟨Nat.lt_succ_of_lt hs.asked, hs.gone⟩, fun s _ hs => hs.asked,
    fun s _ hs => ⟨hs.asked, hs.gone⟩, ?_⟩, ?_, ?_⟩
  · intro s moduleId handle hs hblocked
    refine hset s handle moduleId hs fun exc hexc => ?_
    rw [hexc] at hblocked
    cases hblocked
  · intro s handle hs hstate
    refine hset s handle changed hs fun exc hexc => ?_
    rw [hexc] at hstate
    exact absurd rfl hstate
  · intro s exc hs hlater
    refine hset s _ changed hs fun exc' hexc => ?_
    have hsame : exc = exc' := LastError.exception.inj (Option.some.inj (congrArg ModuleRuntimeHandle.lastError hexc))
    rw [← hsame]
    exact hlater

/-- What a failed `handler.stop` leaves behind is not its error: the module is marked as stopped. -/
theorem ends_stopInProcess_of_raises {text : String}
    (hperform : ∀ n call, Carries (Past n moduleId) (Later n) (perform call))
    (hraises : (o.answers s.asked).raises = some text) :
    Leaves (o.stopInProcess perform moduleId) s (Past s.asked moduleId) := by
  have hsurvives := survivesMarks_past s.asked moduleId moduleId
  have hlast : ∀ s' : OrchestratorState, s.asked < s'.asked →
      Leaves (o.unregisterModule moduleId >>= fun _ => mark moduleId .markStopped >>= fun _ =>
        o.emitRuntimeState >>= fun _ => o.reevaluateDependents perform moduleId false) s' (Past s.asked moduleId) := by
    intro s' hlt
    refine ends_bind_of_ok rfl (ends_mark_bind ?_)
    refine leaves_of_carries (keepsRaising_bind (keepsRaising_emitRuntimeState hsurvives.toSurvives)
      fun _ => keepsRaising_reevaluateDependents hsurvives.toSurvives (hperform s.asked) moduleId false) ?_
    refine ⟨hlt, fun exc hexc => ?_⟩
    rw [handles_setHandle] at hexc
    cases congrArg ModuleRuntimeHandle.state hexc
  have hbody : Ends (exceptException (o.ask >>= fun _ => pure ()) fun exc => do
        mark moduleId (.markFailed exc)
        o.emitRuntimeState) s (fun _ s' => s.asked < s'.asked)
      fun e s' => s.asked < s'.asked ∧ e ≠ .exhausted := by
    have hasked : Ends (o.ask >>= fun _ => pure ()) s (fun _ _ => False)
        fun e s' => s.asked < s'.asked ∧ e ≠ .exhausted := by
      refine ends_ask_bind (fun hquiet => absurd ?_ hquiet) fun text' _ => ⟨Nat.lt_succ_self _, fun h => nomatch h⟩
      exact fun hnone => nomatch hnone.symm.trans hraises
    refine ends_tryCatch (hasked.mono (fun _ _ h => h.elim) fun _ _ h => h) fun e s' hs' => ?_
    cases e with
    | exhausted => exact absurd rfl hs'.2
    | raised exc =>
      refine ends_mark_bind (ends_ask_bind (fun _ => ends_pure ?_) fun text' _ => ⟨?_, fun h => nomatch h⟩)
      · exact Nat.lt_succ_of_lt hs'.1
      · exact Nat.lt_succ_of_lt hs'.1
  unfold stopInProcess
  unfold Ends at hbody
  unfold Leaves Ends finallyDo
  cases hrun : exceptException (o.ask >>= fun _ => pure ()) (fun exc => do
        mark moduleId (.markFailed exc)
        o.emitRuntimeState) s with
  | ok a s' =>
    rw [hrun] at hbody
    exact hlast s' hbody
  | error e s' =>
    rw [hrun] at hbody
    cases e with
    | exhausted => exact absurd rfl hbody.2
    | raised exc =>
      exact ends_bind (hlast s' hbody.1) fun _ s'' hs'' => ends_throw fun _ => hs''

theorem not_settled_of_inTransition {call : Call} {before after : Snapshot} (h : InTransition after call.moduleId) :
    ¬ o.Settled ⟨call, before, after⟩ := fun hsettled => hsettled.leaves h

theorem not_settled_of_past {before : Snapshot} {text : String} {s' : OrchestratorState}
    (hrequested : before.status moduleId ≠ .stopped ∧ before.status moduleId ≠ .stopping)
    (hreached : ∀ i < 1 + o.stopPublisherCalls moduleId, ¬ o.Raises (before.asked + i))
    (hin : (o.resolver.modules.get moduleId).any requiresIsolatedRuntime = false)
    (htext : (o.answers (before.asked + (1 + o.stopPublisherCalls moduleId))).raises = some text)
    (hpast : Past (before.asked + (1 + o.stopPublisherCalls moduleId)) moduleId s') :
    ¬ o.Settled ⟨.stop moduleId, before, s'.toSnapshot⟩ := by
  intro hsettled
  have hraised : o.HandlerStopRaised before moduleId ⟨before.asked + (1 + o.stopPublisherCalls moduleId), text⟩ :=
    ⟨hrequested, hreached, hin, rfl, htext⟩
  exact absurd (hpast.gone _ (hsettled.visible _ rfl hraised)) (lt_irrefl _)

/-- A stop that is not smooth leaves its module in transition, or hides that its handler has failed. -/
theorem ends_stopModule_of_not_smooth (hperform : ∀ n call, Carries (Past n moduleId) (Later n) (perform call))
    (h : ¬ o.StopsSmoothly s.toSnapshot moduleId) : Leaves (o.stopModule perform moduleId) s
      fun s' => ¬ o.Settled ⟨.stop moduleId, s.toSnapshot, s'.toSnapshot⟩ := by
  unfold stopModule
  refine ends_bind_of_ok rfl (ends_ite (fun hleaves => ?_) fun hproceeds => ?_)
  · rcases hleaves with hstopped | hstopping
    · exact absurd (.inl hstopped) h
    · exact ends_pure (not_settled_of_inTransition (.inr hstopping))
  have hrequested : s.status moduleId ≠ .stopped ∧ s.status moduleId ≠ .stopping := not_or.mp hproceeds
  have hstopping : InTransition (setHandle s moduleId (s.handles moduleId).markStopping).toSnapshot moduleId :=
    .inr (status_setHandle s moduleId _)
  unfold stopRequested
  refine ends_mark_bind (ends_emitRuntimeState_bind (fun hfirst => ?_) fun _ _ _ =>
    not_settled_of_inTransition hstopping)
  -- The handler or the adapter is awaited next, and it is the one that raises.
  have hlast : ∀ pub, o.stopPublisherCalls moduleId = pub → (∀ i < pub, ¬ o.Raises (s.asked + 1 + i)) →
      (∀ i < 1 + pub, ¬ o.Raises (s.asked + i)) ∧ o.Raises (s.asked + (1 + pub)) := by
    intro pub hpub hpublisher
    have hreached : ∀ i < 1 + pub, ¬ o.Raises (s.asked + i) := by
      intro i hi
      cases i with
      | zero => exact hfirst
      | succ i =>
        rw [show s.asked + (i + 1) = s.asked + 1 + i by omega]
        exact hpublisher i (by omega)
    refine ⟨hreached, ?_⟩
    by_contra hquiet
    refine h (.inr ⟨hrequested.2, fun i hi => ?_⟩)
    rw [hpub] at hi
    rcases Nat.lt_succ_iff_lt_or_eq.mp hi with hlt | heq
    · exact hreached i hlt
    · rw [heq]
      exact hquiet
  cases hget : o.resolver.modules.get moduleId with
  | none =>
    have hpub : o.stopPublisherCalls moduleId = 0 := by
      unfold stopPublisherCalls
      rw [hget]
      rfl
    obtain ⟨hreached, hraises⟩ := hlast 0 hpub fun i hi => absurd hi (Nat.not_lt_zero i)
    obtain ⟨text, htext⟩ := Option.ne_none_iff_exists'.mp hraises
    have hin : (o.resolver.modules.get moduleId).any requiresIsolatedRuntime = false := by rw [hget]; rfl
    rw [← hpub] at hreached htext
    have hend : ∀ s', Past (s.asked + (1 + o.stopPublisherCalls moduleId)) moduleId s' →
        ¬ o.Settled ⟨.stop moduleId, s.toSnapshot, s'.toSnapshot⟩ :=
      fun s' => not_settled_of_past hrequested hreached hin htext
    rw [hpub] at hend htext
    exact (ends_stopInProcess_of_raises hperform htext).mono hend
  | some descriptor =>
    have hpub : o.stopPublisherCalls moduleId = publisherCalls descriptor := by
      unfold stopPublisherCalls
      rw [hget]
      rfl
    refine ends_lookUpPublisher_bind (fun hpublisher => ?_) fun _ _ _ _ => not_settled_of_inTransition hstopping
    obtain ⟨hreached, hraises⟩ := hlast _ hpub hpublisher
    obtain ⟨text, htext⟩ := Option.ne_none_iff_exists'.mp hraises
    refine ends_ite (fun hisolated => ?_) fun hisolated => ?_
    · unfold stopIsolated
      rw [← Nat.add_assoc] at htext
      exact ends_ask_bind (fun hquiet => absurd (fun hnone => nomatch hnone.symm.trans htext) hquiet)
        fun _ _ _ => not_settled_of_inTransition hstopping
    · have hin : (o.resolver.modules.get moduleId).any requiresIsolatedRuntime = false := by
        rw [hget]
        exact Bool.eq_false_iff.mpr hisolated
      rw [← hpub] at hreached htext
      have hend : ∀ s', Past (s.asked + (1 + o.stopPublisherCalls moduleId)) moduleId s' →
          ¬ o.Settled ⟨.stop moduleId, s.toSnapshot, s'.toSnapshot⟩ :=
        fun s' => not_settled_of_past hrequested hreached hin htext
      rw [hpub, ← Nat.add_assoc] at hend htext
      exact (ends_stopInProcess_of_raises hperform htext).mono hend

/-- **A call that is not smooth** leaves its module unsettled. -/
theorem ends_body_of_not_smooth {call : Call}
    (hperform : ∀ n call', Carries (Past n call.moduleId) (Later n) (perform call'))
    (h : ¬ o.Smooth s.toSnapshot call) :
    Leaves (o.body perform call) s fun s' => ¬ o.Settled ⟨call, s.toSnapshot, s'.toSnapshot⟩ := by
  cases call with
  | start moduleId =>
    exact (ends_startModule_of_not_smooth h).mono fun _ hs' => not_settled_of_inTransition hs'
  | stop moduleId => exact ends_stopModule_of_not_smooth hperform h

end

/-! ### A call that is smooth -/

/-- If all calls of the log were smooth, they have settled their modules. -/
def AllSettled (o : ModuleOrchestrator) (s : OrchestratorState) : Prop :=
  (∀ v ∈ s.visits, o.Smooth v.before v.call) → ∀ v ∈ s.visits, o.Settled v

/-- If all calls of the log were smooth, they have settled their modules, and this module is not in transition. -/
def SoundFor (o : ModuleOrchestrator) (moduleId : String) (s : OrchestratorState) : Prop :=
  (∀ v ∈ s.visits, o.Smooth v.before v.call) →
    (∀ v ∈ s.visits, o.Settled v) ∧ ¬ InTransition s.toSnapshot moduleId

section

variable {o : ModuleOrchestrator} {perform : Call → Action Unit} {s : OrchestratorState} {moduleId : String}

theorem SoundFor.allSettled (h : o.SoundFor moduleId s) : o.AllSettled s := fun hsmooth => (h hsmooth).1

theorem AllSettled.soundFor (h : o.AllSettled s) (hleaves : ¬ InTransition s.toSnapshot moduleId) :
    o.SoundFor moduleId s := fun hsmooth => ⟨h hsmooth, hleaves⟩

theorem AllSettled.soundFor_setHandle (h : o.AllSettled s) {handle : ModuleRuntimeHandle}
    (hstarting : handle.state ≠ .starting) (hstopping : handle.state ≠ .stopping) :
    o.SoundFor moduleId (setHandle s moduleId handle) := by
  refine AllSettled.soundFor h fun htransition => ?_
  unfold InTransition at htransition
  rw [status_setHandle] at htransition
  exact htransition.elim hstarting hstopping

theorem survivesMarks_allSettled (o : ModuleOrchestrator) (moduleId : String) :
    SurvivesMarks o.AllSettled (fun _ => True) moduleId :=
  ⟨⟨fun _ h => h, fun _ _ _ => trivial, fun _ _ h => h, fun _ _ _ h _ => h⟩, fun _ _ h _ => h, fun _ _ h _ => h⟩

theorem survives_soundFor (o : ModuleOrchestrator) (moduleId : String) :
    Survives (o.SoundFor moduleId) fun _ => True := by
  refine ⟨fun s h => h, fun _ _ _ => trivial, fun s _ h => h, fun s changed handle h hblocked => ?_⟩
  by_cases hsame : moduleId = changed
  · subst hsame
    refine h.allSettled.soundFor_setHandle ?_ ?_
    · rw [hblocked]
      exact fun heq => nomatch heq
    · rw [hblocked]
      exact fun heq => nomatch heq
  · intro hsmooth
    refine ⟨(h hsmooth).1, fun htransition => (h hsmooth).2 ?_⟩
    unfold InTransition Snapshot.status at htransition ⊢
    rw [handles_setHandle_of_ne s hsame] at htransition
    exact htransition

theorem survivesMarks_soundFor (o : ModuleOrchestrator) {moduleId changed : String} (hne : moduleId ≠ changed) :
    SurvivesMarks (o.SoundFor moduleId) (fun _ => True) changed := by
  have hset : ∀ s handle, o.SoundFor moduleId s → o.SoundFor moduleId (setHandle s changed handle) := by
    intro s handle h hsmooth
    refine ⟨(h hsmooth).1, fun htransition => (h hsmooth).2 ?_⟩
    unfold InTransition Snapshot.status at htransition ⊢
    rw [handles_setHandle_of_ne s hne] at htransition
    exact htransition
  exact ⟨survives_soundFor o moduleId, fun s handle h _ => hset s handle h, fun s exc h _ => hset s _ h⟩

variable (hperform : ∀ call, Carries (o.SoundFor moduleId) (fun _ => True) (perform call))

omit hperform in
/-- A module that is marked with a state to stay in, and then only announced, is settled. -/
theorem ends_mark_emit {f : ModuleRuntimeHandle → ModuleRuntimeHandle} (h : o.AllSettled s)
    (hstarting : ∀ handle, (f handle).state ≠ .starting) (hstopping : ∀ handle, (f handle).state ≠ .stopping) :
    Leaves (mark moduleId f >>= fun _ => o.emitRuntimeState) s (o.SoundFor moduleId) := by
  refine ends_mark_bind (leaves_of_carries (keepsRaising_emitRuntimeState (survives_soundFor o moduleId)) ?_)
  exact h.soundFor_setHandle (hstarting _) (hstopping _)

include hperform

theorem ends_startBlocked (h : o.AllSettled s) (result : CanStartResult) :
    Leaves (o.startBlocked perform moduleId result) s (o.SoundFor moduleId) := by
  have hsurvives := survives_soundFor o moduleId
  unfold startBlocked
  refine ends_mark_bind (leaves_of_carries (keepsRaising_bind (keepsRaising_emitRuntimeState hsurvives)
    fun _ => keepsRaising_bind (keepsRaising_unregisterModule hsurvives) fun _ =>
      keepsRaising_reevaluateDependents hsurvives hperform moduleId false) ?_)
  exact h.soundFor_setHandle (fun heq => nomatch heq) fun heq => nomatch heq

omit hperform in
theorem ends_startIsolated (h : o.AllSettled s) (hwindow : ¬ o.Raises s.asked ∧ ¬ o.Raises (s.asked + 1) ∧
      ((o.answers (s.asked + 1)).running = true → ¬ o.Raises (s.asked + 1 + 1))) :
    Leaves (o.startIsolated moduleId) s (o.SoundFor moduleId) := by
  unfold startIsolated
  refine ends_ask_bind (fun _ => ends_ask_bind (fun _ => ?_) fun text htext => ?_) fun text htext => ?_
  · refine ends_ite (fun hrunning => ?_) fun _ => ?_
    · refine ends_registerCapabilities_bind (fun _ _ => ?_) fun text _ htext => ?_
      · exact ends_mark_emit h (fun _ heq => nomatch heq) fun _ heq => nomatch heq
      · exact absurd (fun hnone => nomatch hnone.symm.trans htext) (hwindow.2.2 hrunning)
    · exact ends_mark_emit h (fun _ heq => nomatch heq) fun _ heq => nomatch heq
  · exact absurd (fun hnone => nomatch hnone.symm.trans htext) hwindow.2.1
  · exact absurd (fun hnone => nomatch hnone.symm.trans htext) hwindow.1

theorem ends_startInProcess (h : o.AllSettled s) :
    Leaves (o.startInProcess perform moduleId) s (o.SoundFor moduleId) := by
  have hsurvives := survives_soundFor o moduleId
  unfold startInProcess
  -- What is raised before the module is marked as running is an exception, and is handled.
  refine leaves_exceptException o.AllSettled ?_ ?_
  · refine ends_ask_bind (fun _ => ends_registerCapabilities_bind (fun _ _ => ends_mark_bind ?_) fun _ _ _ => ?_)
      fun _ _ => ?_
    · refine Ends.mono (leaves_of_carries (keepsRaising_bind (keepsRaising_emitRuntimeState hsurvives)
        fun _ => keepsRaising_reevaluateDependents hsurvives hperform moduleId true) ?_)
          (fun _ _ hs' => hs') fun _ _ hs' hne => (hs' hne).allSettled
      exact AllSettled.soundFor_setHandle h (fun heq => nomatch heq) fun heq => nomatch heq
    · exact fun _ => h
    · exact fun _ => h
  · intro exc s' hs'
    refine ends_mark_bind (leaves_of_carries (keepsRaising_bind (keepsRaising_emitRuntimeState hsurvives)
      fun _ => keepsRaising_unregisterModule hsurvives) ?_)
    exact hs'.soundFor_setHandle (fun heq => nomatch heq) fun heq => nomatch heq

theorem ends_startPermitted (h : o.AllSettled s) {descriptor : ModuleDescriptor}
    (hwindow : o.StartWindow s.asked descriptor) :
    Leaves (o.startPermitted perform moduleId descriptor) s (o.SoundFor moduleId) := by
  unfold startPermitted
  refine ends_mark_bind (ends_emitRuntimeState_bind (fun _ => ?_) fun text htext => ?_)
  · refine ends_lookUpPublisher_bind (fun _ => ?_) fun hcalls text htext => ?_
    · refine ends_ite (fun hisolated => ?_) fun _ => ?_
      · have hrest := hwindow.2 hisolated
        rw [← Nat.add_assoc] at hrest
        exact ends_startIsolated h hrest
      · exact ends_startInProcess hperform h
    · exact absurd (fun hnone => nomatch hnone.symm.trans htext) (hwindow.1 1 (by omega))
  · exact absurd (fun hnone => nomatch hnone.symm.trans htext) (hwindow.1 0 (by omega))

/-- A smooth start settles its module, if the calls nested in it do. -/
theorem ends_startModule (h : o.AllSettled s) (hsmooth : o.StartsSmoothly s.toSnapshot moduleId) :
    Leaves (o.startModule perform moduleId) s (o.SoundFor moduleId) := by
  unfold StartsSmoothly at hsmooth
  unfold startModule
  by_cases hgate : o.resolver.settings.moduleGateEnabled = false
  · rw [if_pos hgate] at hsmooth ⊢
    exact ends_pure (h.soundFor hsmooth)
  rw [if_neg hgate] at hsmooth ⊢
  cases hget : o.resolver.modules.get moduleId with
  | none =>
    rw [hget] at hsmooth
    exact ends_pure (h.soundFor hsmooth)
  | some descriptor =>
    rw [hget] at hsmooth
    refine ends_bind_of_ok rfl ?_
    by_cases hrunning : s.status moduleId = .running
    · rw [if_pos (.inl hrunning)]
      refine ends_pure (h.soundFor fun htransition => ?_)
      unfold InTransition at htransition
      rw [hrunning] at htransition
      rcases htransition with heq | heq <;> cases heq
    obtain ⟨hstarting, hstopping, hwindow⟩ := hsmooth.resolve_left hrunning
    rw [if_neg fun hleaves => hleaves.elim hrunning hstarting]
    have hasked : o.AllSettled { s with asked := s.asked + 1 } := h
    unfold startRequested
    refine ends_ask_bind (fun hquiet => ?_) fun text htext => ?_
    · refine ends_ite (fun _ => ?_) fun henabled => ?_
      · exact ends_mark_emit hasked (fun _ heq => nomatch heq) fun _ heq => nomatch heq
      · refine ends_bind_of_ok rfl (ends_ite (fun _ => ?_) fun hcan => ?_)
        · exact ends_startBlocked hperform hasked _
        · exact ends_startPermitted hperform hasked
            (hwindow hquiet (Bool.not_eq_false _ ▸ henabled) (Bool.not_eq_false _ ▸ hcan))
    · refine fun _ => AllSettled.soundFor h fun htransition => htransition.elim hstarting (hstopping fun hnone => ?_)
      exact nomatch hnone.symm.trans htext

theorem ends_stopInProcess (h : o.AllSettled s) (hquiet : ¬ o.Raises s.asked) :
    Leaves (o.stopInProcess perform moduleId) s (o.SoundFor moduleId) := by
  have hsurvives := survives_soundFor o moduleId
  have hrun : exceptException (o.ask >>= fun _ => pure ()) (fun exc => do
        mark moduleId (.markFailed exc)
        o.emitRuntimeState) s = .ok () { s with asked := s.asked + 1 } := by
    have hask : o.ask s = .ok (o.answers s.asked) { s with asked := s.asked + 1 } := by
      unfold ask
      rw [not_not.mp hquiet]
    unfold exceptException
    show EStateM.tryCatch _ _ s = _
    unfold EStateM.tryCatch
    rw [run_bind_of_ok hask]
    rfl
  unfold stopInProcess Leaves Ends finallyDo
  rw [hrun]
  refine ends_bind_of_ok rfl (ends_mark_bind (leaves_of_carries (keepsRaising_bind
    (keepsRaising_emitRuntimeState hsurvives) fun _ =>
      keepsRaising_reevaluateDependents hsurvives hperform moduleId false) ?_))
  exact AllSettled.soundFor_setHandle h (fun heq => nomatch heq) fun heq => nomatch heq

/-- A smooth stop settles its module, if the calls nested in it do. -/
theorem ends_stopModule (h : o.AllSettled s) (hsmooth : o.StopsSmoothly s.toSnapshot moduleId) :
    Leaves (o.stopModule perform moduleId) s (o.SoundFor moduleId) := by
  unfold stopModule
  refine ends_bind_of_ok rfl ?_
  by_cases hstopped : s.status moduleId = .stopped
  · rw [if_pos (.inl hstopped)]
    refine ends_pure (h.soundFor fun htransition => ?_)
    unfold InTransition at htransition
    rw [hstopped] at htransition
    rcases htransition with heq | heq <;> cases heq
  obtain ⟨hstopping, hquiet⟩ := hsmooth.resolve_left hstopped
  rw [if_neg fun hleaves => hleaves.elim hstopped hstopping]
  unfold stopRequested
  refine ends_mark_bind (ends_emitRuntimeState_bind (fun _ => ?_) fun text htext => ?_)
  · cases hget : o.resolver.modules.get moduleId with
    | none => exact ends_stopInProcess hperform h (hquiet 1 (by omega))
    | some descriptor =>
      have hpub : o.stopPublisherCalls moduleId = publisherCalls descriptor := by
        unfold stopPublisherCalls
        rw [hget]
        rfl
      rw [hpub] at hquiet
      have hlast := hquiet (1 + publisherCalls descriptor) (by omega)
      rw [← Nat.add_assoc] at hlast
      refine ends_lookUpPublisher_bind (fun _ => ?_) fun hcalls text htext => ?_
      · refine ends_ite (fun _ => ?_) fun _ => ends_stopInProcess hperform h hlast
        unfold stopIsolated
        refine ends_ask_bind (fun _ => ends_bind_of_ok rfl ?_) fun text htext => ?_
        · exact ends_mark_emit h (fun _ heq => nomatch heq) fun _ heq => nomatch heq
        · exact absurd (fun hnone => nomatch hnone.symm.trans htext) hlast
      · exact absurd (fun hnone => nomatch hnone.symm.trans htext) (hquiet 1 (by omega))
  · exact absurd (fun hnone => nomatch hnone.symm.trans htext) (hquiet 0 (by omega))

/-- **A smooth call** settles its module, if the calls nested in it do. -/
theorem soundFor_body {call : Call} (hcall : call.moduleId = moduleId) (h : o.AllSettled s)
    (hsmooth : o.Smooth s.toSnapshot call) : Leaves (o.body perform call) s (o.SoundFor moduleId) := by
  cases call with
  | start moduleId' =>
    subst hcall
    exact ends_startModule hperform h hsmooth
  | stop moduleId' =>
    subst hcall
    exact ends_stopModule hperform h hsmooth

end

/-! ### All calls -/

theorem carries_perform_past (o : ModuleOrchestrator) (n : ℕ) (moduleId : String) (fuel : ℕ) (call : Call) :
    Carries (Past n moduleId) (Later n) (o.perform fuel call) :=
  keepsRaising_perform (fun changed => survivesMarks_past n moduleId changed) (fun _ _ hs => ⟨hs.asked, hs.gone⟩)
    fuel call

/-- Of the calls in the log, those that have settled their modules were smooth. -/
def SettledWereSmooth (o : ModuleOrchestrator) (s : OrchestratorState) : Prop :=
  ∀ v ∈ s.visits, o.Settled v → o.Smooth v.before v.call

theorem survivesMarks_settledWereSmooth (o : ModuleOrchestrator) (moduleId : String) :
    SurvivesMarks o.SettledWereSmooth (fun _ => True) moduleId :=
  ⟨⟨fun _ h => h, fun _ _ _ => trivial, fun _ _ h => h, fun _ _ _ h _ => h⟩, fun _ _ h _ => h, fun _ _ h _ => h⟩

theorem carries_perform_settledWereSmooth (o : ModuleOrchestrator) (fuel : ℕ) (call : Call) :
    Carries o.SettledWereSmooth (fun _ => True) (o.perform fuel call) := by
  induction fuel generalizing call with
  | zero => exact keepsRaising_throw fun _ _ exc heq => nomatch heq
  | succ fuel ih =>
    refine carries_of_leaves fun s hs => leaves_recordVisit ?_
    have hbody : Leaves (o.body (o.perform fuel) call) s o.SettledWereSmooth :=
      leaves_of_carries (keepsRaising_body (survivesMarks_settledWereSmooth o call.moduleId) ih) hs
    have hown : Leaves (o.body (o.perform fuel) call) s fun s' =>
        o.Settled ⟨call, s.toSnapshot, s'.toSnapshot⟩ → o.Smooth s.toSnapshot call := by
      by_cases hsmooth : o.Smooth s.toSnapshot call
      · exact hbody.mono fun _ _ _ => hsmooth
      · exact (ends_body_of_not_smooth (fun n => carries_perform_past o n call.moduleId fuel) hsmooth).mono
          fun _ hnot hsettled => absurd hsettled hnot
    refine (hbody.and hown).mono fun s' hs' v hv => ?_
    rcases List.mem_append.mp hv with hv | hv
    · exact hs'.1 v hv
    · rw [List.mem_singleton.mp hv]
      exact hs'.2

/-- A smooth stop does not await a handler that raises. -/
theorem not_handlerStopRaised_of_smooth {o : ModuleOrchestrator} {s : Snapshot} {moduleId : String}
    (hsmooth : o.StopsSmoothly s moduleId) (exc : PyException) : ¬ o.HandlerStopRaised s moduleId exc := by
  intro hraised
  obtain ⟨-, hquiet⟩ := hsmooth.resolve_left hraised.requested.1
  refine hquiet (1 + o.stopPublisherCalls moduleId) (Nat.lt_succ_self _) fun hnone => ?_
  rw [← hraised.raisedBy] at hnone
  exact nomatch hnone.symm.trans hraised.raises

theorem settled_of_leaves {o : ModuleOrchestrator} {call : Call} {before after : Snapshot}
    (hsmooth : o.Smooth before call) (hleaves : ¬ InTransition after call.moduleId) :
    o.Settled ⟨call, before, after⟩ := by
  refine ⟨hleaves, fun exc hstop hraised => ?_⟩
  cases call with
  | start moduleId => exact nomatch hstop
  | stop moduleId => exact absurd hraised (not_handlerStopRaised_of_smooth hsmooth exc)

/-- The log of a call and its nested calls: if all of them were smooth, they have settled their modules, and no other
module is left in transition. -/
theorem carries_perform_allSettled (o : ModuleOrchestrator) (fuel : ℕ) (call : Call) :
    Carries o.AllSettled (fun _ => True) (o.perform fuel call) ∧
      ∀ moduleId, Carries (o.SoundFor moduleId) (fun _ => True) (o.perform fuel call) := by
  induction fuel generalizing call with
  | zero =>
    have hthrow : ∀ I : OrchestratorState → Prop, Carries I (fun _ => True) (o.perform 0 call) :=
      fun I => keepsRaising_throw fun _ _ exc heq => nomatch heq
    exact ⟨hthrow _, fun _ => hthrow _⟩
  | succ fuel ih =>
    have hbody : ∀ s, o.AllSettled s → Leaves (o.body (o.perform fuel) call) s o.AllSettled := fun s hs =>
      leaves_of_carries (keepsRaising_body (survivesMarks_allSettled o call.moduleId) fun call' => (ih call').1) hs
    have hown : ∀ s, o.AllSettled s → Leaves (o.body (o.perform fuel) call) s fun s' =>
        o.Smooth s.toSnapshot call → o.SoundFor call.moduleId s' := by
      intro s hs
      by_cases hsmooth : o.Smooth s.toSnapshot call
      · exact (soundFor_body (fun call' => (ih call').2 call.moduleId) rfl hs hsmooth).mono fun _ hs' _ => hs'
      · exact (hbody s hs).mono fun _ _ h => absurd h hsmooth
    -- The entry of the call itself counts only if the call was smooth.
    have hlogged : ∀ s s' : OrchestratorState, (o.Smooth s.toSnapshot call → o.SoundFor call.moduleId s') →
        o.SoundFor call.moduleId (logged call s s') := by
      intro s s' hs' hall
      have hsmooth := hall _ (List.mem_append_right _ List.mem_cons_self)
      obtain ⟨hbefore, hleaves⟩ := hs' hsmooth fun v hv => hall v (List.mem_append_left _ hv)
      refine ⟨fun v hv => ?_, hleaves⟩
      rcases List.mem_append.mp hv with hv | hv
      · exact hbefore v hv
      · rw [List.mem_singleton.mp hv]
        exact settled_of_leaves hsmooth hleaves
    refine ⟨carries_of_leaves fun s hs => leaves_recordVisit ?_, fun moduleId =>
      carries_of_leaves fun s hs => leaves_recordVisit ?_⟩
    · exact (hown s hs).mono fun s' hs' => (hlogged s s' hs').allSettled
    · by_cases hsame : moduleId = call.moduleId
      · rw [hsame]
        exact (hown s hs.allSettled).mono fun s' hs' => hlogged s s' hs'
      · have hother : Leaves (o.body (o.perform fuel) call) s (o.SoundFor moduleId) :=
          leaves_of_carries (keepsRaising_body (survivesMarks_soundFor o hsame) fun call' => (ih call').2 moduleId) hs
        refine (hother.and (hown s hs.allSettled)).mono fun s' hs' hall => ?_
        exact ⟨(hlogged s s' hs'.2 hall).1, (hs'.1 fun v hv => hall v (List.mem_append_left _ hv)).2⟩

/-- **Every call settles its module exactly if every call is smooth**: of a call that returns or raises and of all
calls nested in it, which are in the log together with the call itself. -/
theorem settled_iff_smooth (o : ModuleOrchestrator) (fuel : ℕ) (call : Call) (s : Snapshot) :
    Leaves (o.perform fuel call) { s with } fun s' =>
      ⟨call, s, s'.toSnapshot⟩ ∈ s'.visits ∧
        ((∀ v ∈ s'.visits, o.Settled v) ↔ ∀ v ∈ s'.visits, o.Smooth v.before v.call) := by
  have hfirst : Leaves (o.perform fuel call) { s with } o.SettledWereSmooth :=
    leaves_of_carries (carries_perform_settledWereSmooth o fuel call) fun v hv => nomatch hv
  have hsecond : Leaves (o.perform fuel call) { s with } o.AllSettled :=
    leaves_of_carries (carries_perform_allSettled o fuel call).1 fun _ v hv => nomatch hv
  have hlog : Leaves (o.perform fuel call) { s with } fun s' => ⟨call, s, s'.toSnapshot⟩ ∈ s'.visits := by
    cases fuel with
    | zero => exact ends_throw fun hne => absurd rfl hne
    | succ fuel =>
      refine leaves_recordVisit ?_
      have hany : Leaves (o.body (o.perform fuel) call) { s with } fun _ => True := by
        unfold Leaves Ends
        cases o.body (o.perform fuel) call { s with } with
        | ok a s' => trivial
        | error e s' => exact fun _ => trivial
      exact hany.mono fun s' _ => List.mem_append_right _ List.mem_cons_self
  refine (hlog.and (hfirst.and hsecond)).mono fun s' hs' => ⟨hs'.1, ?_⟩
  exact ⟨fun h v hv => hs'.2.1 v hv (h v hv), hs'.2.2⟩

/-! ### A lamp that cannot be stopped, and a plug that cannot be started -/

namespace LampAndPlug

def lamp : ModuleDescriptor := { moduleId := "feature.lamp" }

/-- An installed package. -/
def plug : ModuleDescriptor := { moduleId := "acme.plug", packageSource := .installed }

/-- One of the awaited calls raises. -/
def orchestrator (n : ℕ) : ModuleOrchestrator where
  resolver :=
    { modules := ⟨[lamp, plug], by decide⟩
      upper := id
      setOrder := id
      setOrder_perm := List.Perm.refl }
  siteId := 1
  records := { configurations := [⟨"feature.lamp", some true⟩, ⟨"acme.plug", some true⟩] }
  answers k := if k = n then { raises := some "boom" } else {}

def lampRuns : OrchestratorState :=
  { handles := fun id => if id = "feature.lamp" then { state := .running } else {} }

def ending (n : ℕ) (call : Call) (s : OrchestratorState) : OrchestratorState :=
  match (orchestrator n).perform 1 call s with
  | .ok _ s' => s'
  | .error _ s' => s'

end LampAndPlug

open LampAndPlug in
/-- The handler of the lamp fails to stop, and the lamp is shown as stopped. The adapter of the plug fails to start
it, and the plug stays `STARTING`; a second start does nothing. -/
theorem lamp_and_plug_unsettled : (ending 1 (.stop "feature.lamp") lampRuns).handles "feature.lamp" =
        ⟨.stopped, some (.exception ⟨1, "boom"⟩)⟩ ∧ (ending 2 (.start "acme.plug") {}).status "acme.plug" = .starting ∧
      (ending 2 (.start "acme.plug") (ending 2 (.start "acme.plug") {})).status "acme.plug" = .starting ∧
      ¬ (∀ v ∈ (ending 1 (.stop "feature.lamp") lampRuns).visits, (orchestrator 1).Settled v) ∧
      ¬ ∀ v ∈ (ending 2 (.start "acme.plug") {}).visits, (orchestrator 2).Settled v := by
  have hlamp : (ending 1 (.stop "feature.lamp") lampRuns).handles "feature.lamp" =
      ⟨.stopped, some (.exception ⟨1, "boom"⟩)⟩ := by decide +kernel
  have hplug : (ending 2 (.start "acme.plug") {}).status "acme.plug" = .starting := by decide +kernel
  refine ⟨hlamp, hplug, by decide +kernel, fun hsettled => ?_, fun hsettled => ?_⟩
  · have hmem : (⟨.stop "feature.lamp", lampRuns.toSnapshot,
        (ending 1 (.stop "feature.lamp") lampRuns).toSnapshot⟩ : Visit) ∈
          (ending 1 (.stop "feature.lamp") lampRuns).visits := List.mem_singleton.mpr rfl
    have hraised : (orchestrator 1).HandlerStopRaised lampRuns.toSnapshot "feature.lamp" ⟨1, "boom"⟩ := by
      refine ⟨by decide +kernel, fun i hi => ?_, by decide +kernel, by decide +kernel, by decide +kernel⟩
      have hzero : i = 0 := by
        have hpub : (orchestrator 1).stopPublisherCalls "feature.lamp" = 0 := by decide +kernel
        omega
      rw [hzero]
      exact fun h => h rfl
    have hvisible := (hsettled _ hmem).visible _ rfl hraised
    rw [show (Visit.after _).handles _ = _ from hlamp] at hvisible
    cases hvisible
  · have hmem : (⟨.start "acme.plug", {}, (ending 2 (.start "acme.plug") {}).toSnapshot⟩ : Visit) ∈
        (ending 2 (.start "acme.plug") {}).visits := List.mem_singleton.mpr rfl
    exact (hsettled _ hmem).leaves (.inl hplug)

end EnergyCore.Modules.ModuleOrchestrator
