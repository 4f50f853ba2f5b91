import EnergyCore.Foundations.Clock
import EnergyCore.Foundations.StepRun

/-!
# The charging states of a vehicle

`apply` moves a vehicle from one charging state to the next by what is observed of it. The next state depends on the
last one, so that an observation that is repeated may move it twice.

* `settles_iff` — which observations move a state twice;
* `remembers_iff` — when the charge of a plug-in period is remembered as the vehicle is unplugged.
-/

namespace EnergyCore.Vehicles

open StepRun

/-! ### The state machine -/

inductive ChargingState where
  | unknown
  | disconnected
  | pluggedIn
  | waiting
  | charging
  | paused
  | chargingComplete
  | disconnectedAfterCharge
  | error
  deriving Repr, DecidableEq

structure ChargingStateTransition where
  fromState : ChargingState
  toState : ChargingState
  occurredAt : Instant
  trigger : String
  deriving Repr, DecidableEq

structure VehicleChargingStateMachine where
  state : ChargingState := .unknown
  transitions : List ChargingStateTransition := []
  deriving Repr, DecidableEq

/-- What a call of `apply` is given. -/
structure ChargingObservation where
  isPluggedIn : Option Bool
  isCharging : Option Bool
  trigger : String := ""
  now : Instant := 0
  deriving Repr, DecidableEq

/-- `_derive_target`. -/
def deriveTarget (state : ChargingState) (isPluggedIn isCharging : Option Bool) : ChargingState :=
  if isPluggedIn = some false then
    if state ∈ [.charging, .paused, .chargingComplete] then .disconnectedAfterCharge else .disconnected
  else if isPluggedIn = some true ∧ isCharging = some false then
    if state = .charging then .chargingComplete else .pluggedIn
  else if isCharging = some true then .charging
  else if state = .charging ∧ isCharging = some false then .paused
  else state

def VehicleChargingStateMachine.apply (machine : VehicleChargingStateMachine) (o : ChargingObservation) :
    VehicleChargingStateMachine × Option ChargingStateTransition :=
  let target := deriveTarget machine.state o.isPluggedIn o.isCharging
  if target = machine.state then (machine, none)
  else
    let transition : ChargingStateTransition :=
      { fromState := machine.state, toState := target, occurredAt := o.now, trigger := o.trigger }
    ({ state := target, transitions := machine.transitions ++ [transition] }, some transition)

theorem state_apply (machine : VehicleChargingStateMachine) (o : ChargingObservation) :
    (machine.apply o).1.state = deriveTarget machine.state o.isPluggedIn o.isCharging := by
  unfold VehicleChargingStateMachine.apply
  dsimp only
  split_ifs with hsame
  · exact hsame.symm
  · rfl

/-! ### Repeated observations -/

/-- The vehicle is observed unplugged. -/
def unplugged (o : ChargingObservation) : Bool := decide (o.isPluggedIn = some false)

/-- The vehicle is observed plugged in, and not charging. -/
def pluggedIdle (o : ChargingObservation) : Bool := decide (o.isPluggedIn = some true ∧ o.isCharging = some false)

/-- The observation, made twice, moves the state once only. -/
def Settles (machine : VehicleChargingStateMachine) (o : ChargingObservation) : Prop :=
  ((machine.apply o).1.apply o).1.state = (machine.apply o).1.state

/-- The states that remember a charge. -/
def remembering : List ChargingState := [.charging, .paused, .chargingComplete]

theorem deriveTarget_settles_iff (state : ChargingState) (isPluggedIn isCharging : Option Bool) :
    deriveTarget (deriveTarget state isPluggedIn isCharging) isPluggedIn isCharging
        = deriveTarget state isPluggedIn isCharging ↔ ¬ (isPluggedIn = some false ∧ state ∈ remembering) ∧
        ¬ ((isPluggedIn = some true ∧ isCharging = some false) ∧ state = .charging) := by
  rcases isPluggedIn with _ | _ | _ <;> rcases isCharging with _ | _ | _ <;> cases state <;> decide

/-- **Repeated observations.** Only two observations move a state twice: that a vehicle is unplugged whose charge is
remembered, and that a vehicle which was charging is plugged in and idle. -/
theorem settles_iff (machine : VehicleChargingStateMachine) (o : ChargingObservation) : Settles machine o ↔
      ¬ (unplugged o = true ∧ machine.state ∈ remembering) ∧ ¬ (pluggedIdle o = true ∧ machine.state = .charging) := by
  unfold Settles unplugged pluggedIdle
  rw [state_apply, state_apply, decide_eq_true_iff, decide_eq_true_iff]
  exact deriveTarget_settles_iff machine.state o.isPluggedIn o.isCharging

/-! ### The memory of a plug-in period -/

/-- What has been observed since the vehicle was last unplugged: whether it was charging, whether it has been idle since
it last was, and whether it has then been observed plugged in and idle once more. -/
structure PlugInPeriod where
  charged : Bool := false
  idled : Bool := false
  idledAgain : Bool := false
  deriving Repr, DecidableEq

def PlugInPeriod.record (period : PlugInPeriod) (o : ChargingObservation) : PlugInPeriod :=
  if unplugged o = true then {}
  else if o.isCharging = some true then { charged := true }
  else if o.isCharging = some false then
    { period with idled := true, idledAgain := period.idledAgain || (period.idled && pluggedIdle o) }
  else period

/-- A machine with the plug-in period that it is in. -/
structure ObservedMachine where
  machine : VehicleChargingStateMachine := {}
  period : PlugInPeriod := {}
  deriving Repr, DecidableEq

def observeStep (s : ObservedMachine) (o : ChargingObservation) : ObservedMachine where
  machine := (s.machine.apply o).1
  period := s.period.record o

/-- The first unplugged observation after a plug-in period with a charge leads to the state that says so. -/
def Remembers (s : ObservedMachine) (o : ChargingObservation) : Prop :=
  unplugged o = true → s.period.charged = true → (s.machine.apply o).1.state = .disconnectedAfterCharge

instance (s : ObservedMachine) (o : ChargingObservation) : Decidable (Remembers s o) :=
  inferInstanceAs (Decidable (_ → _))

/-- A vehicle that has charged is unplugged before it has been observed plugged in and idle once more. -/
def IdledOnce (s : ObservedMachine) (o : ChargingObservation) : Prop :=
  unplugged o = true → s.period.charged = true → s.period.idledAgain = false

/-- The state of a machine, in terms of the plug-in period. -/
def Follows (s : ObservedMachine) : Prop :=
  if s.period.charged = true then
    if s.period.idledAgain = true then s.machine.state = .pluggedIn
    else if s.period.idled = true then s.machine.state = .paused ∨ s.machine.state = .chargingComplete
    else s.machine.state = .charging
  else s.machine.state ∉ remembering

theorem follows_start : Follows {} := by
  unfold Follows
  decide

theorem follows_remembering {s : ObservedMachine} (h : Follows s) (hcharged : s.period.charged = true) :
    s.machine.state ∈ remembering ↔ s.period.idledAgain = false := by
  unfold Follows at h
  rw [if_pos hcharged] at h
  cases hagain : s.period.idledAgain with
  | true =>
    rw [if_pos hagain] at h
    rw [h]
    decide
  | false =>
    rw [if_neg (by rw [hagain]; decide)] at h
    refine iff_of_true ?_ rfl
    split_ifs at h
    · rcases h with h | h <;> rw [h] <;> decide
    · rw [h]
      decide

/-! ### One observation -/

section

variable {state : ChargingState} {o : ChargingObservation}

theorem deriveTarget_unplugged (h : unplugged o = true) :
    deriveTarget state o.isPluggedIn o.isCharging ∉ remembering := by
  unfold deriveTarget
  rw [if_pos (of_decide_eq_true h)]
  split_ifs
  · decide
  · decide

theorem deriveTarget_charging (state : ChargingState) (hplug : ¬ unplugged o = true)
    (hcharging : o.isCharging = some true) : deriveTarget state o.isPluggedIn o.isCharging = .charging := by
  unfold deriveTarget
  rw [if_neg fun h => hplug (decide_eq_true h), hcharging, if_neg (by simp), if_pos rfl]

theorem deriveTarget_pluggedIdle (h : pluggedIdle o = true) :
    deriveTarget state o.isPluggedIn o.isCharging = if state = .charging then .chargingComplete else .pluggedIn := by
  obtain ⟨hplug, hidle⟩ : o.isPluggedIn = some true ∧ o.isCharging = some false := of_decide_eq_true h
  unfold deriveTarget
  rw [hplug, hidle]
  rfl

theorem deriveTarget_idle (hplug : ¬ unplugged o = true) (hidle : o.isCharging = some false)
    (h : ¬ pluggedIdle o = true) :
    deriveTarget state o.isPluggedIn o.isCharging = if state = .charging then .paused else state := by
  unfold deriveTarget
  rw [if_neg fun hp => hplug (decide_eq_true hp), if_neg fun hp => h (decide_eq_true hp), hidle, if_neg (by decide)]
  simp

theorem deriveTarget_silent (state : ChargingState) (hplug : ¬ unplugged o = true) (hsilent : o.isCharging = none) :
    deriveTarget state o.isPluggedIn o.isCharging = state := by
  unfold deriveTarget
  rw [if_neg fun h => hplug (decide_eq_true h), hsilent]
  simp

end

/-- The vehicle is observed not to charge. -/
theorem follows_idle {s : ObservedMachine} {o : ChargingObservation} (h : Follows s) (hplug : ¬ unplugged o = true)
    (hidle : o.isCharging = some false) :
    Follows {
      machine := { state := deriveTarget s.machine.state o.isPluggedIn (some false) }
      period := { s.period with
        idled := true, idledAgain := s.period.idledAgain || (s.period.idled && pluggedIdle o) } } := by
  have htarget : deriveTarget s.machine.state o.isPluggedIn (some false)
      = if s.machine.state = .charging then (if pluggedIdle o = true then .chargingComplete else .paused)
        else if pluggedIdle o = true then .pluggedIn else s.machine.state := by
    rw [← hidle]
    by_cases hplugged : pluggedIdle o = true
    · rw [deriveTarget_pluggedIdle hplugged, if_pos hplugged, if_pos hplugged]
    · rw [deriveTarget_idle hplug hidle hplugged, if_neg hplugged, if_neg hplugged]
  unfold Follows at h ⊢
  dsimp only
  rw [htarget]
  cases hcharged : s.period.charged with
  | false =>
    rw [hcharged, if_neg (by decide)] at h
    have hnot : s.machine.state ≠ .charging := by
      intro hstate
      rw [hstate] at h
      exact h (by decide)
    rw [if_neg (by decide), if_neg hnot]
    split_ifs
    · decide
    · exact h
  | true =>
    rw [hcharged, if_pos rfl] at h
    rw [if_pos rfl]
    cases hagain : s.period.idledAgain with
    | true =>
      rw [hagain, if_pos rfl] at h
      rw [h]
      simp
    | false =>
      rw [hagain, if_neg (by decide)] at h
      cases hidled : s.period.idled with
      | true =>
        rw [hidled, if_pos rfl] at h
        rcases h with h | h <;> rw [h] <;> cases pluggedIdle o <;> simp
      | false =>
        rw [hidled, if_neg (by decide)] at h
        rw [h]
        cases pluggedIdle o <;> simp

/-- **The step of a period.** -/
theorem follows_step {s : ObservedMachine} (o : ChargingObservation) (h : Follows s) : Follows (observeStep s o) := by
  have hstate : (observeStep s o).machine.state = deriveTarget s.machine.state o.isPluggedIn o.isCharging :=
    state_apply _ _
  have hperiod : (observeStep s o).period = s.period.record o := rfl
  unfold Follows
  rw [hstate, hperiod]
  unfold PlugInPeriod.record
  by_cases hplug : unplugged o = true
  · rw [if_pos hplug]
    exact deriveTarget_unplugged hplug
  rw [if_neg hplug]
  cases hcharging : o.isCharging with
  | none =>
    have hsame := deriveTarget_silent s.machine.state hplug hcharging
    rw [hcharging] at hsame
    rw [hsame]
    exact h
  | some flag =>
    cases flag with
    | true =>
      have hcharges := deriveTarget_charging s.machine.state hplug hcharging
      rw [hcharging] at hcharges
      rw [hcharges]
      rfl
    | false =>
      have htrue : (some false : Option Bool) ≠ some true := by decide
      rw [if_neg htrue, if_pos rfl]
      exact follows_idle h hplug hcharging

theorem remembers_iff {s : ObservedMachine} (h : Follows s) (o : ChargingObservation) :
    Remembers s o ↔ IdledOnce s o := by
  unfold Remembers IdledOnce
  refine imp_congr_right fun hunplugged => imp_congr_right fun hcharged => ?_
  have hplug : o.isPluggedIn = some false := of_decide_eq_true hunplugged
  rw [state_apply, ← follows_remembering h hcharged]
  unfold deriveTarget
  rw [if_pos hplug]
  split_ifs with hremembering
  · exact iff_of_true rfl hremembering
  · exact iff_of_false (by decide) hremembering

/-- **When observations may be repeated, and charges are remembered.** An observation settles in every state, except for
the two that move a state twice. A run from the unknown state remembers every charge exactly if no vehicle is
observed plugged in and idle once more before it is unplugged. -/
theorem chargingStates_iff (observations : List ChargingObservation) : (∀ machine o, Settles machine o ↔
      ¬ (unplugged o = true ∧ machine.state ∈ remembering) ∧ ¬ (pluggedIdle o = true ∧ machine.state = .charging)) ∧
    (AllSteps observeStep Remembers {} observations ↔ AllSteps observeStep IdledOnce {} observations) := by
  refine ⟨settles_iff, ?_⟩
  have hall : AllSteps observeStep (fun _ _ => True) {} observations :=
    AllSteps.of_forall_mem (P := fun _ => True) fun _ _ => trivial
  exact AllSteps.congr_of_invariant (I := Follows) (fun _ o h _ _ => follows_step o h)
    (fun _ o h _ => remembers_iff h o) follows_start hall

/-- **A charge that is forgotten.** The vehicle charges, is observed plugged in and idle twice, and is unplugged; and a
vehicle that is observed unplugged twice is not disconnected after a charge. -/
theorem charge_forgotten :
    ¬ Settles { state := .charging } { isPluggedIn := some false, isCharging := some false } ∧
      ¬ AllSteps observeStep Remembers {}
        [{ isPluggedIn := some true, isCharging := some true }, { isPluggedIn := some true, isCharging := some false },
          { isPluggedIn := some true, isCharging := some false },
          { isPluggedIn := some false, isCharging := some false }] := by
  constructor
  · unfold Settles
    decide
  · exact fun h => absurd h (by decide)

end EnergyCore.Vehicles
