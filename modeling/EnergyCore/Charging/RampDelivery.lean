import EnergyCore.Charging.CoupledCharger
import EnergyCore.Charging.RampCommands

/-!
# Which currents reach the charger

The state machine remembers each current it asks for, whether or not the controller sent it. While the
optimizer's target is held, the machine issues finitely many commands, so the charger ends at the
remembered current exactly if the last of them is not lost.

* `heldCycle_quiet`, `heldCycle_command` — one cycle that holds the target;
* `held_eventually_quiet` — a held target causes finitely many commands;
* `eventuallySettled_iff` — whether the charger's limit ends within the hysteresis of the current
  asked for;
* `mock_held` — on the mock charger a target can be held for ever.
-/

namespace EnergyCore.Charging

open StepRun

/-! ### A held target -/

/-- What is fixed while a target is held. -/
structure HeldSetting where
  config : ChargingConfig := {}
  antiConfig : AntiFlappingConfig := {}
  chargingMode : Option ChargingMode := none
  overrideActive : Bool := false
  targetA : ℚ

/-- The configuration and the target that may be held: the bounds and steps are not negative, and the
target is a current within the bounds. -/
structure HeldSetting.Admissible (h : HeldSetting) : Prop where
  min_nonneg : 0 ≤ h.config.minCurrentA
  increase_nonneg : 0 ≤ h.config.maxCurrentIncreasePerStepA
  decrease_nonneg : 0 ≤ h.config.maxCurrentDecreasePerStepA
  target_pos : 0 < h.targetA
  min_le : h.config.minCurrentA ≤ h.targetA
  le_max : h.targetA ≤ h.config.maxCurrentA

/-- The inputs of a cycle that holds the target. The reason, the energy signals and the time are
free. -/
structure HeldInputs {σ : Type*} (h : HeldSetting) (k : Cycle σ) : Prop where
  config : k.call.config = h.config
  antiConfig : k.antiConfig = h.antiConfig
  chargingMode : k.call.chargingMode = h.chargingMode
  overrideActive : k.call.overrideActive = h.overrideActive
  target : k.call.optimizerTargetA = h.targetA
  noFault : truthyText k.call.faultCode = false

section Held

variable {σ : Type*} (F : FaithfulCharger σ)

/-- A cycle that holds the target, on a charger that nothing else touches and whose vehicle stays
connected and charging. -/
structure HeldCycle (h : HeldSetting) (s : CoupledState σ) (k : Cycle σ) : Prop where
  inputs : HeldInputs h k
  untouched : F.status (k.env s.controller.charger) = F.status s.controller.charger
  connected : (F.status s.controller.charger).connected = true
  vehicle : (F.status s.controller.charger).vehicleConnected = true
  charging : (F.status s.controller.charger).charging = true

/-- The charger's limit is the remembered current, or differs from it by less than the hysteresis. -/
def limitWithin (antiConfig : AntiFlappingConfig) (status : ChargerStatus) (currentA : ℚ) : Bool :=
  status.currentLimitA.any fun limit =>
    decide (limit = currentA) || decide (|limit - currentA| < antiConfig.currentHysteresisA)

def Settled (antiConfig : AntiFlappingConfig) (s : CoupledState σ) : Prop :=
  limitWithin antiConfig (F.status s.controller.charger) s.runtime.requestedCurrentA = true

/-- The cycle issues a command. -/
def commands (s : CoupledState σ) (k : Cycle σ) : Bool :=
  issuesCommand s.runtime (cycleCall F s k)

/-- The controller withholds the command, and the current it asks for is not within the hysteresis of
the charger's limit. -/
def losesCommand (s : CoupledState σ) (k : Cycle σ) : Bool :=
  currentWithheld (commandA s.runtime (cycleCall F s k)) k.antiConfig k.call.now
      s.controller.antiFlapping (cycleStatus F s k) &&
    !limitWithin k.antiConfig (cycleStatus F s k) (commandA s.runtime (cycleCall F s k))

variable {F} {h : HeldSetting} {s : CoupledState σ} {k : Cycle σ}

theorem HeldCycle.status_eq (hk : HeldCycle F h s k) :
    cycleStatus F s k = F.status s.controller.charger := hk.untouched

theorem HeldCycle.desired (ha : h.Admissible) (hk : HeldCycle F h s k) : desiredA (cycleCall F s k) = h.targetA := by
  show clampTarget k.call.optimizerTargetA k.call.config = h.targetA
  rw [hk.inputs.target, hk.inputs.config]
  exact clampTarget_of_mem ha.target_pos ha.min_le ha.le_max

theorem HeldCycle.paused (hk : HeldCycle F h s k) :
    pausedCall (cycleCall F s k) = respectsManualPause h.chargingMode h.overrideActive := by
  show respectsManualPause k.call.chargingMode k.call.overrideActive = _
  rw [hk.inputs.chargingMode, hk.inputs.overrideActive]

theorem HeldCycle.targeted (ha : h.Admissible) (hk : HeldCycle F h s k) : TargetedCall (cycleCall F s k) where
  noFault := by
    show (truthyText k.call.faultCode || !(cycleStatus F s k).connected) = false
    rw [hk.inputs.noFault, hk.status_eq, hk.connected]
    rfl
  vehicle := by
    show (cycleStatus F s k).vehicleConnected = true
    rw [hk.status_eq, hk.vehicle]
  charging := by
    show (cycleStatus F s k).charging = true
    rw [hk.status_eq, hk.charging]
  desired := by
    rw [hk.desired ha]
    exact ha.target_pos

/-- **A quiet cycle.** It leaves the charger's status alone, as long as the vehicle is still charging
afterwards, and keeps the remembered current, which a pause forgets. -/
theorem heldCycle_quiet (ha : h.Admissible) (hk : HeldCycle F h s k) (hr : RestsAtZero s.runtime)
    (hnext : (F.status (cycle F s k).controller.charger).charging = true) (hq : commands F s k = false) :
    F.status (cycle F s k).controller.charger = F.status s.controller.charger ∧
      (cycle F s k).runtime.requestedCurrentA = (if respectsManualPause h.chargingMode h.overrideActive then 0
          else s.runtime.requestedCurrentA) ∧ (respectsManualPause h.chargingMode h.overrideActive = false →
        onStartPath (cycle F s k).runtime = onStartPath s.runtime) := by
  have hmin : 0 ≤ (cycleCall F s k).config.minCurrentA := by
    show 0 ≤ k.call.config.minCurrentA
    rw [hk.inputs.config]
    exact ha.min_nonneg
  obtain ⟨hreq, hpath, hdecision⟩ := evaluate_quiet (hk.targeted ha) hr hmin hq
  rw [hk.paused] at hreq hpath
  refine ⟨?_, hreq, hpath⟩
  rcases hdecision with hwithdrawn | ⟨hissued, hzero, -⟩
  · rw [cycle_controller_of_withdrawn F hwithdrawn]
    exact hk.untouched
  · -- a command of 0 A was withheld, since the vehicle is still charging
    have honline : (cycleStatus F s k).connected = true := by rw [hk.status_eq, hk.connected]
    rw [cycle_controller_of_stop F hissued hzero honline] at hnext ⊢
    split_ifs at hnext ⊢ with hstopped hwithheld
    · exact hk.untouched
    · exact hk.untouched
    · rw [F.charging_stopCharging] at hnext
      exact absurd hnext (by decide)

/-- **A command.** The machine remembers the current it asks for, and the charger is within the
hysteresis of it afterwards exactly if the command is not lost. -/
theorem heldCycle_command (ha : h.Admissible) (hk : HeldCycle F h s k) (hq : commands F s k = true) :
    onStartPath (cycle F s k).runtime = false ∧
      (Settled F h.antiConfig (cycle F s k) ↔ losesCommand F s k = false) := by
  have hup : 0 ≤ (cycleCall F s k).config.maxCurrentIncreasePerStepA := by
    show 0 ≤ k.call.config.maxCurrentIncreasePerStepA
    rw [hk.inputs.config]
    exact ha.increase_nonneg
  obtain ⟨hreq, hpath, hissued, hcurrent, hpos⟩ := evaluate_command hup hq
  refine ⟨hpath, ?_⟩
  have honline : (cycleStatus F s k).connected = true := by rw [hk.status_eq, hk.connected]
  have hvehicle : (cycleStatus F s k).vehicleConnected = true := by rw [hk.status_eq, hk.vehicle]
  have hcharging : (F.status (k.env s.controller.charger)).charging = true := by
    rw [hk.untouched, hk.charging]
  have hrequested : (cycle F s k).runtime.requestedCurrentA = commandA s.runtime (cycleCall F s k) := hreq
  unfold Settled losesCommand
  rw [hrequested, cycle_controller_of_current F hpos hissued hcurrent honline, hvehicle, hk.inputs.antiConfig]
  cases hwithheld : currentWithheld (commandA s.runtime (cycleCall F s k)) h.antiConfig k.call.now
      s.controller.antiFlapping (cycleStatus F s k) with
  | true =>
    simp only [Bool.true_eq_false, or_true, if_true, Bool.true_and, Bool.not_eq_false']
    rfl
  | false =>
    have hlimit : (F.status (delivered F (commandA s.runtime (cycleCall F s k))
        (k.env s.controller.charger))).currentLimitA
          = some (commandA s.runtime (cycleCall F s k)) := by
      rw [delivered, if_pos hcharging]
      exact F.limit_setCurrent _ _ hpos
    simp [limitWithin, hlimit]

/-! ### The whole of a held target -/

/-- The charger ends within the hysteresis of the current asked for, and stays there. -/
def EventuallySettled (F : FaithfulCharger σ) (h : HeldSetting) (s : CoupledState σ) (u : ℕ → Cycle σ) : Prop :=
  ∃ m, ∀ n, m ≤ n → Settled F h.antiConfig (orbit (cycle F) s u n)

/-- The cycle issues the last command of the stream. -/
def LastCommand (F : FaithfulCharger σ) (s : CoupledState σ) (u : ℕ → Cycle σ) (n : ℕ) : Prop :=
  commands F (orbit (cycle F) s u n) (u n) = true ∧
    ∀ k, n < k → commands F (orbit (cycle F) s u k) (u k) = false

/-- The current that is asked for as long as no command is issued. -/
def restingA (h : HeldSetting) (s : CoupledState σ) : ℚ :=
  if respectsManualPause h.chargingMode h.overrideActive then 0 else s.runtime.requestedCurrentA

/-- The last command is not lost; where there is none, the charger is within the hysteresis of the
remembered current from the start. -/
def LastCommandDelivered (F : FaithfulCharger σ) (h : HeldSetting) (s : CoupledState σ) (u : ℕ → Cycle σ) : Prop :=
  (∀ n, LastCommand F s u n → losesCommand F (orbit (cycle F) s u n) (u n) = false) ∧
    ((∀ n, commands F (orbit (cycle F) s u n) (u n) = false) →
      limitWithin h.antiConfig (F.status s.controller.charger) (restingA h s) = true)

variable {u : ℕ → Cycle σ}

theorem held_restsAtZero (ha : h.Admissible) (hr : RestsAtZero s.runtime)
    (hheld : ∀ n, HeldCycle F h (orbit (cycle F) s u n) (u n)) : ∀ n, RestsAtZero (orbit (cycle F) s u n).runtime := by
  refine orbit_invariant (I := fun s : CoupledState σ => RestsAtZero s.runtime) hr fun n hn => ?_
  have hconfig : (cycleCall F (orbit (cycle F) s u n) (u n)).config = h.config := (hheld n).inputs.config
  apply restsAtZero_step _ _ hn
  · rw [hconfig]
    exact ha.min_nonneg
  · rw [hconfig]
    exact ha.increase_nonneg

/-- What a quiet cycle of the stream keeps. -/
theorem held_quiet_step (ha : h.Admissible) (hr : RestsAtZero s.runtime)
    (hheld : ∀ n, HeldCycle F h (orbit (cycle F) s u n) (u n)) {n : ℕ}
    (hq : commands F (orbit (cycle F) s u n) (u n) = false) : F.status (orbit (cycle F) s u (n + 1)).controller.charger
        = F.status (orbit (cycle F) s u n).controller.charger ∧
      (orbit (cycle F) s u (n + 1)).runtime.requestedCurrentA = restingA h (orbit (cycle F) s u n) ∧
      (respectsManualPause h.chargingMode h.overrideActive = false →
        onStartPath (orbit (cycle F) s u (n + 1)).runtime = onStartPath (orbit (cycle F) s u n).runtime) :=
  heldCycle_quiet ha (hheld n) (held_restsAtZero ha hr hheld n) (hheld (n + 1)).charging hq

/-- A paused charger is sent no command. -/
theorem not_paused_of_commands (hk : HeldCycle F h s k) (hq : commands F s k = true) :
    respectsManualPause h.chargingMode h.overrideActive = false := by
  rw [← hk.paused]
  simp only [commands, issuesCommand, live, Bool.and_eq_true, Bool.not_eq_true'] at hq
  exact hq.1.1.1.1.2

/-- **Finitely many commands.** From some cycle on, a held target causes no command. -/
theorem held_eventually_quiet (ha : h.Admissible) (hr : RestsAtZero s.runtime)
    (hheld : ∀ n, HeldCycle F h (orbit (cycle F) s u n) (u n)) :
    ∃ m, ∀ n, m ≤ n → ¬ commands F (orbit (cycle F) s u n) (u n) = true := by
  cases hpaused : respectsManualPause h.chargingMode h.overrideActive with
  | true =>
    refine ⟨0, fun n _ hq => ?_⟩
    rw [not_paused_of_commands (hheld n) hq] at hpaused
    exact absurd hpaused (by decide)
  | false =>
    have hlt : ∀ n, commands F (orbit (cycle F) s u n) (u n) = true →
        rampDistance h.targetA (orbit (cycle F) s u (n + 1)).runtime
          < rampDistance h.targetA (orbit (cycle F) s u n).runtime := by
      intro n hq
      have hconfig : (cycleCall F (orbit (cycle F) s u n) (u n)).config = h.config := (hheld n).inputs.config
      have hlt := rampDistance_command_lt (by rw [hconfig]; exact ha.increase_nonneg)
        (by rw [hconfig]; exact ha.decrease_nonneg) hq
      rw [(hheld n).desired ha] at hlt
      exact hlt
    refine orbit_eventually_quiet _ (fun s : CoupledState σ => rampDistance h.targetA s.runtime) (fun n => ?_) hlt
    cases hq : commands F (orbit (cycle F) s u n) (u n) with
    | true => exact (hlt n hq).le
    | false =>
      obtain ⟨-, hreq, hpath⟩ := held_quiet_step ha hr hheld hq
      have hkept : restingA h (orbit (cycle F) s u n)
          = (orbit (cycle F) s u n).runtime.requestedCurrentA := by
        rw [restingA, hpaused, if_neg (by decide)]
      show rampDistance h.targetA (orbit (cycle F) s u (n + 1)).runtime
        ≤ rampDistance h.targetA (orbit (cycle F) s u n).runtime
      rw [rampDistance, hpath hpaused, hreq, hkept]
      exact le_rfl

/-- A machine that is on its ramp and remembers the target issues no command any more. -/
theorem held_quiet_at_target (ha : h.Admissible) (hr : RestsAtZero s.runtime)
    (hheld : ∀ n, HeldCycle F h (orbit (cycle F) s u n) (u n))
    (hpaused : respectsManualPause h.chargingMode h.overrideActive = false) {m : ℕ}
    (hpath : onStartPath (orbit (cycle F) s u m).runtime = false)
    (hreq : (orbit (cycle F) s u m).runtime.requestedCurrentA = h.targetA) :
    ∀ n, m ≤ n → commands F (orbit (cycle F) s u n) (u n) = false := by
  have hquiet : ∀ n, onStartPath (orbit (cycle F) s u n).runtime = false →
      (orbit (cycle F) s u n).runtime.requestedCurrentA = h.targetA →
      commands F (orbit (cycle F) s u n) (u n) = false := by
    intro n hpath hreq
    have hsettled : rampSettled (orbit (cycle F) s u n).runtime
        (cycleCall F (orbit (cycle F) s u n) (u n)) = true := by
      rw [rampSettled, rampedA, (hheld n).desired ha, hreq, applyRamp_self, sub_self, abs_zero]
      norm_num
    simp [commands, issuesCommand, hpath, hsettled]
  have key : ∀ k, onStartPath (orbit (cycle F) s u (m + k)).runtime = false ∧
      (orbit (cycle F) s u (m + k)).runtime.requestedCurrentA = h.targetA := by
    intro k
    induction k with
    | zero => exact ⟨hpath, hreq⟩
    | succ k ih =>
      obtain ⟨-, hreq', hpath'⟩ := held_quiet_step ha hr hheld (hquiet _ ih.1 ih.2)
      rw [restingA, hpaused, if_neg (by decide), ih.2] at hreq'
      exact ⟨(hpath' hpaused).trans ih.1, hreq'⟩
  intro n hn
  obtain ⟨k, rfl⟩ := Nat.exists_eq_add_of_le hn
  exact hquiet _ (key k).1 (key k).2

/-- From any state in which the machine rests at zero, the charger ends within the hysteresis exactly
if the last command is delivered. -/
theorem eventuallySettled_iff_of_rests (ha : h.Admissible) (hr : RestsAtZero s.runtime)
    (hheld : ∀ n, HeldCycle F h (orbit (cycle F) s u n) (u n)) :
    EventuallySettled F h s u ↔ LastCommandDelivered F h s u := by
  obtain ⟨b, hb⟩ := held_eventually_quiet ha hr hheld
  -- what a quiet tail keeps: the charger's status and the current asked for
  have htail : ∀ m, (∀ n, m ≤ n → commands F (orbit (cycle F) s u n) (u n) = false) →
      ∀ n, m ≤ n → (F.status (orbit (cycle F) s u n).controller.charger,
          restingA h (orbit (cycle F) s u n))
        = (F.status (orbit (cycle F) s u m).controller.charger,
          restingA h (orbit (cycle F) s u m)) := by
    intro m hquiet
    refine orbit_eventually_const
      (fun s : CoupledState σ => (F.status s.controller.charger, restingA h s)) fun n hn => ?_
    obtain ⟨hstatus, hreq, -⟩ := held_quiet_step ha hr hheld (hquiet n hn)
    refine Prod.ext hstatus ?_
    show restingA h (orbit (cycle F) s u (n + 1)) = restingA h (orbit (cycle F) s u n)
    rw [restingA, hreq, restingA]
    split_ifs <;> rfl
  by_cases hsome : ∃ n, commands F (orbit (cycle F) s u n) (u n) = true
  · obtain ⟨m, hm, hlast⟩ := exists_last_of_eventually_quiet hb hsome
    have hlast' : ∀ k, m < k → commands F (orbit (cycle F) s u k) (u k) = false :=
      fun k hk => Bool.not_eq_true _ ▸ hlast k hk
    have hpaused := not_paused_of_commands (hheld m) hm
    have hresting : ∀ n, restingA h (orbit (cycle F) s u n)
        = (orbit (cycle F) s u n).runtime.requestedCurrentA := by
      intro n
      rw [restingA, hpaused, if_neg (by decide)]
    have hdelivered : Settled F h.antiConfig (orbit (cycle F) s u (m + 1)) ↔
        losesCommand F (orbit (cycle F) s u m) (u m) = false :=
      (heldCycle_command ha (hheld m) hm).2
    have hconst : ∀ n, m + 1 ≤ n → (Settled F h.antiConfig (orbit (cycle F) s u n) ↔
        Settled F h.antiConfig (orbit (cycle F) s u (m + 1))) := by
      intro n hn
      have heq := htail (m + 1) (fun k hk => hlast' k (by omega)) n hn
      rw [hresting, hresting, Prod.mk.injEq] at heq
      rw [Settled, Settled, heq.1, heq.2]
    constructor
    · rintro ⟨b, hsettled⟩
      refine ⟨fun n hn => ?_, fun hnone => absurd hm (by rw [hnone m]; decide)⟩
      obtain rfl : n = m := by
        rcases Nat.lt_trichotomy n m with hlt | heq | hgt
        · exact absurd hm (by rw [hn.2 m hlt]; decide)
        · exact heq
        · exact absurd hn.1 (by rw [hlast' n hgt]; decide)
      have hlate := hsettled (max b (n + 1)) (by omega)
      exact hdelivered.mp ((hconst _ (by omega)).mp hlate)
    · rintro ⟨hcommand, -⟩
      have hgood := hdelivered.mpr (hcommand m ⟨hm, hlast'⟩)
      exact ⟨m + 1, fun n hn => (hconst n hn).mpr hgood⟩
  · have hnone : ∀ n, commands F (orbit (cycle F) s u n) (u n) = false := by
      intro n
      cases hq : commands F (orbit (cycle F) s u n) (u n) with
      | false => rfl
      | true => exact absurd ⟨n, hq⟩ hsome
    have hconst : ∀ n, Settled F h.antiConfig (orbit (cycle F) s u (n + 1)) ↔
        limitWithin h.antiConfig (F.status s.controller.charger) (restingA h s) = true := by
      intro n
      have heq := htail 0 (fun k _ => hnone k) n (by omega)
      rw [Prod.mk.injEq, orbit_zero] at heq
      obtain ⟨hstatus, hreq, -⟩ := held_quiet_step ha hr hheld (hnone n)
      rw [Settled, hstatus, hreq, heq.1, heq.2]
    constructor
    · rintro ⟨b, hsettled⟩
      exact ⟨fun n hn => absurd hn.1 (by rw [hnone n]; decide),
        fun _ => (hconst b).mp (hsettled (b + 1) (by omega))⟩
    · rintro ⟨-, hstart⟩
      refine ⟨1, fun n hn => ?_⟩
      obtain ⟨k, rfl⟩ : ∃ k, n = k + 1 := ⟨n - 1, by omega⟩
      exact (hconst k).mpr (hstart hnone)

/-- The configuration of a cycle has bounds and increase steps that are not negative. -/
def StepsUp (k : Cycle σ) : Prop :=
  0 ≤ k.call.config.minCurrentA ∧ 0 ≤ k.call.config.maxCurrentIncreasePerStepA

theorem restsAtZero_run (charger : σ) (ks : List (Cycle σ)) (hks : ∀ k ∈ ks, StepsUp k) :
    RestsAtZero (run (cycle F) { controller := { charger := charger } } ks).runtime := by
  refine AllSteps.preserves (C := fun _ k => StepsUp k)
    (I := fun s : CoupledState σ => RestsAtZero s.runtime) (fun s k hr hk => ?_)
    restsAtZero_fresh (AllSteps.of_forall_mem hks)
  exact restsAtZero_step hk.1 hk.2 hr

end Held

/-! ### The mock charger holds -/

/-- The mock charger keeps charging through a held target, unless it is paused or may be asked for
0 A. -/
theorem mock_heldCycle {h : HeldSetting} (ha : h.Admissible) (hmin : 0 < h.config.minCurrentA)
    (hpaused : respectsManualPause h.chargingMode h.overrideActive = false)
    {s : CoupledState MockChargeAmpsController} {k k' : Cycle MockChargeAmpsController}
    (hk : HeldCycle mockCharger h s k) (hr : RestsAtZero s.runtime) (hin : HeldInputs h k')
    (henv : k'.env = id) : HeldCycle mockCharger h (cycle mockCharger s k) k' := by
  have hconfig : (cycleCall mockCharger s k).config = h.config := hk.inputs.config
  have honline : (cycleStatus mockCharger s k).connected = true := by
    rw [hk.status_eq, hk.connected]
  have hvehicle : (cycleStatus mockCharger s k).vehicleConnected = true := by
    rw [hk.status_eq, hk.vehicle]
  have hcharging : (cycleStatus mockCharger s k).charging = true := by
    rw [hk.status_eq, hk.charging]
  have hafter : (mockCharger.status (cycle mockCharger s k).controller.charger).connected = true ∧
      (mockCharger.status (cycle mockCharger s k).controller.charger).vehicleConnected = true ∧
      (mockCharger.status (cycle mockCharger s k).controller.charger).charging = true := by
    cases hq : commands mockCharger s k with
    | false =>
      obtain ⟨-, -, hdecision⟩ := evaluate_quiet (hk.targeted ha) hr (by rw [hconfig]; exact hmin.le) hq
      rw [hk.paused, hpaused, hconfig] at hdecision
      have hwithdrawn : (cycleDecision mockCharger s k).toApply = false := by
        rcases hdecision with hw | ⟨-, -, hp | h0⟩
        · exact hw
        · exact absurd hp (by decide)
        · exact absurd h0 hmin.ne'
      rw [cycle_controller_of_withdrawn mockCharger hwithdrawn]
      exact ⟨honline, hvehicle, hcharging⟩
    | true =>
      obtain ⟨-, -, hissued, hcurrent, hpos⟩ := evaluate_command (by rw [hconfig]; exact ha.increase_nonneg) hq
      rw [cycle_controller_of_current mockCharger hpos hissued hcurrent honline]
      split_ifs with hwithheld
      · exact ⟨honline, hvehicle, hcharging⟩
      · have hon : (mockCharger.status (k.env s.controller.charger)).charging = true := hcharging
        rw [delivered, if_pos hon]
        refine ⟨honline, hvehicle, ?_⟩
        show (decide (max 0 (commandA s.runtime (cycleCall mockCharger s k)) > 0) &&
          (cycleStatus mockCharger s k).vehicleConnected) = true
        rw [max_eq_right hpos.le, hvehicle]
        simpa using hpos
  exact ⟨hin, by rw [henv]; rfl, hafter.1, hafter.2.1, hafter.2.2⟩

/-- On the mock charger it is enough that the inputs hold and that it charges at the start. -/
theorem mock_held {h : HeldSetting} (ha : h.Admissible) (hmin : 0 < h.config.minCurrentA)
    (hpaused : respectsManualPause h.chargingMode h.overrideActive = false)
    {s : CoupledState MockChargeAmpsController} {u : ℕ → Cycle MockChargeAmpsController}
    (hr : RestsAtZero s.runtime) (hs : HeldCycle mockCharger h s (u 0))
    (hin : ∀ n, HeldInputs h (u n)) (henv : ∀ n, (u n).env = id) :
    ∀ n, HeldCycle mockCharger h (orbit (cycle mockCharger) s u n) (u n) := by
  have key : ∀ n, HeldCycle mockCharger h (orbit (cycle mockCharger) s u n) (u n) ∧
      RestsAtZero (orbit (cycle mockCharger) s u n).runtime := by
    intro n
    induction n with
    | zero => exact ⟨hs, hr⟩
    | succ n ih =>
      have hconfig : (cycleCall mockCharger (orbit (cycle mockCharger) s u n) (u n)).config
          = h.config := ih.1.inputs.config
      refine ⟨mock_heldCycle ha hmin hpaused ih.1 ih.2 (hin (n + 1)) (henv (n + 1)), ?_⟩
      apply restsAtZero_step _ _ ih.2
      · rw [hconfig]
        exact hmin.le
      · rw [hconfig]
        exact ha.increase_nonneg
  exact fun n => (key n).1

/-- **No lost current change.** From every state that some run of cycles reaches, a held target brings
the charger's limit within the hysteresis of the current asked for, and keeps it there, exactly if the
last command is delivered. -/
theorem eventuallySettled_iff {σ : Type*} (F : FaithfulCharger σ) (charger : σ)
    (ks : List (Cycle σ)) (hks : ∀ k ∈ ks, StepsUp k) (h : HeldSetting) (ha : h.Admissible)
    (u : ℕ → Cycle σ)
    (hheld : ∀ n, HeldCycle F h
      (orbit (cycle F) (run (cycle F) { controller := { charger := charger } } ks) u n) (u n)) :
    EventuallySettled F h (run (cycle F) { controller := { charger := charger } } ks) u ↔
      LastCommandDelivered F h (run (cycle F) { controller := { charger := charger } } ks) u :=
  eventuallySettled_iff_of_rests ha (restsAtZero_run charger ks hks) hheld

/-! ### A ramp step lost to the change interval -/

/-- A charge that starts at 6 A, with 30 s between changes. -/
def lostStepConfig : ChargingConfig := { startDelaySeconds := 0 }

def lostStepCycle (now targetA : ℚ) : Cycle MockChargeAmpsController :=
  { env := id, antiConfig := { minChangeIntervalSeconds := 30 }
    call := { config := lostStepConfig, optimizerTargetA := targetA, isCharging := false
              now := now } }

/-- The target that is held from then on, in a cycle every 15 s. -/
def lostStepSetting (targetA : ℚ) : HeldSetting :=
  { config := lostStepConfig, antiConfig := { minChangeIntervalSeconds := 30 }, targetA := targetA }

def lostStepStream (targetA : ℚ) (n : ℕ) : Cycle MockChargeAmpsController :=
  lostStepCycle (15 * (n + 1)) targetA

def lostStepStart : CoupledState MockChargeAmpsController :=
  run (cycle mockCharger) { controller := { charger := {} } } [lostStepCycle 0 6]

theorem lostStep_admissible {targetA : ℚ} (hmin : 6 ≤ targetA) (hmax : targetA ≤ 16) :
    (lostStepSetting targetA).Admissible := by
  refine ⟨?_, ?_, ?_, ?_, hmin, hmax⟩
  · show (0 : ℚ) ≤ 6
    norm_num
  · show (0 : ℚ) ≤ 1
    norm_num
  · show (0 : ℚ) ≤ 2
    norm_num
  · exact lt_of_lt_of_le (by norm_num) hmin

theorem lostStep_stepsUp : ∀ k ∈ [lostStepCycle 0 6], StepsUp k := by
  intro k hk
  rw [List.mem_singleton.mp hk]
  exact ⟨show (0 : ℚ) ≤ 6 by norm_num, show (0 : ℚ) ≤ 1 by norm_num⟩

theorem lostStep_held {targetA : ℚ} (hmin : 6 ≤ targetA) (hmax : targetA ≤ 16) :
    ∀ n, HeldCycle mockCharger (lostStepSetting targetA)
      (orbit (cycle mockCharger) lostStepStart (lostStepStream targetA) n) (lostStepStream targetA n) := by
  have hin : ∀ n, HeldInputs (lostStepSetting targetA) (lostStepStream targetA n) :=
    fun n => ⟨rfl, rfl, rfl, rfl, rfl, rfl⟩
  refine mock_held (lostStep_admissible hmin hmax) (show (0 : ℚ) < 6 by norm_num) rfl
    (restsAtZero_run (F := mockCharger) {} _ lostStep_stepsUp) ⟨hin 0, rfl, ?_, ?_, ?_⟩ hin
    (fun _ => rfl)
  · decide +kernel
  · decide +kernel
  · decide +kernel

theorem eventuallySettled_iff_at_six :
    EventuallySettled mockCharger (lostStepSetting 6) lostStepStart (lostStepStream 6) ↔
      LastCommandDelivered mockCharger (lostStepSetting 6) lostStepStart (lostStepStream 6) :=
  eventuallySettled_iff mockCharger {} [lostStepCycle 0 6] lostStep_stepsUp (lostStepSetting 6)
    (lostStep_admissible le_rfl (by norm_num)) (lostStepStream 6)
    (lostStep_held le_rfl (by norm_num))

/-- The step from 6 A to 7 A comes 15 s after the start, is withheld, and is never made good. -/
theorem ramp_step_lost_to_change_interval : lostStepConfig.ApiAdmits ∧ (lostStepSetting 7).Admissible ∧
      (∀ n, HeldCycle mockCharger (lostStepSetting 7)
        (orbit (cycle mockCharger) lostStepStart (lostStepStream 7) n) (lostStepStream 7 n)) ∧
      ¬ EventuallySettled mockCharger (lostStepSetting 7) lostStepStart (lostStepStream 7) := by
  have ha := @lostStep_admissible 7 (by norm_num) (by norm_num)
  have hheld := @lostStep_held 7 (by norm_num) (by norm_num)
  have hr : RestsAtZero lostStepStart.runtime :=
    restsAtZero_run (F := mockCharger) {} _ lostStep_stepsUp
  refine ⟨by decide +kernel, ha, hheld, fun hsettled => ?_⟩
  have hlast : LastCommand mockCharger lostStepStart (lostStepStream 7) 0 := by
    refine ⟨by decide +kernel, fun k hk => ?_⟩
    exact held_quiet_at_target ha hr hheld rfl (m := 1) (by decide +kernel) (by decide +kernel) k hk
  have hlost : losesCommand mockCharger lostStepStart (lostStepStream 7 0) = true := by
    decide +kernel
  have hgood := ((eventuallySettled_iff_of_rests ha hr hheld).mp hsettled).1 0 hlast
  rw [orbit_zero, hlost] at hgood
  exact absurd hgood (by decide)

end EnergyCore.Charging
