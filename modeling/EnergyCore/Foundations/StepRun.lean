import Mathlib.Data.List.Basic
import Mathlib.Order.Defs.PartialOrder

/-!
# Runs of a deterministic step function

A component with memory is a step function `step : σ → ι → σ`: it consumes one input and moves on.
A run is the list of the inputs it consumed. This file packages the inductions over runs once:

* `run` — the state a run ends in, and `AllSteps` — a property of the state and input of every step;
* `AllPairs` — the same for every two neighbouring steps, where the property sees the state
  between them;
* `AllSteps.preserves` and `AllSteps.of_invariant` — the invariant rule, relative to a condition
  `C` that every step of the run meets;
* `le_run` and `run_eq_iff_allSteps` — a quantity that no step lowers, and that exactly the bad steps
  raise, is unchanged exactly by the runs without a bad step;
* `run_simulates` and `AllSteps.simulates` — a step function that simulates another one;
* `orbit` — the states along an infinite stream of inputs, with its own invariant rule, and
  `orbit_eventually_quiet`, the variant rule for steps that can act only finitely often.

Nothing here knows what the component is.
-/

namespace EnergyCore.StepRun

variable {σ ι : Type*}

/-! ### Finite runs -/

/-- The state reached from `s` over the inputs `is`. -/
def run (step : σ → ι → σ) (s : σ) (is : List ι) : σ := is.foldl step s

@[simp] theorem run_nil (step : σ → ι → σ) (s : σ) : run step s [] = s := rfl

@[simp] theorem run_cons (step : σ → ι → σ) (s : σ) (i : ι) (is : List ι) :
    run step s (i :: is) = run step (step s i) is := rfl

theorem run_append (step : σ → ι → σ) (s : σ) (is js : List ι) :
    run step s (is ++ js) = run step (run step s is) js := List.foldl_append

/-- `P` holds of the state before and the input of every step of the run. -/
def AllSteps (step : σ → ι → σ) (P : σ → ι → Prop) : σ → List ι → Prop
  | _, [] => True
  | s, i :: is => P s i ∧ AllSteps step P (step s i) is

instance AllSteps.instDecidable (step : σ → ι → σ) (P : σ → ι → Prop)
    [h : ∀ s i, Decidable (P s i)] : ∀ (s : σ) (is : List ι), Decidable (AllSteps step P s is)
  | _, [] => .isTrue trivial
  | s, i :: is => @instDecidableAnd _ _ (h s i) (AllSteps.instDecidable step P (step s i) is)

/-- `P` holds of the state before the first, and the inputs, of every two neighbouring steps. -/
def AllPairs (step : σ → ι → σ) (P : σ → ι → ι → Prop) : σ → List ι → Prop
  | _, [] => True
  | _, [_] => True
  | s, i :: j :: is => P s i j ∧ AllPairs step P (step s i) (j :: is)

instance AllPairs.instDecidable (step : σ → ι → σ) (P : σ → ι → ι → Prop)
    [h : ∀ s i j, Decidable (P s i j)] : ∀ (s : σ) (is : List ι), Decidable (AllPairs step P s is)
  | _, [] => .isTrue trivial
  | _, [_] => .isTrue trivial
  | s, i :: j :: is =>
    @instDecidableAnd _ _ (h s i j) (AllPairs.instDecidable step P (step s i) (j :: is))

theorem AllSteps.append {step : σ → ι → σ} {P : σ → ι → Prop} {s : σ} {is js : List ι} :
    AllSteps step P s (is ++ js) ↔ AllSteps step P s is ∧ AllSteps step P (run step s is) js := by
  induction is generalizing s with
  | nil => simp [AllSteps]
  | cons i is ih => simp only [List.cons_append, AllSteps, run_cons, ih, and_assoc]

/-- The steps of a run are the inputs after each of its beginnings. -/
theorem AllSteps.iff_forall_prefix {step : σ → ι → σ} {P : σ → ι → Prop} {s : σ} {is : List ι} :
    AllSteps step P s is ↔ ∀ before i after, is = before ++ i :: after → P (run step s before) i := by
  induction is generalizing s with
  | nil => exact iff_of_true trivial fun before i after h => absurd h (by simp)
  | cons j is ih =>
    rw [AllSteps, ih]
    constructor
    · rintro ⟨hfirst, hrest⟩ before i after h
      cases before with
      | nil =>
        obtain ⟨rfl, -⟩ := List.cons.inj h
        exact hfirst
      | cons k before =>
        obtain ⟨rfl, hrest'⟩ := List.cons.inj h
        exact hrest before i after hrest'
    · intro h
      exact ⟨h [] j is rfl, fun before i after hrest => h (j :: before) i after (by rw [hrest]; rfl)⟩

theorem AllSteps.mono {step : σ → ι → σ} {P Q : σ → ι → Prop} (h : ∀ s i, P s i → Q s i)
    {s : σ} {is : List ι} (hP : AllSteps step P s is) : AllSteps step Q s is := by
  induction is generalizing s with
  | nil => trivial
  | cons i is ih => exact ⟨h s i hP.1, ih hP.2⟩

theorem AllSteps.congr {step : σ → ι → σ} {P Q : σ → ι → Prop} (h : ∀ s i, P s i ↔ Q s i)
    {s : σ} {is : List ι} : AllSteps step P s is ↔ AllSteps step Q s is :=
  ⟨AllSteps.mono fun s i => (h s i).mp, AllSteps.mono fun s i => (h s i).mpr⟩

theorem AllPairs.congr {step : σ → ι → σ} {P Q : σ → ι → ι → Prop}
    (h : ∀ s i j, P s i j ↔ Q s i j) {s : σ} {is : List ι} : AllPairs step P s is ↔ AllPairs step Q s is := by
  induction is generalizing s with
  | nil => exact Iff.rfl
  | cons i is ih =>
    cases is with
    | nil => exact Iff.rfl
    | cons j is => exact and_congr (h s i j) ih

/-- **The invariant rule.** If every step of the run meets `C`, and a step that meets `C` keeps
the invariant `I`, the run ends in `I`. -/
theorem AllSteps.preserves {step : σ → ι → σ} {C : σ → ι → Prop} {I : σ → Prop}
    (hstep : ∀ s i, I s → C s i → I (step s i)) {s : σ} {is : List ι} (hs : I s)
    (hC : AllSteps step C s is) : I (run step s is) := by
  induction is generalizing s with
  | nil => exact hs
  | cons i is ih => exact ih (hstep s i hs hC.1) hC.2

/-- **The invariant rule, along the run.** Under the invariant, `C` at every step gives `P` at
every step. -/
theorem AllSteps.of_invariant {step : σ → ι → σ} {C P : σ → ι → Prop} {I : σ → Prop}
    (hstep : ∀ s i, I s → C s i → P s i ∧ I (step s i)) {s : σ} {is : List ι} (hs : I s)
    (hC : AllSteps step C s is) : AllSteps step P s is := by
  induction is generalizing s with
  | nil => trivial
  | cons i is ih =>
    obtain ⟨hP, hI⟩ := hstep s i hs hC.1
    exact ⟨hP, ih hI hC.2⟩

/-- A property of the inputs alone holds at every step of a run over such inputs. -/
theorem AllSteps.of_forall_mem {step : σ → ι → σ} {P : ι → Prop} {s : σ} {is : List ι}
    (h : ∀ i ∈ is, P i) : AllSteps step (fun _ i => P i) s is := by
  induction is generalizing s with
  | nil => trivial
  | cons i is ih =>
    exact ⟨h i (by simp), ih fun j hj => h j (by simp [hj])⟩

theorem AllSteps.and {step : σ → ι → σ} {P Q : σ → ι → Prop} {s : σ} {is : List ι}
    (hP : AllSteps step P s is) (hQ : AllSteps step Q s is) : AllSteps step (fun s i => P s i ∧ Q s i) s is := by
  induction is generalizing s with
  | nil => trivial
  | cons i is ih => exact ⟨⟨hP.1, hQ.1⟩, ih hP.2 hQ.2⟩

/-- **The first bad step.** Two properties that agree under an invariant hold along the same runs, if the
steps that have them keep the invariant. -/
theorem AllSteps.congr_of_invariant {step : σ → ι → σ} {C P Q : σ → ι → Prop} {I : σ → Prop}
    (hstep : ∀ s i, I s → C s i → Q s i → I (step s i))
    (h : ∀ s i, I s → C s i → (P s i ↔ Q s i)) {s : σ} {is : List ι} (hs : I s)
    (hC : AllSteps step C s is) : AllSteps step P s is ↔ AllSteps step Q s is := by
  induction is generalizing s with
  | nil => exact Iff.rfl
  | cons i is ih =>
    rw [AllSteps, AllSteps, h s i hs hC.1]
    exact and_congr_right fun hQ => ih (hstep s i hs hC.1 hQ) hC.2

/-! ### Quantities along a run -/

/-- A quantity that no step lowers is not lowered by a run. -/
theorem le_run {β : Type*} [Preorder β] {step : σ → ι → σ} {I : σ → Prop} {C : σ → ι → Prop}
    {μ : σ → β} (hstep : ∀ s i, I s → C s i → I (step s i) ∧ μ s ≤ μ (step s i)) {s : σ}
    {is : List ι} (hs : I s) (hC : AllSteps step C s is) : μ s ≤ μ (run step s is) := by
  induction is generalizing s with
  | nil => exact le_rfl
  | cons i is ih =>
    obtain ⟨hI, hle⟩ := hstep s i hs hC.1
    exact le_trans hle (ih hI hC.2)

/-- **The bad steps of a run.** If no step lowers a quantity and exactly the bad steps raise it, a run
leaves it unchanged exactly if none of its steps is bad. -/
theorem run_eq_iff_allSteps {β : Type*} [PartialOrder β] {step : σ → ι → σ} {I : σ → Prop}
    {C bad : σ → ι → Prop} {μ : σ → β} (hstep : ∀ s i, I s → C s i → I (step s i) ∧ μ s ≤ μ (step s i))
    (hbad : ∀ s i, I s → C s i → (μ (step s i) = μ s ↔ ¬ bad s i)) {s : σ} {is : List ι}
    (hs : I s) (hC : AllSteps step C s is) : μ (run step s is) = μ s ↔ AllSteps step (fun s i => ¬ bad s i) s is := by
  induction is generalizing s with
  | nil => exact iff_of_true rfl trivial
  | cons i is ih =>
    obtain ⟨hI, hle⟩ := hstep s i hs hC.1
    have hrest := le_run hstep hI hC.2
    rw [run_cons, AllSteps, ← ih hI hC.2, ← hbad s i hs hC.1]
    constructor
    · intro heq
      have hfirst : μ (step s i) = μ s := le_antisymm (le_trans hrest (le_of_eq heq)) hle
      exact ⟨hfirst, heq.trans hfirst.symm⟩
    · rintro ⟨hfirst, heq⟩
      exact heq.trans hfirst

/-! ### Simulation -/

section Simulation

variable {τ κ : Type*} {step : σ → ι → σ} {step' : τ → κ → τ} {f : σ → τ} {g : ι → κ}
  {I : σ → Prop} {C : σ → ι → Prop}

/-- If each step is a step of the other system on what `f` and `g` see, so is each run. -/
theorem run_simulates (hI : ∀ s i, I s → C s i → I (step s i))
    (hf : ∀ s i, I s → C s i → f (step s i) = step' (f s) (g i)) {s : σ} {is : List ι} (hs : I s)
    (hC : AllSteps step C s is) : f (run step s is) = run step' (f s) (is.map g) := by
  induction is generalizing s with
  | nil => rfl
  | cons i is ih =>
    rw [List.map_cons, run_cons, run_cons, ← hf s i hs hC.1]
    exact ih (hI s i hs hC.1) hC.2

/-- What holds at every step of the simulating run holds at every step of the simulated one. -/
theorem AllSteps.simulates (hI : ∀ s i, I s → C s i → I (step s i))
    (hf : ∀ s i, I s → C s i → f (step s i) = step' (f s) (g i)) {P : τ → κ → Prop} {s : σ}
    {is : List ι} (hs : I s) (hC : AllSteps step C s is) :
    AllSteps step' P (f s) (is.map g) ↔ AllSteps step (fun s i => P (f s) (g i)) s is := by
  induction is generalizing s with
  | nil => exact Iff.rfl
  | cons i is ih =>
    rw [List.map_cons, AllSteps, AllSteps, ← hf s i hs hC.1, ih (hI s i hs hC.1) hC.2]

end Simulation

/-! ### Infinite runs -/

/-- The states along the infinite stream of inputs `u`. -/
def orbit (step : σ → ι → σ) (s : σ) (u : ℕ → ι) : ℕ → σ
  | 0 => s
  | n + 1 => step (orbit step s u n) (u n)

@[simp] theorem orbit_zero (step : σ → ι → σ) (s : σ) (u : ℕ → ι) : orbit step s u 0 = s := rfl

/-- An invariant kept by every step of the stream holds along the whole orbit. -/
theorem orbit_invariant {step : σ → ι → σ} {I : σ → Prop} {s : σ} {u : ℕ → ι} (hs : I s)
    (hstep : ∀ n, I (orbit step s u n) → I (step (orbit step s u n) (u n))) : ∀ n, I (orbit step s u n) := by
  intro n
  induction n with
  | zero => exact hs
  | succ n ih => exact hstep n ih

/-- If the step at `n` changes nothing that `f` sees, from some point on, then `f` is constant
from that point on. -/
theorem orbit_eventually_const {α : Type*} {step : σ → ι → σ} {s : σ} {u : ℕ → ι} (f : σ → α)
    {m : ℕ} (h : ∀ n, m ≤ n → f (orbit step s u (n + 1)) = f (orbit step s u n)) :
    ∀ n, m ≤ n → f (orbit step s u n) = f (orbit step s u m) := by
  intro n hn
  obtain ⟨k, rfl⟩ := Nat.exists_eq_add_of_le hn
  induction k with
  | zero => rfl
  | succ k ih => exact (h (m + k) (by omega)).trans (ih (by omega))

/-- **The variant rule.** If no step raises the measure and every step that acts lowers it, then from
some point on no step acts. -/
theorem orbit_eventually_quiet {step : σ → ι → σ} {s : σ} {u : ℕ → ι} (acts : ℕ → Prop) (μ : σ → ℕ)
    (hle : ∀ n, μ (orbit step s u (n + 1)) ≤ μ (orbit step s u n))
    (hlt : ∀ n, acts n → μ (orbit step s u (n + 1)) < μ (orbit step s u n)) : ∃ m, ∀ n, m ≤ n → ¬ acts n := by
  have hmono : ∀ m n, m ≤ n → μ (orbit step s u n) ≤ μ (orbit step s u m) := by
    intro m n hmn
    obtain ⟨k, rfl⟩ := Nat.exists_eq_add_of_le hmn
    clear hmn
    induction k with
    | zero => exact Nat.le_refl _
    | succ k ih => exact Nat.le_trans (hle (m + k)) ih
  have key : ∀ b m, μ (orbit step s u m) ≤ b → ∃ m', ∀ n, m' ≤ n → ¬ acts n := by
    intro b
    induction b with
    | zero =>
      intro m hb
      refine ⟨m, fun n hn hact => ?_⟩
      have h₁ := hlt n hact
      have h₂ := hmono m n hn
      omega
    | succ b ih =>
      intro m hb
      by_cases hquiet : ∀ n, m ≤ n → ¬ acts n
      · exact ⟨m, hquiet⟩
      · obtain ⟨n, hn, hact⟩ : ∃ n, m ≤ n ∧ acts n := by
          by_contra hnone
          exact hquiet fun n hn hact => hnone ⟨n, hn, hact⟩
        have h₁ := hlt n hact
        have h₂ := hmono m n hn
        exact ih (n + 1) (by omega)
  exact key _ 0 (Nat.le_refl _)

/-- If something acts, but from some point on nothing does, there is a last index that acts. -/
theorem exists_last_of_eventually_quiet {acts : ℕ → Prop} {m : ℕ} (hm : ∀ n, m ≤ n → ¬ acts n)
    (h : ∃ n, acts n) : ∃ n, acts n ∧ ∀ k, n < k → ¬ acts k := by
  induction m with
  | zero =>
    obtain ⟨n, hn⟩ := h
    exact absurd hn (hm n (by omega))
  | succ m ih =>
    by_cases hact : acts m
    · exact ⟨m, hact, fun k hk => hm k (by omega)⟩
    · refine ih fun n hn => ?_
      rcases Nat.eq_or_lt_of_le hn with rfl | hlt
      · exact hact
      · exact hm n (by omega)

end EnergyCore.StepRun
