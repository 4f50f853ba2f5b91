import Mathlib.Logic.Function.Basic

/-!
# Computations that may raise

A computation in `EStateM ε σ` changes a state and may raise; what it did before it raised stays done. `Ends`
says where it ends, normally or not, and its rules follow the program text:

* `ends_pure`, `ends_throw`, `ends_get`, `ends_modify` — the basic steps;
* `ends_bind` — one step after the other, `ends_ite` and `ends_runIf` — branches;
* `ends_tryCatch` — a handler starts where the body was left;
* `Ends.mono`, `Ends.and` — weaker facts, and two facts at once;
* `Ends.ok`, `Ends.error` — what an actual run has shown, `ends_bind_of_ok`, `ends_bind_of_error` — how it
  goes on, `run_bind_of_ok`, `run_bind_of_error` — where it gets, `ends_iff_of_ok`, `ends_iff_of_error` — what
  `Ends` says of it;
* `Keeps`, with `keeps_bind` and its companions — what no step of the computation breaks;
* `KeepsRaising`, with `keepsRaising_bind` and its companions — the same, with a property of what is raised;
* `Yields`, with `Yields.bind` and its companions — the same, with a property of the result.
-/

namespace EnergyCore.FallibleSteps

variable {ε σ α β : Type}

/-- Started in `s`, the computation `m` returns in `Q`, or raises in `E`. -/
def Ends (m : EStateM ε σ α) (s : σ) (Q : α → σ → Prop) (E : ε → σ → Prop) : Prop :=
  match m s with
  | .ok a s' => Q a s'
  | .error e s' => E e s'

variable {m : EStateM ε σ α} {s s' : σ} {Q Q' : α → σ → Prop} {E E' : ε → σ → Prop}

/-! ### Using and weakening -/

theorem Ends.ok (h : Ends m s Q E) {a : α} (heq : m s = .ok a s') : Q a s' := by
  unfold Ends at h
  rw [heq] at h
  exact h

theorem Ends.error (h : Ends m s Q E) {e : ε} (heq : m s = .error e s') : E e s' := by
  unfold Ends at h
  rw [heq] at h
  exact h

theorem Ends.mono (h : Ends m s Q E) (hQ : ∀ a s', Q a s' → Q' a s')
    (hE : ∀ e s', E e s' → E' e s') : Ends m s Q' E' := by
  unfold Ends at h ⊢
  cases hm : m s with
  | ok a s' =>
    rw [hm] at h
    exact hQ a s' h
  | error e s' =>
    rw [hm] at h
    exact hE e s' h

/-- Two facts about one computation. -/
theorem Ends.and (h : Ends m s Q E) (h' : Ends m s Q' E') :
    Ends m s (fun a s' => Q a s' ∧ Q' a s') (fun e s' => E e s' ∧ E' e s') := by
  unfold Ends at h h' ⊢
  cases hm : m s with
  | ok a s' =>
    rw [hm] at h h'
    exact ⟨h, h'⟩
  | error e s' =>
    rw [hm] at h h'
    exact ⟨h, h'⟩

/-- `if c: m`. -/
def runIf (c : Prop) [Decidable c] (m : EStateM ε σ Unit) : EStateM ε σ Unit :=
  if c then m else pure ()

/-! ### Basic steps -/

theorem ends_pure {a : α} (h : Q a s) : Ends (pure a) s Q E := h

theorem ends_throw {e : ε} (h : E e s) : Ends (throw e : EStateM ε σ α) s Q E := h

theorem ends_get {Q : σ → σ → Prop} (h : Q s s) : Ends (get : EStateM ε σ σ) s Q E := h

theorem ends_modify {f : σ → σ} {Q : PUnit → σ → Prop} (h : Q ⟨⟩ (f s)) :
    Ends (modify f : EStateM ε σ PUnit) s Q E := h

/-! ### Composition -/

theorem ends_bind {f : α → EStateM ε σ β} {R : β → σ → Prop} (h : Ends m s Q E)
    (hf : ∀ a s', Q a s' → Ends (f a) s' R E) : Ends (m >>= f) s R E := by
  unfold Ends at h ⊢
  show match EStateM.bind m f s with
    | .ok b s' => R b s'
    | .error e s' => E e s'
  unfold EStateM.bind
  cases hm : m s with
  | ok a s' =>
    rw [hm] at h
    exact hf a s' h
  | error e s' =>
    rw [hm] at h
    exact h

theorem ends_ite {c : Prop} [Decidable c] {m' : EStateM ε σ α} (h : c → Ends m s Q E)
    (h' : ¬ c → Ends m' s Q E) : Ends (if c then m else m') s Q E := by
  by_cases hc : c
  · rw [if_pos hc]
    exact h hc
  · rw [if_neg hc]
    exact h' hc

theorem ends_runIf {c : Prop} [Decidable c] {m : EStateM ε σ Unit} {Q : Unit → σ → Prop}
    (h : c → Ends m s Q E) (h' : ¬ c → Q () s) : Ends (runIf c m) s Q E := ends_ite h h'

theorem ends_tryCatch {handler : ε → EStateM ε σ α} (h : Ends m s Q E')
    (hh : ∀ e s', E' e s' → Ends (handler e) s' Q E) : Ends (tryCatch m handler) s Q E := by
  unfold Ends at h ⊢
  show match EStateM.tryCatch m handler s with
    | .ok a s' => Q a s'
    | .error e s' => E e s'
  unfold EStateM.tryCatch
  cases hm : m s with
  | ok a s' =>
    rw [hm] at h
    exact h
  | error e s' =>
    rw [hm] at h
    exact hh e s' h

/-- A handler that copes with whatever was raised. -/
theorem ends_tryCatch_any {handler : ε → EStateM ε σ α} (h : Ends m s Q fun _ _ => True)
    (hh : ∀ e s', Ends (handler e) s' Q E) : Ends (tryCatch m handler) s Q E :=
  ends_tryCatch h fun e s' _ => hh e s'

/-! ### Actual runs -/

theorem ends_iff_of_ok {a : α} (h : m s = .ok a s') : Ends m s Q E ↔ Q a s' := by
  unfold Ends
  rw [h]

theorem ends_iff_of_error {e : ε} (h : m s = .error e s') : Ends m s Q E ↔ E e s' := by
  unfold Ends
  rw [h]

theorem run_bind_of_ok {f : α → EStateM ε σ β} {a : α} (h : m s = .ok a s') : (m >>= f) s = f a s' := by
  show EStateM.bind m f s = f a s'
  rw [EStateM.bind, h]

theorem run_bind_of_error {f : α → EStateM ε σ β} {e : ε} (h : m s = .error e s') : (m >>= f) s = .error e s' := by
  show EStateM.bind m f s = .error e s'
  rw [EStateM.bind, h]

theorem ends_bind_of_ok {f : α → EStateM ε σ β} {R : β → σ → Prop} {a : α} (h : m s = .ok a s')
    (hf : Ends (f a) s' R E) : Ends (m >>= f) s R E := by
  unfold Ends
  show match EStateM.bind m f s with
    | .ok b s' => R b s'
    | .error e s' => E e s'
  rw [EStateM.bind, h]
  exact hf

theorem ends_bind_of_error {f : α → EStateM ε σ β} {R : β → σ → Prop} {e : ε} (h : m s = .error e s')
    (he : E e s') : Ends (m >>= f) s R E := by
  unfold Ends
  show match EStateM.bind m f s with
    | .ok b s' => R b s'
    | .error e s' => E e s'
  rw [EStateM.bind, h]
  exact he

/-! ### Invariants -/

/-- What holds before `m` holds after it, whether it returns or raises. -/
def Keeps (I : σ → Prop) (m : EStateM ε σ α) : Prop := ∀ s, I s → Ends m s (fun _ => I) fun _ => I

variable {I : σ → Prop}

theorem keeps_pure (a : α) : Keeps I (pure a : EStateM ε σ α) := fun _ h => ends_pure h

theorem keeps_throw (e : ε) : Keeps I (throw e : EStateM ε σ α) := fun _ h => ends_throw h

theorem keeps_get : Keeps I (get : EStateM ε σ σ) := fun _ h => ends_get h

theorem keeps_modify {f : σ → σ} (h : ∀ s, I s → I (f s)) :
    Keeps I (modify f : EStateM ε σ PUnit) := fun s hs => ends_modify (h s hs)

theorem keeps_bind {f : α → EStateM ε σ β} (h : Keeps I m) (hf : ∀ a, Keeps I (f a)) :
    Keeps I (m >>= f) := fun s hs => ends_bind (h s hs) fun a s' hs' => hf a s' hs'

theorem keeps_ite {c : Prop} [Decidable c] {m' : EStateM ε σ α} (h : Keeps I m) (h' : Keeps I m') :
    Keeps I (if c then m else m') :=
  fun s hs => ends_ite (fun _ => h s hs) fun _ => h' s hs

theorem keeps_runIf {c : Prop} [Decidable c] {m : EStateM ε σ Unit} (h : Keeps I m) :
    Keeps I (runIf c m) := keeps_ite h (keeps_pure ())

theorem keeps_tryCatch {handler : ε → EStateM ε σ α} (h : Keeps I m) (hh : ∀ e, Keeps I (handler e)) :
    Keeps I (tryCatch m handler) :=
  fun s hs => ends_tryCatch (h s hs) fun e s' hs' => hh e s' hs'

/-- `m` keeps `I`, or raises in `E`. -/
def KeepsRaising (I : σ → Prop) (E : ε → σ → Prop) (m : EStateM ε σ α) : Prop :=
  ∀ s, I s → Ends m s (fun _ => I) E

theorem keepsRaising_pure (a : α) : KeepsRaising I E (pure a : EStateM ε σ α) := fun _ h => ends_pure h

theorem keepsRaising_throw {e : ε} (h : ∀ s, I s → E e s) : KeepsRaising I E (throw e : EStateM ε σ α) :=
  fun s hs => ends_throw (h s hs)

theorem keepsRaising_get : KeepsRaising I E (get : EStateM ε σ σ) := fun _ h => ends_get h

theorem keepsRaising_modify {f : σ → σ} (h : ∀ s, I s → I (f s)) :
    KeepsRaising I E (modify f : EStateM ε σ PUnit) := fun s hs => ends_modify (h s hs)

theorem keepsRaising_bind {f : α → EStateM ε σ β} (h : KeepsRaising I E m)
    (hf : ∀ a, KeepsRaising I E (f a)) : KeepsRaising I E (m >>= f) :=
  fun s hs => ends_bind (h s hs) fun a s' hs' => hf a s' hs'

theorem keepsRaising_ite {c : Prop} [Decidable c] {m' : EStateM ε σ α} (h : c → KeepsRaising I E m)
    (h' : ¬ c → KeepsRaising I E m') : KeepsRaising I E (if c then m else m') :=
  fun s hs => ends_ite (fun hc => h hc s hs) fun hc => h' hc s hs

theorem keepsRaising_runIf {c : Prop} [Decidable c] {m : EStateM ε σ Unit} (h : KeepsRaising I E m) :
    KeepsRaising I E (runIf c m) := keepsRaising_ite (fun _ => h) fun _ => keepsRaising_pure ()

/-- `m` keeps `I`, and what it returns has `P`. -/
def Yields (I : σ → Prop) (P : α → Prop) (m : EStateM ε σ α) : Prop :=
  ∀ s, I s → Ends m s (fun a s' => P a ∧ I s') fun _ => I

theorem yields_pure {P : α → Prop} {a : α} (h : P a) : Yields I P (pure a : EStateM ε σ α) :=
  fun _ hs => ends_pure ⟨h, hs⟩

theorem yields_throw {P : α → Prop} (e : ε) : Yields I P (throw e : EStateM ε σ α) :=
  fun _ hs => ends_throw hs

theorem yields_bind {P : β → Prop} {f : α → EStateM ε σ β} (h : Keeps I m)
    (hf : ∀ a, Yields I P (f a)) : Yields I P (m >>= f) :=
  fun s hs => ends_bind (h s hs) fun a s' hs' => hf a s' hs'

theorem yields_ite {P : α → Prop} {c : Prop} [Decidable c] {m' : EStateM ε σ α} (h : Yields I P m)
    (h' : Yields I P m') : Yields I P (if c then m else m') :=
  fun s hs => ends_ite (fun _ => h s hs) fun _ => h' s hs

/-- The second step may rely on what the first one returns. -/
theorem Yields.bind {P : α → Prop} {R : β → Prop} {f : α → EStateM ε σ β} (h : Yields I P m)
    (hf : ∀ a, P a → Yields I R (f a)) : Yields I R (m >>= f) :=
  fun s hs => ends_bind (h s hs) fun a s' hs' => hf a hs'.1 s' hs'.2

theorem Yields.keeps_bind {P : α → Prop} {f : α → EStateM ε σ β} (h : Yields I P m)
    (hf : ∀ a, P a → Keeps I (f a)) : Keeps I (m >>= f) :=
  fun s hs => ends_bind (h s hs) fun a s' hs' => hf a hs'.1 s' hs'.2

end EnergyCore.FallibleSteps
