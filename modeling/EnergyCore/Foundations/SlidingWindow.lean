import Mathlib.Algebra.Order.Group.Defs
import Mathlib.Data.List.Basic
import Mathlib.Data.List.Count
import Mathlib.Tactic.Abel

/-!
# Sliding windows over a log of time stamps

A log is limited if no closed window of length `w` holds more than `limit` of its stamps. A component
that may forget every stamp older than `w`, and adds a stamp only while it remembers fewer than `limit`
of them, writes a limited log:

* `recent` — the stamps from `x` on, and `keptAt` — what is remembered at the time of the last call;
* `recent_keptAt` — forgetting early and forgetting late come to the same;
* `Limited.append` — the step lemma of the limit;
* `LimitedBelow`, `Remembers` — the same for half-open windows, of a component that prunes what it remembers on
  every call and may forget to add a stamp.
-/

namespace EnergyCore.SlidingWindow

variable {α : Type*} [LinearOrder α]

/-- The stamps from `x` on. -/
def recent (x : α) (log : List α) : List α := log.filter fun t => decide (x ≤ t)

theorem recent_recent {x y : α} (h : x ≤ y) (log : List α) : recent y (recent x log) = recent y log := by
  unfold recent
  rw [List.filter_filter]
  apply List.filter_congr
  intro t _
  by_cases ht : y ≤ t
  · simp [ht, h.trans ht]
  · simp [ht]

theorem recent_append (x : α) (log log' : List α) :
    recent x (log ++ log') = recent x log ++ recent x log' := List.filter_append _ _

variable [AddCommGroup α]

/-- No closed window of length `w` holds more than `limit` stamps of the log. -/
def Limited (w : α) (limit : ℕ) (log : List α) : Prop :=
  ∀ a, log.countP (fun t => decide (a ≤ t) && decide (t ≤ a + w)) ≤ limit

/-- The stamps that are remembered at the time of the last call. -/
def keptAt (w : α) (clock : Option α) (log : List α) : List α :=
  match clock with
  | none => log
  | some t => recent (t - w) log

theorem limited_nil (w : α) (limit : ℕ) : Limited w limit [] := fun _ => Nat.zero_le _

theorem Limited.of_sublist {w : α} {limit : ℕ} {log log' : List α} (h : Limited w limit log')
    (hsub : log.Sublist log') : Limited w limit log :=
  fun a => (hsub.countP_le).trans (h a)

variable [IsOrderedAddMonoid α]

theorem recent_keptAt {w now : α} {clock : Option α} (h : ∀ t ∈ clock, t ≤ now) (log : List α) :
    recent (now - w) (keptAt w clock log) = recent (now - w) log := by
  cases clock with
  | none => rfl
  | some t => exact recent_recent (sub_le_sub_right (h t rfl) w) log

/-- A stamp may be added while fewer than `limit` stamps are recent. -/
theorem Limited.append {w now : α} {limit : ℕ} {log : List α} (h : Limited w limit log)
    (hroom : (recent (now - w) log).length < limit) : Limited w limit (log ++ [now]) := by
  intro a
  rw [List.countP_append, List.countP_singleton]
  by_cases hin : a ≤ now ∧ now ≤ a + w
  · have hstart : now - w ≤ a := sub_le_iff_le_add.mpr hin.2
    -- the window ends at `now` or later, so what it holds of the log is recent
    have hle : log.countP (fun t => decide (a ≤ t) && decide (t ≤ a + w))
        ≤ (recent (now - w) log).length := by
      rw [recent, ← List.countP_eq_length_filter]
      apply List.countP_mono_left
      intro t _ ht
      simp only [Bool.and_eq_true, decide_eq_true_eq] at ht ⊢
      exact hstart.trans ht.1
    split_ifs
    · omega
    · omega
  · have hout : (decide (a ≤ now) && decide (now ≤ a + w)) = false := by
      simpa using hin
    rw [hout]
    simpa using h a

/-! ### Half-open windows -/

/-- The stamps that are younger than `w`. -/
def within (w now : α) (log : List α) : List α := log.filter fun t => decide (now - t < w)

/-- No half-open window of length `w` holds more than `limit` stamps of the log. -/
def LimitedBelow (w : α) (limit : ℕ) (log : List α) : Prop :=
  ∀ a, log.countP (fun t => decide (a ≤ t) && decide (t < a + w)) ≤ limit

omit [IsOrderedAddMonoid α] in
theorem LimitedBelow.of_sublist {w : α} {limit : ℕ} {log log' : List α} (h : LimitedBelow w limit log')
    (hsub : log.Sublist log') : LimitedBelow w limit log :=
  fun a => (hsub.countP_le).trans (h a)

theorem within_within {w now now' : α} (h : now ≤ now') (log : List α) :
    within w now' (within w now log) = within w now' log := by
  unfold within
  rw [List.filter_filter]
  refine List.filter_congr fun t _ => ?_
  by_cases ht : now' - t < w
  · have hearlier : now - t < w := lt_of_le_of_lt (sub_le_sub_right h t) ht
    simp [ht, hearlier]
  · simp [ht]

theorem LimitedBelow.append {w now : α} {limit : ℕ} {log : List α} (h : LimitedBelow w limit log)
    (hroom : (within w now log).length < limit) : LimitedBelow w limit (log ++ [now]) := by
  intro a
  rw [List.countP_append, List.countP_singleton]
  by_cases hin : a ≤ now ∧ now < a + w
  · -- what the window holds of the log is younger than `w`
    have hle : log.countP (fun t => decide (a ≤ t) && decide (t < a + w)) ≤
        (within w now log).length := by
      rw [within, ← List.countP_eq_length_filter]
      refine List.countP_mono_left fun t _ ht => ?_
      simp only [Bool.and_eq_true, decide_eq_true_eq] at ht ⊢
      calc now - t ≤ now - a := sub_le_sub_left ht.1 now
        _ < w := sub_lt_iff_lt_add'.mpr hin.2
    split_ifs
    · omega
    · omega
  · have hout : (decide (a ≤ now) && decide (now < a + w)) = false := by
      simpa using hin
    rw [hout]
    simpa using h a

/-- What a component remembers of its stamps: it has all that are younger than `w`, now and later, and the
stamps that are `recorded` are limited. -/
structure Remembers (w : α) (limit : ℕ) (clock : Option α) (window recorded : List α) : Prop where
  exists_log : ∃ log, recorded.Sublist log ∧ LimitedBelow w limit log ∧
    ∀ now, (∀ t ∈ clock, t ≤ now) → within w now window = within w now log

namespace Remembers

variable {w now : α} {limit : ℕ} {clock : Option α} {window recorded : List α}

omit [IsOrderedAddMonoid α] in
theorem start (w : α) (limit : ℕ) (clock : Option α) : Remembers w limit clock [] [] :=
  ⟨[], List.Sublist.refl _, fun _ => Nat.zero_le _, fun _ _ => rfl⟩

omit [IsOrderedAddMonoid α] in
theorem limited (h : Remembers w limit clock window recorded) : LimitedBelow w limit recorded := by
  obtain ⟨log, hsub, hlimited, -⟩ := h.exists_log
  exact hlimited.of_sublist hsub

omit [IsOrderedAddMonoid α] in
theorem advance (h : Remembers w limit clock window recorded) (hnow : ∀ t ∈ clock, t ≤ now) :
    Remembers w limit (some now) window recorded := by
  obtain ⟨log, hsub, hlimited, hsame⟩ := h.exists_log
  refine ⟨log, hsub, hlimited, fun now' hnow' => hsame now' fun t ht => ?_⟩
  exact (hnow t ht).trans (hnow' now rfl)

theorem prune (h : Remembers w limit clock window recorded) (hnow : ∀ t ∈ clock, t ≤ now) :
    Remembers w limit (some now) (within w now window) recorded := by
  obtain ⟨log, hsub, hlimited, hsame⟩ := h.exists_log
  refine ⟨log, hsub, hlimited, fun now' hnow' => ?_⟩
  have hle : now ≤ now' := hnow' now rfl
  rw [within_within hle]
  exact hsame now' fun t ht => (hnow t ht).trans hle

/-- **The step lemma.** A stamp is added while fewer than `limit` are younger than `w`, and may be recorded. -/
theorem add (h : Remembers w limit clock window recorded) (hnow : ∀ t ∈ clock, t ≤ now)
    (hroom : (within w now window).length < limit) :
    Remembers w limit (some now) (within w now window ++ [now]) recorded ∧
      Remembers w limit (some now) (within w now window ++ [now]) (recorded ++ [now]) := by
  obtain ⟨log, hsub, hlimited, hsame⟩ := h.exists_log
  rw [hsame now hnow] at hroom
  have hlater : ∀ now', (∀ t ∈ some now, t ≤ now') →
      within w now' (within w now window ++ [now]) = within w now' (log ++ [now]) := by
    intro now' hnow'
    have hle : now ≤ now' := hnow' now rfl
    have hpruned : within w now' (within w now window) = within w now' log := by
      rw [within_within hle]
      exact hsame now' fun t ht => (hnow t ht).trans hle
    unfold within at hpruned ⊢
    rw [List.filter_append, List.filter_append, hpruned]
  exact ⟨⟨log ++ [now], hsub.trans (List.sublist_append_left log [now]), hlimited.append hroom, hlater⟩,
    ⟨log ++ [now], hsub.append (List.Sublist.refl _), hlimited.append hroom, hlater⟩⟩

end Remembers

end EnergyCore.SlidingWindow
