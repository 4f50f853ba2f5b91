import EnergyCore.Foundations.Neighbours
import Mathlib.Algebra.Order.Group.Basic
import Mathlib.Algebra.Order.BigOperators.Group.List
import Mathlib.Tactic.Abel

/-!
# Sampled statuses

A status is known at the times of its samples and lasts until the next one. What is held while it is on adds up over
the intervals between neighbours.

* `held_repeat` — a sample that repeats the status of the one before it changes nothing;
* `held_concat` — unless it comes after all others, when the last status is held until then;
* `held_le_append` — later samples only add;
* `within_length_add` — the time within two adjacent windows is the time within both;
* `sum_within_length_le` — disjoint windows share no time.
-/

namespace EnergyCore.SampledStatus

open Neighbours

variable {T M : Type*}

/-! ### What is held -/

section Held

variable [AddCommMonoid M]

/-- What is held between the first sample and the last, while the status is on. -/
def held (φ : T → T → M) (samples : List (T × Bool)) : M :=
  ((neighbours samples).map fun p => if p.1.2 = true then φ p.1.1 p.2.1 else 0).sum

variable {φ ψ : T → T → M} {samples before after : List (T × Bool)} {p q x : T × Bool}

@[simp] theorem held_nil : held φ [] = 0 := rfl

@[simp] theorem held_singleton : held φ [p] = 0 := rfl

theorem held_cons_cons : held φ (p :: q :: after) = (if p.2 = true then φ p.1 q.1 else 0) + held φ (q :: after) := by
  unfold held
  rw [neighbours_cons_cons, List.map_cons, List.sum_cons]

/-- A list of samples is held up to one of them and from there on. -/
theorem held_append : held φ (before ++ p :: after) = held φ (before ++ [p]) + held φ (p :: after) := by
  induction before with
  | nil => rw [List.nil_append, List.nil_append, held_singleton, zero_add]
  | cons b before ih =>
    cases before with
    | nil =>
      rw [List.singleton_append, List.singleton_append, held_cons_cons, held_cons_cons, held_singleton, add_zero]
    | cons b' before =>
      rw [List.cons_append, List.cons_append] at ih
      rw [List.cons_append, List.cons_append, List.cons_append, List.cons_append, held_cons_cons, held_cons_cons, ih,
        add_assoc]

/-- A last sample adds what is held since the one before it. -/
theorem held_concat : held φ (before ++ [p, x]) = held φ (before ++ [p]) + if p.2 = true then φ p.1 x.1 else 0 := by
  rw [held_append, held_cons_cons, held_singleton, add_zero]

theorem held_add : held φ samples + held ψ samples = held (fun a b => φ a b + ψ a b) samples := by
  unfold held
  rw [← List.sum_map_add]
  congr 1
  refine List.map_congr_left fun pair _ => ?_
  split_ifs
  · rfl
  · exact add_zero 0

theorem held_zero : held (fun _ _ => (0 : M)) samples = 0 := by
  unfold held
  refine List.sum_eq_zero fun value hvalue => ?_
  obtain ⟨pair, -, rfl⟩ := List.mem_map.mp hvalue
  exact ite_self 0

/-- What is held in several ways is held in the sum of them. -/
theorem sum_held {ι : Type*} (ways : List ι) (φ : ι → T → T → M) :
    (ways.map fun i => held (φ i) samples).sum = held (fun a b => (ways.map fun i => φ i a b).sum) samples := by
  induction ways with
  | nil => exact held_zero.symm
  | cons i ways ih => simp only [List.map_cons, List.sum_cons, ih, held_add]

end Held

/-! ### Additive functions of intervals -/

section Additive

variable [LinearOrder T] [AddCommMonoid M]

/-- What an interval holds is what its parts hold together. -/
structure IsAdditive (φ : T → T → M) : Prop where
  self : ∀ a, φ a a = 0
  split : ∀ {a b c}, a ≤ b → b ≤ c → φ a c = φ a b + φ b c

/-- The samples are in order. -/
def Ordered (samples : List (T × Bool)) : Prop := samples.Pairwise fun p q => p.1 ≤ q.1

variable {φ : T → T → M} {samples before after : List (T × Bool)} {p q x : T × Bool}

/-- **A sample that repeats** the status of the one before it changes nothing between two others. -/
theorem held_repeat (hφ : IsAdditive φ) (hstatus : x.2 = p.2) (hpx : p.1 ≤ x.1) (hxq : x.1 ≤ q.1) :
    held φ (before ++ p :: x :: q :: after) = held φ (before ++ p :: q :: after) := by
  have hshort : held φ (before ++ p :: q :: after) = held φ (before ++ [p]) + held φ (p :: q :: after) := held_append
  rw [hshort, held_append, held_cons_cons, held_cons_cons, held_cons_cons, hstatus]
  split_ifs
  · rw [hφ.split hpx hxq, add_assoc]
  · rw [zero_add]

/-- An instant moved to the nearest one of a window. -/
def clamp (lo hi t : T) : T := max lo (min hi t)

/-- The part of an interval within a window. -/
def within (lo hi : T) (φ : T → T → M) : T → T → M := fun a b => φ (clamp lo hi a) (clamp lo hi b)

variable {lo hi a b t : T}

theorem clamp_mono (h : a ≤ b) : clamp lo hi a ≤ clamp lo hi b := max_le_max_left lo (min_le_min_left hi h)

theorem clamp_of_mem (hlo : lo ≤ t) (hhi : t ≤ hi) : clamp lo hi t = t := by
  unfold clamp
  rw [min_eq_right hhi, max_eq_right hlo]

theorem clamp_of_le (h : t ≤ lo) : clamp lo hi t = lo := max_eq_left ((min_le_right hi t).trans h)

theorem clamp_of_ge (h : hi ≤ t) : clamp lo hi t = max lo hi := by
  unfold clamp
  rw [min_eq_left h]

theorem IsAdditive.within (hφ : IsAdditive φ) : IsAdditive (within lo hi φ) where
  self := fun _ => hφ.self _
  split := fun hab hbc => hφ.split (clamp_mono hab) (clamp_mono hbc)

theorem within_eq_zero (hφ : IsAdditive φ) (h : clamp lo hi a = clamp lo hi b) : within lo hi φ a b = 0 := by
  unfold SampledStatus.within
  rw [h]
  exact hφ.self _

/-- Nothing is held within a window that all samples are moved to one instant of. -/
theorem held_within_eq_zero (hφ : IsAdditive φ) {c : T} (h : ∀ s ∈ samples, clamp lo hi s.1 = c) :
    held (within lo hi φ) samples = 0 := by
  induction samples with
  | nil => rfl
  | cons p samples ih =>
    cases samples with
    | nil => rfl
    | cons q samples =>
      have hpq : clamp lo hi p.1 = clamp lo hi q.1 :=
        (h p List.mem_cons_self).trans (h q (List.mem_cons_of_mem _ List.mem_cons_self)).symm
      rw [held_cons_cons, within_eq_zero hφ hpq, ite_self, zero_add]
      exact ih fun s hs => h s (List.mem_cons_of_mem _ hs)

end Additive

/-! ### Order -/

section Order

variable [LinearOrder T] [AddCommMonoid M] [PartialOrder M] [IsOrderedAddMonoid M]
variable {φ ψ : T → T → M} {samples later : List (T × Bool)}

theorem held_le (hle : ∀ {a b}, a ≤ b → φ a b ≤ ψ a b) (hordered : Ordered samples) :
    held φ samples ≤ held ψ samples := by
  induction samples with
  | nil => exact le_rfl
  | cons p samples ih =>
    obtain ⟨hp, hrest⟩ := List.pairwise_cons.mp hordered
    cases samples with
    | nil => exact le_rfl
    | cons q samples =>
      rw [held_cons_cons, held_cons_cons]
      refine add_le_add ?_ (ih hrest)
      split_ifs
      · exact hle (hp q List.mem_cons_self)
      · exact le_rfl

theorem held_nonneg (hφ : ∀ {a b}, a ≤ b → 0 ≤ φ a b) (hordered : Ordered samples) : 0 ≤ held φ samples := by
  have hzero : held (fun _ _ => (0 : M)) samples = 0 := held_zero
  rw [← hzero]
  exact held_le hφ hordered

/-- **Later samples** only add. -/
theorem held_le_append (hφ : ∀ {a b}, a ≤ b → 0 ≤ φ a b) (hordered : Ordered (samples ++ later)) :
    held φ samples ≤ held φ (samples ++ later) := by
  rcases List.eq_nil_or_concat samples with rfl | ⟨before, p, rfl⟩
  · exact held_nonneg hφ hordered
  · have hlater : held φ (before ++ p :: later) = held φ (before ++ [p]) + held φ (p :: later) := held_append
    rw [List.concat_eq_append, List.append_assoc, List.singleton_append, hlater]
    rw [List.concat_eq_append, List.append_assoc] at hordered
    exact le_add_of_nonneg_right (held_nonneg hφ (List.pairwise_append.mp hordered).2.1)

end Order

/-! ### Time -/

section Length

variable [LinearOrder T] [AddCommGroup T] {lo hi a b c t : T}

def length (a b : T) : T := b - a

theorem isAdditive_length : IsAdditive (length (T := T)) where
  self := sub_self
  split := fun _ _ => (sub_add_sub_cancel' _ _ _).symm

/-- **Adjacent windows** have the time of both. -/
theorem within_length_add (hab : a ≤ b) (hbc : b ≤ c) (s t : T) :
    within a b length s t + within b c length s t = within a c length s t := by
  have hclamp : ∀ t, clamp a b t + clamp b c t = clamp a c t + b := by
    intro t
    rcases le_total t b with htb | hbt
    · rw [clamp_of_le htb]
      unfold clamp
      rw [min_eq_right htb, min_eq_right (htb.trans hbc)]
    · rw [clamp_of_ge hbt, max_eq_right hab, add_comm]
      unfold clamp
      have hmin := le_min hbc hbt
      rw [max_eq_right hmin, max_eq_right (hab.trans hmin)]
  have hs := hclamp s
  have ht := hclamp t
  unfold within length
  calc clamp a b t - clamp a b s + (clamp b c t - clamp b c s)
      = clamp a b t + clamp b c t - (clamp a b s + clamp b c s) := by abel
    _ = clamp a c t - clamp a c s := by rw [hs, ht, add_sub_add_right_eq_sub]

variable [IsOrderedAddMonoid T]

theorem length_nonneg (h : a ≤ b) : 0 ≤ length a b := sub_nonneg.mpr h

theorem within_length_nonneg (h : a ≤ b) : 0 ≤ within lo hi length a b := length_nonneg (clamp_mono h)

/-- A window has no more of an interval than all of it. -/
theorem within_length_le (h : a ≤ b) : within lo hi length a b ≤ length a b := by
  unfold within length clamp
  rcases le_total hi a with ha | ha
  · rw [min_eq_left ha, min_eq_left (ha.trans h), sub_self]
    exact sub_nonneg.mpr h
  · rw [min_eq_right ha]
    rcases le_total lo a with hlo | hlo
    · rw [max_eq_right hlo, max_eq_right (hlo.trans (le_min ha h))]
      exact sub_le_sub_right (min_le_right hi b) a
    · rw [max_eq_left hlo, sub_le_iff_le_add, max_le_iff]
      refine ⟨le_add_of_nonneg_left (sub_nonneg.mpr h), (min_le_right hi b).trans ?_⟩
      rw [sub_add_eq_add_sub, le_sub_iff_add_le]
      exact add_le_add_right hlo b

/-- **Disjoint windows** share no time. -/
theorem sum_within_length_le {windows : List (T × T)}
    (hdisjoint : windows.Pairwise fun w v => w.2 ≤ v.1 ∨ v.2 ≤ w.1) (hab : a ≤ b) :
    (windows.map fun w => within w.1 w.2 length a b).sum ≤ length a b := by
  induction windows generalizing a b with
  | nil => exact length_nonneg hab
  | cons w windows ih =>
    obtain ⟨hfirst, hrest⟩ := List.pairwise_cons.mp hdisjoint
    rw [List.map_cons, List.sum_cons]
    rcases le_or_gt w.2 w.1 with hempty | hw
    · have hnone : ∀ t, clamp w.1 w.2 t = w.1 := fun t => max_eq_left ((min_le_left w.2 t).trans hempty)
      rw [within_eq_zero isAdditive_length ((hnone a).trans (hnone b).symm), zero_add]
      exact ih hrest hab
    · -- the first window takes the part from `clamp a b w.1` to `clamp a b w.2`, and the others share the rest
      obtain ⟨s, hs⟩ : ∃ s, s = clamp a b w.1 := ⟨_, rfl⟩
      obtain ⟨t, ht⟩ : ∃ t, t = clamp a b w.2 := ⟨_, rfl⟩
      have has : a ≤ s := hs ▸ le_max_left _ _
      have hst : s ≤ t := hs ▸ ht ▸ clamp_mono hw.le
      have htb : t ≤ b := ht ▸ max_le hab (min_le_left _ _)
      have hparts : ∀ v : T × T, within v.1 v.2 length a b
          = within v.1 v.2 length a s + within v.1 v.2 length s t + within v.1 v.2 length t b := by
        intro v
        rw [isAdditive_length.within.split (has.trans hst) htb, isAdditive_length.within.split has hst]
      have hbefore : within w.1 w.2 length a s = 0 := by
        refine within_eq_zero isAdditive_length ?_
        rcases le_total w.1 a with hle | hle
        · rw [hs, clamp_of_le hle]
        · have hsw : s ≤ w.1 := hs ▸ max_le hle (min_le_right _ _)
          rw [clamp_of_le hle, clamp_of_le hsw]
      have hbehind : within w.1 w.2 length t b = 0 := by
        refine within_eq_zero isAdditive_length ?_
        rcases le_total b w.2 with hle | hle
        · rw [ht, clamp_of_ge hle, max_eq_right hab]
        · have hwt : w.2 ≤ t := ht ▸ le_max_of_le_right (le_min hle le_rfl)
          rw [clamp_of_ge hle, clamp_of_ge hwt]
      have hmiddle : ∀ v ∈ windows, within v.1 v.2 length s t = 0 := by
        intro v hv
        refine within_eq_zero isAdditive_length ?_
        rcases hfirst v hv with hafter | hbefore
        · rcases le_total a w.2 with hle | hle
          · have htw : t ≤ w.2 := ht ▸ max_le hle (min_le_right _ _)
            rw [clamp_of_le (hst.trans (htw.trans hafter)), clamp_of_le (htw.trans hafter)]
          · rw [hs, ht, clamp_of_le hle, clamp_of_le (hw.le.trans hle)]
        · rcases le_total w.1 b with hle | hle
          · have hws : w.1 ≤ s := hs ▸ le_max_of_le_right (le_min hle le_rfl)
            rw [clamp_of_ge (hbefore.trans hws), clamp_of_ge (hbefore.trans (hws.trans hst))]
          · rw [hs, ht, clamp_of_ge hle, clamp_of_ge (hle.trans hw.le)]
      have hothers : (windows.map fun v => within v.1 v.2 length a b).sum
          = (windows.map fun v => within v.1 v.2 length a s).sum
            + (windows.map fun v => within v.1 v.2 length t b).sum := by
        rw [← List.sum_map_add]
        congr 1
        refine List.map_congr_left fun v hv => ?_
        rw [hparts v, hmiddle v hv, add_zero]
      rw [hparts w, hbefore, hbehind, zero_add, add_zero, hothers]
      calc within w.1 w.2 length s t + ((windows.map fun v => within v.1 v.2 length a s).sum
            + (windows.map fun v => within v.1 v.2 length t b).sum)
          ≤ length s t + (length a s + length t b) :=
            add_le_add (within_length_le hst) (add_le_add (ih hrest has) (ih hrest htb))
        _ = length a b := by
            unfold length
            abel

end Length

end EnergyCore.SampledStatus
