import Mathlib.Algebra.Order.Group.Defs
import Mathlib.Algebra.Order.Group.MinMax
import Mathlib.Data.List.Chain
import Mathlib.Order.Lattice

/-!
# A stock between two bounds

The level of a stock that is changed again and again, where the bounds cut off what does not fit.

* `levels_bounded` — the level stays between the bounds;
* `levels_mono` — it is monotone in the level at the beginning and in every change;
* `levels_isChain` — it moves no further than each change says.
-/

namespace EnergyCore.BoundedStock

section

variable {α : Type*} [AddCommGroup α] [LinearOrder α] {lo hi level level' change change' : α}

/-- The level after a change. -/
def changed (lo hi level change : α) : α := max lo (min hi (level + change))

/-- The level before each of the changes. -/
def levels (lo hi : α) : α → List α → List α
  | _, [] => []
  | level, change :: rest => level :: levels lo hi (changed lo hi level change) rest

@[simp] theorem length_levels (lo hi level : α) (changes : List α) :
    (levels lo hi level changes).length = changes.length := by
  induction changes generalizing level with
  | nil => rfl
  | cons change rest ih =>
    rw [levels, List.length_cons, List.length_cons, ih]

/-! ### The bounds -/

theorem changed_bounded (h : lo ≤ hi) (level change : α) :
    lo ≤ changed lo hi level change ∧ changed lo hi level change ≤ hi :=
  ⟨le_max_left _ _, max_le h (min_le_left _ _)⟩

/-- **Between the bounds.** -/
theorem levels_bounded (hlo : lo ≤ level) (hhi : level ≤ hi) (changes : List α) :
    ∀ l ∈ levels lo hi level changes, lo ≤ l ∧ l ≤ hi := by
  induction changes generalizing level with
  | nil =>
    intro l hl
    exact absurd hl List.not_mem_nil
  | cons change rest ih =>
    obtain ⟨hlo', hhi'⟩ := changed_bounded (hlo.trans hhi) level change
    intro l hl
    rcases List.mem_cons.mp hl with rfl | hlater
    · exact ⟨hlo, hhi⟩
    · exact ih hlo' hhi' l hlater

/-! ### One change -/

variable [IsOrderedAddMonoid α]

theorem changed_mono (hlevel : level ≤ level') (hchange : change ≤ change') :
    changed lo hi level change ≤ changed lo hi level' change' :=
  max_le_max le_rfl (min_le_min le_rfl (add_le_add hlevel hchange))

/-- A level rises by no more than the change. -/
theorem changed_sub_le (hlo : lo ≤ level) : changed lo hi level change - level ≤ max 0 change := by
  rw [sub_le_iff_le_add, changed]
  refine max_le ?_ ((min_le_right _ _).trans ?_)
  · calc lo ≤ level := hlo
      _ = 0 + level := (zero_add level).symm
      _ ≤ max 0 change + level := by gcongr; exact le_max_left _ _
  · rw [add_comm level]
    gcongr
    exact le_max_right _ _

/-- A level falls by no more than the change. -/
theorem sub_changed_le (hhi : level ≤ hi) : level - changed lo hi level change ≤ max 0 (-change) := by
  rw [sub_le_comm, changed]
  refine le_max_of_le_right (le_min ?_ ?_)
  · exact (sub_le_self level (le_max_left _ _)).trans hhi
  · rw [sub_eq_add_neg]
    gcongr
    rw [neg_le]
    exact le_max_right _ _

/-! ### A run of changes -/

/-- **Monotone** in the first level and in every change. -/
theorem levels_mono {changes changes' : List α} (hlevel : level ≤ level')
    (hchanges : List.Forall₂ (· ≤ ·) changes changes') :
    List.Forall₂ (· ≤ ·) (levels lo hi level changes) (levels lo hi level' changes') := by
  induction hchanges generalizing level level' with
  | nil => exact List.Forall₂.nil
  | cons hchange _ ih => exact List.Forall₂.cons hlevel (ih (changed_mono hlevel hchange))

/-- **No further than the changes.** If the changes are at most `up` and at least `-down`, the level rises by `up`
and falls by `down` at most. -/
theorem levels_isChain {up down : α} (hup : 0 ≤ up) (hdown : 0 ≤ down) (hlo : lo ≤ level) (hhi : level ≤ hi)
    {changes : List α} (hchanges : ∀ change ∈ changes, change ≤ up ∧ -change ≤ down) :
    (levels lo hi level changes).IsChain fun l l' => l' - l ≤ up ∧ l - l' ≤ down := by
  induction changes generalizing level with
  | nil => exact List.IsChain.nil
  | cons change rest ih =>
    obtain ⟨hlo', hhi'⟩ := changed_bounded (hlo.trans hhi) level change
    obtain ⟨hchangeUp, hchangeDown⟩ := hchanges change List.mem_cons_self
    have hrest := ih hlo' hhi' fun c hc => hchanges c (List.mem_cons_of_mem _ hc)
    rw [levels]
    refine List.isChain_cons.mpr ⟨fun next hnext => ?_, hrest⟩
    obtain rfl : changed lo hi level change = next := by
      cases rest with
      | nil => cases hnext
      | cons second rest => exact Option.some_inj.mp hnext
    exact ⟨(changed_sub_le hlo).trans (max_le hup hchangeUp), (sub_changed_le hhi).trans (max_le hdown hchangeDown)⟩

end

end EnergyCore.BoundedStock
