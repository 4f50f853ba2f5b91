import Mathlib.Algebra.Order.Group.Defs
import Mathlib.Algebra.Order.Group.MinMax
import Mathlib.Data.List.Basic
import Mathlib.Tactic.Abel

/-!
# Upward movement of a register

How far a register has moved upwards over a list of readings; downward movements (a reset) do not count.

* `upwardMovement_le_of_sublist` — reading more often can only show more movement;
* `upwardMovement_concat_pair` — what one more reading adds.
-/

namespace EnergyCore.RegisterMovement

variable {G : Type*} [AddCommGroup G] [LinearOrder G]

/-- The upward movement of a register that stood at `a` before the readings. -/
def upwardMovementFrom (a : G) : List G → G
  | [] => 0
  | b :: readings => max 0 (b - a) + upwardMovementFrom b readings

/-- The upward movement over a list of readings. -/
def upwardMovement : List G → G
  | [] => 0
  | a :: readings => upwardMovementFrom a readings

theorem upwardMovementFrom_concat (a b c : G) (readings : List G) : upwardMovementFrom a (readings ++ [b, c])
      = upwardMovementFrom a (readings ++ [b]) + max 0 (c - b) := by
  induction readings generalizing a with
  | nil => simp only [List.nil_append, upwardMovementFrom, add_zero]
  | cons d readings ih =>
    simp only [List.cons_append, upwardMovementFrom]
    rw [ih d, add_assoc]

/-- One more reading adds the step from the last one, if it is upwards. -/
theorem upwardMovement_concat_pair (readings : List G) (b c : G) :
    upwardMovement (readings ++ [b, c]) = upwardMovement (readings ++ [b]) + max 0 (c - b) := by
  cases readings with
  | nil => simp only [List.nil_append, upwardMovement, upwardMovementFrom, add_zero, zero_add]
  | cons a readings => exact upwardMovementFrom_concat a b c readings

variable [IsOrderedAddMonoid G]

theorem upwardMovementFrom_nonneg (a : G) (readings : List G) : 0 ≤ upwardMovementFrom a readings := by
  induction readings generalizing a with
  | nil => exact le_rfl
  | cons b readings ih => exact add_nonneg (le_max_left _ _) (ih b)

theorem upwardMovement_nonneg (readings : List G) : 0 ≤ upwardMovement readings := by
  cases readings with
  | nil => exact le_rfl
  | cons a readings => exact upwardMovementFrom_nonneg a readings

/-- Stopping at `b` on the way shows at least as much movement. -/
theorem upwardMovementFrom_le_add (a b : G) (readings : List G) :
    upwardMovementFrom a readings ≤ max 0 (b - a) + upwardMovementFrom b readings := by
  cases readings with
  | nil => exact add_nonneg (le_max_left _ _) le_rfl
  | cons c readings =>
    have hstep : max 0 (c - a) ≤ max 0 (b - a) + max 0 (c - b) := by
      refine max_le (add_nonneg (le_max_left _ _) (le_max_left _ _)) ?_
      calc c - a = (b - a) + (c - b) := by abel
        _ ≤ max 0 (b - a) + max 0 (c - b) := add_le_add (le_max_right _ _) (le_max_right _ _)
    calc max 0 (c - a) + upwardMovementFrom c readings
        ≤ max 0 (b - a) + max 0 (c - b) + upwardMovementFrom c readings :=
          add_le_add_left hstep _
      _ = max 0 (b - a) + (max 0 (c - b) + upwardMovementFrom c readings) := add_assoc _ _ _

theorem upwardMovementFrom_le_of_sublist {l₁ l₂ : List G} (h : l₁.Sublist l₂) (a : G) :
    upwardMovementFrom a l₁ ≤ upwardMovementFrom a l₂ := by
  induction h generalizing a with
  | slnil => exact le_rfl
  | cons b _ ih =>
    calc upwardMovementFrom a _ ≤ max 0 (b - a) + upwardMovementFrom b _ :=
          upwardMovementFrom_le_add a b _
      _ ≤ max 0 (b - a) + upwardMovementFrom b _ := add_le_add_right (ih b) _
  | cons_cons b _ ih => exact add_le_add_right (ih b) _

/-- Leaving readings out never shows more movement. -/
theorem upwardMovement_le_of_sublist {l₁ l₂ : List G} (h : l₁.Sublist l₂) : upwardMovement l₁ ≤ upwardMovement l₂ := by
  induction h with
  | slnil => exact le_rfl
  | @cons l₁ l₂ b _ ih =>
    refine ih.trans ?_
    cases l₂ with
    | nil => exact le_rfl
    | cons c l₂ => exact le_add_of_nonneg_left (le_max_left _ _)
  | cons_cons b h _ => exact upwardMovementFrom_le_of_sublist h b

end EnergyCore.RegisterMovement
