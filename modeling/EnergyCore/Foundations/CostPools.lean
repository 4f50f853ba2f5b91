import Mathlib.Algebra.Order.Field.Basic
import Mathlib.Tactic.Linarith
import Mathlib.Tactic.Ring

/-!
# Pools of a stored good and its cost

A pool holds an amount of something that was bought at varying prices, and what it cost. Its mean is the
cost of a unit. Deposits add at a price, withdrawals take the same share of the amount and of the cost.

* `Priced` — the amount is not negative, an empty pool cost nothing, and the mean lies between two of the
  prices that were paid;
* `Priced.deposit` and `Priced.keep` — deposits and withdrawals keep this;
* `mean_keep` — a withdrawal leaves the mean of what is left unchanged;
* `Priced.mean_between` — the mean lies between two prices.
-/

namespace EnergyCore.CostPools

variable {K : Type*} [Field K] [LinearOrder K]

structure Pool (K : Type*) where
  amount : K
  cost : K
  deriving DecidableEq

/-- The cost of a unit, if there is one. -/
def Pool.mean (pool : Pool K) : Option K :=
  if pool.amount ≤ 0 then none else some (pool.cost / pool.amount)

/-- The pool with an amount added at a price. -/
def Pool.deposit (pool : Pool K) (amount price : K) : Pool K where
  amount := pool.amount + amount
  cost := pool.cost + amount * price

/-- The pool after a withdrawal that leaves the given share. -/
def Pool.keep (pool : Pool K) (share : K) : Pool K where
  amount := pool.amount * share
  cost := pool.cost * share

/-- The cost lies between that of two of the prices, if there is anything to cost. -/
structure Pool.Priced (pool : Pool K) (prices : List K) : Prop where
  amount_nonneg : 0 ≤ pool.amount
  cost_of_empty : pool.amount = 0 → pool.cost = 0
  between : 0 < pool.amount →
    ∃ lo ∈ prices, ∃ hi ∈ prices, lo * pool.amount ≤ pool.cost ∧ pool.cost ≤ hi * pool.amount

/-- The prices paid, with that of a deposit if it is one. -/
def pricesPaid (prices : List K) (amount price : K) : List K :=
  if 0 < amount then prices ++ [price] else prices

theorem Pool.priced_empty (prices : List K) : (⟨0, 0⟩ : Pool K).Priced prices where
  amount_nonneg := le_rfl
  cost_of_empty _ := rfl
  between h := absurd h (lt_irrefl 0)

variable [IsStrictOrderedRing K]

/-- A deposit keeps the mean between the prices paid. -/
theorem Pool.Priced.deposit {pool : Pool K} {prices : List K} (h : pool.Priced prices) {amount : K}
    (hamount : 0 ≤ amount) (price : K) : (pool.deposit amount price).Priced (pricesPaid prices amount price) := by
  have hpool := h.amount_nonneg
  rcases hamount.eq_or_lt with rfl | hpos
  · have hsame : pool.deposit 0 price = pool := by simp [Pool.deposit]
    rw [hsame, pricesPaid, if_neg (lt_irrefl 0)]
    exact h
  · rw [pricesPaid, if_pos hpos]
    refine ⟨add_nonneg hpool hamount, ?_, ?_⟩
    · intro hzero
      have hsum : pool.amount + amount = 0 := hzero
      linarith
    · intro _
      have hlast : price ∈ prices ++ [price] := by simp
      show ∃ lo ∈ _, ∃ hi ∈ _, lo * (pool.amount + amount) ≤ pool.cost + amount * price ∧
        pool.cost + amount * price ≤ hi * (pool.amount + amount)
      rcases hpool.eq_or_lt with hempty | hfull
      · -- an empty pool takes the price of its deposit
        have hcost := h.cost_of_empty hempty.symm
        have heq : price * (pool.amount + amount) = pool.cost + amount * price := by
          rw [hcost, ← hempty]
          ring
        exact ⟨price, hlast, price, hlast, heq.le, heq.ge⟩
      · obtain ⟨lo, hlo, hi, hhi, hle, hge⟩ := h.between hfull
        have hold : ∀ {p}, p ∈ prices → p ∈ prices ++ [price] := fun hp =>
          List.mem_append_left [price] hp
        have hlower : ∃ lo ∈ prices ++ [price],
            lo * (pool.amount + amount) ≤ pool.cost + amount * price := by
          rcases le_total lo price with hcase | hcase
          · exact ⟨lo, hold hlo, by nlinarith⟩
          · exact ⟨price, hlast, by nlinarith⟩
        have hupper : ∃ hi ∈ prices ++ [price],
            pool.cost + amount * price ≤ hi * (pool.amount + amount) := by
          rcases le_total hi price with hcase | hcase
          · exact ⟨price, hlast, by nlinarith⟩
          · exact ⟨hi, hold hhi, by nlinarith⟩
        obtain ⟨lo', hlo', hle'⟩ := hlower
        obtain ⟨hi', hhi', hge'⟩ := hupper
        exact ⟨lo', hlo', hi', hhi', hle', hge'⟩

/-- A withdrawal keeps the mean between the prices paid. -/
theorem Pool.Priced.keep {pool : Pool K} {prices : List K} (h : pool.Priced prices) {share : K}
    (hshare : 0 ≤ share) : (pool.keep share).Priced prices := by
  have hpool := h.amount_nonneg
  refine ⟨mul_nonneg hpool hshare, ?_, ?_⟩
  · intro hzero
    rcases mul_eq_zero.mp hzero with hamount | hshare'
    · show pool.cost * share = 0
      rw [h.cost_of_empty hamount, zero_mul]
    · show pool.cost * share = 0
      rw [hshare', mul_zero]
  · intro hpos
    have hamount : 0 < pool.amount := pos_of_mul_pos_left hpos hshare
    obtain ⟨lo, hlo, hi, hhi, hle, hge⟩ := h.between hamount
    refine ⟨lo, hlo, hi, hhi, ?_, ?_⟩
    · calc lo * (pool.amount * share) = lo * pool.amount * share := by ring
        _ ≤ pool.cost * share := mul_le_mul_of_nonneg_right hle hshare
    · calc pool.cost * share ≤ hi * pool.amount * share := mul_le_mul_of_nonneg_right hge hshare
        _ = hi * (pool.amount * share) := by ring

/-- **A withdrawal leaves the mean unchanged**, as long as something is left. -/
theorem Pool.mean_keep {pool : Pool K} {share : K} (hpos : 0 < (pool.keep share).amount)
    (hshare : 0 ≤ share) : (pool.keep share).mean = pool.mean := by
  have hamount : 0 < pool.amount := pos_of_mul_pos_left hpos hshare
  have hshare' : share ≠ 0 := by
    rintro rfl
    simp [Pool.keep] at hpos
  rw [Pool.mean, Pool.mean, if_neg (not_le.mpr hpos), if_neg (not_le.mpr hamount)]
  exact congrArg some (mul_div_mul_right pool.cost pool.amount hshare')

/-- **The mean lies between two of the prices paid.** -/
theorem Pool.Priced.mean_between {pool : Pool K} {prices : List K} (h : pool.Priced prices) {mean : K}
    (hmean : pool.mean = some mean) : ∃ lo ∈ prices, ∃ hi ∈ prices, lo ≤ mean ∧ mean ≤ hi := by
  unfold Pool.mean at hmean
  split_ifs at hmean with hempty
  have hamount : 0 < pool.amount := not_le.mp hempty
  obtain rfl := Option.some.inj hmean
  obtain ⟨lo, hlo, hi, hhi, hle, hge⟩ := h.between hamount
  exact ⟨lo, hlo, hi, hhi, (le_div_iff₀ hamount).mpr hle, (div_le_iff₀ hamount).mpr hge⟩

end EnergyCore.CostPools
