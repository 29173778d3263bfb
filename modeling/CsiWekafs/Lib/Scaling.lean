import Mathlib.Algebra.BigOperators.Field
import Mathlib.Algebra.BigOperators.Intervals
import Mathlib.Algebra.BigOperators.Ring.Finset
import Mathlib.Algebra.Order.Field.Rat
import Mathlib.Data.Rat.Cast.Order
import Mathlib.Tactic.FieldSimp
import Mathlib.Tactic.Linarith
import Mathlib.Tactic.Ring

namespace Scaling

/-- A value that is scaled along with a total again and again, and rounded down each time. -/
def scaled (t : ℕ → ℤ) (a : ℤ) : ℕ → ℤ
  | 0 => a
  | i + 1 => scaled t a i * t (i + 1) / t i

section

variable {t : ℕ → ℤ} {n : ℕ}

theorem total_pos (h₀ : 0 < t 0) (ht : ∀ i < n, t i ≤ t (i + 1)) {i : ℕ} (hi : i ≤ n) : 0 < t i := by
  induction i with
  | zero => exact h₀
  | succ i ih => exact (ih (by omega)).trans_le (ht i (by omega))

theorem total_mono (ht : ∀ i < n, t i ≤ t (i + 1)) {i : ℕ} (hi : i ≤ n) : t i ≤ t n := by
  induction n with
  | zero =>
    obtain rfl : i = 0 := by omega
    exact le_rfl
  | succ n ih =>
    by_cases h : i = n + 1
    · rw [h]
    · exact (ih (fun j hj => ht j (by omega)) (by omega)).trans (ht n (by omega))

variable (h₀ : 0 < t 0) (ht : ∀ i < n, t i ≤ t (i + 1))

include h₀ ht

theorem scaled_nonneg {a : ℤ} (ha : 0 ≤ a) {i : ℕ} (hi : i ≤ n) : 0 ≤ scaled t a i := by
  induction i with
  | zero => exact ha
  | succ i ih =>
    have hpos := total_pos h₀ ht (i := i) (by omega)
    have hnext := total_pos h₀ ht hi
    exact Int.ediv_nonneg (mul_nonneg (ih (by omega)) hnext.le) hpos.le

theorem scaled_le_scaled {a b : ℤ} (hab : a ≤ b) {i : ℕ} (hi : i ≤ n) : scaled t a i ≤ scaled t b i := by
  induction i with
  | zero => exact hab
  | succ i ih =>
    have hpos := total_pos h₀ ht (i := i) (by omega)
    have hnext := total_pos h₀ ht hi
    exact Int.ediv_le_ediv hpos (mul_le_mul_of_nonneg_right (ih (by omega)) hnext.le)

theorem scaled_le_succ {a : ℤ} (ha : 0 ≤ a) {i : ℕ} (hi : i < n) :
    scaled t a i ≤ scaled t a (i + 1) := by
  have hpos := total_pos h₀ ht (i := i) hi.le
  refine (Int.le_ediv_iff_mul_le hpos).mpr ?_
  exact mul_le_mul_of_nonneg_left (ht i hi) (scaled_nonneg h₀ ht ha hi.le)

theorem scaled_le_total {a : ℤ} (ha : a ≤ t 0) {i : ℕ} (hi : i ≤ n) : scaled t a i ≤ t i := by
  induction i with
  | zero => exact ha
  | succ i ih =>
    have hpos := total_pos h₀ ht (i := i) (by omega)
    have hnext := total_pos h₀ ht hi
    refine Int.ediv_le_of_le_mul hpos ?_
    rw [mul_comm (t (i + 1))]
    exact mul_le_mul_of_nonneg_right (ih (by omega)) hnext.le

theorem scaled_total {i : ℕ} (hi : i ≤ n) : scaled t (t 0) i = t i := by
  induction i with
  | zero => rfl
  | succ i ih =>
    have hpos := total_pos h₀ ht (i := i) (by omega)
    rw [scaled, ih (by omega)]
    exact Int.mul_ediv_cancel_left _ hpos.ne'

/-- Rounding down never leads above the exact value. -/
theorem scaled_le {a : ℤ} {i : ℕ} (hi : i ≤ n) : (scaled t a i : ℚ) ≤ a * t i / t 0 := by
  have hfirst : (0 : ℚ) < t 0 := by exact_mod_cast h₀
  induction i with
  | zero => rw [scaled, mul_div_assoc, div_self hfirst.ne', mul_one]
  | succ i ih =>
    have hpos : (0 : ℚ) < t i := by exact_mod_cast total_pos h₀ ht (i := i) (by omega)
    have hnext : (0 : ℚ) < t (i + 1) := by exact_mod_cast total_pos h₀ ht hi
    have hfloor : (scaled t a (i + 1) : ℚ) * t i ≤ scaled t a i * t (i + 1) := by
      exact_mod_cast Int.ediv_mul_le _ (total_pos h₀ ht (i := i) (by omega)).ne'
    calc (scaled t a (i + 1) : ℚ) ≤ scaled t a i * t (i + 1) / t i := (le_div_iff₀ hpos).mpr hfloor
      _ ≤ a * t i / t 0 * t (i + 1) / t i := by
        have hle := mul_le_mul_of_nonneg_right (ih (by omega)) hnext.le
        exact div_le_div_of_nonneg_right hle hpos.le
      _ = a * t (i + 1) / t 0 := by field_simp

/-- Each rounding loses less than one, which the later steps scale along. -/
theorem le_scaled {a : ℤ} {i : ℕ} (hi : i ≤ n) :
    (a * t i / t 0 - ∑ j ∈ Finset.Icc 1 i, (t i / t j : ℚ) : ℚ) ≤ scaled t a i := by
  have hfirst : (0 : ℚ) < t 0 := by exact_mod_cast h₀
  induction i with
  | zero => simp [scaled, mul_div_assoc, div_self hfirst.ne']
  | succ i ih =>
    have hpos : (0 : ℚ) < t i := by exact_mod_cast total_pos h₀ ht (i := i) (by omega)
    have hnext : (0 : ℚ) < t (i + 1) := by exact_mod_cast total_pos h₀ ht hi
    have hfloor : (scaled t a i * t (i + 1) : ℚ) ≤ (scaled t a (i + 1) + 1) * t i := by
      exact_mod_cast (Int.lt_ediv_add_one_mul_self _ (total_pos h₀ ht (i := i) (by omega))).le
    have hsum : ∑ j ∈ Finset.Icc 1 (i + 1), (t (i + 1) / t j : ℚ) =
        (∑ j ∈ Finset.Icc 1 i, (t i / t j : ℚ)) * t (i + 1) / t i + 1 := by
      rw [Finset.sum_Icc_succ_top (by omega), div_self hnext.ne', Finset.sum_mul, Finset.sum_div]
      congr 1
      refine Finset.sum_congr rfl fun j _ => ?_
      field_simp
    calc (a * t (i + 1) / t 0 - ∑ j ∈ Finset.Icc 1 (i + 1), (t (i + 1) / t j : ℚ) : ℚ)
        = (a * t i / t 0 - ∑ j ∈ Finset.Icc 1 i, (t i / t j : ℚ)) * t (i + 1) / t i - 1 := by
          rw [hsum]
          field_simp
          ring
      _ ≤ scaled t a i * t (i + 1) / t i - 1 := by
          have hle := mul_le_mul_of_nonneg_right (ih (by omega)) hnext.le
          have hdiv := div_le_div_of_nonneg_right hle hpos.le
          linarith
      _ ≤ scaled t a (i + 1) := by
          have hdiv := (div_le_iff₀ hpos).mpr hfloor
          linarith

/-- Where the last exact value fits, all values do. -/
theorem scaled_lt {a : ℤ} {i : ℕ} {bound : ℚ} (ha : 0 ≤ a) (hi : i ≤ n)
    (hfit : (a * t n / t 0 : ℚ) < bound) : (scaled t a i : ℚ) < bound := by
  have hfirst : (0 : ℚ) < t 0 := by exact_mod_cast h₀
  have hmono : (t i : ℚ) ≤ t n := by exact_mod_cast total_mono ht hi
  have ha : (0 : ℚ) ≤ a := by exact_mod_cast ha
  have hle : (a * t i / t 0 : ℚ) ≤ a * t n / t 0 :=
    div_le_div_of_nonneg_right (mul_le_mul_of_nonneg_left hmono ha) hfirst.le
  exact ((scaled_le h₀ ht hi).trans hle).trans_lt hfit

end

end Scaling
