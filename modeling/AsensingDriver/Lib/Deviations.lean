import Mathlib.Algebra.BigOperators.Group.List.Lemmas
import Mathlib.Algebra.Order.BigOperators.Group.List
import Mathlib.Algebra.Order.Field.Basic
import Mathlib.Algebra.CharZero.Defs
import Mathlib.Tactic.FieldSimp
import Mathlib.Tactic.Ring

/-! The mean of a list and the sum of the squared deviations from it.  One more value moves the mean
by its deviation over the new count, and adds to the squares the product of its deviations from the
old mean and from the new one, so that both can be kept up in one pass. -/

namespace Deviations

variable {K : Type} [Field K]

/-- The arithmetic mean, which is zero for the empty list. -/
def mean (xs : List K) : K := xs.sum / xs.length

/-- The sum of the squared deviations from `c`. -/
def squaresFrom (c : K) (xs : List K) : K := (xs.map fun x => (x - c) ^ 2).sum

/-- The sum of the squared deviations from the mean. -/
def squares (xs : List K) : K := squaresFrom (mean xs) xs

theorem mean_perm {xs ys : List K} (h : xs.Perm ys) : mean xs = mean ys := by
  rw [mean, mean, h.sum_eq, h.length_eq]

theorem squares_perm {xs ys : List K} (h : xs.Perm ys) : squares xs = squares ys := by
  rw [squares, squares, mean_perm h, squaresFrom, squaresFrom, (h.map _).sum_eq]

section Concat

variable [CharZero K] (xs : List K) (x c : K)

theorem length_succ_ne_zero : (xs.length : K) + 1 ≠ 0 := Nat.cast_add_one_ne_zero _

theorem mul_mean : (xs.length : K) * mean xs = xs.sum := by
  cases xs with
  | nil => simp
  | cons y ys =>
    have h := length_succ_ne_zero ys
    rw [mean, List.length_cons, Nat.cast_succ]
    field_simp

theorem mean_concat : mean (xs ++ [x]) = mean xs + (x - mean xs) / (xs.length + 1) := by
  have h := length_succ_ne_zero xs
  have hsum := mul_mean xs
  rw [mean, List.sum_append, ← hsum, List.length_append]
  simp only [List.sum_singleton, List.length_singleton, Nat.cast_add, Nat.cast_one]
  field_simp
  ring

/-- The deviations from another point than the mean exceed those from the mean. -/
theorem squaresFrom_eq : squaresFrom c xs = squares xs + xs.length * (mean xs - c) ^ 2 := by
  have expand (a : K) (ys : List K) :
      squaresFrom a ys = (ys.map (· ^ 2)).sum - 2 * a * ys.sum + ys.length * a ^ 2 := by
    induction ys with
    | nil => simp [squaresFrom]
    | cons y ys ih =>
      rw [squaresFrom] at ih ⊢
      simp only [List.map_cons, List.sum_cons, List.length_cons, Nat.cast_succ, ih]
      ring
  rw [squares, expand, expand, ← mul_mean xs]
  ring

theorem squares_concat :
    squares (xs ++ [x]) = squares xs + (x - mean xs) * (x - mean (xs ++ [x])) := by
  have h := length_succ_ne_zero xs
  have hlast : squares (xs ++ [x]) =
      squaresFrom (mean (xs ++ [x])) xs + (x - mean (xs ++ [x])) ^ 2 := by
    simp [squares, squaresFrom]
  rw [hlast, squaresFrom_eq, mean_concat]
  field_simp
  ring

end Concat

theorem squares_nonneg [LinearOrder K] [IsStrictOrderedRing K] (xs : List K) : 0 ≤ squares xs := by
  apply List.sum_nonneg
  intro y hy
  obtain ⟨x, -, rfl⟩ := List.mem_map.mp hy
  exact sq_nonneg _

end Deviations
