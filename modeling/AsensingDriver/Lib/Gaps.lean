import Mathlib.Data.Nat.Cast.Order.Ring
import Mathlib.Order.Bounds.Basic
import Mathlib.Tactic.Ring

/-! The gaps of a sequence.  `maxGap t n` is the largest step of `t 0`, …, `t n`, or zero when all
of them go down, and the sequence moves by at most `n` such steps. -/

namespace Gaps

variable {R : Type} [CommRing R] [LinearOrder R]

def maxGap (t : ℕ → R) : ℕ → R
  | 0 => 0
  | n + 1 => max (maxGap t n) (t (n + 1) - t n)

variable {t : ℕ → R} {n : ℕ}

theorem gap_le_maxGap {i : ℕ} (hi : i < n) : t (i + 1) - t i ≤ maxGap t n := by
  induction n with
  | zero => exact absurd hi (Nat.not_lt_zero i)
  | succ n ih =>
    rcases Nat.lt_succ_iff_lt_or_eq.mp hi with hlt | rfl
    · exact le_max_of_le_left (ih hlt)
    · exact le_max_right _ _

/-- A largest gap that is not zero is the gap after one of the entries. -/
theorem exists_gap_eq (t : ℕ → R) (n : ℕ) :
    maxGap t n = 0 ∨ ∃ i < n, t (i + 1) - t i = maxGap t n := by
  induction n with
  | zero => exact .inl rfl
  | succ n ih =>
    rcases max_choice (maxGap t n) (t (n + 1) - t n) with hmax | hmax
    · rw [maxGap, hmax]
      rcases ih with hzero | ⟨i, hi, heq⟩
      · exact .inl hzero
      · exact .inr ⟨i, Nat.lt_succ_of_lt hi, heq⟩
    · rw [maxGap, hmax]
      exact .inr ⟨n, Nat.lt_succ_self n, rfl⟩

variable [IsStrictOrderedRing R]

/-- The largest gap of a nondecreasing sequence of two entries or more is the greatest gap. -/
theorem isGreatest_maxGap (hmono : Monotone t) (hn : 0 < n) :
    IsGreatest {gap | ∃ i < n, t (i + 1) - t i = gap} (maxGap t n) := by
  constructor
  · rcases exists_gap_eq t n with hzero | hgap
    · -- Every gap is zero, the first one too.
      refine ⟨0, hn, le_antisymm (gap_le_maxGap hn) ?_⟩
      rw [hzero]
      exact sub_nonneg.mpr (hmono (Nat.zero_le 1))
    · exact hgap
  · rintro gap ⟨i, hi, rfl⟩
    exact gap_le_maxGap hi

/-- The gaps telescope, and each is at most the largest. -/
theorem sub_le_mul_maxGap (t : ℕ → R) (n : ℕ) : t n - t 0 ≤ n * maxGap t n := by
  induction n with
  | zero => simp
  | succ n ih =>
    have hgrow : maxGap t n ≤ maxGap t (n + 1) := le_max_left _ _
    have hlast : t (n + 1) - t n ≤ maxGap t (n + 1) := le_max_right _ _
    calc
      t (n + 1) - t 0 = (t n - t 0) + (t (n + 1) - t n) := by ring
      _ ≤ n * maxGap t n + maxGap t (n + 1) := add_le_add ih hlast
      _ ≤ n * maxGap t (n + 1) + maxGap t (n + 1) :=
        add_le_add (mul_le_mul_of_nonneg_left hgrow (Nat.cast_nonneg n)) le_rfl
      _ = (n + 1 : ℕ) * maxGap t (n + 1) := by push_cast; ring

end Gaps
