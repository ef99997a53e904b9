import Mathlib.Algebra.Quaternion
import Mathlib.Analysis.SpecialFunctions.Trigonometric.Basic
import Mathlib.LinearAlgebra.Matrix.Notation
import Mathlib.Tactic.LinearCombination

/-! Rotations by unit quaternions.  A turn about an axis is given by the cosine and the sine of half
its angle.  `Turns q m` says that conjugation by the quaternion `q` turns a vector as the matrix `m`
does, and `Turns.mul` composes turns: a product of quaternions acts as the product of matrices. -/

namespace Rotation

open scoped Quaternion Matrix

/-- The cosine and the sine of half an angle. -/
structure HalfAngle (R : Type) [CommRing R] where
  c : R
  s : R
  unit : c * c + s * s = 1

variable {R : Type} [CommRing R]

namespace HalfAngle

/-- The cosine of the whole angle. -/
def cos (h : HalfAngle R) : R := h.c * h.c - h.s * h.s

/-- The sine of the whole angle. -/
def sin (h : HalfAngle R) : R := 2 • (h.c * h.s)

/-- Half an angle in radians. -/
noncomputable def of (half : ℝ) : HalfAngle ℝ where
  c := Real.cos half
  s := Real.sin half
  unit := by
    rw [← sq, ← sq]
    exact Real.cos_sq_add_sin_sq half

theorem cos_of (θ : ℝ) : (of (θ / 2)).cos = Real.cos θ := by
  have hdouble := Real.cos_two_mul' (θ / 2)
  rw [mul_div_cancel₀ θ two_ne_zero, sq, sq] at hdouble
  exact hdouble.symm

theorem sin_of (θ : ℝ) : (of (θ / 2)).sin = Real.sin θ := by
  have hdouble := Real.sin_two_mul (θ / 2)
  rw [mul_div_cancel₀ θ two_ne_zero] at hdouble
  rw [hdouble, sin, of]
  ring

end HalfAngle

/-! ### Turns about an axis -/

def qx (h : HalfAngle R) : ℍ[R] := ⟨h.c, h.s, 0, 0⟩
def qy (h : HalfAngle R) : ℍ[R] := ⟨h.c, 0, h.s, 0⟩
def qz (h : HalfAngle R) : ℍ[R] := ⟨h.c, 0, 0, h.s⟩

/-- The matrix of a turn about the first axis, from the cosine and the sine of the angle. -/
def rx (c s : R) : Matrix (Fin 3) (Fin 3) R := !![1, 0, 0; 0, c, -s; 0, s, c]

def ry (c s : R) : Matrix (Fin 3) (Fin 3) R := !![c, 0, s; 0, 1, 0; -s, 0, c]

def rz (c s : R) : Matrix (Fin 3) (Fin 3) R := !![c, -s, 0; s, c, 0; 0, 0, 1]

/-- The quaternion that stands for the vector `v`. -/
def vec (v : Fin 3 → R) : ℍ[R] := ⟨0, v 0, v 1, v 2⟩

/-- The matrix of the conjugation by `q`. -/
def conj (q : ℍ[R]) : Matrix (Fin 3) (Fin 3) R :=
  let w := q.re
  let x := q.imI
  let y := q.imJ
  let z := q.imK
  !![w * w + x * x - y * y - z * z, 2 • (x * y - w * z), 2 • (x * z + w * y);
    2 • (x * y + w * z), w * w - x * x + y * y - z * z, 2 • (y * z - w * x);
    2 • (x * z - w * y), 2 • (y * z + w * x), w * w - x * x - y * y + z * z]

theorem mul_vec_mul_star (q : ℍ[R]) (v : Fin 3 → R) : q * vec v * star q = vec (conj q *ᵥ v) := by
  ext <;> simp only [Quaternion.re_mul, Quaternion.imI_mul, Quaternion.imJ_mul,
    Quaternion.imK_mul, Quaternion.re_star, Quaternion.imI_star, Quaternion.imJ_star,
    Quaternion.imK_star]
  all_goals
    simp only [vec, conj, Matrix.mulVec, dotProduct, Fin.sum_univ_three, Matrix.of_apply,
      Matrix.cons_val]
    ring

/-! ### Turns -/

/-- The unit quaternion `q` turns every vector as the matrix `m` does. -/
structure Turns (q : ℍ[R]) (m : Matrix (Fin 3) (Fin 3) R) : Prop where
  unit : q * star q = 1
  turn : ∀ v, q * vec v * star q = vec (m *ᵥ v)

namespace Turns

theorem mul {p q : ℍ[R]} {m n : Matrix (Fin 3) (Fin 3) R} (hp : Turns p m) (hq : Turns q n) :
    Turns (p * q) (m * n) where
  unit := by
    calc
      p * q * star (p * q) = p * (q * star q) * star p := by rw [star_mul]; simp only [mul_assoc]
      _ = 1 := by rw [hq.unit, mul_one, hp.unit]
  turn v := by
    calc
      p * q * vec v * star (p * q) = p * (q * vec v * star q) * star p := by
        rw [star_mul]
        simp only [mul_assoc]
      _ = vec (m *ᵥ (n *ᵥ v)) := by rw [hq.turn, hp.turn]
      _ = vec ((m * n) *ᵥ v) := by rw [Matrix.mulVec_mulVec]

theorem of_conj {q : ℍ[R]} {m : Matrix (Fin 3) (Fin 3) R}
    (hunit : q.re * q.re + q.imI * q.imI + q.imJ * q.imJ + q.imK * q.imK = 1)
    (hconj : conj q = m) : Turns q m where
  unit := by
    rw [Quaternion.self_mul_star, Quaternion.normSq_def']
    have : q.1 ^ 2 + q.2 ^ 2 + q.3 ^ 2 + q.4 ^ 2 = 1 := by linear_combination hunit
    rw [this]
    rfl
  turn v := by rw [mul_vec_mul_star, hconj]

theorem about_x (h : HalfAngle R) : Turns (qx h) (rx h.cos h.sin) := by
  apply of_conj
  · simp only [qx]
    linear_combination h.unit
  · ext i j
    fin_cases i <;> fin_cases j <;> simp [conj, qx, rx, HalfAngle.cos, HalfAngle.sin]
    linear_combination h.unit

theorem about_y (h : HalfAngle R) : Turns (qy h) (ry h.cos h.sin) := by
  apply of_conj
  · simp only [qy]
    linear_combination h.unit
  · ext i j
    fin_cases i <;> fin_cases j <;> simp [conj, qy, ry, HalfAngle.cos, HalfAngle.sin]
    linear_combination h.unit

theorem about_z (h : HalfAngle R) : Turns (qz h) (rz h.cos h.sin) := by
  apply of_conj
  · simp only [qz]
    linear_combination h.unit
  · ext i j
    fin_cases i <;> fin_cases j <;> simp [conj, qz, rz, HalfAngle.cos, HalfAngle.sin]
    linear_combination h.unit

theorem inv {q : ℍ[ℝ]} {m : Matrix (Fin 3) (Fin 3) ℝ} (h : Turns q m) : q⁻¹ = star q :=
  inv_eq_of_mul_eq_one_right h.unit

theorem normSq {q : ℍ[R]} {m : Matrix (Fin 3) (Fin 3) R} (h : Turns q m) :
    q.re * q.re + q.imI * q.imI + q.imJ * q.imJ + q.imK * q.imK = 1 := by
  have hre := congrArg QuaternionAlgebra.re h.unit
  rw [Quaternion.re_mul] at hre
  simpa using hre

end Turns

/-! ### Fixed axes -/

section FixedAxes

variable (roll pitch yaw : HalfAngle R)

/-- The product of the turns about the three axes, component by component. -/
theorem qz_mul_qy_mul_qx : qz yaw * qy pitch * qx roll =
    ⟨roll.c * pitch.c * yaw.c + roll.s * pitch.s * yaw.s,
      roll.s * pitch.c * yaw.c - roll.c * pitch.s * yaw.s,
      roll.c * pitch.s * yaw.c + roll.s * pitch.c * yaw.s,
      roll.c * pitch.c * yaw.s - roll.s * pitch.s * yaw.c⟩ := by
  ext <;> simp only [Quaternion.re_mul, Quaternion.imI_mul, Quaternion.imJ_mul,
    Quaternion.imK_mul]
  all_goals
    simp only [qx, qy, qz]
    ring

theorem turns_qz_mul_qy_mul_qx : Turns (qz yaw * qy pitch * qx roll)
    (rz yaw.cos yaw.sin * ry pitch.cos pitch.sin * rx roll.cos roll.sin) :=
  ((Turns.about_z yaw).mul (Turns.about_y pitch)).mul (Turns.about_x roll)

end FixedAxes

end Rotation
