import Mathlib.Analysis.SpecialFunctions.Exp
import Mathlib.Analysis.SpecialFunctions.Trigonometric.Basic
import Mathlib.Analysis.SpecialFunctions.Sqrt

/-! Floating-point values.  `Double F` is what a program does with values of type `double`; a
definition over it leaves open how the operations round.  `Exact` is the interpretation without
rounding: a value is a real number, an infinity or NaN, arithmetic on numbers is exact, and the
operations that leave the range of their result type, `exp` and the conversion to `float`, give an
infinity. -/

/-- The operations of a program on values of type `double`. -/
class Double (F : Type) extends Add F, Sub F, Mul F, Div F, Neg F, OfScientific F where
  ofInt : Int → F
  pi : F
  infinity : F
  exp : F → F
  sqrt : F → F
  cos : F → F
  sin : F → F
  hypot : F → F → F
  /-- The conversion to `float`, whose values are values of `double` too. -/
  toFloat : F → F
  /-- The conversion to a 32-bit unsigned integer, which drops the fraction. -/
  toUInt32 : F → UInt32
  isfinite : F → Bool
  lt : F → F → Bool
  le : F → F → Bool

namespace Double

variable {F : Type} [Double F]

def ofInt16 (x : Int16) : F := ofInt x.toInt
def ofInt32 (x : Int32) : F := ofInt x.toInt
def ofUInt32 (x : UInt32) : F := ofInt x.toNat
def ofNat (n : Nat) : F := ofInt n

/-- `std::min`. -/
def min (a b : F) : F := if lt b a then b else a

/-- `std::max`. -/
def max (a b : F) : F := if lt a b then b else a

end Double

/-- A floating-point value without rounding. -/
inductive Exact
  | num (x : ℝ)
  | inf (negative : Bool)
  | nan

namespace Exact

open Classical in
/-- The sign that a product or quotient with an infinity takes from `x`. -/
noncomputable def negative (x : ℝ) : Bool := decide (x < 0)

def neg : Exact → Exact
  | num x => num (-x)
  | inf s => inf !s
  | nan => nan

noncomputable def add : Exact → Exact → Exact
  | num x, num y => num (x + y)
  | inf s, inf t => if s = t then inf s else nan
  | inf s, num _ | num _, inf s => inf s
  | nan, _ | _, nan => nan

open Classical in
noncomputable def mul : Exact → Exact → Exact
  | num x, num y => num (x * y)
  | inf s, inf t => inf (s ^^ t)
  | inf s, num x | num x, inf s => if x = 0 then nan else inf (s ^^ negative x)
  | nan, _ | _, nan => nan

open Classical in
noncomputable def div : Exact → Exact → Exact
  | num x, num y => if y = 0 then if x = 0 then nan else inf (negative x) else num (x / y)
  | inf s, num y => inf (s ^^ negative y)
  | num _, inf _ => num 0
  | inf _, inf _ => nan
  | nan, _ | _, nan => nan

open Classical in
noncomputable def lt : Exact → Exact → Bool
  | num x, num y => decide (x < y)
  | inf s, inf t => s && !t
  | inf s, num _ => s
  | num _, inf t => !t
  | nan, _ | _, nan => false

open Classical in
noncomputable def le : Exact → Exact → Bool
  | num x, num y => decide (x ≤ y)
  | inf s, inf t => s || !t
  | inf s, num _ => s
  | num _, inf t => !t
  | nan, _ | _, nan => false

def isfinite : Exact → Bool
  | num _ => true
  | inf _ | nan => false

/-- The number that a value is, unless it is an infinity or NaN. -/
def number? : Exact → Option ℝ
  | num x => some x
  | inf _ | nan => none

/-- The largest number of type `double`. -/
noncomputable def maxDouble : ℝ := (2 - 2 ^ (-52 : ℤ)) * 2 ^ 1023

/-- The largest number of type `float`. -/
noncomputable def maxFloat : ℝ := (2 - 2 ^ (-23 : ℤ)) * 2 ^ 127

open Classical in
/-- The number `x`, or an infinity when it lies outside `-bound` to `bound`. -/
noncomputable def ranged (bound x : ℝ) : Exact := if |x| ≤ bound then num x else inf (negative x)

noncomputable def exp : Exact → Exact
  | num x => ranged maxDouble (Real.exp x)
  | inf s => if s then num 0 else inf false
  | nan => nan

open Classical in
noncomputable def sqrt : Exact → Exact
  | num x => if x < 0 then nan else num √x
  | inf s => if s then nan else inf false
  | nan => nan

noncomputable def cos : Exact → Exact
  | num x => num (Real.cos x)
  | inf _ | nan => nan

noncomputable def sin : Exact → Exact
  | num x => num (Real.sin x)
  | inf _ | nan => nan

noncomputable def hypot : Exact → Exact → Exact
  | num x, num y => num √(x * x + y * y)
  | inf _, _ | _, inf _ => inf false
  | nan, _ | _, nan => nan

noncomputable def toFloat : Exact → Exact
  | num x => ranged maxFloat x
  | inf s => inf s
  | nan => nan

noncomputable def toUInt32 : Exact → UInt32
  | num x => UInt32.ofNat ⌊x⌋₊
  | inf _ | nan => 0

noncomputable instance : Double Exact where
  add := add
  sub a b := add a (neg b)
  mul := mul
  div := div
  neg := neg
  ofScientific m s e := num (OfScientific.ofScientific m s e)
  ofInt n := num n
  pi := num Real.pi
  infinity := inf false
  exp := exp
  sqrt := sqrt
  cos := cos
  sin := sin
  hypot := hypot
  toFloat := toFloat
  toUInt32 := toUInt32
  isfinite := isfinite
  lt := lt
  le := le

variable (x y : ℝ)

@[simp] theorem num_inj {x y : ℝ} : num x = num y ↔ x = y := ⟨num.inj, congrArg num⟩

@[simp] theorem num_add : num x + num y = num (x + y) := rfl

@[simp] theorem num_sub : num x - num y = num (x - y) := by
  rw [sub_eq_add_neg]
  rfl

@[simp] theorem num_mul : num x * num y = num (x * y) := rfl

@[simp] theorem num_neg : -num x = num (-x) := rfl

theorem num_div {x y : ℝ} (hy : y ≠ 0) : num x / num y = num (x / y) := by
  show div (num x) (num y) = _
  rw [div, if_neg hy]

theorem ofScientific_eq (m : ℕ) (s : Bool) (e : ℕ) :
    (OfScientific.ofScientific m s e : Exact) = num (OfScientific.ofScientific m s e) := rfl

@[simp] theorem ofInt_eq (n : ℤ) : (Double.ofInt n : Exact) = num n := rfl

@[simp] theorem pi_eq : (Double.pi : Exact) = num Real.pi := rfl

@[simp] theorem isfinite_num : Double.isfinite (num x) = true := rfl

@[simp] theorem lt_num : Double.lt (num x) (num y) = true ↔ x < y := by
  show lt (num x) (num y) = true ↔ _
  simp [lt]

@[simp] theorem le_num : Double.le (num x) (num y) = true ↔ x ≤ y := by
  show le (num x) (num y) = true ↔ _
  simp [le]

theorem le_of_lt_num {x y : ℝ} (h : Double.lt (num x) (num y) = true) : x ≤ y :=
  ((lt_num x y).mp h).le

theorem le_of_not_lt_num {x y : ℝ} (h : ¬ Double.lt (num x) (num y) = true) : y ≤ x :=
  not_lt.mp (mt (lt_num x y).mpr h)

theorem max_num : Double.max (num x) (num y) = num (max x y) := by
  unfold Double.max
  split
  · rename_i hlt
    rw [max_eq_right (le_of_lt_num hlt)]
  · rename_i hlt
    rw [max_eq_left (le_of_not_lt_num hlt)]

theorem zero_exact : (0.0 : Exact) = num 0 := by
  rw [ofScientific_eq]
  norm_num

theorem sqrt_num {x : ℝ} (hx : 0 ≤ x) : Double.sqrt (num x) = num √x := by
  show sqrt (num x) = _
  rw [sqrt, if_neg (not_lt.mpr hx)]

@[simp] theorem cos_num : Double.cos (num x) = num (Real.cos x) := rfl

@[simp] theorem sin_num : Double.sin (num x) = num (Real.sin x) := rfl

theorem exp_num {x : ℝ} (hx : Real.exp x ≤ maxDouble) : Double.exp (num x) = num (Real.exp x) := by
  show ranged maxDouble (Real.exp x) = _
  rw [ranged, if_pos (by rwa [abs_of_pos (Real.exp_pos x)])]

theorem toFloat_num {x : ℝ} (hx : |x| ≤ maxFloat) : Double.toFloat (num x) = num x := by
  show ranged maxFloat x = _
  rw [ranged, if_pos hx]

end Exact
