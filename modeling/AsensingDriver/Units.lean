import AsensingDriver.Parser
import Mathlib.Algebra.Order.Floor.Semifield
import Mathlib.Analysis.Complex.ExponentialBounds
import Mathlib.Tactic.NormNum
import Mathlib.Tactic.Linarith

/-! The units of the decoded fields when values are exact.  Every field of a packet is its integer
times a constant factor, and a standard deviation is an exponential that stays far inside the range
of `double` for every 16-bit word. -/

namespace AsensingDriver

open Exact

theorem int16_bounds (x : Int16) : (-32768 : ℝ) ≤ x.toInt ∧ (x.toInt : ℝ) ≤ 32767 := by
  have h1 := x.le_toInt
  have h2 := x.toInt_lt
  constructor
  · exact_mod_cast h1
  · exact_mod_cast Int.le_of_lt_add_one (by simpa using h2)

theorem two_pow_le_maxDouble : (2 : ℝ) ^ 1023 ≤ maxDouble := by
  unfold maxDouble
  have h : (1 : ℝ) ≤ 2 - 2 ^ (-52 : ℤ) := by norm_num
  calc (2 : ℝ) ^ 1023 = 1 * 2 ^ 1023 := (one_mul _).symm
    _ ≤ (2 - 2 ^ (-52 : ℤ)) * 2 ^ 1023 := mul_le_mul_of_nonneg_right h (by positivity)

/-- The exponential of every decodable word is a number of type `double`. -/
theorem exp_word_le (x : Int16) : Real.exp (x.toInt / 100) ≤ maxDouble := by
  have hx : (x.toInt : ℝ) / 100 ≤ (328 : ℕ) := by
    have := (int16_bounds x).2
    norm_num
    linarith
  have h1 : Real.exp 1 ≤ 2 ^ 2 := by
    have := Real.exp_one_lt_d9
    norm_num
    linarith
  calc Real.exp (x.toInt / 100) ≤ Real.exp (328 : ℕ) := Real.exp_le_exp.mpr hx
    _ = Real.exp 1 ^ 328 := by rw [← Real.exp_nat_mul, mul_one]
    _ ≤ (2 ^ 2) ^ 328 := pow_le_pow_left₀ (Real.exp_pos 1).le h1 328
    _ = 2 ^ 656 := by rw [← pow_mul]
    _ ≤ 2 ^ 1023 := pow_le_pow_right₀ (by norm_num) (by norm_num)
    _ ≤ maxDouble := two_pow_le_maxDouble

theorem value_exact (x : Int16) : (value x : Exact) = .num (Real.exp (x.toInt / 100)) := by
  have h100 : (100.0 : Exact) = .num 100 := by rw [ofScientific_eq]; norm_num
  rw [value, Double.ofInt16, ofInt_eq, h100, num_div (by norm_num)]
  exact exp_num (exp_word_le x)

/-- A standard deviation of an angle, sent in degrees. -/
theorem valueDeg_exact (x : Int16) : (value x * Double.pi / 180.0 : Exact) =
    .num (Real.exp (x.toInt / 100) * Real.pi / 180) := by
  have h180 : (180.0 : Exact) = .num 180 := by rw [ofScientific_eq]; norm_num
  rw [value_exact, pi_eq, num_mul, h180, num_div (by norm_num)]

theorem angle_exact (x : Int16) :
    (Double.ofInt16 x * (360.0 / 32768.0) * Double.pi / 180.0 : Exact) =
      .num (x.toInt * (360 / 32768) * Real.pi / 180) := by
  simp only [Double.ofInt16, ofInt_eq, ofScientific_eq, pi_eq]
  rw [num_div (by norm_num), num_mul, num_mul, num_div (by norm_num), num_inj]
  norm_num

theorem gyro_exact (x : Int16) :
    (Double.ofInt16 x * 300.0 / 32768.0 * Double.pi / 180.0 : Exact) =
      .num (x.toInt * 300 / 32768 * Real.pi / 180) := by
  simp only [Double.ofInt16, ofInt_eq, ofScientific_eq, pi_eq]
  rw [num_mul, num_div (by norm_num), num_mul, num_div (by norm_num), num_inj]
  norm_num

theorem accel_exact (x : Int16) : (Double.ofInt16 x * 12.0 / 32768.0 * 9.80665 : Exact) =
    .num (x.toInt * 12 / 32768 * 9.80665) := by
  simp only [Double.ofInt16, ofInt_eq, ofScientific_eq]
  rw [num_mul, num_div (by norm_num), num_mul, num_inj]
  norm_num

theorem velocity_exact (x : Int16) : (Double.ofInt16 x * 100.0 / 32768.0 : Exact) =
    .num (x.toInt * 100 / 32768) := by
  simp only [Double.ofInt16, ofInt_eq, ofScientific_eq]
  rw [num_mul, num_div (by norm_num), num_inj]
  norm_num

theorem degrees_exact (x : Int32) : (Double.ofInt32 x * 1e-7 : Exact) =
    .num (x.toInt / 10 ^ 7) := by
  simp only [Double.ofInt32, ofInt_eq, ofScientific_eq]
  rw [num_mul, num_inj]
  norm_num
  ring

theorem metres_exact (x : Int32) : (Double.ofInt32 x * 1e-3 : Exact) =
    .num (x.toInt / 10 ^ 3) := by
  simp only [Double.ofInt32, ofInt_eq, ofScientific_eq]
  rw [num_mul, num_inj]
  norm_num
  ring

theorem temperature_exact (x : Int16) :
    (Double.toFloat (Double.ofInt16 x * 200.0 / 32768.0) : Exact) =
      .num (x.toInt * 200 / 32768) := by
  simp only [Double.ofInt16, ofInt_eq, ofScientific_eq]
  rw [num_mul, num_div (by norm_num)]
  have hx := int16_bounds x
  rw [toFloat_num, num_inj]
  · norm_num
  · norm_num [abs_le, maxFloat]
    constructor <;> linarith

/-- The quarter-millisecond counter in whole milliseconds. -/
theorem milliseconds_exact (c : UInt32) :
    Double.toUInt32 (Double.ofUInt32 c * 0.25 : Exact) = c / 4 := by
  simp only [Double.ofUInt32, ofInt_eq, ofScientific_eq]
  rw [num_mul]
  show UInt32.ofNat ⌊_⌋₊ = _
  have h : ((c.toNat : ℤ) : ℝ) * OfScientific.ofScientific 25 true 2 = (c.toNat : ℝ) / (4 : ℕ) := by
    push_cast
    norm_num
    ring
  rw [h, Nat.floor_div_natCast, Nat.floor_natCast]
  apply UInt32.toNat_inj.mp
  have := c.toNat_lt
  rw [UInt32.toNat_div, UInt32.toNat_ofNat_of_lt' (by show _ < 2 ^ 32; omega)]
  rfl

end AsensingDriver
