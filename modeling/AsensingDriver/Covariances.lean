import AsensingDriver.Contract
import AsensingDriver.Publishing
import Mathlib.Data.List.FinRange

/-! The covariances that the driver publishes.  `received_covariances` says that the odometry agrees
with the fix in every sample, and with the IMU message where that carries the device orientation,
and that every entry is a number of type `double`, although the standard deviations of the status
may leave the range of `float`. -/

namespace AsensingDriver

open Latest Exact

/-- A variance that `double` holds: positive once its group has arrived, and zero before. -/
def Variance (arrived : Bool) (v : Exact) : Prop :=
  ∃ x, v = num x ∧ x ≤ maxDouble ∧ if arrived then 0 < x else x = 0

theorem variance_zero : Variance false (0.0 : Exact) :=
  ⟨0, zero_exact, le_trans (by positivity) two_pow_le_maxDouble, rfl⟩

theorem eq_zero_of_variance {v : Exact} (h : Variance false v) : v = 0.0 := by
  obtain ⟨x, rfl, -, rfl⟩ := h
  exact zero_exact.symm

/-- The square of the exponential of a word is far inside the range of `double`. -/
theorem exp_word_sq_le (x : Int16) :
    Real.exp (x.toInt / 100) * Real.exp (x.toInt / 100) ≤ maxDouble := by
  have hx : (x.toInt : ℝ) / 100 + x.toInt / 100 ≤ (656 : ℕ) := by
    have := (int16_bounds x).2
    norm_num
    linarith
  have h1 : Real.exp 1 ≤ 11 / 4 := by
    have := Real.exp_one_lt_d9
    linarith
  have h8 : ((11 : ℝ) / 4) ^ 8 ≤ 2 ^ 12 := by norm_num
  calc Real.exp (x.toInt / 100) * Real.exp (x.toInt / 100)
      = Real.exp (x.toInt / 100 + x.toInt / 100) := (Real.exp_add _ _).symm
    _ ≤ Real.exp (656 : ℕ) := Real.exp_le_exp.mpr hx
    _ = Real.exp 1 ^ 656 := by rw [← Real.exp_nat_mul, mul_one]
    _ ≤ (11 / 4) ^ 656 := pow_le_pow_left₀ (Real.exp_pos 1).le h1 656
    _ = ((11 / 4) ^ 8) ^ 82 := by rw [← pow_mul]
    _ ≤ (2 ^ 12) ^ 82 := pow_le_pow_left₀ (by positivity) h8 82
    _ = 2 ^ 984 := by rw [← pow_mul]
    _ ≤ 2 ^ 1023 := pow_le_pow_right₀ (by norm_num) (by norm_num)
    _ ≤ maxDouble := two_pow_le_maxDouble

theorem variance_value (x : Int16) : Variance true (value x * value x : Exact) := by
  refine ⟨_, by rw [value_exact, num_mul], exp_word_sq_le x, ?_⟩
  simp only [if_true]
  positivity

theorem variance_valueDeg (x : Int16) :
    Variance true
      (value x * Double.pi / 180.0 * (value x * Double.pi / 180.0) : Exact) := by
  refine ⟨_, by rw [valueDeg_exact, num_mul], ?_, ?_⟩
  · have hpi : Real.pi / 180 ≤ 1 := by
      have := Real.pi_le_four
      linarith
    have hpos : 0 ≤ Real.exp (x.toInt / 100) := (Real.exp_pos _).le
    have hscale : Real.exp (x.toInt / 100) * Real.pi / 180 ≤ Real.exp (x.toInt / 100) := by
      rw [mul_div_assoc]
      exact mul_le_of_le_one_right hpos hpi
    exact le_trans (mul_le_mul hscale hscale (by positivity) hpos) (exp_word_sq_le x)
  · simp only [if_true]
    positivity

/-! ### Groups of standard deviations -/

/-- The squares of three values. -/
structure Variances (arrived : Bool) (std : Exact × Exact × Exact) : Prop where
  first : Variance arrived (std.1 * std.1)
  second : Variance arrived (std.2.1 * std.2.1)
  third : Variance arrived (std.2.2 * std.2.2)

section Groups

variable {fs : List (List UInt8)}

/-- The squares of a group of standard deviations are variances, whatever has arrived. -/
theorem variances_stateAfter (g : Group Exact (Exact × Exact × Exact))
    (hread : ∀ f, Variances true (g.read f)) (hinitial : g.fields .initial = (0.0, 0.0, 0.0)) :
    Variances (g.flag (stateAfter .initial fs)) (g.fields (stateAfter .initial fs)) := by
  cases h : g.flag (stateAfter .initial fs) with
  | true =>
    obtain ⟨f, hf⟩ := fields_of_flag g h
    exact hf ▸ hread f
  | false =>
    have hzero : (0.0 * 0.0 : Exact) = 0.0 := by rw [zero_exact, num_mul, mul_zero]
    have hvariance : Variance false (0.0 * 0.0 : Exact) := by
      rw [hzero]
      exact variance_zero
    rw [fields_of_not_flag g h, hinitial]
    exact ⟨hvariance, hvariance, hvariance⟩

theorem positionVariances :
    let d : INSData Exact := stateAfter .initial fs
    Variances d.hasPositionStd (d.latitudeStd, d.longitudeStd, d.altitudeStd) :=
  variances_stateAfter .positionStd
    (fun _ => ⟨variance_value _, variance_value _, variance_value _⟩) rfl

theorem velocityVariances :
    let d : INSData Exact := stateAfter .initial fs
    Variances d.hasVelocityStd (d.northVelocityStd, d.eastVelocityStd, d.groundVelocityStd) :=
  variances_stateAfter .velocityStd
    (fun _ => ⟨variance_value _, variance_value _, variance_value _⟩) rfl

theorem attitudeVariances :
    let d : INSData Exact := stateAfter .initial fs
    Variances d.hasAttitudeStd (d.rollStd, d.pitchStd, d.yawStd) :=
  variances_stateAfter .attitudeStd
    (fun _ => ⟨variance_valueDeg _, variance_valueDeg _, variance_valueDeg _⟩) rfl

end Groups

/-! ### The messages of a sample -/

theorem get_set {α : Type} {n : Nat} (v : Vector α n) {j : Nat} (x : α) (h : j < n) (i : Fin n) :
    (v.set j x h).get i = if j = i.val then x else v.get i :=
  Vector.getElem_set h i.isLt

theorem get_replicate {α : Type} {n : Nat} (a : α) (i : Fin n) :
    (Vector.replicate n a).get i = a :=
  Vector.getElem_replicate i.isLt

/-- In every sample that is received, with its odometry, fix and IMU message: the odometry has the
variances of the fix, in the order North, East, and those of the orientation in the IMU message when
the device orientation is on; when it is off, the IMU message says that its orientation is unknown,
by the entry -1.  Every entry of the two covariances of the odometry is a number of type `double`,
which is positive exactly on the diagonals of the groups that have arrived. -/
theorem received_covariances (chunks : List (List UInt8)) (k : Fin (received Exact chunks).length)
    (setRPY : Exact → Exact → Exact → Quaternion Exact) (stamp : Time)
    (insFrameId gnssFrameId : String) (useDeviceOrientation : Bool) :
    let d := (received Exact chunks).get k
    let odom := makeOdometry setRPY d stamp insFrameId
    let fix := makeNavSatFix d stamp gnssFrameId
    let imu := makeImuMessage d stamp insFrameId useDeviceOrientation
    (odom.poseCovariance.get 0 = fix.positionCovariance.get 4 ∧
      odom.poseCovariance.get 7 = fix.positionCovariance.get 0 ∧
      odom.poseCovariance.get 14 = fix.positionCovariance.get 8) ∧
    (if useDeviceOrientation then
      odom.poseCovariance.get 21 = imu.orientationCovariance.get 0 ∧
        odom.poseCovariance.get 28 = imu.orientationCovariance.get 4 ∧
        odom.poseCovariance.get 35 = imu.orientationCovariance.get 8
    else
      ∀ i : Fin 9, imu.orientationCovariance.get i = if i = 0 then -1.0 else 0.0) ∧
    (∀ i : Fin 36, Variance
      (i.val ∈ [0, 7, 14] && d.hasPositionStd || i.val ∈ [21, 28, 35] && d.hasAttitudeStd)
      (odom.poseCovariance.get i)) ∧
    ∀ i : Fin 36, Variance (i.val ∈ [0, 7, 14] && d.hasVelocityStd)
      (odom.twistCovariance.get i) := by
  intro d odom fix imu
  have hd : d = stateAfter .initial (accepted Exact chunks k) := received_get chunks k
  have hposition : Variances d.hasPositionStd (d.latitudeStd, d.longitudeStd, d.altitudeStd) :=
    hd ▸ positionVariances
  have hvelocity : Variances d.hasVelocityStd
      (d.northVelocityStd, d.eastVelocityStd, d.groundVelocityStd) := hd ▸ velocityVariances
  have hattitude : Variances d.hasAttitudeStd (d.rollStd, d.pitchStd, d.yawStd) :=
    hd ▸ attitudeVariances
  have hfix : validPositionStd d = d.hasPositionStd := by rw [hd, validPositionStd_stateAfter]
  have himu : validAttitudeStd d = d.hasAttitudeStd := by rw [hd, validAttitudeStd_stateAfter]
  refine ⟨?_, ?_, ?_, ?_⟩
  · simp only [odom, fix, makeOdometry, makeNavSatFix, hfix, diagonal, get_set, get_replicate]
    cases h : d.hasPositionStd with
    | true => exact ⟨rfl, rfl, rfl⟩
    | false =>
      rw [h] at hposition
      exact ⟨eq_zero_of_variance hposition.first, eq_zero_of_variance hposition.second,
        eq_zero_of_variance hposition.third⟩
  · cases useDeviceOrientation with
    | true =>
      rw [if_pos rfl]
      simp only [odom, imu, makeOdometry, makeImuMessage, himu, diagonal, get_set, get_replicate]
      cases h : d.hasAttitudeStd with
      | true => exact ⟨rfl, rfl, rfl⟩
      | false =>
        rw [h] at hattitude
        exact ⟨eq_zero_of_variance hattitude.first, eq_zero_of_variance hattitude.second,
          eq_zero_of_variance hattitude.third⟩
    | false =>
      intro i
      simp only [imu, makeImuMessage, Bool.not_false, if_true, get_set, get_replicate]
      exact if_congr ⟨fun h => Fin.ext h.symm, fun h => congrArg Fin.val h.symm⟩ rfl rfl
  · intro i
    simp only [odom, makeOdometry, get_set, get_replicate]
    split_ifs with h35 h28 h21 h14 h7 h0
    · simpa [← h35] using hattitude.third
    · simpa [← h28] using hattitude.second
    · simpa [← h21] using hattitude.first
    · simpa [← h14] using hposition.third
    · simpa [← h7] using hposition.second
    · simpa [← h0] using hposition.first
    · have hnone : i.val ∉ [0, 7, 14] ∧ i.val ∉ [21, 28, 35] := by
        simp only [List.mem_cons, List.not_mem_nil, or_false]
        omega
      simpa [hnone] using variance_zero
  · intro i
    simp only [odom, makeOdometry, get_set, get_replicate]
    split_ifs with h14 h7 h0
    · simpa [← h14] using hvelocity.third
    · simpa [← h7] using hvelocity.second
    · simpa [← h0] using hvelocity.first
    · have hnone : i.val ∉ [0, 7, 14] := by
        simp only [List.mem_cons, List.not_mem_nil, or_false]
        omega
      simpa [hnone] using variance_zero

end AsensingDriver
