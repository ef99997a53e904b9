import AsensingDriver.Contract
import AsensingDriver.Encoding
import Mathlib.Analysis.Real.Pi.Bounds

/-! The range of the published standard deviations.  The checks are made on values of type
`double`, and the fields of a status have type `float`.  `floatRange_iff` says for which frames a
raised flag comes with finite fields. -/

namespace AsensingDriver

open Exact Latest

/-! ### The words that fit -/

theorem maxFloat_eq : maxFloat = (1 - 2 ^ (-24 : ℤ)) * 2 ^ 128 := by
  unfold maxFloat
  norm_num

/-- The exponential in units of the least power of two beyond `float`. -/
theorem exp_shift (x : ℝ) : Real.exp x = Real.exp (x - 128 * Real.log 2) * 2 ^ 128 := by
  have h2 : (2 : ℝ) ^ 128 = Real.exp (128 * Real.log 2) := by
    rw [← Real.rpow_natCast 2 128, Real.rpow_def_of_pos (by norm_num)]
    congr 1
    push_cast
    ring
  rw [h2, ← Real.exp_add, sub_add_cancel]

theorem exp_le_maxFloat : Real.exp 88.72 ≤ maxFloat := by
  have hlog := Real.log_two_gt_d9
  have hexp : Real.exp (88.72 - 128 * Real.log 2) ≤ 1 - 2 ^ (-24 : ℤ) := by
    calc Real.exp (88.72 - 128 * Real.log 2) ≤ Real.exp (-0.002) := by
          apply Real.exp_le_exp.mpr
          norm_num at hlog ⊢
          linarith
      _ = (Real.exp 0.002)⁻¹ := Real.exp_neg _
      _ ≤ (1.002 : ℝ)⁻¹ := by
          apply inv_anti₀ (by norm_num)
          have := Real.add_one_le_exp (0.002 : ℝ)
          norm_num at this ⊢
          linarith
      _ ≤ 1 - 2 ^ (-24 : ℤ) := by norm_num
  rw [exp_shift, maxFloat_eq]
  gcongr

theorem maxFloat_lt_exp : maxFloat < Real.exp 88.73 := by
  have hlog := Real.log_two_lt_d9
  have hexp : 1 - 2 ^ (-24 : ℤ) < Real.exp (88.73 - 128 * Real.log 2) := by
    calc (1 - 2 ^ (-24 : ℤ) : ℝ) < 1 := by norm_num
      _ ≤ Real.exp (88.73 - 128 * Real.log 2) := by
          apply Real.one_le_exp
          norm_num at hlog ⊢
          linarith
  rw [exp_shift, maxFloat_eq]
  gcongr

theorem exp_deg_le_maxFloat : Real.exp 92.77 * Real.pi / 180 ≤ maxFloat := by
  have hlog := Real.log_two_gt_d9
  have hone := Real.exp_one_lt_d9
  have hpi := Real.pi_lt_d6
  have hsmall : Real.exp 0.0236 ≤ 1.02418 := by
    refine (Real.exp_bound_div_one_sub_of_interval (by norm_num) (by norm_num)).trans ?_
    norm_num
  have hexp : Real.exp (92.77 - 128 * Real.log 2) ≤ 57.272 := by
    calc Real.exp (92.77 - 128 * Real.log 2) ≤ Real.exp (4 * 1 + 2 * 0.0236) := by
          apply Real.exp_le_exp.mpr
          norm_num at hlog ⊢
          linarith
      _ = Real.exp 1 ^ 4 * Real.exp 0.0236 ^ 2 := by
          rw [Real.exp_add, ← Real.exp_nat_mul, ← Real.exp_nat_mul]
          norm_num
      _ ≤ 2.7182818286 ^ 4 * 1.02418 ^ 2 := by gcongr
      _ ≤ 57.272 := by norm_num
  rw [exp_shift, maxFloat_eq]
  calc Real.exp (92.77 - 128 * Real.log 2) * 2 ^ 128 * Real.pi / 180
      = Real.exp (92.77 - 128 * Real.log 2) * Real.pi / 180 * 2 ^ 128 := by ring
    _ ≤ 57.272 * 3.141593 / 180 * 2 ^ 128 := by gcongr
    _ ≤ (1 - 2 ^ (-24 : ℤ)) * 2 ^ 128 := by norm_num

theorem maxFloat_lt_exp_deg : maxFloat < Real.exp 92.78 * Real.pi / 180 := by
  have hlog := Real.log_two_lt_d9
  have hone := Real.exp_one_gt_d9
  have hpi := Real.pi_gt_d6
  have hsmall := Real.add_one_le_exp (0.057 : ℝ)
  have hexp : 57.7 ≤ Real.exp (92.78 - 128 * Real.log 2) := by
    calc (57.7 : ℝ) ≤ 2.7182818283 ^ 4 * (0.057 + 1) := by norm_num
      _ ≤ Real.exp 1 ^ 4 * Real.exp 0.057 := by gcongr
      _ = Real.exp (4 * 1 + 0.057) := by
          rw [Real.exp_add, ← Real.exp_nat_mul]
          norm_num
      _ ≤ Real.exp (92.78 - 128 * Real.log 2) := by
          apply Real.exp_le_exp.mpr
          norm_num at hlog ⊢
          linarith
  rw [exp_shift, maxFloat_eq]
  calc ((1 - 2 ^ (-24 : ℤ)) * 2 ^ 128 : ℝ) < 57.7 * 3.141592 / 180 * 2 ^ 128 := by norm_num
    _ ≤ Real.exp (92.78 - 128 * Real.log 2) * Real.pi / 180 * 2 ^ 128 := by gcongr
    _ = Real.exp (92.78 - 128 * Real.log 2) * 2 ^ 128 * Real.pi / 180 := by ring

/-- A multiple of the exponential of a word stays within a bound up to the last word that does. -/
theorem exp_word_mul_le_iff {k bound : ℝ} {limit : ℤ} (hk : 0 < k)
    (hle : Real.exp (limit / 100) * k ≤ bound) (hlt : bound < Real.exp ((limit + 1) / 100) * k)
    (word : ℤ) : Real.exp (word / 100) * k ≤ bound ↔ word ≤ limit := by
  constructor
  · intro h
    by_contra hword
    have hnext : (limit : ℝ) + 1 ≤ word := by exact_mod_cast Int.not_le.mp hword
    have hexp : Real.exp ((limit + 1) / 100) * k ≤ Real.exp (word / 100) * k := by gcongr
    exact absurd (hexp.trans h) (not_le.mpr hlt)
  · intro hword
    have hcast : (word : ℝ) ≤ limit := by exact_mod_cast hword
    exact le_trans (by gcongr) hle

theorem exp_word_le_maxFloat_iff (x : Int16) :
    Real.exp (x.toInt / 100) ≤ maxFloat ↔ x.toInt ≤ 8872 := by
  rw [← mul_one (Real.exp (x.toInt / 100))]
  apply exp_word_mul_le_iff one_pos
  · have h := exp_le_maxFloat
    norm_num at h ⊢
    exact h
  · have h := maxFloat_lt_exp
    norm_num at h ⊢
    exact h

theorem exp_wordDeg_le_maxFloat_iff (x : Int16) :
    Real.exp (x.toInt / 100) * Real.pi / 180 ≤ maxFloat ↔ x.toInt ≤ 9277 := by
  rw [mul_div_assoc]
  apply exp_word_mul_le_iff (by positivity)
  · have h := exp_deg_le_maxFloat
    rw [mul_div_assoc] at h
    norm_num at h ⊢
    exact h
  · have h := maxFloat_lt_exp_deg
    rw [mul_div_assoc] at h
    norm_num at h ⊢
    exact h

/-! ### Values in range -/

theorem finiteNonnegative_toFloat_iff {x : ℝ} (hx : 0 ≤ x) :
    finiteNonnegative (Double.toFloat (num x)) = true ↔ x ≤ maxFloat := by
  by_cases hle : x ≤ maxFloat
  · rw [toFloat_num (by rwa [abs_of_nonneg hx])]
    exact iff_of_true (finiteNonnegative_num hx) hle
  · have hinf : Double.toFloat (num x) = inf (negative x) := by
      show ranged maxFloat x = _
      rw [ranged, if_neg (by rwa [abs_of_nonneg hx])]
    rw [hinf]
    exact iff_of_false Bool.false_ne_true hle

/-- The numbers `sources` are in the range of `float`, and the values published for them pass the
check that was made on the numbers. -/
def InRange (sources published : List Exact) : Prop :=
  (∀ v ∈ sources, ∃ x, v = num x ∧ x ≤ maxFloat) ∧ ∀ v ∈ published, finiteNonnegative v = true

/-- Three numbers are in range, and so is what is published of them, when each of them is. -/
theorem inRange_toFloat_iff {x y z : ℝ} {published : List Exact} (hx : 0 ≤ x) (hy : 0 ≤ y)
    (hz : 0 ≤ z) (hpublished : ∀ v ∈ published, v ∈ [num x, num y, num z].map Double.toFloat) :
    InRange [num x, num y, num z] published ↔
      x ≤ maxFloat ∧ y ≤ maxFloat ∧ z ≤ maxFloat := by
  constructor
  · intro h
    obtain ⟨hsources, -⟩ := h
    simpa using hsources
  · rintro ⟨hx', hy', hz'⟩
    have hfloats : ∀ v ∈ [num x, num y, num z].map Double.toFloat, finiteNonnegative v = true := by
      simp [finiteNonnegative_toFloat_iff, *]
    refine ⟨by simp [*], ?_⟩
    intro v hv
    exact hfloats v (hpublished v hv)

theorem max_mem {F : Type} [Double F] (a b c : F) :
    Double.max (Double.max a b) c ∈ [a, b, c] := by
  unfold Double.max
  split_ifs <;> simp

/-! ### The standard deviations of a status -/

/-- What a raised flag of the status of a sample advertises. -/
def Advertised (data : INSData Exact) (status : INSStatus Exact) : Prop :=
  (status.positionStdValid = true →
    InRange [data.latitudeStd, data.longitudeStd, data.altitudeStd]
      [status.northStd, status.eastStd, status.upStd, status.positionStd]) ∧
  (status.velocityStdValid = true →
    InRange [data.northVelocityStd, data.eastVelocityStd, data.groundVelocityStd]
      [status.northVelocityStd, status.eastVelocityStd, status.groundVelocityStd]) ∧
  (status.attitudeStdValid = true →
    InRange [data.rollStd, data.pitchStd, data.yawStd]
      [status.rollStd, status.pitchStd, status.yawStd, status.headingStd])

/-- The three words that a selector frame carries are at most `limit`. -/
def WordsAtMost (limit : Int) (f : List UInt8) : Prop :=
  (i16 f 46).toInt ≤ limit ∧ (i16 f 48).toInt ≤ limit ∧ (i16 f 50).toInt ≤ limit

section Groups

variable {fs : List (List UInt8)} {published : List Exact}

/-- A group whose words mean the numbers `size` is in range when a raised flag comes from a frame
with small words. -/
theorem Group.inRange_iff (g : Group Exact (Exact × Exact × Exact)) {size : Int16 → ℝ} {limit : Int}
    (hread : ∀ f, g.read f = (num (size (i16 f 46)), num (size (i16 f 48)), num (size (i16 f 50))))
    (hpos : ∀ x, 0 ≤ size x) (hlimit : ∀ x, size x ≤ maxFloat ↔ x.toInt ≤ limit)
    {a b c : Exact} (hfields : g.fields (stateAfter .initial fs) = (a, b, c))
    (hpublished : g.flag (stateAfter .initial fs) = true →
      ∀ v ∈ published, v ∈ [a, b, c].map Double.toFloat) :
    (g.flag (stateAfter .initial fs) = true → InRange [a, b, c] published) ↔
      ∀ f, latest g.carries fs = some f → WordsAtMost limit f := by
  obtain ⟨hlatest, hflag⟩ := g.initial_latest fs
  cases hlast : latest g.carries fs with
  | none => simp [hflag, hlast]
  | some f =>
    have hraised : g.flag (stateAfter .initial fs) = true := by rw [hflag, hlast]; rfl
    have hvalues : (a, b, c) =
        (num (size (i16 f 46)), num (size (i16 f 48)), num (size (i16 f 50))) := by
      rw [← hfields, ← hread, hlatest, hlast]
      rfl
    obtain ⟨rfl, hrest⟩ := Prod.mk.inj hvalues
    obtain ⟨rfl, rfl⟩ := Prod.mk.inj hrest
    rw [inRange_toFloat_iff (hpos _) (hpos _) (hpos _) (hpublished hraised)]
    simp only [hraised, hlimit, true_imp_iff, Option.some.injEq, forall_eq']
    rfl

end Groups

theorem advertised_stateAfter (fs : List (List UInt8)) (stamp : Time) (frameId : String)
    (types : List Int64) :
    Advertised (stateAfter .initial fs)
        (makeInsStatus (stateAfter .initial fs) stamp frameId types) ↔
      (∀ f, latest (selects 0) fs = some f → WordsAtMost 8872 f) ∧
      (∀ f, latest (selects 1) fs = some f → WordsAtMost 8872 f) ∧
      ∀ f, latest (selects 2) fs = some f → WordsAtMost 9277 f := by
  obtain ⟨hposition, hvelocity, hattitude, -⟩ :=
    makeInsStatus_flags (stateAfter .initial fs : INSData Exact) stamp frameId types
  obtain ⟨hpositionStd, hvelocityStd, hattitudeStd⟩ :=
    makeInsStatus_std (stateAfter .initial fs : INSData Exact) stamp frameId types
  rw [validPositionStd_stateAfter] at hposition hpositionStd
  rw [validVelocityStd_stateAfter] at hvelocity hvelocityStd
  rw [validAttitudeStd_stateAfter] at hattitude hattitudeStd
  generalize makeInsStatus (stateAfter .initial fs : INSData Exact) stamp frameId types = status
    at *
  unfold Advertised
  rw [hposition, hvelocity, hattitude]
  have hpos (x : Int16) : (0 : ℝ) ≤ Real.exp (x.toInt / 100) := (Real.exp_pos _).le
  have hposDeg (x : Int16) : (0 : ℝ) ≤ Real.exp (x.toInt / 100) * Real.pi / 180 := by positivity
  refine and_congr ?_ (and_congr ?_ ?_)
  · refine Group.positionStd.inRange_iff ?_ hpos exp_word_le_maxFloat_iff rfl ?_
    · intro f
      simp only [Group.positionStd, value_exact]
    intro (hraised : (stateAfter .initial fs : INSData Exact).hasPositionStd = true)
    rw [if_pos hraised] at hpositionStd
    simp only [Prod.mk.injEq] at hpositionStd
    obtain ⟨heast, hnorth, hup, hmax⟩ := hpositionStd
    have hmem := max_mem status.eastStd status.northStd status.upStd
    rw [heast, hnorth, hup, ← hmax] at hmem
    simp only [List.mem_cons, List.not_mem_nil, or_false] at hmem
    simpa [heast, hnorth, hup] using or_left_comm.mp hmem
  · refine Group.velocityStd.inRange_iff ?_ hpos exp_word_le_maxFloat_iff rfl ?_
    · intro f
      simp only [Group.velocityStd, value_exact]
    intro (hraised : (stateAfter .initial fs : INSData Exact).hasVelocityStd = true)
    rw [if_pos hraised] at hvelocityStd
    simp only [Prod.mk.injEq] at hvelocityStd
    obtain ⟨hnorth, heast, hground⟩ := hvelocityStd
    simp [hnorth, heast, hground]
  · refine Group.attitudeStd.inRange_iff ?_ hposDeg exp_wordDeg_le_maxFloat_iff rfl ?_
    · intro f
      simp only [Group.attitudeStd, valueDeg_exact]
    intro (hraised : (stateAfter .initial fs : INSData Exact).hasAttitudeStd = true)
    rw [if_pos hraised] at hattitudeStd
    simp only [Prod.mk.injEq] at hattitudeStd
    obtain ⟨hroll, hpitch, hyaw, hheading⟩ := hattitudeStd
    simp [hroll, hpitch, hyaw, hheading]

/-- For every sequence of calls on a fresh parser and every status made from a returned sample: the
standard deviations under a raised flag are in the range of `float`, in the sample and as
published, exactly when the words of the last frame of each group are small enough. -/
theorem floatRange_iff (chunks : List (List UInt8)) (k : Fin (received Exact chunks).length)
    (stamp : Time) (frameId : String) (types : List Int64) :
    let data := (received Exact chunks).get k
    let last (n : UInt8) := latest (fun f => byte f 56 == n) (accepted Exact chunks k)
    Advertised data (makeInsStatus data stamp frameId types) ↔
      (∀ f, last 0 = some f ∨ last 1 = some f → WordsAtMost 8872 f) ∧
      ∀ f, last 2 = some f → WordsAtMost 9277 f := by
  intro data last
  have hdata : data = stateAfter .initial (accepted Exact chunks k) := received_get chunks k
  rw [hdata, advertised_stateAfter]
  simp only [or_imp, forall_and, and_assoc]
  rfl

/-- The word 8873 is advertised with an infinite deviation of the latitude. -/
theorem not_advertised_8873 : ¬∀ (chunks : List (List UInt8))
    (k : Fin (received Exact chunks).length) (stamp : Time) (frameId : String) (types : List Int64),
    Advertised ((received Exact chunks).get k)
      (makeInsStatus ((received Exact chunks).get k) stamp frameId types) := by
  intro h
  let chunks := [makeSelectorFrame 0 8873 0 0]
  have hstatus := h chunks ⟨0, by decide +kernel⟩ ⟨0, 0⟩ "rtk_antenna_link" []
  rw [received_get, advertised_stateAfter] at hstatus
  have hlast : latest (selects 0) (accepted Exact chunks 0) =
      some (makeSelectorFrame 0 8873 0 0) := by decide +kernel
  exact absurd (hstatus.1 _ hlast).1 (by decide +kernel)

end AsensingDriver
