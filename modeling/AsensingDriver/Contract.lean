import AsensingDriver.Encoding
import AsensingDriver.Lib.Rotation
import AsensingDriver.Monitor

/-! What the published messages say about the stream.  A status raises the flag of a group from the
first frame that carries the group on (`status_flags`), a fix is usable exactly when its own packet
says so (`navSatFix_contract`), and `rtkFixed_iff` gives the position types for which the verdict
on an RTK fix is right.  The orientation of an IMU message, when the device orientation is asked
for, is the product of the turns by yaw about `z`, by pitch about `y` and by roll about `x`
(`makeImuMessage_orientation`). -/

namespace AsensingDriver

open Latest Exact

/-! ### Validity of the groups -/

theorem finiteNonnegative_num {x : ℝ} (hx : 0 ≤ x) : finiteNonnegative (Exact.num x) = true := by
  rw [finiteNonnegative, zero_exact, isfinite_num, Bool.true_and, le_num]
  exact hx

theorem finiteNonnegative_value (x : Int16) : finiteNonnegative (value x : Exact) = true := by
  rw [value_exact]
  exact finiteNonnegative_num (Real.exp_pos _).le

theorem finiteNonnegative_valueDeg (x : Int16) :
    finiteNonnegative (value x * Double.pi / 180.0 : Exact) = true := by
  rw [valueDeg_exact]
  exact finiteNonnegative_num (by positivity)

section Groups

variable {fs : List (List UInt8)}

/-- A flag is raised exactly when some frame selects its group. -/
theorem flag_iff {β : Type} (g : Group Exact β) :
    g.flag (stateAfter .initial fs) = true ↔ ∃ f ∈ fs, g.carries f = true := by
  rw [(g.initial_latest fs).2, latest_isSome_iff]

/-- A raised flag comes with the fields of some frame. -/
theorem fields_of_flag {β : Type} (g : Group Exact β)
    (h : g.flag (stateAfter .initial fs) = true) :
    ∃ f, g.fields (stateAfter .initial fs) = g.read f := by
  obtain ⟨hfields, hflag⟩ := g.initial_latest fs
  obtain ⟨f, hf⟩ := Option.isSome_iff_exists.mp (hflag ▸ h)
  exact ⟨f, by rw [hfields, hf]; rfl⟩

/-- A group whose flag is not raised holds zeros. -/
theorem fields_of_not_flag {β : Type} (g : Group Exact β)
    (h : g.flag (stateAfter .initial fs) = false) :
    g.fields (stateAfter .initial fs) = g.fields .initial := by
  obtain ⟨hfields, hflag⟩ := g.initial_latest fs
  have hnone : latest g.carries fs = none := by simpa [hflag] using h
  rw [hfields, hnone]
  rfl

/-- Three standard deviations pass their check. -/
def FiniteNonnegative (std : Exact × Exact × Exact) : Prop :=
  finiteNonnegative std.1 = true ∧ finiteNonnegative std.2.1 = true ∧
    finiteNonnegative std.2.2 = true

/-- A raised flag of a group of standard deviations comes with values that pass the check. -/
theorem std_of_flag (g : Group Exact (Exact × Exact × Exact))
    (hread : ∀ f, FiniteNonnegative (g.read f)) (h : g.flag (stateAfter .initial fs) = true) :
    FiniteNonnegative (g.fields (stateAfter .initial fs)) := by
  obtain ⟨f, hf⟩ := fields_of_flag g h
  exact hf ▸ hread f

/-- Checks that hold under a raised flag leave the flag as it is. -/
theorem flag_and_checks {flag a b c : Bool} (h : flag = true → a = true ∧ b = true ∧ c = true) :
    (flag && a && b && c) = flag := by
  cases flag with
  | false => rfl
  | true =>
    obtain ⟨rfl, rfl, rfl⟩ := h rfl
    rfl

theorem validPositionStd_stateAfter :
    validPositionStd (stateAfter .initial fs : INSData Exact) =
      (stateAfter .initial fs : INSData Exact).hasPositionStd := by
  apply flag_and_checks
  intro h
  obtain ⟨h1, h2, h3⟩ := std_of_flag .positionStd
    (fun _ => ⟨finiteNonnegative_value _, finiteNonnegative_value _, finiteNonnegative_value _⟩) h
  exact ⟨h2, h1, h3⟩

theorem validVelocityStd_stateAfter :
    validVelocityStd (stateAfter .initial fs : INSData Exact) =
      (stateAfter .initial fs : INSData Exact).hasVelocityStd := by
  apply flag_and_checks
  intro h
  exact std_of_flag .velocityStd
    (fun _ => ⟨finiteNonnegative_value _, finiteNonnegative_value _, finiteNonnegative_value _⟩) h

theorem validAttitudeStd_stateAfter :
    validAttitudeStd (stateAfter .initial fs : INSData Exact) =
      (stateAfter .initial fs : INSData Exact).hasAttitudeStd := by
  apply flag_and_checks
  intro h
  exact std_of_flag .attitudeStd
    (fun _ => ⟨finiteNonnegative_valueDeg _, finiteNonnegative_valueDeg _,
      finiteNonnegative_valueDeg _⟩) h

/-- Every decoded temperature is a number. -/
theorem validTemperature_stateAfter :
    ((stateAfter .initial fs : INSData Exact).hasTemperature &&
      Double.isfinite (stateAfter .initial fs : INSData Exact).temperature) =
      (stateAfter .initial fs : INSData Exact).hasTemperature := by
  cases h : (stateAfter .initial fs : INSData Exact).hasTemperature with
  | false => rfl
  | true =>
    obtain ⟨f, hf⟩ := fields_of_flag .temperature h
    have hnum := hf.trans (temperature_exact _)
    rw [Bool.true_and]
    exact congrArg Double.isfinite hnum

/-- The flags of a status say which groups have arrived. -/
theorem flags_stateAfter (hvalid : ∀ f ∈ fs, ValidFrame f) (stamp : Time) (frameId : String)
    (types : List Int64) :
    let status := makeInsStatus (stateAfter .initial fs : INSData Exact) stamp frameId types
    let selected (n : UInt8) := ∃ f ∈ fs, byte f 56 = n
    (status.positionStdValid = true ↔ selected 0) ∧
    (status.velocityStdValid = true ↔ selected 1) ∧
    (status.attitudeStdValid = true ↔ selected 2) ∧
    (status.positionStatusValid = true ↔ selected 32) ∧
    (status.temperatureValid = true ↔ selected 22) ∧
    (status.wheelSpeedStatusValid = true ↔ selected 33) ∧
    (status.gpsWeekValid = true ↔ ∃ f ∈ fs, f.length = 63) := by
  intro status selected
  have selected_iff (n : UInt8) : (∃ f ∈ fs, selects n f = true) ↔ selected n := by
    simp only [selects, beq_iff_eq]
    rfl
  have week_iff : (∃ f ∈ fs, hasExtendedFrame f = true) ↔ ∃ f ∈ fs, f.length = 63 :=
    exists_congr fun f => and_congr_right fun hf => (hvalid f hf).hasExtendedFrame_iff
  obtain ⟨h1, h2, h3, h4, h5, h6, h7⟩ :=
    makeInsStatus_flags (stateAfter .initial fs : INSData Exact) stamp frameId types
  rw [h1, h2, h3, h4, h5, h6, h7, validPositionStd_stateAfter, validVelocityStd_stateAfter,
    validAttitudeStd_stateAfter, validTemperature_stateAfter]
  exact ⟨(flag_iff .positionStd).trans (selected_iff 0),
    (flag_iff .velocityStd).trans (selected_iff 1), (flag_iff .attitudeStd).trans (selected_iff 2),
    (flag_iff .positionStatus).trans (selected_iff 32),
    (flag_iff .temperature).trans (selected_iff 22),
    (flag_iff .wheelSpeedStatus).trans (selected_iff 33), (flag_iff .gpsWeek).trans week_iff⟩

/-- The fields that a status copies without a check are zero until their group has arrived. -/
theorem copies_stateAfter (stamp : Time) (frameId : String) (types : List Int64) :
    let status := makeInsStatus (stateAfter .initial fs : INSData Exact) stamp frameId types
    (status.positionStatusValid = false →
      status.positionType = 0 ∧ status.numSatellite = 0 ∧ status.headingType = 0 ∧
        status.rtkFixed = false) ∧
    (status.temperatureValid = false → status.temperature = .num 0) ∧
    (status.wheelSpeedStatusValid = false → status.wheelSpeedStatus = 0) ∧
    (status.gpsWeekValid = false → status.gpsWeek = 0) := by
  intro status
  obtain ⟨-, -, -, h4, h5, h6, h7⟩ :=
    makeInsStatus_flags (stateAfter .initial fs : INSData Exact) stamp frameId types
  obtain ⟨c1, c2, c3, c4, -, c5, c6⟩ :=
    makeInsStatus_copies (stateAfter .initial fs : INSData Exact) stamp frameId types
  have hrtk := makeInsStatus_rtkFixed (stateAfter .initial fs : INSData Exact) stamp frameId types
  rw [validTemperature_stateAfter] at h5
  rw [h4, h5, h6, h7, c1, c2, c3, c4, c5, c6, hrtk]
  refine ⟨?_, ?_, ?_, ?_⟩ <;> intro h
  · obtain ⟨h1, h2⟩ := Prod.mk.inj (fields_of_not_flag .positionStatus h)
    obtain ⟨h2, h3⟩ := Prod.mk.inj h2
    exact ⟨h1, h2, h3, by rw [h, Bool.false_and]⟩
  · exact (fields_of_not_flag .temperature h).trans zero_exact
  · exact fields_of_not_flag .wheelSpeedStatus h
  · exact fields_of_not_flag .gpsWeek h

end Groups

/-- For every sequence of calls on a fresh parser and every status made from a returned sample: a
flag is raised exactly when a frame accepted up to that sample carries its group, and the fields of
a group whose flag is not raised are zero. -/
theorem status_flags (chunks : List (List UInt8)) (k : Fin (received Exact chunks).length)
    (stamp : Time) (frameId : String) (types : List Int64) :
    let status := makeInsStatus ((received Exact chunks).get k) stamp frameId types
    let selected (n : UInt8) := ∃ f ∈ accepted Exact chunks k, byte f 56 = n
    ((status.positionStdValid = true ↔ selected 0) ∧
      (status.velocityStdValid = true ↔ selected 1) ∧
      (status.attitudeStdValid = true ↔ selected 2) ∧
      (status.positionStatusValid = true ↔ selected 32) ∧
      (status.temperatureValid = true ↔ selected 22) ∧
      (status.wheelSpeedStatusValid = true ↔ selected 33) ∧
      (status.gpsWeekValid = true ↔ ∃ f ∈ accepted Exact chunks k, f.length = 63)) ∧
    ((status.positionStdValid = false →
        status.eastStd = .num 0 ∧ status.northStd = .num 0 ∧ status.upStd = .num 0 ∧
          status.positionStd = .num 0) ∧
      (status.velocityStdValid = false →
        status.northVelocityStd = .num 0 ∧ status.eastVelocityStd = .num 0 ∧
          status.groundVelocityStd = .num 0) ∧
      (status.attitudeStdValid = false →
        status.rollStd = .num 0 ∧ status.pitchStd = .num 0 ∧ status.yawStd = .num 0 ∧
          status.headingStd = .num 0)) ∧
    ((status.positionStatusValid = false →
        status.positionType = 0 ∧ status.numSatellite = 0 ∧ status.headingType = 0 ∧
          status.rtkFixed = false) ∧
      (status.temperatureValid = false → status.temperature = .num 0) ∧
      (status.wheelSpeedStatusValid = false → status.wheelSpeedStatus = 0) ∧
      (status.gpsWeekValid = false → status.gpsWeek = 0)) := by
  have hunset := makeInsStatus_unset ((received Exact chunks).get k) stamp frameId types
  rw [zero_exact] at hunset
  refine ⟨?_, hunset, ?_⟩ <;> rw [received_get]
  · exact flags_stateAfter accepted_valid stamp frameId types
  · exact copies_stateAfter stamp frameId types

/-! ### Fixes -/

section Fixes

variable {F : Type} [Double F]

theorem diagonal_eq (x y z : F) : diagonal x y z = #v[x, 0.0, 0.0, 0.0, y, 0.0, 0.0, 0.0, z] := rfl

/-- The status of a fix, and the covariance that it carries. -/
theorem makeNavSatFix_fields (data : INSData F) (stamp : Time) (frameId : String) :
    let fix := makeNavSatFix data stamp frameId
    fix.status.status =
      (if data.insStatus != 0 && validCoordinates data then STATUS_FIX else STATUS_NO_FIX) ∧
    (fix.positionCovarianceType, fix.positionCovariance) =
      if validPositionStd data then
        (COVARIANCE_TYPE_DIAGONAL_KNOWN, diagonal (data.longitudeStd * data.longitudeStd)
          (data.latitudeStd * data.latitudeStd) (data.altitudeStd * data.altitudeStd))
      else (COVARIANCE_TYPE_UNKNOWN, .replicate 9 0.0) := by
  unfold makeNavSatFix
  dsimp only
  split_ifs <;> exact ⟨rfl, rfl⟩

theorem status_fix_iff (data : INSData F) (stamp : Time) (frameId : String) :
    (makeNavSatFix data stamp frameId).status.status = STATUS_FIX ↔
      data.insStatus ≠ 0 ∧ validCoordinates data = true := by
  rw [(makeNavSatFix_fields data stamp frameId).1]
  split
  · rename_i h
    simpa using h
  · rename_i h
    simp only [Bool.and_eq_true, bne_iff_ne] at h
    simp [h, STATUS_FIX, STATUS_NO_FIX]

/-- The monitor's test for a usable fix agrees with the driver's status on every sample. -/
theorem usable_makeNavSatFix (data : INSData F) (stamp : Time) (frameId : String) :
    R3HardwareMonitor.usable (makeNavSatFix data stamp frameId) = true ↔
      (makeNavSatFix data stamp frameId).status.status = STATUS_FIX := by
  have husable : R3HardwareMonitor.usable (makeNavSatFix data stamp frameId) =
      ((makeNavSatFix data stamp frameId).status.status != STATUS_NO_FIX &&
        validCoordinates data) := by
    unfold R3HardwareMonitor.usable makeNavSatFix validCoordinates
    dsimp only
    split_ifs <;> simp only [Bool.and_assoc]
  rw [husable, Bool.and_eq_true, bne_iff_ne, status_fix_iff,
    (makeNavSatFix_fields data stamp frameId).1]
  split
  · rename_i h
    obtain ⟨hstatus, hcoordinates⟩ := Bool.and_eq_true_iff.mp h
    simp [bne_iff_ne.mp hstatus, hcoordinates, STATUS_FIX, STATUS_NO_FIX]
  · rename_i h
    simp only [Bool.and_eq_true, bne_iff_ne] at h
    simp [h]

/-- A coordinate in units of `10 ^ -7` degrees lies in the range `-limit` to `limit`. -/
theorem degrees_range (x : Int32) (limit : ℕ) :
    ((-limit : ℝ) ≤ x.toInt / 10 ^ 7 ∧ (x.toInt : ℝ) / 10 ^ 7 ≤ limit) ↔
      -(limit * 10000000 : ℤ) ≤ x.toInt ∧ x.toInt ≤ limit * 10000000 := by
  rw [le_div_iff₀ (by positivity), div_le_iff₀ (by positivity)]
  constructor
  · rintro ⟨h1, h2⟩
    constructor
    · have : ((-(limit * 10000000 : ℤ) : ℤ) : ℝ) ≤ x.toInt := by
        push_cast
        linarith
      exact_mod_cast this
    · have : (x.toInt : ℝ) ≤ ((limit * 10000000 : ℤ) : ℝ) := by
        push_cast
        linarith
      exact_mod_cast this
  · rintro ⟨h1, h2⟩
    have h1' : ((-(limit * 10000000 : ℤ) : ℤ) : ℝ) ≤ x.toInt := by exact_mod_cast h1
    have h2' : (x.toInt : ℝ) ≤ ((limit * 10000000 : ℤ) : ℝ) := by exact_mod_cast h2
    push_cast at h1' h2'
    constructor <;> linarith

/-- The coordinates of a decoded sample are valid when its packet's integers are in range. -/
theorem validCoordinates_decode (s : INSData Exact) (f : List UInt8) :
    validCoordinates (decode s f) = true ↔
      (-900000000 ≤ (i32 f 21).toInt ∧ (i32 f 21).toInt ≤ 900000000) ∧
      -1800000000 ≤ (i32 f 25).toInt ∧ (i32 f 25).toInt ≤ 1800000000 := by
  have hmeasures := measures_decode s f
  have hlatitude : (decode s f).latitude = .num ((i32 f 21).toInt / 10 ^ 7) :=
    hmeasures.latitude.trans (degrees_exact _)
  have hlongitude : (decode s f).longitude = .num ((i32 f 25).toInt / 10 ^ 7) :=
    hmeasures.longitude.trans (degrees_exact _)
  have haltitude : (decode s f).altitude = .num ((i32 f 29).toInt / 10 ^ 3) :=
    hmeasures.altitude.trans (metres_exact _)
  have h90 : (90.0 : Exact) = .num (90 : ℕ) := by rw [ofScientific_eq]; norm_num
  have h180 : (180.0 : Exact) = .num (180 : ℕ) := by rw [ofScientific_eq]; norm_num
  rw [validCoordinates, hlatitude, hlongitude, haltitude, h90, h180]
  simp only [isfinite_num, Bool.true_and, Bool.and_eq_true, num_neg, le_num, and_assoc]
  rw [← and_assoc, degrees_range, degrees_range]
  norm_num [and_assoc]

end Fixes

/-- The covariance of a fix is that of the last frame that carries the standard deviations of the
position. -/
theorem covariance_stateAfter (fs : List (List UInt8)) (stamp : Time) (frameId : String) :
    let fix := makeNavSatFix (stateAfter .initial fs : INSData Exact) stamp frameId
    let variance (x : Int16) : Exact := .num (Real.exp (x.toInt / 100) ^ 2)
    (∀ g, latest (selects 0) fs = some g →
      fix.positionCovarianceType = COVARIANCE_TYPE_DIAGONAL_KNOWN ∧
      fix.positionCovariance = #v[variance (i16 g 48), .num 0, .num 0, .num 0, variance (i16 g 46),
        .num 0, .num 0, .num 0, variance (i16 g 50)]) ∧
    (latest (selects 0) fs = none →
      fix.positionCovarianceType = COVARIANCE_TYPE_UNKNOWN ∧
      fix.positionCovariance = .replicate 9 (.num 0)) := by
  intro fix variance
  have hfix := (makeNavSatFix_fields (stateAfter .initial fs : INSData Exact) stamp frameId).2
  rw [validPositionStd_stateAfter, zero_exact] at hfix
  obtain ⟨hfields, hflag⟩ := (Group.positionStd (F := Exact)).initial_latest fs
  have hflag' : (stateAfter .initial fs : INSData Exact).hasPositionStd =
      (latest (selects 0) fs).isSome := hflag
  constructor
  · intro g hg
    rw [hflag', hg, Option.isSome_some, if_pos rfl, diagonal_eq] at hfix
    have hread : (_, _, _) = (value (i16 g 46), value (i16 g 48), value (i16 g 50)) :=
      hfields.trans (by rw [show Group.positionStd.carries = selects 0 from rfl, hg]; rfl)
    obtain ⟨h1, h2⟩ := Prod.mk.inj hread
    obtain ⟨h2, h3⟩ := Prod.mk.inj h2
    have square (x : Int16) : (value x * value x : Exact) = variance x := by
      rw [value_exact, num_mul, num_inj, sq]
    obtain ⟨htype, hcovariance⟩ := Prod.mk.inj hfix
    refine ⟨htype, hcovariance.trans ?_⟩
    rw [h1, h2, h3, square, square, square, zero_exact]
  · intro hnone
    rw [hflag', hnone] at hfix
    exact Prod.mk.inj hfix

/-- For every sequence of calls on a fresh parser and every fix made from a returned sample: the
status is a fix exactly when the low nibble of the packet's status byte is not zero and its
coordinates are in range, the covariance is that of the last frame accepted up to the sample that
carries one, and the monitor finds the fix usable exactly when its status is a fix. -/
theorem navSatFix_contract (chunks : List (List UInt8)) (k : Fin (received Exact chunks).length)
    (stamp : Time) (frameId : String) :
    let d := (received Exact chunks).get k
    let f := d.rawFrame
    let fix := makeNavSatFix d stamp frameId
    let last := latest (fun g => byte g 56 == 0) (accepted Exact chunks k)
    let variance (x : Int16) : Exact := .num (Real.exp (x.toInt / 100) ^ 2)
    (fix.status.status = STATUS_FIX ↔ (byte f 39).toNat % 16 ≠ 0 ∧
      (-900000000 ≤ (i32 f 21).toInt ∧ (i32 f 21).toInt ≤ 900000000) ∧
      -1800000000 ≤ (i32 f 25).toInt ∧ (i32 f 25).toInt ≤ 1800000000) ∧
    (fix.positionCovarianceType = COVARIANCE_TYPE_DIAGONAL_KNOWN ↔
      ∃ g ∈ accepted Exact chunks k, byte g 56 = 0) ∧
    (∀ g, last = some g →
      fix.positionCovariance = #v[variance (i16 g 48), .num 0, .num 0, .num 0, variance (i16 g 46),
        .num 0, .num 0, .num 0, variance (i16 g 50)]) ∧
    (last = none → fix.positionCovarianceType = COVARIANCE_TYPE_UNKNOWN ∧
      fix.positionCovariance = .replicate 9 (.num 0)) ∧
    (R3HardwareMonitor.usable fix = true ↔ fix.status.status = STATUS_FIX) := by
  intro d f fix last variance
  have hcovariance := covariance_stateAfter (accepted Exact chunks k) stamp frameId
  rw [← received_get chunks k] at hcovariance
  obtain ⟨hsome, hnone⟩ := hcovariance
  refine ⟨?_, ?_, fun g hg => (hsome g hg).2, hnone, usable_makeNavSatFix d stamp frameId⟩
  · obtain ⟨s, hs⟩ := received_get_decode chunks k
    have hcoordinates := validCoordinates_decode s f
    have hmeasures := measures_decode s f
    rw [← hs] at hcoordinates hmeasures
    have hstatus : d.insStatus.toNat = (byte f 39).toNat % 16 := by
      rw [hmeasures.insStatus, lowNibble_toNat]
    have hzero : d.insStatus ≠ 0 ↔ (byte f 39).toNat % 16 ≠ 0 := by
      rw [← hstatus, Ne, Ne, ← UInt8.toNat_inj]
      rfl
    exact (status_fix_iff d stamp frameId).trans (and_congr hzero hcoordinates)
  · have hlast : last.isSome = true ↔ ∃ g ∈ accepted Exact chunks k, byte g 56 = 0 := by
      rw [latest_isSome_iff]
      simp only [beq_iff_eq]
    rw [← hlast]
    cases h : last with
    | none =>
      have htype : fix.positionCovarianceType = COVARIANCE_TYPE_UNKNOWN := (hnone h).1
      exact iff_of_false (by rw [htype]; decide) (by decide)
    | some g => exact iff_of_true (hsome g h).1 rfl

/-! ### Position types -/

theorem typeWord_toInt (b : UInt8) : (typeWord b).toInt = b.toNat := by
  have h := b.toNat_lt
  rw [typeWord, toInt_toInt64 (by rw [UInt8.toNat_toUInt64]; omega), UInt8.toNat_toUInt64]

/-- The verdict on an RTK fix looks the low byte of the position type up. -/
theorem contains_typeWord {types : List Int64} {x : Int16} :
    types.contains (typeWord x.toUInt16.toUInt8) = true ↔
      ∃ t ∈ types, t.toInt = x.toInt % 256 := by
  rw [List.contains_iff_mem, ← lowByte_toNat, ← typeWord_toInt]
  constructor
  · intro h
    exact ⟨_, h, rfl⟩
  · rintro ⟨t, ht, heq⟩
    exact Int64.toInt_inj.mp heq ▸ ht

section RtkFixed

variable {F : Type} [Double F]

/-- For every sequence of calls on a fresh parser and every status made from a returned sample: the
status reports an RTK fix exactly for the listed position types of the last status frame accepted
up to the sample, if and only if the listing of that frame's position type does not change when
only its low byte is kept. -/
theorem rtkFixed_iff (chunks : List (List UInt8)) (k : Fin (received F chunks).length)
    (stamp : Time) (frameId : String) (types : List Int64) :
    let status := makeInsStatus ((received F chunks).get k) stamp frameId types
    let last := latest (fun f => byte f 56 == 32) (accepted F chunks k)
    let listed (word : Int) := ∃ t ∈ types, t.toInt = word
    (status.rtkFixed = true ↔ ∃ f, last = some f ∧ listed (i16 f 46).toInt) ↔
      ∀ f, last = some f → (listed (i16 f 46).toInt ↔ listed ((i16 f 46).toInt % 256)) := by
  intro status last listed
  have hstatus := makeInsStatus_rtkFixed ((received F chunks).get k) stamp frameId types
  obtain ⟨hfields, hflag⟩ := (Group.positionStatus (F := F)).initial_latest (accepted F chunks k)
  rw [← received_get chunks k] at hfields hflag
  have hflag' : ((received F chunks).get k).hasPositionStatus = last.isSome := hflag
  cases hlast : last with
  | none =>
    rw [hflag', hlast, Option.isSome_none, Bool.false_and] at hstatus
    have hfixed : status.rtkFixed = false := hstatus
    simp [hfixed]
  | some f =>
    have hread : (_, _, _) = ((i16 f 46).toUInt16.toUInt8, (i16 f 48).toUInt16.toUInt8,
        (i16 f 50).toUInt16.toUInt8) :=
      hfields.trans (by rw [show latest Group.positionStatus.carries _ = last from rfl, hlast]; rfl)
    have htype : ((received F chunks).get k).positionType = (i16 f 46).toUInt16.toUInt8 :=
      (Prod.mk.inj hread).1
    rw [hflag', hlast, Option.isSome_some, Bool.true_and, htype] at hstatus
    have hfixed : status.rtkFixed = true ↔ listed ((i16 f 46).toInt % 256) := by
      rw [show status.rtkFixed = _ from hstatus]
      exact contains_typeWord
    rw [hfixed]
    simp only [Option.some.injEq, exists_eq_left', forall_eq']
    exact Iff.comm

end RtkFixed

/-- The position type 260 is reported as the listed type 4. -/
theorem rtkFixed_wraps : ¬∀ (chunks : List (List UInt8)) (k : Fin (received Exact chunks).length)
    (stamp : Time) (frameId : String) (types : List Int64),
    (makeInsStatus ((received Exact chunks).get k) stamp frameId types).rtkFixed = true ↔
      ∃ f, latest (fun f => byte f 56 == 32) (accepted Exact chunks k) = some f ∧
        ∃ t ∈ types, t.toInt = (i16 f 46).toInt := by
  intro h
  let chunks := [makeSelectorFrame 32 260 12 5]
  obtain ⟨f, hf, t, ht, hword⟩ :=
    (h chunks ⟨0, by decide +kernel⟩ ⟨0, 0⟩ "rtk_antenna_link" [4]).mp (by decide +kernel)
  have hlast : latest (fun f => byte f 56 == 32) (accepted Exact chunks 0) =
      some (makeSelectorFrame 32 260 12 5) := by decide +kernel
  obtain rfl := Option.some.inj (hlast.symm.trans hf)
  obtain rfl : t = 4 := by simpa using ht
  exact absurd hword (by decide +kernel)

/-! ### Orientation -/

section Orientation

open Rotation
open scoped Matrix

/-- Half an angle in the arithmetic of the conversion. -/
theorem num_mul_half (θ : ℝ) : Exact.num θ * 0.5 = .num (θ / 2) := by
  rw [Exact.ofScientific_eq, Exact.num_mul]
  norm_num
  ring

/-- The components that the conversion computes are those of the product of the three turns. -/
theorem orientation_eq (data : INSData Exact) (roll pitch yaw : ℝ) (stamp : Time)
    (insFrameId : String) :
    let sample := { data with roll := .num roll, pitch := .num pitch, yaw := .num yaw }
    let q := qz (.of (yaw / 2)) * qy (.of (pitch / 2)) * qx (.of (roll / 2))
    (makeImuMessage sample stamp insFrameId true).orientation =
      ⟨.num q.imI, .num q.imJ, .num q.imK, .num q.re⟩ := by
  intro sample q
  have hq : q = _ := qz_mul_qy_mul_qx (.of (roll / 2)) (.of (pitch / 2)) (.of (yaw / 2))
  rw [hq]
  simp only [HalfAngle.of]
  simp only [makeImuMessage, sample, num_mul_half, Exact.cos_num, Exact.sin_num, Exact.num_mul,
    Exact.num_add, Exact.num_sub, Bool.not_true, Bool.false_eq_true, if_false]

/-- The orientation is the unit quaternion of the fixed-axis angles, and turns every vector as the
matrices of the three angles do. -/
theorem makeImuMessage_orientation (data : INSData Exact) (roll pitch yaw : ℝ) (stamp : Time)
    (insFrameId : String) :
    let sample := { data with roll := .num roll, pitch := .num pitch, yaw := .num yaw }
    let q := qz (.of (yaw / 2)) * qy (.of (pitch / 2)) * qx (.of (roll / 2))
    (makeImuMessage sample stamp insFrameId true).orientation =
        ⟨.num q.imI, .num q.imJ, .num q.imK, .num q.re⟩ ∧
      q.re * q.re + q.imI * q.imI + q.imJ * q.imJ + q.imK * q.imK = 1 ∧
      ∀ v, q * vec v * q⁻¹ = vec ((rz (Real.cos yaw) (Real.sin yaw) *
        ry (Real.cos pitch) (Real.sin pitch) * rx (Real.cos roll) (Real.sin roll)) *ᵥ v) := by
  intro sample q
  have hturns := turns_qz_mul_qy_mul_qx (.of (roll / 2)) (.of (pitch / 2)) (.of (yaw / 2))
  refine ⟨orientation_eq data roll pitch yaw stamp insFrameId, hturns.normSq, ?_⟩
  intro v
  rw [hturns.inv, hturns.turn]
  simp only [HalfAngle.cos_of, HalfAngle.sin_of]

end Orientation

end AsensingDriver
