import AsensingDriver.INSData

/-! The messages that the driver makes from a sample: `makeNavSatFix` for `/ins/navsatfix`,
`makeImuMessage` for `/ins/imu` and `makeInsStatus` for `/ins/status`, with the checks that they
share.  A message starts with zeros in every field. -/

namespace AsensingDriver

/-! ### Messages -/

/-- `builtin_interfaces/Time`. -/
structure Time where
  sec : Int32
  nanosec : UInt32

/-- `std_msgs/Header`. -/
structure Header where
  stamp : Time
  frameId : String

/-- `sensor_msgs/NavSatStatus`. -/
structure NavSatStatus where
  status : Int8
  service : UInt16

def STATUS_NO_FIX : Int8 := -1
def STATUS_FIX : Int8 := 0
def SERVICE_GPS : UInt16 := 1

/-- `sensor_msgs/NavSatFix`. -/
structure NavSatFix (F : Type) where
  header : Header
  status : NavSatStatus
  latitude : F
  longitude : F
  altitude : F
  positionCovariance : Vector F 9
  positionCovarianceType : UInt8

def COVARIANCE_TYPE_UNKNOWN : UInt8 := 0
def COVARIANCE_TYPE_DIAGONAL_KNOWN : UInt8 := 2

/-- `geometry_msgs/Quaternion`. -/
structure Quaternion (F : Type) where
  x : F
  y : F
  z : F
  w : F

/-- `sensor_msgs/Imu`. -/
structure Imu (F : Type) where
  header : Header
  orientation : Quaternion F
  orientationCovariance : Vector F 9
  angularVelocity : Vector3d F
  angularVelocityCovariance : Vector F 9
  linearAcceleration : Vector3d F
  linearAccelerationCovariance : Vector F 9

/-- `geometry_msgs/TwistStamped`. -/
structure TwistStamped (F : Type) where
  header : Header
  linear : Vector3d F
  angular : Vector3d F

/-- `agt_asensing_driver/INSStatus`.  Its standard deviations and its temperature are of type
`float`. -/
structure INSStatus (F : Type) where
  header : Header
  insStatus : UInt8
  positionType : UInt8
  headingType : UInt8
  numSatellite : UInt8
  positionStatusValid : Bool
  positionStdValid : Bool
  velocityStdValid : Bool
  attitudeStdValid : Bool
  gpsWeekValid : Bool
  temperatureValid : Bool
  wheelSpeedStatusValid : Bool
  eastStd : F
  northStd : F
  upStd : F
  positionStd : F
  northVelocityStd : F
  eastVelocityStd : F
  groundVelocityStd : F
  rollStd : F
  pitchStd : F
  yawStd : F
  headingStd : F
  rtkFixed : Bool
  gpsWeek : UInt32
  gpsTimeMs : UInt32
  temperature : F
  wheelSpeedStatus : UInt8

variable {F : Type} [Double F]

/-- A covariance with the given diagonal. -/
def diagonal (x y z : F) : Vector F 9 :=
  (((Vector.replicate 9 0.0).set 0 x).set 4 y).set 8 z

/-! ### Checks -/

def finiteNonnegative (value : F) : Bool := Double.isfinite value && Double.le 0.0 value

def validPositionStd (data : INSData F) : Bool :=
  data.hasPositionStd && finiteNonnegative data.longitudeStd &&
    finiteNonnegative data.latitudeStd && finiteNonnegative data.altitudeStd

def validVelocityStd (data : INSData F) : Bool :=
  data.hasVelocityStd && finiteNonnegative data.northVelocityStd &&
    finiteNonnegative data.eastVelocityStd && finiteNonnegative data.groundVelocityStd

def validAttitudeStd (data : INSData F) : Bool :=
  data.hasAttitudeStd && finiteNonnegative data.rollStd &&
    finiteNonnegative data.pitchStd && finiteNonnegative data.yawStd

def validCoordinates (data : INSData F) : Bool :=
  Double.isfinite data.latitude && Double.isfinite data.longitude &&
    Double.isfinite data.altitude &&
    Double.le (-90.0) data.latitude && Double.le data.latitude 90.0 &&
    Double.le (-180.0) data.longitude && Double.le data.longitude 180.0

/-! ### Conversions -/

def makeImuMessage (data : INSData F) (stamp : Time) (insFrameId : String)
    (useDeviceOrientation : Bool) : Imu F :=
  let imu : Imu F :=
    { header := ⟨stamp, insFrameId⟩
      orientation := ⟨0.0, 0.0, 0.0, 1.0⟩
      orientationCovariance := .replicate 9 0.0
      angularVelocity := data.gyro
      angularVelocityCovariance := .replicate 9 0.0
      linearAcceleration := data.accel
      linearAccelerationCovariance := .replicate 9 0.0 }
  if !useDeviceOrientation then
    { imu with
      orientation := { imu.orientation with w := 1.0 }
      orientationCovariance := imu.orientationCovariance.set 0 (-1.0) }
  else
    let cr := Double.cos (data.roll * 0.5)
    let sr := Double.sin (data.roll * 0.5)
    let cp := Double.cos (data.pitch * 0.5)
    let sp := Double.sin (data.pitch * 0.5)
    let cy := Double.cos (data.yaw * 0.5)
    let sy := Double.sin (data.yaw * 0.5)
    { imu with
      orientation :=
        { w := cr * cp * cy + sr * sp * sy
          x := sr * cp * cy - cr * sp * sy
          y := cr * sp * cy + sr * cp * sy
          z := cr * cp * sy - sr * sp * cy }
      orientationCovariance :=
        if validAttitudeStd data then
          diagonal (data.rollStd * data.rollStd) (data.pitchStd * data.pitchStd)
            (data.yawStd * data.yawStd)
        else imu.orientationCovariance }

def makeNavSatFix (data : INSData F) (stamp : Time) (gnssFrameId : String) : NavSatFix F :=
  let fix : NavSatFix F :=
    { header := ⟨stamp, gnssFrameId⟩
      status :=
        { status :=
            if data.insStatus != 0 && validCoordinates data then STATUS_FIX else STATUS_NO_FIX
          service := SERVICE_GPS }
      latitude := data.latitude
      longitude := data.longitude
      altitude := data.altitude
      positionCovariance := .replicate 9 0.0
      positionCovarianceType := COVARIANCE_TYPE_UNKNOWN }
  if validPositionStd data then
    -- The covariance is in the order East, North, Up.
    { fix with
      positionCovariance := diagonal (data.longitudeStd * data.longitudeStd)
        (data.latitudeStd * data.latitudeStd) (data.altitudeStd * data.altitudeStd)
      positionCovarianceType := COVARIANCE_TYPE_DIAGONAL_KNOWN }
  else fix

/-- The message that `makeInsStatus` starts from. -/
def INSStatus.initial (stamp : Time) (frameId : String) : INSStatus F where
  header := ⟨stamp, frameId⟩
  insStatus := 0
  positionType := 0
  headingType := 0
  numSatellite := 0
  positionStatusValid := false
  positionStdValid := false
  velocityStdValid := false
  attitudeStdValid := false
  gpsWeekValid := false
  temperatureValid := false
  wheelSpeedStatusValid := false
  eastStd := 0.0
  northStd := 0.0
  upStd := 0.0
  positionStd := 0.0
  northVelocityStd := 0.0
  eastVelocityStd := 0.0
  groundVelocityStd := 0.0
  rollStd := 0.0
  pitchStd := 0.0
  yawStd := 0.0
  headingStd := 0.0
  rtkFixed := false
  gpsWeek := 0
  gpsTimeMs := 0
  temperature := 0.0
  wheelSpeedStatus := 0

/-- The position type as an entry of `rtk_fixed_types`. -/
def typeWord (positionType : UInt8) : Int64 := positionType.toUInt64.toInt64

/-- A 64-bit word keeps its value when it is read as a signed integer that has room for it. -/
theorem toInt_toInt64 {w : UInt64} (h : w.toNat < 2 ^ 63) : w.toInt64.toInt = w.toNat := by
  show w.toBitVec.toInt = _
  rw [BitVec.toInt_eq_toNat_of_lt (by rw [UInt64.toNat_toBitVec]; omega), UInt64.toNat_toBitVec]

def makeInsStatus (data : INSData F) (stamp : Time) (frameId : String)
    (rtkFixedTypes : List Int64) : INSStatus F :=
  let status : INSStatus F :=
    { INSStatus.initial stamp frameId with
      insStatus := data.insStatus
      positionType := data.positionType
      headingType := data.headingType
      numSatellite := data.numSv
      positionStatusValid := data.hasPositionStatus
      positionStdValid := validPositionStd data
      velocityStdValid := validVelocityStd data
      attitudeStdValid := validAttitudeStd data
      gpsWeekValid := data.hasGpsWeek
      temperatureValid := data.hasTemperature && Double.isfinite data.temperature
      wheelSpeedStatusValid := data.hasWheelSpeedStatus }
  let status :=
    if status.positionStdValid then
      let eastStd := Double.toFloat data.longitudeStd
      let northStd := Double.toFloat data.latitudeStd
      let upStd := Double.toFloat data.altitudeStd
      { status with eastStd, northStd, upStd
                    positionStd := Double.max (Double.max eastStd northStd) upStd }
    else status
  let status :=
    if status.velocityStdValid then
      { status with
        northVelocityStd := Double.toFloat data.northVelocityStd
        eastVelocityStd := Double.toFloat data.eastVelocityStd
        groundVelocityStd := Double.toFloat data.groundVelocityStd }
    else status
  let status :=
    if status.attitudeStdValid then
      let yawStd := Double.toFloat data.yawStd
      { status with
        rollStd := Double.toFloat data.rollStd
        pitchStd := Double.toFloat data.pitchStd
        yawStd
        headingStd := yawStd }
    else status
  { status with
    rtkFixed := status.positionStatusValid && rtkFixedTypes.contains (typeWord data.positionType)
    gpsWeek := data.gpsWeek
    gpsTimeMs := data.gpsTimeMs
    temperature := data.temperature
    wheelSpeedStatus := data.wheelSpeedStatus }

/-! ### What a status says -/

section Status

variable (data : INSData F) (stamp : Time) (frameId : String) (rtkFixedTypes : List Int64)

/-- The flags of a status are the checks of the sample. -/
theorem makeInsStatus_flags :
    let status := makeInsStatus data stamp frameId rtkFixedTypes
    status.positionStdValid = validPositionStd data ∧
    status.velocityStdValid = validVelocityStd data ∧
    status.attitudeStdValid = validAttitudeStd data ∧
    status.positionStatusValid = data.hasPositionStatus ∧
    status.temperatureValid = (data.hasTemperature && Double.isfinite data.temperature) ∧
    status.wheelSpeedStatusValid = data.hasWheelSpeedStatus ∧
    status.gpsWeekValid = data.hasGpsWeek := by
  unfold makeInsStatus
  dsimp only
  split_ifs <;> exact ⟨rfl, rfl, rfl, rfl, rfl, rfl, rfl⟩

/-- The fields that a status copies without a check. -/
theorem makeInsStatus_copies :
    let status := makeInsStatus data stamp frameId rtkFixedTypes
    status.positionType = data.positionType ∧ status.headingType = data.headingType ∧
    status.numSatellite = data.numSv ∧ status.gpsWeek = data.gpsWeek ∧
    status.gpsTimeMs = data.gpsTimeMs ∧ status.temperature = data.temperature ∧
    status.wheelSpeedStatus = data.wheelSpeedStatus := by
  unfold makeInsStatus
  dsimp only
  split_ifs <;> exact ⟨rfl, rfl, rfl, rfl, rfl, rfl, rfl⟩

/-- The standard deviations of a status, group by group. -/
theorem makeInsStatus_std :
    let status := makeInsStatus data stamp frameId rtkFixedTypes
    let east := Double.toFloat data.longitudeStd
    let north := Double.toFloat data.latitudeStd
    let up := Double.toFloat data.altitudeStd
    let yaw := Double.toFloat data.yawStd
    (status.eastStd, status.northStd, status.upStd, status.positionStd) =
      (if validPositionStd data then (east, north, up, Double.max (Double.max east north) up)
      else (0.0, 0.0, 0.0, 0.0)) ∧
    (status.northVelocityStd, status.eastVelocityStd, status.groundVelocityStd) =
      (if validVelocityStd data then
        (Double.toFloat data.northVelocityStd, Double.toFloat data.eastVelocityStd,
          Double.toFloat data.groundVelocityStd)
      else (0.0, 0.0, 0.0)) ∧
    (status.rollStd, status.pitchStd, status.yawStd, status.headingStd) =
      if validAttitudeStd data then
        (Double.toFloat data.rollStd, Double.toFloat data.pitchStd, yaw, yaw)
      else (0.0, 0.0, 0.0, 0.0) := by
  unfold makeInsStatus
  dsimp only
  split_ifs <;> exact ⟨rfl, rfl, rfl⟩

/-- The standard deviations of a status stay zero where the check of their group fails. -/
theorem makeInsStatus_unset :
    let status := makeInsStatus data stamp frameId rtkFixedTypes
    (status.positionStdValid = false →
      status.eastStd = 0.0 ∧ status.northStd = 0.0 ∧ status.upStd = 0.0 ∧
        status.positionStd = 0.0) ∧
    (status.velocityStdValid = false →
      status.northVelocityStd = 0.0 ∧ status.eastVelocityStd = 0.0 ∧
        status.groundVelocityStd = 0.0) ∧
    (status.attitudeStdValid = false →
      status.rollStd = 0.0 ∧ status.pitchStd = 0.0 ∧ status.yawStd = 0.0 ∧
        status.headingStd = 0.0) := by
  obtain ⟨hposition, hvelocity, hattitude, -⟩ :=
    makeInsStatus_flags data stamp frameId rtkFixedTypes
  obtain ⟨hpositionStd, hvelocityStd, hattitudeStd⟩ :=
    makeInsStatus_std data stamp frameId rtkFixedTypes
  dsimp only at hposition hvelocity hattitude ⊢
  rw [hposition, hvelocity, hattitude]
  refine ⟨?_, ?_, ?_⟩
  · intro h
    rw [h] at hpositionStd
    simpa only [Bool.false_eq_true, if_false, Prod.mk.injEq] using hpositionStd
  · intro h
    rw [h] at hvelocityStd
    simpa only [Bool.false_eq_true, if_false, Prod.mk.injEq] using hvelocityStd
  · intro h
    rw [h] at hattitudeStd
    simpa only [Bool.false_eq_true, if_false, Prod.mk.injEq] using hattitudeStd

theorem makeInsStatus_rtkFixed :
    (makeInsStatus data stamp frameId rtkFixedTypes).rtkFixed =
      (data.hasPositionStatus && rtkFixedTypes.contains (typeWord data.positionType)) := by
  unfold makeInsStatus
  dsimp only
  split_ifs <;> rfl

end Status

end AsensingDriver
