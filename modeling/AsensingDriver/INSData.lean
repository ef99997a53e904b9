import AsensingDriver.Lib.Double

/-! `INSData`, the decoded sample that the parser fills and that every message is made from. -/

namespace AsensingDriver

/-- `Eigen::Vector3d`. -/
structure Vector3d (F : Type) where
  x : F
  y : F
  z : F

/-- The vector with component `n` set from `f n`, as the decoder's loop over the axes does. -/
def Vector3d.ofLoop {F : Type} (f : Nat → F) : Vector3d F := ⟨f 0, f 1, f 2⟩

/-- A decoded sample: the measurements of one packet, and the groups that arrive in other packets
with the flags that say whether a group has been received. -/
structure INSData (F : Type) where
  latitude : F
  longitude : F
  altitude : F
  roll : F
  pitch : F
  yaw : F
  northVelocity : F
  eastVelocity : F
  groundVelocity : F
  gyro : Vector3d F
  accel : Vector3d F
  insStatus : UInt8
  positionType : UInt8
  headingType : UInt8
  numSv : UInt8
  latitudeStd : F
  longitudeStd : F
  altitudeStd : F
  northVelocityStd : F
  eastVelocityStd : F
  groundVelocityStd : F
  rollStd : F
  pitchStd : F
  yawStd : F
  gpsWeek : UInt32
  gpsTimeMs : UInt32
  temperature : F
  wheelSpeedStatus : UInt8
  rawFrame : List UInt8
  hasPositionStd : Bool
  hasVelocityStd : Bool
  hasAttitudeStd : Bool
  hasPositionStatus : Bool
  hasGpsWeek : Bool
  hasTemperature : Bool
  hasWheelSpeedStatus : Bool

variable {F : Type} [Double F]

/-- The sample that a parser holds before its first frame. -/
def INSData.initial : INSData F where
  latitude := 0.0
  longitude := 0.0
  altitude := 0.0
  roll := 0.0
  pitch := 0.0
  yaw := 0.0
  northVelocity := 0.0
  eastVelocity := 0.0
  groundVelocity := 0.0
  gyro := ⟨0.0, 0.0, 0.0⟩
  accel := ⟨0.0, 0.0, 0.0⟩
  insStatus := 0
  positionType := 0
  headingType := 0
  numSv := 0
  latitudeStd := 0.0
  longitudeStd := 0.0
  altitudeStd := 0.0
  northVelocityStd := 0.0
  eastVelocityStd := 0.0
  groundVelocityStd := 0.0
  rollStd := 0.0
  pitchStd := 0.0
  yawStd := 0.0
  gpsWeek := 0
  gpsTimeMs := 0
  temperature := 0.0
  wheelSpeedStatus := 0
  rawFrame := []
  hasPositionStd := false
  hasVelocityStd := false
  hasAttitudeStd := false
  hasPositionStatus := false
  hasGpsWeek := false
  hasTemperature := false
  hasWheelSpeedStatus := false

end AsensingDriver
