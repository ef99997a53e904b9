import AsensingDriver.Metrics
import Mathlib.Logic.Function.Basic

/-! `R3HardwareMonitor`: the state of the monitor and its callbacks.  Each callback reads the steady
clock one or more times.  `steady n` is what the reading numbered `n` returns, and the state counts
the readings so far. -/

namespace AsensingDriver

variable {F : Type} [Double F]

structure Event (F : Type) where
  elapsedSec : F
  kind : String
  detail : String

structure R3HardwareMonitor (F : Type) where
  initialStaticWindowSec : F
  sessionStart : Int
  readings : Nat
  fixTracker : TopicTracker F
  statusTracker : TopicTracker F
  imuTracker : TopicTracker F
  velocityTracker : TopicTracker F
  usableFixCount : Nat
  validSolutionStatusCount : Nat
  rtkFixedCount : Nat
  orientationAvailableCount : Nat
  deviceTimeCount : Nat
  deviceTimeRegressions : Nat
  referenceLatitude : Option F
  referenceLongitude : Option F
  referenceAltitude : Option F
  staticWindowStart : Option Int
  staticWindowComplete : Bool
  lastRtkFixed : Option Bool
  lastPositionType : Option UInt8
  firstDeviceTimeSec : Option F
  lastDeviceTimeSec : Option F
  /-- The count of each position type, zero where the map has no entry. -/
  positionTypeHistogram : UInt8 → Nat
  events : List (Event F)
  satelliteCount : R3RunningStats F
  eastStdM : R3RunningStats F
  northStdM : R3RunningStats F
  upStdM : R3RunningStats F
  eastOffsetM : R3RunningStats F
  northOffsetM : R3RunningStats F
  altitudeM : R3RunningStats F
  staticEastM : R3RunningStats F
  staticNorthM : R3RunningStats F
  staticAltitudeM : R3RunningStats F
  gyroNormRadS : R3RunningStats F
  accelNormMS2 : R3RunningStats F
  diagnosticHorizontalSpeedMS : R3RunningStats F

namespace R3HardwareMonitor

variable (steady : Nat → Int) (m : R3HardwareMonitor F)

def addEvent (kind detail : String) : R3HardwareMonitor F :=
  { m with
    readings := m.readings + 1
    events := m.events ++ [⟨seconds (steady m.readings - m.sessionStart), kind, detail⟩] }

/-- The state that the constructor leaves. -/
def started (initialStaticWindowSec : F) : R3HardwareMonitor F :=
  addEvent steady
    { initialStaticWindowSec
      sessionStart := steady 0
      readings := 1
      fixTracker := .empty
      statusTracker := .empty
      imuTracker := .empty
      velocityTracker := .empty
      usableFixCount := 0
      validSolutionStatusCount := 0
      rtkFixedCount := 0
      orientationAvailableCount := 0
      deviceTimeCount := 0
      deviceTimeRegressions := 0
      referenceLatitude := none
      referenceLongitude := none
      referenceAltitude := none
      staticWindowStart := none
      staticWindowComplete := false
      lastRtkFixed := none
      lastPositionType := none
      firstDeviceTimeSec := none
      lastDeviceTimeSec := none
      positionTypeHistogram := fun _ => 0
      events := []
      satelliteCount := .empty
      eastStdM := .empty
      northStdM := .empty
      upStdM := .empty
      eastOffsetM := .empty
      northOffsetM := .empty
      altitudeM := .empty
      staticEastM := .empty
      staticNorthM := .empty
      staticAltitudeM := .empty
      gyroNormRadS := .empty
      accelNormMS2 := .empty
      diagnosticHorizontalSpeedMS := .empty } "monitor" "started"

/-! ### Fixes -/

/-- The test of `on_fix` for a usable fix. -/
def usable (message : NavSatFix F) : Bool :=
  message.status.status != STATUS_NO_FIX &&
    Double.isfinite message.latitude && Double.isfinite message.longitude &&
    Double.isfinite message.altitude &&
    Double.le (-90.0) message.latitude && Double.le message.latitude 90.0 &&
    Double.le (-180.0) message.longitude && Double.le message.longitude 180.0

/-- The first usable fix sets the reference position and starts the static window. -/
def setReference (message : NavSatFix F) : R3HardwareMonitor F :=
  if m.referenceLatitude.isNone then
    addEvent steady
      { m with
        referenceLatitude := some message.latitude
        referenceLongitude := some message.longitude
        referenceAltitude := some message.altitude
        staticWindowStart := some (steady m.readings)
        readings := m.readings + 1 } "gnss" "first_usable_fix"
  else m

/-- A usable fix with the offset `en` falls into the static window or ends it. -/
def observeStatic (message : NavSatFix F) (en : F × F) : R3HardwareMonitor F :=
  match m.staticWindowStart with
  | none => m
  | some start =>
    let staticElapsed : F := seconds (steady m.readings - start)
    let m := { m with readings := m.readings + 1 }
    if Double.le staticElapsed m.initialStaticWindowSec then
      { m with
        staticEastM := m.staticEastM.add en.1
        staticNorthM := m.staticNorthM.add en.2
        staticAltitudeM := m.staticAltitudeM.add (message.altitude - m.referenceAltitude.getD 0.0) }
    else if !m.staticWindowComplete then
      addEvent steady { m with staticWindowComplete := true } "static_window" "complete"
    else m

def onFix (message : NavSatFix F) : R3HardwareMonitor F :=
  let m :=
    { m with
      fixTracker := m.fixTracker.observe (steady m.readings) message.header.stamp
      readings := m.readings + 1 }
  if !usable message then m
  else
    let m := setReference steady { m with usableFixCount := m.usableFixCount + 1 } message
    -- The reference position is set by now.
    let en := approxEnuOffsetM message.latitude message.longitude
      (m.referenceLatitude.getD 0.0) (m.referenceLongitude.getD 0.0)
    observeStatic steady
      { m with
        eastOffsetM := m.eastOffsetM.add en.1
        northOffsetM := m.northOffsetM.add en.2
        altitudeM := m.altitudeM.add message.altitude } message en

/-! ### Statuses -/

/-- A value that differs from the one before it is logged as an event of the given kind. -/
def transition {α : Type} [DecidableEq α] (kind : String) (last : Option α) (value : α)
    (detail : α → String) : R3HardwareMonitor F :=
  match last with
  | some last => if last != value then m.addEvent steady kind (detail last) else m
  | none => m

/-- The solution status of a message, with the changes since the one before it. -/
def observeSolution (message : INSStatus F) : R3HardwareMonitor F :=
  if !message.positionStatusValid then m
  else
    let m :=
      { m with
        validSolutionStatusCount := m.validSolutionStatusCount + 1
        positionTypeHistogram := Function.update m.positionTypeHistogram message.positionType
          (m.positionTypeHistogram message.positionType + 1)
        satelliteCount := m.satelliteCount.add (Double.ofNat message.numSatellite.toNat)
        rtkFixedCount := m.rtkFixedCount + if message.rtkFixed then 1 else 0 }
    let m := m.transition steady "rtk_fixed_transition" m.lastRtkFixed message.rtkFixed
      fun last => if last then "fixed->not_fixed" else "not_fixed->fixed"
    let m := { m with lastRtkFixed := some message.rtkFixed }
    let m := m.transition steady "position_type_transition" m.lastPositionType message.positionType
      fun last => toString last.toNat ++ "->" ++ toString message.positionType.toNat
    { m with lastPositionType := some message.positionType }

def observeStd (message : INSStatus F) : R3HardwareMonitor F :=
  if !message.positionStdValid then m
  else
    { m with
      eastStdM := m.eastStdM.add message.eastStd
      northStdM := m.northStdM.add message.northStd
      upStdM := m.upStdM.add message.upStd }

def observeDeviceTime (message : INSStatus F) : R3HardwareMonitor F :=
  if !message.gpsWeekValid then m
  else
    let deviceTime := deviceTimeSeconds message.gpsWeek message.gpsTimeMs
    { m with
      firstDeviceTimeSec := some (m.firstDeviceTimeSec.getD deviceTime)
      deviceTimeRegressions := m.deviceTimeRegressions +
        if m.lastDeviceTimeSec.any fun last => Double.lt deviceTime last then 1 else 0
      lastDeviceTimeSec := some deviceTime
      deviceTimeCount := m.deviceTimeCount + 1 }

def onStatus (message : INSStatus F) : R3HardwareMonitor F :=
  let m :=
    { m with
      statusTracker := m.statusTracker.observe (steady m.readings) message.header.stamp
      readings := m.readings + 1 }
  ((m.observeSolution steady message).observeStd message).observeDeviceTime message

/-- The last device time, with the count of regressions.  Of the steps of `onStatus`, only the last
touches these. -/
def deviceTime (m : R3HardwareMonitor F) : Option F × Nat :=
  (m.lastDeviceTimeSec, m.deviceTimeRegressions)

theorem transition_deviceTime {α : Type} [DecidableEq α] (kind : String) (last : Option α)
    (value : α) (detail : α → String) :
    (m.transition steady kind last value detail).deviceTime = m.deviceTime := by
  unfold transition
  split
  · split <;> rfl
  · rfl

theorem observeSolution_deviceTime (message : INSStatus F) :
    (m.observeSolution steady message).deviceTime = m.deviceTime := by
  unfold observeSolution
  split
  · rfl
  · exact (transition_deviceTime ..).trans (transition_deviceTime ..)

theorem observeStd_deviceTime (message : INSStatus F) :
    (m.observeStd message).deviceTime = m.deviceTime := by
  unfold observeStd
  split <;> rfl

theorem observeDeviceTime_deviceTime (message : INSStatus F) :
    (m.observeDeviceTime message).deviceTime =
      if message.gpsWeekValid then
        let deviceTime := deviceTimeSeconds message.gpsWeek message.gpsTimeMs
        (some deviceTime, m.deviceTime.2 +
          if m.deviceTime.1.any fun last => Double.lt deviceTime last then 1 else 0)
      else m.deviceTime := by
  unfold observeDeviceTime
  cases message.gpsWeekValid <;> rfl

/-- A status with a valid week sets the device time, and counts a regression when that is less than
the one before. -/
theorem onStatus_deviceTime (message : INSStatus F) :
    (m.onStatus steady message).deviceTime =
      if message.gpsWeekValid then
        let deviceTime := deviceTimeSeconds message.gpsWeek message.gpsTimeMs
        (some deviceTime, m.deviceTime.2 +
          if m.deviceTime.1.any fun last => Double.lt deviceTime last then 1 else 0)
      else m.deviceTime := by
  rw [onStatus, observeDeviceTime_deviceTime, observeStd_deviceTime, observeSolution_deviceTime]
  rfl

/-! ### Other topics -/

def norm (v : Vector3d F) : F := Double.sqrt (v.x * v.x + v.y * v.y + v.z * v.z)

def onImu (message : Imu F) : R3HardwareMonitor F :=
  { m with
    imuTracker := m.imuTracker.observe (steady m.readings) message.header.stamp
    readings := m.readings + 1
    gyroNormRadS := m.gyroNormRadS.add (norm message.angularVelocity)
    accelNormMS2 := m.accelNormMS2.add (norm message.linearAcceleration)
    orientationAvailableCount := m.orientationAvailableCount +
      if Double.le (0.0 : F) (message.orientationCovariance.get 0) then 1 else 0 }

def onVelocity (message : TwistStamped F) : R3HardwareMonitor F :=
  { m with
    velocityTracker := m.velocityTracker.observe (steady m.readings) message.header.stamp
    readings := m.readings + 1
    diagnosticHorizontalSpeedMS :=
      m.diagnosticHorizontalSpeedMS.add (Double.hypot message.linear.x message.linear.y) }

def onMarker (data : String) : R3HardwareMonitor F := m.addEvent steady "marker" data

/-! ### Runs -/

/-- `snapshot` writes the two reports, each of which reads the clock once. -/
def snapshot : R3HardwareMonitor F := { m with readings := m.readings + 2 }

def rtkFixedRatio : F :=
  if m.validSolutionStatusCount = 0 then 0.0
  else Double.ofNat m.rtkFixedCount / Double.ofNat m.validSolutionStatusCount

/-- A call that the executor makes, with its message. -/
inductive Callback (F : Type)
  | fix (message : NavSatFix F)
  | status (message : INSStatus F)
  | imu (message : Imu F)
  | velocity (message : TwistStamped F)
  | marker (data : String)
  | snapshot

def handle : Callback F → R3HardwareMonitor F
  | .fix message => m.onFix steady message
  | .status message => m.onStatus steady message
  | .imu message => m.onImu steady message
  | .velocity message => m.onVelocity steady message
  | .marker data => m.onMarker steady data
  | .snapshot => m.snapshot

/-- The monitor after a sequence of calls. -/
def run (initialStaticWindowSec : F) (callbacks : List (Callback F)) : R3HardwareMonitor F :=
  callbacks.foldl (handle steady) (started steady initialStaticWindowSec)

theorem run_concat (initialStaticWindowSec : F) (callbacks : List (Callback F)) (c : Callback F) :
    run steady initialStaticWindowSec (callbacks ++ [c]) =
      (run steady initialStaticWindowSec callbacks).handle steady c := by
  rw [run, List.foldl_append]
  rfl

/-- The details of the events of one kind, in order. -/
def logged (kind : String) (events : List (Event F)) : List String :=
  (events.filter fun e => e.kind == kind).map Event.detail

omit [Double F] in
theorem logged_append (kind : String) (events events' : List (Event F)) :
    logged kind (events ++ events') = logged kind events ++ logged kind events' := by
  simp [logged]

end R3HardwareMonitor

end AsensingDriver
