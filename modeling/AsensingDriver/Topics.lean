import AsensingDriver.StaticWindow
import AsensingDriver.TopicHealth

/-! What the monitor keeps of each topic.  Messages of several topics arrive in any order, with
markers and snapshots between them.  `run_topics` says that the figures of a topic are those of its
own messages, in the order of their arrival, except where the steady clock enters, and `run_log`
what the log of events holds. -/

namespace AsensingDriver

open Changes

namespace TopicTracker

/-- The tracker has counted messages with these stamps, in this order. -/
structure Tracks {F : Type} (t : TopicTracker F) (stamps : List Time) : Prop where
  count : t.count = stamps.length
  stampRegressions : t.stampRegressions =
    descents (fun a b => decide (a.nanoseconds < b.nanoseconds)) stamps
  lastStampNs : t.lastStampNs = stamps.getLast?.map stampNs

variable {F : Type} [Double F]

/-- The tracker without the readings of the steady clock. -/
def untimed (t : TopicTracker F) : TopicTracker F :=
  { t with maxGapSec := 0.0, firstReceive := 0, lastReceive := 0 }

theorem tracks_empty : Tracks (empty : TopicTracker F) [] := ⟨rfl, rfl, rfl⟩

theorem Tracks.observe {t : TopicTracker F} {stamps : List Time} (h : t.Tracks stamps) (now : Int)
    (stamp : Time) : (t.observe now stamp).Tracks (stamps ++ [stamp]) := by
  have hless : (t.lastStampNs.any fun last => stampNs stamp < last) =
      stamps.getLast?.any fun last => decide (stamp.nanoseconds < last.nanoseconds) := by
    rw [h.lastStampNs]
    cases stamps.getLast? with
    | none => rfl
    | some last => exact any_stampNs_lt stamp last
  have hregressions : t.stampRegressions +
      (if t.lastStampNs.any fun last => stampNs stamp < last then 1 else 0) =
        descents (fun a b => decide (a.nanoseconds < b.nanoseconds)) (stamps ++ [stamp]) := by
    rw [descents_concat, h.stampRegressions, hless]
  have hcount : t.count + 1 = (stamps ++ [stamp]).length := by simp [h.count]
  unfold TopicTracker.observe
  dsimp only
  split <;> exact ⟨hcount, hregressions, by simp⟩

end TopicTracker

namespace R3HardwareMonitor

variable {F : Type} [Double F]

/-- The figures that the fixes are added to one by one. -/
structure FixFigures (F : Type) where
  tracker : TopicTracker F
  usableFixCount : Nat
  referenceLatitude : Option F
  referenceLongitude : Option F
  referenceAltitude : Option F
  trajectory : Statistics F

/-- The figures that the statuses are added to. -/
structure StatusFigures (F : Type) where
  tracker : TopicTracker F
  validSolutionStatusCount : Nat
  rtkFixedCount : Nat
  positionTypeHistogram : UInt8 → Nat
  lastRtkFixed : Option Bool
  lastPositionType : Option UInt8
  satelliteCount : R3RunningStats F
  eastStdM : R3RunningStats F
  northStdM : R3RunningStats F
  upStdM : R3RunningStats F
  firstDeviceTimeSec : Option F
  lastDeviceTimeSec : Option F
  deviceTimeCount : Nat
  deviceTimeRegressions : Nat

/-- The figures that the IMU messages are added to. -/
structure ImuFigures (F : Type) where
  tracker : TopicTracker F
  gyroNormRadS : R3RunningStats F
  accelNormMS2 : R3RunningStats F
  orientationAvailableCount : Nat

/-- The figures that the velocities are added to. -/
structure VelocityFigures (F : Type) where
  tracker : TopicTracker F
  diagnosticHorizontalSpeedMS : R3RunningStats F

/-- The figures of the four topics.  Those of the static window are not among them: the steady clock
decides which fixes they count. -/
structure Figures (F : Type) where
  fixes : FixFigures F
  statuses : StatusFigures F
  imus : ImuFigures F
  velocities : VelocityFigures F

def figures (m : R3HardwareMonitor F) : Figures F where
  fixes :=
    ⟨m.fixTracker, m.usableFixCount, m.referenceLatitude, m.referenceLongitude,
      m.referenceAltitude, ⟨m.eastOffsetM, m.northOffsetM, m.altitudeM⟩⟩
  statuses :=
    ⟨m.statusTracker, m.validSolutionStatusCount, m.rtkFixedCount, m.positionTypeHistogram,
      m.lastRtkFixed, m.lastPositionType, m.satelliteCount, m.eastStdM, m.northStdM, m.upStdM,
      m.firstDeviceTimeSec, m.lastDeviceTimeSec, m.deviceTimeCount, m.deviceTimeRegressions⟩
  imus := ⟨m.imuTracker, m.gyroNormRadS, m.accelNormMS2, m.orientationAvailableCount⟩
  velocities := ⟨m.velocityTracker, m.diagnosticHorizontalSpeedMS⟩

/-- The figures without the readings of the steady clock. -/
def Figures.untimed (f : Figures F) : Figures F where
  fixes := { f.fixes with tracker := f.fixes.tracker.untimed }
  statuses := { f.statuses with tracker := f.statuses.tracker.untimed }
  imus := { f.imus with tracker := f.imus.tracker.untimed }
  velocities := { f.velocities with tracker := f.velocities.tracker.untimed }

/-! ### One call -/

section Calls

variable (steady : Nat → Int) (m : R3HardwareMonitor F)

theorem transition_figures {α : Type} [DecidableEq α] (kind : String) (last : Option α) (value : α)
    (detail : α → String) :
    (m.transition steady kind last value detail).figures = m.figures := by
  unfold transition
  split
  · split <;> rfl
  · rfl

/-- The first usable fix becomes the reference. -/
def FixFigures.setReference (f : FixFigures F) (message : NavSatFix F) : FixFigures F :=
  if f.referenceLatitude.isNone then
    { f with
      referenceLatitude := some message.latitude
      referenceLongitude := some message.longitude
      referenceAltitude := some message.altitude }
  else f

/-- The offset of a fix from the reference joins the trajectory. -/
def FixFigures.addOffset (f : FixFigures F) (message : NavSatFix F) : FixFigures F :=
  let en := approxEnuOffsetM message.latitude message.longitude
    (f.referenceLatitude.getD 0.0) (f.referenceLongitude.getD 0.0)
  { f with trajectory := f.trajectory.add en message.altitude }

/-- A fix, when the clock reads `now`. -/
def FixFigures.observe (f : FixFigures F) (now : Int) (message : NavSatFix F) : FixFigures F :=
  let f := { f with tracker := f.tracker.observe now message.header.stamp }
  if !usable message then f
  else
    ({ f with usableFixCount := f.usableFixCount + 1 }.setReference message).addOffset message

theorem FixFigures.observe_tracker (f : FixFigures F) (now : Int) (message : NavSatFix F) :
    (f.observe now message).tracker = f.tracker.observe now message.header.stamp := by
  unfold FixFigures.observe FixFigures.addOffset FixFigures.setReference
  cases usable message with
  | false => rfl
  | true => cases f.referenceLatitude <;> simp

theorem setReference_figures (message : NavSatFix F) :
    (m.setReference steady message).figures =
      { m.figures with fixes := m.figures.fixes.setReference message } := by
  unfold setReference FixFigures.setReference
  rw [show m.figures.fixes.referenceLatitude = m.referenceLatitude from rfl]
  split <;> rfl

theorem observeStatic_figures (message : NavSatFix F) (en : F × F) :
    (m.observeStatic steady message en).figures = m.figures := by
  unfold observeStatic
  split
  · rfl
  · dsimp only
    split
    · rfl
    · split <;> rfl

theorem onFix_figures (message : NavSatFix F) :
    (m.onFix steady message).figures =
      { m.figures with fixes := m.figures.fixes.observe (steady m.readings) message } := by
  unfold onFix FixFigures.observe
  cases usable message with
  | false => rfl
  | true =>
    refine (observeStatic_figures ..).trans ?_
    let seen : R3HardwareMonitor F :=
      { m with
        fixTracker := m.fixTracker.observe (steady m.readings) message.header.stamp
        readings := m.readings + 1
        usableFixCount := m.usableFixCount + 1 }
    have hreference := setReference_figures steady seen message
    -- The offset is taken from the reference, which is set by now.
    show { (seen.setReference steady message).figures with
      fixes := (seen.setReference steady message).figures.fixes.addOffset message } = _
    rw [hreference]
    rfl

/-- A solution status. -/
def StatusFigures.observeSolution (f : StatusFigures F) (message : INSStatus F) :
    StatusFigures F :=
  if !message.positionStatusValid then f
  else
    { f with
      validSolutionStatusCount := f.validSolutionStatusCount + 1
      rtkFixedCount := f.rtkFixedCount + if message.rtkFixed then 1 else 0
      positionTypeHistogram := Function.update f.positionTypeHistogram message.positionType
        (f.positionTypeHistogram message.positionType + 1)
      lastRtkFixed := some message.rtkFixed
      lastPositionType := some message.positionType
      satelliteCount := f.satelliteCount.add (Double.ofNat message.numSatellite.toNat) }

theorem observeSolution_figures (message : INSStatus F) :
    (m.observeSolution steady message).figures =
      { m.figures with statuses := m.figures.statuses.observeSolution message } := by
  have hfixed (m : R3HardwareMonitor F) (fixed : Bool) :
      figures { m with lastRtkFixed := some fixed } =
        { m.figures with statuses.lastRtkFixed := some fixed } := rfl
  have htype (m : R3HardwareMonitor F) (type : UInt8) :
      figures { m with lastPositionType := some type } =
        { m.figures with statuses.lastPositionType := some type } := rfl
  unfold observeSolution StatusFigures.observeSolution
  cases message.positionStatusValid with
  | false => rfl
  | true =>
    simp only [Bool.not_true, Bool.false_eq_true, if_false]
    rw [htype, transition_figures, hfixed, transition_figures]
    rfl

/-- A status, when the clock reads `now`. -/
def StatusFigures.observe (f : StatusFigures F) (now : Int) (message : INSStatus F) :
    StatusFigures F :=
  let deviceTime := deviceTimeSeconds message.gpsWeek message.gpsTimeMs
  { f.observeSolution message with
    tracker := f.tracker.observe now message.header.stamp
    eastStdM := if message.positionStdValid then f.eastStdM.add message.eastStd else f.eastStdM
    northStdM :=
      if message.positionStdValid then f.northStdM.add message.northStd else f.northStdM
    upStdM := if message.positionStdValid then f.upStdM.add message.upStd else f.upStdM
    firstDeviceTimeSec :=
      if message.gpsWeekValid then some (f.firstDeviceTimeSec.getD deviceTime)
      else f.firstDeviceTimeSec
    lastDeviceTimeSec := if message.gpsWeekValid then some deviceTime else f.lastDeviceTimeSec
    deviceTimeCount := f.deviceTimeCount + if message.gpsWeekValid then 1 else 0
    deviceTimeRegressions := f.deviceTimeRegressions +
      if message.gpsWeekValid && f.lastDeviceTimeSec.any (Double.lt deviceTime) then 1 else 0 }

theorem onStatus_figures (message : INSStatus F) :
    (m.onStatus steady message).figures =
      { m.figures with statuses := m.figures.statuses.observe (steady m.readings) message } := by
  have hrest (m : R3HardwareMonitor F) :
      ((m.observeStd message).observeDeviceTime message).figures =
        { m.figures with
          statuses :=
            let f := m.figures.statuses
            let f' := f.observe 0 message
            { f with
              eastStdM := f'.eastStdM
              northStdM := f'.northStdM
              upStdM := f'.upStdM
              firstDeviceTimeSec := f'.firstDeviceTimeSec
              lastDeviceTimeSec := f'.lastDeviceTimeSec
              deviceTimeCount := f'.deviceTimeCount
              deviceTimeRegressions := f'.deviceTimeRegressions } } := by
    unfold observeStd observeDeviceTime StatusFigures.observe
    cases message.positionStdValid <;> cases message.gpsWeekValid <;> rfl
  rw [onStatus, hrest, observeSolution_figures]
  unfold StatusFigures.observe StatusFigures.observeSolution
  cases message.positionStatusValid <;> rfl

end Calls

/-! ### The messages of a topic -/

namespace Callback

def fix? : Callback F → Option (NavSatFix F)
  | fix message => some message
  | status _ | imu _ | velocity _ | marker _ | snapshot => none

def status? : Callback F → Option (INSStatus F)
  | status message => some message
  | fix _ | imu _ | velocity _ | marker _ | snapshot => none

def imu? : Callback F → Option (Imu F)
  | imu message => some message
  | fix _ | status _ | velocity _ | marker _ | snapshot => none

def velocity? : Callback F → Option (TwistStamped F)
  | velocity message => some message
  | fix _ | status _ | imu _ | marker _ | snapshot => none

def marker? : Callback F → Option String
  | marker data => some data
  | fix _ | status _ | imu _ | velocity _ | snapshot => none

end Callback

def fixes (callbacks : List (Callback F)) : List (NavSatFix F) := callbacks.filterMap Callback.fix?

def statuses (callbacks : List (Callback F)) : List (INSStatus F) :=
  callbacks.filterMap Callback.status?

def imus (callbacks : List (Callback F)) : List (Imu F) := callbacks.filterMap Callback.imu?

def velocities (callbacks : List (Callback F)) : List (TwistStamped F) :=
  callbacks.filterMap Callback.velocity?

def markers (callbacks : List (Callback F)) : List String := callbacks.filterMap Callback.marker?

/-- The device times of the statuses that carry one. -/
def deviceTimes (messages : List (INSStatus F)) : List F :=
  (messages.filter (·.gpsWeekValid)).map fun message =>
    deviceTimeSeconds message.gpsWeek message.gpsTimeMs

/-- The figures of these fixes.  Of the usable ones, the first is the reference, and the trajectory
has the offsets of all of them from it. -/
structure FixFigures.Of (f : FixFigures F) (messages : List (NavSatFix F)) : Prop where
  tracker : f.tracker.Tracks (messages.map (·.header.stamp))
  usableFixCount : f.usableFixCount = (messages.filter usable).length
  referenceLatitude : f.referenceLatitude = (messages.filter usable).head?.map (·.latitude)
  referenceLongitude : f.referenceLongitude = (messages.filter usable).head?.map (·.longitude)
  referenceAltitude : f.referenceAltitude = (messages.filter usable).head?.map (·.altitude)
  trajectory : f.trajectory = .of (track (messages.filter usable))

/-- The figures of these statuses. -/
structure StatusFigures.Of (f : StatusFigures F) (messages : List (INSStatus F)) : Prop where
  tracker : f.tracker.Tracks (messages.map (·.header.stamp))
  validSolutionStatusCount : f.validSolutionStatusCount = messages.countP (·.positionStatusValid)
  rtkFixedCount : f.rtkFixedCount =
    (messages.filter (·.positionStatusValid)).countP (·.rtkFixed)
  positionTypeHistogram : ∀ type, f.positionTypeHistogram type =
    (messages.filter (·.positionStatusValid)).countP (·.positionType == type)
  lastRtkFixed : f.lastRtkFixed =
    (messages.filter (·.positionStatusValid)).getLast?.map (·.rtkFixed)
  lastPositionType : f.lastPositionType =
    (messages.filter (·.positionStatusValid)).getLast?.map (·.positionType)
  satelliteCount : f.satelliteCount =
    statsOf ((messages.filter (·.positionStatusValid)).map fun message =>
      Double.ofNat message.numSatellite.toNat)
  eastStdM : f.eastStdM = statsOf ((messages.filter (·.positionStdValid)).map (·.eastStd))
  northStdM : f.northStdM = statsOf ((messages.filter (·.positionStdValid)).map (·.northStd))
  upStdM : f.upStdM = statsOf ((messages.filter (·.positionStdValid)).map (·.upStd))
  firstDeviceTimeSec : f.firstDeviceTimeSec = (deviceTimes messages).head?
  lastDeviceTimeSec : f.lastDeviceTimeSec = (deviceTimes messages).getLast?
  deviceTimeCount : f.deviceTimeCount = (deviceTimes messages).length
  deviceTimeRegressions : f.deviceTimeRegressions = descents Double.lt (deviceTimes messages)

/-- The figures of these IMU messages. -/
structure ImuFigures.Of (f : ImuFigures F) (messages : List (Imu F)) : Prop where
  tracker : f.tracker.Tracks (messages.map (·.header.stamp))
  gyroNormRadS : f.gyroNormRadS = statsOf (messages.map fun message => norm message.angularVelocity)
  accelNormMS2 : f.accelNormMS2 =
    statsOf (messages.map fun message => norm message.linearAcceleration)
  orientationAvailableCount : f.orientationAvailableCount =
    messages.countP fun message => Double.le 0.0 (message.orientationCovariance.get 0)

/-- The figures of these velocities. -/
structure VelocityFigures.Of (f : VelocityFigures F) (messages : List (TwistStamped F)) : Prop where
  tracker : f.tracker.Tracks (messages.map (·.header.stamp))
  diagnosticHorizontalSpeedMS : f.diagnosticHorizontalSpeedMS =
    statsOf (messages.map fun message => Double.hypot message.linear.x message.linear.y)

/-- The figures of these messages of the four topics. -/
structure Figures.Of (f : Figures F) (fixes : List (NavSatFix F)) (statuses : List (INSStatus F))
    (imus : List (Imu F)) (velocities : List (TwistStamped F)) : Prop where
  fixes : f.fixes.Of fixes
  statuses : f.statuses.Of statuses
  imus : f.imus.Of imus
  velocities : f.velocities.Of velocities

section Runs

variable (steady : Nat → Int)

theorem statsOf_concat (values : List F) (v : F) :
    statsOf (values ++ [v]) = (statsOf values).add v := by
  simp [statsOf]

theorem figures_started (window : F) : (started steady window).figures.Of [] [] [] [] where
  fixes := ⟨TopicTracker.tracks_empty, rfl, rfl, rfl, rfl, rfl⟩
  statuses := ⟨TopicTracker.tracks_empty, rfl, rfl, fun _ => rfl, rfl, rfl, rfl, rfl, rfl, rfl, rfl,
    rfl, rfl, rfl⟩
  imus := ⟨TopicTracker.tracks_empty, rfl, rfl, rfl⟩
  velocities := ⟨TopicTracker.tracks_empty, rfl⟩

variable {steady} {m : R3HardwareMonitor F}

theorem deviceTimes_concat (messages : List (INSStatus F)) (message : INSStatus F) :
    deviceTimes (messages ++ [message]) = deviceTimes messages ++
      if message.gpsWeekValid then [deviceTimeSeconds message.gpsWeek message.gpsTimeMs]
      else [] := by
  cases h : message.gpsWeekValid <;> simp [deviceTimes, h]

/-- With one more usable fix the reference is the first of all. -/
theorem FixFigures.Of.setReference {f : FixFigures F} {messages : List (NavSatFix F)}
    (h : f.Of messages) (tracker : TopicTracker F) (count : Nat) (message : NavSatFix F) :
    let r := (messages.filter usable).head?.getD message
    { f with tracker, usableFixCount := count }.setReference message =
      { tracker
        usableFixCount := count
        referenceLatitude := some r.latitude
        referenceLongitude := some r.longitude
        referenceAltitude := some r.altitude
        trajectory := f.trajectory } := by
  intro r
  have hlatitude := h.referenceLatitude
  have hlongitude := h.referenceLongitude
  have haltitude := h.referenceAltitude
  unfold FixFigures.setReference
  cases hfirst : (messages.filter usable).head? with
  | none =>
    rw [hfirst] at hlatitude
    simp [r, hfirst, hlatitude]
  | some first =>
    rw [hfirst] at hlatitude hlongitude haltitude
    simp [r, hfirst, hlatitude, hlongitude, haltitude]

/-- One more fix joins the figures of its topic. -/
theorem FixFigures.Of.observe {f : FixFigures F} {messages : List (NavSatFix F)}
    (h : f.Of messages) (now : Int) (message : NavSatFix F) :
    (f.observe now message).Of (messages ++ [message]) := by
  have htracker : (f.tracker.observe now message.header.stamp).Tracks
      ((messages ++ [message]).map (·.header.stamp)) := by
    rw [List.map_append]
    exact h.tracker.observe now message.header.stamp
  cases husable : usable message with
  | false =>
    have hfilter : (messages ++ [message]).filter usable = messages.filter usable := by
      simp [husable]
    simp only [FixFigures.observe, husable, Bool.not_false, if_true]
    exact ⟨htracker, hfilter ▸ h.usableFixCount, hfilter ▸ h.referenceLatitude,
      hfilter ▸ h.referenceLongitude, hfilter ▸ h.referenceAltitude, hfilter ▸ h.trajectory⟩
  | true =>
    have hfilter : (messages ++ [message]).filter usable =
        messages.filter usable ++ [message] := by
      simp [husable]
    have hhead : (messages.filter usable ++ [message]).head? =
        some ((messages.filter usable).head?.getD message) := by
      cases messages.filter usable <;> rfl
    simp only [FixFigures.observe, husable, Bool.not_true, Bool.false_eq_true, if_false]
    rw [h.setReference]
    refine ⟨htracker, ?_, ?_, ?_, ?_, ?_⟩ <;> rw [hfilter]
    · rw [List.length_append, ← h.usableFixCount]
      rfl
    · rw [hhead]
      rfl
    · rw [hhead]
      rfl
    · rw [hhead]
      rfl
    · rw [track_concat, Statistics.of_concat, ← h.trajectory]
      rfl

/-- One more solution status joins those that are valid. -/
theorem StatusFigures.Of.observeSolution {f : StatusFigures F} {messages : List (INSStatus F)}
    (h : f.Of messages) (message : INSStatus F) :
    let f' := f.observeSolution message
    let valid := (messages ++ [message]).filter (·.positionStatusValid)
    f'.validSolutionStatusCount = (messages ++ [message]).countP (·.positionStatusValid) ∧
    f'.rtkFixedCount = valid.countP (·.rtkFixed) ∧
    (∀ type, f'.positionTypeHistogram type = valid.countP (·.positionType == type)) ∧
    f'.lastRtkFixed = valid.getLast?.map (·.rtkFixed) ∧
    f'.lastPositionType = valid.getLast?.map (·.positionType) ∧
    f'.satelliteCount = statsOf (valid.map fun m => Double.ofNat m.numSatellite.toNat) := by
  intro f' valid
  cases hvalid : message.positionStatusValid with
  | false =>
    have hf : f' = f := by simp [f', StatusFigures.observeSolution, hvalid]
    have hsame : valid = messages.filter (·.positionStatusValid) := by simp [valid, hvalid]
    rw [hf, hsame]
    exact ⟨by simp [h.validSolutionStatusCount, hvalid], h.rtkFixedCount, h.positionTypeHistogram,
      h.lastRtkFixed, h.lastPositionType, h.satelliteCount⟩
  | true =>
    have hconcat : valid = messages.filter (·.positionStatusValid) ++ [message] := by
      simp [valid, hvalid]
    simp only [f', StatusFigures.observeSolution, hvalid, Bool.not_true, Bool.false_eq_true,
      if_false]
    rw [hconcat]
    refine ⟨?_, ?_, fun type => ?_, ?_, ?_, ?_⟩
    · simp [h.validSolutionStatusCount, hvalid]
    · rw [List.countP_append, ← h.rtkFixedCount, List.countP_singleton]
    · rw [List.countP_append, ← h.positionTypeHistogram, List.countP_singleton]
      by_cases htype : message.positionType = type
      · subst htype
        simp
      · simp [htype, Function.update_of_ne (Ne.symm htype)]
    · simp
    · simp
    · rw [List.map_append, List.map_singleton, statsOf_concat, ← h.satelliteCount]

/-- One more status joins the figures of its topic. -/
theorem StatusFigures.Of.observe {f : StatusFigures F} {messages : List (INSStatus F)}
    (h : f.Of messages) (now : Int) (message : INSStatus F) :
    (f.observe now message).Of (messages ++ [message]) := by
  have hstats (values : List F) (v : F) (flag : Bool) :
      (if flag then (statsOf values).add v else statsOf values) =
        statsOf (values ++ if flag then [v] else []) := by
    cases flag <;> simp [statsOf]
  have hselected (value : INSStatus F → F) :
      ((messages ++ [message]).filter (·.positionStdValid)).map value =
        (messages.filter (·.positionStdValid)).map value ++
          if message.positionStdValid then [value message] else [] := by
    cases hflag : message.positionStdValid <;> simp [hflag]
  have htracker : (f.tracker.observe now message.header.stamp).Tracks
      ((messages ++ [message]).map (·.header.stamp)) := by
    rw [List.map_append]
    exact h.tracker.observe now message.header.stamp
  obtain ⟨hcount, hfixed, hhistogram, hlastFixed, hlastType, hsatellites⟩ :=
    h.observeSolution message
  refine ⟨htracker, hcount, hfixed, hhistogram, hlastFixed, hlastType, hsatellites,
    ?_, ?_, ?_, ?_, ?_, ?_, ?_⟩
  · rw [hselected, ← hstats, ← h.eastStdM]
    rfl
  · rw [hselected, ← hstats, ← h.northStdM]
    rfl
  · rw [hselected, ← hstats, ← h.upStdM]
    rfl
  · rw [deviceTimes_concat]
    simp only [StatusFigures.observe, h.firstDeviceTimeSec]
    cases message.gpsWeekValid <;> cases deviceTimes messages <;> simp
  · rw [deviceTimes_concat]
    simp only [StatusFigures.observe, h.lastDeviceTimeSec]
    cases message.gpsWeekValid <;> simp
  · rw [deviceTimes_concat]
    simp only [StatusFigures.observe, h.deviceTimeCount]
    cases message.gpsWeekValid <;> simp
  · rw [deviceTimes_concat]
    simp only [StatusFigures.observe, h.deviceTimeRegressions, h.lastDeviceTimeSec]
    cases message.gpsWeekValid <;> simp [descents_concat]

/-- One more call joins the figures of its own topic. -/
theorem handle_figures {fs : List (NavSatFix F)} {ss : List (INSStatus F)} {is : List (Imu F)}
    {vs : List (TwistStamped F)} (h : m.figures.Of fs ss is vs) (c : Callback F) :
    (m.handle steady c).figures.Of (fs ++ c.fix?.toList) (ss ++ c.status?.toList)
      (is ++ c.imu?.toList) (vs ++ c.velocity?.toList) := by
  obtain ⟨hf, hs, hi, hv⟩ := h
  have hstamps {α : Type} {t : TopicTracker F} {messages : List α} {stamp : α → Time}
      (ht : t.Tracks (messages.map stamp)) (message : α) :
      (t.observe (steady m.readings) (stamp message)).Tracks
        ((messages ++ [message]).map stamp) := by
    rw [List.map_append]
    exact ht.observe _ (stamp message)
  cases c with
  | fix message =>
    rw [handle, onFix_figures]
    simp only [Callback.fix?, Callback.status?, Callback.imu?, Callback.velocity?, Option.toList,
      List.append_nil]
    exact ⟨hf.observe _ message, hs, hi, hv⟩
  | status message =>
    rw [handle, onStatus_figures]
    simp only [Callback.fix?, Callback.status?, Callback.imu?, Callback.velocity?, Option.toList,
      List.append_nil]
    exact ⟨hf, hs.observe _ message, hi, hv⟩
  | imu message =>
    simp only [Callback.fix?, Callback.status?, Callback.imu?, Callback.velocity?, Option.toList,
      List.append_nil]
    refine ⟨hf, hs, ⟨hstamps hi.tracker message, ?_, ?_, ?_⟩, hv⟩
    · rw [List.map_append, List.map_singleton, statsOf_concat, ← hi.gyroNormRadS]
      rfl
    · rw [List.map_append, List.map_singleton, statsOf_concat, ← hi.accelNormMS2]
      rfl
    · rw [List.countP_append, List.countP_singleton, ← hi.orientationAvailableCount]
      rfl
  | velocity message =>
    simp only [Callback.fix?, Callback.status?, Callback.imu?, Callback.velocity?, Option.toList,
      List.append_nil]
    refine ⟨hf, hs, hi, hstamps hv.tracker message, ?_⟩
    rw [List.map_append, List.map_singleton, statsOf_concat, ← hv.diagnosticHorizontalSpeedMS]
    rfl
  | marker data =>
    simp only [Callback.fix?, Callback.status?, Callback.imu?, Callback.velocity?, Option.toList,
      List.append_nil]
    exact ⟨hf, hs, hi, hv⟩
  | snapshot =>
    simp only [Callback.fix?, Callback.status?, Callback.imu?, Callback.velocity?, Option.toList,
      List.append_nil]
    exact ⟨hf, hs, hi, hv⟩

omit [Double F] in
/-- The messages of a topic after one more call. -/
theorem filterMap_concat {α : Type} (select : Callback F → Option α) (callbacks : List (Callback F))
    (c : Callback F) :
    (callbacks ++ [c]).filterMap select = callbacks.filterMap select ++ (select c).toList := by
  rw [List.filterMap_append]
  cases h : select c <;> simp [h]

variable (steady)

theorem run_figures (window : F) (callbacks : List (Callback F)) :
    (run steady window callbacks).figures.Of (fixes callbacks) (statuses callbacks)
      (imus callbacks) (velocities callbacks) := by
  induction callbacks using List.reverseRecOn with
  | nil => exact figures_started steady window
  | append_singleton callbacks c ih =>
    rw [run_concat, fixes, statuses, imus, velocities, filterMap_concat, filterMap_concat,
      filterMap_concat, filterMap_concat]
    exact handle_figures ih c

theorem untimed_tracks {t t' : TopicTracker F} {stamps : List Time} (h : t.Tracks stamps)
    (h' : t'.Tracks stamps) : t.untimed = t'.untimed := by
  unfold TopicTracker.untimed
  rw [h.count, h'.count, h.stampRegressions, h'.stampRegressions, h.lastStampNs, h'.lastStampNs]

/-- Figures of the same messages are the same, but for the readings of the steady clock. -/
theorem Figures.Of.untimed_eq {f f' : Figures F} {fs : List (NavSatFix F)}
    {ss : List (INSStatus F)} {is : List (Imu F)} {vs : List (TwistStamped F)}
    (h : f.Of fs ss is vs) (h' : f'.Of fs ss is vs) : f.untimed = f'.untimed := by
  obtain ⟨hf, hs, hi, hv⟩ := h
  obtain ⟨hf', hs', hi', hv'⟩ := h'
  unfold Figures.untimed
  dsimp only
  congr 1
  · rw [untimed_tracks hf.tracker hf'.tracker, hf.usableFixCount, hf'.usableFixCount,
      hf.referenceLatitude, hf'.referenceLatitude, hf.referenceLongitude, hf'.referenceLongitude,
      hf.referenceAltitude, hf'.referenceAltitude, hf.trajectory, hf'.trajectory]
  · have hhistogram : f.statuses.positionTypeHistogram = f'.statuses.positionTypeHistogram := by
      funext type
      rw [hs.positionTypeHistogram, hs'.positionTypeHistogram]
    rw [untimed_tracks hs.tracker hs'.tracker, hs.validSolutionStatusCount,
      hs'.validSolutionStatusCount, hs.rtkFixedCount, hs'.rtkFixedCount, hhistogram,
      hs.lastRtkFixed, hs'.lastRtkFixed, hs.lastPositionType, hs'.lastPositionType,
      hs.satelliteCount, hs'.satelliteCount, hs.eastStdM, hs'.eastStdM, hs.northStdM,
      hs'.northStdM, hs.upStdM, hs'.upStdM, hs.firstDeviceTimeSec, hs'.firstDeviceTimeSec,
      hs.lastDeviceTimeSec, hs'.lastDeviceTimeSec, hs.deviceTimeCount, hs'.deviceTimeCount,
      hs.deviceTimeRegressions, hs'.deviceTimeRegressions]
  · rw [untimed_tracks hi.tracker hi'.tracker, hi.gyroNormRadS, hi'.gyroNormRadS, hi.accelNormMS2,
      hi'.accelNormMS2, hi.orientationAvailableCount, hi'.orientationAvailableCount]
  · rw [untimed_tracks hv.tracker hv'.tracker, hv.diagnosticHorizontalSpeedMS,
      hv'.diagnosticHorizontalSpeedMS]

/-- After any sequence of calls, in which the messages of the four topics, markers and snapshots may
be interleaved in any way, the figures of each topic are those of its own messages in their order:
the counts, the reference, the last solution, the stamps and device times that go back, the first
and the last device time, and the statistics but for those of the static window, which the steady
clock decides.  Any other run with the same messages on each topic, whatever its order and its
clock, leaves the same figures but for the times of arrival. -/
theorem run_topics (window : F) (callbacks : List (Callback F)) :
    let f := (run steady window callbacks).figures
    f.Of (fixes callbacks) (statuses callbacks) (imus callbacks) (velocities callbacks) ∧
    ∀ steady' window' callbacks', fixes callbacks' = fixes callbacks →
      statuses callbacks' = statuses callbacks → imus callbacks' = imus callbacks →
      velocities callbacks' = velocities callbacks →
        (run steady' window' callbacks').figures.untimed = f.untimed := by
  refine ⟨run_figures steady window callbacks, ?_⟩
  intro steady' window' callbacks' hfixes hstatuses himus hvelocities
  have h' := run_figures steady' window' callbacks'
  rw [hfixes, hstatuses, himus, hvelocities] at h'
  exact h'.untimed_eq (run_figures steady window callbacks)

end Runs

/-! ### The log of events -/

/-- From `m` to `m'` the log grows by these entries: the number of the reading of the clock, the
kind and the detail of each. -/
structure Grows (steady : Nat → Int) (m m' : R3HardwareMonitor F)
    (entries : List (Nat × String × String)) : Prop where
  sessionStart : m'.sessionStart = m.sessionStart
  readings : m.readings ≤ m'.readings
  events : m'.events = m.events ++ entries.map fun e =>
    ⟨seconds (steady e.1 - m.sessionStart), e.2.1, e.2.2⟩
  ordered : entries.Pairwise fun e e' => e.1 < e'.1
  range : ∀ e ∈ entries, m.readings ≤ e.1 ∧ e.1 < m'.readings

/-- The kinds and details of the events that come from fixes and statuses. -/
inductive Observation : String → String → Prop
  | gnss : Observation "gnss" "first_usable_fix"
  | staticWindow : Observation "static_window" "complete"
  | rtkFixed (last : Bool) : Observation "rtk_fixed_transition"
      (if last then "fixed->not_fixed" else "not_fixed->fixed")
  | positionType (last next : UInt8) : Observation "position_type_transition"
      (toString last.toNat ++ "->" ++ toString next.toNat)

theorem Observation.ne_marker {kind detail : String} (h : Observation kind detail) :
    kind ≠ "marker" := by
  cases h <;> decide

section Log

variable {steady : Nat → Int} {m m' m'' : R3HardwareMonitor F}
  {entries entries' : List (Nat × String × String)}

/-- A step that logs nothing. -/
theorem Grows.of_eq (hsession : m'.sessionStart = m.sessionStart)
    (hreadings : m.readings ≤ m'.readings) (hevents : m'.events = m.events) :
    Grows steady m m' [] :=
  ⟨hsession, hreadings, by simp [hevents], .nil, by simp⟩

theorem Grows.trans (h : Grows steady m m' entries) (h' : Grows steady m' m'' entries') :
    Grows steady m m'' (entries ++ entries') where
  sessionStart := h'.sessionStart.trans h.sessionStart
  readings := Nat.le_trans h.readings h'.readings
  events := by
    rw [h'.events, h.events, h.sessionStart, List.map_append, List.append_assoc]
  ordered := by
    rw [List.pairwise_append]
    refine ⟨h.ordered, h'.ordered, fun e he e' he' => ?_⟩
    have hbefore := h.range e he
    have hafter := h'.range e' he'
    omega
  range e he := by
    have hgrow := h.readings
    have hgrow' := h'.readings
    rcases List.mem_append.mp he with he | he
    · have := h.range e he
      omega
    · have := h'.range e he
      omega

theorem grows_addEvent (m : R3HardwareMonitor F) (kind detail : String) :
    Grows steady m (m.addEvent steady kind detail) [(m.readings, kind, detail)] :=
  ⟨rfl, Nat.le_succ _, rfl, List.pairwise_singleton _ _, by simp [addEvent]⟩

/-- From `m` to `m'` the log grows by events of fixes and statuses. -/
def Reports (steady : Nat → Int) (m m' : R3HardwareMonitor F) : Prop :=
  ∃ entries, Grows steady m m' entries ∧ ∀ e ∈ entries, Observation e.2.1 e.2.2

theorem Reports.trans (h : Reports steady m m') (h' : Reports steady m' m'') :
    Reports steady m m'' := by
  obtain ⟨entries, hgrows, hkinds⟩ := h
  obtain ⟨entries', hgrows', hkinds'⟩ := h'
  refine ⟨_, hgrows.trans hgrows', fun e he => ?_⟩
  rcases List.mem_append.mp he with he | he
  · exact hkinds e he
  · exact hkinds' e he

/-- A step that leaves the log alone. -/
theorem Reports.keep (h : Reports steady m m') (hsession : m''.sessionStart = m'.sessionStart)
    (hreadings : m'.readings ≤ m''.readings) (hevents : m''.events = m'.events) :
    Reports steady m m'' :=
  h.trans ⟨[], .of_eq hsession hreadings hevents, by simp⟩

theorem Reports.refl (steady : Nat → Int) (m : R3HardwareMonitor F) : Reports steady m m :=
  ⟨[], .of_eq rfl (Nat.le_refl _) rfl, by simp⟩

theorem reports_addEvent (m : R3HardwareMonitor F) {kind detail : String}
    (h : Observation kind detail) : Reports steady m (m.addEvent steady kind detail) :=
  ⟨_, grows_addEvent m kind detail, by simpa using h⟩

theorem Reports.transition {α : Type} [DecidableEq α] (h : Reports steady m m') {kind : String}
    (last : Option α) (value : α) {detail : α → String}
    (hdetail : ∀ a, Observation kind (detail a)) :
    Reports steady m (m'.transition steady kind last value detail) := by
  unfold R3HardwareMonitor.transition
  split
  · split
    · exact h.trans (reports_addEvent m' (hdetail _))
    · exact h
  · exact h

theorem Reports.setReference (h : Reports steady m m') (message : NavSatFix F) :
    Reports steady m (m'.setReference steady message) := by
  unfold R3HardwareMonitor.setReference
  split
  · refine Reports.trans ?_ (reports_addEvent _ .gnss)
    exact h.keep rfl (Nat.le_succ _) rfl
  · exact h

theorem Reports.observeStatic (h : Reports steady m m') (message : NavSatFix F) (en : F × F) :
    Reports steady m (m'.observeStatic steady message en) := by
  unfold R3HardwareMonitor.observeStatic
  split
  · exact h
  · dsimp only
    split
    · exact h.keep rfl (Nat.le_succ _) rfl
    · split
      · refine Reports.trans ?_ (reports_addEvent _ .staticWindow)
        exact h.keep rfl (Nat.le_succ _) rfl
      · exact h.keep rfl (Nat.le_succ _) rfl

theorem reports_onFix (m : R3HardwareMonitor F) (message : NavSatFix F) :
    Reports steady m (m.onFix steady message) := by
  unfold onFix
  dsimp only
  split
  · exact (Reports.refl steady m).keep rfl (Nat.le_succ _) rfl
  · refine Reports.observeStatic ?_ message _
    refine Reports.keep (Reports.setReference ?_ message) rfl (Nat.le_refl _) rfl
    exact (Reports.refl steady m).keep rfl (Nat.le_succ _) rfl

theorem Reports.observeSolution (h : Reports steady m m') (message : INSStatus F) :
    Reports steady m (m'.observeSolution steady message) := by
  unfold R3HardwareMonitor.observeSolution
  split
  · exact h
  · refine Reports.keep (Reports.transition ?_ _ _ fun _ => .positionType _ _) rfl (Nat.le_refl _)
      rfl
    refine Reports.keep (Reports.transition ?_ _ _ fun _ => .rtkFixed _) rfl (Nat.le_refl _) rfl
    exact h.keep rfl (Nat.le_refl _) rfl

theorem reports_onStatus (m : R3HardwareMonitor F) (message : INSStatus F) :
    Reports steady m (m.onStatus steady message) := by
  have hstd {m' : R3HardwareMonitor F} (h : Reports steady m m') :
      Reports steady m (m'.observeStd message) := by
    unfold observeStd
    split
    · exact h
    · exact h.keep rfl (Nat.le_refl _) rfl
  have htime {m' : R3HardwareMonitor F} (h : Reports steady m m') :
      Reports steady m (m'.observeDeviceTime message) := by
    unfold observeDeviceTime
    split
    · exact h
    · exact h.keep rfl (Nat.le_refl _) rfl
  refine htime (hstd (Reports.observeSolution ?_ message))
  exact (Reports.refl steady m).keep rfl (Nat.le_succ _) rfl

/-- What calls log: the markers as they are, in their order, and observations. -/
structure Logs (entries : List (Nat × String × String)) (markers : List String) : Prop where
  observed : ∀ e ∈ entries, e.2.1 ≠ "marker" → Observation e.2.1 e.2.2
  marked : (entries.filter fun e => e.2.1 == "marker").map (·.2.2) = markers

variable (steady)

theorem handle_grows (m : R3HardwareMonitor F) (c : Callback F) :
    ∃ entries, Grows steady m (m.handle steady c) entries ∧ Logs entries c.marker?.toList := by
  have hreports {m' : R3HardwareMonitor F} (h : Reports steady m m') :
      ∃ entries, Grows steady m m' entries ∧ Logs entries [] := by
    obtain ⟨entries, hgrows, hobserved⟩ := h
    refine ⟨entries, hgrows, fun e he _ => hobserved e he, ?_⟩
    rw [List.map_eq_nil_iff, List.filter_eq_nil_iff]
    exact fun e he hmarker => (hobserved e he).ne_marker (eq_of_beq hmarker)
  cases c with
  | fix message => exact hreports (reports_onFix m message)
  | status message => exact hreports (reports_onStatus m message)
  | imu message => exact hreports ((Reports.refl steady m).keep rfl (Nat.le_succ _) rfl)
  | velocity message => exact hreports ((Reports.refl steady m).keep rfl (Nat.le_succ _) rfl)
  | marker data =>
    exact ⟨_, grows_addEvent m "marker" data, by simp, by simp [Callback.marker?]⟩
  | snapshot => exact hreports ((Reports.refl steady m).keep rfl (Nat.le_add_right _ _) rfl)

theorem foldl_grows (m : R3HardwareMonitor F) (callbacks : List (Callback F)) :
    ∃ entries, Grows steady m (callbacks.foldl (handle steady) m) entries ∧
      Logs entries (markers callbacks) := by
  induction callbacks generalizing m with
  | nil => exact ⟨[], .of_eq rfl (Nat.le_refl _) rfl, by simp, rfl⟩
  | cons c callbacks ih =>
    obtain ⟨entries, hgrows, hlogs⟩ := handle_grows steady m c
    obtain ⟨entries', hgrows', hlogs'⟩ := ih (m.handle steady c)
    refine ⟨entries ++ entries', hgrows.trans hgrows', fun e he => ?_, ?_⟩
    · rcases List.mem_append.mp he with he | he
      · exact hlogs.observed e he
      · exact hlogs'.observed e he
    · rw [List.filter_append, List.map_append, hlogs.marked, hlogs'.marked]
      cases h : c.marker? <;> simp [markers, h]

/-- The log of a run: the start of the monitor, and then what the calls log. -/
theorem events_run (window : F) (callbacks : List (Callback F)) :
    ∃ entries : List (Nat × String × String),
      (run steady window callbacks).events =
        ⟨seconds (steady 1 - steady 0), "monitor", "started"⟩ ::
          entries.map (fun e => ⟨seconds (steady e.1 - steady 0), e.2.1, e.2.2⟩) ∧
      (1 :: entries.map Prod.fst).Pairwise (· < ·) ∧ Logs entries (markers callbacks) := by
  obtain ⟨entries, hgrows, hlogs⟩ := foldl_grows steady (started steady window) callbacks
  refine ⟨entries, hgrows.events, ?_, hlogs⟩
  rw [List.pairwise_cons, List.pairwise_map]
  refine ⟨fun i hi => ?_, hgrows.ordered⟩
  obtain ⟨e, he, rfl⟩ := List.mem_map.mp hi
  exact (hgrows.range e he).1

end Log

/-- After any sequence of calls, when the steady clock does not run backwards: the log begins with
the start of the monitor, it holds the markers as they were received and in their order, and any
other event is an observation; its times do not go back, and further calls only add to it. -/
theorem run_log (steady : ℕ →o ℤ) (window : Exact) (callbacks more : List (Callback Exact)) :
    let m := run steady window callbacks
    (m.events.head?.map fun e => (e.kind, e.detail)) = some ("monitor", "started") ∧
    logged "marker" m.events = markers callbacks ∧
    (∀ e ∈ m.events.tail, e.kind ≠ "marker" → Observation e.kind e.detail) ∧
    (∃ times : List ℝ, m.events.map Event.elapsedSec = times.map .num ∧
      times.Pairwise (· ≤ ·) ∧ ∀ t ∈ times, 0 ≤ t) ∧
    m.events <+: (run steady window (callbacks ++ more)).events := by
  intro m
  obtain ⟨entries, hevents, hordered, hlogs⟩ := events_run steady window callbacks
  obtain ⟨entries', hmore, -⟩ := foldl_grows steady m more
  refine ⟨by rw [hevents]; rfl, ?_, ?_, ?_, ?_⟩
  · have hfirst : ("monitor" == "marker") = false := by decide
    rw [hevents, logged, List.filter_cons, hfirst, if_neg Bool.false_ne_true, List.filter_map,
      List.map_map]
    exact hlogs.marked
  · intro e he
    rw [hevents] at he
    obtain ⟨entry, hentry, rfl⟩ := List.mem_map.mp he
    exact hlogs.observed entry hentry
  · refine ⟨((1 :: entries.map Prod.fst).map fun i => (steady i - steady 0 : ℝ) / 1000000000),
      ?_, ?_, ?_⟩
    · rw [hevents]
      simp only [List.map_cons, List.map_map]
      rw [seconds_exact]
      congr 1
      · push_cast
        rfl
      · refine List.map_congr_left fun e _ => ?_
        simp only [Function.comp_apply, seconds_exact]
        push_cast
        rfl
    · rw [List.pairwise_map]
      refine hordered.imp fun {i j} hij => ?_
      have hclock : (steady i : ℝ) ≤ steady j := by exact_mod_cast steady.monotone hij.le
      gcongr
    · intro t ht
      obtain ⟨i, -, rfl⟩ := List.mem_map.mp ht
      have hclock : (steady 0 : ℝ) ≤ steady i := by exact_mod_cast steady.monotone (Nat.zero_le i)
      have : (0 : ℝ) ≤ steady i - steady 0 := by linarith
      positivity
  · rw [run, List.foldl_append]
    exact ⟨_, hmore.events.symm⟩

end R3HardwareMonitor

end AsensingDriver
