import AsensingDriver.Framing

/-! Groups that arrive in other packets.  A `Group` is a part of the sample that only some frames
carry, with the flag that says whether one has arrived; a sample holds in each group what the last
frame that carries it says, and zeros before there is one.  `feedAll_latest` lists the seven groups
for every sequence of calls, and `feedEach_replay` runs a second parser over the frames that a
first one accepted. -/

namespace AsensingDriver

open Resync Latest

variable {F : Type} [Double F]

/-- A part of the sample that only some frames carry.  A frame that carries the group sets its
fields and raises its flag, and any other frame leaves both alone. -/
structure Group (F : Type) [Double F] (β : Type) where
  carries : List UInt8 → Bool
  read : List UInt8 → β
  fields : INSData F → β
  flag : INSData F → Bool
  unset : flag .initial = false
  decodes : ∀ s f, (fields (decode s f), flag (decode s f)) =
    if carries f then (read f, true) else (fields s, flag s)

/-- The frame's selector, byte 56, is `n`. -/
def selects (n : UInt8) (f : List UInt8) : Bool := byte f 56 == n

/-- What the selector of the frame `f` does from the state `s` to the sample `d`: each of the six
groups is set when it is the one that the selector names, and kept otherwise. -/
structure SelectorStep (f : List UInt8) (s d : INSData F) : Prop where
  positionStd : ((d.latitudeStd, d.longitudeStd, d.altitudeStd), d.hasPositionStd) =
    if selects 0 f then ((value (i16 f 46), value (i16 f 48), value (i16 f 50)), true)
    else ((s.latitudeStd, s.longitudeStd, s.altitudeStd), s.hasPositionStd)
  velocityStd : ((d.northVelocityStd, d.eastVelocityStd, d.groundVelocityStd), d.hasVelocityStd) =
    if selects 1 f then ((value (i16 f 46), value (i16 f 48), value (i16 f 50)), true)
    else ((s.northVelocityStd, s.eastVelocityStd, s.groundVelocityStd), s.hasVelocityStd)
  attitudeStd : ((d.rollStd, d.pitchStd, d.yawStd), d.hasAttitudeStd) =
    if selects 2 f then
      ((value (i16 f 46) * Double.pi / 180.0, value (i16 f 48) * Double.pi / 180.0,
        value (i16 f 50) * Double.pi / 180.0), true)
    else ((s.rollStd, s.pitchStd, s.yawStd), s.hasAttitudeStd)
  temperature : (d.temperature, d.hasTemperature) =
    if selects 22 f then (Double.toFloat (Double.ofInt16 (i16 f 46) * 200.0 / 32768.0), true)
    else (s.temperature, s.hasTemperature)
  positionStatus : ((d.positionType, d.numSv, d.headingType), d.hasPositionStatus) =
    if selects 32 f then
      (((i16 f 46).toUInt16.toUInt8, (i16 f 48).toUInt16.toUInt8,
        (i16 f 50).toUInt16.toUInt8), true)
    else ((s.positionType, s.numSv, s.headingType), s.hasPositionStatus)
  wheelSpeedStatus : (d.wheelSpeedStatus, d.hasWheelSpeedStatus) =
    if selects 33 f then ((i16 f 48).toUInt16.toUInt8, true)
    else (s.wheelSpeedStatus, s.hasWheelSpeedStatus)

theorem readSelector_step (f : List UInt8) (s : INSData F) :
    SelectorStep f s (readSelector f s) := by
  have hselects (n : UInt8) : selects n f = (byte f 56 == n) := rfl
  unfold readSelector
  constructor
  all_goals
    rw [hselects]
    generalize byte f 56 = n
    dsimp only
    -- Each known selector decides the test, and any other selector sets no group.
    split <;> first | rfl | rw [if_neg (by simpa using ‹_›)]

/-- The rest of the decoder leaves the six groups alone. -/
theorem decode_step (s : INSData F) (f : List UInt8) : SelectorStep f s (decode s f) := by
  have h := readSelector_step f (readMain f { s with rawFrame := f.take (frameLength f) })
  unfold decode readWeek
  dsimp only
  split
  all_goals exact ⟨h.positionStd, h.velocityStd, h.attitudeStd, h.temperature, h.positionStatus,
    h.wheelSpeedStatus⟩

/-- The week is set by the frames of 63 bytes alone. -/
theorem gpsWeek_decode (s : INSData F) (f : List UInt8) :
    ((decode s f).gpsWeek, (decode s f).hasGpsWeek) =
      if hasExtendedFrame f then (u32 f 58, true) else (s.gpsWeek, s.hasGpsWeek) := by
  unfold decode readWeek readSelector readMain
  dsimp only
  split
  · rfl
  · split <;> rfl

/-! ### The seven groups -/

def Group.positionStd : Group F (F × F × F) where
  carries := selects 0
  read f := (value (i16 f 46), value (i16 f 48), value (i16 f 50))
  fields d := (d.latitudeStd, d.longitudeStd, d.altitudeStd)
  flag := INSData.hasPositionStd
  unset := rfl
  decodes s f := (decode_step s f).positionStd

def Group.velocityStd : Group F (F × F × F) where
  carries := selects 1
  read f := (value (i16 f 46), value (i16 f 48), value (i16 f 50))
  fields d := (d.northVelocityStd, d.eastVelocityStd, d.groundVelocityStd)
  flag := INSData.hasVelocityStd
  unset := rfl
  decodes s f := (decode_step s f).velocityStd

def Group.attitudeStd : Group F (F × F × F) where
  carries := selects 2
  read f := (value (i16 f 46) * Double.pi / 180.0, value (i16 f 48) * Double.pi / 180.0,
    value (i16 f 50) * Double.pi / 180.0)
  fields d := (d.rollStd, d.pitchStd, d.yawStd)
  flag := INSData.hasAttitudeStd
  unset := rfl
  decodes s f := (decode_step s f).attitudeStd

def Group.temperature : Group F F where
  carries := selects 22
  read f := Double.toFloat (Double.ofInt16 (i16 f 46) * 200.0 / 32768.0)
  fields d := d.temperature
  flag := INSData.hasTemperature
  unset := rfl
  decodes s f := (decode_step s f).temperature

def Group.positionStatus : Group F (UInt8 × UInt8 × UInt8) where
  carries := selects 32
  read f := ((i16 f 46).toUInt16.toUInt8, (i16 f 48).toUInt16.toUInt8,
    (i16 f 50).toUInt16.toUInt8)
  fields d := (d.positionType, d.numSv, d.headingType)
  flag := INSData.hasPositionStatus
  unset := rfl
  decodes s f := (decode_step s f).positionStatus

def Group.wheelSpeedStatus : Group F UInt8 where
  carries := selects 33
  read f := (i16 f 48).toUInt16.toUInt8
  fields d := d.wheelSpeedStatus
  flag := INSData.hasWheelSpeedStatus
  unset := rfl
  decodes s f := (decode_step s f).wheelSpeedStatus

/-- The GPS week, which the frames of 63 bytes carry. -/
def Group.gpsWeek : Group F UInt32 where
  carries := hasExtendedFrame
  read f := u32 f 58
  fields := INSData.gpsWeek
  flag := INSData.hasGpsWeek
  unset := rfl
  decodes := gpsWeek_decode

namespace Group

variable {β : Type} (g : Group F β)

/-- After any frames, a group holds what the last frame that carries it says, and its flag says
whether there is one. -/
theorem stateAfter_latest (s : INSData F) (fs : List (List UInt8)) :
    g.fields (stateAfter s fs) = ((latest g.carries fs).map g.read).getD (g.fields s) ∧
    g.flag (stateAfter s fs) = ((latest g.carries fs).map fun _ => true).getD (g.flag s) := by
  have hsets s f (h : g.carries f = true) := Prod.mk.inj ((g.decodes s f).trans (if_pos h))
  have hkeeps s f (h : g.carries f = false) :=
    Prod.mk.inj ((g.decodes s f).trans (if_neg (Bool.eq_false_iff.mp h)))
  exact ⟨foldl_latest (fun s f h => (hsets s f h).1) (fun s f h => (hkeeps s f h).1) s fs,
    foldl_latest (fun s f h => (hsets s f h).2) (fun s f h => (hkeeps s f h).2) s fs⟩

/-- From a parser's first state, a group holds what the last frame that carries it says, or zeros
when there is none, and the flag is raised exactly when there is one. -/
theorem initial_latest (fs : List (List UInt8)) :
    g.fields (stateAfter .initial fs) =
      ((latest g.carries fs).map g.read).getD (g.fields .initial) ∧
    g.flag (stateAfter .initial fs) = (latest g.carries fs).isSome := by
  refine ⟨(g.stateAfter_latest _ fs).1, ?_⟩
  rw [(g.stateAfter_latest _ fs).2, g.unset]
  cases latest g.carries fs <;> rfl

end Group

/-! ### Whole runs -/

/-- The samples that a fresh parser returns over a sequence of calls. -/
def received (F : Type) [Double F] (chunks : List (List UInt8)) : List (INSData F) :=
  (ASENSINGParser.fresh.feedAll chunks).2

/-- The frames accepted up to sample `k`, in order. -/
def accepted (F : Type) [Double F] (chunks : List (List UInt8)) (k : Nat) : List (List UInt8) :=
  ((received F chunks).take (k + 1)).map INSData.rawFrame

theorem received_rawFrame_valid {chunks : List (List UInt8)} {d : INSData F}
    (hd : d ∈ received F chunks) : ValidFrame d.rawFrame := by
  obtain ⟨items, -, hvalid, -, hraw⟩ := fresh_scanned (F := F) chunks
  exact hvalid _ (hraw ▸ List.mem_map_of_mem hd)

/-- Sample `k` is the state after the frames accepted up to it. -/
theorem received_get (chunks : List (List UInt8)) (k : Fin (received F chunks).length) :
    (received F chunks).get k = stateAfter .initial (accepted F chunks k) := by
  obtain ⟨items, -, -, hresult, hraw⟩ := fresh_scanned (F := F) chunks
  have hget : (samples (F := F) .initial (frames items))[k.val]? =
      some ((received F chunks).get k) := by
    rw [← hresult]
    exact List.getElem?_eq_getElem k.isLt
  have hraw' : (received F chunks).map INSData.rawFrame = frames items := hraw
  rw [(getElem?_trace_eq_some hget).2, accepted, List.map_take, hraw']
  rfl

/-- The last frame accepted up to sample `k` is the sample's own. -/
theorem accepted_eq_concat (chunks : List (List UInt8)) (k : Fin (received F chunks).length) :
    accepted F chunks k =
      ((received F chunks).take k).map INSData.rawFrame ++
        [((received F chunks).get k).rawFrame] := by
  rw [accepted, List.take_succ_eq_append_getElem k.isLt, List.map_append]
  rfl

theorem accepted_valid {chunks : List (List UInt8)} {k : Nat} :
    ∀ f ∈ accepted F chunks k, ValidFrame f := by
  intro f hf
  obtain ⟨d, hd, rfl⟩ := List.mem_map.mp hf
  exact received_rawFrame_valid (List.mem_of_mem_take hd)

/-- Sample `k` is its own frame decoded over the state before it. -/
theorem received_get_decode (chunks : List (List UInt8)) (k : Fin (received F chunks).length) :
    ∃ s : INSData F, (received F chunks).get k = decode s ((received F chunks).get k).rawFrame := by
  refine ⟨stateAfter .initial (((received F chunks).take k).map INSData.rawFrame), ?_⟩
  conv_lhs => rw [received_get, accepted_eq_concat]
  simp [stateAfter]

/-- The accepted frames of 63 bytes are those that carry the week. -/
theorem latest_week_eq (chunks : List (List UInt8)) (k : Nat) :
    latest (fun f => f.length == 63) (accepted F chunks k) =
      latest hasExtendedFrame (accepted F chunks k) :=
  latest_congr fun f hf => by
    rw [Bool.eq_iff_iff, (accepted_valid f hf).hasExtendedFrame_iff, beq_iff_eq]
    rfl

/-- The measurements and the time of week of `d` are those of the frame `f`. -/
structure Measures (f : List UInt8) (d : INSData F) : Prop where
  roll : d.roll = Double.ofInt16 (i16 f 3) * (360.0 / 32768.0) * Double.pi / 180.0
  pitch : d.pitch = Double.ofInt16 (i16 f 5) * (360.0 / 32768.0) * Double.pi / 180.0
  yaw : d.yaw = Double.ofInt16 (i16 f 7) * (360.0 / 32768.0) * Double.pi / 180.0
  gyro : d.gyro =
    ⟨Double.ofInt16 (i16 f 9) * 300.0 / 32768.0 * Double.pi / 180.0,
      Double.ofInt16 (i16 f 11) * 300.0 / 32768.0 * Double.pi / 180.0,
      Double.ofInt16 (i16 f 13) * 300.0 / 32768.0 * Double.pi / 180.0⟩
  accel : d.accel =
    ⟨Double.ofInt16 (i16 f 15) * 12.0 / 32768.0 * 9.80665,
      Double.ofInt16 (i16 f 17) * 12.0 / 32768.0 * 9.80665,
      Double.ofInt16 (i16 f 19) * 12.0 / 32768.0 * 9.80665⟩
  latitude : d.latitude = Double.ofInt32 (i32 f 21) * 1e-7
  longitude : d.longitude = Double.ofInt32 (i32 f 25) * 1e-7
  altitude : d.altitude = Double.ofInt32 (i32 f 29) * 1e-3
  northVelocity : d.northVelocity = Double.ofInt16 (i16 f 33) * 100.0 / 32768.0
  eastVelocity : d.eastVelocity = Double.ofInt16 (i16 f 35) * 100.0 / 32768.0
  groundVelocity : d.groundVelocity = Double.ofInt16 (i16 f 37) * 100.0 / 32768.0
  insStatus : d.insStatus = byte f 39 &&& 0x0f
  gpsTimeMs : d.gpsTimeMs = Double.toUInt32 (Double.ofUInt32 (u32 f 52) * 0.25 : F)

/-- The measurements of a sample come from its own frame. -/
theorem measures_decode (s : INSData F) (f : List UInt8) : Measures f (decode s f) := by
  unfold decode readWeek readSelector readMain
  dsimp only
  split <;> split <;> exact ⟨rfl, rfl, rfl, rfl, rfl, rfl, rfl, rfl, rfl, rfl, rfl, rfl, rfl⟩

/-- For every sequence of calls on a fresh parser and every sample `d` that it returns: each group
of `d` is the decoding of the last accepted frame, up to that of `d`, that carries the group, or
zero when there is none; the group's flag says whether there is one; and the measurements and the
time of week of `d` are those of its own frame. -/
theorem feedAll_latest (chunks : List (List UInt8)) (k : Fin (received F chunks).length) :
    let d := (received F chunks).get k
    let last (n : UInt8) := latest (fun f => byte f 56 == n) (accepted F chunks k)
    let lastWeek := latest (fun f => f.length == 63) (accepted F chunks k)
    let std (f : List UInt8) : F × F × F :=
      (value (i16 f 46), value (i16 f 48), value (i16 f 50))
    let degrees (x : F) : F := x * Double.pi / 180.0
    ((d.latitudeStd, d.longitudeStd, d.altitudeStd) = ((last 0).map std).getD (0.0, 0.0, 0.0) ∧
      d.hasPositionStd = (last 0).isSome) ∧
    ((d.northVelocityStd, d.eastVelocityStd, d.groundVelocityStd) =
        ((last 1).map std).getD (0.0, 0.0, 0.0) ∧
      d.hasVelocityStd = (last 1).isSome) ∧
    ((d.rollStd, d.pitchStd, d.yawStd) =
        ((last 2).map fun f => (degrees (value (i16 f 46)), degrees (value (i16 f 48)),
          degrees (value (i16 f 50)))).getD (0.0, 0.0, 0.0) ∧
      d.hasAttitudeStd = (last 2).isSome) ∧
    (d.temperature =
        ((last 22).map fun f =>
          Double.toFloat (Double.ofInt16 (i16 f 46) * 200.0 / 32768.0)).getD 0.0 ∧
      d.hasTemperature = (last 22).isSome) ∧
    ((d.positionType, d.numSv, d.headingType) =
        ((last 32).map fun f => ((i16 f 46).toUInt16.toUInt8, (i16 f 48).toUInt16.toUInt8,
          (i16 f 50).toUInt16.toUInt8)).getD (0, 0, 0) ∧
      d.hasPositionStatus = (last 32).isSome) ∧
    (d.wheelSpeedStatus = ((last 33).map fun f => (i16 f 48).toUInt16.toUInt8).getD 0 ∧
      d.hasWheelSpeedStatus = (last 33).isSome) ∧
    (d.gpsWeek = (lastWeek.map fun f => u32 f 58).getD 0 ∧ d.hasGpsWeek = lastWeek.isSome) ∧
    Measures d.rawFrame d := by
  intro d last lastWeek std degrees
  obtain ⟨s, hs⟩ := received_get_decode chunks k
  have group {β : Type} (g : Group F β) : g.fields d =
      ((latest g.carries (accepted F chunks k)).map g.read).getD (g.fields .initial) ∧
      g.flag d = (latest g.carries (accepted F chunks k)).isSome := by
    rw [show d = _ from received_get chunks k]
    exact g.initial_latest _
  have hweek : lastWeek = latest hasExtendedFrame (accepted F chunks k) := latest_week_eq chunks k
  have hmeasures := measures_decode s d.rawFrame
  rw [← hs] at hmeasures
  exact ⟨group .positionStd, group .velocityStd, group .attitudeStd, group .temperature,
    group .positionStatus, group .wheelSpeedStatus, hweek ▸ group .gpsWeek, hmeasures⟩

/-! ### Replay -/

/-- Consecutive calls of `feed`, with what each call leaves and returns. -/
def ASENSINGParser.feedEach (p : ASENSINGParser F) :
    List (List UInt8) → List (ASENSINGParser F × List (INSData F))
  | [] => []
  | data :: chunks => p.feed data :: feedEach (p.feed data).1 chunks

/-- A valid frame on its own is accepted whole. -/
theorem feed_frame (s : INSData F) {f : List UInt8} (h : ValidFrame f) :
    (⟨[], s⟩ : ASENSINGParser F).feed f = (⟨[], decode s f⟩, [decode s f]) := by
  obtain ⟨items, hrun, hscan⟩ := feed_scanned ⟨[], s⟩ f rfl
  have hframe : Runs asensing f [.frame (f.take (frameLength f))] [] :=
    .take (verdict_of_mainAt h.mainAt)
      (by rw [h.frameLength_eq, List.drop_length]; exact .stop rfl)
  rw [h.frameLength_eq, List.take_length] at hframe
  obtain ⟨rfl, hbuffer⟩ := Runs.unique hrun hframe
  have hstate := hscan.state
  have hresult := hscan.result
  generalize (⟨[], s⟩ : ASENSINGParser F).feed f = r at hbuffer hstate hresult
  obtain ⟨⟨buffer, state⟩, result⟩ := r
  cases hbuffer
  cases hstate
  cases hresult
  rfl

/-- Valid frames, one in each call, are accepted whole one by one. -/
theorem feedEach_frames (s : INSData F) {fs : List (List UInt8)} (h : ∀ f ∈ fs, ValidFrame f) :
    (⟨[], s⟩ : ASENSINGParser F).feedEach fs = (samples s fs).map fun d => (⟨[], d⟩, [d]) := by
  induction fs generalizing s with
  | nil => rfl
  | cons f fs ih =>
    rw [ASENSINGParser.feedEach, feed_frame s (h f (by simp))]
    exact congrArg (_ :: ·) (ih _ fun g hg => h g (by simp [hg]))

/-- For every sequence of calls on a fresh parser, feeding the frames of the returned samples to a
second fresh parser, one in each call, returns the samples again, one from each call, and leaves
the second parser's buffer empty after each call. -/
theorem feedEach_replay (chunks : List (List UInt8)) :
    (ASENSINGParser.fresh.feedEach ((received F chunks).map INSData.rawFrame)).map Prod.snd =
      (received F chunks).map (fun d => [d]) ∧
    ∀ r ∈ (ASENSINGParser.fresh (F := F)).feedEach ((received F chunks).map INSData.rawFrame),
      r.1.buffer = [] := by
  obtain ⟨items, -, hvalid, hresult, hraw⟩ := fresh_scanned (F := F) chunks
  have hraw' : (received F chunks).map INSData.rawFrame = frames items := hraw
  have hresult' : received F chunks = samples .initial (frames items) := hresult
  rw [hraw', show (ASENSINGParser.fresh (F := F)) = ⟨[], .initial⟩ from rfl,
    feedEach_frames .initial hvalid, hresult']
  constructor
  · simp [Function.comp_def]
  · intro r hr
    obtain ⟨d, -, rfl⟩ := List.mem_map.mp hr
    rfl

end AsensingDriver
