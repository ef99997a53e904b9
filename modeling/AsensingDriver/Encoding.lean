import AsensingDriver.Persistence
import AsensingDriver.Units

/-! The packet format.  `Packet` holds the integers of a packet, and `Packet.frame` writes them with
the builders of the parser's tests.  `feed_packet` says that the parser reads every packet back. -/

namespace AsensingDriver

/-! ### The builders -/

def setU32 (frame : List UInt8) (offset : Nat) (value : UInt32) : List UInt8 :=
  (((frame.set offset value.toUInt8).set (offset + 1) (value >>> 8).toUInt8).set (offset + 2)
    (value >>> 16).toUInt8).set (offset + 3) (value >>> 24).toUInt8

def setI32 (frame : List UInt8) (offset : Nat) (value : Int32) : List UInt8 :=
  setU32 frame offset value.toUInt32

def setI16 (frame : List UInt8) (offset : Nat) (value : Int16) : List UInt8 :=
  (frame.set offset value.toUInt16.toUInt8).set (offset + 1) (value >>> 8).toUInt16.toUInt8

def setChecksum (frame : List UInt8) (length : Nat) : List UInt8 :=
  frame.set (length - 1) ((frame.take (length - 1)).foldl (· ^^^ ·) 0)

/-- The integers of a packet.  The format leaves bytes 40 to 45 unused. -/
structure Packet where
  roll : Int16
  pitch : Int16
  yaw : Int16
  gyro : Vector3d Int16
  accel : Vector3d Int16
  latitude : Int32
  longitude : Int32
  altitude : Int32
  northVelocity : Int16
  eastVelocity : Int16
  groundVelocity : Int16
  insStatus : UInt8
  unused : Fin 6 → UInt8
  data1 : Int16
  data2 : Int16
  data3 : Int16
  counter : UInt32
  selector : UInt8

namespace Packet

def setHeader (frame : List UInt8) : List UInt8 := ((frame.set 0 0xbd).set 1 0xdb).set 2 0x0b

def setVector (frame : List UInt8) (offset : Nat) (v : Vector3d Int16) : List UInt8 :=
  setI16 (setI16 (setI16 frame offset v.x) (offset + 2) v.y) (offset + 4) v.z

def setUnused (frame : List UInt8) (u : Fin 6 → UInt8) : List UInt8 :=
  (((((frame.set 40 (u 0)).set 41 (u 1)).set 42 (u 2)).set 43 (u 3)).set 44 (u 4)).set 45 (u 5)

/-- The frame with every field before the checksum written. -/
def fill (p : Packet) (frame : List UInt8) : List UInt8 :=
  let frame := setHeader frame
  let frame := setI16 frame 3 p.roll
  let frame := setI16 frame 5 p.pitch
  let frame := setI16 frame 7 p.yaw
  let frame := setVector frame 9 p.gyro
  let frame := setVector frame 15 p.accel
  let frame := setI32 frame 21 p.latitude
  let frame := setI32 frame 25 p.longitude
  let frame := setI32 frame 29 p.altitude
  let frame := setI16 frame 33 p.northVelocity
  let frame := setI16 frame 35 p.eastVelocity
  let frame := setI16 frame 37 p.groundVelocity
  let frame := frame.set 39 p.insStatus
  let frame := setUnused frame p.unused
  let frame := setI16 frame 46 p.data1
  let frame := setI16 frame 48 p.data2
  let frame := setI16 frame 50 p.data3
  let frame := setU32 frame 52 p.counter
  frame.set 56 p.selector

/-- The frame of a packet, extended when it carries a week. -/
def frame (p : Packet) : Option UInt32 → List UInt8
  | none => setChecksum (p.fill (List.replicate 58 0)) 58
  | some week =>
    setChecksum (setU32 (setChecksum (p.fill (List.replicate 63 0)) 58) 58 week) 63

/-- A packet with the given selector and data words, and zeros elsewhere but in the status. -/
def ofSelector (n : UInt8) (data1 data2 data3 : Int16) : Packet where
  roll := 0
  pitch := 0
  yaw := 0
  gyro := ⟨0, 0, 0⟩
  accel := ⟨0, 0, 0⟩
  latitude := 0
  longitude := 0
  altitude := 0
  northVelocity := 0
  eastVelocity := 0
  groundVelocity := 0
  insStatus := 3
  unused := fun _ => 0
  data1 := data1
  data2 := data2
  data3 := data3
  counter := 0
  selector := n

end Packet

def makeSelectorFrame (selector : UInt8) (data1 data2 data3 : Int16) : List UInt8 :=
  (Packet.ofSelector selector data1 data2 data3).frame none

def makeExtendedStatusFrame (gpsWeek : UInt32) : List UInt8 :=
  (Packet.ofSelector 32 4 12 5).frame (some gpsWeek)

/-! ### Reading what was written -/

section Reads

variable (f : List UInt8) (i j : Nat)

theorem byte_set_self {f : List UInt8} {i : Nat} (v : UInt8) (h : i < f.length) :
    byte (f.set i v) i = v := by
  simp [byte, List.getD_eq_getElem?_getD, h]

theorem byte_set_ne {i j : Nat} (v : UInt8) (h : i ≠ j) : byte (f.set i v) j = byte f j := by
  simp [byte, List.getD_eq_getElem?_getD, List.getElem?_set_ne h]

@[simp] theorem length_setI16 (v : Int16) : (setI16 f i v).length = f.length := by
  simp [setI16]

@[simp] theorem length_setU32 (v : UInt32) : (setU32 f i v).length = f.length := by
  simp [setU32]

@[simp] theorem length_setChecksum : (setChecksum f i).length = f.length := by
  simp [setChecksum]

@[simp] theorem length_setI32 (v : Int32) : (setI32 f i v).length = f.length :=
  length_setU32 f i _

variable {i j}

theorem byte_setI16_ne (v : Int16) (h : j < i ∨ i + 2 ≤ j) :
    byte (setI16 f i v) j = byte f j := by
  rw [setI16, byte_set_ne _ _ (by omega), byte_set_ne _ _ (by omega)]

theorem byte_setU32_ne (v : UInt32) (h : j < i ∨ i + 4 ≤ j) :
    byte (setU32 f i v) j = byte f j := by
  rw [setU32, byte_set_ne _ _ (by omega), byte_set_ne _ _ (by omega), byte_set_ne _ _ (by omega),
    byte_set_ne _ _ (by omega)]

theorem i16_congr {f g : List UInt8} (h0 : byte f i = byte g i)
    (h1 : byte f (i + 1) = byte g (i + 1)) : i16 f i = i16 g i := by
  rw [i16, i16, u16, u16, h0, h1]

theorem i32_congr {f g : List UInt8} (h : ∀ k < 4, byte f (i + k) = byte g (i + k)) :
    i32 f i = i32 g i := by
  rw [i32, i32, h 1 (by decide), h 2 (by decide), h 3 (by decide),
    show byte f i = byte g i from h 0 (by decide)]

theorem i16_set_ne (v : UInt8) (h : j < i ∨ i + 2 ≤ j) : i16 (f.set j v) i = i16 f i :=
  i16_congr (byte_set_ne _ _ (by omega)) (byte_set_ne _ _ (by omega))

theorem i16_setI16_ne (v : Int16) (h : j + 2 ≤ i ∨ i + 2 ≤ j) : i16 (setI16 f j v) i = i16 f i :=
  i16_congr (byte_setI16_ne _ _ (by omega)) (byte_setI16_ne _ _ (by omega))

theorem i16_setU32_ne (v : UInt32) (h : j + 4 ≤ i ∨ i + 2 ≤ j) : i16 (setU32 f j v) i = i16 f i :=
  i16_congr (byte_setU32_ne _ _ (by omega)) (byte_setU32_ne _ _ (by omega))

theorem i16_setI32_ne (v : Int32) (h : j + 4 ≤ i ∨ i + 2 ≤ j) : i16 (setI32 f j v) i = i16 f i :=
  i16_setU32_ne f _ h

theorem i32_set_ne (v : UInt8) (h : j < i ∨ i + 4 ≤ j) : i32 (f.set j v) i = i32 f i :=
  i32_congr fun _ _ => byte_set_ne _ _ (by omega)

theorem i32_setI16_ne (v : Int16) (h : j + 2 ≤ i ∨ i + 4 ≤ j) : i32 (setI16 f j v) i = i32 f i :=
  i32_congr fun _ _ => byte_setI16_ne _ _ (by omega)

theorem i32_setU32_ne (v : UInt32) (h : j + 4 ≤ i ∨ i + 4 ≤ j) : i32 (setU32 f j v) i = i32 f i :=
  i32_congr fun _ _ => byte_setU32_ne _ _ (by omega)

theorem i32_setI32_ne (v : Int32) (h : j + 4 ≤ i ∨ i + 4 ≤ j) : i32 (setI32 f j v) i = i32 f i :=
  i32_setU32_ne f _ h

theorem i16_setI16 {f : List UInt8} (v : Int16) (h : i + 2 ≤ f.length) :
    i16 (setI16 f i v) i = v := by
  rw [i16, u16, setI16, byte_set_ne _ _ (by omega), byte_set_self _ (by omega),
    byte_set_self _ (by simp; omega)]
  exact LittleEndian.join_split16 v

theorem u32_setU32 {f : List UInt8} (v : UInt32) (h : i + 4 ≤ f.length) :
    u32 (setU32 f i v) i = v := by
  have h0 : byte (setU32 f i v) i = v.toUInt8 := by
    rw [setU32, byte_set_ne _ _ (by omega), byte_set_ne _ _ (by omega),
      byte_set_ne _ _ (by omega), byte_set_self _ (by omega)]
  have h1 : byte (setU32 f i v) (i + 1) = (v >>> 8).toUInt8 := by
    rw [setU32, byte_set_ne _ _ (by omega), byte_set_ne _ _ (by omega),
      byte_set_self _ (by simp; omega)]
  have h2 : byte (setU32 f i v) (i + 2) = (v >>> 16).toUInt8 := by
    rw [setU32, byte_set_ne _ _ (by omega), byte_set_self _ (by simp; omega)]
  have h3 : byte (setU32 f i v) (i + 3) = (v >>> 24).toUInt8 := by
    rw [setU32, byte_set_self _ (by simp; omega)]
  rw [u32, i32, h0, h1, h2, h3, LittleEndian.join_split32]
  rfl

theorem i32_setI32 {f : List UInt8} (v : Int32) (h : i + 4 ≤ f.length) :
    i32 (setI32 f i v) i = v := by
  rw [← Int32.toInt32_toUInt32 (i32 (setI32 f i v) i)]
  exact congrArg UInt32.toInt32 (u32_setU32 v.toUInt32 h)

/-- A checksum that was written is correct. -/
theorem xorOk_setChecksum {f : List UInt8} {n : Nat} (hn : 0 < n) (h : n ≤ f.length) :
    xorOk (setChecksum f n) n = true := by
  rw [xorOk, setChecksum, byte_set_self _ (by omega), List.take_set_of_le (by omega)]
  exact beq_self_eq_true _

/-- A byte past a checksum leaves it correct. -/
theorem xorOk_set {n : Nat} (v : UInt8) (hn : 0 < n) (h : n ≤ i) :
    xorOk (f.set i v) n = xorOk f n := by
  rw [xorOk, xorOk, byte_set_ne _ _ (by omega), List.take_set_of_le (by omega)]

end Reads

/-! ### The fields of a frame -/

/-- The frame `f` holds the fields of `p`. -/
structure Packet.Filled (p : Packet) (f : List UInt8) : Prop where
  header : headerOk f = true
  roll : i16 f 3 = p.roll
  pitch : i16 f 5 = p.pitch
  yaw : i16 f 7 = p.yaw
  gyroX : i16 f 9 = p.gyro.x
  gyroY : i16 f 11 = p.gyro.y
  gyroZ : i16 f 13 = p.gyro.z
  accelX : i16 f 15 = p.accel.x
  accelY : i16 f 17 = p.accel.y
  accelZ : i16 f 19 = p.accel.z
  latitude : i32 f 21 = p.latitude
  longitude : i32 f 25 = p.longitude
  altitude : i32 f 29 = p.altitude
  northVelocity : i16 f 33 = p.northVelocity
  eastVelocity : i16 f 35 = p.eastVelocity
  groundVelocity : i16 f 37 = p.groundVelocity
  insStatus : byte f 39 = p.insStatus
  data1 : i16 f 46 = p.data1
  data2 : i16 f 48 = p.data2
  data3 : i16 f 50 = p.data3
  counter : u32 f 52 = p.counter
  selector : byte f 56 = p.selector

namespace Packet

theorem length_fill (p : Packet) (f : List UInt8) : (p.fill f).length = f.length := by
  simp [fill, setHeader, setVector, setUnused, setI32]

/-- Every field is read back from where it was written. -/
theorem filled_fill (p : Packet) {f : List UInt8} (h : 58 ≤ f.length) : p.Filled (p.fill f) := by
  unfold fill setHeader setVector setUnused
  constructor
  case header =>
    simp (disch := first | omega | (simp only [List.length_set]; omega)) only [headerOk, setI32,
      byte_set_ne, byte_setI16_ne, byte_setU32_ne, byte_set_self]
    rfl
  case insStatus | selector =>
    simp (disch := first | omega |
      (simp only [List.length_set, length_setI16, length_setI32, length_setU32]; omega)) only
      [byte_set_ne, byte_setI16_ne, byte_setU32_ne, byte_set_self]
  case latitude | longitude | altitude =>
    simp (disch := first | omega |
      (simp only [List.length_set, length_setI16, length_setI32]; omega)) only
      [i32_set_ne, i32_setI16_ne, i32_setI32_ne, i32_setU32_ne, i32_setI32]
  case counter =>
    rw [u32, i32_set_ne _ _ (by decide)]
    exact u32_setU32 _ (by
      simp only [List.length_set, length_setI16, length_setI32]
      omega)
  all_goals
    simp (disch := first | omega |
      (simp only [List.length_set, length_setI16, length_setI32]; omega)) only
      [i16_set_ne, i16_setI16_ne, i16_setI32_ne, i16_setU32_ne, i16_setI16]

/-- The fields lie before the checksum. -/
theorem Filled.set {p : Packet} {f : List UInt8} (h : p.Filled f) {i : Nat} (v : UInt8)
    (hi : 57 ≤ i) : p.Filled (f.set i v) := by
  constructor
  case header =>
    rw [← h.header]
    simp (disch := omega) only [headerOk, byte_set_ne]
  case insStatus => rw [byte_set_ne _ _ (by omega), h.insStatus]
  case selector => rw [byte_set_ne _ _ (by omega), h.selector]
  case counter => rw [u32, i32_set_ne _ _ (by omega), ← u32, h.counter]
  case latitude => rw [i32_set_ne _ _ (by omega), h.latitude]
  case longitude => rw [i32_set_ne _ _ (by omega), h.longitude]
  case altitude => rw [i32_set_ne _ _ (by omega), h.altitude]
  all_goals
    rw [i16_set_ne _ _ (by omega)]
    first
    | exact h.roll | exact h.pitch | exact h.yaw | exact h.gyroX | exact h.gyroY | exact h.gyroZ
    | exact h.accelX | exact h.accelY | exact h.accelZ | exact h.northVelocity
    | exact h.eastVelocity | exact h.groundVelocity | exact h.data1 | exact h.data2 | exact h.data3

theorem Filled.setChecksum {p : Packet} {f : List UInt8} (h : p.Filled f) {n : Nat}
    (hn : 58 ≤ n) : p.Filled (setChecksum f n) :=
  h.set _ (by omega)

theorem Filled.setU32 {p : Packet} {f : List UInt8} (h : p.Filled f) {i : Nat} (v : UInt32)
    (hi : 57 ≤ i) : p.Filled (setU32 f i v) :=
  (((h.set _ hi).set _ (by omega)).set _ (by omega)).set _ (by omega)

theorem length_frame (p : Packet) (week : Option UInt32) :
    (p.frame week).length = if week.isSome then kExtendedLength else kMainLength := by
  cases week <;> simp [frame, length_fill, kMainLength, kExtendedLength]

theorem filled_frame (p : Packet) (week : Option UInt32) : p.Filled (p.frame week) := by
  cases week with
  | none => exact (p.filled_fill (by simp)).setChecksum (by decide)
  | some week =>
    have hmain := (p.filled_fill (f := List.replicate 63 0) (by simp)).setChecksum
      (n := 58) (by decide)
    exact (hmain.setU32 week (i := 58) (by decide)).setChecksum (by decide)

/-- A packet's frame is valid. -/
theorem validFrame_frame (p : Packet) (week : Option UInt32) : ValidFrame (p.frame week) := by
  refine .of_xorOk ?_ (p.filled_frame week).header ?_ ?_
  · rw [length_frame]
    cases week
    · exact .inl rfl
    · exact .inr rfl
  · cases week with
    | none => exact xorOk_setChecksum (by decide) (by simp [length_fill])
    | some week =>
      rw [frame, setChecksum, xorOk_set _ _ (by decide) (by decide), setU32,
        xorOk_set _ _ (by decide) (by decide), xorOk_set _ _ (by decide) (by decide),
        xorOk_set _ _ (by decide) (by decide), xorOk_set _ _ (by decide) (by decide)]
      exact xorOk_setChecksum (by decide) (by simp [length_fill])
  · intro h
    cases week with
    | none => simp [length_frame, kMainLength, kExtendedLength] at h
    | some week => exact xorOk_setChecksum (by decide) (by simp [length_fill])

theorem week_frame (p : Packet) (week : UInt32) : u32 (p.frame (some week)) 58 = week := by
  rw [frame, setChecksum, u32, i32_set_ne _ _ (by decide)]
  exact u32_setU32 week (by simp [length_fill])

end Packet

/-! ### Decoding a packet -/

/-- The low byte of a word, which is the word itself from 0 to 255. -/
theorem lowByte_toNat (x : Int16) : (x.toUInt16.toUInt8.toNat : ℤ) = x.toInt % 256 := by
  have hx : x.toInt = (x.toUInt16.toNat : ℤ).bmod (2 ^ 16) := BitVec.toInt_eq_toNat_bmod _
  rw [UInt16.toNat_toUInt8, hx, Int.bmod]
  omega

theorem lowNibble_toNat (b : UInt8) : (b &&& 0x0f).toNat = b.toNat % 16 := by
  rw [UInt8.toNat_and]
  exact Nat.and_two_pow_sub_one_eq_mod b.toNat 4

/-- The sample `d` that the packet `p` stands for, over the state `s`: its integers in their units,
the group that its selector names, and every other group as in `s`. -/
structure Packet.Means (p : Packet) (week : Option UInt32) (s d : INSData Exact) : Prop where
  rawFrame : d.rawFrame = p.frame week
  roll : d.roll = .num (p.roll.toInt * (360 / 32768) * Real.pi / 180)
  pitch : d.pitch = .num (p.pitch.toInt * (360 / 32768) * Real.pi / 180)
  yaw : d.yaw = .num (p.yaw.toInt * (360 / 32768) * Real.pi / 180)
  gyro : d.gyro =
    ⟨.num (p.gyro.x.toInt * 300 / 32768 * Real.pi / 180),
      .num (p.gyro.y.toInt * 300 / 32768 * Real.pi / 180),
      .num (p.gyro.z.toInt * 300 / 32768 * Real.pi / 180)⟩
  accel : d.accel =
    ⟨.num (p.accel.x.toInt * 12 / 32768 * 9.80665),
      .num (p.accel.y.toInt * 12 / 32768 * 9.80665),
      .num (p.accel.z.toInt * 12 / 32768 * 9.80665)⟩
  latitude : d.latitude = .num (p.latitude.toInt / 10 ^ 7)
  longitude : d.longitude = .num (p.longitude.toInt / 10 ^ 7)
  altitude : d.altitude = .num (p.altitude.toInt / 10 ^ 3)
  northVelocity : d.northVelocity = .num (p.northVelocity.toInt * 100 / 32768)
  eastVelocity : d.eastVelocity = .num (p.eastVelocity.toInt * 100 / 32768)
  groundVelocity : d.groundVelocity = .num (p.groundVelocity.toInt * 100 / 32768)
  insStatus : d.insStatus.toNat = p.insStatus.toNat % 16
  gpsTimeMs : d.gpsTimeMs.toNat = p.counter.toNat / 4
  gpsWeek : (d.gpsWeek, d.hasGpsWeek) = week.elim (s.gpsWeek, s.hasGpsWeek) fun w => (w, true)
  positionStd : ((d.latitudeStd, d.longitudeStd, d.altitudeStd), d.hasPositionStd) =
    if p.selector = 0 then
      ((.num (Real.exp (p.data1.toInt / 100)), .num (Real.exp (p.data2.toInt / 100)),
        .num (Real.exp (p.data3.toInt / 100))), true)
    else ((s.latitudeStd, s.longitudeStd, s.altitudeStd), s.hasPositionStd)
  velocityStd : ((d.northVelocityStd, d.eastVelocityStd, d.groundVelocityStd), d.hasVelocityStd) =
    if p.selector = 1 then
      ((.num (Real.exp (p.data1.toInt / 100)), .num (Real.exp (p.data2.toInt / 100)),
        .num (Real.exp (p.data3.toInt / 100))), true)
    else ((s.northVelocityStd, s.eastVelocityStd, s.groundVelocityStd), s.hasVelocityStd)
  attitudeStd : ((d.rollStd, d.pitchStd, d.yawStd), d.hasAttitudeStd) =
    if p.selector = 2 then
      ((.num (Real.exp (p.data1.toInt / 100) * Real.pi / 180),
        .num (Real.exp (p.data2.toInt / 100) * Real.pi / 180),
        .num (Real.exp (p.data3.toInt / 100) * Real.pi / 180)), true)
    else ((s.rollStd, s.pitchStd, s.yawStd), s.hasAttitudeStd)
  temperature : (d.temperature, d.hasTemperature) =
    if p.selector = 22 then (.num (p.data1.toInt * 200 / 32768), true)
    else (s.temperature, s.hasTemperature)
  positionStatus :
    if p.selector = 32 then
      (d.positionType.toNat : ℤ) = p.data1.toInt % 256 ∧ (d.numSv.toNat : ℤ) = p.data2.toInt % 256 ∧
        (d.headingType.toNat : ℤ) = p.data3.toInt % 256 ∧ d.hasPositionStatus = true
    else ((d.positionType, d.numSv, d.headingType), d.hasPositionStatus) =
      ((s.positionType, s.numSv, s.headingType), s.hasPositionStatus)
  wheelSpeedStatus :
    if p.selector = 33 then
      (d.wheelSpeedStatus.toNat : ℤ) = p.data2.toInt % 256 ∧ d.hasWheelSpeedStatus = true
    else (d.wheelSpeedStatus, d.hasWheelSpeedStatus) = (s.wheelSpeedStatus, s.hasWheelSpeedStatus)

namespace Packet.Filled

variable {p : Packet} {f : List UInt8} (h : p.Filled f)
include h

/-- A group of a frame is what its selector says, or what the state before held. -/
theorem group {β : Type} (g : Group Exact β) {n : UInt8} (hg : g.carries = selects n)
    (s : INSData Exact) : (g.fields (decode s f), g.flag (decode s f)) =
      if p.selector = n then (g.read f, true) else (g.fields s, g.flag s) := by
  have hn : selects n f = true ↔ p.selector = n := by
    rw [selects, h.selector, beq_iff_eq]
  rw [g.decodes, hg]
  simp only [hn]

theorem readStd : (value (i16 f 46), value (i16 f 48), value (i16 f 50)) =
    (Exact.num (Real.exp (p.data1.toInt / 100)), Exact.num (Real.exp (p.data2.toInt / 100)),
      Exact.num (Real.exp (p.data3.toInt / 100))) := by
  rw [h.data1, h.data2, h.data3, value_exact, value_exact, value_exact]

theorem readStdDeg :
    (value (i16 f 46) * Double.pi / 180.0, value (i16 f 48) * Double.pi / 180.0,
      value (i16 f 50) * Double.pi / 180.0) =
    (Exact.num (Real.exp (p.data1.toInt / 100) * Real.pi / 180),
      Exact.num (Real.exp (p.data2.toInt / 100) * Real.pi / 180),
      Exact.num (Real.exp (p.data3.toInt / 100) * Real.pi / 180)) := by
  rw [h.data1, h.data2, h.data3, valueDeg_exact, valueDeg_exact, valueDeg_exact]

end Packet.Filled

/-- The week of a frame is the packet's own, or what the state before held. -/
theorem week_decode (p : Packet) (week : Option UInt32) (s : INSData Exact) :
    ((decode s (p.frame week)).gpsWeek, (decode s (p.frame week)).hasGpsWeek) =
      week.elim (s.gpsWeek, s.hasGpsWeek) fun w => (w, true) := by
  have hx : hasExtendedFrame (p.frame week) = week.isSome := by
    rw [Bool.eq_iff_iff, (p.validFrame_frame week).hasExtendedFrame_iff, p.length_frame]
    cases week <;> simp [kMainLength, kExtendedLength]
  rw [gpsWeek_decode, hx]
  cases week with
  | none => rfl
  | some w => rw [p.week_frame w]; rfl

/-- Decoding a packet's frame gives the sample that the packet stands for. -/
theorem decode_frame (p : Packet) (week : Option UInt32) (s : INSData Exact) :
    p.Means week s (decode s (p.frame week)) := by
  have hweek := week_decode p week s
  have hraw := decode_rawFrame s (p.validFrame_frame week)
  have hf := p.filled_frame week
  generalize hfdef : p.frame week = f at hweek hraw hf ⊢
  have hmeasures := measures_decode s f
  constructor
  case rawFrame => rw [hfdef, hraw]
  case gpsWeek => exact hweek
  case roll => exact hmeasures.roll.trans (hf.roll ▸ angle_exact _)
  case pitch => exact hmeasures.pitch.trans (hf.pitch ▸ angle_exact _)
  case yaw => exact hmeasures.yaw.trans (hf.yaw ▸ angle_exact _)
  case gyro =>
    refine hmeasures.gyro.trans ?_
    rw [← hf.gyroX, ← hf.gyroY, ← hf.gyroZ, ← gyro_exact, ← gyro_exact, ← gyro_exact]
  case accel =>
    refine hmeasures.accel.trans ?_
    rw [← hf.accelX, ← hf.accelY, ← hf.accelZ, ← accel_exact, ← accel_exact, ← accel_exact]
  case latitude => exact hmeasures.latitude.trans (hf.latitude ▸ degrees_exact _)
  case longitude => exact hmeasures.longitude.trans (hf.longitude ▸ degrees_exact _)
  case altitude => exact hmeasures.altitude.trans (hf.altitude ▸ metres_exact _)
  case northVelocity =>
    exact hmeasures.northVelocity.trans (hf.northVelocity ▸ velocity_exact _)
  case eastVelocity => exact hmeasures.eastVelocity.trans (hf.eastVelocity ▸ velocity_exact _)
  case groundVelocity =>
    exact hmeasures.groundVelocity.trans (hf.groundVelocity ▸ velocity_exact _)
  case insStatus =>
    rw [hmeasures.insStatus, ← hf.insStatus]
    exact lowNibble_toNat _
  case gpsTimeMs =>
    rw [hmeasures.gpsTimeMs, hf.counter, milliseconds_exact, UInt32.toNat_div]
    rfl
  case positionStd => exact hf.readStd ▸ hf.group .positionStd rfl s
  case velocityStd => exact hf.readStd ▸ hf.group .velocityStd rfl s
  case attitudeStd => exact hf.readStdDeg ▸ hf.group .attitudeStd rfl s
  case temperature =>
    have hg := hf.group .temperature rfl s
    rw [← hf.data1, ← temperature_exact]
    exact hg
  case positionStatus =>
    have hg := hf.group .positionStatus rfl s
    split at hg
    · rename_i hs
      obtain ⟨hfields, hflag⟩ := Prod.mk.inj hg
      obtain ⟨h1, h2⟩ := Prod.mk.inj hfields
      obtain ⟨h2, h3⟩ := Prod.mk.inj h2
      rw [if_pos hs, ← hf.data1, ← hf.data2, ← hf.data3, ← lowByte_toNat, ← lowByte_toNat,
        ← lowByte_toNat]
      exact ⟨by rw [h1], by rw [h2], by rw [h3], hflag⟩
    · rename_i hs
      rw [if_neg hs]
      exact hg
  case wheelSpeedStatus =>
    have hg := hf.group .wheelSpeedStatus rfl s
    split at hg
    · rename_i hs
      obtain ⟨hfields, hflag⟩ := Prod.mk.inj hg
      rw [if_pos hs, ← hf.data2, ← lowByte_toNat]
      exact ⟨congrArg (fun b : UInt8 => (b.toNat : ℤ)) hfields, hflag⟩
    · rename_i hs
      rw [if_neg hs]
      exact hg

/-- Feeding the frame of a packet to a parser with an empty buffer returns exactly the sample that
the packet stands for, whatever the parser's state was. -/
theorem feed_packet (p : Packet) (week : Option UInt32) (s : INSData Exact) :
    ∃ d, (⟨[], s⟩ : ASENSINGParser Exact).feed (p.frame week) = (⟨[], d⟩, [d]) ∧ p.Means week s d :=
  ⟨_, feed_frame s (p.validFrame_frame week), decode_frame p week s⟩

end AsensingDriver
