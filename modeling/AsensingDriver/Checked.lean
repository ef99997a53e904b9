import AsensingDriver.Framing

/-! `feed` with checks.  Here a read, an erase or an assignment outside the bytes of the buffer is a
fault, and so is a loop that needs more iterations than it is given.  `feed_checked` says that no
call of `feed` has a fault, and that a checked call does what the unchecked one does. -/

namespace AsensingDriver.Checked

inductive Fault
  | outOfRange
  | outOfIterations
deriving DecidableEq

/-- `b[i]`. -/
def byte (b : List UInt8) (i : Nat) : Except Fault UInt8 :=
  match b[i]? with
  | some x => .ok x
  | none => .error .outOfRange

def u16 (b : List UInt8) (i : Nat) : Except Fault UInt16 := do
  let low ← byte b i
  let high ← byte b (i + 1)
  return low.toUInt16 ||| (high.toUInt16 <<< 8)

def i16 (b : List UInt8) (i : Nat) : Except Fault Int16 := do
  let x ← u16 b i
  return x.toInt16

def i32 (b : List UInt8) (i : Nat) : Except Fault Int32 := do
  let b0 ← byte b i
  let b1 ← byte b (i + 1)
  let b2 ← byte b (i + 2)
  let b3 ← byte b (i + 3)
  return (b0.toUInt32 ||| (b1.toUInt32 <<< 8) ||| (b2.toUInt32 <<< 16) |||
    (b3.toUInt32 <<< 24)).toInt32

def u32 (b : List UInt8) (i : Nat) : Except Fault UInt32 := do
  let x ← i32 b i
  return x.toUInt32

/-- The XOR of the first `n` bytes, one after the other. -/
def checksum (b : List UInt8) : Nat → Except Fault UInt8
  | 0 => .ok 0
  | n + 1 => do
    let before ← checksum b n
    let x ← byte b n
    return before ^^^ x

def xorOk (b : List UInt8) (length : Nat) : Except Fault Bool := do
  let x ← checksum b (length - 1)
  let last ← byte b (length - 1)
  return x == last

/-- `b.erase(b.begin(), b.begin() + n)`. -/
def erase (b : List UInt8) (n : Nat) : Except Fault (List UInt8) :=
  if n ≤ b.length then .ok (b.drop n) else .error .outOfRange

/-- The bytes that `assign(b.begin(), b.begin() + n)` copies. -/
def assign (b : List UInt8) (n : Nat) : Except Fault (List UInt8) :=
  if n ≤ b.length then .ok (b.take n) else .error .outOfRange

/-- The first three bytes are the header.  A byte is read if those before it match. -/
def headerOk (b : List UInt8) : Except Fault Bool := do
  let b0 ← byte b 0
  if b0 != AsensingDriver.byte kHeader 0 then return false
  else
    let b1 ← byte b 1
    if b1 != AsensingDriver.byte kHeader 1 then return false
    else
      let b2 ← byte b 2
      return b2 == AsensingDriver.byte kHeader 2

/-- Bytes 58 to 62 are read if the buffer has them. -/
def hasExtendedFrame (b : List UInt8) : Except Fault Bool :=
  if b.length ≥ kExtendedLength then xorOk b kExtendedLength else .ok false

section Decode

variable {F : Type} [Double F]

/-- The axes of a vector, each from its own read. -/
def ofLoop (read : Nat → Except Fault F) : Except Fault (Vector3d F) := do
  let x ← read 0
  let y ← read 1
  let z ← read 2
  return ⟨x, y, z⟩

def readMain (b : List UInt8) (d : INSData F) : Except Fault (INSData F) := do
  let roll ← i16 b 3
  let pitch ← i16 b 5
  let yaw ← i16 b 7
  let gyro ← ofLoop fun n => do
    let x ← i16 b (9 + n * 2)
    return Double.ofInt16 x * 300.0 / 32768.0 * Double.pi / 180.0
  let accel ← ofLoop fun n => do
    let x ← i16 b (15 + n * 2)
    return Double.ofInt16 x * 12.0 / 32768.0 * 9.80665
  let latitude ← i32 b 21
  let longitude ← i32 b 25
  let altitude ← i32 b 29
  let northVelocity ← i16 b 33
  let eastVelocity ← i16 b 35
  let groundVelocity ← i16 b 37
  let insStatus ← byte b 39
  return { d with
    roll := Double.ofInt16 roll * (360.0 / 32768.0) * Double.pi / 180.0
    pitch := Double.ofInt16 pitch * (360.0 / 32768.0) * Double.pi / 180.0
    yaw := Double.ofInt16 yaw * (360.0 / 32768.0) * Double.pi / 180.0
    gyro
    accel
    latitude := Double.ofInt32 latitude * 1e-7
    longitude := Double.ofInt32 longitude * 1e-7
    altitude := Double.ofInt32 altitude * 1e-3
    northVelocity := Double.ofInt16 northVelocity * 100.0 / 32768.0
    eastVelocity := Double.ofInt16 eastVelocity * 100.0 / 32768.0
    groundVelocity := Double.ofInt16 groundVelocity * 100.0 / 32768.0
    insStatus := insStatus &&& 0x0f }

def readSelector (b : List UInt8) (d : INSData F) : Except Fault (INSData F) := do
  let data1 ← i16 b 46
  let data2 ← i16 b 48
  let data3 ← i16 b 50
  let selector ← byte b 56
  return match selector with
    | 0 => { d with
        latitudeStd := value data1
        longitudeStd := value data2
        altitudeStd := value data3
        hasPositionStd := true }
    | 1 => { d with
        northVelocityStd := value data1
        eastVelocityStd := value data2
        groundVelocityStd := value data3
        hasVelocityStd := true }
    | 2 => { d with
        rollStd := value data1 * Double.pi / 180.0
        pitchStd := value data2 * Double.pi / 180.0
        yawStd := value data3 * Double.pi / 180.0
        hasAttitudeStd := true }
    | 22 => { d with
        temperature := Double.toFloat (Double.ofInt16 data1 * 200.0 / 32768.0)
        hasTemperature := true }
    | 32 => { d with
        positionType := data1.toUInt16.toUInt8
        numSv := data2.toUInt16.toUInt8
        headingType := data3.toUInt16.toUInt8
        hasPositionStatus := true }
    | 33 => { d with
        wheelSpeedStatus := data2.toUInt16.toUInt8
        hasWheelSpeedStatus := true }
    | _ => d

/-- The sample of the packet at the front of `b`, with the bytes after the packet. -/
def decode (state : INSData F) (b : List UInt8) : Except Fault (INSData F × List UInt8) := do
  let extended ← hasExtendedFrame b
  let frameLength := if extended then kExtendedLength else kMainLength
  let rawFrame ← assign b frameLength
  let d ← readMain b { state with rawFrame }
  let d ← readSelector b d
  let time ← u32 b 52
  let d := { d with gpsTimeMs := Double.toUInt32 (Double.ofUInt32 time * 0.25 : F) }
  if extended then
    let gpsWeek ← u32 b 58
    let rest ← erase b kExtendedLength
    return ({ d with gpsWeek, hasGpsWeek := true }, rest)
  else
    let rest ← erase b kMainLength
    return (d, rest)

/-- How an iteration of the loop ends. -/
inductive Iteration (F : Type)
  | leave
  | skip (rest : List UInt8)
  | push (d : INSData F) (rest : List UInt8)

/-- One iteration of the loop, on a buffer of three bytes or more. -/
def iteration (p : ASENSINGParser F) : Except Fault (Iteration F) := do
  let header ← headerOk p.buffer
  if !header then
    let rest ← erase p.buffer 1
    return .skip rest
  else if p.buffer.length < kMainLength then return .leave
  else
    let main ← xorOk p.buffer kMainLength
    if !main then
      let rest ← erase p.buffer 1
      return .skip rest
    else
      let (d, rest) ← decode p.state p.buffer
      return .push d rest

/-- The loop of `feed`, with at most `iterations` iterations. -/
def loop (iterations : Nat) (p : ASENSINGParser F) :
    Except Fault (ASENSINGParser F × List (INSData F)) :=
  if p.buffer.length < 3 then .ok (p, [])
  else
    match iterations with
    | 0 => .error .outOfIterations
    | iterations + 1 => do
      match ← iteration p with
      | .leave => return (p, [])
      | .skip rest => loop iterations { p with buffer := rest }
      | .push d rest =>
        let (q, result) ← loop iterations ⟨rest, d⟩
        return (q, d :: result)

def feed (iterations : Nat) (p : ASENSINGParser F) (data : List UInt8) :
    Except Fault (ASENSINGParser F × List (INSData F)) :=
  if data.length = 0 then .ok (p, [])
  else loop iterations { p with buffer := p.buffer ++ data }

/-! ### No check fails -/

@[simp] theorem ok_bind {α β : Type} (a : α) (f : α → Except Fault β) :
    (Except.ok a >>= f) = f a := rfl

@[simp] theorem pure_eq_ok {α : Type} (a : α) : (pure a : Except Fault α) = .ok a := rfl

section Reads

variable {b : List UInt8} {i n : Nat}

theorem byte_eq (h : i < b.length) : byte b i = .ok (AsensingDriver.byte b i) := by
  rw [byte, AsensingDriver.byte, List.getElem?_eq_getElem h, ← List.getElem_eq_getD (h := h)]

theorem u16_eq (h : i + 1 < b.length) : u16 b i = .ok (AsensingDriver.u16 b i) := by
  rw [u16, byte_eq (Nat.lt_of_succ_lt h), byte_eq h]
  rfl

theorem i16_eq (h : i + 1 < b.length) : i16 b i = .ok (AsensingDriver.i16 b i) := by
  rw [i16, u16_eq h]
  rfl

theorem i32_eq (h : i + 3 < b.length) : i32 b i = .ok (AsensingDriver.i32 b i) := by
  rw [i32, byte_eq (by omega), byte_eq (by omega), byte_eq (by omega), byte_eq h]
  rfl

theorem u32_eq (h : i + 3 < b.length) : u32 b i = .ok (AsensingDriver.u32 b i) := by
  rw [u32, i32_eq h]
  rfl

theorem checksum_eq (h : n ≤ b.length) :
    checksum b n = .ok ((b.take n).foldl (· ^^^ ·) 0) := by
  induction n with
  | zero => rfl
  | succ n ih =>
    have hlast : b.take (n + 1) = b.take n ++ [AsensingDriver.byte b n] := by
      rw [AsensingDriver.byte, ← List.getElem_eq_getD (h := h), List.take_append_getElem]
    rw [checksum, ih (Nat.le_of_succ_le h), byte_eq h, hlast, List.foldl_append]
    rfl

/-- The checksum of a packet that the buffer has is computed inside the buffer. -/
theorem xorOk_eq (hn : 0 < n) (h : n ≤ b.length) : xorOk b n = .ok (AsensingDriver.xorOk b n) := by
  rw [xorOk, checksum_eq (by omega), byte_eq (by omega)]
  rfl

-- The test of the length is needed.
example : xorOk kHeader kMainLength = .error .outOfRange := by decide

theorem erase_eq (h : n ≤ b.length) : erase b n = .ok (b.drop n) := if_pos h

theorem assign_eq (h : n ≤ b.length) : assign b n = .ok (b.take n) := if_pos h

theorem headerOk_eq (h : 3 ≤ b.length) : headerOk b = .ok (AsensingDriver.headerOk b) := by
  rw [headerOk, byte_eq (by omega), byte_eq (by omega), byte_eq (by omega),
    AsensingDriver.headerOk]
  by_cases h0 : AsensingDriver.byte b 0 = AsensingDriver.byte kHeader 0
  · by_cases h1 : AsensingDriver.byte b 1 = AsensingDriver.byte kHeader 1
    · simp [h0, h1]
    · simp [h0, h1]
  · simp [h0]

/-- Whatever its length, a buffer is read only where it has bytes. -/
theorem hasExtendedFrame_eq (b : List UInt8) :
    hasExtendedFrame b = .ok (AsensingDriver.hasExtendedFrame b) := by
  unfold hasExtendedFrame AsensingDriver.hasExtendedFrame
  split
  · rename_i h
    rw [xorOk_eq (by decide) h, decide_eq_true h, Bool.true_and]
  · rename_i h
    rw [decide_eq_false h, Bool.false_and]

end Reads

section Packet

variable {b : List UInt8} (d : INSData F)

theorem readMain_eq (h : kMainLength ≤ b.length) :
    readMain b d = .ok (AsensingDriver.readMain b d) := by
  have hlength : 58 ≤ b.length := h
  unfold readMain ofLoop
  simp (disch := omega) only [i16_eq, i32_eq, byte_eq, ok_bind]
  rfl

theorem readSelector_eq (h : kMainLength ≤ b.length) :
    readSelector b d = .ok (AsensingDriver.readSelector b d) := by
  have hlength : 58 ≤ b.length := h
  unfold readSelector
  simp (disch := omega) only [i16_eq, byte_eq, ok_bind]
  rfl

/-- The sample of a packet whose bytes are there is decoded inside the buffer. -/
theorem decode_eq (h : kMainLength ≤ b.length) :
    decode d b = .ok (AsensingDriver.decode d b, b.drop (frameLength b)) := by
  have hlength : 58 ≤ b.length := h
  have hframe := frameLength_le_length h
  rw [decode, hasExtendedFrame_eq, ok_bind]
  show (assign b (frameLength b) >>= _) = _
  rw [assign_eq hframe, ok_bind, readMain_eq _ h, ok_bind, readSelector_eq _ h, ok_bind,
    u32_eq (by omega), ok_bind, AsensingDriver.decode, readWeek]
  cases hextended : AsensingDriver.hasExtendedFrame b with
  | false =>
    have hmain : frameLength b = kMainLength :=
      frameLength_of_not_extended (Bool.eq_false_iff.mp hextended)
    simp only [Bool.false_eq_true, if_false]
    rw [erase_eq h, ok_bind, hmain]
    rfl
  | true =>
    rw [frameLength_of_extended hextended] at hframe ⊢
    have hlong : 63 ≤ b.length := hframe
    simp only [if_true]
    rw [u32_eq (by omega), ok_bind, erase_eq hframe]
    rfl

end Packet

/-! ### The loop -/

section Loop

/-- What an iteration does, in the words of the unchecked loop. -/
theorem iteration_eq (p : ASENSINGParser F) (h : 3 ≤ p.buffer.length) :
    iteration p = .ok (
      if !AsensingDriver.headerOk p.buffer then .skip (p.buffer.drop 1)
      else if p.buffer.length < kMainLength then .leave
      else if !AsensingDriver.xorOk p.buffer kMainLength then .skip (p.buffer.drop 1)
      else .push (AsensingDriver.decode p.state p.buffer)
        (p.buffer.drop (frameLength p.buffer))) := by
  rw [iteration, headerOk_eq h, ok_bind]
  split
  · rw [erase_eq (by omega)]
    rfl
  split
  · rfl
  · rename_i hmain
    have hlength : kMainLength ≤ p.buffer.length := Nat.not_lt.mp hmain
    rw [xorOk_eq (by decide) hlength, ok_bind]
    split
    · rw [erase_eq (by omega)]
      rfl
    · rw [decode_eq p.state hlength]
      rfl

/-- Each iteration erases a byte or more unless it leaves the loop. -/
theorem loop_eq (iterations : Nat) (p : ASENSINGParser F) (h : p.buffer.length ≤ iterations) :
    loop iterations p = .ok (p.loop iterations) := by
  induction iterations generalizing p with
  | zero =>
    have hshort : p.buffer.length < 3 := by omega
    rw [loop, if_pos hshort]
    rfl
  | succ iterations ih =>
    rw [loop, ASENSINGParser.loop]
    by_cases hshort : p.buffer.length < 3
    · rw [if_pos hshort, if_pos hshort]
    rw [if_neg hshort, if_neg hshort]
    have hskip : (p.buffer.drop 1).length ≤ iterations := by
      rw [List.length_drop]
      omega
    have hpush : (p.buffer.drop (frameLength p.buffer)).length ≤ iterations := by
      have hframe : 58 ≤ frameLength p.buffer := mainLength_le_frameLength p.buffer
      rw [List.length_drop]
      omega
    dsimp only
    rw [iteration_eq p (Nat.not_lt.mp hshort), ok_bind]
    split_ifs
    · exact ih { p with buffer := p.buffer.drop 1 } hskip
    · rfl
    · exact ih { p with buffer := p.buffer.drop 1 } hskip
    · show (loop iterations ⟨_, _⟩ >>= _) = _
      rw [ih ⟨_, _⟩ hpush]
      rfl

/-- No call of `feed` reads or erases outside its buffer, and its loop ends after one iteration for
each byte or earlier, whatever the parser holds and whatever it is fed. -/
theorem feed_checked (p : ASENSINGParser F) (data : List UInt8) :
    feed (p.buffer.length + data.length) p data = .ok (p.feed data) := by
  unfold feed ASENSINGParser.feed
  split
  · rfl
  · rw [← List.length_append]
    exact loop_eq _ { p with buffer := p.buffer ++ data } (Nat.le_refl _)

end Loop

end Decode

end AsensingDriver.Checked
