import AsensingDriver.INSData

/-! `ASENSINGParser`: the decoder of one packet and the loop of `feed` over the buffered bytes.
The two checksums are an XOR over the bytes before them, and a main packet whose next five bytes
complete the longer checksum is taken as an extended packet that carries the GPS week. -/

namespace AsensingDriver

def kMainLength : Nat := 58
def kExtendedLength : Nat := 63
def kHeader : List UInt8 := [0xbd, 0xdb, 0x0b]

/-- `b[i]`. -/
def byte (b : List UInt8) (i : Nat) : UInt8 := b.getD i 0

def u16 (b : List UInt8) (i : Nat) : UInt16 :=
  (byte b i).toUInt16 ||| ((byte b (i + 1)).toUInt16 <<< 8)

def i16 (b : List UInt8) (i : Nat) : Int16 := (u16 b i).toInt16

def i32 (b : List UInt8) (i : Nat) : Int32 :=
  ((byte b i).toUInt32 ||| ((byte b (i + 1)).toUInt32 <<< 8) |||
    ((byte b (i + 2)).toUInt32 <<< 16) ||| ((byte b (i + 3)).toUInt32 <<< 24)).toInt32

def u32 (b : List UInt8) (i : Nat) : UInt32 := (i32 b i).toUInt32

/-- The XOR of the bytes before the last of `length` equals the last. -/
def xorOk (b : List UInt8) (length : Nat) : Bool :=
  (b.take (length - 1)).foldl (· ^^^ ·) 0 == byte b (length - 1)

/-- The first three bytes are the header. -/
def headerOk (b : List UInt8) : Bool :=
  byte b 0 == byte kHeader 0 && byte b 1 == byte kHeader 1 && byte b 2 == byte kHeader 2

section Decode

variable {F : Type} [Double F]

/-- A standard deviation, sent as one hundred times its logarithm. -/
def value (x : Int16) : F := Double.exp (Double.ofInt16 x / 100.0)

/-- The measurements that every packet carries. -/
def readMain (b : List UInt8) (d : INSData F) : INSData F :=
  { d with
    roll := Double.ofInt16 (i16 b 3) * (360.0 / 32768.0) * Double.pi / 180.0
    pitch := Double.ofInt16 (i16 b 5) * (360.0 / 32768.0) * Double.pi / 180.0
    yaw := Double.ofInt16 (i16 b 7) * (360.0 / 32768.0) * Double.pi / 180.0
    gyro := .ofLoop fun n =>
      Double.ofInt16 (i16 b (9 + n * 2)) * 300.0 / 32768.0 * Double.pi / 180.0
    accel := .ofLoop fun n =>
      Double.ofInt16 (i16 b (15 + n * 2)) * 12.0 / 32768.0 * 9.80665
    latitude := Double.ofInt32 (i32 b 21) * 1e-7
    longitude := Double.ofInt32 (i32 b 25) * 1e-7
    altitude := Double.ofInt32 (i32 b 29) * 1e-3
    northVelocity := Double.ofInt16 (i16 b 33) * 100.0 / 32768.0
    eastVelocity := Double.ofInt16 (i16 b 35) * 100.0 / 32768.0
    groundVelocity := Double.ofInt16 (i16 b 37) * 100.0 / 32768.0
    insStatus := byte b 39 &&& 0x0f }

/-- The group that the selector, byte 56, names. -/
def readSelector (b : List UInt8) (d : INSData F) : INSData F :=
  let data1 := i16 b 46
  let data2 := i16 b 48
  let data3 := i16 b 50
  match byte b 56 with
  | 0 => { d with
      latitudeStd := value data1
      longitudeStd := value data2
      altitudeStd := value data3
      hasPositionStd := true }
  | 1 => { d with
      northVelocityStd := value data1
      eastVelocityStd := value data2
      groundVelocityStd := value data3
      hasVelocityStd := true }
  | 2 => { d with
      rollStd := value data1 * Double.pi / 180.0
      pitchStd := value data2 * Double.pi / 180.0
      yawStd := value data3 * Double.pi / 180.0
      hasAttitudeStd := true }
  | 22 => { d with
      temperature := Double.toFloat (Double.ofInt16 data1 * 200.0 / 32768.0)
      hasTemperature := true }
  | 32 => { d with
      positionType := data1.toUInt16.toUInt8
      numSv := data2.toUInt16.toUInt8
      headingType := data3.toUInt16.toUInt8
      hasPositionStatus := true }
  | 33 => { d with
      wheelSpeedStatus := data2.toUInt16.toUInt8
      hasWheelSpeedStatus := true }
  | _ => d

/-- Bytes 58 to 62 complete an extended packet. -/
def hasExtendedFrame (b : List UInt8) : Bool :=
  decide (b.length ≥ kExtendedLength) && xorOk b kExtendedLength

def frameLength (b : List UInt8) : Nat :=
  if hasExtendedFrame b then kExtendedLength else kMainLength

/-- The GPS week, which only an extended packet carries. -/
def readWeek (b : List UInt8) (d : INSData F) : INSData F :=
  if hasExtendedFrame b then { d with gpsWeek := u32 b 58, hasGpsWeek := true } else d

/-- The sample of the packet at the front of `b`, over the last complete state. -/
def decode (state : INSData F) (b : List UInt8) : INSData F :=
  let d := { state with rawFrame := b.take (frameLength b) }
  let d := readSelector b (readMain b d)
  -- A counter of quarter milliseconds.
  let d := { d with gpsTimeMs := Double.toUInt32 (Double.ofUInt32 (u32 b 52) * 0.25 : F) }
  readWeek b d

structure ASENSINGParser (F : Type) where
  buffer : List UInt8
  state : INSData F

namespace ASENSINGParser

def fresh : ASENSINGParser F := ⟨[], .initial⟩

/-- The loop of `feed`, with the samples that it pushes.  Each iteration that does not leave the
loop erases a byte or more, so a count of iterations from the length of the buffer on suffices. -/
def loop : Nat → ASENSINGParser F → ASENSINGParser F × List (INSData F)
  | 0, p => (p, [])
  | iterations + 1, p =>
    if p.buffer.length < 3 then (p, [])
    else if !headerOk p.buffer then loop iterations { p with buffer := p.buffer.drop 1 }
    else if p.buffer.length < kMainLength then (p, [])
    else if !xorOk p.buffer kMainLength then loop iterations { p with buffer := p.buffer.drop 1 }
    else
      let d := decode p.state p.buffer
      let (q, result) := loop iterations ⟨p.buffer.drop (frameLength p.buffer), d⟩
      (q, d :: result)

def feed (p : ASENSINGParser F) (data : List UInt8) : ASENSINGParser F × List (INSData F) :=
  if data.length = 0 then (p, [])
  else
    let p := { p with buffer := p.buffer ++ data }
    p.loop p.buffer.length

/-- Consecutive calls of `feed`, with the concatenation of what they return. -/
def feedAll (p : ASENSINGParser F) : List (List UInt8) → ASENSINGParser F × List (INSData F)
  | [] => (p, [])
  | data :: chunks =>
    let (q, result) := p.feed data
    let (r, results) := q.feedAll chunks
    (r, result ++ results)

end ASENSINGParser

end Decode

end AsensingDriver
