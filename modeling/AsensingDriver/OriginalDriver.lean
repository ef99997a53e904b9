import AsensingDriver.Persistence
import AsensingDriver.Lib.Incremental

/-! The original driver, a ROS 1 node.  It decides nothing about a packet before it has 63 bytes,
and then it always removes 58.  `receiveAll_reads` says that its messages depend on the bytes that
it has read, and not on how they arrive. -/

namespace AsensingDriver

open Incremental

namespace Original

section Driver

variable {F : Type} [Double F]

/-- A message of the original driver. -/
structure ASENSING (F : Type) where
  latitude : F
  longitude : F
  altitude : F
  northVelocity : F
  eastVelocity : F
  groundVelocity : F
  roll : F
  pitch : F
  azimuth : F
  xAngularVelocity : F
  yAngularVelocity : F
  zAngularVelocity : F
  xAcc : F
  yAcc : F
  zAcc : F
  latitudeStd : F
  longitudeStd : F
  altitudeStd : F
  northVelocityStd : F
  eastVelocityStd : F
  groundVelocityStd : F
  rollStd : F
  pitchStd : F
  azimuthStd : F
  insStatus : UInt32
  positionType : UInt32
  secOfWeek : F
  gpsWeekNumber : F
  temperature : F
  wheelSpeedStatus : UInt32
  headingType : UInt32
  numsv : UInt32

/-- The variables that keep their values from one packet to the next.  The program does not
initialise them. -/
structure Locals (F : Type) where
  gpswf : F
  latstd : F
  lonstd : F
  hstd : F
  vnstd : F
  vestd : F
  vdstd : F
  pitchstd : F
  yawstd : F
  rollstd : F
  temperature : F
  wheelSpeedStatus : F
  numsv : F
  positionType : F
  headingType : F

/-- `exp(x / 100)` for a `float`. -/
def stdf (x : Int16) : F := Double.toFloat (Double.exp (Double.toFloat (Double.ofInt16 x / 100.0)))

/-- The switch over `pdata_type`. -/
def readData (input : List UInt8) (v : Locals F) : Locals F :=
  let data1 := i16 input 46
  let data2 := i16 input 48
  let data3 := i16 input 50
  match byte input 56 with
  | 0 => { v with latstd := stdf data1, lonstd := stdf data2, hstd := stdf data3 }
  | 1 => { v with vnstd := stdf data1, vestd := stdf data2, vdstd := stdf data3 }
  | 2 => { v with rollstd := stdf data1, pitchstd := stdf data2, yawstd := stdf data3 }
  | 22 => { v with temperature := Double.toFloat (Double.ofInt16 data1 * 200.0 / 32768.0) }
  | 32 => { v with
      positionType := Double.ofInt16 data1
      numsv := Double.ofInt16 data2
      headingType := Double.ofInt16 data3 }
  | 33 => { v with wheelSpeedStatus := Double.ofInt16 data2 }
  | _ => v

/-- The GPS week, of which a `short` keeps 16 bits. -/
def readWeek (input : List UInt8) (v : Locals F) : Locals F :=
  if xorOk input kExtendedLength then
    { v with gpswf := Double.ofInt16 (u32 input 58).toUInt16.toInt16 }
  else v

def makeMessage (input : List UInt8) (v : Locals F) : ASENSING F where
  latitude := Double.ofInt32 (i32 input 21) * 1e-7
  longitude := Double.ofInt32 (i32 input 25) * 1e-7
  altitude := Double.ofInt32 (i32 input 29) * 1e-3
  northVelocity := Double.toFloat (Double.ofInt16 (i16 input 33) * (100.0 / 32768.0))
  eastVelocity := Double.toFloat (Double.ofInt16 (i16 input 35) * (100.0 / 32768.0))
  groundVelocity := Double.toFloat (Double.ofInt16 (i16 input 37) * (100.0 / 32768.0))
  roll := Double.toFloat (Double.ofInt16 (i16 input 3) * (360.0 / 32768.0))
  pitch := Double.toFloat (Double.ofInt16 (i16 input 5) * (360.0 / 32768.0))
  azimuth := Double.toFloat (Double.ofInt16 (i16 input 7) * (360.0 / 32768.0))
  xAngularVelocity := Double.toFloat (Double.ofInt16 (i16 input 9) * 300.0 / 32768.0)
  yAngularVelocity := Double.toFloat (Double.ofInt16 (i16 input 11) * 300.0 / 32768.0)
  zAngularVelocity := Double.toFloat (Double.ofInt16 (i16 input 13) * 300.0 / 32768.0)
  xAcc := Double.toFloat (Double.ofInt16 (i16 input 15) * 12.0 / 32768.0)
  yAcc := Double.toFloat (Double.ofInt16 (i16 input 17) * 12.0 / 32768.0)
  zAcc := Double.toFloat (Double.ofInt16 (i16 input 19) * 12.0 / 32768.0)
  latitudeStd := v.latstd
  longitudeStd := v.lonstd
  altitudeStd := v.hstd
  northVelocityStd := v.vnstd
  eastVelocityStd := v.vestd
  groundVelocityStd := v.vdstd
  rollStd := v.rollstd
  pitchStd := v.pitchstd
  azimuthStd := v.yawstd
  insStatus := Double.toUInt32 (Double.ofNat (byte input 39 &&& 0x0f).toNat : F)
  positionType := Double.toUInt32 v.positionType
  secOfWeek := Double.ofUInt32 (u32 input 52) * 0.25
  gpsWeekNumber := v.gpswf
  temperature := v.temperature
  wheelSpeedStatus := Double.toUInt32 v.wheelSpeedStatus
  headingType := Double.toUInt32 v.headingType
  numsv := Double.toUInt32 v.numsv

/-- The variables after the packet at the front of `input`. -/
def process (v : Locals F) (input : List UInt8) : Locals F := readWeek input (readData input v)

structure INS (F : Type) where
  input : List UInt8
  locals : Locals F

namespace INS

/-- The loop over the input, with the messages that it publishes.  Each iteration that does not
leave the loop erases a byte or more, so a count of iterations from the length of the input on
suffices. -/
def loop : Nat → INS F → INS F × List (ASENSING F)
  | 0, node => (node, [])
  | iterations + 1, node =>
    if node.input.length < 3 then (node, [])
    else if headerOk node.input then
      if node.input.length < kExtendedLength then (node, [])
      else if xorOk node.input kMainLength then
        let v := process node.locals node.input
        let (last, messages) := loop iterations ⟨node.input.drop kMainLength, v⟩
        (last, makeMessage node.input v :: messages)
      else loop iterations { node with input := node.input.drop kMainLength }
    else loop iterations { node with input := node.input.drop 1 }

/-- What happens when the serial port has given `read`. -/
def receive (node : INS F) (read : List UInt8) : INS F × List (ASENSING F) :=
  let node := { node with input := node.input ++ read }
  node.loop node.input.length

/-- Consecutive reads, with all messages published. -/
def receiveAll (node : INS F) : List (List UInt8) → INS F × List (ASENSING F)
  | [] => (node, [])
  | read :: reads =>
    let (node, messages) := node.receive read
    let (last, more) := node.receiveAll reads
    (last, messages ++ more)

end INS

/-- What `pdata_type` does from the variables `v` to `v'`: each group is set when it is the one that
is named, and kept otherwise. -/
structure DataStep (input : List UInt8) (v v' : Locals F) : Prop where
  positionStd : (v'.latstd, v'.lonstd, v'.hstd) =
    if selects 0 input then (stdf (i16 input 46), stdf (i16 input 48), stdf (i16 input 50))
    else (v.latstd, v.lonstd, v.hstd)
  velocityStd : (v'.vnstd, v'.vestd, v'.vdstd) =
    if selects 1 input then (stdf (i16 input 46), stdf (i16 input 48), stdf (i16 input 50))
    else (v.vnstd, v.vestd, v.vdstd)
  attitudeStd : (v'.rollstd, v'.pitchstd, v'.yawstd) =
    if selects 2 input then (stdf (i16 input 46), stdf (i16 input 48), stdf (i16 input 50))
    else (v.rollstd, v.pitchstd, v.yawstd)
  temperature : v'.temperature =
    if selects 22 input then Double.toFloat (Double.ofInt16 (i16 input 46) * 200.0 / 32768.0)
    else v.temperature
  positionStatus : (v'.positionType, v'.numsv, v'.headingType) =
    if selects 32 input then
      (Double.ofInt16 (i16 input 46), Double.ofInt16 (i16 input 48), Double.ofInt16 (i16 input 50))
    else (v.positionType, v.numsv, v.headingType)
  wheelSpeedStatus : v'.wheelSpeedStatus =
    if selects 33 input then Double.ofInt16 (i16 input 48) else v.wheelSpeedStatus

theorem readData_step (input : List UInt8) (v : Locals F) :
    DataStep input v (readData input v) := by
  have hselects (n : UInt8) : selects n input = (byte input 56 == n) := rfl
  unfold readData
  constructor
  all_goals
    rw [hselects]
    generalize byte input 56 = n
    dsimp only
    -- Each known type decides the test, and any other type sets no group.
    split <;> first | rfl | rw [if_neg (by simpa using ‹_›)]

theorem process_step (v : Locals F) (input : List UInt8) : DataStep input v (process v input) := by
  have h := readData_step input v
  unfold process readWeek
  split
  · exact ⟨h.positionStd, h.velocityStd, h.attitudeStd, h.temperature, h.positionStatus,
      h.wheelSpeedStatus⟩
  · exact h

theorem process_gpswf (v : Locals F) (input : List UInt8) : (process v input).gpswf =
    if xorOk input kExtendedLength then Double.ofInt16 (u32 input 58).toUInt16.toInt16
    else v.gpswf := by
  unfold process readWeek readData
  split
  · rfl
  · dsimp only
    split <;> rfl

/-! ### The packets that it reads -/

/-- What the loop does at the front of its input.  It puts out the 63 bytes from which it makes a
message. -/
def next (b : List UInt8) : Option (Nat × Option (List UInt8)) :=
  if b.length < 3 then none
  else if headerOk b then
    if b.length < kExtendedLength then none
    else some (kMainLength, if xorOk b kMainLength then some (b.take kExtendedLength) else none)
  else some (1, none)

theorem next_append {b : List UInt8} {r : Nat × Option (List UInt8)} (x : List UInt8)
    (h : next b = some r) : next (b ++ x) = some r := by
  unfold next at h ⊢
  split at h
  · cases h
  rename_i hshort
  rw [if_neg (by rw [List.length_append]; omega), headerOk_append x (by omega)]
  split at h
  · rename_i hheader
    rw [if_pos hheader]
    split at h
    · cases h
    rename_i hlong
    have hlength : kExtendedLength ≤ b.length := not_lt.mp hlong
    have hmain : kMainLength ≤ b.length := Nat.le_trans (by decide) hlength
    rw [if_neg (by rw [List.length_append]; omega), xorOk_append x (by decide) hmain,
      List.take_append_of_le_length hlength]
    exact h
  · rename_i hheader
    rw [if_neg hheader]
    exact h

theorem next_bounds {b : List UInt8} {n : Nat} {o : Option (List UInt8)}
    (h : next b = some (n, o)) : 0 < n ∧ n ≤ b.length := by
  unfold next kExtendedLength kMainLength at h
  split at h
  · cases h
  split at h
  · split at h
    · cases h
    · obtain ⟨rfl, -⟩ := Prod.mk.inj (Option.some.inj h)
      omega
  · obtain ⟨rfl, -⟩ := Prod.mk.inj (Option.some.inj h)
    omega

def reader : Reader UInt8 (List UInt8) where
  next := next
  bounds := next_bounds
  append := next_append

/-- The messages for the packets `ws`, from the variables `v`. -/
def messages (v : Locals F) : List (List UInt8) → List (ASENSING F)
  | [] => []
  | w :: ws => makeMessage w (process v w) :: messages (process v w) ws

theorem messages_append (v : Locals F) (ws ws' : List (List UInt8)) :
    messages v (ws ++ ws') = messages v ws ++ messages (ws.foldl process v) ws' := by
  induction ws generalizing v with
  | nil => rfl
  | cons w ws ih => rw [List.cons_append, messages, messages, ih]; rfl

theorem length_messages (v : Locals F) (ws : List (List UInt8)) :
    (messages v ws).length = ws.length := by
  induction ws generalizing v with
  | nil => rfl
  | cons w ws ih => rw [messages, List.length_cons, List.length_cons, ih]

/-- A packet is decoded from its 63 bytes. -/
theorem process_take (v : Locals F) (b : List UInt8) :
    process v (b.take kExtendedLength) = process v b := by
  simp (disch := decide) only [process, readWeek, readData, xorOk_take, u32_take, i16_take,
    byte_take]

theorem makeMessage_take (v : Locals F) (b : List UInt8) :
    makeMessage (b.take kExtendedLength) v = makeMessage b v := by
  simp (disch := decide) only [makeMessage, i16_take, i32_take, u32_take, byte_take]

/-- The node has read the packets `ws`. -/
structure Processed (node : INS F) (ws : List (List UInt8)) (r : INS F × List (ASENSING F)) :
    Prop where
  messages : r.2 = messages node.locals ws
  locals : r.1.locals = ws.foldl process node.locals

/-- An iteration of the loop. -/
theorem loop_succ (iterations : Nat) (node : INS F) :
    node.loop (iterations + 1) = match next node.input with
      | none => (node, [])
      | some (n, none) => INS.loop iterations { node with input := node.input.drop n }
      | some (n, some w) =>
        let r := INS.loop iterations ⟨node.input.drop n, process node.locals w⟩
        (r.1, makeMessage w (process node.locals w) :: r.2) := by
  rw [INS.loop, next]
  by_cases hshort : node.input.length < 3
  · rw [if_pos hshort, if_pos hshort]
  rw [if_neg hshort, if_neg hshort]
  by_cases hheader : headerOk node.input
  · rw [if_pos hheader, if_pos hheader]
    by_cases hlong : node.input.length < kExtendedLength
    · rw [if_pos hlong, if_pos hlong]
    rw [if_neg hlong, if_neg hlong]
    by_cases hmain : xorOk node.input kMainLength
    · rw [if_pos hmain, if_pos hmain]
      dsimp only
      rw [process_take, makeMessage_take]
    · rw [if_neg hmain, if_neg hmain]
  · rw [if_neg hheader, if_neg hheader]

/-- The loop follows the reader until it waits. -/
theorem loop_reads (iterations : Nat) (node : INS F) (h : node.input.length ≤ iterations) :
    ∃ ws, Reads reader node.input ws (node.loop iterations).1.input ∧
      Processed node ws (node.loop iterations) := by
  induction iterations generalizing node with
  | zero =>
    have hnil : node.input = [] := List.length_eq_zero_iff.mp (Nat.le_zero.mp h)
    exact ⟨[], .wait (by rw [hnil]; rfl), rfl, rfl⟩
  | succ iterations ih =>
    rw [loop_succ]
    cases hnext : next node.input with
    | none => exact ⟨[], .wait hnext, rfl, rfl⟩
    | some r =>
      obtain ⟨n, o⟩ := r
      have hbounds := next_bounds hnext
      have hdrop : (node.input.drop n).length ≤ iterations := by
        rw [List.length_drop]
        omega
      cases o with
      | none =>
        obtain ⟨ws, hreads, hprocessed⟩ := ih { node with input := node.input.drop n } hdrop
        exact ⟨ws, .step (o := none) hnext hreads, hprocessed.messages, hprocessed.locals⟩
      | some w =>
        obtain ⟨ws, hreads, hprocessed⟩ :=
          ih ⟨node.input.drop n, process node.locals w⟩ hdrop
        refine ⟨w :: ws, .step (o := some w) hnext hreads, ?_, hprocessed.locals⟩
        exact congrArg (makeMessage w (process node.locals w) :: ·) hprocessed.messages

theorem receiveAll_feeds (node : INS F) (reads : List (List UInt8)) :
    ∃ ws, Feeds reader node.input reads ws (node.receiveAll reads).1.input ∧
      Processed node ws (node.receiveAll reads) := by
  induction reads generalizing node with
  | nil => exact ⟨[], .done, rfl, rfl⟩
  | cons read reads ih =>
    obtain ⟨ws, hreads, hprocessed⟩ :=
      loop_reads (node.input ++ read).length { node with input := node.input ++ read } le_rfl
    obtain ⟨ws', hfeeds, hrest⟩ := ih (node.receive read).1
    have hlocals : (node.receive read).1.locals = ws.foldl process node.locals := hprocessed.locals
    refine ⟨ws ++ ws', .call hreads hfeeds, ?_, ?_⟩
    · rw [messages_append, ← hlocals, ← hrest.messages]
      exact congrArg (· ++ _) hprocessed.messages
    · rw [List.foldl_append, ← hlocals, ← hrest.locals]
      rfl

/-- What the node publishes depends on all bytes that it has read, and not on how they arrive. -/
theorem receiveAll_reads (v : Locals F) (reads : List (List UInt8)) :
    ∃ ws rest, Reads reader reads.flatten ws rest ∧
      (INS.receiveAll ⟨[], v⟩ reads).2 = messages v ws := by
  obtain ⟨ws, hfeeds, hprocessed⟩ := receiveAll_feeds ⟨[], v⟩ reads
  exact ⟨ws, _, hfeeds.reads rfl, hprocessed.messages⟩

end Driver

end Original

end AsensingDriver
