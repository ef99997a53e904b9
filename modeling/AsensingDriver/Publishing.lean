import AsensingDriver.Conversions
import AsensingDriver.Persistence
import AsensingDriver.SerialPort

/-! What the driver node publishes.  Every sample becomes seven messages under one stamp, and
`run_published` says that over any run of polls these are the messages of the samples that a fresh
parser decodes from the bytes read, in order.  `run_paced` bounds how many there are, and
`run_replayed` runs a second parser over the raw frames among them. -/

namespace AsensingDriver

open Latest

/-- `geometry_msgs/PoseStamped`. -/
structure PoseStamped (F : Type) where
  header : Header
  position : Vector3d F
  orientation : Quaternion F

/-- `nav_msgs/Odometry`. -/
structure Odometry (F : Type) where
  header : Header
  childFrameId : String
  position : Vector3d F
  orientation : Quaternion F
  poseCovariance : Vector F 36
  linear : Vector3d F
  angular : Vector3d F
  twistCovariance : Vector F 36

/-- A message on one of the driver's topics. -/
inductive Message (F : Type)
  | rawFrame (data : List UInt8)
  | fix (message : NavSatFix F)
  | imu (message : Imu F)
  | pose (message : PoseStamped F)
  | velocity (message : TwistStamped F)
  | odom (message : Odometry F)
  | status (message : INSStatus F)

inductive Topic
  | rawFrame | fix | imu | pose | velocity | odom | status
deriving DecidableEq

def Message.topic {F : Type} : Message F → Topic
  | rawFrame _ => .rawFrame
  | fix _ => .fix
  | imu _ => .imu
  | pose _ => .pose
  | velocity _ => .velocity
  | odom _ => .odom
  | status _ => .status

namespace Message

variable {F : Type}

def rawFrame? : Message F → Option (List UInt8)
  | rawFrame data => some data
  | _ => none

def fix? : Message F → Option (NavSatFix F)
  | fix message => some message
  | _ => none

def imu? : Message F → Option (Imu F)
  | imu message => some message
  | _ => none

def status? : Message F → Option (INSStatus F)
  | status message => some message
  | _ => none

end Message

/-- The parameters of the node, but for those of the port. -/
structure Parameters where
  insFrameId : String
  gnssFrameId : String
  useDeviceOrientationInImu : Bool
  rtkFixedTypes : List Int64

variable {F : Type} [Double F]

def Vector3d.zero : Vector3d F := ⟨0.0, 0.0, 0.0⟩

/-! ### One sample -/

/-- `setRPY` is that of `tf2::Quaternion`. -/
def makePose (setRPY : F → F → F → Quaternion F) (d : INSData F) (stamp : Time)
    (insFrameId : String) : PoseStamped F where
  header := ⟨stamp, insFrameId⟩
  position := .zero
  orientation := setRPY d.roll d.pitch d.yaw

def makeTwist (d : INSData F) (stamp : Time) (insFrameId : String) : TwistStamped F where
  header := ⟨stamp, insFrameId⟩
  linear := ⟨d.northVelocity, d.eastVelocity, d.groundVelocity⟩
  angular := .zero

def makeOdometry (setRPY : F → F → F → Quaternion F) (d : INSData F) (stamp : Time)
    (insFrameId : String) : Odometry F where
  header := ⟨stamp, insFrameId⟩
  childFrameId := insFrameId
  position := .zero
  orientation := setRPY d.roll d.pitch d.yaw
  linear := (makeTwist d stamp insFrameId).linear
  angular := .zero
  poseCovariance :=
    ((((((Vector.replicate 36 0.0).set 0 (d.latitudeStd * d.latitudeStd)).set 7
      (d.longitudeStd * d.longitudeStd)).set 14 (d.altitudeStd * d.altitudeStd)).set 21
      (d.rollStd * d.rollStd)).set 28 (d.pitchStd * d.pitchStd)).set 35 (d.yawStd * d.yawStd)
  twistCovariance :=
    (((Vector.replicate 36 0.0).set 0 (d.northVelocityStd * d.northVelocityStd)).set 7
      (d.eastVelocityStd * d.eastVelocityStd)).set 14 (d.groundVelocityStd * d.groundVelocityStd)

/-- The message of a sample on a topic. -/
def makeMessage (parameters : Parameters) (setRPY : F → F → F → Quaternion F) (d : INSData F)
    (stamp : Time) : Topic → Message F
  | .rawFrame => .rawFrame d.rawFrame
  | .fix => .fix (makeNavSatFix d stamp parameters.gnssFrameId)
  | .imu =>
    .imu (makeImuMessage d stamp parameters.insFrameId parameters.useDeviceOrientationInImu)
  | .pose => .pose (makePose setRPY d stamp parameters.insFrameId)
  | .velocity => .velocity (makeTwist d stamp parameters.insFrameId)
  | .odom => .odom (makeOdometry setRPY d stamp parameters.insFrameId)
  | .status => .status (makeInsStatus d stamp parameters.gnssFrameId parameters.rtkFixedTypes)

/-- The messages of a sample, in the order in which they are published. -/
def publish (parameters : Parameters) (setRPY : F → F → F → Quaternion F) (d : INSData F)
    (stamp : Time) : List (Message F) :=
  [.rawFrame, .fix, .imu, .pose, .velocity, .odom, .status].map
    (makeMessage parameters setRPY d stamp)

/-! ### Polls -/

/-- The node with its clock and what it has published so far.  `now n` is what reading `n` of the
clock returns. -/
structure Driver (F : Type) where
  node : ASENSINGNode F
  readings : Nat
  calls : List SysCall
  published : List (Message F)

section Polls

variable (parameters : Parameters) (setRPY : F → F → F → Quaternion F) (now : Nat → Time)

/-- The messages of consecutive samples, with the readings of the clock from `n` on. -/
def publishAll (n : Nat) (ds : List (INSData F)) : List (Message F) :=
  (ds.zipIdx n).flatMap fun (d, k) => publish parameters setRPY d (now k)

namespace Driver

def start (port : String) (baudrate : Int32) : Driver F := ⟨.start port baudrate, 0, [], []⟩

def poll (driver : Driver F) (os : PollAnswers) : Driver F :=
  let polled := driver.node.poll os
  { node := polled.node
    readings := driver.readings + polled.samples.length
    calls := driver.calls ++ polled.calls
    published := driver.published ++
      publishAll parameters setRPY now driver.readings polled.samples }

def run (port : String) (baudrate : Int32) (answers : List PollAnswers) : Driver F :=
  answers.foldl (poll parameters setRPY now) (start port baudrate)

end Driver

end Polls

/-- The bytes that a call has read. -/
def SysCall.received? : SysCall → Option (List UInt8)
  | .read _ (.bytes data _ _) => some data
  | _ => none

/-- The bytes read by a sequence of calls, one chunk for each read that returned any. -/
def chunks (calls : List SysCall) : List (List UInt8) := calls.filterMap SysCall.received?

/-! ### One poll -/

theorem chunks_append (calls calls' : List SysCall) :
    chunks (calls ++ calls') = chunks calls ++ chunks calls' := by
  simp [chunks]

theorem chunks_of_no_read {calls : List SysCall} (h : ∀ fd answer, .read fd answer ∉ calls) :
    chunks calls = [] := by
  rw [chunks, List.filterMap_eq_nil_iff]
  intro call hcall
  cases call with
  | read fd answer => exact absurd hcall (h fd answer)
  | _ => rfl

/-- The calls of an `open` read nothing. -/
theorem chunks_open (p : SerialPort) (port : String) (baudrate : Int32) (os : OpenAnswers) :
    chunks (p.open port baudrate os).2.2 = [] := by
  apply chunks_of_no_read
  intro fd answer
  cases h : SerialPort.opens baudrate os with
  | false => exact (p.open_of_not_opens port baudrate os h).2.2 fd answer
  | true =>
    obtain ⟨options, hopen⟩ := p.open_of_opens port baudrate os h
    rw [hopen]
    simp [SerialPort.close]
    split <;> simp

namespace ASENSINGParser

variable (p : ASENSINGParser F)

theorem feedAll_append (cs cs' : List (List UInt8)) :
    p.feedAll (cs ++ cs') =
      (((p.feedAll cs).1.feedAll cs').1, (p.feedAll cs).2 ++ ((p.feedAll cs).1.feedAll cs').2) := by
  induction cs generalizing p with
  | nil => rfl
  | cons c cs ih => simp [feedAll, ih, List.append_assoc]

/-- A read hands over its bytes in one call of `feed`, or nothing. -/
theorem feed_readAvailable (serial : SerialPort) (os : ReadAnswer 4096) :
    p.feed (serial.readAvailable os).1 = p.feedAll (chunks (serial.readAvailable os).2) := by
  have hnone : p.feed [] = p.feedAll [] := rfl
  unfold SerialPort.readAvailable
  split
  · exact hnone
  · cases os with
    | bytes data hpos hle =>
      have hvalue : ¬(ReadAnswer.bytes data hpos hle).value ≤ 0 := by
        simp only [ReadAnswer.value]
        omega
      rw [if_neg hvalue]
      simp [chunks, SysCall.received?, feedAll, ReadAnswer.stored]
    | endOfFile => exact hnone
    | error errno => exact hnone

/-- Each sample takes a packet of the bytes that were held back or fed. -/
theorem feedAll_paced (hp : verdict p.buffer = .wait) (cs : List (List UInt8)) :
    verdict (p.feedAll cs).1.buffer = .wait ∧
    kMainLength * (p.feedAll cs).2.length + (p.feedAll cs).1.buffer.length ≤
      p.buffer.length + cs.flatten.length := by
  obtain ⟨items, hfeeds, hscan⟩ := feedAll_scanned p cs hp
  have hvalid := validFrame_of_feeds hfeeds
  have hcount : (p.feedAll cs).2.length = (Resync.frames items).length := by
    have hraw := congrArg List.length (samples_rawFrame p.state hvalid)
    rwa [List.length_map, ← hscan.result] at hraw
  have hlong : ∀ n ∈ (Resync.frames items).map List.length, kMainLength ≤ n := by
    intro n hn
    obtain ⟨f, hf, rfl⟩ := List.mem_map.mp hn
    rcases (hvalid f hf).length with h | h
    · exact h.ge
    · exact h ▸ by decide
  have hsum := List.card_nsmul_le_sum _ _ hlong
  have htiles := congrArg List.length hfeeds.tiles
  have hcovered := Resync.length_frames_le items
  rw [List.length_map, smul_eq_mul, Nat.mul_comm] at hsum
  rw [List.length_append, List.length_append] at htiles
  refine ⟨hfeeds.waits hp, ?_⟩
  rw [hcount]
  omega

end ASENSINGParser

/-- The parser of the node is fed what the calls of the poll have read. -/
theorem ASENSINGNode.poll_feedAll (node : ASENSINGNode F) (os : PollAnswers) :
    node.parser.feedAll (chunks (node.poll os).calls) =
      ((node.poll os).node.parser, (node.poll os).samples) := by
  have hreceive (node : ASENSINGNode F) {calls : List SysCall} (hcalls : chunks calls = []) :
      node.parser.feedAll (chunks (node.receive os.reading calls).calls) =
        ((node.receive os.reading calls).node.parser, (node.receive os.reading calls).samples) := by
    show node.parser.feedAll (chunks (calls ++ (node.serial.readAvailable os.reading).2)) =
      node.parser.feed (node.serial.readAvailable os.reading).1
    rw [chunks_append, hcalls, List.nil_append, ASENSINGParser.feed_readAvailable]
  have hopen := chunks_open node.serial node.port node.baudrate os.opening
  unfold poll
  split
  · dsimp only
    split
    · rw [hopen]
      rfl
    · exact hreceive { node with serial := (node.serial.open node.port node.baudrate os.opening).1 }
        hopen
  · exact hreceive node rfl

/-- A poll reads at most what its buffer holds. -/
theorem ASENSINGNode.length_poll (node : ASENSINGNode F) (os : PollAnswers) :
    (chunks (node.poll os).calls).flatten.length ≤ 4096 := by
  have hread (serial : SerialPort) :
      (chunks (serial.readAvailable os.reading).2).flatten.length ≤ 4096 := by
    unfold SerialPort.readAvailable
    cases os.reading with
    | bytes data hpos hle =>
      split
      · exact Nat.zero_le _
      · split <;> simpa [chunks, SysCall.received?] using hle
    | endOfFile => split <;> exact Nat.zero_le _
    | error errno => split <;> exact Nat.zero_le _
  have hreceive (node : ASENSINGNode F) {calls : List SysCall} (hcalls : chunks calls = []) :
      (chunks (node.receive os.reading calls).calls).flatten.length ≤ 4096 := by
    show (chunks (calls ++ (node.serial.readAvailable os.reading).2)).flatten.length ≤ 4096
    rw [chunks_append, hcalls]
    exact hread node.serial
  have hopen := chunks_open node.serial node.port node.baudrate os.opening
  unfold poll
  split
  · dsimp only
    split
    · rw [hopen]
      exact Nat.zero_le _
    · exact hreceive _ hopen
  · exact hreceive node rfl

/-! ### Runs -/

section Runs

variable (parameters : Parameters) (setRPY : F → F → F → Quaternion F) (now : Nat → Time)

theorem publishAll_append (n : Nat) (ds ds' : List (INSData F)) :
    publishAll parameters setRPY now n (ds ++ ds') =
      publishAll parameters setRPY now n ds ++
        publishAll parameters setRPY now (n + ds.length) ds' := by
  rw [publishAll, List.zipIdx_append, List.flatMap_append]
  rfl

/-- Every sample gives one message on each topic. -/
theorem publishAll_topic (n : Nat) (ds : List (INSData F)) (t : Topic) :
    (publishAll parameters setRPY now n ds).filter (fun m => m.topic = t) =
      (ds.zipIdx n).map fun (d, k) => makeMessage parameters setRPY d (now k) t := by
  have hone (d : INSData F) (stamp : Time) :
      (publish parameters setRPY d stamp).filter (fun m => m.topic = t) =
        [makeMessage parameters setRPY d stamp t] := by
    cases t <;> rfl
  rw [publishAll, List.filter_flatMap]
  simp only [hone]
  rw [List.map_eq_flatMap]

namespace Driver

/-- What the node has published, and what its parser holds, comes from the bytes that its calls have
read. -/
structure Follows (driver : Driver F) : Prop where
  parser : (ASENSINGParser.fresh.feedAll (chunks driver.calls)).1 = driver.node.parser
  readings : driver.readings = (received F (chunks driver.calls)).length
  published : driver.published =
    publishAll parameters setRPY now 0 (received F (chunks driver.calls))

theorem follows_start (port : String) (baudrate : Int32) :
    Follows parameters setRPY now (start port baudrate : Driver F) := ⟨rfl, rfl, rfl⟩

variable {parameters setRPY now} in
theorem follows_poll {driver : Driver F} (h : driver.Follows parameters setRPY now)
    (os : PollAnswers) : (driver.poll parameters setRPY now os).Follows parameters setRPY now := by
  have hpoll := driver.node.poll_feedAll os
  have hall : ASENSINGParser.fresh.feedAll (chunks (driver.calls ++ (driver.node.poll os).calls)) =
      ((driver.node.poll os).node.parser,
        received F (chunks driver.calls) ++ (driver.node.poll os).samples) := by
    rw [chunks_append, ASENSINGParser.feedAll_append, h.parser, hpoll]
    rfl
  have hsamples : received F (chunks (driver.calls ++ (driver.node.poll os).calls)) =
      received F (chunks driver.calls) ++ (driver.node.poll os).samples := congrArg Prod.snd hall
  constructor
  · exact congrArg Prod.fst hall
  · show driver.readings + (driver.node.poll os).samples.length = _
    rw [poll, hsamples, List.length_append, h.readings]
  · show driver.published ++ publishAll _ _ _ driver.readings (driver.node.poll os).samples = _
    rw [poll, hsamples, publishAll_append, Nat.zero_add, ← h.readings, h.published]

theorem follows_run (port : String) (baudrate : Int32) (answers : List PollAnswers) :
    (run parameters setRPY now port baudrate answers).Follows parameters setRPY now := by
  induction answers using List.reverseRecOn with
  | nil => exact follows_start parameters setRPY now port baudrate
  | append_singleton answers os ih =>
    rw [run, List.foldl_append]
    exact follows_poll ih os

/-- Over any run of polls, with any answers of the system: the messages are those of the samples
that a fresh parser decodes from the bytes read, in order, each with one reading of the clock; and
on each topic message `k` is that of sample `k`. -/
theorem run_published (port : String) (baudrate : Int32) (answers : List PollAnswers) :
    let driver := run parameters setRPY now port baudrate answers
    let ds := received F (chunks driver.calls)
    driver.published = publishAll parameters setRPY now 0 ds ∧
    ∀ t, driver.published.filter (fun m => m.topic = t) =
      ds.zipIdx.map fun (d, k) => makeMessage parameters setRPY d (now k) t := by
  intro driver ds
  have h := follows_run parameters setRPY now port baudrate answers
  refine ⟨h.published, fun t => ?_⟩
  rw [h.published]
  exact publishAll_topic parameters setRPY now 0 ds t

/-- From `driver` to `later`, `n` polls have made the calls `calls` and published `messages`. -/
structure Continues (driver later : Driver F) (n : Nat) (calls : List SysCall)
    (messages : List (Message F)) : Prop where
  calls_eq : later.calls = driver.calls ++ calls
  published_eq : later.published = driver.published ++ messages
  read_le : (chunks calls).flatten.length ≤ 4096 * n
  paced : ∀ t, kMainLength * (messages.filter fun m => m.topic = t).length +
    later.node.parser.buffer.length ≤
      driver.node.parser.buffer.length + (chunks calls).flatten.length

variable {parameters setRPY now} in
theorem poll_continues {driver : Driver F} (h : verdict driver.node.parser.buffer = .wait)
    (os : PollAnswers) :
    let later := driver.poll parameters setRPY now os
    verdict later.node.parser.buffer = .wait ∧
    ∃ calls messages, Continues driver later 1 calls messages := by
  intro later
  have hpoll := driver.node.poll_feedAll os
  have hpaced := driver.node.parser.feedAll_paced h (chunks (driver.node.poll os).calls)
  rw [hpoll] at hpaced
  refine ⟨hpaced.1, (driver.node.poll os).calls,
    publishAll parameters setRPY now driver.readings (driver.node.poll os).samples, rfl, rfl,
    driver.node.length_poll os, fun t => ?_⟩
  rw [publishAll_topic, List.length_map, List.length_zipIdx]
  exact hpaced.2

omit [Double F] in
theorem Continues.trans {driver mid later : Driver F} {n n' : Nat} {calls calls' : List SysCall}
    {messages messages' : List (Message F)} (h : Continues driver mid n calls messages)
    (h' : Continues mid later n' calls' messages') :
    Continues driver later (n + n') (calls ++ calls') (messages ++ messages') where
  calls_eq := by rw [h'.calls_eq, h.calls_eq, List.append_assoc]
  published_eq := by rw [h'.published_eq, h.published_eq, List.append_assoc]
  read_le := by
    have hread := h.read_le
    have hread' := h'.read_le
    rw [chunks_append, List.flatten_append, List.length_append]
    omega
  paced t := by
    have hpaced := h.paced t
    have hpaced' := h'.paced t
    rw [chunks_append, List.flatten_append, List.length_append, List.filter_append,
      List.length_append, Nat.mul_add]
    omega

variable {parameters setRPY now} in
theorem foldl_continues {driver : Driver F} (h : verdict driver.node.parser.buffer = .wait)
    (answers : List PollAnswers) :
    let later := answers.foldl (poll parameters setRPY now) driver
    verdict later.node.parser.buffer = .wait ∧
    ∃ calls messages, Continues driver later answers.length calls messages := by
  induction answers using List.reverseRecOn with
  | nil => exact ⟨h, [], [], by simp, by simp, by simp [chunks], by simp [chunks]⟩
  | append_singleton answers os ih =>
    obtain ⟨hwait, calls, messages, hcontinues⟩ := ih
    obtain ⟨hwait', calls', messages', hpoll⟩ := poll_continues hwait os
    rw [List.foldl_append, List.length_append]
    exact ⟨hwait', _, _, hcontinues.trans hpoll⟩

/-- After any run of polls the parser holds back less than a packet, and over any further polls,
with whatever answers, each message on a topic takes a packet of what was held back or is read
meanwhile, which is at most 4096 bytes in each poll: one poll publishes at most 71 messages on each
topic. -/
theorem run_paced (port : String) (baudrate : Int32) (answers more : List PollAnswers) :
    let driver := run parameters setRPY now port baudrate answers
    let later := run parameters setRPY now port baudrate (answers ++ more)
    driver.node.parser.buffer.length < kMainLength ∧
    ∃ calls messages, Continues driver later more.length calls messages ∧
      ∀ t, (messages.filter fun m => m.topic = t).length ≤
        (kMainLength - 1 + 4096 * more.length) / kMainLength := by
  intro driver later
  have hstart : verdict (start port baudrate : Driver F).node.parser.buffer = .wait := fresh_waits
  have hwait : verdict driver.node.parser.buffer = .wait := (foldl_continues hstart answers).1
  have hlater : later = more.foldl (poll parameters setRPY now) driver := List.foldl_append
  have hshort : driver.node.parser.buffer.length < kMainLength := by
    rcases verdict_wait_iff.mp hwait with h | h
    · exact Nat.lt_trans h (by decide)
    · exact h.2
  obtain ⟨-, calls, messages, h⟩ := foldl_continues hwait more
  rw [← hlater] at h
  refine ⟨hshort, calls, messages, h, fun t => ?_⟩
  have hread := h.read_le
  have hpaced := h.paced t
  rw [Nat.le_div_iff_mul_le (by decide), Nat.mul_comm]
  omega

/-- The raw frames among the messages are those of the samples. -/
theorem publishAll_rawFrames (n : Nat) (ds : List (INSData F)) :
    (publishAll parameters setRPY now n ds).filterMap Message.rawFrame? =
      ds.map INSData.rawFrame := by
  have hone (d : INSData F) (stamp : Time) :
      (publish parameters setRPY d stamp).filterMap Message.rawFrame? = [d.rawFrame] := rfl
  rw [publishAll, List.filterMap_flatMap]
  simp only [hone, ← List.map_eq_flatMap]
  rw [← List.zipIdx_map_fst n ds, List.map_map, List.zipIdx_map_fst]
  rfl

/-- A second parser that is fed the raw frames that a run has published, one in each call, returns
one sample from each call, and all messages of the run are those of these samples. -/
theorem run_replayed (port : String) (baudrate : Int32) (answers : List PollAnswers) :
    let driver := run parameters setRPY now port baudrate answers
    let replay := (ASENSINGParser.fresh (F := F)).feedEach
      (driver.published.filterMap Message.rawFrame?)
    (∀ r ∈ replay, r.1.buffer = [] ∧ r.2.length = 1) ∧
    driver.published = publishAll parameters setRPY now 0 (replay.flatMap Prod.snd) := by
  intro driver replay
  have hpublished := (follows_run parameters setRPY now port baudrate answers).published
  obtain ⟨items, -, hvalid, hresult, hraw⟩ := fresh_scanned (F := F) (chunks driver.calls)
  have hsamples : received F (chunks driver.calls) = samples .initial (Resync.frames items) :=
    hresult
  have hreplay : replay = (received F (chunks driver.calls)).map fun d => (⟨[], d⟩, [d]) := by
    have hframes : (received F (chunks driver.calls)).map INSData.rawFrame = Resync.frames items :=
      hraw
    show ASENSINGParser.feedEach ⟨[], .initial⟩ (driver.published.filterMap _) = _
    rw [hpublished, publishAll_rawFrames, hframes, feedEach_frames .initial hvalid, hsamples]
  constructor
  · intro r hr
    rw [hreplay] at hr
    obtain ⟨d, -, rfl⟩ := List.mem_map.mp hr
    exact ⟨rfl, rfl⟩
  · rw [hreplay, List.flatMap_map, List.flatMap_singleton']
    exact hpublished

end Driver

end Runs

end AsensingDriver
