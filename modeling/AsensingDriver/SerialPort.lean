import AsensingDriver.Parser

/-! The serial port and the polling of the driver node.  What the system answers to a call is an
input of the model, and the calls made are an output of it.  `run_recovers_iff` says in which runs a
lost device is closed and opened again. -/

namespace AsensingDriver

/-! ### The terminal -/

inductive OpenFlag
  | O_RDWR | O_NOCTTY | O_NONBLOCK
deriving DecidableEq

/-- The speeds that the port sets, and any other one. -/
inductive Speed
  | B9600 | B19200 | B38400 | B57600 | B115200 | B230400 | B460800
  | other (code : Nat)
deriving DecidableEq

inductive TermFlag
  | IGNBRK | BRKINT | PARMRK | ISTRIP | INLCR | IGNCR | ICRNL | IXON
  | OPOST
  | ECHO | ECHONL | ICANON | ISIG | IEXTEN
  | PARENB | CLOCAL | CREAD | CSTOPB | CRTSCTS
deriving DecidableEq

/-- The settings of a terminal, with the flags that are set. -/
structure Termios where
  flags : List TermFlag
  charSize : Nat
  ispeed : Speed
  ospeed : Speed
deriving DecidableEq

namespace Termios

def set (options : Termios) (fs : List TermFlag) : Termios :=
  { options with flags := options.flags ++ fs }

def clear (options : Termios) (fs : List TermFlag) : Termios :=
  { options with flags := options.flags.filter fun f => f ∉ fs }

def cfmakeraw (options : Termios) : Termios :=
  { options with charSize := 8 }.clear
    [.IGNBRK, .BRKINT, .PARMRK, .ISTRIP, .INLCR, .IGNCR, .ICRNL, .IXON, .OPOST, .ECHO, .ECHONL,
      .ICANON, .ISIG, .IEXTEN, .PARENB]

/-- The settings that `open` asks for. -/
def configure (options : Termios) (speed : Speed) : Termios :=
  let options := { options.cfmakeraw with ispeed := speed, ospeed := speed }
  (((options.set [.CLOCAL, .CREAD]).clear [.CSTOPB]).clear [.CRTSCTS]).clear [.PARENB]

end Termios

/-! ### Calls of the system -/

inductive Errno
  | EAGAIN | EINTR
  | other (code : Nat)
deriving DecidableEq

/-- The answer to a read into a buffer of `n` bytes. -/
inductive ReadAnswer (n : Nat)
  | bytes (data : List UInt8) (pos : 0 < data.length) (le : data.length ≤ n)
  | endOfFile
  | error (errno : Errno)
deriving DecidableEq

namespace ReadAnswer

variable {n : Nat}

/-- The value that the call returns. -/
def value : ReadAnswer n → Int
  | bytes data _ _ => data.length
  | endOfFile => 0
  | error _ => -1

/-- What the call has put into the buffer. -/
def stored : ReadAnswer n → List UInt8
  | bytes data _ _ => data
  | endOfFile | error _ => []

/-- The descriptor has no data yet. -/
def again : ReadAnswer n → Bool
  | error .EAGAIN | error .EINTR => true
  | bytes .. | endOfFile | error (.other _) => false

/-- The device has hung up or is gone. -/
def lost : ReadAnswer n → Bool
  | endOfFile | error (.other _) => true
  | bytes .. | error .EAGAIN | error .EINTR => false

end ReadAnswer

/-- The answers to the calls that `open` makes; a failed `tcgetattr` gives no settings. -/
structure OpenAnswers where
  fd : Int
  tcgetattr : Option Termios
  tcsetattr : Bool
deriving DecidableEq

/-- A call of the system that the port has made. -/
inductive SysCall
  | «open» (path : String) (flags : List OpenFlag)
  | tcgetattr (fd : Int)
  | tcsetattr (fd : Int) (options : Termios)
  | close (fd : Int)
  | read (fd : Int) (answer : ReadAnswer 4096)
  | write (fd : Int) (data : List UInt8)
deriving DecidableEq

/-! ### The port -/

structure SerialPort where
  fd : Int
deriving DecidableEq

namespace SerialPort

def closed : SerialPort := ⟨-1⟩

def isOpen (p : SerialPort) : Bool := 0 ≤ p.fd

def close (p : SerialPort) : SerialPort × List SysCall :=
  if 0 ≤ p.fd then (⟨-1⟩, [.close p.fd]) else (p, [])

def speedOf (baudrate : Int32) : Option Speed :=
  if baudrate = 9600 then some .B9600
  else if baudrate = 19200 then some .B19200
  else if baudrate = 38400 then some .B38400
  else if baudrate = 57600 then some .B57600
  else if baudrate = 115200 then some .B115200
  else if baudrate = 460800 then some .B460800
  else if baudrate ≠ 230400 then none
  else some .B230400

/-- `open` once `::open` has answered `p.fd`. -/
def configure (p : SerialPort) (baudrate : Int32) (os : OpenAnswers) :
    SerialPort × Bool × List SysCall :=
  let failed := fun calls : List SysCall => (p.close.1, false, calls ++ p.close.2)
  if p.fd < 0 then (p, false, [])
  else
    match os.tcgetattr with
    | none => failed [.tcgetattr p.fd]
    | some options =>
      match speedOf baudrate with
      | none => failed [.tcgetattr p.fd]
      | some speed =>
        let calls := [.tcgetattr p.fd, .tcsetattr p.fd (options.configure speed)]
        if !os.tcsetattr then failed calls
        else (p, true, calls)

def «open» (p : SerialPort) (port : String) (baudrate : Int32) (os : OpenAnswers) :
    SerialPort × Bool × List SysCall :=
  let (p', opened, calls) := (SerialPort.mk os.fd).configure baudrate os
  (p', opened, p.close.2 ++ .open port [.O_RDWR, .O_NOCTTY, .O_NONBLOCK] :: calls)

def readAvailable (p : SerialPort) (os : ReadAnswer 4096) : List UInt8 × List SysCall :=
  if p.fd < 0 then ([], [])
  else if os.value ≤ 0 then ([], [.read p.fd os])
  else (os.stored, [.read p.fd os])

/-- `written` is the number of bytes that the system says it has written. -/
def write (p : SerialPort) (data : List UInt8) (written : Int) : Bool × List SysCall :=
  if 0 ≤ p.fd then (written == data.length, [.write p.fd data]) else (false, [])

/-- All the calls of an `open` succeed. -/
def opens (baudrate : Int32) (os : OpenAnswers) : Bool :=
  0 ≤ os.fd && os.tcgetattr.isSome && (speedOf baudrate).isSome && os.tcsetattr

end SerialPort

namespace SerialPort

section Open

variable (p : SerialPort) (port : String) (baudrate : Int32) (os : OpenAnswers)

theorem fd_of_opens {baudrate : Int32} {os : OpenAnswers} (h : opens baudrate os = true) :
    0 ≤ os.fd := by
  simp only [opens, Bool.and_eq_true, decide_eq_true_eq] at h
  exact h.1.1.1

/-- An `open` whose calls succeed holds the new descriptor and closes nothing after it. -/
theorem open_of_opens (h : opens baudrate os = true) :
    ∃ options, p.open port baudrate os = (⟨os.fd⟩, true,
      p.close.2 ++ [.open port [.O_RDWR, .O_NOCTTY, .O_NONBLOCK], .tcgetattr os.fd,
        .tcsetattr os.fd options]) := by
  simp only [opens, Bool.and_eq_true, decide_eq_true_eq, Option.isSome_iff_exists] at h
  obtain ⟨⟨⟨hfd, options, hget⟩, speed, hspeed⟩, hset⟩ := h
  refine ⟨options.configure speed, ?_⟩
  simp [SerialPort.open, configure, hget, hspeed, hset, Int.not_lt.mpr hfd]

/-- Any other `open` gets no descriptor, or configures the new one and then closes it. -/
theorem configure_of_not_opens (h : opens baudrate os = false) :
    os.fd < 0 ∧ (mk os.fd).configure baudrate os = (⟨os.fd⟩, false, []) ∨
    0 ≤ os.fd ∧ ∃ calls, (mk os.fd).configure baudrate os =
        (closed, false, calls ++ [.close os.fd]) ∧
      ∀ call ∈ calls, call = .tcgetattr os.fd ∨ ∃ options, call = .tcsetattr os.fd options := by
  by_cases hfd : os.fd < 0
  · exact .inl ⟨hfd, if_pos hfd⟩
  have hclose : (mk os.fd).close = (closed, [.close os.fd]) := if_pos (Int.not_lt.mp hfd)
  refine .inr ⟨Int.not_lt.mp hfd, ?_⟩
  cases hget : os.tcgetattr with
  | none => exact ⟨[.tcgetattr os.fd], by simp [configure, hfd, hget, hclose], by simp⟩
  | some options =>
    cases hspeed : speedOf baudrate with
    | none => exact ⟨[.tcgetattr os.fd], by simp [configure, hfd, hget, hspeed, hclose], by simp⟩
    | some speed =>
      have hset : os.tcsetattr = false := by
        simpa [opens, hget, hspeed, Int.not_lt.mp hfd] using h
      exact ⟨[.tcgetattr os.fd, .tcsetattr os.fd (options.configure speed)],
        by simp [configure, hfd, hget, hspeed, hset, hclose], by simp⟩

/-- An `open` that fails leaves the port closed. -/
theorem open_of_not_opens (h : opens baudrate os = false) :
    (p.open port baudrate os).1.isOpen = false ∧ (p.open port baudrate os).2.1 = false ∧
      ∀ fd answer, .read fd answer ∉ (p.open port baudrate os).2.2 := by
  have hclose : ∀ fd answer, .read fd answer ∉ p.close.2 := by
    intro fd answer
    unfold close
    split <;> simp
  rcases configure_of_not_opens baudrate os h with ⟨hfd, hnone⟩ | ⟨-, calls, hfailed, hcalls⟩
  · simp [SerialPort.open, hnone, hclose, isOpen, hfd]
  · have hreads : ∀ fd answer, .read fd answer ∉ calls := by
      intro fd answer hread
      rcases hcalls _ hread with hcall | ⟨options, hcall⟩ <;> cases hcall
    simp [SerialPort.open, hfailed, hclose, hreads, isOpen, closed]

theorem readAvailable_of_isOpen (os : ReadAnswer 4096) (h : p.isOpen = true) :
    (p.readAvailable os).2 = [.read p.fd os] := by
  have hfd : ¬ p.fd < 0 := Int.not_lt.mpr (of_decide_eq_true h)
  unfold readAvailable
  rw [if_neg hfd]
  split <;> rfl

end Open

end SerialPort

/-! ### The node -/

structure ASENSINGNode (F : Type) where
  port : String
  baudrate : Int32
  serial : SerialPort
  parser : ASENSINGParser F

/-- The answers to the calls of one poll. -/
structure PollAnswers where
  opening : OpenAnswers
  reading : ReadAnswer 4096
deriving DecidableEq

/-- The node after a poll, the calls made, and the samples to publish. -/
structure Polled (F : Type) where
  node : ASENSINGNode F
  calls : List SysCall
  samples : List (INSData F)

namespace ASENSINGNode

variable {F : Type} [Double F]

/-- The node before its first poll. -/
def start (port : String) (baudrate : Int32) : ASENSINGNode F :=
  ⟨port, baudrate, .closed, .fresh⟩

/-- The end of a poll, on an open port. -/
def receive (node : ASENSINGNode F) (os : ReadAnswer 4096) (calls : List SysCall) : Polled F :=
  let (bytes, reads) := node.serial.readAvailable os
  let (parser, samples) := node.parser.feed bytes
  ⟨{ node with parser := parser }, calls ++ reads, samples⟩

def poll (node : ASENSINGNode F) (os : PollAnswers) : Polled F :=
  if !node.serial.isOpen then
    let (serial, opened, calls) := node.serial.open node.port node.baudrate os.opening
    if !opened then ⟨{ node with serial := serial }, calls, []⟩
    else { node with serial := serial }.receive os.reading calls
  else node.receive os.reading []

def run (node : ASENSINGNode F) (answers : List PollAnswers) : ASENSINGNode F :=
  answers.foldl (fun node os => (node.poll os).node) node

/-- In the run of these answers, the poll that notices a lost device leaves the port closed and the
next one opens it, and no data yet never closes the port. -/
def Recovers (node : ASENSINGNode F) (answers : List PollAnswers) : Prop :=
  ∀ pre os post, answers = pre ++ os :: post →
    let polled := (node.run pre).poll os
    ∀ fd answer, SysCall.read fd answer ∈ polled.calls →
      (answer.lost = true → polled.node.serial.isOpen = false ∧
        ∀ next, ∃ flags, .open node.port flags ∈ (polled.node.poll next).calls) ∧
      (answer.again = true → polled.node.serial.isOpen = true ∧ ∀ fd, .close fd ∉ polled.calls)

/-! ### One poll -/

section Poll

variable (node : ASENSINGNode F) (os : PollAnswers)

/-- A poll has an open port to read from. -/
def ready : Bool := node.serial.isOpen || SerialPort.opens node.baudrate os.opening

theorem poll_config : (node.poll os).node.port = node.port ∧
    (node.poll os).node.baudrate = node.baudrate := by
  unfold poll
  split
  · dsimp only
    split <;> exact ⟨rfl, rfl⟩
  · exact ⟨rfl, rfl⟩

/-- On an open port one read follows the calls made before, which keep what they did not contain. -/
theorem receive_calls {calls : List SysCall} (os : ReadAnswer 4096)
    (h : node.serial.isOpen = true) (hreads : ∀ fd answer, .read fd answer ∉ calls)
    (hcloses : ∀ fd, .close fd ∉ calls) :
    (∃ fd, .read fd os ∈ (node.receive os calls).calls) ∧
    (∀ fd answer, .read fd answer ∈ (node.receive os calls).calls → answer = os) ∧
    ∀ fd, .close fd ∉ (node.receive os calls).calls := by
  have hcalls : (node.receive os calls).calls = calls ++ [.read node.serial.fd os] := by
    show calls ++ (node.serial.readAvailable os).2 = _
    rw [node.serial.readAvailable_of_isOpen os h]
  rw [hcalls]
  refine ⟨⟨node.serial.fd, by simp⟩, ?_, by simp [hcloses]⟩
  intro fd answer hread
  simp only [List.mem_append, hreads, List.mem_singleton, SysCall.read.injEq, false_or] at hread
  exact hread.2

/-- A poll that opens the port reads from the new descriptor. -/
theorem poll_of_opens (hclosed : node.serial.isOpen = false)
    (hopens : SerialPort.opens node.baudrate os.opening = true) :
    ∃ options, node.poll os = { node with serial := ⟨os.opening.fd⟩ }.receive os.reading
      [.open node.port [.O_RDWR, .O_NOCTTY, .O_NONBLOCK], .tcgetattr os.opening.fd,
        .tcsetattr os.opening.fd options] := by
  obtain ⟨options, hopened⟩ := node.serial.open_of_opens node.port node.baudrate os.opening hopens
  have hclose : node.serial.close.2 = [] := by
    rw [SerialPort.close, if_neg (of_decide_eq_false hclosed)]
  exact ⟨options, by simp [poll, hclosed, hopened, hclose]⟩

/-- A poll that is ready makes the one read, and closes nothing. -/
theorem poll_of_ready (h : node.ready os = true) :
    (node.poll os).node.serial.isOpen = true ∧
    (∃ fd, .read fd os.reading ∈ (node.poll os).calls) ∧
    (∀ fd answer, .read fd answer ∈ (node.poll os).calls → answer = os.reading) ∧
    ∀ fd, .close fd ∉ (node.poll os).calls := by
  cases hopen : node.serial.isOpen with
  | true =>
    have hpoll : node.poll os = node.receive os.reading [] := by simp [poll, hopen]
    rw [hpoll]
    exact ⟨hopen, receive_calls node os.reading hopen (by simp) (by simp)⟩
  | false =>
    have hopens : SerialPort.opens node.baudrate os.opening = true := by
      simpa [ready, hopen] using h
    have hnew : SerialPort.isOpen ⟨os.opening.fd⟩ = true :=
      decide_eq_true (SerialPort.fd_of_opens hopens)
    obtain ⟨options, hpoll⟩ := poll_of_opens node os hopen hopens
    rw [hpoll]
    exact ⟨hnew, receive_calls _ os.reading hnew (by simp) (by simp)⟩

/-- Any other poll makes no read, and its port stays closed. -/
theorem poll_of_not_ready (h : node.ready os = false) :
    (node.poll os).node.serial.isOpen = false ∧
    ∀ fd answer, .read fd answer ∉ (node.poll os).calls := by
  simp only [ready, Bool.or_eq_false_iff] at h
  obtain ⟨hopen, hopens⟩ := h
  obtain ⟨hclosed, hfailed, hreads⟩ :=
    node.serial.open_of_not_opens node.port node.baudrate os.opening hopens
  have hpoll : node.poll os =
      ⟨{ node with serial := (node.serial.open node.port node.baudrate os.opening).1 },
        (node.serial.open node.port node.baudrate os.opening).2.2, []⟩ := by
    simp [poll, hopen, hfailed]
  rw [hpoll]
  exact ⟨hclosed, hreads⟩

theorem poll_isOpen : (node.poll os).node.serial.isOpen = node.ready os := by
  cases h : node.ready os with
  | true => exact (poll_of_ready node os h).1
  | false => exact (poll_of_not_ready node os h).1

end Poll

/-! ### Runs -/

section Runs

variable (port : String) (baudrate : Int32)

theorem run_config (node : ASENSINGNode F) (answers : List PollAnswers) :
    (node.run answers).port = node.port ∧ (node.run answers).baudrate = node.baudrate := by
  induction answers generalizing node with
  | nil => exact ⟨rfl, rfl⟩
  | cons os answers ih =>
    obtain ⟨hport, hbaudrate⟩ := poll_config node os
    rw [← hport, ← hbaudrate]
    exact ih (node.poll os).node

theorem run_concat (node : ASENSINGNode F) (answers : List PollAnswers) (os : PollAnswers) :
    node.run (answers ++ [os]) = ((node.run answers).poll os).node := by
  rw [run, List.foldl_append]
  rfl

/-- Once an `open` has succeeded, the port is never closed. -/
theorem run_isOpen (answers : List PollAnswers) :
    ((start port baudrate : ASENSINGNode F).run answers).serial.isOpen =
      answers.any fun os => SerialPort.opens baudrate os.opening := by
  induction answers using List.reverseRecOn with
  | nil => rfl
  | append_singleton answers os ih =>
    have hbaudrate := (run_config (start port baudrate : ASENSINGNode F) answers).2
    rw [run_concat, poll_isOpen, ready, ih, hbaudrate, List.any_append, List.any_cons,
      List.any_nil, Bool.or_false]
    rfl

theorem run_ready (answers : List PollAnswers) (os : PollAnswers) :
    ((start port baudrate : ASENSINGNode F).run answers).ready os =
      (answers ++ [os]).any fun os => SerialPort.opens baudrate os.opening := by
  rw [← run_isOpen (F := F) port, run_concat, poll_isOpen]

/-- The node recovers from a lost device in exactly the runs in which no read reports one: from the
first poll on whose `open` succeeds, no read is answered with a hang-up or a hard error. -/
theorem run_recovers_iff (answers : List PollAnswers) :
    (start port baudrate : ASENSINGNode F).Recovers answers ↔
      ∀ pre os post, answers = pre ++ os :: post →
        (∃ o ∈ pre ++ [os], SerialPort.opens baudrate o.opening = true) →
          os.reading.lost = false := by
  constructor
  · intro h pre os post heq ⟨o, ho, hopens⟩
    have hready : ((start port baudrate : ASENSINGNode F).run pre).ready os = true := by
      rw [run_ready]
      exact List.any_eq_true.mpr ⟨o, ho, hopens⟩
    obtain ⟨hopen, ⟨fd, hread⟩, -, -⟩ := poll_of_ready _ os hready
    rw [Bool.eq_false_iff]
    intro hlost
    have hclosed := ((h pre os post heq fd os.reading hread).1 hlost).1
    exact Bool.false_ne_true (hclosed.symm.trans hopen)
  · intro h pre os post heq polled fd answer hread
    cases hready : ((start port baudrate : ASENSINGNode F).run pre).ready os with
    | false => exact absurd hread ((poll_of_not_ready _ os hready).2 fd answer)
    | true =>
      obtain ⟨hopen, -, hunique, hclose⟩ := poll_of_ready _ os hready
      obtain rfl := hunique fd answer hread
      rw [run_ready, List.any_eq_true] at hready
      refine ⟨?_, fun _ => ⟨hopen, hclose⟩⟩
      intro hlost
      rw [h pre os post heq hready] at hlost
      cases hlost

end Runs

/-- The device answers to the first poll, and hangs up before the second one. -/
theorem not_recovers_hangUp :
    let settings : Termios := ⟨[], 8, .B230400, .B230400⟩
    let opening : OpenAnswers := ⟨3, some settings, true⟩
    let traffic : PollAnswers := ⟨opening, .bytes [0xbd] (by decide) (by decide)⟩
    let hangUp : PollAnswers := ⟨opening, .endOfFile⟩
    ¬ (start "/dev/ttyUSB0" 230400 : ASENSINGNode Exact).Recovers [traffic, hangUp] := by
  intro settings opening traffic hangUp h
  have hready : ((start "/dev/ttyUSB0" 230400 : ASENSINGNode Exact).run [traffic]).ready hangUp =
      true := by
    rw [run_ready]
    decide
  obtain ⟨hopen, ⟨fd, hread⟩, -, -⟩ := poll_of_ready _ hangUp hready
  have hclosed := ((h [traffic] hangUp [] rfl fd .endOfFile hread).1 rfl).1
  exact Bool.false_ne_true (hclosed.symm.trans hopen)

end ASENSINGNode

end AsensingDriver
