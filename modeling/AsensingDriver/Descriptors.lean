import AsensingDriver.Lib.Ledger
import AsensingDriver.SerialPort

/-! The descriptors of the serial port.  `SerialPort.no_leak` says that in every run the descriptors
obtained and not yet closed are the one that the port holds, and `node_descriptors` says so of the
node, whose polls retry a failed `open`. -/

namespace AsensingDriver

open Ledger

/-- What a call does to the descriptors of the process, when `::open` answers `answer`. -/
def SysCall.event (answer : Int) : SysCall → Option (Ledger.Event Int)
  | .open _ _ => if 0 ≤ answer then some (.acquire answer) else none
  | .close fd => some (.release fd)
  | .tcgetattr _ | .tcsetattr _ _ | .read _ _ | .write _ _ => none

/-- An operation on the port, with the answers to the calls that it makes.  `::open` answers -1 or a
descriptor, which may be one that was closed before. -/
inductive PortOp
  | «open» (port : String) (baudrate : Int32) (os : OpenAnswers)
      (answered : os.fd = -1 ∨ 0 ≤ os.fd)
  | close
  | readAvailable (os : ReadAnswer 4096)
  | write (data : List UInt8) (written : Int)

namespace SerialPort

/-- The descriptors that the port holds. -/
def descriptors (p : SerialPort) : Finset Int := if 0 ≤ p.fd then {p.fd} else ∅

/-- The trace of some calls. -/
def trace (answer : Int) (calls : List SysCall) : List (Ledger.Event Int) :=
  calls.filterMap (SysCall.event answer)

/-- The port after an operation, with the trace of its calls. -/
def perform (p : SerialPort) : PortOp → SerialPort × List (Ledger.Event Int)
  | .open port baudrate os _ =>
    let (q, _, calls) := p.open port baudrate os
    (q, trace os.fd calls)
  | .close =>
    let (q, calls) := p.close
    (q, trace (-1) calls)
  | .readAvailable os => (p, trace (-1) (p.readAvailable os).2)
  | .write data written => (p, trace (-1) (p.write data written).2)

/-- The destructor. -/
def destroy (p : SerialPort) : List SysCall := p.close.2

section Operations

variable (p : SerialPort) (port : String) (baudrate : Int32) (os : OpenAnswers) (answer : Int)

theorem trace_append (calls calls' : List SysCall) :
    trace answer (calls ++ calls') = trace answer calls ++ trace answer calls' :=
  List.filterMap_append

theorem keeps_close : Keeps p.descriptors ∅ (trace answer p.close.2) := by
  unfold descriptors close
  split
  · exact ⟨⟨Finset.mem_singleton_self p.fd, trivial⟩, Finset.erase_singleton p.fd⟩
  · exact Keeps.nil ∅

/-- Whether an `open` succeeds, what it holds afterwards, and the trace of its calls. -/
theorem open_spec (answered : os.fd = -1 ∨ 0 ≤ os.fd) :
    (p.open port baudrate os).2.1 = opens baudrate os ∧
    (p.open port baudrate os).1.fd = (if opens baudrate os then os.fd else -1) ∧
    trace os.fd (p.open port baudrate os).2.2 = trace os.fd p.close.2 ++
      if opens baudrate os then [.acquire os.fd]
      else if 0 ≤ os.fd then [.acquire os.fd, .release os.fd]
      else [] := by
  cases hopens : opens baudrate os with
  | true =>
    have hnew := fd_of_opens hopens
    obtain ⟨options, hopen⟩ := p.open_of_opens port baudrate os hopens
    rw [hopen, trace_append]
    refine ⟨rfl, rfl, ?_⟩
    simp [trace, SysCall.event, hnew]
  | false =>
    have hopen : p.open port baudrate os =
        (((mk os.fd).configure baudrate os).1, ((mk os.fd).configure baudrate os).2.1,
          p.close.2 ++ .open port [.O_RDWR, .O_NOCTTY, .O_NONBLOCK] ::
            ((mk os.fd).configure baudrate os).2.2) := rfl
    rw [hopen, trace_append]
    rcases configure_of_not_opens baudrate os hopens with
      ⟨hfd, hnone⟩ | ⟨hfd, calls, hfailed, hcalls⟩
    · rw [hnone]
      have hanswer : os.fd = -1 := by omega
      refine ⟨rfl, hanswer, ?_⟩
      simp [trace, SysCall.event, hanswer]
    · have hsilent : trace os.fd calls = [] := by
        apply List.filterMap_eq_nil_iff.mpr
        intro call hcall
        rcases hcalls call hcall with rfl | ⟨options, rfl⟩ <;> rfl
      rw [hfailed]
      refine ⟨rfl, rfl, ?_⟩
      rw [← List.singleton_append, trace_append, trace_append, hsilent]
      simp [trace, SysCall.event, hfd]

/-- `open` reports success exactly when it leaves the port open, and a failed one holds nothing. -/
theorem open_result (answered : os.fd = -1 ∨ 0 ≤ os.fd) :
    ((p.open port baudrate os).2.1 = true ↔ (p.open port baudrate os).1.isOpen = true) ∧
    ((p.open port baudrate os).2.1 = false → (p.open port baudrate os).1.fd = -1) := by
  obtain ⟨hopened, hfd, -⟩ := open_spec p port baudrate os answered
  rw [isOpen, hopened, hfd]
  cases hopens : opens baudrate os with
  | false => simp
  | true =>
    have hnew := fd_of_opens hopens
    simp [hnew]

/-- Whatever the exit, `open` gives back the descriptor held before, and the new one too unless it
keeps it. -/
theorem keeps_open (answered : os.fd = -1 ∨ 0 ≤ os.fd) :
    Keeps p.descriptors (p.open port baudrate os).1.descriptors
      (trace os.fd (p.open port baudrate os).2.2) := by
  obtain ⟨-, hfd, htrace⟩ := open_spec p port baudrate os answered
  rw [htrace]
  apply (keeps_close p os.fd).append
  rw [descriptors, hfd]
  cases hopens : opens baudrate os with
  | true =>
    have hnew := fd_of_opens hopens
    simp only [if_true, hnew]
    exact ⟨⟨Finset.notMem_empty os.fd, trivial⟩, rfl⟩
  | false =>
    by_cases hnew : 0 ≤ os.fd
    · simp only [Bool.false_eq_true, if_false, hnew, if_true]
      exact ⟨⟨Finset.notMem_empty os.fd, Finset.mem_insert_self os.fd ∅, trivial⟩,
        Finset.erase_singleton os.fd⟩
    · simp only [Bool.false_eq_true, if_false, hnew]
      exact Keeps.nil ∅

theorem descriptors_close : p.close.1.descriptors = ∅ := by
  unfold close
  split
  · rfl
  · rename_i hfd
    exact if_neg hfd

theorem trace_readAvailable (os : ReadAnswer 4096) : trace answer (p.readAvailable os).2 = [] := by
  unfold readAvailable
  split_ifs <;> rfl

theorem trace_write (data : List UInt8) (written : Int) :
    trace answer (p.write data written).2 = [] := by
  unfold write
  split <;> rfl

/-- The step lemma: an operation keeps the ledger at what the port holds. -/
theorem keeps_perform (op : PortOp) :
    Keeps p.descriptors (p.perform op).1.descriptors (p.perform op).2 := by
  cases op with
  | «open» port baudrate os answered => exact keeps_open p port baudrate os answered
  | close =>
    show Keeps p.descriptors p.close.1.descriptors (trace (-1) p.close.2)
    rw [descriptors_close]
    exact keeps_close p (-1)
  | readAvailable os =>
    show Keeps p.descriptors p.descriptors (trace (-1) (p.readAvailable os).2)
    rw [trace_readAvailable]
    exact Keeps.nil p.descriptors
  | write data written =>
    show Keeps p.descriptors p.descriptors (trace (-1) (p.write data written).2)
    rw [trace_write]
    exact Keeps.nil p.descriptors

end Operations

/-- In every run of operations on a new port, the descriptors obtained and not yet closed are the
one that the port holds, none is closed that is not among them, and none is left after the
destructor. -/
theorem no_leak (ops : List PortOp) :
    let (p, events) := Ledger.run perform closed ops
    let destroyed := trace (-1) p.destroy
    held ∅ events = (if 0 ≤ p.fd then {p.fd} else ∅) ∧
    Sound ∅ (events ++ destroyed) ∧
    held ∅ (events ++ destroyed) = ∅ ∧
    ∀ pre port baudrate os answered post, ops = pre ++ .open port baudrate os answered :: post →
      let opened := (Ledger.run perform closed pre).1.open port baudrate os
      (opened.2.1 = true ↔ opened.1.isOpen = true) ∧ (opened.2.1 = false → opened.1.fd = -1) := by
  have hrun := run_owned descriptors keeps_perform closed ops
  have hdestroyed := hrun.append (keeps_close (Ledger.run perform closed ops).1 (-1))
  refine ⟨hrun.held, hdestroyed.sound, hdestroyed.held, ?_⟩
  intro pre port baudrate os answered post _
  exact open_result _ port baudrate os answered

end SerialPort

/-! ### The node -/

namespace ASENSINGNode

variable {F : Type} [Double F]

/-- A poll of the node, whose `::open` answers a descriptor or -1. -/
structure PollOp where
  os : PollAnswers
  answered : os.opening.fd = -1 ∨ 0 ≤ os.opening.fd

/-- The node after a poll, with the trace of its calls. -/
def performPoll (node : ASENSINGNode F) (op : PollOp) : ASENSINGNode F × List (Ledger.Event Int) :=
  let polled := node.poll op.os
  (polled.node, SerialPort.trace op.os.opening.fd polled.calls)

theorem trace_receive (node : ASENSINGNode F) (os : ReadAnswer 4096) (calls : List SysCall)
    (answer : Int) :
    SerialPort.trace answer (node.receive os calls).calls = SerialPort.trace answer calls := by
  show SerialPort.trace answer (calls ++ (node.serial.readAvailable os).2) = _
  rw [SerialPort.trace_append, SerialPort.trace_readAvailable, List.append_nil]

/-- A poll does to the descriptors what its `open` does, if it makes one. -/
theorem keeps_poll (node : ASENSINGNode F) (op : PollOp) :
    Keeps node.serial.descriptors (node.performPoll op).1.serial.descriptors
      (node.performPoll op).2 := by
  unfold performPoll poll
  dsimp only
  split
  · have hopen := node.serial.keeps_open node.port node.baudrate op.os.opening op.answered
    split
    · exact hopen
    · rw [trace_receive]
      exact hopen
  · rw [trace_receive]
    exact Keeps.nil node.serial.descriptors

/-- However often the node polls, and whatever fails, it holds the descriptor of its port and no
other one. -/
theorem node_descriptors (port : String) (baudrate : Int32) (ops : List PollOp) :
    let last := Ledger.run performPoll (start port baudrate : ASENSINGNode F) ops
    Keeps ∅ last.1.serial.descriptors last.2 :=
  run_owned (fun node : ASENSINGNode F => node.serial.descriptors) keeps_poll
    (start port baudrate) ops

end ASENSINGNode

end AsensingDriver
