import AsensingDriver.Indicator
import AsensingDriver.Lib.Link
import AsensingDriver.Publishing
import AsensingDriver.Topics

/-! The driver, the monitor and the indicator together.  Each subscription is a link that keeps the
order of the messages and may lose some, and everything else may happen in any order: polls of the
serial port, deliveries, losses, markers, snapshots, and changes of the indicator's clock.
`run_consistent` carries through any such run where the state of each node comes from. -/

namespace AsensingDriver

open R3HardwareMonitor

/-- The subscriptions of the monitor, and that of the indicator. -/
inductive Subscription
  | fix | status | imu | velocity | indicator
deriving DecidableEq

def Subscription.topic : Subscription → Topic
  | fix => .fix
  | status | indicator => .status
  | imu => .imu
  | velocity => .velocity

/-- What the nodes are started with, and the clocks that they read. -/
structure Setup (F : Type) where
  parameters : Parameters
  port : String
  baudrate : Int32
  initialStaticWindowSec : F
  timeoutSec : F
  setRPY : F → F → F → Quaternion F
  now : Nat → Time
  steady : Nat → Int
  steady_mono : Monotone steady
  indicatorClock : Int

/-- The default parameters of the nodes, with a steady clock that ticks once at each reading. -/
example {F : Type} [Double F] (setRPY : F → F → F → Quaternion F) : Setup F where
  parameters := ⟨"ins_link", "rtk_antenna_link", false, [4]⟩
  port := "/dev/ttyUSB0"
  baudrate := 230400
  initialStaticWindowSec := 60.0
  timeoutSec := 2.0
  setRPY
  now n := ⟨Int32.ofNat n, 0⟩
  steady n := n
  steady_mono := fun _ _ h => Int.ofNat_le.mpr h
  indicatorClock := 0

structure System (F : Type) where
  driver : Driver F
  links : Subscription → Link (Message F)
  monitor : R3HardwareMonitor F
  /-- The calls of the monitor so far. -/
  callbacks : List (Callback F)
  indicator : RTKIndicatorNode.World F

namespace System

/-- What may happen. -/
inductive Event
  | poll (os : PollAnswers)
  | deliver (s : Subscription)
  | lose (s : Subscription) (i : Nat)
  | marker (data : String)
  | snapshot
  | pass (ns : Nat)
  | adjust (ns : Int)

variable {F : Type} [Double F] (setup : Setup F)

def start : System F where
  driver := .start setup.port setup.baudrate
  links _ := .idle
  monitor := .started setup.steady setup.initialStaticWindowSec
  callbacks := []
  indicator := ⟨⟨setup.timeoutSec, none, 0⟩, setup.indicatorClock⟩

/-- The link of a subscription becomes `l`. -/
def relink (sys : System F) (s : Subscription) (l : Link (Message F)) : System F :=
  { sys with links := Function.update sys.links s l }

def call (sys : System F) (c : Callback F) : System F :=
  { sys with monitor := sys.monitor.handle setup.steady c, callbacks := sys.callbacks ++ [c] }

/-- A message arrives on a subscription. -/
def handOver (sys : System F) (s : Subscription) (m : Message F) : System F :=
  match s, m with
  | .fix, .fix message => sys.call setup (.fix message)
  | .status, .status message => sys.call setup (.status message)
  | .imu, .imu message => sys.call setup (.imu message)
  | .velocity, .velocity message => sys.call setup (.velocity message)
  | .indicator, .status message =>
    { sys with indicator := sys.indicator.step (.status message) }
  | _, _ => sys

def step (sys : System F) : Event → System F
  | .poll os =>
    let messages := publishAll setup.parameters setup.setRPY setup.now sys.driver.readings
      (sys.driver.node.poll os).samples
    { sys with
      driver := sys.driver.poll setup.parameters setup.setRPY setup.now os
      links := fun s => (sys.links s).send (messages.filter fun m => m.topic = s.topic) }
  | .deliver s =>
    match (sys.links s).flight.head? with
    | none => sys
    | some m => (sys.relink s (sys.links s).deliver).handOver setup s m
  | .lose s i => sys.relink s ((sys.links s).lose i)
  | .marker data => sys.call setup (.marker data)
  | .snapshot => sys.call setup .snapshot
  | .pass ns => { sys with indicator := sys.indicator.step (.pass ns) }
  | .adjust ns => { sys with indicator := sys.indicator.step (.adjust ns) }

def run (events : List Event) : System F := events.foldl (step setup) (start setup)

/-! ### The invariant -/

/-- The message of a call on a subscription of the monitor. -/
def messageOn : Subscription → Callback F → Option (Message F)
  | .fix, .fix message => some (.fix message)
  | .status, .status message => some (.status message)
  | .imu, .imu message => some (.imu message)
  | .velocity, .velocity message => some (.velocity message)
  | _, _ => none

/-- Where the state of the nodes comes from: what the driver has published from the bytes read, what
the links have handed over of it, and what the monitor and the indicator have received. -/
structure Consistent (sys : System F) : Prop where
  driver : sys.driver.Follows setup.parameters setup.setRPY setup.now
  sent : ∀ s, (sys.links s).sent = sys.driver.published.filter fun m => m.topic = s.topic
  sound : ∀ s, (sys.links s).Sound
  monitor : sys.monitor = .run setup.steady setup.initialStaticWindowSec sys.callbacks
  calls : ∀ s ≠ .indicator, sys.callbacks.filterMap (messageOn s) = (sys.links s).received
  indicator : sys.indicator.node.lastStatus =
    ((sys.links .indicator).received.filterMap Message.status?).getLast?

namespace Consistent

variable {setup} {sys : System F}

theorem start : Consistent setup (System.start setup) where
  driver := Driver.follows_start _ _ _ _ _
  sent _ := rfl
  sound _ := Link.sound_idle
  monitor := rfl
  calls _ _ := rfl
  indicator := rfl

/-- What a driver publishes in a poll is sent over the links. -/
theorem poll (h : Consistent setup sys) (os : PollAnswers) :
    Consistent setup (sys.step setup (.poll os)) where
  driver := Driver.follows_poll h.driver os
  sent s := by
    show (sys.links s).sent ++ _ = List.filter _ (sys.driver.published ++ _)
    rw [List.filter_append, h.sent s]
  sound s := (h.sound s).send _
  monitor := h.monitor
  calls := h.calls
  indicator := h.indicator

/-- A link that has sent the same keeps the system consistent but for what it has received. -/
theorem relink (h : Consistent setup sys) {s : Subscription} {l : Link (Message F)}
    (hsent : l.sent = (sys.links s).sent) (hsound : l.Sound) (s' : Subscription) :
    ((sys.relink s l).links s').sent = (sys.driver.published.filter fun m => m.topic = s'.topic) ∧
    ((sys.relink s l).links s').Sound := by
  show (Function.update sys.links s l s').sent = _ ∧ (Function.update sys.links s l s').Sound
  by_cases hs : s' = s
  · subst hs
    rw [Function.update_self, hsent]
    exact ⟨h.sent s', hsound⟩
  · rw [Function.update_of_ne hs]
    exact ⟨h.sent s', h.sound s'⟩

theorem lose (h : Consistent setup sys) (s : Subscription) (i : Nat) :
    Consistent setup (sys.step setup (.lose s i)) := by
  have hlinks := h.relink (l := (sys.links s).lose i) rfl ((h.sound s).lose i)
  have hreceived (s' : Subscription) :
      (Function.update sys.links s ((sys.links s).lose i) s').received =
        (sys.links s').received := by
    by_cases hs : s' = s
    · subst hs
      rw [Function.update_self]
      rfl
    · rw [Function.update_of_ne hs]
  exact ⟨h.driver, fun s' => (hlinks s').1, fun s' => (hlinks s').2, h.monitor,
    fun s' hs' => (h.calls s' hs').trans (hreceived s').symm,
    h.indicator.trans (congrArg (fun l => (l.filterMap Message.status?).getLast?)
      (hreceived .indicator).symm)⟩

/-- A call without a message changes nothing but the monitor. -/
theorem call (h : Consistent setup sys) {c : Callback F} (hc : ∀ s, messageOn s c = none) :
    Consistent setup (sys.call setup c) where
  driver := h.driver
  sent := h.sent
  sound := h.sound
  monitor := by
    show sys.monitor.handle setup.steady c = _
    rw [h.monitor, ← run_concat]
    rfl
  calls s hs := by
    show (sys.callbacks ++ [c]).filterMap (messageOn s) = (sys.links s).received
    rw [List.filterMap_append, h.calls s hs]
    simp [hc s]
  indicator := h.indicator

section Deliver

variable {s : Subscription} {m : Message F} {flight : List (Message F)}

/-- A message that arrives at the monitor is the message of a call. -/
theorem receive (h : Consistent setup sys) (hs : s ≠ .indicator)
    (hflight : (sys.links s).flight = m :: flight) {c : Callback F}
    (hc : messageOn s c = some m) (hother : ∀ s' ≠ s, messageOn s' c = none) :
    Consistent setup ((sys.relink s (sys.links s).deliver).call setup c) := by
  have hlinks := h.relink (l := (sys.links s).deliver) Link.deliver_sent (h.sound s).deliver
  refine ⟨h.driver, fun s' => (hlinks s').1, fun s' => (hlinks s').2, ?_, ?_, ?_⟩
  · show sys.monitor.handle setup.steady c = _
    rw [h.monitor, ← run_concat]
    rfl
  · intro s' hs'
    show (sys.callbacks ++ [c]).filterMap (messageOn s') =
      (Function.update sys.links s (sys.links s).deliver s').received
    rw [List.filterMap_append, h.calls s' hs']
    by_cases heq : s' = s
    · subst heq
      rw [Function.update_self, Link.deliver_of_cons hflight]
      simp [hc]
    · rw [Function.update_of_ne heq]
      simp [hother s' heq]
  · refine h.indicator.trans ?_
    show _ = ((Function.update sys.links s (sys.links s).deliver .indicator).received.filterMap
      Message.status?).getLast?
    rw [Function.update_of_ne hs.symm]

/-- A status that arrives at the indicator is the last one there. -/
theorem indicate (h : Consistent setup sys) {message : INSStatus F}
    (hflight : (sys.links .indicator).flight = .status message :: flight) :
    Consistent setup
      { sys.relink .indicator (sys.links .indicator).deliver with
        indicator := sys.indicator.step (.status message) } := by
  have hlinks := h.relink (l := (sys.links .indicator).deliver) Link.deliver_sent
    (h.sound .indicator).deliver
  refine ⟨h.driver, fun s' => (hlinks s').1, fun s' => (hlinks s').2, h.monitor, ?_, ?_⟩
  · intro s' hs'
    refine (h.calls s' hs').trans ?_
    show _ = (Function.update sys.links .indicator (sys.links .indicator).deliver s').received
    rw [Function.update_of_ne hs']
  · show some message = ((Function.update sys.links .indicator (sys.links .indicator).deliver
      .indicator).received.filterMap Message.status?).getLast?
    rw [Function.update_self, Link.deliver_of_cons hflight]
    simp [Message.status?]

theorem deliver (h : Consistent setup sys) (s : Subscription) :
    Consistent setup (sys.step setup (.deliver s)) := by
  simp only [step]
  cases hflight : (sys.links s).flight with
  | nil => exact h
  | cons m flight =>
    have htopic : m.topic = s.topic := by
      have hsent := (h.sound s).mem_sent (hflight ▸ List.mem_cons_self)
      rw [h.sent s] at hsent
      exact of_decide_eq_true (List.mem_filter.mp hsent).2
    -- The topic of the message leaves one kind of call for each subscription.
    cases s with
    | indicator =>
      cases m with
      | status message => exact h.indicate hflight
      | _ => cases htopic
    | fix =>
      cases m with
      | fix message => exact h.receive (by decide) hflight rfl (by intro s hs; cases s <;> trivial)
      | _ => cases htopic
    | status =>
      cases m with
      | status message =>
        exact h.receive (by decide) hflight rfl (by intro s hs; cases s <;> trivial)
      | _ => cases htopic
    | imu =>
      cases m with
      | imu message => exact h.receive (by decide) hflight rfl (by intro s hs; cases s <;> trivial)
      | _ => cases htopic
    | velocity =>
      cases m with
      | velocity message =>
        exact h.receive (by decide) hflight rfl (by intro s hs; cases s <;> trivial)
      | _ => cases htopic

end Deliver

theorem step (h : Consistent setup sys) (e : Event) : Consistent setup (sys.step setup e) := by
  cases e with
  | poll os => exact h.poll os
  | deliver s => exact h.deliver s
  | lose s i => exact h.lose s i
  | marker data => exact h.call (by intro s; cases s <;> rfl)
  | snapshot => exact h.call (by intro s; cases s <;> rfl)
  | pass ns => exact ⟨h.driver, h.sent, h.sound, h.monitor, h.calls, h.indicator⟩
  | adjust ns => exact ⟨h.driver, h.sent, h.sound, h.monitor, h.calls, h.indicator⟩

end Consistent

/-- Every run keeps the system consistent. -/
theorem run_consistent (events : List Event) : Consistent setup (run setup events) := by
  induction events using List.reverseRecOn with
  | nil => exact .start
  | append_singleton events e ih =>
    rw [run, List.foldl_append]
    exact ih.step e

/-! ### What reaches the nodes -/

/-- No message of the subscription is lost, and none is on the way. -/
def Complete (events : List Event) (s : Subscription) : Prop :=
  (∀ e ∈ events, ∀ i, e ≠ .lose s i) ∧ ((run setup events).links s).flight = []

/-- A link of which no message is lost stays intact. -/
theorem run_intact {events : List Event} {s : Subscription}
    (h : ∀ e ∈ events, ∀ i, e ≠ .lose s i) : ((run setup events).links s).Intact := by
  induction events using List.reverseRecOn with
  | nil => exact Link.intact_idle
  | append_singleton events e ih =>
    have hbefore := ih fun e he => h e (by simp [he])
    have hlast := h e (by simp)
    have hrun : run setup (events ++ [e]) = (run setup events).step setup e := by
      simp [run]
    have hrelink (s' : Subscription) (l : Link (Message F)) (hl : s' = s → l.Intact) :
        (((run setup events).relink s' l).links s).Intact := by
      show (Function.update (run setup events).links s' l s).Intact
      by_cases hs : s = s'
      · subst hs
        rw [Function.update_self]
        exact hl rfl
      · rw [Function.update_of_ne hs]
        exact hbefore
    have hcall (sys : System F) (s' : Subscription) (m : Message F) :
        (sys.handOver setup s' m).links = sys.links := by
      unfold handOver
      split <;> rfl
    rw [hrun]
    cases e with
    | poll os => exact hbefore.send _
    | deliver s' =>
      simp only [step]
      cases ((run setup events).links s').flight.head? with
      | none => exact hbefore
      | some m =>
        rw [hcall]
        exact hrelink s' _ fun hs => hs ▸ hbefore.deliver
    | lose s' i =>
      exact hrelink s' _ fun hs => absurd (hs ▸ rfl) (hlast i)
    | marker data => exact hbefore
    | snapshot => exact hbefore
    | pass ns => exact hbefore
    | adjust ns => exact hbefore

/-- What the driver has sent on a topic, message `k` from sample `k` of the bytes read. -/
def sentOn (sys : System F) (t : Topic) : List (Message F) :=
  (received F (chunks sys.driver.calls)).zipIdx.map fun (d, k) =>
    makeMessage setup.parameters setup.setRPY d (setup.now k) t

theorem sent_eq (events : List Event) (s : Subscription) :
    ((run setup events).links s).sent = sentOn setup (run setup events) s.topic := by
  have h := run_consistent setup events
  rw [h.sent s, h.driver.published]
  exact publishAll_topic _ _ _ 0 _ s.topic

/-- The messages `l` of a subscription are made from samples of the bytes read, in their order, and
from all of them once every message has arrived. -/
def MadeOf (events : List Event) (s : Subscription) {α : Type} (make : INSData F → Time → α)
    (l : List α) : Prop :=
  ∃ samples : List (INSData F × Nat),
    samples.Sublist (received F (chunks (run setup events).driver.calls)).zipIdx ∧
    l = samples.map (fun (d, k) => make d (setup.now k)) ∧
    (Complete setup events s →
      samples = (received F (chunks (run setup events).driver.calls)).zipIdx)

theorem received_madeOf (events : List Event) (s : Subscription) :
    MadeOf setup events s
      (fun d stamp => makeMessage setup.parameters setup.setRPY d stamp s.topic)
      ((run setup events).links s).received := by
  by_cases h : Complete setup events s
  · refine ⟨_, List.Sublist.refl _, ?_, fun _ => rfl⟩
    rw [(run_intact setup h.1).received h.2, sent_eq]
    rfl
  · have hsublist := ((run_consistent setup events).sound s).received
    rw [sent_eq] at hsublist
    obtain ⟨samples, hsamples, hreceived⟩ := List.sublist_map_iff.mp hsublist
    exact ⟨samples, hsamples, hreceived, fun hcomplete => absurd hcomplete h⟩

/-- The messages of one type that are made from the samples. -/
theorem MadeOf.filterMap {events : List Event} {s : Subscription} {α β : Type}
    {make : INSData F → Time → α} {l : List α} (h : MadeOf setup events s make l)
    {select : α → Option β} {make' : INSData F → Time → β}
    (hmake : ∀ d stamp, select (make d stamp) = some (make' d stamp)) :
    MadeOf setup events s make' (l.filterMap select) := by
  obtain ⟨samples, hsublist, rfl, hcomplete⟩ := h
  refine ⟨samples, hsublist, ?_, hcomplete⟩
  have hselect : (select ∘ fun x : INSData F × Nat => make x.1 (setup.now x.2)) =
      some ∘ fun x => make' x.1 (setup.now x.2) := funext fun x => hmake x.1 (setup.now x.2)
  rw [List.filterMap_map, hselect, List.filterMap_eq_map]

/-- In every run of the system: the monitor is in the state of its calls, the calls of a
subscription carry messages that the driver has made from the samples of the bytes read, in the
order of the samples and each at most once, and when none of them has been lost and none is on the
way, they carry one for each sample. -/
theorem run_subsequence (events : List Event) :
    let sys := run setup events
    sys.monitor = .run setup.steady setup.initialStaticWindowSec sys.callbacks ∧
    ∀ s ≠ .indicator,
      (sys.callbacks.filterMap (messageOn s)).Sublist (sentOn setup sys s.topic) ∧
      (Complete setup events s →
        sys.callbacks.filterMap (messageOn s) = sentOn setup sys s.topic) := by
  intro sys
  have h := run_consistent setup events
  refine ⟨h.monitor, fun s hs => ?_⟩
  rw [h.calls s hs, ← sent_eq]
  exact ⟨(h.sound s).received, fun hcomplete =>
    (run_intact setup hcomplete.1).received hcomplete.2⟩

end System

end AsensingDriver
