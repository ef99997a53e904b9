import Mathlib.Data.List.Basic

/-! Links between a sender and a receiver.  A link hands messages over in the order in which they
were sent, each at most once, and may lose any of them on the way.  `Sound` is what every use of a
link keeps, and `Intact` what every use without a loss keeps. -/

/-- A link with what has been sent, what is on the way, and what has been received. -/
structure Link (α : Type) where
  sent : List α
  flight : List α
  received : List α

namespace Link

variable {α : Type} (l : Link α)

def idle : Link α := ⟨[], [], []⟩

def send (as : List α) : Link α :=
  { l with sent := l.sent ++ as, flight := l.flight ++ as }

/-- The message at position `i` on the way is lost. -/
def lose (i : Nat) : Link α := { l with flight := l.flight.eraseIdx i }

/-- The first message on the way is received. -/
def deliver : Link α :=
  match l.flight with
  | [] => l
  | a :: flight => { l with flight := flight, received := l.received ++ [a] }

/-- What has been received and what is on the way was sent, in this order. -/
def Sound : Prop := (l.received ++ l.flight).Sublist l.sent

/-- All that has been sent is received or on the way. -/
def Intact : Prop := l.received ++ l.flight = l.sent

variable {l}

theorem deliver_of_nil (h : l.flight = []) : l.deliver = l := by
  simp [deliver, h]

theorem deliver_of_cons {a : α} {flight : List α} (h : l.flight = a :: flight) :
    l.deliver = { l with flight := flight, received := l.received ++ [a] } := by
  simp [deliver, h]

theorem deliver_sent : l.deliver.sent = l.sent := by
  unfold deliver
  split <;> rfl

/-- A delivery keeps what is received and on the way together. -/
theorem deliver_all : l.deliver.received ++ l.deliver.flight = l.received ++ l.flight := by
  cases h : l.flight with
  | nil => rw [deliver_of_nil h, h]
  | cons a flight => simp [deliver_of_cons h]

theorem sound_idle : Sound (idle : Link α) := List.Sublist.refl []

theorem Sound.send (h : l.Sound) (as : List α) : (l.send as).Sound := by
  show (l.received ++ (l.flight ++ as)).Sublist (l.sent ++ as)
  rw [← List.append_assoc]
  exact h.append (List.Sublist.refl as)

theorem Sound.lose (h : l.Sound) (i : Nat) : (l.lose i).Sound :=
  ((List.Sublist.refl _).append (List.eraseIdx_sublist _ i)).trans h

theorem Sound.deliver (h : l.Sound) : l.deliver.Sound := by
  rw [Sound, deliver_all, deliver_sent]
  exact h

theorem Sound.received (h : l.Sound) : l.received.Sublist l.sent :=
  (List.sublist_append_left _ _).trans h

/-- A message on the way was sent. -/
theorem Sound.mem_sent {a : α} (h : l.Sound) (ha : a ∈ l.flight) : a ∈ l.sent :=
  h.subset (List.mem_append_right _ ha)

theorem intact_idle : Intact (idle : Link α) := rfl

theorem Intact.send (h : l.Intact) (as : List α) : (l.send as).Intact := by
  show l.received ++ (l.flight ++ as) = l.sent ++ as
  rw [← List.append_assoc, h]

theorem Intact.deliver (h : l.Intact) : l.deliver.Intact := by
  rw [Intact, deliver_all, deliver_sent]
  exact h

/-- An intact link with nothing on the way has handed over all that was sent. -/
theorem Intact.received (h : l.Intact) (hflight : l.flight = []) : l.received = l.sent := by
  rw [← h, hflight, List.append_nil]

end Link
