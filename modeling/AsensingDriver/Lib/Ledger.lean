import Mathlib.Data.Finset.Insert
import Mathlib.Data.Finset.Erase
import Mathlib.Tactic.Common

/-! Resources that a component acquires and releases.  The ledger of a trace is the set of the
resources acquired and not yet released; a sound trace acquires none that the ledger has and
releases none that it does not have, so none is released twice.  `run_owned` carries an invariant
from the operations of a component to its runs: the ledger is what the component owns. -/

namespace Ledger

inductive Event (α : Type)
  | acquire (a : α)
  | release (a : α)
deriving DecidableEq

variable {α : Type} [DecidableEq α]

/-- The ledger `s` after an event. -/
def Event.after (s : Finset α) : Event α → Finset α
  | acquire a => insert a s
  | release a => s.erase a

/-- The ledger `s` after a trace. -/
def held (s : Finset α) (events : List (Event α)) : Finset α := events.foldl Event.after s

/-- Each resource is acquired when the ledger does not have it, and released when it does. -/
def Sound (s : Finset α) : List (Event α) → Prop
  | [] => True
  | .acquire a :: events => a ∉ s ∧ Sound (insert a s) events
  | .release a :: events => a ∈ s ∧ Sound (s.erase a) events

variable {s : Finset α} {events events' : List (Event α)}

theorem held_append : held s (events ++ events') = held (held s events) events' :=
  List.foldl_append

theorem sound_append :
    Sound s (events ++ events') ↔ Sound s events ∧ Sound (held s events) events' := by
  induction events generalizing s with
  | nil => simp [Sound, held]
  | cons event events ih =>
    cases event with
    | acquire a =>
      show a ∉ s ∧ Sound (insert a s) (events ++ events') ↔ _
      rw [ih, ← and_assoc]
      rfl
    | release a =>
      show a ∈ s ∧ Sound (s.erase a) (events ++ events') ↔ _
      rw [ih, ← and_assoc]
      rfl

/-- The trace is sound, and turns the ledger `before` into `after`. -/
structure Keeps (before after : Finset α) (events : List (Event α)) : Prop where
  sound : Sound before events
  held : held before events = after

theorem Keeps.nil (s : Finset α) : Keeps s s [] := ⟨trivial, rfl⟩

theorem Keeps.append {s₁ s₂ s₃ : Finset α} (h : Keeps s₁ s₂ events) (h' : Keeps s₂ s₃ events') :
    Keeps s₁ s₃ (events ++ events') where
  sound := sound_append.mpr ⟨h.sound, by rw [h.held]; exact h'.sound⟩
  held := by rw [held_append, h.held, h'.held]

/-! ### Runs -/

section Runs

variable {σ op : Type} (step : σ → op → σ × List (Event α))

/-- The state after some operations, with the trace of all of them. -/
def run (state : σ) : List op → σ × List (Event α)
  | [] => (state, [])
  | o :: ops =>
    let (next, events) := step state o
    let (last, rest) := run next ops
    (last, events ++ rest)

variable {step} (owned : σ → Finset α)

/-- The run rule: when each operation keeps the ledger at what the component owns, so does a run. -/
theorem run_owned
    (steps : ∀ state o, Keeps (owned state) (owned (step state o).1) (step state o).2)
    (state : σ) (ops : List op) :
    Keeps (owned state) (owned (run step state ops).1) (run step state ops).2 := by
  induction ops generalizing state with
  | nil => exact Keeps.nil (owned state)
  | cons o ops ih => exact (steps state o).append (ih (step state o).1)

end Runs

end Ledger
