import Mathlib.Data.List.Basic

/-! Readers that look at the front of what has arrived.  A reader waits, or it removes some symbols
with or without an output, and once it has decided, more input does not change what it does.  What
such a reader puts out depends on the whole input alone, not on the chunks in which it arrives
(`Feeds.reads`). -/

namespace Incremental

/-- What a reader does next: it removes the first `n` symbols, with an output or without one. -/
structure Reader (α β : Type) where
  next : List α → Option (Nat × Option β)
  bounds : ∀ {b : List α} {n : Nat} {o : Option β}, next b = some (n, o) → 0 < n ∧ n ≤ b.length
  append : ∀ {b : List α} {r : Nat × Option β} (x : List α), next b = some r →
    next (b ++ x) = some r

variable {α β : Type}

/-- A run over the buffer `b`: the outputs, and what is left when the reader waits. -/
inductive Reads (r : Reader α β) : List α → List β → List α → Prop
  | wait {b : List α} (h : r.next b = none) : Reads r b [] b
  | step {b rest : List α} {n : Nat} {o : Option β} {os : List β} (h : r.next b = some (n, o))
      (tail : Reads r (b.drop n) os rest) : Reads r b (o.toList ++ os) rest

/-- A sequence of runs: each call appends its chunk to what the call before it left. -/
inductive Feeds (r : Reader α β) : List α → List (List α) → List β → List α → Prop
  | done {b : List α} : Feeds r b [] [] b
  | call {b c mid rest : List α} {cs : List (List α)} {os os' : List β}
      (run : Reads r (b ++ c) os mid) (tail : Feeds r mid cs os' rest) :
      Feeds r b (c :: cs) (os ++ os') rest

variable {r : Reader α β} {b mid rest rest' : List α} {os os' : List β}

/-- A buffer has one run. -/
theorem Reads.unique (h : Reads r b os rest) (h' : Reads r b os' rest') :
    os = os' ∧ rest = rest' := by
  induction h generalizing os' rest' with
  | wait hwait =>
    cases h' with
    | wait => exact ⟨rfl, rfl⟩
    | step hstep => simp [hwait] at hstep
  | step hstep _ ih =>
    cases h' with
    | wait hwait => simp [hwait] at hstep
    | step hstep' tail' =>
      rw [hstep, Option.some.injEq, Prod.mk.injEq] at hstep'
      obtain ⟨rfl, rfl⟩ := hstep'
      obtain ⟨rfl, rfl⟩ := ih tail'
      exact ⟨rfl, rfl⟩

/-- A reader goes on where it has waited. -/
theorem Reads.append {x : List α} (h : Reads r b os mid) (h' : Reads r (mid ++ x) os' rest) :
    Reads r (b ++ x) (os ++ os') rest := by
  induction h with
  | wait => exact h'
  | step hstep _ ih =>
    rw [List.append_assoc]
    refine .step (r.append x hstep) ?_
    rw [List.drop_append_of_le_length (r.bounds hstep).2]
    exact ih h'

theorem Reads.waits (h : Reads r b os rest) : r.next rest = none := by
  induction h with
  | wait hwait => exact hwait
  | step _ _ ih => exact ih

/-- A sequence of calls puts out what one call with the whole input does. -/
theorem Feeds.reads {cs : List (List α)} (h : Feeds r b cs os rest) (hb : r.next b = none) :
    Reads r (b ++ cs.flatten) os rest := by
  induction h with
  | done =>
    rw [List.flatten_nil, List.append_nil]
    exact .wait hb
  | call run _ ih =>
    rw [List.flatten_cons, ← List.append_assoc]
    exact run.append (ih run.waits)

end Incremental
