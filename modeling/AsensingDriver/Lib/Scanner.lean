import Mathlib.Algebra.GroupWithZero.Nat
import Mathlib.Data.List.Basic
import Mathlib.Tactic.Common

/-! Resynchronising scanners.  A scanner looks at the front of a buffer and either waits for more
input, drops one symbol, or takes a frame off the front.  `Runs` is a run over one buffer until the
scanner waits, and `Feeds` is a sequence of such runs in which each call appends its chunk to what
the call before it left.  The pieces of a run tile its input, and each piece was decided by the
scanner at the place where the piece begins. -/

namespace Resync

/-- What a scanner does at the front of its buffer: wait for more input, drop the first symbol, or
take the first `n` symbols as a frame. -/
inductive Verdict
  | wait
  | skip
  | take (n : Nat)
  deriving DecidableEq, Repr

/-- A scanner leaves an empty buffer alone, and the frames that it takes are not empty and lie in
the buffer. -/
structure Scanner (α : Type) where
  verdict : List α → Verdict
  verdict_nil : verdict [] = .wait
  take_pos : ∀ {b : List α} {n : Nat}, verdict b = .take n → 0 < n
  take_le : ∀ {b : List α} {n : Nat}, verdict b = .take n → n ≤ b.length

/-- A piece of the scanned input: a symbol that was dropped, or a frame. -/
inductive Item (α : Type)
  | skipped (a : α)
  | frame (symbols : List α)
  deriving DecidableEq, Repr

variable {α : Type}

def Item.symbols : Item α → List α
  | .skipped a => [a]
  | .frame f => f

def Item.frame? : Item α → Option (List α)
  | .skipped _ => none
  | .frame f => some f

/-- The input that a list of pieces covers. -/
def symbols (items : List (Item α)) : List α := items.flatMap Item.symbols

/-- The frames of a list of pieces, in order. -/
def frames (items : List (Item α)) : List (List α) := items.filterMap Item.frame?

@[simp] theorem symbols_nil : symbols ([] : List (Item α)) = [] := rfl

@[simp] theorem symbols_cons (it : Item α) (items : List (Item α)) :
    symbols (it :: items) = it.symbols ++ symbols items := rfl

@[simp] theorem symbols_append (items items' : List (Item α)) :
    symbols (items ++ items') = symbols items ++ symbols items' := by
  simp [symbols]

@[simp] theorem frames_nil : frames ([] : List (Item α)) = [] := rfl

@[simp] theorem frames_frame (f : List α) (items : List (Item α)) :
    frames (.frame f :: items) = f :: frames items := rfl

@[simp] theorem frames_append (items items' : List (Item α)) :
    frames (items ++ items') = frames items ++ frames items' := by
  simp [frames]

/-- A frame of a list of pieces is one of the pieces. -/
theorem mem_frames {f : List α} {items : List (Item α)} :
    f ∈ frames items ↔ Item.frame f ∈ items := by
  simp only [frames, List.mem_filterMap]
  constructor
  · rintro ⟨_ | g, hit, hf⟩
    · simp [Item.frame?] at hf
    · simp only [Item.frame?, Option.some.injEq] at hf
      exact hf ▸ hit
  · intro h
    exact ⟨_, h, rfl⟩

/-- The frames are part of what the pieces cover. -/
theorem length_frames_le (items : List (Item α)) :
    ((frames items).map List.length).sum ≤ (symbols items).length := by
  induction items with
  | nil => exact Nat.le_refl _
  | cons it items ih =>
    rw [symbols_cons, List.length_append]
    cases it with
    | skipped a => exact Nat.le_add_left_of_le ih
    | frame f =>
      rw [frames_frame, List.map_cons, List.sum_cons]
      exact Nat.add_le_add_left ih _

/-- A run from the buffer `b`: the pieces that it cuts off, and what it leaves when it waits. -/
inductive Runs (sc : Scanner α) : List α → List (Item α) → List α → Prop
  | stop {b : List α} (waits : sc.verdict b = .wait) : Runs sc b [] b
  | skip {a : α} {b rest : List α} {items : List (Item α)} (skips : sc.verdict (a :: b) = .skip)
      (tail : Runs sc b items rest) : Runs sc (a :: b) (.skipped a :: items) rest
  | take {b rest : List α} {n : Nat} {items : List (Item α)} (takes : sc.verdict b = .take n)
      (tail : Runs sc (b.drop n) items rest) : Runs sc b (.frame (b.take n) :: items) rest

/-- A sequence of runs: each call appends its chunk to what the call before it left. -/
inductive Feeds (sc : Scanner α) : List α → List (List α) → List (Item α) → List α → Prop
  | done {b : List α} : Feeds sc b [] [] b
  | call {b c mid rest : List α} {cs : List (List α)} {items items' : List (Item α)}
      (run : Runs sc (b ++ c) items mid) (tail : Feeds sc mid cs items' rest) :
      Feeds sc b (c :: cs) (items ++ items') rest

/-- The scanner decides the piece `it` when its buffer is `b`. -/
def Decides (sc : Scanner α) (b : List α) : Item α → Prop
  | .skipped a => sc.verdict b = .skip ∧ ∃ tail, b = a :: tail
  | .frame f => sc.verdict b = .take f.length ∧ f <+: b

namespace Runs

variable {sc : Scanner α} {b rest : List α} {items : List (Item α)}

/-- The pieces and the rest tile the buffer. -/
theorem tiles (h : Runs sc b items rest) : symbols items ++ rest = b := by
  induction h with
  | stop => rfl
  | skip _ _ ih => simp [Item.symbols, ih]
  | take _ _ ih => simp [Item.symbols, ih]

theorem waits (h : Runs sc b items rest) : sc.verdict rest = .wait := by
  induction h with
  | stop h => exact h
  | skip _ _ ih => exact ih
  | take _ _ ih => exact ih

/-- A scanner that waits cuts nothing off. -/
theorem of_wait (hwait : sc.verdict b = .wait) (h : Runs sc b items rest) :
    items = [] ∧ rest = b := by
  cases h with
  | stop => exact ⟨rfl, rfl⟩
  | skip h1 => simp [hwait] at h1
  | take h1 => simp [hwait] at h1

/-- A scanner that takes a frame runs on behind it. -/
theorem of_take {n : Nat} (htake : sc.verdict b = .take n) (h : Runs sc b items rest) :
    ∃ items', items = .frame (b.take n) :: items' ∧ Runs sc (b.drop n) items' rest := by
  cases h with
  | stop h1 => simp [htake] at h1
  | skip h1 => simp [htake] at h1
  | take h1 tail =>
    obtain rfl := Verdict.take.inj (htake.symm.trans h1)
    exact ⟨_, rfl, tail⟩

/-- A buffer has one run. -/
theorem unique {rest' : List α} {items' : List (Item α)} (h : Runs sc b items rest)
    (h' : Runs sc b items' rest') : items = items' ∧ rest = rest' := by
  induction h generalizing items' rest' with
  | stop h =>
    obtain ⟨rfl, rfl⟩ := of_wait h h'
    exact ⟨rfl, rfl⟩
  | skip h _ ih =>
    cases h' with
    | stop h1 => simp [h] at h1
    | skip _ t => exact ⟨by rw [(ih t).1], (ih t).2⟩
    | take h1 => simp [h] at h1
  | take h _ ih =>
    obtain ⟨_, rfl, t⟩ := of_take h h'
    exact ⟨by rw [(ih t).1], (ih t).2⟩

/-- What follows some of the pieces of a run is a run of its own. -/
theorem suffix {pre post : List (Item α)} (h : Runs sc b (pre ++ post) rest) :
    Runs sc (symbols post ++ rest) post rest := by
  induction pre generalizing b with
  | nil => exact (tiles h).symm ▸ h
  | cons it pre ih =>
    cases h with
    | skip _ tail => exact ih tail
    | take _ tail => exact ih tail

/-- The first piece of a run was decided on the whole buffer. -/
theorem decides_head {it : Item α} (h : Runs sc b (it :: items) rest) : Decides sc b it := by
  cases h with
  | skip h _ => exact ⟨h, _, rfl⟩
  | take h _ =>
    have := sc.take_le h
    exact ⟨by rw [List.length_take, Nat.min_eq_left this, h], List.take_prefix _ _⟩

end Runs

namespace Feeds

variable {sc : Scanner α} {b rest : List α} {cs : List (List α)} {items : List (Item α)}

/-- The pieces and the rest tile the buffer followed by all chunks. -/
theorem tiles (h : Feeds sc b cs items rest) : symbols items ++ rest = b ++ cs.flatten := by
  induction h with
  | done => simp
  | call run _ ih =>
    rw [symbols_append, List.append_assoc, ih, ← List.append_assoc, run.tiles]
    simp

theorem waits (h : Feeds sc b cs items rest) (hb : sc.verdict b = .wait) :
    sc.verdict rest = .wait := by
  induction h with
  | done => exact hb
  | call run _ ih => exact ih run.waits

/-- Each piece was decided on a buffer that begins where the piece begins in the input. -/
theorem decided {it : Item α} {pre post : List (Item α)}
    (h : Feeds sc b cs (pre ++ it :: post) rest) :
    ∃ n, Decides sc ((symbols (it :: post) ++ rest).take n) it := by
  generalize hitems : pre ++ it :: post = items at h
  induction h generalizing pre with
  | done => simp at hitems
  | @call b c mid rest cs items items' run tail ih =>
    rcases List.append_eq_append_iff.mp hitems with ⟨mid', rfl, hpost⟩ | ⟨pre', rfl, hpost⟩
    · cases mid' with
      | nil => exact ih (show [] ++ it :: post = items' from hpost)
      | cons it' mid' =>
        obtain ⟨rfl, rfl⟩ : it = it' ∧ post = mid' ++ items' := by simpa using hpost
        refine ⟨(symbols (it :: mid') ++ mid).length, ?_⟩
        have hsplit : symbols (it :: (mid' ++ items')) ++ rest =
            (symbols (it :: mid') ++ mid) ++ cs.flatten := by
          rw [← List.cons_append, symbols_append, List.append_assoc, tail.tiles,
            List.append_assoc]
        rw [hsplit, List.take_left]
        exact run.suffix.decides_head
    · exact ih hpost.symm

end Feeds

end Resync
