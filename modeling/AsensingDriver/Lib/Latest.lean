import Mathlib.Data.List.Find
import Mathlib.Data.List.Induction
import Mathlib.Tactic.Common

/-! Last writers.  `latest p l` is the last entry of `l` that satisfies `p`.  A state folded over a
list keeps in a field what the last entry that writes the field wrote (`foldl_latest`), and `trace`
lists the states that such a fold passes through.  `Adjacent R l` is a condition on each entry of a
list, the entry before it and the entries before that one. -/

namespace Latest

variable {α β σ : Type}

/-- The last entry of `l` that satisfies `p`. -/
def latest (p : α → Bool) (l : List α) : Option α := l.reverse.find? p

theorem latest_concat (p : α → Bool) (l : List α) (a : α) :
    latest p (l ++ [a]) = if p a then some a else latest p l := by
  unfold latest
  rw [List.reverse_concat, List.find?_cons]
  cases p a <;> rfl

theorem latest_isSome_iff {p : α → Bool} {l : List α} :
    (latest p l).isSome = true ↔ ∃ a ∈ l, p a = true := by
  simp [latest]

theorem latest_eq_some_iff {p : α → Bool} {l : List α} {a : α} :
    latest p l = some a ↔
      p a = true ∧ ∃ pre post, l = pre ++ a :: post ∧ ∀ b ∈ post, p b = false := by
  unfold latest
  rw [List.find?_eq_some_iff_append]
  refine and_congr_right fun _ => ?_
  constructor
  · rintro ⟨after, before, heq, hnone⟩
    refine ⟨before.reverse, after.reverse, ?_, ?_⟩
    · simpa using congrArg List.reverse heq
    · intro b hb
      simpa using hnone b (List.mem_reverse.mp hb)
  · rintro ⟨pre, post, rfl, hnone⟩
    refine ⟨post.reverse, pre.reverse, by simp, ?_⟩
    intro b hb
    simp [hnone b (List.mem_reverse.mp hb)]

/-- Only the entries of the list matter. -/
theorem latest_congr {p q : α → Bool} {l : List α} (h : ∀ a ∈ l, p a = q a) :
    latest p l = latest q l :=
  List.find?_congr fun a ha => h a (List.mem_reverse.mp ha)

/-- The last-writer rule: when a step sets a field exactly on the entries that `writes` selects,
the field holds after a fold what the last such entry wrote. -/
theorem foldl_latest {step : σ → α → σ} {field : σ → β} {writes : α → Bool} {value : α → β}
    (sets : ∀ s a, writes a = true → field (step s a) = value a)
    (keeps : ∀ s a, writes a = false → field (step s a) = field s) (s : σ) (l : List α) :
    field (l.foldl step s) = ((latest writes l).map value).getD (field s) := by
  induction l using List.reverseRecOn with
  | nil => rfl
  | append_singleton l a ih =>
    rw [List.foldl_append, List.foldl_cons, List.foldl_nil, latest_concat]
    cases ha : writes a
    · simp [keeps _ _ ha, ih]
    · simp [sets _ _ ha]

/-- The states after each entry of `l`, from the state `s`. -/
def trace (step : σ → α → σ) : σ → List α → List σ
  | _, [] => []
  | s, a :: l => step s a :: trace step (step s a) l

theorem trace_append (step : σ → α → σ) (s : σ) (l l' : List α) :
    trace step s (l ++ l') = trace step s l ++ trace step (l.foldl step s) l' := by
  induction l generalizing s with
  | nil => rfl
  | cons a l ih => simp [trace, ih]

/-- Entry `k` of the trace is the fold over the first `k + 1` entries. -/
theorem getElem?_trace (step : σ → α → σ) (s : σ) (l : List α) (k : Nat) :
    (trace step s l)[k]? = if k < l.length then some ((l.take (k + 1)).foldl step s) else none := by
  induction l generalizing s k with
  | nil => rfl
  | cons a l ih =>
    cases k with
    | zero => simp [trace]
    | succ k => simp [trace, ih]

theorem getElem?_trace_eq_some {step : σ → α → σ} {s d : σ} {l : List α} {k : Nat}
    (h : (trace step s l)[k]? = some d) :
    k < l.length ∧ d = (l.take (k + 1)).foldl step s := by
  rw [getElem?_trace] at h
  split at h
  · exact ⟨‹_›, by simpa using h.symm⟩
  · simp at h

theorem trace_map (step : σ → β → σ) (entry : α → β) (s : σ) (l : List α) :
    trace step s (l.map entry) = trace (fun s a => step s (entry a)) s l := by
  induction l generalizing s with
  | nil => rfl
  | cons a l ih => simp [trace, ih]

/-- A field that steps on its own passes through its own states. -/
theorem map_trace {step : σ → α → σ} {field : σ → β} {step' : β → α → β}
    (steps : ∀ s a, field (step s a) = step' (field s) a) (s : σ) (l : List α) :
    (trace step s l).map field = trace step' (field s) l := by
  induction l generalizing s with
  | nil => rfl
  | cons a l ih => simp [trace, steps, ih]

/-! ### Adjacent entries -/

/-- Each entry `b` of `l` that follows an entry `a` is related to `a` and to what precedes `a`. -/
def Adjacent (R : List α → α → α → Prop) (l : List α) : Prop :=
  ∀ pre a b post, l = pre ++ a :: b :: post → R pre a b

theorem adjacent_nil (R : List α → α → α → Prop) : Adjacent R [] := by
  intro pre a b post h
  simp at h

theorem adjacent_concat {R : List α → α → α → Prop} {l : List α} {b : α} :
    Adjacent R (l ++ [b]) ↔ Adjacent R l ∧ ∀ pre a, l = pre ++ [a] → R pre a b := by
  constructor
  · intro h
    constructor
    · intro pre a c post hl
      exact h pre a c (post ++ [b]) (by simp [hl])
    · intro pre a hl
      exact h pre a b [] (by simp [hl])
  · rintro ⟨hl, hb⟩ pre a c post heq
    rcases post.eq_nil_or_concat with rfl | ⟨post, d, rfl⟩
    · obtain ⟨hpre, rfl⟩ : l = pre ++ [a] ∧ b = c := by
        have : l ++ [b] = (pre ++ [a]) ++ [c] := by simpa using heq
        simpa using List.append_inj' this rfl
      exact hb pre a hpre
    · refine hl pre a c post ?_
      have : l ++ [b] = (pre ++ a :: c :: post) ++ [d] := by simpa using heq
      exact (List.append_inj' this rfl).1

end Latest
