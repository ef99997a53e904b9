import Mathlib.Data.List.Chain
import Mathlib.Data.List.Induction
import Mathlib.Tactic.Common

/-! The changes along a list: its adjacent entries that differ, in order, each with the entry before
it.  Each change starts where the one before it ended, and the last one ends at the last entry.  The
descents are the places where an entry is less than the one before it. -/

namespace Changes

section Pairs

variable {α : Type} [DecidableEq α]

/-- The change from `a` to `b`, if they differ. -/
def change (a b : α) : List (α × α) := if a = b then [] else [(a, b)]

/-- The change from the last value to `b`, if there is a last value. -/
def changeFrom (last : Option α) (b : α) : List (α × α) := last.toList.flatMap fun a => change a b

/-- The adjacent entries of a list that differ. -/
def changes : List α → List (α × α)
  | a :: b :: l => change a b ++ changes (b :: l)
  | [_] | [] => []

theorem mem_change {a b : α} {p : α × α} (h : p ∈ change a b) : p = (a, b) ∧ a ≠ b := by
  unfold change at h
  split at h
  · simp at h
  · rename_i hne
    exact ⟨List.mem_singleton.mp h, hne⟩

/-- One more entry changes from the last one. -/
theorem changes_concat (l : List α) (b : α) :
    changes (l ++ [b]) = changes l ++ changeFrom l.getLast? b := by
  induction l with
  | nil => rfl
  | cons a l ih =>
    cases l with
    | nil => simp [changes, changeFrom]
    | cons c l =>
      rw [List.cons_append, List.cons_append, changes, changes, ← List.cons_append, ih,
        List.getLast?_cons_cons, List.append_assoc]

/-- The two ends of a change differ. -/
theorem ne_of_mem_changes {l : List α} {p : α × α} (h : p ∈ changes l) : p.1 ≠ p.2 := by
  induction l with
  | nil => simp [changes] at h
  | cons a l ih =>
    cases l with
    | nil => simp [changes] at h
    | cons b l =>
      rcases List.mem_append.mp h with h | h
      · obtain ⟨rfl, hne⟩ := mem_change h
        exact hne
      · exact ih h

/-- The last change ends at the last entry. -/
theorem getLast?_of_changes {l : List α} {p : α × α} (h : p ∈ (changes l).getLast?) :
    l.getLast? = some p.2 := by
  induction l using List.reverseRecOn with
  | nil => simp [changes] at h
  | append_singleton l b ih =>
    rw [List.getLast?_concat]
    rw [changes_concat] at h
    cases hlast : l.getLast? with
    | none =>
      rw [hlast, changeFrom, Option.toList_none, List.flatMap_nil, List.append_nil] at h
      exact absurd (hlast.symm.trans (ih h)) (by simp)
    | some a =>
      rw [hlast] at h
      by_cases hab : a = b
      · simp only [changeFrom, change, hab, Option.toList_some, List.flatMap_singleton, if_pos,
          List.append_nil] at h
        rw [← ih h, hlast, hab]
      · simp only [changeFrom, change, hab, Option.toList_some, List.flatMap_singleton, if_false,
          List.getLast?_concat, Option.mem_some_iff] at h
        rw [← h]

/-- Each change starts where the one before it ended. -/
theorem changes_isChain (l : List α) : (changes l).IsChain fun p q => p.2 = q.1 := by
  induction l using List.reverseRecOn with
  | nil => exact .nil
  | append_singleton l b ih =>
    rw [changes_concat, List.isChain_append]
    cases hlast : l.getLast? with
    | none => simpa [changeFrom] using ih
    | some a =>
      rw [changeFrom, Option.toList_some, List.flatMap_singleton]
      refine ⟨ih, ?_, ?_⟩
      · unfold change
        split
        · exact .nil
        · exact .singleton _
      · intro p hp q hq
        rw [(mem_change (List.mem_of_mem_head? hq)).1]
        exact Option.some.inj ((getLast?_of_changes hp).symm.trans hlast)

end Pairs

/-! ### Descents -/

section Descents

variable {α : Type} (lt : α → α → Bool)

/-- The number of entries that are less than the entry before them. -/
def descents : List α → Nat
  | a :: b :: l => (if lt b a then 1 else 0) + descents (b :: l)
  | [_] | [] => 0

/-- One more entry is compared with the last one. -/
theorem descents_concat (l : List α) (b : α) :
    descents lt (l ++ [b]) = descents lt l + if l.getLast?.any (lt b) then 1 else 0 := by
  induction l with
  | nil => rfl
  | cons a l ih =>
    cases l with
    | nil => cases h : lt b a <;> simp [descents, h]
    | cons c l =>
      rw [List.cons_append, List.cons_append, descents, descents, ← List.cons_append, ih,
        List.getLast?_cons_cons, Nat.add_assoc]

end Descents

end Changes
