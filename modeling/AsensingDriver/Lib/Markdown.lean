import Mathlib.Data.List.Nodup
import Mathlib.Data.List.TakeWhile
import Mathlib.Tactic.Common

/-! Texts of lines in sections.  `splitOn_unlines` reads the lines back, `below_layout` the lines
below a heading, and `readItem` and `readRow` what stands in a line of a list and of a table. -/

namespace Markdown

/-! ### Lines -/

section Lines

variable {α : Type} [DecidableEq α] {e : α}

/-- Lines, each with the end `e`. -/
def unlines (e : α) (ls : List (List α)) : List α := ls.flatMap fun l => l ++ [e]

omit [DecidableEq α] in
theorem unlines_append (ls ls' : List (List α)) :
    unlines e (ls ++ ls') = unlines e ls ++ unlines e ls' := List.flatMap_append

theorem splitOn_unlines {ls : List (List α)} (h : ∀ l ∈ ls, e ∉ l) (t : List α) :
    (unlines e ls ++ t).splitOn e = ls ++ t.splitOn e := by
  induction ls with
  | nil => rfl
  | cons l ls ih =>
    have htail := ih fun l hl => h l (List.mem_cons_of_mem _ hl)
    have hcons : unlines e (l :: ls) ++ t = l ++ e :: (unlines e ls ++ t) := by simp [unlines]
    rw [hcons, List.splitOn_append_cons_self_of_not_mem (h l List.mem_cons_self), htail]
    rfl

/-- No line holds an end. -/
theorem not_mem_of_mem_splitOn {t l : List α} (h : l ∈ t.splitOn e) : e ∉ l := by
  induction t generalizing l with
  | nil =>
    rw [List.splitOn_nil, List.mem_singleton] at h
    exact h ▸ List.not_mem_nil
  | cons a t ih =>
    rw [List.splitOn_cons_eq_if_modifyHead] at h
    split at h
    · rcases List.mem_cons.mp h with rfl | h
      · exact List.not_mem_nil
      · exact ih h
    · rename_i hne
      cases hsplit : t.splitOn e with
      | nil => exact absurd hsplit (List.splitOn_ne_nil e t)
      | cons l' ls =>
        rw [hsplit] at h ih
        rcases List.mem_cons.mp h with rfl | h
        · intro hmem
          rcases List.mem_cons.mp hmem with rfl | hmem
          · exact hne (beq_self_eq_true _)
          · exact ih List.mem_cons_self hmem
        · exact ih (List.mem_cons_of_mem _ h)

end Lines

/-! ### Sections -/

section Sections

variable {L : Type} [DecidableEq L]

/-- A heading and the lines below it. -/
structure Section (L : Type) where
  heading : L
  body : List L

def layout (ss : List (Section L)) : List L := ss.flatMap fun s => s.heading :: s.body

/-- The lines below the first line `h`, up to a heading. -/
def below (heading : L → Bool) (h : L) (ls : List L) : List L :=
  (ls.dropWhile (· != h)).tail.takeWhile (!heading ·)

/-- Each section has a heading of its own, and only that. -/
structure Formed (heading : L → Bool) (ss : List (Section L)) : Prop where
  headings : ∀ s ∈ ss, heading s.heading = true
  bodies : ∀ s ∈ ss, ∀ l ∈ s.body, heading l = false
  distinct : (ss.map (·.heading)).Nodup

omit [DecidableEq L] in
theorem Formed.left {heading : L → Bool} {ss ss' : List (Section L)}
    (h : Formed heading (ss ++ ss')) : Formed heading ss where
  headings s hs := h.headings s (List.mem_append_left _ hs)
  bodies s hs := h.bodies s (List.mem_append_left _ hs)
  distinct := (List.map_append ▸ h.distinct).of_append_left

omit [DecidableEq L] in
theorem layout_append (ss ss' : List (Section L)) : layout (ss ++ ss') = layout ss ++ layout ss' :=
  List.flatMap_append

/-- The lines of a text that stand below a line of it are lines of the text. -/
theorem below_subset (heading : L → Bool) (h : L) (ls : List L) : below heading h ls ⊆ ls := by
  intro l hl
  have hrest := List.mem_of_mem_tail ((List.takeWhile_prefix _).subset hl)
  exact (List.dropWhile_suffix _).subset hrest

/-- Behind well formed sections, nothing but a heading ends the last of them. -/
theorem below_layout {heading : L → Bool} {ss : List (Section L)} (h : Formed heading ss)
    {s : Section L} (hs : s ∈ ss) {rest : List L} (hrest : ∀ l ∈ rest.head?, heading l = true) :
    below heading s.heading (layout ss ++ rest) = s.body := by
  obtain ⟨before, after, rfl⟩ := List.append_of_mem hs
  have hsplit : layout (before ++ s :: after) ++ rest =
      layout before ++ s.heading :: (s.body ++ (layout after ++ rest)) := by simp [layout]
  have hbefore : ∀ l ∈ layout before, (l != s.heading) = true := by
    intro l hl
    obtain ⟨s', hs', hl⟩ := List.mem_flatMap.mp hl
    rw [bne_iff_ne]
    rintro rfl
    rcases List.mem_cons.mp hl with hsame | hl
    · have hdistinct := h.distinct
      rw [List.map_append, List.map_cons, List.nodup_append] at hdistinct
      exact hdistinct.2.2 _ (List.mem_map_of_mem hs') _ List.mem_cons_self hsame.symm
    · have hbody := h.bodies s' (List.mem_append_left _ hs') _ hl
      rw [h.headings s hs] at hbody
      cases hbody
  have hnext : ∀ l ∈ (layout after ++ rest).head?, heading l = true := by
    cases after with
    | nil => exact hrest
    | cons s' after =>
      intro l hl
      obtain rfl : s'.heading = l := Option.some.inj hl
      exact h.headings s' (by simp)
  have hbody : ∀ l ∈ s.body, (!heading l) = true := fun l hl => by rw [h.bodies s hs l hl]; rfl
  rw [below, hsplit, List.dropWhile_append_of_pos hbefore,
    List.dropWhile_cons_of_neg (by simp), List.tail_cons, List.takeWhile_append_of_pos hbody]
  cases hlast : layout after ++ rest with
  | nil => simp
  | cons l ls =>
    rw [hlast] at hnext
    rw [List.takeWhile_cons_of_neg (by simp [hnext l rfl]), List.append_nil]

end Sections

/-! ### Items and rows -/

/-- The key and the value in the line `- key: value`. -/
def readItem (line : List Char) : Option (List Char × List Char) :=
  match line with
  | '-' :: ' ' :: text =>
    match text.dropWhile (· != ':') with
    | ':' :: ' ' :: value => some (text.takeWhile (· != ':'), value)
    | _ => none
  | _ => none

/-- The cells of a row of a table. -/
def readRow (line : List Char) : List (List Char) :=
  (line.splitOn '|').tail.dropLast.map fun cell => cell.tail.dropLast

/-- The name and the value in `name=value`, behind blanks. -/
def readField (f : List Char) : List Char × List Char :=
  let f := f.dropWhile (· == ' ')
  (f.takeWhile (· != '='), (f.dropWhile (· != '=')).tail)

/-- The fields between commas. -/
def readFields (text : List Char) : List (List Char × List Char) :=
  (text.splitOn ',').map readField

example : readRow "| a | b c |".toList = ["a".toList, "b c".toList] := by decide

/-- A value is a part of its line. -/
theorem subset_of_readItem {line key value : List Char} (h : readItem line = some (key, value)) :
    value ⊆ line := by
  unfold readItem at h
  split at h
  · rename_i text
    split at h
    · rename_i rest hrest
      obtain ⟨-, rfl⟩ := Prod.mk.inj (Option.some.inj h)
      have hsuffix : ':' :: ' ' :: rest <:+ text := hrest ▸ List.dropWhile_suffix _
      exact fun c hc => List.mem_cons_of_mem _ (List.mem_cons_of_mem _
        (hsuffix.subset (List.mem_cons_of_mem _ (List.mem_cons_of_mem _ hc))))
    · cases h
  · cases h

theorem readItem_item {key : List Char} (h : ':' ∉ key) (value : List Char) :
    readItem ('-' :: ' ' :: (key ++ ':' :: ' ' :: value)) = some (key, value) := by
  have hkey : ∀ c ∈ key, (c != ':') = true :=
    fun c hc => bne_iff_ne.mpr fun hcolon => h (hcolon ▸ hc)
  rw [readItem, List.dropWhile_append_of_pos hkey, List.takeWhile_append_of_pos hkey]
  simp

/-- The cells, each between blanks and behind a bar, with a bar at the end. -/
theorem readRow_row {cells : List (List Char)} (h : ∀ c ∈ cells, '|' ∉ c) :
    readRow ('|' :: cells.flatMap fun c => ' ' :: (c ++ [' ', '|'])) = cells := by
  have hrow : (cells.flatMap fun c => ' ' :: (c ++ [' ', '|'])) =
      unlines '|' (cells.map fun c => ' ' :: (c ++ [' '])) ++ [] := by
    simp [unlines, List.flatMap_map]
  have hcells : ∀ l ∈ cells.map fun c => ' ' :: (c ++ [' ']), '|' ∉ l := by
    intro l hl
    obtain ⟨c, hc, rfl⟩ := List.mem_map.mp hl
    simp [h c hc]
  have hsplit (t : List Char) : ([] ++ '|' :: t).splitOn '|' = [] :: t.splitOn '|' :=
    List.splitOn_append_cons_self_of_not_mem List.not_mem_nil t
  rw [readRow, ← List.nil_append ('|' :: _), hsplit, hrow, splitOn_unlines hcells]
  simp [Function.comp_def]

theorem readFields_of_not_mem {f : List Char} (h : ',' ∉ f) : readFields f = [readField f] := by
  rw [readFields, List.splitOn_eq_singleton h, List.map_singleton]

theorem readFields_cons {f : List Char} (h : ',' ∉ f) (text : List Char) :
    readFields (f ++ ',' :: text) = readField f :: readFields text := by
  rw [readFields, List.splitOn_append_cons_self_of_not_mem h, List.map_cons, readFields]

end Markdown
