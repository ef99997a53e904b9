import Mathlib.Data.Option.Basic
import Mathlib.Logic.Function.Basic

/-! Files.  A file system maps a path to the content of a file, or to nothing.  The last argument of
an operation says whether the system lets it succeed: a failed operation leaves everything as it
was. -/

/-- The content of every path that holds a file. -/
def Files (P C : Type) : Type := P → Option C

namespace Files

variable {P C : Type} [DecidableEq P] (files : Files P C)

/-- The file at `p` gets the content `c`. -/
def store (p : P) (c : C) (ok : Bool) : Files P C :=
  if ok then Function.update files p (some c) else files

def remove (p : P) (ok : Bool) : Files P C :=
  if ok then Function.update files p none else files

/-- The file at `src` moves to `dst` in one step; without such a file there is an error. -/
def rename (src dst : P) (ok : Bool) : Files P C × Bool :=
  match ok, files src with
  | true, some c => (Function.update (Function.update files src none) dst (some c), true)
  | true, none | false, _ => (files, false)

variable {p q src dst : P} (ok : Bool)

@[simp] theorem store_self (c : C) :
    files.store p c ok p = if ok then some c else files p := by
  cases ok
  · rfl
  · exact Function.update_self ..

theorem store_ne (c : C) (h : q ≠ p) : files.store p c ok q = files q := by
  cases ok
  · rfl
  · exact Function.update_of_ne h ..

@[simp] theorem remove_self : files.remove p ok p = if ok then none else files p := by
  cases ok
  · rfl
  · exact Function.update_self ..

theorem remove_ne (h : q ≠ p) : files.remove p ok q = files q := by
  cases ok
  · rfl
  · exact Function.update_of_ne h ..

/-- A rename takes effect when it succeeds and there is a file to move. -/
theorem rename_snd : (files.rename src dst ok).2 = (ok && (files src).isSome) := by
  unfold rename
  cases ok <;> cases files src <;> rfl

/-- A rename that takes effect replaces the target by the whole file. -/
theorem rename_dst : (files.rename src dst ok).1 dst =
    if ok then (files src).or (files dst) else files dst := by
  unfold rename
  cases ok with
  | false => rfl
  | true =>
    cases files src with
    | none => rfl
    | some c => exact Function.update_self ..

/-- Nothing is left at the source. -/
theorem rename_src (hne : src ≠ dst) : (files.rename src dst ok).1 src =
    if ok then none else files src := by
  unfold rename
  cases ok with
  | false => rfl
  | true =>
    cases hsrc : files src with
    | none => exact hsrc
    | some c => exact (Function.update_of_ne hne ..).trans (Function.update_self ..)

theorem rename_of_snd_false (h : (files.rename src dst ok).2 = false) :
    (files.rename src dst ok).1 = files := by
  revert h
  unfold rename
  cases ok <;> cases files src <;> simp

theorem rename_ne (hsrc : q ≠ src) (hdst : q ≠ dst) :
    (files.rename src dst ok).1 q = files q := by
  unfold rename
  cases ok with
  | false => rfl
  | true =>
    cases files src with
    | none => rfl
    | some c => exact (Function.update_of_ne hdst ..).trans (Function.update_of_ne hsrc ..)

end Files
