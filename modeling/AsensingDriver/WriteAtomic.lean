import AsensingDriver.Lib.Files

/-! How the monitor replaces a report.  `writeAtomic_iff` says under which faults of the file system
the path of the report always holds the whole previous report or the whole new one. -/

namespace AsensingDriver

/-- Whether each step of `writeAtomic` succeeds, and how much of the content is stored. -/
structure Faults where
  opened : Bool
  stored : Nat
  renamed : Bool
  removed : Bool
  retried : Bool

def tempPath (path : String) : String := path ++ ".tmp"

theorem path_ne_tempPath (path : String) : path ≠ tempPath path := by
  intro h
  have hlength := congrArg String.length h
  simp [tempPath, String.length_append] at hlength

/-- The files after each step of `write_atomic`.  The error of the stream is not looked at. -/
def writeAtomic (files : Files String (List UInt8)) (path : String) (content : List UInt8)
    (os : Faults) : List (Files String (List UInt8)) :=
  let temp := tempPath path
  let truncated := files.store temp [] os.opened
  let written := truncated.store temp (content.take os.stored) os.opened
  let (renamed, ok) := written.rename temp path os.renamed
  if ok then [truncated, written, renamed]
  else
    let removed := renamed.remove path os.removed
    let (retried, _) := removed.rename temp path os.retried
    [truncated, written, renamed, removed, retried]

section Faults

variable (files : Files String (List UInt8)) (path : String) (content : List UInt8) (os : Faults)

/-- What the temporary file holds when it is renamed: a part of the content, or what it held before
the call when it cannot be opened. -/
def staged : Option (List UInt8) :=
  if os.opened then some (content.take os.stored) else files (tempPath path)

/-- No other file is touched. -/
theorem writeAtomic_ne {q : String} (hpath : q ≠ path) (htemp : q ≠ tempPath path) :
    ∀ s ∈ writeAtomic files path content os, s q = files q := by
  have htruncated := files.store_ne os.opened [] htemp
  have hwritten := (files.store (tempPath path) [] os.opened).store_ne os.opened
    (content.take os.stored) htemp
  have hrenamed (fs : Files String (List UInt8)) (ok : Bool) :
      (fs.rename (tempPath path) path ok).1 q = fs q := fs.rename_ne ok htemp hpath
  have hremoved (fs : Files String (List UInt8)) (ok : Bool) : fs.remove path ok q = fs q :=
    fs.remove_ne ok hpath
  unfold writeAtomic
  dsimp only
  split
  all_goals simp [htruncated, hwritten, hrenamed, hremoved]

/-- What the path of the report holds after each step. -/
theorem writeAtomic_path :
    (writeAtomic files path content os).map (fun s => s path) =
      let prev := files path
      let next := staged files path content os
      if os.renamed && next.isSome then [prev, prev, next]
      else
        let kept := if os.removed then none else prev
        [prev, prev, prev, kept, if os.retried then next.or kept else kept] := by
  have hne := path_ne_tempPath path
  obtain ⟨written, hwritten⟩ : ∃ written : Files String (List UInt8), written =
      (files.store (tempPath path) [] os.opened).store (tempPath path) (content.take os.stored)
        os.opened := ⟨_, rfl⟩
  have htruncated : files.store (tempPath path) [] os.opened path = files path :=
    files.store_ne os.opened [] hne
  have hpath : written path = files path := by
    rw [hwritten, Files.store_ne _ _ _ hne, htruncated]
  have htemp : written (tempPath path) = staged files path content os := by
    rw [hwritten, staged]
    cases os.opened <;> simp
  have heffect : (written.rename (tempPath path) path os.renamed).2 =
      (os.renamed && (staged files path content os).isSome) := by
    rw [Files.rename_snd, htemp]
  have hmoved : (written.rename (tempPath path) path os.renamed).1 path =
      if os.renamed then (staged files path content os).or (files path) else files path := by
    rw [Files.rename_dst, htemp, hpath]
  unfold writeAtomic
  dsimp only
  rw [← hwritten]
  cases hok : (written.rename (tempPath path) path os.renamed).2 with
  | true =>
    rw [hok, eq_comm] at heffect
    -- The first rename takes effect: the path holds what was staged.
    rw [heffect]
    rw [Bool.and_eq_true, Option.isSome_iff_exists] at heffect
    obtain ⟨hrenamed, c, hc⟩ := heffect
    rw [hrenamed, hc] at hmoved
    simp [htruncated, hpath, hrenamed, hmoved, hc]
  | false =>
    have hkept := Files.rename_of_snd_false _ _ hok
    rw [hok, eq_comm] at heffect
    rw [heffect, hkept]
    simp [htruncated, hpath, Files.rename_dst, Files.remove_ne _ _ hne.symm, htemp]

/-- The path of the report always holds the whole previous report or the whole new one, exactly when
a rename that takes effect moves one of the two, and an existing report is not removed after the
first rename fails. -/
theorem writeAtomic_iff :
    (∀ s ∈ writeAtomic files path content os, s path = files path ∨ s path = some content) ↔
      (os.renamed = true ∨ os.retried = true →
        ∀ c, staged files path content os = some c → some c = files path ∨ c = content) ∧
      (os.renamed = false ∨ staged files path content os = none → os.removed = true →
        files path = none) := by
  have hmap : (∀ s ∈ writeAtomic files path content os,
      s path = files path ∨ s path = some content) ↔
      ∀ v ∈ (writeAtomic files path content os).map (fun s => s path),
        v = files path ∨ v = some content := by
    rw [List.forall_mem_map]
  rw [hmap, writeAtomic_path]
  generalize files path = prev
  generalize staged files path content os = next
  cases next with
  | none => cases os.renamed <;> cases os.removed <;> cases os.retried <;> cases prev <;> simp
  | some c =>
    cases os.renamed with
    | true => simp
    | false => cases os.removed <;> cases os.retried <;> cases prev <;> simp

end Faults

/-- The disk is full after one byte, and the rest of the new report is lost. -/
theorem writeAtomic_full_disk :
    ¬∀ s ∈ writeAtomic (fun _ => some [0x6f]) "report.json" [0x6e, 0x65]
        ⟨true, 1, true, true, true⟩,
      s "report.json" = some [0x6f] ∨ s "report.json" = some [0x6e, 0x65] := by
  decide

/-- The report is gone when neither rename succeeds. -/
example : none ∈ (writeAtomic (fun _ => some [0x6f]) "report.json" [0x6e, 0x65]
    ⟨true, 2, false, true, false⟩).map (fun s => s "report.json") := by
  decide

end AsensingDriver
