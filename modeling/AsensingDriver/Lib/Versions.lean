import AsensingDriver.Lib.Files
import Mathlib.Data.List.Forall2

/-! Files that hold one version after another.  A new version is staged in a file of its own, which
is then renamed to the file that others read.  `Written i c` says that `c` may be found in a file
that version `i` was written to.  Any operation may fail: what is staged is never older than what is
shown (`Dated`), so that the versions shown never go back (`History`). -/

namespace Files

variable {P C : Type} {Written : ℕ → C → Prop} {src dst : P}

/-- Version `i` is shown at `dst`, and version `j` is staged at `src`. -/
structure Dated (Written : ℕ → C → Prop) (src dst : P) (files : Files P C) (i j : ℕ) : Prop where
  shown : ∀ c ∈ files dst, Written i c
  staged : ∀ c ∈ files src, Written j c
  le : i ≤ j

section Operations

variable [DecidableEq P] {files : Files P C} {i j : ℕ}

theorem Dated.store (h : Dated Written src dst files i j) (hne : src ≠ dst) {k : ℕ} (hk : j ≤ k)
    {c : C} (hc : Written k c) (ok : Bool) :
    ∃ j', j ≤ j' ∧ j' ≤ k ∧ Dated Written src dst (files.store src c ok) i j' := by
  cases ok with
  | false => exact ⟨j, Nat.le_refl j, hk, h⟩
  | true =>
    refine ⟨k, hk, Nat.le_refl k, ?_, ?_, Nat.le_trans h.le hk⟩
    · rw [store_ne _ _ _ hne.symm]
      exact h.shown
    · rw [store_self]
      rintro d ⟨rfl⟩
      exact hc

theorem Dated.remove (h : Dated Written src dst files i j) (hne : src ≠ dst) (ok : Bool) :
    Dated Written src dst (files.remove dst ok) i j := by
  refine ⟨?_, ?_, h.le⟩
  · rw [remove_self]
    cases ok
    · exact h.shown
    · rintro c ⟨⟩
  · rw [remove_ne _ _ hne]
    exact h.staged

/-- A rename that takes effect shows the version that was staged. -/
theorem Dated.rename (h : Dated Written src dst files i j) (hne : src ≠ dst) (ok : Bool) :
    ∃ i', i ≤ i' ∧ Dated Written src dst (files.rename src dst ok).1 i' j := by
  cases ok with
  | false => exact ⟨i, Nat.le_refl i, h⟩
  | true =>
    cases hsrc : files src with
    | none =>
      have hkept : (files.rename src dst true).1 = files :=
        rename_of_snd_false _ _ (by rw [rename_snd, hsrc]; rfl)
      rw [hkept]
      exact ⟨i, Nat.le_refl i, h⟩
    | some c =>
      refine ⟨j, h.le, ?_, ?_, Nat.le_refl j⟩
      · rw [rename_dst, hsrc]
        rintro d ⟨rfl⟩
        exact h.staged c hsrc
      · rw [rename_src _ _ hne]
        rintro d ⟨⟩

end Operations

/-- The versions shown at `dst` in one state after another, from `lo` to `hi`. -/
def History (Written : ℕ → C → Prop) (dst : P) (lo hi : ℕ) (states : List (Files P C)) : Prop :=
  ∃ versions : List ℕ, versions.Pairwise (· ≤ ·) ∧ (∀ i ∈ versions, lo ≤ i ∧ i ≤ hi) ∧
    List.Forall₂ (fun (s : Files P C) i => ∀ c ∈ s dst, Written i c) states versions

variable {lo mid hi : ℕ} {states states' : List (Files P C)}

theorem History.single {s : Files P C} {i : ℕ} (h : ∀ c ∈ s dst, Written i c) :
    History Written dst i i [s] :=
  ⟨[i], List.pairwise_singleton _ i, by simp, .cons h .nil⟩

theorem History.append (h : History Written dst lo mid states)
    (h' : History Written dst mid hi states') (hlo : lo ≤ mid) (hhi : mid ≤ hi) :
    History Written dst lo hi (states ++ states') := by
  obtain ⟨versions, hsorted, hbounds, hwritten⟩ := h
  obtain ⟨versions', hsorted', hbounds', hwritten'⟩ := h'
  refine ⟨versions ++ versions', ?_, ?_, List.rel_append hwritten hwritten'⟩
  · exact List.pairwise_append.mpr ⟨hsorted, hsorted', fun i hi j hj =>
      Nat.le_trans (hbounds i hi).2 (hbounds' j hj).1⟩
  · intro i hi
    rcases List.mem_append.mp hi with hi | hi
    · exact ⟨(hbounds i hi).1, Nat.le_trans (hbounds i hi).2 hhi⟩
    · exact ⟨Nat.le_trans hlo (hbounds' i hi).1, (hbounds' i hi).2⟩

theorem History.cons {s : Files P C} (h : ∀ c ∈ s dst, Written lo c)
    (h' : History Written dst mid hi states') (hlo : lo ≤ mid) (hhi : mid ≤ hi) :
    History Written dst lo hi (s :: states') := by
  obtain ⟨versions', hsorted', hbounds', hwritten'⟩ := h'
  exact History.append (History.single h)
    ⟨versions', hsorted', fun i hi => ⟨Nat.le_trans hlo (hbounds' i hi).1, (hbounds' i hi).2⟩,
      hwritten'⟩ (Nat.le_refl lo) (Nat.le_trans hlo hhi)

/-- States in which nothing changes at `dst`. -/
theorem History.of_forall {i : ℕ} (h : ∀ s ∈ states, ∀ c ∈ s dst, Written i c) :
    History Written dst i i states := by
  induction states with
  | nil => exact ⟨[], .nil, by simp, .nil⟩
  | cons s states ih =>
    have hstates := ih fun s' hs' => h s' (List.mem_cons_of_mem s hs')
    exact hstates.cons (h s List.mem_cons_self) (Nat.le_refl i) (Nat.le_refl i)

end Files
