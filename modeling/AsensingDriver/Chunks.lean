import AsensingDriver.Encoding
import Mathlib.Logic.Relation

/-! How the result of `feed` depends on where the byte stream is cut into calls.  An extended packet
is taken as a main packet, and its week is lost, when some call ends with 58 to 62 of its bytes
delivered; elsewhere the cuts make no difference.  `received_eq_iff` compares two cuttings of one
stream, and `received_chunk_invariant_iff` says which streams may be cut at will. -/

namespace AsensingDriver

open Resync Latest Relation

/-- A way of cutting the stream `s` into consecutive calls. -/
structure Cutting (s : List UInt8) where
  chunks : List (List UInt8)
  flatten_eq : chunks.flatten = s

/-- The first `n` bytes are delivered by the end of some call, or before the first one. -/
def Boundary (chunks : List (List UInt8)) (n : Nat) : Prop :=
  ∃ pre post, chunks = pre ++ post ∧ pre.flatten.length = n

/-- Some call ends with 58 to 62 of the bytes from position `p` on delivered. -/
def Splits (chunks : List (List UInt8)) (p : Nat) : Prop :=
  ∃ n, Boundary chunks n ∧ p + kMainLength ≤ n ∧ n < p + kExtendedLength

/-! ### The scan of a stream -/

section Scan

variable (s : List UInt8) (cut : Nat → Prop)

/-- The scan of `s` moves from position `p` past one byte or past a packet, where an extended packet
counts as a main packet at the positions that `cut` selects. -/
inductive Advances : Nat → Nat → Prop
  | skip {p : Nat} (none : ¬MainAt (s.drop p)) : Advances p (p + 1)
  | main {p : Nat} (main : MainAt (s.drop p)) (short : ExtendedAt (s.drop p) → cut p) :
      Advances p (p + kMainLength)
  | extended {p : Nat} (extended : ExtendedAt (s.drop p)) (whole : ¬cut p) :
      Advances p (p + kExtendedLength)

/-- The scan of `s` from its start arrives at position `p`. -/
def Arrives (p : Nat) : Prop := ReflTransGen (Advances s cut) 0 p

/-- The scan of `s` from position `p` takes the frames `fs`. -/
inductive Takes : Nat → List (List UInt8) → Prop
  | done {p : Nat} (none : ∀ i ≥ p, ¬MainAt (s.drop i)) : Takes p []
  | skip {p : Nat} {fs : List (List UInt8)} (none : ¬MainAt (s.drop p)) (tail : Takes (p + 1) fs) :
      Takes p fs
  | main {p : Nat} {fs : List (List UInt8)} (main : MainAt (s.drop p))
      (short : ExtendedAt (s.drop p) → cut p) (tail : Takes (p + kMainLength) fs) :
      Takes p ((s.drop p).take kMainLength :: fs)
  | extended {p : Nat} {fs : List (List UInt8)} (extended : ExtendedAt (s.drop p))
      (whole : ¬cut p) (tail : Takes (p + kExtendedLength) fs) :
      Takes p ((s.drop p).take kExtendedLength :: fs)

variable {s cut}

theorem advances_unique {p q q' : Nat} (h : Advances s cut p q) (h' : Advances s cut p q') :
    q = q' := by
  cases h with
  | skip hn =>
    cases h' with
    | skip => rfl
    | main hm => exact absurd hm hn
    | extended hx => exact absurd hx.1 hn
  | main hm hs =>
    cases h' with
    | skip hn => exact absurd hm hn
    | main => rfl
    | extended hx hw => exact absurd (hs hx) hw
  | extended hx hw =>
    cases h' with
    | skip hn => exact absurd hx.1 hn
    | main _ hs => exact absurd (hs hx) hw
    | extended => rfl

theorem takes_none {p : Nat} {fs : List (List UInt8)} (hnone : ∀ i ≥ p, ¬MainAt (s.drop i))
    (h : Takes s cut p fs) : fs = [] := by
  induction h with
  | done => rfl
  | skip _ _ ih => exact ih fun i hi => hnone i (by omega)
  | main hm => exact absurd hm (hnone _ (Nat.le_refl _))
  | extended hx => exact absurd hx.1 (hnone _ (Nat.le_refl _))

/-- From position `p` on, `cut` and `cut'` agree at every extended packet that the scan of `s` under
`cut` arrives at. -/
def AgreeFrom (s : List UInt8) (cut cut' : Nat → Prop) (p : Nat) : Prop :=
  ∀ q, ReflTransGen (Advances s cut) p q → ExtendedAt (s.drop q) → (cut q ↔ cut' q)

variable {cut' : Nat → Prop}

theorem agreeFrom_step {p q : Nat} (h : Advances s cut p q) :
    AgreeFrom s cut cut' p ↔
      (ExtendedAt (s.drop p) → (cut p ↔ cut' p)) ∧ AgreeFrom s cut cut' q := by
  constructor
  · intro hagree
    refine ⟨hagree p .refl, ?_⟩
    intro r hr
    exact hagree r (.head h hr)
  · rintro ⟨hp, hq⟩ r hr
    rcases ReflTransGen.cases_head hr with rfl | ⟨q', hstep, hrest⟩
    · exact hp
    · exact hq r (advances_unique h hstep ▸ hrest)

/-- A scan moves forward. -/
theorem reaches_le {p q : Nat} (h : ReflTransGen (Advances s cut) p q) : p ≤ q := by
  induction h with
  | refl => exact Nat.le_refl _
  | tail _ hstep ih => cases hstep <;> omega

theorem agreeFrom_none {p : Nat} (hnone : ∀ i ≥ p, ¬MainAt (s.drop i)) :
    AgreeFrom s cut cut' p := by
  intro q hq hx
  exact absurd hx.1 (hnone q (reaches_le hq))

/-- A packet that one scan takes short and the other whole gives frames of different lengths. -/
theorem short_ne_whole {b : List UInt8} (hx : ExtendedAt b) :
    b.take kMainLength ≠ b.take kExtendedLength := by
  intro heq
  have hlen := congrArg List.length heq
  rw [List.length_take_of_le hx.1.1, List.length_take_of_le hx.2.1] at hlen
  exact absurd hlen (by decide)

/-- Two scans from one position take the same frames exactly when they agree on the extended packets
that the first of them arrives at. -/
theorem takes_eq_iff {p : Nat} {fs fs' : List (List UInt8)} (h : Takes s cut p fs)
    (h' : Takes s cut' p fs') : fs = fs' ↔ AgreeFrom s cut cut' p := by
  induction h generalizing fs' with
  | done hnone =>
    have hnil := takes_none hnone h'
    exact iff_of_true hnil.symm (agreeFrom_none hnone)
  | @skip p fs hn tail ih =>
    have hstep : Advances s cut p (p + 1) := .skip hn
    rw [agreeFrom_step hstep]
    have here : ExtendedAt (s.drop p) → (cut p ↔ cut' p) := fun hx => absurd hx.1 hn
    cases h' with
    | done hnone' =>
      rw [and_iff_right here]
      exact ih (.done fun i hi => hnone' i (by omega))
    | skip _ tail' =>
      rw [and_iff_right here]
      exact ih tail'
    | main hm => exact absurd hm hn
    | extended hx => exact absurd hx.1 hn
  | @main p fs hm hs tail ih =>
    have hstep : Advances s cut p (p + kMainLength) := .main hm hs
    rw [agreeFrom_step hstep]
    cases h' with
    | done hnone' => exact absurd hm (hnone' _ (Nat.le_refl _))
    | skip hn => exact absurd hm hn
    | main _ hs' tail' =>
      have here : ExtendedAt (s.drop p) → (cut p ↔ cut' p) := fun hx => by simp [hs hx, hs' hx]
      rw [List.cons.injEq, and_iff_right rfl, and_iff_right here]
      exact ih tail'
    | extended hx hw' =>
      simp only [List.cons.injEq, short_ne_whole hx, false_and, false_iff, not_and]
      intro here
      exact absurd ((here hx).mp (hs hx)) hw'
  | @extended p fs hx hw tail ih =>
    have hstep : Advances s cut p (p + kExtendedLength) := .extended hx hw
    rw [agreeFrom_step hstep]
    cases h' with
    | done hnone' => exact absurd hx.1 (hnone' _ (Nat.le_refl _))
    | skip hn => exact absurd hx.1 hn
    | main _ hs' =>
      simp only [List.cons.injEq, (short_ne_whole hx).symm, false_and, false_iff, not_and]
      intro here
      exact absurd ((here hx).mpr (hs' hx)) hw
    | extended _ hw' tail' =>
      have here : ExtendedAt (s.drop p) → (cut p ↔ cut' p) := fun _ => by simp [hw, hw']
      rw [List.cons.injEq, and_iff_right rfl, and_iff_right here]
      exact ih tail'

/-- A run over the bytes from position `p` to the end of a call is a part of the scan. -/
theorem run_takes {p : Nat} {buf later mid : List UInt8} {items : List (Item UInt8)}
    {fs : List (List UInt8)} (run : Runs asensing buf items mid) (hs : s.drop p = buf ++ later)
    (hcut : ∀ q ≥ p, q + kMainLength ≤ p + buf.length →
      (cut q ↔ p + buf.length < q + kExtendedLength))
    (rest : Takes s cut (p + (symbols items).length) fs) :
    Takes s cut p (frames items ++ fs) := by
  induction run generalizing p with
  | stop => simpa using rest
  | @skip a b mid items hskip tail ih =>
    have hnone : ¬MainAt (s.drop p) := by
      refine not_mainAt_of_skip (n := (a :: b).length) ?_
      rwa [hs, List.take_left]
    have hdrop : s.drop (p + 1) = b ++ later := by rw [← List.drop_drop, hs]; rfl
    apply Takes.skip hnone
    apply ih hdrop
    · intro q hq hle
      have := hcut q (by omega) (by simp only [List.length_cons]; omega)
      rw [this, List.length_cons]
      omega
    · rw [symbols_cons, List.length_append] at rest
      simpa [Item.symbols, Nat.add_assoc] using rest
  | @take b mid n items htake tail ih =>
    obtain ⟨hm, rfl⟩ := verdict_take_iff.mp htake
    have hle := frameLength_le hm
    have hmain : MainAt (s.drop p) := hs ▸ hm.append later
    have hdrop : s.drop (p + frameLength b) = b.drop (frameLength b) ++ later := by
      rw [← List.drop_drop, hs, List.drop_append_of_le_length hle]
    have htaken : (s.drop p).take (frameLength b) = b.take (frameLength b) := by
      rw [hs, List.take_append_of_le_length hle]
    have htail : Takes s cut (p + frameLength b) (frames items ++ fs) := by
      apply ih hdrop
      · intro q hq hq'
        rw [List.length_drop] at hq' ⊢
        rw [hcut q (by omega) (by omega)]
        omega
      · rw [symbols_cons, List.length_append] at rest
        simp only [Item.symbols, List.length_take_of_le hle] at rest
        rwa [Nat.add_assoc]
    have hhere := hcut p (Nat.le_refl _) (Nat.add_le_add_left hm.1 p)
    rw [frames_frame, List.cons_append, ← htaken]
    by_cases hx : hasExtendedFrame b = true
    · have hext : ExtendedAt b := extendedAt_iff.mpr ⟨hm, hx⟩
      have hlong := hext.2.1
      rw [frameLength_of_extended hx] at htail ⊢
      exact .extended (hs ▸ hext.append later) (by rw [hhere]; omega) htail
    · rw [frameLength_of_not_extended hx] at htail ⊢
      refine .main hmain ?_ htail
      intro hext
      apply hhere.mpr
      -- A whole extended packet in the buffer would have been taken as one.
      by_contra hno
      have hlong : kExtendedLength ≤ b.length := by omega
      have hxor := hext.2.2
      rw [hs, xorOk_append _ (by decide) hlong] at hxor
      exact hx (hasExtendedFrame_iff.mpr ⟨hlong, hxor⟩)

end Scan

/-! ### Calls as positions of the stream -/

/-- No call ends inside the chunk of another. -/
theorem boundary_cases {pre post : List (List UInt8)} {c : List UInt8} {n : Nat}
    (h : Boundary (pre ++ c :: post) n) :
    n ≤ pre.flatten.length ∨ (pre ++ [c]).flatten.length ≤ n := by
  obtain ⟨before, after, heq, rfl⟩ := h
  rcases List.append_eq_append_iff.mp heq with ⟨_ | ⟨c', mid⟩, rfl, hpost⟩ | ⟨mid, rfl, -⟩
  · left
    simp
  · right
    obtain ⟨rfl, -⟩ : c = c' ∧ post = mid ++ after := by simpa using hpost
    simp
  · left
    simp

/-- A packet that began after 57 bytes or fewer at the end of a call is split exactly when the next
call ends with too few of its bytes. -/
theorem splits_iff {pre post : List (List UInt8)} {c : List UInt8} {q : Nat}
    (hbefore : pre.flatten.length < q + kMainLength)
    (hafter : q + kMainLength ≤ (pre ++ [c]).flatten.length) :
    Splits (pre ++ c :: post) q ↔ (pre ++ [c]).flatten.length < q + kExtendedLength := by
  constructor
  · rintro ⟨n, hn, hmain, hextended⟩
    rcases boundary_cases hn with h | h <;> omega
  · intro h
    exact ⟨_, ⟨pre ++ [c], post, by simp, rfl⟩, hafter, h⟩

theorem length_of_waits {b : List UInt8} (h : verdict b = .wait) : b.length < kMainLength := by
  rcases verdict_wait_iff.mp h with h | h
  · exact Nat.lt_trans h (by decide)
  · exact h.2

/-- The calls that follow `pre` scan the stream on from where the bytes begin that `pre` left. -/
theorem feeds_takes {s b rest : List UInt8} {pre cs : List (List UInt8)} {p : Nat}
    {items : List (Item UInt8)} (h : Feeds asensing b cs items rest) (hb : verdict b = .wait)
    (hpre : pre.flatten.length = p + b.length) (hs : s.drop p = b ++ cs.flatten) :
    Takes s (Splits (pre ++ cs)) p (frames items) := by
  induction h generalizing pre p with
  | @done b =>
    apply Takes.done
    intro i hi hm
    have hlong := hm.1
    have hshort := length_of_waits hb
    have hlen : s.length - p = b.length := by simpa using congrArg List.length hs
    rw [List.length_drop] at hlong
    omega
  | @call b c mid rest cs items items' run tail ih =>
    have hlen : (symbols items).length + mid.length = b.length + c.length := by
      simpa using congrArg List.length run.tiles
    have hnext : (pre ++ [c]).flatten.length = p + (symbols items).length + mid.length := by
      simp only [List.flatten_append, List.length_append, hpre, List.flatten_singleton]
      omega
    have hdrop : s.drop (p + (symbols items).length) = mid ++ cs.flatten := by
      rw [← List.drop_drop, hs, List.flatten_cons, ← List.append_assoc, ← run.tiles,
        List.append_assoc, List.drop_left]
    have hrest := ih run.waits hnext hdrop
    rw [List.append_assoc, List.singleton_append] at hrest
    rw [frames_append]
    refine run_takes run (by rw [hs, List.flatten_cons, List.append_assoc]) ?_ hrest
    intro q hq hle
    have hend : (pre ++ [c]).flatten.length = p + (b ++ c).length := by
      rw [hnext, List.length_append]
      omega
    have hshort := length_of_waits hb
    rw [splits_iff (by omega) (by omega), hend]

variable {F : Type} [Double F]

/-- The calls of a cutting take the frames of one scan of the stream. -/
theorem received_takes {s : List UInt8} (c : Cutting s) :
    ∃ fs, Takes s (Splits c.chunks) 0 fs ∧ received F c.chunks = samples .initial fs ∧
      (received F c.chunks).map INSData.rawFrame = fs := by
  obtain ⟨items, hfeeds, -, hresult, hraw⟩ := fresh_scanned (F := F) c.chunks
  refine ⟨frames items, ?_, hresult, hraw⟩
  have htakes : Takes s (Splits ([] ++ c.chunks)) 0 (frames items) :=
    feeds_takes hfeeds rfl rfl c.flatten_eq.symm
  exact htakes

/-- Two cuttings of a stream give the same samples exactly when they agree on the extended packets
that the scan under the first arrives at. -/
theorem received_eq_iff_agree {s : List UInt8} (c c' : Cutting s) :
    received F c.chunks = received F c'.chunks ↔
      AgreeFrom s (Splits c.chunks) (Splits c'.chunks) 0 := by
  obtain ⟨fs, htakes, hsamples, hraw⟩ := received_takes (F := F) c
  obtain ⟨fs', htakes', hsamples', hraw'⟩ := received_takes (F := F) c'
  rw [← takes_eq_iff htakes htakes']
  constructor
  · intro heq
    rw [← hraw, heq, hraw']
  · rintro rfl
    rw [hsamples, hsamples']

/-- Two ways of cutting one stream into calls give the same samples exactly when, at each extended
packet that the scan under the first arrives at, either both end a call with 58 to 62 of its bytes
delivered or neither does. -/
theorem received_eq_iff {s : List UInt8} (c c' : Cutting s) :
    received F c.chunks = received F c'.chunks ↔
      ∀ p, Arrives s (Splits c.chunks) p → ExtendedAt (s.drop p) →
        (Splits c.chunks p ↔ Splits c'.chunks p) :=
  received_eq_iff_agree c c'

/-- An extended packet that is cut after 58 bytes loses its week. -/
theorem received_cut_differs : ¬∀ (s : List UInt8) (c c' : Cutting s),
    received Exact c.chunks = received Exact c'.chunks := by
  intro h
  let s := makeExtendedStatusFrame 2234
  have hweeks := congrArg (List.map INSData.hasGpsWeek)
    (h s ⟨[s], List.append_nil s⟩ ⟨[s.take 58, s.drop 58], by simp⟩)
  exact absurd hweeks (by decide +kernel)

/-! ### Streams that may be cut at will -/

/-- Where no extended packet stands, every scan moves in the same way. -/
theorem advances_of_not_extended {s : List UInt8} {cut cut' : Nat → Prop} {p q : Nat}
    (hx : ¬ExtendedAt (s.drop p)) (h : Advances s cut p q) : Advances s cut' p q := by
  cases h with
  | skip hn => exact .skip hn
  | main hm _ => exact .main hm fun hx' => absurd hx' hx
  | extended hx' _ => exact absurd hx' hx

theorem not_splits_singleton {s : List UInt8} {p : Nat} (h : ExtendedAt (s.drop p)) :
    ¬Splits [s] p := by
  rintro ⟨n, hn, hmain, hextended⟩
  have hlong := h.2.1
  rw [List.length_drop] at hlong
  simp only [kMainLength, kExtendedLength] at hmain hextended hlong
  rcases boundary_cases (show Boundary ([] ++ s :: []) n from hn) with hle | hle <;>
    simp at hle <;> omega

/-- A stream gives the same samples in every cutting exactly when its scan by main packets alone
arrives at no extended packet. -/
theorem received_chunk_invariant_iff (s : List UInt8) :
    (∀ c c' : Cutting s, received F c.chunks = received F c'.chunks) ↔
      ∀ p, Arrives s (fun _ => True) p → ¬ExtendedAt (s.drop p) := by
  constructor
  · intro hall
    have here {p : Nat} (hp : Arrives s (Splits [s]) p) : ¬ExtendedAt (s.drop p) := by
      intro hx
      have hagree := (received_eq_iff_agree ⟨[s], List.append_nil s⟩
        ⟨[s.take (p + kMainLength), s.drop (p + kMainLength)], by simp⟩).mp (hall _ _) p hp hx
      refine not_splits_singleton hx (hagree.mpr ⟨p + kMainLength, ⟨[s.take (p + kMainLength)],
        [s.drop (p + kMainLength)], rfl, ?_⟩, Nat.le_refl _, ?_⟩)
      · have hlong := hx.1.1
        simp only [List.length_drop, kMainLength] at hlong
        simp only [List.flatten_singleton, List.length_take, kMainLength]
        omega
      · simp [kMainLength, kExtendedLength]
    have arrives {p : Nat} (hp : Arrives s (fun _ => True) p) : Arrives s (Splits [s]) p := by
      induction hp with
      | refl => exact .refl
      | tail _ hstep ih => exact .tail ih (advances_of_not_extended (here ih) hstep)
    intro p hp
    exact here (arrives hp)
  · intro hnone c c'
    rw [received_eq_iff_agree]
    have arrives {p : Nat} (hp : Arrives s (Splits c.chunks) p) : Arrives s (fun _ => True) p := by
      induction hp with
      | refl => exact .refl
      | tail _ hstep ih => exact .tail ih (advances_of_not_extended (hnone _ ih) hstep)
    intro p hp hx
    exact absurd hx (hnone p (arrives hp))

end AsensingDriver
