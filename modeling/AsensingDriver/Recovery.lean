import AsensingDriver.BackToBack
import AsensingDriver.Chunks

/-! Recovery of the stream behind damaged bytes.  Between two runs of valid frames there may be any
bytes, those of a corrupted frame or of a truncated one.  `received_damaged` says that the parser
finds its place again at the third frame behind the damage at the latest, and that it loses nothing
in front of the last frame before it. -/

namespace AsensingDriver

open Resync

/-- The bytes of frames one behind another. -/
def bytes (fs : List Frame) : List UInt8 := fs.flatMap Frame.bytes

@[simp] theorem bytes_nil : bytes [] = [] := rfl

@[simp] theorem bytes_cons (f : Frame) (fs : List Frame) : bytes (f :: fs) = f.bytes ++ bytes fs :=
  rfl

@[simp] theorem bytes_append (fs gs : List Frame) : bytes (fs ++ gs) = bytes fs ++ bytes gs := by
  simp [bytes]

theorem Frame.mainLength_le (f : Frame) : kMainLength ≤ f.bytes.length := f.valid.mainAt.1

theorem mainLength_mul_le (fs : List Frame) : kMainLength * fs.length ≤ (bytes fs).length := by
  induction fs with
  | nil => simp
  | cons f fs ih =>
    have hf := f.mainLength_le
    rw [bytes_cons, List.length_append, List.length_cons, Nat.mul_succ]
    omega

/-! ### Frames that stand clear -/

/-- No frame of `fs`, with the bytes `x` behind them, is completed to a longer packet by what
follows it, and no main packet begins inside a frame. -/
def Clear (x : List UInt8) : List Frame → Prop
  | [] => True
  | f :: fs =>
    (ExtendedAt (f.bytes ++ (bytes fs ++ x)) → f.bytes.length = kExtendedLength) ∧
    (∀ i < f.bytes.length, 0 < i → ¬MainAt ((f.bytes ++ (bytes fs ++ x)).drop i)) ∧ Clear x fs

instance (x : List UInt8) : (fs : List Frame) → Decidable (Clear x fs)
  | [] => inferInstanceAs (Decidable True)
  | _ :: fs =>
    have := instDecidableClear x fs
    inferInstanceAs (Decidable (_ ∧ _ ∧ _))

/-- Frames one behind another, which a parser that stands at the first of them takes one by one. -/
structure Stream where
  frames : List Frame
  clear : Clear [] frames

/-- An extended packet and a main packet behind it. -/
example : Stream where
  frames := [⟨(Packet.ofSelector 0 0 0 0).frame (some 2234), Packet.validFrame_frame _ _⟩,
    ⟨(Packet.ofSelector 32 48 20 1).frame none, Packet.validFrame_frame _ _⟩]
  clear := by decide +kernel

/-- A main packet is decided by its 58 bytes. -/
theorem mainAt_append_iff {b : List UInt8} (x : List UInt8) (h : kMainLength ≤ b.length) :
    MainAt (b ++ x) ↔ MainAt b := by
  refine ⟨fun hm => ⟨h, ?_, ?_⟩, fun hm => hm.append x⟩
  · rw [← headerOk_append x (by unfold kMainLength at h; omega)]
    exact hm.2.1
  · rw [← xorOk_append x (by decide) h]
    exact hm.2.2

/-- An extended packet is decided by its 63 bytes. -/
theorem extendedAt_append_iff {b : List UInt8} (x : List UInt8) (h : kExtendedLength ≤ b.length) :
    ExtendedAt (b ++ x) ↔ ExtendedAt b := by
  have hmain : kMainLength ≤ b.length := Nat.le_trans (by decide) h
  refine ⟨fun hx => ⟨(mainAt_append_iff x hmain).mp hx.1, h, ?_⟩, fun hx => hx.append x⟩
  rw [← xorOk_append x (by decide) h]
  exact hx.2.2

/-- Frames that stand clear in front of one more frame do so whatever follows that frame. -/
theorem clear_of_concat {x : List UInt8} {fs : List Frame} {last : Frame}
    (h : Clear x (fs ++ [last])) (y : List UInt8) : Clear (last.bytes ++ y) fs := by
  induction fs with
  | nil => trivial
  | cons f fs ih =>
    obtain ⟨hx, hm, htail⟩ := h
    have hf := f.mainLength_le
    have hlast := last.mainLength_le
    have hsplit (z : List UInt8) : f.bytes ++ (bytes fs ++ (last.bytes ++ z)) =
        (f.bytes ++ (bytes fs ++ last.bytes)) ++ z := by simp
    have hx' : ExtendedAt ((f.bytes ++ (bytes fs ++ last.bytes)) ++ x) →
        f.bytes.length = kExtendedLength := by simpa using hx
    have hm' : ∀ i < f.bytes.length, 0 < i →
        ¬MainAt (((f.bytes ++ (bytes fs ++ last.bytes)) ++ x).drop i) := by simpa using hm
    refine ⟨?_, ?_, ih htail⟩
    · rw [hsplit, extendedAt_append_iff y]
      · intro hext
        exact hx' (hext.append x)
      · simp only [List.length_append]
        unfold kMainLength kExtendedLength at *
        omega
    · intro i hi hpos
      have hlong : i ≤ (f.bytes ++ (bytes fs ++ last.bytes)).length := by
        simp only [List.length_append]
        omega
      have hrest : kMainLength ≤ ((f.bytes ++ (bytes fs ++ last.bytes)).drop i).length := by
        simp only [List.length_drop, List.length_append]
        omega
      have hnone := hm' i hi hpos
      rw [List.drop_append_of_le_length hlong, mainAt_append_iff x hrest] at hnone
      rw [hsplit, List.drop_append_of_le_length hlong, mainAt_append_iff y hrest]
      exact hnone

/-! ### Scanning the frames -/

open Classical in
/-- What a scan takes of the frames `fs` from position `p` on: each frame whole, or the main packet
of an extended frame that a call splits. -/
noncomputable def parts (cut : Nat → Prop) : Nat → List Frame → List (List UInt8)
  | _, [] => []
  | p, f :: fs =>
    (if f.bytes.length = kExtendedLength ∧ cut p then f.bytes.take kMainLength else f.bytes) ::
      parts cut (p + f.bytes.length) fs

section Scan

variable {s : List UInt8} {cut : Nat → Prop}

/-- A scan drops the bytes `u` one by one where no main packet begins. -/
theorem takes_skip {p : Nat} {gs : List (List UInt8)} (u : List UInt8)
    (hnone : ∀ i < u.length, ¬MainAt (s.drop (p + i))) (h : Takes s cut p gs) :
    Takes s cut (p + u.length) gs := by
  induction u generalizing p with
  | nil => exact h
  | cons a u ih =>
    have hhere : ¬MainAt (s.drop p) := hnone 0 (by simp)
    have hnext : Takes s cut (p + 1) gs := by
      cases h with
      | done hn => exact .done fun i hi => hn i (by omega)
      | skip _ tail => exact tail
      | main hm => exact absurd hm hhere
      | extended hx => exact absurd hx.1 hhere
    have hrest := ih (fun i hi => ?_) hnext
    · rw [List.length_cons, Nat.add_comm u.length, ← Nat.add_assoc]
      exact hrest
    · have := hnone (i + 1) (by simpa using hi)
      rwa [Nat.add_comm i, ← Nat.add_assoc] at this

/-- A scan takes a frame that stands clear, whole or as its main packet, and goes on behind it. -/
theorem takes_frame {p : Nat} {gs : List (List UInt8)} {f : Frame} {rest : List UInt8}
    (hs : s.drop p = f.bytes ++ rest)
    (hlong : ExtendedAt (f.bytes ++ rest) → f.bytes.length = kExtendedLength)
    (hinside : ∀ i < f.bytes.length, 0 < i → ¬MainAt ((f.bytes ++ rest).drop i))
    (h : Takes s cut p gs) :
    ∃ gs', gs = parts cut p [f] ++ gs' ∧ Takes s cut (p + f.bytes.length) gs' := by
  have hm : MainAt (s.drop p) := hs ▸ f.valid.mainAt.append rest
  cases h with
  | done hn => exact absurd hm (hn p (Nat.le_refl _))
  | skip hn => exact absurd hm hn
  | extended hx hw tail =>
    have hlen := hlong (hs ▸ hx)
    have htake : (s.drop p).take kExtendedLength = f.bytes := by rw [hs, ← hlen, List.take_left]
    refine ⟨_, ?_, by rwa [hlen]⟩
    simp [parts, hw, htake]
  | @main _ gs' _ hcut tail =>
    have htake : (s.drop p).take kMainLength = f.bytes.take kMainLength := by
      rw [hs, List.take_append_of_le_length f.mainLength_le]
    rcases f.valid.length with hlen | hlen
    · have hwhole : f.bytes.take kMainLength = f.bytes := by rw [← hlen, List.take_length]
      have hshort : f.bytes.length ≠ kExtendedLength := by rw [hlen]; decide
      refine ⟨gs', ?_, by rwa [hlen]⟩
      rw [htake, hwhole]
      simp [parts, hshort]
    · have hx : ExtendedAt f.bytes :=
        extendedAt_iff.mpr ⟨f.valid.mainAt, f.valid.hasExtendedFrame_iff.mpr hlen⟩
      have hsplit : cut p := hcut (hs ▸ hx.append rest)
      refine ⟨gs', by rw [htake]; simp [parts, hlen, hsplit], ?_⟩
      -- The five bytes of the extension begin no packet.
      have hskip := takes_skip (f.bytes.drop kMainLength) (fun i hi => ?_) tail
      · rw [List.length_drop, hlen] at hskip
        rw [hlen]
        exact hskip
      · rw [List.length_drop, hlen] at hi
        have hdrop := hinside (kMainLength + i) (by unfold kMainLength kExtendedLength at *; omega)
          (Nat.lt_of_lt_of_le (by decide) (Nat.le_add_right _ i))
        rw [Nat.add_assoc, ← List.drop_drop, hs]
        exact hdrop

/-- A scan takes the frames that stand clear one by one. -/
theorem takes_parts {p : Nat} {gs : List (List UInt8)} {fs : List Frame} {x : List UInt8}
    (hs : s.drop p = bytes fs ++ x) (hclear : Clear x fs) (h : Takes s cut p gs) :
    ∃ gs', gs = parts cut p fs ++ gs' ∧ Takes s cut (p + (bytes fs).length) gs' := by
  induction fs generalizing p gs with
  | nil => exact ⟨gs, rfl, h⟩
  | cons f fs ih =>
    obtain ⟨hlong, hinside, htail⟩ := hclear
    rw [bytes_cons, List.append_assoc] at hs
    obtain ⟨gs', rfl, hbehind⟩ := takes_frame hs hlong hinside h
    have hdrop : s.drop (p + f.bytes.length) = bytes fs ++ x := by
      rw [← List.drop_drop, hs, List.drop_left]
    obtain ⟨gs'', rfl, hrest⟩ := ih hdrop htail hbehind
    refine ⟨gs'', by simp [parts], ?_⟩
    rw [bytes_cons, List.length_append, ← Nat.add_assoc]
    exact hrest

/-- The frames `found`, each with the position at which it begins, are those that a scan takes from
position `p` up to position `n`: they stand in the stream one behind another, and a main packet at
`p` is the first of them, with its extension unless a call splits it. -/
structure Crossing (s : List UInt8) (cut : Nat → Prop) (p n : Nat)
    (found : List (Nat × List UInt8)) : Prop where
  placed : ∀ g ∈ found, p ≤ g.1 ∧ g.1 < n ∧ kMainLength ≤ g.2.length ∧ g.2 <+: s.drop g.1
  apart : found.Pairwise fun f g => f.1 + f.2.length ≤ g.1
  first : p < n → MainAt (s.drop p) → ∃ g, found.head? = some (p, g) ∧
    (ExtendedAt (s.drop p) → ¬cut p → g.length = kExtendedLength)

namespace Crossing

theorem nil {p n : Nat} (hnone : p < n → ¬MainAt (s.drop p)) : Crossing s cut p n [] where
  placed := by simp
  apart := .nil
  first hp hm := absurd hm (hnone hp)

theorem skip {p n : Nat} {found : List (Nat × List UInt8)} (hnone : ¬MainAt (s.drop p))
    (h : Crossing s cut (p + 1) n found) : Crossing s cut p n found where
  placed g hg := by
    obtain ⟨hp, hrest⟩ := h.placed g hg
    exact ⟨by omega, hrest⟩
  apart := h.apart
  first _ hm := absurd hm hnone

/-- The packet of `l` bytes at position `p` stands in front of those behind it. -/
theorem cons {p n l : Nat} {found : List (Nat × List UInt8)} (h : Crossing s cut (p + l) n found)
    (hp : p < n) (hmain : kMainLength ≤ l) (hroom : l ≤ (s.drop p).length)
    (hlong : ExtendedAt (s.drop p) → ¬cut p → l = kExtendedLength) :
    Crossing s cut p n ((p, (s.drop p).take l) :: found) := by
  have hlen : ((s.drop p).take l).length = l := List.length_take_of_le hroom
  refine ⟨?_, List.pairwise_cons.mpr ⟨?_, h.apart⟩, ?_⟩
  · rintro g (_ | ⟨_, hg⟩)
    · exact ⟨Nat.le_refl p, hp, hlen.symm ▸ hmain, List.take_prefix l _⟩
    · obtain ⟨hq, hrest⟩ := h.placed g hg
      exact ⟨by omega, hrest⟩
  · intro g hg
    rw [hlen]
    exact (h.placed g hg).1
  · intro _ _
    exact ⟨_, rfl, fun hx hw => hlen.trans (hlong hx hw)⟩

/-- One frame at most begins in each packet's length that is begun. -/
theorem count {p n : Nat} {found : List (Nat × List UInt8)} (h : Crossing s cut p n found)
    (hp : p ≤ n) : p + kMainLength * found.length < n + kMainLength := by
  obtain ⟨hplaced, hapart, -⟩ := h
  have hpos : 0 < kMainLength := by decide
  have hnext : p < n + kMainLength := by omega
  clear hp
  induction found generalizing p with
  | nil => simpa using hnext
  | cons f found ih =>
    obtain ⟨hbehind, hapart⟩ := List.pairwise_cons.mp hapart
    obtain ⟨hf, hfn, hlong, -⟩ := hplaced f (List.mem_cons_self ..)
    have hrest := ih (p := f.1 + kMainLength) ?_ hapart (by omega)
    · rw [List.length_cons, Nat.mul_succ]
      omega
    · intro g hg
      have hfg := hbehind g hg
      exact ⟨by omega, (hplaced g (List.mem_cons_of_mem _ hg)).2⟩

end Crossing

/-- A scan that starts before position `n` passes it within a packet's length, and stops at `n`
itself when it takes no packet up to there. -/
theorem takes_cross {p : Nat} {gs : List (List UInt8)} (n : Nat) (h : Takes s cut p gs)
    (hp : p ≤ n) :
    ∃ found gs' q, gs = found.map Prod.snd ++ gs' ∧ Takes s cut q gs' ∧ n ≤ q ∧
      q < n + kExtendedLength ∧ (found = [] → q = n) ∧ Crossing s cut p n found := by
  have hpos : 0 < kMainLength ∧ kMainLength < kExtendedLength := by decide
  rcases Nat.eq_or_lt_of_le hp with rfl | hlt
  · exact ⟨[], gs, p, rfl, h, Nat.le_refl _, by omega, fun _ => rfl,
      .nil fun hlt => absurd hlt (Nat.lt_irrefl p)⟩
  induction h with
  | done hnone =>
    exact ⟨[], [], n, rfl, .done fun i hi => hnone i (by omega), Nat.le_refl _, by omega,
      fun _ => rfl, .nil fun _ => hnone _ (Nat.le_refl _)⟩
  | @skip p gs hnone tail ih =>
    by_cases hend : p + 1 = n
    · exact ⟨[], gs, n, rfl, hend ▸ tail, Nat.le_refl _, by omega, fun _ => rfl,
        .nil fun _ => hnone⟩
    · obtain ⟨found, gs', q, rfl, htakes, hn, hq, hnil, hcross⟩ := ih (by omega) (by omega)
      exact ⟨found, gs', q, rfl, htakes, hn, hq, hnil, hcross.skip hnone⟩
  | @main p gs hm hcut tail ih =>
    have hshort : ExtendedAt (s.drop p) → ¬cut p → kMainLength = kExtendedLength :=
      fun hx hw => absurd (hcut hx) hw
    by_cases hend : n ≤ p + kMainLength
    · have hnone : Crossing s cut (p + kMainLength) n [] := .nil fun hlt => absurd hlt (by omega)
      exact ⟨[_], gs, p + kMainLength, rfl, tail, hend, by omega, by simp,
        hnone.cons hlt (Nat.le_refl _) hm.1 hshort⟩
    · obtain ⟨found, gs', q, rfl, htakes, hn, hq, -, hcross⟩ := ih (by omega) (by omega)
      exact ⟨_ :: found, gs', q, rfl, htakes, hn, hq, by simp,
        hcross.cons hlt (Nat.le_refl _) hm.1 hshort⟩
  | @extended p gs hx hw tail ih =>
    by_cases hend : n ≤ p + kExtendedLength
    · have hnone : Crossing s cut (p + kExtendedLength) n [] :=
        .nil fun hlt => absurd hlt (by omega)
      exact ⟨[_], gs, p + kExtendedLength, rfl, tail, hend, by omega, by simp,
        hnone.cons hlt (by omega) hx.2.1 fun _ _ => rfl⟩
    · obtain ⟨found, gs', q, rfl, htakes, hn, hq, -, hcross⟩ := ih (by omega) (by omega)
      exact ⟨_ :: found, gs', q, rfl, htakes, hn, hq, by simp,
        hcross.cons hlt (by omega) hx.2.1 fun _ _ => rfl⟩

end Scan

/-- From position `q` of frames that stand clear, no main packet begins before the next frame. -/
theorem locate {fs : List Frame} {x : List UInt8} (h : Clear x fs) {q : Nat}
    (hq : q ≤ (bytes fs).length) :
    ∃ k u, (bytes fs ++ x).drop q = u ++ (bytes (fs.drop k) ++ x) ∧
      q + u.length = (bytes (fs.take k)).length ∧ Clear x (fs.drop k) ∧
      (∀ i < u.length, ¬MainAt ((bytes fs ++ x).drop (q + i))) ∧
      kMainLength * k < q + kMainLength := by
  induction fs generalizing q with
  | nil =>
    obtain rfl : q = 0 := by simpa using hq
    exact ⟨0, [], rfl, rfl, trivial, by simp, by decide⟩
  | cons f fs ih =>
    have hf := f.mainLength_le
    have hpos : 0 < kMainLength := by decide
    rcases Nat.eq_zero_or_pos q with rfl | hqpos
    · exact ⟨0, [], rfl, rfl, h, by simp, by simpa using hpos⟩
    obtain ⟨hlong, hinside, htail⟩ := h
    rw [bytes_cons, List.append_assoc]
    by_cases hend : f.bytes.length ≤ q
    · obtain ⟨k, u, hdrop, hlen, hclear, hnone, hk⟩ := ih htail (q := q - f.bytes.length) (by
        rw [bytes_cons, List.length_append] at hq; omega)
      have hshift (j : Nat) : (f.bytes ++ (bytes fs ++ x)).drop (q + j) =
          (bytes fs ++ x).drop (q - f.bytes.length + j) := by
        rw [show q + j = f.bytes.length + (q - f.bytes.length + j) by omega, ← List.drop_drop,
          List.drop_left]
      refine ⟨k + 1, u, ?_, ?_, hclear, ?_, ?_⟩
      · have := hshift 0
        rw [Nat.add_zero, Nat.add_zero] at this
        rw [this, hdrop, List.drop_succ_cons]
      · rw [List.take_succ_cons, bytes_cons, List.length_append]
        omega
      · intro i hi
        rw [hshift]
        exact hnone i hi
      · rw [Nat.mul_succ]
        omega
    · refine ⟨1, f.bytes.drop q, ?_, ?_, htail, ?_, by omega⟩
      · rw [List.drop_append_of_le_length (by omega)]
        rfl
      · simp only [List.length_drop, List.take_succ_cons, List.take_zero, bytes_cons, bytes_nil,
          List.append_nil]
        omega
      · intro i hi
        rw [List.length_drop] at hi
        exact hinside (q + i) (by omega) (by omega)

/-- A scan that stands at position `q` of frames that stand clear, with nothing behind them, takes
the frames from the next one on. -/
theorem takes_located {s : List UInt8} {cut : Nat → Prop} {n q : Nat} {gs : List (List UInt8)}
    {fs : List Frame} (hs : s.drop n = bytes fs) (hclear : Clear [] fs) (hn : n ≤ q)
    (h : Takes s cut q gs) :
    ∃ k, gs = parts cut (n + (bytes (fs.take k)).length) (fs.drop k) ∧
      kMainLength * k < q - n + kMainLength := by
  have hlength : s.length - n = (bytes fs).length := by simpa using congrArg List.length hs
  -- Behind the last frame there is no room for a packet.
  have hover {p : Nat} {gs : List (List UInt8)} (hp : n + (bytes fs).length ≤ p)
      (h : Takes s cut p gs) : gs = [] := by
    refine takes_none (fun i hi hm => ?_) h
    have hroom := hm.1
    rw [List.length_drop] at hroom
    have hpos : 0 < kMainLength := by decide
    omega
  by_cases hq : q - n ≤ (bytes fs).length
  · obtain ⟨k, u, hdrop, hu, hrest, hnone, hk⟩ := locate hclear hq
    simp only [List.append_nil] at hdrop hnone
    have hat (i : Nat) : s.drop (q + i) = (bytes fs).drop (q - n + i) := by
      rw [← hs, List.drop_drop]
      congr 1
      omega
    have hskip : Takes s cut (q + u.length) gs :=
      takes_skip u (fun i hi => by rw [hat]; exact hnone i hi) h
    have hfront : s.drop (q + u.length) = bytes (fs.drop k) ++ [] := by
      rw [hat, ← List.drop_drop, hdrop, List.drop_left, List.append_nil]
    obtain ⟨gs', rfl, hbehind⟩ := takes_parts hfront hrest hskip
    have hend : (bytes fs).length = (bytes (fs.take k)).length + (bytes (fs.drop k)).length := by
      rw [← List.length_append, ← bytes_append, List.take_append_drop]
    refine ⟨k, ?_, hk⟩
    rw [hover (by omega) hbehind, List.append_nil]
    congr 1
    omega
  · refine ⟨fs.length, ?_, ?_⟩
    · rw [hover (by omega) h, List.drop_length]
      rfl
    · have hcount := mainLength_mul_le fs
      omega

/-- The last frame stands apart from those before it, whatever follows. -/
theorem Stream.split_last (t : Stream) (x : List UInt8) :
    ∃ last, bytes t.frames = bytes t.frames.dropLast ++ last ∧
      Clear (last ++ x) t.frames.dropLast ∧ ∀ f ∈ t.frames.getLast?, last = f.bytes := by
  rcases List.eq_nil_or_concat t.frames with hnil | ⟨fs, f, hfs⟩
  · exact ⟨[], by simp [hnil], by simp [hnil, Clear], by simp [hnil]⟩
  · have hclear := t.clear
    rw [hfs, List.concat_eq_append] at hclear
    refine ⟨f.bytes, by simp [hfs], ?_, by simp [hfs]⟩
    rw [hfs, List.concat_eq_append, List.dropLast_concat]
    exact clear_of_concat hclear x

/-- What a scan has taken between the last frame before the damage and the end of the damage begins
at that frame, or in the damage, or, when a call splits the frame, in its extension. -/
theorem Crossing.begins {s : List UInt8} {cut : Nat → Prop} {f : Frame} {rest : List UInt8}
    {start stop : Nat} {found : List (Nat × List UInt8)} (h : Crossing s cut start stop found)
    (hs : s.drop start = f.bytes ++ rest) (hstop : start + f.bytes.length ≤ stop) :
    (∃ g, found.head? = some (start, g) ∧ g.take kMainLength = f.bytes.take kMainLength) ∧
    ∀ g ∈ found, g.1 = start ∨ start + f.bytes.length ≤ g.1 ∨
      cut start ∧ start + kMainLength ≤ g.1 := by
  have hmain := f.mainLength_le
  have hpos : 0 < kMainLength := by decide
  obtain ⟨g, hhead, hwhole⟩ := h.first (by omega) (hs ▸ f.valid.mainAt.append rest)
  obtain ⟨found, rfl⟩ : ∃ tail, found = (start, g) :: tail := by
    cases found with
    | nil => simp at hhead
    | cons _ tail => exact ⟨tail, by simpa using hhead⟩
  have hlong : kMainLength ≤ g.length := (h.placed (start, g) (List.mem_cons_self ..)).2.2.1
  have hprefix : g <+: s.drop start := (h.placed (start, g) (List.mem_cons_self ..)).2.2.2
  refine ⟨⟨g, hhead, ?_⟩, ?_⟩
  · obtain ⟨later, hlater⟩ := hprefix
    rw [hs] at hlater
    have htake := congrArg (List.take kMainLength) hlater
    rwa [List.take_append_of_le_length hlong, List.take_append_of_le_length hmain] at htake
  · rintro g' (_ | ⟨_, hg'⟩)
    · exact .inl rfl
    have hbehind : start + g.length ≤ g'.1 := (List.pairwise_cons.mp h.apart).1 g' hg'
    by_cases hcut : cut start
    · exact .inr (.inr ⟨hcut, by omega⟩)
    · -- An extended frame that no call splits is taken whole.
      refine .inr (.inl ?_)
      rcases f.valid.length with hlen | hlen
      · omega
      · have hx : ExtendedAt f.bytes :=
          extendedAt_iff.mpr ⟨f.valid.mainAt, f.valid.hasExtendedFrame_iff.mpr hlen⟩
        have := hwhole (hs ▸ hx.append rest) hcut
        omega

variable (F : Type) [Double F]

/-- However the stream is cut into calls: of the frames before the damage all are received up to the
last one, an extended frame that a call splits as its main packet, and of the last one at least the
main packet; of the frames behind the damage at most the first two are lost.  Anything else that is
received stands in the stream before the end of the damage, one frame behind another, and begins in
the damaged bytes or, when a call splits the last frame before them, in the extension of that
frame. -/
theorem received_damaged (before : Stream) (damage : List UInt8) (after : Stream)
    (c : Cutting (bytes before.frames ++ (damage ++ bytes after.frames))) :
    let start := (bytes before.frames.dropLast).length
    let damaged := (bytes before.frames).length
    let stop := damaged + damage.length
    let taken := parts (Splits c.chunks)
    ∃ found k,
      (received F c.chunks).map INSData.rawFrame =
        taken 0 before.frames.dropLast ++ (found.map Prod.snd ++
          taken (stop + (bytes (after.frames.take k)).length) (after.frames.drop k)) ∧
      (∀ f ∈ before.frames.getLast?, ∃ g, found.head? = some (start, g) ∧
        g.take kMainLength = f.bytes.take kMainLength) ∧
      (∀ g ∈ found, g.1 < stop ∧
        (g.1 = start ∨ damaged ≤ g.1 ∨ Splits c.chunks start ∧ start + kMainLength ≤ g.1) ∧
        kMainLength ≤ g.2.length ∧ g.2 <+: c.chunks.flatten.drop g.1) ∧
      found.Pairwise (fun f g => f.1 + f.2.length ≤ g.1) ∧
      start + kMainLength * found.length < stop + kMainLength ∧
      k ≤ 2 ∧ (found = [] → k = 0) := by
  intro start damaged stop taken
  obtain ⟨gs, htakes, -, hraw⟩ := received_takes (F := F) c
  obtain ⟨last, hlast, hclear, hget⟩ := before.split_last (damage ++ bytes after.frames)
  -- The frames in front of the last one stand clear of the damage.
  obtain ⟨gs', rfl, hbehind⟩ := takes_parts (p := 0)
    (by rw [List.drop_zero, hlast, List.append_assoc]) hclear htakes
  rw [Nat.zero_add] at hbehind
  have hlength : damaged = start + last.length := by
    rw [← List.length_append, ← hlast]
  obtain ⟨found, gs'', q, rfl, hrest, hstop, hq, hnil, hcross⟩ :=
    takes_cross stop hbehind (by omega)
  have hafter : (bytes before.frames ++ (damage ++ bytes after.frames)).drop stop =
      bytes after.frames := by
    rw [← List.drop_drop, List.drop_left, List.drop_left]
  obtain ⟨k, rfl, hk⟩ := takes_located hafter after.clear hstop hrest
  have hat : (bytes before.frames ++ (damage ++ bytes after.frames)).drop start =
      last ++ (damage ++ bytes after.frames) := by
    rw [hlast, List.append_assoc, List.drop_left]
  refine ⟨found, k, hraw, fun f hf => ?_, fun g hg => ?_, hcross.apart, hcross.count (by omega),
    ?_, ?_⟩
  · obtain rfl := hget f hf
    exact (hcross.begins hat (by omega)).1
  · obtain ⟨hge, hlt, hlong, hprefix⟩ := hcross.placed g hg
    refine ⟨hlt, ?_, hlong, by rwa [c.flatten_eq]⟩
    cases hempty : before.frames.getLast? with
    | none =>
      have hnone : before.frames = [] := List.getLast?_eq_none_iff.mp hempty
      have hzero : damaged = 0 := by simp [damaged, hnone]
      exact .inr (.inl (by omega))
    | some f =>
      obtain rfl := hget f hempty
      rw [hlength]
      exact (hcross.begins hat (by omega)).2 g hg
  · unfold kMainLength kExtendedLength at *
    omega
  · intro hempty
    rw [hnil hempty, Nat.sub_self, Nat.zero_add] at hk
    unfold kMainLength at hk
    omega

end AsensingDriver
