import AsensingDriver.Encoding
import Mathlib.Data.List.Chain

/-! Frames that follow each other without a gap.  The checksum of an extended packet runs over the
five bytes after a main packet, and behind a main packet these are the header and the first bytes
of the next frame.  `feed_frames_iff` says when a call of `feed` accepts a list of valid frames one
by one. -/

namespace AsensingDriver

open Resync Latest

/-- A valid frame. -/
structure Frame where
  bytes : List UInt8
  valid : ValidFrame bytes

/-- The frame does not complete the longer checksum of a main packet before it. -/
def Follows (f g : Frame) : Prop :=
  f.bytes.length = kMainLength → byte g.bytes 4 ≠ byte g.bytes 3 ^^^ 0x6d

instance (f g : Frame) : Decidable (Follows f g) := inferInstanceAs (Decidable (_ → _))

namespace Frame

/-- The bytes of a main packet cancel out. -/
theorem xor_main {f : Frame} (hf : f.bytes.length = kMainLength) :
    f.bytes.foldl (· ^^^ ·) 0 = 0 := by
  have hsum := (xorOk_iff (by decide) hf.ge).mp f.valid.main
  rwa [← hf, List.take_length] at hsum

/-- A frame begins with the header and has two bytes after it. -/
theorem starts (g : Frame) : ∃ b3 b4 tail, g.bytes = 0xbd :: 0xdb :: 0x0b :: b3 :: b4 :: tail := by
  have hlen := g.valid.mainAt.1
  have hheader := g.valid.header
  match hb : g.bytes with
  | b0 :: b1 :: b2 :: b3 :: b4 :: tail =>
    rw [hb] at hheader
    simp only [headerOk, byte, kHeader, List.getD_cons_zero, List.getD_cons_succ,
      Bool.and_eq_true, beq_iff_eq] at hheader
    obtain ⟨⟨rfl, rfl⟩, rfl⟩ := hheader
    exact ⟨b3, b4, tail, rfl⟩
  | [] | [_] | [_, _] | [_, _, _] | [_, _, _, _] => simp [hb, kMainLength] at hlen

/-- Behind a main packet, the longer checksum covers the first five bytes of the next frame. -/
theorem hasExtendedFrame_main_append {f g : Frame} (rest : List UInt8)
    (hf : f.bytes.length = kMainLength) :
    hasExtendedFrame (f.bytes ++ (g.bytes ++ rest)) = true ↔
      byte g.bytes 4 = byte g.bytes 3 ^^^ 0x6d := by
  have hlong : kExtendedLength ≤ (f.bytes ++ (g.bytes ++ rest)).length := by
    have := g.valid.mainAt.1
    simp only [List.length_append, hf, kMainLength, kExtendedLength] at this ⊢
    omega
  obtain ⟨b3, b4, tail, hg⟩ := g.starts
  have htake : (f.bytes ++ (g.bytes ++ rest)).take 62 = f.bytes ++ [0xbd, 0xdb, 0x0b, b3] := by
    rw [List.take_append, hf, List.take_of_length_le (by rw [hf]; decide), hg]
    rfl
  have hlast : byte (f.bytes ++ (g.bytes ++ rest)) 62 = b4 := by
    rw [byte_append_right _ (by rw [hf]; decide), hf, hg]
    rfl
  rw [hasExtendedFrame_iff, and_iff_right hlong, xorOk, beq_iff_eq,
    show kExtendedLength - 1 = 62 from rfl, htake, hlast, List.foldl_append, xor_main hf, hg]
  show 0x6d ^^^ b3 = b4 ↔ b4 = b3 ^^^ 0x6d
  rw [UInt8.xor_comm, eq_comm]

/-- An extended frame stays one, whatever follows it. -/
theorem hasExtendedFrame_extended_append {f : Frame} (rest : List UInt8)
    (hf : f.bytes.length = kExtendedLength) : hasExtendedFrame (f.bytes ++ rest) = true := by
  have hx := f.valid.hasExtendedFrame_iff.mpr hf
  exact (extendedAt_iff.mp ((extendedAt_iff.mpr ⟨f.valid.mainAt, hx⟩).append rest)).2

/-- A frame keeps its length when the frame behind it does not complete its longer checksum. -/
theorem frameLength_append_iff (f : Frame) (fs : List Frame) :
    frameLength (f.bytes ++ fs.flatMap Frame.bytes) = f.bytes.length ↔
      ∀ g ∈ fs.head?, Follows f g := by
  rcases f.valid.length with hf | hf
  · cases fs with
    | nil => simp [f.valid.frameLength_eq]
    | cons g fs =>
      have hx := hasExtendedFrame_main_append (g := g) (fs.flatMap Frame.bytes) hf
      rw [List.flatMap_cons, hf]
      by_cases h : byte g.bytes 4 = byte g.bytes 3 ^^^ 0x6d
      · simp [frameLength_of_extended (hx.mpr h), Follows, hf, h, kMainLength, kExtendedLength]
      · simp [frameLength_of_not_extended (fun hx' => h (hx.mp hx')), Follows, h]
  · have hx := hasExtendedFrame_extended_append (fs.flatMap Frame.bytes) hf
    simp [frameLength_of_extended hx, Follows, hf, kMainLength, kExtendedLength]

end Frame

/-- The scanner cuts a list of frames off one by one exactly when none of them completes the longer
checksum of a main packet before it. -/
theorem frames_eq_iff {fs : List Frame} {items : List (Item UInt8)} {rest : List UInt8}
    (run : Runs asensing (fs.flatMap Frame.bytes) items rest) :
    frames items = fs.map Frame.bytes ↔ fs.IsChain Follows := by
  induction fs generalizing items with
  | nil =>
    obtain ⟨rfl, -⟩ := run.of_wait rfl
    simp
  | cons f fs ih =>
    have hm : MainAt (f.bytes ++ fs.flatMap Frame.bytes) := f.valid.mainAt.append _
    obtain ⟨items', rfl, tail⟩ := run.of_take (verdict_of_mainAt hm)
    rw [frames_frame, List.map_cons, List.cons.injEq, List.isChain_cons,
      ← f.frameLength_append_iff]
    by_cases hlen : frameLength (f.bytes ++ fs.flatMap Frame.bytes) = f.bytes.length
    · rw [hlen, List.drop_left] at tail
      rw [hlen, List.take_left, ih tail]
      simp
    · have htake := length_take_frameLength hm
      simp only [hlen, false_and, iff_false, not_and]
      intro heq
      rw [heq] at htake
      exact absurd htake.symm hlen

/-! ### The samples of a call -/

variable {F : Type} [Double F]

/-- The GPS week of a sample, with its flag. -/
def INSData.week (d : INSData F) : UInt32 × Bool := (d.gpsWeek, d.hasGpsWeek)

/-- The week after a frame: an extended frame sets it, and a main frame leaves it alone. -/
def Frame.weekAfter (w : UInt32 × Bool) (f : Frame) : UInt32 × Bool :=
  if f.bytes.length = kExtendedLength then (u32 f.bytes 58, true) else w

/-- The call returned one sample for each of the frames `fs`, in order, with the week changed at the
extended frames only. -/
structure Delivered (s : INSData F) (fs : List Frame)
    (r : ASENSINGParser F × List (INSData F)) : Prop where
  frames : r.2.map INSData.rawFrame = fs.map Frame.bytes
  weeks : r.2.map INSData.week = trace Frame.weekAfter s.week fs
  main_only : (∀ f ∈ fs, f.bytes.length = kMainLength) → r.1.state.week = s.week

theorem week_decode_bytes (s : INSData F) (f : Frame) :
    (decode s f.bytes).week = f.weekAfter s.week := by
  rw [INSData.week, gpsWeek_decode, Frame.weekAfter]
  simp only [f.valid.hasExtendedFrame_iff]
  rfl

theorem samples_bytes_weeks (s : INSData F) (fs : List Frame) :
    (samples s (fs.map Frame.bytes)).map INSData.week = trace Frame.weekAfter s.week fs := by
  rw [samples, trace_map]
  exact map_trace week_decode_bytes s fs

/-- Main frames leave the week alone. -/
theorem stateAfter_bytes_week (s : INSData F) {fs : List Frame}
    (h : ∀ f ∈ fs, f.bytes.length = kMainLength) :
    (stateAfter s (fs.map Frame.bytes)).week = s.week := by
  induction fs generalizing s with
  | nil => rfl
  | cons f fs ih =>
    have hf : f.bytes.length ≠ kExtendedLength := by rw [h f (by simp)]; decide
    have := ih (decode s f.bytes) fun g hg => h g (by simp [hg])
    rw [week_decode_bytes, Frame.weekAfter, if_neg hf] at this
    exact this

/-- A call of `feed` with the frames `fs` one behind another, on a parser with an empty buffer and
any state, returns one sample for each frame and changes the week at the extended frames only,
exactly when no main frame of the list is followed by a frame whose fifth byte is its fourth XOR
`0x6d`. -/
theorem feed_frames_iff (s : INSData F) (fs : List Frame) :
    Delivered s fs ((⟨[], s⟩ : ASENSINGParser F).feed (fs.flatMap Frame.bytes)) ↔
      fs.IsChain fun f g =>
        f.bytes.length = kMainLength → byte g.bytes 4 ≠ byte g.bytes 3 ^^^ 0x6d := by
  obtain ⟨items, hrun, hscan⟩ := feed_scanned ⟨[], s⟩ (fs.flatMap Frame.bytes) rfl
  have hvalid : ∀ f ∈ frames items, ValidFrame f := by
    have hcalls : Feeds asensing [] [fs.flatMap Frame.bytes] (items ++ []) _ := .call hrun .done
    rw [List.append_nil] at hcalls
    exact validFrame_of_feeds hcalls
  have hiff : frames items = fs.map Frame.bytes ↔ fs.IsChain Follows := frames_eq_iff hrun
  apply Iff.trans _ hiff
  constructor
  · intro h
    rw [← samples_rawFrame s hvalid, ← hscan.result]
    exact h.frames
  · intro h
    constructor
    · rw [hscan.result, samples_rawFrame s hvalid, h]
    · rw [hscan.result, h, samples_bytes_weeks]
    · intro hmain
      rw [hscan.state, h, stateAfter_bytes_week s hmain]

/-- A roll of 109 units behind a main packet turns the two packets into one extended packet. -/
theorem feed_frames_merged : ¬∀ (s : INSData Exact) (fs : List Frame),
    Delivered s fs ((⟨[], s⟩ : ASENSINGParser Exact).feed (fs.flatMap Frame.bytes)) := by
  intro h
  let level : Packet := .ofSelector 0 0 0 0
  let rolled : Packet := { level with roll := 109 }
  have hframes := (h .initial [⟨level.frame none, Packet.validFrame_frame _ _⟩,
    ⟨rolled.frame none, Packet.validFrame_frame _ _⟩]).frames
  have hlengths := congrArg (List.map List.length) hframes
  exact absurd hlengths (by decide +kernel)

end AsensingDriver
