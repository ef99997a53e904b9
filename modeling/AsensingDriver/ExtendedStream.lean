import AsensingDriver.BackToBack
import AsensingDriver.Chunks

/-! A stream of extended packets alone.  `feedAll_extended` says that every week of it is received
when no call ends between the main part of a packet and the end of its extension. -/

namespace AsensingDriver

open Resync Latest

/-- A valid frame of 63 bytes. -/
structure ExtendedFrame extends Frame where
  length_eq : bytes.length = kExtendedLength

/-- A packet with a week. -/
example (p : Packet) (week : UInt32) : ExtendedFrame where
  bytes := p.frame (some week)
  valid := p.validFrame_frame (some week)
  length_eq := by rw [Packet.length_frame]; rfl

namespace ExtendedFrame

/-- The week that the frame carries. -/
def week (f : ExtendedFrame) : UInt32 := u32 f.bytes 58

theorem extendedAt (f : ExtendedFrame) : ExtendedAt f.bytes :=
  extendedAt_iff.mpr ⟨f.valid.mainAt, f.valid.hasExtendedFrame_iff.mpr f.length_eq⟩

theorem length_flatMap (fs : List ExtendedFrame) :
    (fs.flatMap (·.bytes)).length = ((fs.map (·.bytes)).map List.length).sum := by
  simp [List.length_flatMap, Function.comp_def]

end ExtendedFrame

/-- A way of cutting the frames `fs`, one behind another, into consecutive calls of which none ends
with 58 to 62 bytes of a frame delivered. -/
structure WholeWeeks (fs : List ExtendedFrame) extends Cutting (fs.flatMap (·.bytes)) where
  ends : ∀ pre post, chunks = pre ++ post → pre.flatten.length % kExtendedLength < kMainLength

/-- Two frames in two calls, of which the first ends inside the second frame. -/
example (f g : ExtendedFrame) : Nonempty (WholeWeeks [f, g]) := by
  have hlength : (f.bytes ++ g.bytes).length = 126 := by
    rw [List.length_append, f.length_eq, g.length_eq]
    rfl
  refine ⟨⟨⟨[(f.bytes ++ g.bytes).take 100, (f.bytes ++ g.bytes).drop 100], by simp⟩, ?_⟩⟩
  intro pre post h
  rcases List.cons_eq_append_iff.mp h with ⟨rfl, -⟩ | ⟨pre, rfl, hrest⟩
  · decide
  rcases List.cons_eq_append_iff.mp hrest with ⟨rfl, -⟩ | ⟨pre, rfl, hnil⟩
  · rw [List.flatten_singleton, List.length_take, hlength]
    decide
  · obtain ⟨rfl, -⟩ := List.append_eq_nil_iff.mp hnil.symm
    rw [List.flatten_cons, List.flatten_singleton, List.take_append_drop, hlength]
    decide

theorem WholeWeeks.not_splits {fs : List ExtendedFrame} (c : WholeWeeks fs) (i : Nat) :
    ¬Splits c.chunks (kExtendedLength * i) := by
  rintro ⟨n, ⟨pre, post, hchunks, rfl⟩, hmain, hextended⟩
  have hend := c.ends pre post hchunks
  unfold kMainLength kExtendedLength at *
  omega

/-- A scan takes an extended packet that is not cut whole. -/
theorem takes_extended {s : List UInt8} {cut : Nat → Prop} {p : Nat} {gs : List (List UInt8)}
    (hx : ExtendedAt (s.drop p)) (hwhole : ¬cut p) (h : Takes s cut p gs) :
    ∃ gs', gs = (s.drop p).take kExtendedLength :: gs' ∧ Takes s cut (p + kExtendedLength) gs' := by
  cases h with
  | done hnone => exact absurd hx.1 (hnone p (Nat.le_refl _))
  | skip hn => exact absurd hx.1 hn
  | main _ hs => exact absurd (hs hx) hwhole
  | extended _ _ tail => exact ⟨_, rfl, tail⟩

/-- A scan of extended packets that are not cut takes them one by one. -/
theorem takes_frames {s : List UInt8} {cut : Nat → Prop} {p : Nat} {gs : List (List UInt8)}
    {fs : List ExtendedFrame} (hs : s.drop p = fs.flatMap (·.bytes))
    (hwhole : ∀ i, ¬cut (p + kExtendedLength * i)) (h : Takes s cut p gs) :
    gs = fs.map (·.bytes) := by
  induction fs generalizing p gs with
  | nil =>
    refine takes_none ?_ h
    intro i hi hm
    have hlong := hm.1
    have hshort : s.length - p = 0 := by simpa using congrArg List.length hs
    rw [List.length_drop] at hlong
    simp only [kMainLength] at hlong
    omega
  | cons f fs ih =>
    rw [List.flatMap_cons] at hs
    have hx : ExtendedAt (s.drop p) := hs ▸ f.extendedAt.append _
    obtain ⟨gs', rfl, tail⟩ := takes_extended hx (hwhole 0) h
    have htake : (s.drop p).take kExtendedLength = f.bytes := by
      rw [hs, List.take_append_of_le_length f.length_eq.ge, ← f.length_eq, List.take_length]
    have hrest : s.drop (p + kExtendedLength) = fs.flatMap (·.bytes) := by
      rw [← List.drop_drop, hs, ← f.length_eq, List.drop_left]
    rw [htake, List.map_cons, ih hrest ?_ tail]
    intro i
    have hnext := hwhole (1 + i)
    rwa [Nat.mul_add, Nat.mul_one, ← Nat.add_assoc] at hnext

variable {F : Type} [Double F]

/-- Extended frames give one sample each, with the frame's own week. -/
theorem samples_extended (s : INSData F) (fs : List ExtendedFrame) :
    (samples s (fs.map (·.bytes))).map (fun d => (d.rawFrame, d.hasGpsWeek, d.gpsWeek)) =
      fs.map fun f => (f.bytes, true, f.week) := by
  induction fs generalizing s with
  | nil => rfl
  | cons f fs ih =>
    have hraw := decode_rawFrame s f.valid
    have hweek := gpsWeek_decode s f.bytes
    rw [if_pos (f.valid.hasExtendedFrame_iff.mpr f.length_eq), Prod.mk.injEq] at hweek
    simp only [samples, List.map_cons, trace]
    rw [hraw, hweek.1, hweek.2]
    exact congrArg (_ :: ·) (ih _)

/-- Extended frames one behind another, cut into calls of which none ends with 58 to 62 bytes of a
frame delivered, give one sample each, with the frame's own week, and leave the buffer empty,
whatever the parser's state was. -/
theorem feedAll_extended (s : INSData F) (fs : List ExtendedFrame) (c : WholeWeeks fs) :
    let r := (⟨[], s⟩ : ASENSINGParser F).feedAll c.chunks
    r.2.map (fun d => (d.rawFrame, d.hasGpsWeek, d.gpsWeek)) =
      fs.map (fun f => (f.bytes, true, f.week)) ∧ r.1.buffer = [] := by
  intro r
  obtain ⟨items, hfeeds, hscan⟩ := feedAll_scanned ⟨[], s⟩ c.chunks rfl
  have htakes : Takes _ (Splits ([] ++ c.chunks)) 0 (frames items) :=
    feeds_takes hfeeds rfl rfl c.flatten_eq.symm
  have hframes : frames items = fs.map (·.bytes) :=
    takes_frames rfl (fun i => by rw [Nat.zero_add]; exact c.not_splits i) htakes
  constructor
  · rw [show r.2 = _ from hscan.result, hframes, samples_extended]
  · -- The frames are as long as the stream, so that nothing is left over.
    have htiles := congrArg List.length hfeeds.tiles
    have hcovered := length_frames_le items
    rw [List.nil_append, c.flatten_eq, ExtendedFrame.length_flatMap, ← hframes,
      List.length_append] at htiles
    have hempty : (ASENSINGParser.feedAll ⟨[], s⟩ c.chunks).1.buffer.length = 0 := by omega
    exact List.eq_nil_of_length_eq_zero hempty

end AsensingDriver
