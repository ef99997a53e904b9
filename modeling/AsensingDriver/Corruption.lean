import AsensingDriver.ExtendedStream

/-! Frames with one wrong byte.  A main packet with a wrong byte is rejected, and no later offset of
it is long enough to hold a packet; an extended packet with a wrong byte in its extension is
accepted as a main packet.  `feed_corrupted` says so for every byte and every value. -/

namespace AsensingDriver

open Resync Latest

/-- A valid frame of 58 bytes. -/
structure MainFrame extends Frame where
  length_eq : bytes.length = kMainLength

/-- A packet without a week. -/
example (p : Packet) : MainFrame where
  bytes := p.frame none
  valid := p.validFrame_frame none
  length_eq := by rw [Packet.length_frame]; rfl

/-- One byte of `f`, at a position from `first` on and before `last`, is replaced by another
value. -/
structure Corruption (f : List UInt8) (first last : Nat) where
  index : Nat
  value : UInt8
  first_le : first ≤ index
  lt_last : index < last
  differs : value ≠ byte f index

/-- The lowest bit of a byte is turned. -/
example (f : List UInt8) (first last i : Nat) (hfirst : first ≤ i) (hlast : i < last) :
    Corruption f first last where
  index := i
  value := byte f i ^^^ 1
  first_le := hfirst
  lt_last := hlast
  differs h := by
    have hone : (1 : UInt8) = 0 := (UInt8.xor_right_inj _).mp (h.trans UInt8.xor_zero.symm)
    exact absurd hone (by decide)

namespace Corruption

variable {f : List UInt8} {first last : Nat} (c : Corruption f first last)

def bytes : List UInt8 := f.set c.index c.value

theorem length_bytes : c.bytes.length = f.length := List.length_set

/-- A checksum that was correct over the wrong byte is not correct any more. -/
theorem xorOk_bytes {n : Nat} (h : xorOk f n = true) (hlast : last ≤ n) (hn : n ≤ f.length) :
    xorOk c.bytes n = false := by
  have hlt := c.lt_last
  have hpos : 0 < n := by omega
  have hindex : c.index < (f.take n).length := by rw [List.length_take]; omega
  have hold : (f.take n)[c.index] = byte f c.index := by
    rw [List.getElem_take, byte, List.getElem_eq_getD (h := by omega)]
  rw [Bool.eq_false_iff, Ne, xorOk_iff hpos (by rwa [c.length_bytes]), bytes, List.take_set,
    ← (xorOk_iff hpos hn).mp h, Xor.sum_set_eq_iff _ hindex, hold]
  exact c.differs

/-- The bytes before the wrong one are as they were. -/
theorem take_bytes {n : Nat} (hfirst : n ≤ first) : c.bytes.take n = f.take n :=
  List.take_set_of_le (Nat.le_trans hfirst c.first_le)

end Corruption

/-- A run over 58 bytes or fewer that do not form a main packet takes no frame. -/
theorem frames_eq_nil {b rest : List UInt8} {items : List (Item UInt8)}
    (run : Runs asensing b items rest) (hlen : b.length ≤ kMainLength) (hb : ¬MainAt b) :
    frames items = [] := by
  induction run with
  | stop => rfl
  | @skip a b _ items _ _ ih =>
    refine ih (Nat.le_of_succ_le hlen) ?_
    intro hm
    exact absurd hm.1 (Nat.not_le.mpr hlen)
  | take htake => exact absurd (verdict_take_iff.mp htake).1 hb

variable {F : Type} [Double F]

/-- A call that returns no sample leaves the state as it was. -/
theorem feed_frames_nil (s : INSData F) {b : List UInt8}
    (h : ∀ items rest, Runs asensing b items rest → frames items = []) :
    let r := (⟨[], s⟩ : ASENSINGParser F).feed b
    r.2 = [] ∧ r.1.state = s := by
  obtain ⟨items, hrun, hscan⟩ := feed_scanned ⟨[], s⟩ b rfl
  have hresult := hscan.result
  have hstate := hscan.state
  rw [h items _ hrun] at hresult hstate
  exact ⟨hresult, hstate⟩

theorem feed_corrupted_main (s : INSData F) (f : MainFrame)
    (c : Corruption f.bytes 0 kMainLength) :
    let r := (⟨[], s⟩ : ASENSINGParser F).feed c.bytes
    r.2 = [] ∧ r.1.state = s := by
  have hlen : c.bytes.length = kMainLength := c.length_bytes.trans f.length_eq
  have hxor := c.xorOk_bytes f.valid.main (Nat.le_refl _) f.length_eq.ge
  apply feed_frames_nil
  intro items rest run
  apply frames_eq_nil run hlen.le
  intro hm
  rw [hm.2.2] at hxor
  cases hxor

theorem feed_corrupted_extended (s : INSData F) (f : ExtendedFrame)
    (c : Corruption f.bytes kMainLength kExtendedLength) :
    let r := (⟨[], s⟩ : ASENSINGParser F).feed c.bytes
    let d := decode s (f.bytes.take kMainLength)
    r.2 = [d] ∧ r.1.state = d ∧ d.rawFrame = f.bytes.take kMainLength ∧
      Measures (f.bytes.take kMainLength) d ∧ SelectorStep (f.bytes.take kMainLength) s d ∧
      (d.gpsWeek, d.hasGpsWeek) = (s.gpsWeek, s.hasGpsWeek) := by
  have hlen : c.bytes.length = kExtendedLength := c.length_bytes.trans f.length_eq
  have htake : c.bytes.take kMainLength = f.bytes.take kMainLength := c.take_bytes (Nat.le_refl _)
  have hm : MainAt c.bytes := by
    refine ⟨by rw [hlen]; decide, ?_, ?_⟩
    · rw [← headerOk_take c.bytes (show 3 ≤ kMainLength by decide), htake,
        headerOk_take f.bytes (by decide)]
      exact f.valid.header
    · rw [← xorOk_take c.bytes (by decide) (Nat.le_refl kMainLength), htake,
        xorOk_take f.bytes (by decide) (Nat.le_refl _)]
      exact f.valid.main
  have hshort : hasExtendedFrame c.bytes = false := by
    rw [hasExtendedFrame, c.xorOk_bytes (f.valid.extended f.length_eq) (Nat.le_refl _)
      f.length_eq.ge, Bool.and_false]
  have hframe : frameLength c.bytes = kMainLength :=
    frameLength_of_not_extended (Bool.eq_false_iff.mp hshort)
  have hvalid := validFrame_take hm
  have hdecode := decode_take s hm
  have hunextended := hasExtendedFrame_take hm
  rw [hframe, htake] at hvalid hdecode hunextended
  obtain ⟨items, hrun, hscan⟩ := feed_scanned ⟨[], s⟩ c.bytes rfl
  obtain ⟨items', rfl, tail⟩ := Runs.of_take (verdict_of_mainAt hm) hrun
  -- Five bytes are left, too few for another packet.
  have hrest : (c.bytes.drop (frameLength c.bytes)).length < kMainLength := by
    rw [hframe, List.length_drop, hlen]
    decide
  have hnil : frames items' = [] := by
    refine frames_eq_nil tail hrest.le ?_
    intro hm'
    exact absurd hm'.1 (Nat.not_le.mpr hrest)
  have hframes : frames (.frame (c.bytes.take (frameLength c.bytes)) :: items') =
      [f.bytes.take kMainLength] := by
    rw [frames_frame, hnil, hframe, htake]
  have hresult := hscan.result
  have hstate := hscan.state
  rw [hframes] at hresult hstate
  refine ⟨hresult, hstate, decode_rawFrame s hvalid, measures_decode s _, decode_step s _, ?_⟩
  rw [gpsWeek_decode, hunextended, hshort]
  rfl

/-- A call with a main packet of which one byte is wrong returns nothing and keeps the state.  A
call with an extended packet of which one byte of the extension is wrong returns the sample of the
first 58 bytes, with their measurements, the group that their selector names, and the week as it
was.  The parser's state is any, and its buffer empty. -/
theorem feed_corrupted (s : INSData F) :
    (∀ (f : MainFrame) (c : Corruption f.bytes 0 kMainLength),
      let r := (⟨[], s⟩ : ASENSINGParser F).feed c.bytes
      r.2 = [] ∧ r.1.state = s) ∧
    (∀ (f : ExtendedFrame) (c : Corruption f.bytes kMainLength kExtendedLength),
      let r := (⟨[], s⟩ : ASENSINGParser F).feed c.bytes
      let d := decode s (f.bytes.take kMainLength)
      r.2 = [d] ∧ r.1.state = d ∧ d.rawFrame = f.bytes.take kMainLength ∧
        Measures (f.bytes.take kMainLength) d ∧ SelectorStep (f.bytes.take kMainLength) s d ∧
        (d.gpsWeek, d.hasGpsWeek) = (s.gpsWeek, s.hasGpsWeek)) :=
  ⟨feed_corrupted_main s, feed_corrupted_extended s⟩

end AsensingDriver
