import AsensingDriver.Parser
import AsensingDriver.Lib.Scanner
import AsensingDriver.Lib.Latest
import AsensingDriver.Lib.Bytes

/-! The loop of `feed` as a scanner.  `asensing` decides from the buffer alone whether the loop
waits, erases a byte or accepts a packet, and `feedAll_scanned` says that consecutive calls of
`feed` are the scanner's runs, with the samples decoded in order from the frames that the runs cut
off.  `feedAll_accepts` then describes what any sequence of calls accepts. -/

namespace AsensingDriver

open Resync Latest

/-! ### Reading bytes -/

theorem byte_append_left {b : List UInt8} {i : Nat} (x : List UInt8) (h : i < b.length) :
    byte (b ++ x) i = byte b i := by
  simp [byte, List.getD_eq_getElem?_getD, List.getElem?_append_left h]

theorem byte_append_right {b : List UInt8} {i : Nat} (x : List UInt8) (h : b.length ≤ i) :
    byte (b ++ x) i = byte x (i - b.length) := by
  simp [byte, List.getD_eq_getElem?_getD, List.getElem?_append_right h]

theorem byte_take {n i : Nat} (b : List UInt8) (h : i < n) : byte (b.take n) i = byte b i := by
  simp [byte, List.getD_eq_getElem?_getD, h]

theorem headerOk_append {b : List UInt8} (x : List UInt8) (h : 3 ≤ b.length) :
    headerOk (b ++ x) = headerOk b := by
  simp only [headerOk, byte_append_left x (show 0 < b.length by omega),
    byte_append_left x (show 1 < b.length by omega),
    byte_append_left x (show 2 < b.length by omega)]

theorem headerOk_take {n : Nat} (b : List UInt8) (h : 3 ≤ n) :
    headerOk (b.take n) = headerOk b := by
  simp only [headerOk, byte_take b (show 0 < n by omega), byte_take b (show 1 < n by omega),
    byte_take b (show 2 < n by omega)]

theorem xorOk_append {b : List UInt8} {n : Nat} (x : List UInt8) (hn : 0 < n)
    (h : n ≤ b.length) : xorOk (b ++ x) n = xorOk b n := by
  rw [xorOk, xorOk, List.take_append_of_le_length (by omega), byte_append_left x (by omega)]

theorem xorOk_take {n m : Nat} (b : List UInt8) (hn : 0 < n) (h : n ≤ m) :
    xorOk (b.take m) n = xorOk b n := by
  rw [xorOk, xorOk, List.take_take, Nat.min_eq_left (by omega), byte_take b (by omega)]

/-- A checksum is correct when the bytes that it covers cancel out with it. -/
theorem xorOk_iff {b : List UInt8} {n : Nat} (hn : 0 < n) (h : n ≤ b.length) :
    xorOk b n = true ↔ Xor.sum (b.take n) = 0 := by
  have hsplit : b.take n = b.take (n - 1) ++ [byte b (n - 1)] := by
    rw [byte, ← List.getElem_eq_getD (h := by omega), List.take_append_getElem (by omega),
      Nat.sub_add_cancel hn]
  rw [hsplit, Xor.sum_append, Xor.sum_cons, xorOk, beq_iff_eq, UInt8.xor_eq_zero_iff]
  exact Iff.of_eq (congrArg _ UInt8.xor_zero.symm)

/-! ### Frames -/

/-- A complete main packet stands at the front of `b`. -/
def MainAt (b : List UInt8) : Prop :=
  kMainLength ≤ b.length ∧ headerOk b = true ∧ xorOk b kMainLength = true

/-- A complete extended packet stands at the front of `b`. -/
def ExtendedAt (b : List UInt8) : Prop :=
  MainAt b ∧ kExtendedLength ≤ b.length ∧ xorOk b kExtendedLength = true

instance (b : List UInt8) : Decidable (MainAt b) := inferInstanceAs (Decidable (_ ∧ _))

instance (b : List UInt8) : Decidable (ExtendedAt b) := inferInstanceAs (Decidable (_ ∧ _))

/-- A valid frame: 58 or 63 bytes that begin with the header, of which the first 58 cancel out, and
in a frame of 63 all of them. -/
structure ValidFrame (f : List UInt8) : Prop where
  length : f.length = kMainLength ∨ f.length = kExtendedLength
  header : headerOk f = true
  mainSum : Xor.sum (f.take kMainLength) = 0
  extendedSum : f.length = kExtendedLength → Xor.sum f = 0

namespace ValidFrame

variable {f : List UInt8}

theorem mainLength_le (h : ValidFrame f) : kMainLength ≤ f.length := by
  rcases h.length with h | h <;> rw [h]
  decide

/-- The checksum over the first 58 bytes is correct. -/
theorem main (h : ValidFrame f) : xorOk f kMainLength = true :=
  (xorOk_iff (by decide) h.mainLength_le).mpr h.mainSum

theorem extended (h : ValidFrame f) (hlen : f.length = kExtendedLength) :
    xorOk f kExtendedLength = true := by
  rw [xorOk_iff (by decide) hlen.ge, ← hlen, List.take_length]
  exact h.extendedSum hlen

theorem of_xorOk (length : f.length = kMainLength ∨ f.length = kExtendedLength)
    (header : headerOk f = true) (main : xorOk f kMainLength = true)
    (extended : f.length = kExtendedLength → xorOk f kExtendedLength = true) : ValidFrame f where
  length := length
  header := header
  mainSum := (xorOk_iff (by decide) (by rcases length with h | h <;> rw [h]; decide)).mp main
  extendedSum h := by
    have hsum := (xorOk_iff (by decide) h.ge).mp (extended h)
    rwa [← h, List.take_length] at hsum

end ValidFrame

theorem MainAt.append {b : List UInt8} (h : MainAt b) (x : List UInt8) : MainAt (b ++ x) :=
  ⟨by rw [List.length_append]; exact Nat.le_add_right_of_le h.1,
    by rw [headerOk_append x (Nat.le_trans (by decide) h.1)]; exact h.2.1,
    by rw [xorOk_append x (by decide) h.1]; exact h.2.2⟩

theorem ExtendedAt.append {b : List UInt8} (h : ExtendedAt b) (x : List UInt8) :
    ExtendedAt (b ++ x) :=
  ⟨h.1.append x, by rw [List.length_append]; exact Nat.le_add_right_of_le h.2.1,
    by rw [xorOk_append x (by decide) h.2.1]; exact h.2.2⟩

theorem hasExtendedFrame_iff {b : List UInt8} :
    hasExtendedFrame b = true ↔ kExtendedLength ≤ b.length ∧ xorOk b kExtendedLength = true := by
  simp [hasExtendedFrame]

theorem extendedAt_iff {b : List UInt8} :
    ExtendedAt b ↔ MainAt b ∧ hasExtendedFrame b = true := by
  rw [hasExtendedFrame_iff]; rfl

theorem frameLength_cases (b : List UInt8) :
    frameLength b = kMainLength ∨ frameLength b = kExtendedLength := by
  unfold frameLength
  split
  · exact .inr rfl
  · exact .inl rfl

theorem frameLength_of_extended {b : List UInt8} (h : hasExtendedFrame b = true) :
    frameLength b = kExtendedLength := by
  rw [frameLength, if_pos h]

theorem frameLength_of_not_extended {b : List UInt8} (h : ¬hasExtendedFrame b = true) :
    frameLength b = kMainLength := by
  rw [frameLength, if_neg h]

theorem frameLength_le_length {b : List UInt8} (h : kMainLength ≤ b.length) :
    frameLength b ≤ b.length := by
  by_cases hx : hasExtendedFrame b = true
  · rw [frameLength_of_extended hx]
    exact (hasExtendedFrame_iff.mp hx).1
  · rw [frameLength_of_not_extended hx]
    exact h

theorem frameLength_le {b : List UInt8} (h : MainAt b) : frameLength b ≤ b.length :=
  frameLength_le_length h.1

theorem length_take_frameLength {b : List UInt8} (h : MainAt b) :
    (b.take (frameLength b)).length = frameLength b := by
  rw [List.length_take, Nat.min_eq_left (frameLength_le h)]

theorem mainLength_le_frameLength (b : List UInt8) : kMainLength ≤ frameLength b := by
  rcases frameLength_cases b with h | h
  · exact h.ge
  · exact h ▸ by decide

/-- The frame that is cut off a buffer has the extension exactly when the buffer has it. -/
theorem hasExtendedFrame_take {b : List UInt8} (h : MainAt b) :
    hasExtendedFrame (b.take (frameLength b)) = hasExtendedFrame b := by
  have hlen := length_take_frameLength h
  by_cases hx : hasExtendedFrame b = true
  · rw [hx, hasExtendedFrame_iff, hlen, frameLength_of_extended hx]
    exact ⟨Nat.le_refl _, by rw [xorOk_take b (by decide) (Nat.le_refl _)]; exact
      (hasExtendedFrame_iff.mp hx).2⟩
  · rw [Bool.eq_false_iff.mpr hx, Bool.eq_false_iff, Ne, hasExtendedFrame_iff, hlen,
      frameLength_of_not_extended hx]
    intro h'
    exact absurd h'.1 (by decide)

theorem frameLength_take {b : List UInt8} (h : MainAt b) :
    frameLength (b.take (frameLength b)) = frameLength b := by
  rw [frameLength, hasExtendedFrame_take h]; rfl

/-- The frame that is cut off a buffer is valid. -/
theorem validFrame_take {b : List UInt8} (h : MainAt b) : ValidFrame (b.take (frameLength b)) := by
  refine .of_xorOk ?_ ?_ ?_ ?_
  · rw [length_take_frameLength h]
    exact frameLength_cases b
  · rw [headerOk_take b (Nat.le_trans (by decide) (mainLength_le_frameLength b))]
    exact h.2.1
  · rw [xorOk_take b (by decide) (mainLength_le_frameLength b)]
    exact h.2.2
  · intro hx
    have hn : hasExtendedFrame b = true := by
      by_contra hno
      rw [length_take_frameLength h, frameLength_of_not_extended hno] at hx
      exact absurd hx (by decide)
    rw [frameLength_of_extended hn, xorOk_take b (by decide) (Nat.le_refl _)]
    exact (hasExtendedFrame_iff.mp hn).2

/-- A valid frame is a complete packet on its own, with its own length. -/
theorem ValidFrame.mainAt {f : List UInt8} (h : ValidFrame f) : MainAt f :=
  ⟨h.mainLength_le, h.header, h.main⟩

theorem ValidFrame.hasExtendedFrame_iff {f : List UInt8} (h : ValidFrame f) :
    hasExtendedFrame f = true ↔ f.length = kExtendedLength := by
  rw [AsensingDriver.hasExtendedFrame_iff]
  constructor
  · intro hx
    rcases h.length with hl | hl
    · rw [hl] at hx
      exact absurd hx.1 (by decide)
    · exact hl
  · intro hl
    exact ⟨hl.ge, h.extended hl⟩

theorem ValidFrame.frameLength_eq {f : List UInt8} (h : ValidFrame f) :
    frameLength f = f.length := by
  by_cases hx : hasExtendedFrame f = true
  · rw [frameLength_of_extended hx, h.hasExtendedFrame_iff.mp hx]
  · rw [frameLength_of_not_extended hx]
    exact (h.length.resolve_right fun hl => hx (h.hasExtendedFrame_iff.mpr hl)).symm

/-! ### The scanner -/

/-- What one iteration of the loop does at the front of its buffer. -/
def verdict (b : List UInt8) : Verdict :=
  if b.length < 3 then .wait
  else if !headerOk b then .skip
  else if b.length < kMainLength then .wait
  else if !xorOk b kMainLength then .skip
  else .take (frameLength b)

theorem verdict_wait_iff {b : List UInt8} :
    verdict b = .wait ↔ b.length < 3 ∨ headerOk b = true ∧ b.length < kMainLength := by
  unfold verdict
  split_ifs <;> simp_all

theorem verdict_skip_iff {b : List UInt8} :
    verdict b = .skip ↔ 3 ≤ b.length ∧
      (headerOk b = false ∨ kMainLength ≤ b.length ∧ xorOk b kMainLength = false) := by
  unfold verdict
  split_ifs <;> simp_all [kMainLength]

theorem verdict_take_iff {b : List UInt8} {n : Nat} :
    verdict b = .take n ↔ MainAt b ∧ frameLength b = n := by
  unfold verdict MainAt
  split_ifs <;> simp_all [kMainLength]
  all_goals omega

/-- The loop of `feed` as a scanner. -/
def asensing : Scanner UInt8 where
  verdict := verdict
  verdict_nil := rfl
  take_pos {b _} h := by
    have := mainLength_le_frameLength b
    rw [(verdict_take_iff.mp h).2] at this
    exact Nat.lt_of_lt_of_le (by decide) this
  take_le h := by
    obtain ⟨hm, rfl⟩ := verdict_take_iff.mp h
    exact frameLength_le hm

/-- The scanner takes a main packet at the front of the buffer, whatever follows it. -/
theorem verdict_of_mainAt {b : List UInt8} (h : MainAt b) :
    asensing.verdict b = .take (frameLength b) :=
  verdict_take_iff.mpr ⟨h, rfl⟩

/-! ### The samples of a run -/

section Samples

variable {F : Type} [Double F]

theorem i16_take {n i : Nat} (b : List UInt8) (h : i + 2 ≤ n) : i16 (b.take n) i = i16 b i := by
  simp only [i16, u16, byte_take b (show i < n by omega), byte_take b (show i + 1 < n by omega)]

theorem i32_take {n i : Nat} (b : List UInt8) (h : i + 4 ≤ n) : i32 (b.take n) i = i32 b i := by
  simp only [i32, byte_take b (show i < n by omega), byte_take b (show i + 1 < n by omega),
    byte_take b (show i + 2 < n by omega), byte_take b (show i + 3 < n by omega)]

theorem u32_take {n i : Nat} (b : List UInt8) (h : i + 4 ≤ n) : u32 (b.take n) i = u32 b i := by
  rw [u32, u32, i32_take b h]

theorem readMain_take {n : Nat} (b : List UInt8) (d : INSData F) (h : kMainLength ≤ n) :
    readMain (b.take n) d = readMain b d := by
  unfold kMainLength at h
  simp (disch := omega) only [readMain, Vector3d.ofLoop, i16_take, i32_take, byte_take]

theorem readSelector_take {n : Nat} (b : List UInt8) (d : INSData F) (h : kMainLength ≤ n) :
    readSelector (b.take n) d = readSelector b d := by
  unfold kMainLength at h
  simp (disch := omega) only [readSelector, i16_take, byte_take]

/-- A sample depends only on the frame that is cut off the buffer. -/
theorem decode_take {b : List UInt8} (s : INSData F) (h : MainAt b) :
    decode s (b.take (frameLength b)) = decode s b := by
  have hm := mainLength_le_frameLength b
  have hframe : (b.take (frameLength b)).take (frameLength b) = b.take (frameLength b) := by
    rw [List.take_take, Nat.min_self]
  simp only [decode, readWeek, frameLength_take h, hasExtendedFrame_take h, hframe,
    readMain_take b _ hm, readSelector_take b _ hm, u32_take b (show 52 + 4 ≤ _ from
      Nat.le_trans (by decide) hm)]
  split
  · rename_i hx
    rw [frameLength_of_extended hx, u32_take b (by decide)]
  · rfl

/-- The samples that a list of accepted frames produces, in order, from the state `s`. -/
def samples (s : INSData F) (fs : List (List UInt8)) : List (INSData F) := trace decode s fs

/-- The state that a list of accepted frames leaves. -/
def stateAfter (s : INSData F) (fs : List (List UInt8)) : INSData F := fs.foldl decode s

/-- From the state `s`, a parser that accepts the frames of `items` returns their samples and
keeps the last. -/
structure Scanned (s : INSData F) (items : List (Item UInt8))
    (r : ASENSINGParser F × List (INSData F)) : Prop where
  result : r.2 = samples s (frames items)
  state : r.1.state = stateAfter s (frames items)

/-- The loop follows the scanner until it waits. -/
theorem loop_scanned (iterations : Nat) (p : ASENSINGParser F)
    (h : p.buffer.length ≤ iterations) :
    ∃ items, Runs asensing p.buffer items (p.loop iterations).1.buffer ∧
      Scanned p.state items (p.loop iterations) := by
  induction iterations generalizing p with
  | zero =>
    have hnil : p.buffer = [] := List.length_eq_zero_iff.mp (Nat.le_zero.mp h)
    exact ⟨[], .stop (by rw [hnil]; rfl), rfl, rfl⟩
  | succ iterations ih =>
    -- One byte is erased and the rest of the loop runs on what follows it.
    have erase : verdict p.buffer = .skip → ∃ items, Runs asensing p.buffer items
          (ASENSINGParser.loop iterations { p with buffer := p.buffer.drop 1 }).1.buffer ∧
          Scanned p.state items
            (ASENSINGParser.loop iterations { p with buffer := p.buffer.drop 1 }) := by
      intro hskip
      obtain ⟨buffer, state⟩ := p
      cases buffer with
      | nil => cases hskip
      | cons a b =>
        obtain ⟨items, hrun, hscan⟩ := ih ⟨b, state⟩ (by simpa using h)
        exact ⟨.skipped a :: items, .skip hskip hrun, hscan.result, hscan.state⟩
    rw [ASENSINGParser.loop]
    split_ifs with h1 h2 h3 h4
    · exact ⟨[], .stop (verdict_wait_iff.mpr (.inl h1)), rfl, rfl⟩
    · exact erase (verdict_skip_iff.mpr ⟨by omega, .inl (by simpa using h2)⟩)
    · exact ⟨[], .stop (verdict_wait_iff.mpr (.inr ⟨by simpa using h2, h3⟩)), rfl, rfl⟩
    · exact erase (verdict_skip_iff.mpr ⟨by omega, .inr ⟨by omega, by simpa using h4⟩⟩)
    · have hm : MainAt p.buffer := ⟨by omega, by simpa using h2, by simpa using h4⟩
      have hpos : 0 < frameLength p.buffer := asensing.take_pos (verdict_of_mainAt hm)
      obtain ⟨items, hrun, hscan⟩ :=
        ih ⟨p.buffer.drop (frameLength p.buffer), decode p.state p.buffer⟩
          (by simp only [List.length_drop]; omega)
      refine ⟨_, .take (verdict_of_mainAt hm) hrun, ?_, ?_⟩
      · simp [hscan.result, samples, trace, decode_take _ hm]
      · simp [hscan.state, stateAfter, decode_take _ hm]

/-- A call of `feed` on a parser that waits is one run of the scanner. -/
theorem feed_scanned (p : ASENSINGParser F) (data : List UInt8) (hp : verdict p.buffer = .wait) :
    ∃ items, Runs asensing (p.buffer ++ data) items (p.feed data).1.buffer ∧
      Scanned p.state items (p.feed data) := by
  unfold ASENSINGParser.feed
  split
  · rename_i hnil
    rw [List.length_eq_zero_iff.mp hnil, List.append_nil]
    exact ⟨[], .stop hp, rfl, rfl⟩
  · exact loop_scanned _ ⟨p.buffer ++ data, p.state⟩ (Nat.le_refl _)

/-- Consecutive calls of `feed` on a parser that waits are the scanner's runs. -/
theorem feedAll_scanned (p : ASENSINGParser F) (chunks : List (List UInt8))
    (hp : verdict p.buffer = .wait) :
    ∃ items, Feeds asensing p.buffer chunks items (p.feedAll chunks).1.buffer ∧
      Scanned p.state items (p.feedAll chunks) := by
  induction chunks generalizing p with
  | nil => exact ⟨[], .done, rfl, rfl⟩
  | cons data chunks ih =>
    obtain ⟨items, hrun, hscan⟩ := feed_scanned p data hp
    obtain ⟨items', hruns, hscan'⟩ := ih (p.feed data).1 hrun.waits
    refine ⟨items ++ items', .call hrun hruns, ?_, ?_⟩
    · simp only [ASENSINGParser.feedAll]
      rw [hscan.result, hscan'.result, hscan.state, frames_append]
      simp [samples, stateAfter, trace_append]
    · simp only [ASENSINGParser.feedAll]
      rw [hscan'.state, hscan.state, frames_append]
      simp [stateAfter]

theorem fresh_waits : verdict (ASENSINGParser.fresh (F := F)).buffer = .wait := rfl

/-- A byte that the scanner drops does not begin a main packet of the whole input. -/
theorem not_mainAt_of_skip {s : List UInt8} {n : Nat} (h : verdict (s.take n) = .skip) :
    ¬MainAt s := by
  rintro ⟨hlen, hheader, hmain⟩
  obtain ⟨h3, hbad⟩ := verdict_skip_iff.mp h
  rw [List.length_take] at h3 hbad
  rcases hbad with hbad | ⟨hn, hbad⟩
  · rw [headerOk_take s (by omega), hheader] at hbad
    cases hbad
  · rw [xorOk_take s (by decide) (by omega), hmain] at hbad
    cases hbad

/-- Every frame that a sequence of calls cuts off is valid. -/
theorem validFrame_of_feeds {b rest : List UInt8} {chunks : List (List UInt8)}
    {items : List (Item UInt8)} (h : Feeds asensing b chunks items rest) :
    ∀ f ∈ frames items, ValidFrame f := by
  intro f hf
  obtain ⟨pre, post, rfl⟩ := List.append_of_mem (mem_frames.mp hf)
  obtain ⟨n, htake, hprefix⟩ := h.decided
  obtain ⟨hm, hlen⟩ := verdict_take_iff.mp htake
  rw [List.prefix_iff_eq_take.mp hprefix, ← hlen]
  exact validFrame_take hm

theorem decode_rawFrame (s : INSData F) {f : List UInt8} (h : ValidFrame f) :
    (decode s f).rawFrame = f := by
  have hframe : f.take (frameLength f) = f := by rw [h.frameLength_eq, List.take_length]
  unfold decode readWeek readSelector readMain
  dsimp only
  split <;> split <;> exact hframe

theorem samples_rawFrame (s : INSData F) {fs : List (List UInt8)} (h : ∀ f ∈ fs, ValidFrame f) :
    (samples s fs).map INSData.rawFrame = fs := by
  induction fs generalizing s with
  | nil => rfl
  | cons f fs ih =>
    simp only [samples, trace, List.map_cons]
    rw [decode_rawFrame s (h f (by simp))]
    exact congrArg (f :: ·) (ih _ fun g hg => h g (by simp [hg]))

/-- What a sequence of calls on a fresh parser accepts: the samples are those of a list of valid
frames, the frames that the scanner cuts off the concatenation of the chunks. -/
theorem fresh_scanned (chunks : List (List UInt8)) :
    ∃ items,
      Feeds asensing [] chunks items (ASENSINGParser.fresh.feedAll (F := F) chunks).1.buffer ∧
      (∀ f ∈ frames items, ValidFrame f) ∧
      (ASENSINGParser.fresh.feedAll (F := F) chunks).2 = samples .initial (frames items) ∧
      (ASENSINGParser.fresh.feedAll (F := F) chunks).2.map INSData.rawFrame = frames items := by
  obtain ⟨items, hfeeds, hscan⟩ := feedAll_scanned (F := F) .fresh chunks fresh_waits
  have hvalid := validFrame_of_feeds hfeeds
  exact ⟨items, hfeeds, hvalid, hscan.result, by rw [hscan.result]; exact samples_rawFrame _ hvalid⟩

/-- For every sequence of calls on a fresh parser, the bytes fed so far are dropped bytes
interleaved with the frames of the returned samples, followed by the residual buffer.  The frames
are valid, no dropped byte begins a main packet of the input, and the residual buffer is shorter
than a main packet and, from three bytes on, begins with the header. -/
theorem feedAll_accepts (chunks : List (List UInt8)) :
    ∃ items : List (Item UInt8),
      let r := ASENSINGParser.fresh.feedAll (F := F) chunks
      symbols items ++ r.1.buffer = chunks.flatten ∧
      frames items = r.2.map INSData.rawFrame ∧
      (∀ d ∈ r.2, ValidFrame d.rawFrame) ∧
      (∀ pre a post, items = pre ++ .skipped a :: post →
        ¬MainAt (chunks.flatten.drop (symbols pre).length)) ∧
      r.1.buffer.length ≤ 57 ∧ (r.1.buffer.length < 3 ∨ headerOk r.1.buffer = true) := by
  obtain ⟨items, hfeeds, hvalid, -, hraw⟩ := fresh_scanned (F := F) chunks
  have htiles := hfeeds.tiles
  rw [List.nil_append] at htiles
  have hwait := verdict_wait_iff.mp (hfeeds.waits rfl)
  refine ⟨items, htiles, hraw.symm, ?_, ?_, ?_, hwait.imp_right And.left⟩
  · intro d hd
    exact hvalid _ (hraw ▸ List.mem_map_of_mem hd)
  · rintro pre a post rfl
    obtain ⟨n, hskip, -⟩ := hfeeds.decided
    rw [← htiles, symbols_append, List.append_assoc, List.drop_left]
    exact not_mainAt_of_skip hskip
  · rcases hwait with h | ⟨-, h⟩
    · omega
    · exact Nat.le_of_lt_succ h

end Samples

end AsensingDriver
