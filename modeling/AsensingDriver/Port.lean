import AsensingDriver.OriginalDriver
import AsensingDriver.Recovery

/-! The parser as a port of the original driver.  `received_ported` says that on a stream of valid
frames the two decode the same packets to the same values, up to the units of the messages, but for
a last main packet, which the original driver holds back until more bytes have arrived. -/

namespace AsensingDriver

open Resync Latest Exact Original

/-- Frames one behind another, of which none completes the longer checksum of a main packet before
it, with weeks of at most 16 bits. -/
structure DatedStream where
  frames : List Frame
  follows : frames.IsChain Follows
  weeks : ∀ f ∈ frames, f.bytes.length = kExtendedLength → (u32 f.bytes 58).toNat < 2 ^ 16

/-- A week, and a position type that does not fit into a byte. -/
example : DatedStream where
  frames := [⟨(Packet.ofSelector 0 0 0 0).frame (some 2234), Packet.validFrame_frame _ _⟩,
    ⟨(Packet.ofSelector 32 260 20 1).frame none, Packet.validFrame_frame _ _⟩]
  follows := by decide +kernel
  weeks := by decide +kernel

/-! ### What the original driver reads -/

/-- The 63 bytes from the front of each frame on, where they are there. -/
def windows : List Frame → List (List UInt8)
  | [] => []
  | f :: fs =>
    if kExtendedLength ≤ (bytes (f :: fs)).length then
      (bytes (f :: fs)).take kExtendedLength :: windows fs
    else []

theorem byte_drop (b : List UInt8) (n i : Nat) : byte (b.drop n) i = byte b (n + i) := by
  simp [byte, List.getD_eq_getElem?_getD]

theorem headerOk_drop {b : List UInt8} {n : Nat} (h : byte b n ≠ 0xbd ∨ byte b (n + 1) ≠ 0xdb ∨
    byte b (n + 2) ≠ 0x0b) : headerOk (b.drop n) = false := by
  rw [Bool.eq_false_iff]
  intro hheader
  simp only [headerOk, byte_drop, kHeader, Bool.and_eq_true, beq_iff_eq] at hheader
  obtain ⟨⟨h0, h1⟩, h2⟩ := hheader
  rcases h with h | h | h
  · exact h h0
  · exact h h1
  · exact h h2

/-- No header begins in the extension of a frame whose week has at most 16 bits. -/
theorem headerOk_extension {f : Frame} (hf : f.bytes.length = kExtendedLength)
    (hweek : (u32 f.bytes 58).toNat < 2 ^ 16) (fs : List Frame) {i : Nat} (hi : i < 5) :
    headerOk ((f.bytes ++ bytes fs).drop (kMainLength + i)) = false := by
  obtain ⟨h60, h61⟩ : byte f.bytes 60 = 0 ∧ byte f.bytes 61 = 0 :=
    LittleEndian.high_bytes_eq_zero hweek
  rw [← byte_append_left (bytes fs) (by rw [hf]; decide)] at h60 h61
  have hne {j : Nat} (hj : byte (f.bytes ++ bytes fs) j = 0) (c : UInt8) (hc : 0 ≠ c) :
      byte (f.bytes ++ bytes fs) j ≠ c := hj.trans_ne hc
  have h63 : byte (f.bytes ++ bytes fs) 63 ≠ 0xdb := by
    rw [byte_append_right _ (by rw [hf]; decide), hf]
    cases fs with
    | nil => decide
    | cons g fs =>
      obtain ⟨b3, b4, tail, hg⟩ := g.starts
      rw [bytes_cons, hg]
      show (0xbd : UInt8) ≠ 0xdb
      decide
  apply headerOk_drop
  match i, hi with
  | 0, _ => exact .inr (.inr (hne h60 0x0b (by decide)))
  | 1, _ => exact .inr (.inl (hne h60 0xdb (by decide)))
  | 2, _ => exact .inl (hne h60 0xbd (by decide))
  | 3, _ => exact .inl (hne h61 0xbd (by decide))
  | 4, _ => exact .inr (.inl h63)

/-- Bytes where no header begins are removed, or the last of them wait for more. -/
theorem reads_skip {u b rest : List UInt8} {ws : List (List UInt8)}
    (hu : ∀ i < u.length, headerOk ((u ++ b).drop i) = false) (hb : b = [] ∨ 3 ≤ b.length)
    (h : Incremental.Reads reader b ws rest) :
    ∃ rest', Incremental.Reads reader (u ++ b) ws rest' := by
  induction u with
  | nil => exact ⟨rest, h⟩
  | cons a u ih =>
    obtain ⟨rest', htail⟩ := ih fun i hi => hu (i + 1) (Nat.succ_lt_succ hi)
    by_cases hshort : (a :: u ++ b).length < 3
    · have hempty : b = [] := by
        rcases hb with hb | hb
        · exact hb
        · rw [List.length_append] at hshort
          omega
      subst hempty
      obtain ⟨rfl, -⟩ := h.unique (.wait rfl)
      exact ⟨_, .wait (if_pos hshort)⟩
    · have hheader : headerOk (a :: u ++ b) = false := hu 0 (Nat.zero_lt_succ _)
      have hnext : next (a :: u ++ b) = some (1, none) := by
        rw [next, if_neg hshort, hheader, if_neg Bool.false_ne_true]
      exact ⟨rest', .step (o := none) hnext htail⟩

theorem length_bytes (fs : List Frame) : bytes fs = [] ∨ 3 ≤ (bytes fs).length := by
  cases fs with
  | nil => exact .inl rfl
  | cons f fs =>
    have hf := f.mainLength_le
    rw [bytes_cons, List.length_append]
    unfold kMainLength at hf
    exact .inr (by omega)

/-- The original driver reads each frame, with the bytes behind it, once it has 63 of them. -/
theorem reads_windows {fs : List Frame}
    (hweeks : ∀ f ∈ fs, f.bytes.length = kExtendedLength → (u32 f.bytes 58).toNat < 2 ^ 16) :
    ∃ rest, Incremental.Reads reader (bytes fs) (windows fs) rest := by
  induction fs with
  | nil => exact ⟨[], .wait rfl⟩
  | cons f fs ih =>
    have hm : MainAt (bytes (f :: fs)) := f.valid.mainAt.append (bytes fs)
    have hlong : ¬(bytes (f :: fs)).length < 3 := not_lt.mpr (Nat.le_trans (by decide) hm.1)
    rw [windows]
    by_cases hlength : kExtendedLength ≤ (bytes (f :: fs)).length
    · rw [if_pos hlength]
      have hnext : next (bytes (f :: fs)) =
          some (kMainLength, some ((bytes (f :: fs)).take kExtendedLength)) := by
        rw [next, if_neg hlong, if_pos hm.2.1, if_neg (not_lt.mpr hlength), if_pos hm.2.2]
      obtain ⟨rest, hrest⟩ := ih fun g hg => hweeks g (List.mem_cons_of_mem f hg)
      suffices htail : ∃ rest', Incremental.Reads reader ((bytes (f :: fs)).drop kMainLength)
          (windows fs) rest' by
        obtain ⟨rest', htail⟩ := htail
        exact ⟨rest', .step (o := some _) hnext htail⟩
      have hdrop : (bytes (f :: fs)).drop kMainLength = f.bytes.drop kMainLength ++ bytes fs :=
        List.drop_append_of_le_length f.mainLength_le
      rw [hdrop]
      refine reads_skip (fun i hi => ?_) (length_bytes fs) hrest
      rcases f.valid.length with hf | hf
      · rw [List.length_drop, hf, Nat.sub_self] at hi
        exact absurd hi (Nat.not_lt_zero i)
      · rw [List.length_drop, hf] at hi
        rw [← hdrop, List.drop_drop]
        exact headerOk_extension hf (hweeks f List.mem_cons_self hf) fs hi
    · rw [if_neg hlength]
      refine ⟨_, .wait ?_⟩
      show next (bytes (f :: fs)) = none
      rw [next, if_neg hlong, if_pos hm.2.1, if_pos (not_le.mp hlength)]

/-! ### What the parser receives -/

/-- A way of cutting the frames `fs`, one behind another, into calls of which none ends between the
main packet of an extended frame and the end of the frame. -/
structure WholeFrames (fs : List Frame) extends Cutting (bytes fs) where
  whole : ∀ pre f post, fs = pre ++ f :: post → f.bytes.length = kExtendedLength →
    ¬Splits chunks (bytes pre).length

/-- All frames may arrive in one call. -/
example (fs : List Frame) : Nonempty (WholeFrames fs) := by
  refine ⟨⟨⟨[bytes fs], by simp⟩, ?_⟩⟩
  rintro pre f post rfl hf ⟨n, ⟨before, after, hchunks, rfl⟩, hmain, hextended⟩
  have hlength : (bytes (pre ++ f :: post)).length =
      (bytes pre).length + (kExtendedLength + (bytes post).length) := by simp [hf]
  rcases List.cons_eq_append_iff.mp hchunks with ⟨rfl, -⟩ | ⟨before, rfl, hnil⟩
  · simp [kMainLength] at hmain
  · obtain ⟨rfl, -⟩ := List.append_eq_nil_iff.mp hnil.symm
    simp only [List.flatten_cons, List.flatten_nil, List.append_nil] at hextended
    omega

/-- A scan takes frames that are not cut one by one. -/
theorem takes_whole {s : List UInt8} {cut : Nat → Prop} {p : Nat} {gs : List (List UInt8)}
    {fs : List Frame} (hs : s.drop p = bytes fs) (hfollows : fs.IsChain Follows)
    (hwhole : ∀ pre f post, fs = pre ++ f :: post → f.bytes.length = kExtendedLength →
      ¬cut (p + (bytes pre).length))
    (h : Takes s cut p gs) : gs = fs.map Frame.bytes := by
  induction fs generalizing p gs with
  | nil =>
    refine takes_none (fun i hi hm => ?_) h
    have hlong := hm.1
    have hshort : s.length - p = 0 := by simpa using congrArg List.length hs
    rw [List.length_drop] at hlong
    unfold kMainLength at hlong
    omega
  | cons f fs ih =>
    rw [List.isChain_cons] at hfollows
    have hlength : frameLength (s.drop p) = f.bytes.length := by
      rw [hs]
      exact (f.frameLength_append_iff fs).mpr hfollows.1
    have hm : MainAt (s.drop p) := hs ▸ f.valid.mainAt.append (bytes fs)
    have htake : (s.drop p).take f.bytes.length = f.bytes := by rw [hs, bytes_cons, List.take_left]
    have hbehind {gs' : List (List UInt8)} (h' : Takes s cut (p + f.bytes.length) gs') :
        gs' = fs.map Frame.bytes := by
      refine ih (by rw [← List.drop_drop, hs, bytes_cons, List.drop_left]) hfollows.2 ?_ h'
      intro pre g post hfs hg
      have hcut := hwhole (f :: pre) g post (by rw [hfs]; rfl) hg
      rwa [bytes_cons, List.length_append, ← Nat.add_assoc] at hcut
    cases h with
    | done hnone => exact absurd hm (hnone p (Nat.le_refl _))
    | skip hnone => exact absurd hm hnone
    | main _ hcut tail =>
      rcases f.valid.length with hf | hf
      · obtain rfl := hbehind (by rw [hf]; exact tail)
        rw [← hf, htake]
        rfl
      · rw [hf, frameLength] at hlength
        have hx : hasExtendedFrame (s.drop p) = true := by
          by_contra hx
          rw [if_neg hx] at hlength
          exact absurd hlength (by decide)
        exact absurd (hcut (extendedAt_iff.mpr ⟨hm, hx⟩)) (hwhole [] f fs rfl hf)
    | extended hx _ tail =>
      have hf : f.bytes.length = kExtendedLength := by
        rw [← hlength, frameLength_of_extended (extendedAt_iff.mp hx).2]
      obtain rfl := hbehind (by rw [hf]; exact tail)
      rw [← hf, htake]
      rfl

theorem received_whole {fs : List Frame} (hfollows : fs.IsChain Follows) (c : WholeFrames fs) :
    received Exact c.chunks = samples .initial (fs.map Frame.bytes) := by
  obtain ⟨gs, htakes, hreceived, -⟩ := received_takes (F := Exact) c.toCutting
  have hgs : gs = fs.map Frame.bytes := takes_whole rfl hfollows
    (fun pre f post hfs hf => by rw [Nat.zero_add]; exact c.whole pre f post hfs hf) htakes
  rw [hreceived, hgs]

/-! ### The same values -/

/-- `y` is the angle `x`, but in degrees and as a `float`. -/
def Degrees (x y : Exact) : Prop := ∃ a, x = a * Double.pi / 180.0 ∧ y = Double.toFloat a

/-- `c` is the low byte of the word `w`, and `y` its value. -/
def Word (w : Int16) (c : UInt8) (y : Exact) : Prop :=
  c = w.toUInt16.toUInt8 ∧ y = Double.ofInt16 w

/-- `c` is the low byte of the word `w`, and `n` its value unless it is negative. -/
def Sent (w : Int16) (c : UInt8) (n : UInt32) : Prop :=
  c = w.toUInt16.toUInt8 ∧ (0 ≤ w.toInt → n.toNat = w.toInt)

/-- After the frames `sent`, the groups of `d` that have arrived are those in the variables of the
original driver. -/
structure Agree (sent : List (List UInt8)) (d : INSData Exact) (v : Locals Exact) : Prop where
  positionStd : d.hasPositionStd = true → v.latstd = Double.toFloat d.latitudeStd ∧
    v.lonstd = Double.toFloat d.longitudeStd ∧ v.hstd = Double.toFloat d.altitudeStd
  velocityStd : d.hasVelocityStd = true → v.vnstd = Double.toFloat d.northVelocityStd ∧
    v.vestd = Double.toFloat d.eastVelocityStd ∧ v.vdstd = Double.toFloat d.groundVelocityStd
  attitudeStd : d.hasAttitudeStd = true → Degrees d.rollStd v.rollstd ∧
    Degrees d.pitchStd v.pitchstd ∧ Degrees d.yawStd v.yawstd
  temperature : d.hasTemperature = true → v.temperature = d.temperature
  positionStatus : d.hasPositionStatus = true → ∃ f, latest (selects 32) sent = some f ∧
    Word (i16 f 46) d.positionType v.positionType ∧ Word (i16 f 48) d.numSv v.numsv ∧
    Word (i16 f 50) d.headingType v.headingType
  wheelSpeedStatus : d.hasWheelSpeedStatus = true → ∃ f, latest (selects 33) sent = some f ∧
    Word (i16 f 48) d.wheelSpeedStatus v.wheelSpeedStatus
  gpsWeek : d.hasGpsWeek = true → v.gpswf = Double.ofInt16 d.gpsWeek.toUInt16.toInt16

/-- After the frames `sent`, the message `m` of the original driver says what the sample `d` does.
Of the four status words, which the last frame that carries them has, `d` keeps the low bytes. -/
structure Ported (sent : List (List UInt8)) (d : INSData Exact) (m : ASENSING Exact) : Prop where
  position : m.latitude = d.latitude ∧ m.longitude = d.longitude ∧ m.altitude = d.altitude
  velocity : m.northVelocity = d.northVelocity ∧ m.eastVelocity = d.eastVelocity ∧
    m.groundVelocity = d.groundVelocity
  attitude : d.roll = m.roll * Double.pi / 180.0 ∧ d.pitch = m.pitch * Double.pi / 180.0 ∧
    d.yaw = m.azimuth * Double.pi / 180.0
  gyro : d.gyro = ⟨m.xAngularVelocity * Double.pi / 180.0, m.yAngularVelocity * Double.pi / 180.0,
    m.zAngularVelocity * Double.pi / 180.0⟩
  accel : d.accel = ⟨m.xAcc * 9.80665, m.yAcc * 9.80665, m.zAcc * 9.80665⟩
  insStatus : m.insStatus.toNat = d.insStatus.toNat
  gpsTimeMs : d.gpsTimeMs = Double.toUInt32 m.secOfWeek
  positionStd : d.hasPositionStd = true → m.latitudeStd = Double.toFloat d.latitudeStd ∧
    m.longitudeStd = Double.toFloat d.longitudeStd ∧ m.altitudeStd = Double.toFloat d.altitudeStd
  velocityStd : d.hasVelocityStd = true →
    m.northVelocityStd = Double.toFloat d.northVelocityStd ∧
    m.eastVelocityStd = Double.toFloat d.eastVelocityStd ∧
    m.groundVelocityStd = Double.toFloat d.groundVelocityStd
  attitudeStd : d.hasAttitudeStd = true → Degrees d.rollStd m.rollStd ∧
    Degrees d.pitchStd m.pitchStd ∧ Degrees d.yawStd m.azimuthStd
  temperature : d.hasTemperature = true → m.temperature = d.temperature
  positionStatus : d.hasPositionStatus = true → ∃ f, latest (selects 32) sent = some f ∧
    Sent (i16 f 46) d.positionType m.positionType ∧ Sent (i16 f 48) d.numSv m.numsv ∧
    Sent (i16 f 50) d.headingType m.headingType
  wheelSpeedStatus : d.hasWheelSpeedStatus = true → ∃ f, latest (selects 33) sent = some f ∧
    Sent (i16 f 48) d.wheelSpeedStatus m.wheelSpeedStatus
  gpsWeek : d.hasGpsWeek = true → m.gpsWeekNumber = Double.ofInt16 d.gpsWeek.toUInt16.toInt16

/-- A word times a factor of at most one is a number of type `float`. -/
theorem toFloat_word (w : Int16) {k : ℝ} (hk : |k| ≤ 1) :
    Double.toFloat (num (w.toInt * k)) = num (w.toInt * k) := by
  have hw := int16_bounds w
  have hword : |(w.toInt : ℝ)| ≤ 32768 := abs_le.mpr ⟨hw.1, by linarith⟩
  apply toFloat_num
  rw [abs_mul]
  have hmax : (32768 : ℝ) ≤ maxFloat := by norm_num [maxFloat]
  nlinarith [abs_nonneg k, abs_nonneg (w.toInt : ℝ)]

theorem stdf_exact (w : Int16) : (stdf w : Exact) = Double.toFloat (value w) := by
  have h100 : (Double.ofInt16 w / 100.0 : Exact) = num (w.toInt * (1 / 100)) := by
    simp only [Double.ofInt16, ofInt_eq, ofScientific_eq]
    rw [num_div (by norm_num), num_inj]
    norm_num
    ring
  rw [stdf, value, h100, toFloat_word w (by norm_num [abs_le])]

theorem angle_ported (w : Int16) : Double.toFloat (Double.ofInt16 w * (360.0 / 32768.0) : Exact) =
    Double.ofInt16 w * (360.0 / 32768.0) := by
  have hword : (Double.ofInt16 w * (360.0 / 32768.0) : Exact) = num (w.toInt * (360 / 32768)) := by
    simp only [Double.ofInt16, ofInt_eq, ofScientific_eq]
    rw [num_div (by norm_num), num_mul, num_inj]
    norm_num
  rw [hword, toFloat_word w (by norm_num [abs_le])]

/-- A word times `a` over 32768. -/
theorem scaled_ported (w : Int16) {x : Exact} {a : ℝ} (hx : x = num a) (ha : |a| ≤ 32768) :
    Double.toFloat (Double.ofInt16 w * x / 32768.0) = Double.ofInt16 w * x / 32768.0 := by
  have hword : Double.ofInt16 w * x / 32768.0 = num (w.toInt * (a / 32768)) := by
    rw [hx]
    simp only [Double.ofInt16, ofInt_eq, ofScientific_eq]
    rw [num_mul, num_div (by norm_num), num_inj]
    norm_num
    ring
  rw [hword, toFloat_word w (by rw [abs_div]; norm_num; linarith)]

theorem velocity_ported (w : Int16) :
    Double.toFloat (Double.ofInt16 w * (100.0 / 32768.0) : Exact) =
      Double.ofInt16 w * 100.0 / 32768.0 := by
  have hword : (Double.ofInt16 w * (100.0 / 32768.0) : Exact) = num (w.toInt * (100 / 32768)) := by
    simp only [Double.ofInt16, ofInt_eq, ofScientific_eq]
    rw [num_div (by norm_num), num_mul, num_inj]
    norm_num
  rw [hword, toFloat_word w (by norm_num [abs_le]), velocity_exact, num_inj]
  ring

theorem degrees_stdf (w : Int16) : Degrees (value w * Double.pi / 180.0) (stdf w) :=
  ⟨value w, rfl, stdf_exact w⟩

theorem Word.sent {w : Int16} {c : UInt8} {y : Exact} (h : Word w c y) :
    Sent w c (Double.toUInt32 y) := by
  obtain ⟨rfl, rfl⟩ := h
  refine ⟨rfl, fun hw => ?_⟩
  have hlt := w.toInt_lt
  have hfloor : ⌊(w.toInt : ℝ)⌋₊ = w.toInt.toNat := by rw [← Int.floor_toNat, Int.floor_intCast]
  show ((UInt32.ofNat ⌊(w.toInt : ℝ)⌋₊).toNat : ℤ) = w.toInt
  rw [hfloor, UInt32.toNat_ofNat_of_lt' (by show _ < 2 ^ 32; omega)]
  exact Int.toNat_of_nonneg hw

/-- A group of `d` that has arrived and agrees with the variables still does so after a packet:
either the packet carries the group, or both keep it. -/
theorem agree_group {α β : Type} {R : α → β → Prop} {x x' read : α} {y y' read' : β}
    {flag flag' carries : Bool} (h : flag = true → R x y)
    (hx : (x', flag') = if carries then (read, true) else (x, flag))
    (hy : y' = if carries then read' else y) (hread : R read read') : flag' = true → R x' y' := by
  intro hflag
  cases carries with
  | true =>
    rw [if_pos rfl, Prod.mk.injEq] at hx
    rw [if_pos rfl] at hy
    rw [hx.1, hy]
    exact hread
  | false =>
    rw [if_neg Bool.false_ne_true, Prod.mk.injEq] at hx
    rw [if_neg Bool.false_ne_true] at hy
    rw [hx.1, hy]
    exact h (hx.2 ▸ hflag)

/-- A group that agrees with the last frame with the selector `n` still does so after one more
frame. -/
theorem agree_latest {α β : Type} {R : List UInt8 → α → β → Prop} {sent : List (List UInt8)}
    {f : List UInt8} {n : UInt8} {x x' read : α} {y y' read' : β} {flag flag' : Bool}
    (h : flag = true → ∃ g, latest (selects n) sent = some g ∧ R g x y)
    (hx : (x', flag') = if selects n f then (read, true) else (x, flag))
    (hy : y' = if selects n f then read' else y) (hread : R f read read') :
    flag' = true → ∃ g, latest (selects n) (sent ++ [f]) = some g ∧ R g x' y' := by
  intro hflag
  rw [latest_concat]
  cases hselects : selects n f with
  | true =>
    rw [hselects, if_pos rfl, Prod.mk.injEq] at hx
    rw [hselects, if_pos rfl] at hy
    rw [hx.1, hy]
    exact ⟨f, rfl, hread⟩
  | false =>
    rw [hselects, if_neg Bool.false_ne_true, Prod.mk.injEq] at hx
    rw [hselects, if_neg Bool.false_ne_true] at hy
    rw [hx.1, hy]
    exact h (hx.2 ▸ hflag)

/-- Both decode the same packet, one as a frame and the other with the bytes `x` behind it. -/
theorem Agree.step {sent : List (List UInt8)} {d : INSData Exact} {v : Locals Exact}
    (h : Agree sent d v) (f : Frame) (x : List UInt8)
    (hdecode : decode d f.bytes = decode d (f.bytes ++ x))
    (hweek : hasExtendedFrame (f.bytes ++ x) = xorOk (f.bytes ++ x) kExtendedLength) :
    Agree (sent ++ [f.bytes]) (decode d f.bytes) (process v (f.bytes ++ x)) := by
  have hd := decode_step d f.bytes
  have hbyte {i : Nat} (hi : i < kMainLength) : byte (f.bytes ++ x) i = byte f.bytes i :=
    byte_append_left x (Nat.lt_of_lt_of_le hi f.mainLength_le)
  have hword {i : Nat} (hi : i + 1 < kMainLength) : i16 (f.bytes ++ x) i = i16 f.bytes i :=
    i16_congr (hbyte (by omega)) (hbyte hi)
  have hselects (n : UInt8) : selects n (f.bytes ++ x) = selects n f.bytes := by
    rw [selects, selects, hbyte (by decide)]
  -- The original driver reads the groups of the frame, too.
  have hv : DataStep f.bytes v (process v (f.bytes ++ x)) := by
    have hstep := process_step v (f.bytes ++ x)
    have h46 : i16 (f.bytes ++ x) 46 = i16 f.bytes 46 := hword (by decide)
    have h48 : i16 (f.bytes ++ x) 48 = i16 f.bytes 48 := hword (by decide)
    have h50 : i16 (f.bytes ++ x) 50 = i16 f.bytes 50 := hword (by decide)
    constructor
    · rw [← hselects, ← h46, ← h48, ← h50]
      exact hstep.positionStd
    · rw [← hselects, ← h46, ← h48, ← h50]
      exact hstep.velocityStd
    · rw [← hselects, ← h46, ← h48, ← h50]
      exact hstep.attitudeStd
    · rw [← hselects, ← h46]
      exact hstep.temperature
    · rw [← hselects, ← h46, ← h48, ← h50]
      exact hstep.positionStatus
    · rw [← hselects, ← h48]
      exact hstep.wheelSpeedStatus
  constructor
  · exact agree_group
      (R := fun (x : Exact × Exact × Exact) (y : Exact × Exact × Exact) =>
        y.1 = Double.toFloat x.1 ∧ y.2.1 = Double.toFloat x.2.1 ∧ y.2.2 = Double.toFloat x.2.2)
      h.positionStd hd.positionStd hv.positionStd ⟨stdf_exact _, stdf_exact _, stdf_exact _⟩
  · exact agree_group
      (R := fun (x : Exact × Exact × Exact) (y : Exact × Exact × Exact) =>
        y.1 = Double.toFloat x.1 ∧ y.2.1 = Double.toFloat x.2.1 ∧ y.2.2 = Double.toFloat x.2.2)
      h.velocityStd hd.velocityStd hv.velocityStd ⟨stdf_exact _, stdf_exact _, stdf_exact _⟩
  · exact agree_group
      (R := fun (x : Exact × Exact × Exact) (y : Exact × Exact × Exact) =>
        Degrees x.1 y.1 ∧ Degrees x.2.1 y.2.1 ∧ Degrees x.2.2 y.2.2)
      h.attitudeStd hd.attitudeStd hv.attitudeStd
      ⟨degrees_stdf _, degrees_stdf _, degrees_stdf _⟩
  · exact agree_group (R := fun x y => y = x) h.temperature hd.temperature hv.temperature rfl
  · exact agree_latest
      (R := fun f (x : UInt8 × UInt8 × UInt8) (y : Exact × Exact × Exact) =>
        Word (i16 f 46) x.1 y.1 ∧ Word (i16 f 48) x.2.1 y.2.1 ∧ Word (i16 f 50) x.2.2 y.2.2)
      h.positionStatus hd.positionStatus hv.positionStatus ⟨⟨rfl, rfl⟩, ⟨rfl, rfl⟩, rfl, rfl⟩
  · exact agree_latest (R := fun f => Word (i16 f 48)) h.wheelSpeedStatus hd.wheelSpeedStatus
      hv.wheelSpeedStatus ⟨rfl, rfl⟩
  · have hgpswf := process_gpswf v (f.bytes ++ x)
    rw [← hweek] at hgpswf
    rw [hdecode]
    exact agree_group (R := fun (x : UInt32) (y : Exact) => y = Double.ofInt16 x.toUInt16.toInt16)
      h.gpsWeek (gpsWeek_decode d (f.bytes ++ x)) hgpswf rfl

theorem Agree.ported {sent : List (List UInt8)} {s : INSData Exact} {v : Locals Exact}
    {b : List UInt8} (h : Agree sent (decode s b) v) :
    Ported sent (decode s b) (Original.makeMessage b v) := by
  have hmeasures := measures_decode s b
  have hangle (i : Nat) :
      (Double.ofInt16 (i16 b i) * (360.0 / 32768.0) * Double.pi / 180.0 : Exact) =
        Double.toFloat (Double.ofInt16 (i16 b i) * (360.0 / 32768.0)) * Double.pi / 180.0 := by
    rw [angle_ported]
  have h300 : (300.0 : Exact) = num 300 := by rw [ofScientific_eq]; norm_num
  have h12 : (12.0 : Exact) = num 12 := by rw [ofScientific_eq]; norm_num
  have hgyro (i : Nat) : (Double.ofInt16 (i16 b i) * 300.0 / 32768.0 * Double.pi / 180.0 : Exact) =
      Double.toFloat (Double.ofInt16 (i16 b i) * 300.0 / 32768.0) * Double.pi / 180.0 := by
    rw [scaled_ported _ h300 (by norm_num)]
  have haccel (i : Nat) : (Double.ofInt16 (i16 b i) * 12.0 / 32768.0 * 9.80665 : Exact) =
      Double.toFloat (Double.ofInt16 (i16 b i) * 12.0 / 32768.0) * 9.80665 := by
    rw [scaled_ported _ h12 (by norm_num [abs_le])]
  constructor
  · exact ⟨hmeasures.latitude.symm, hmeasures.longitude.symm, hmeasures.altitude.symm⟩
  · exact ⟨(velocity_ported _).trans hmeasures.northVelocity.symm,
      (velocity_ported _).trans hmeasures.eastVelocity.symm,
      (velocity_ported _).trans hmeasures.groundVelocity.symm⟩
  · exact ⟨hmeasures.roll.trans (hangle 3), hmeasures.pitch.trans (hangle 5),
      hmeasures.yaw.trans (hangle 7)⟩
  · refine hmeasures.gyro.trans ?_
    exact congr (congr (congrArg Vector3d.mk (hgyro 9)) (hgyro 11)) (hgyro 13)
  · refine hmeasures.accel.trans ?_
    exact congr (congr (congrArg Vector3d.mk (haccel 15)) (haccel 17)) (haccel 19)
  · rw [hmeasures.insStatus]
    have hlt := (byte b 39 &&& 0x0f).toNat_lt
    show (UInt32.ofNat ⌊(((byte b 39 &&& 0x0f).toNat : ℤ) : ℝ)⌋₊).toNat = (byte b 39 &&& 0x0f).toNat
    rw [Int.cast_natCast, Nat.floor_natCast, UInt32.toNat_ofNat_of_lt' (by show _ < 2 ^ 32; omega)]
  · exact hmeasures.gpsTimeMs
  · exact h.positionStd
  · exact h.velocityStd
  · exact h.attitudeStd
  · exact h.temperature
  · intro hflag
    obtain ⟨f, hf, htype, hnum, hheading⟩ := h.positionStatus hflag
    exact ⟨f, hf, htype.sent, hnum.sent, hheading.sent⟩
  · intro hflag
    obtain ⟨f, hf, hwheel⟩ := h.wheelSpeedStatus hflag
    exact ⟨f, hf, hwheel.sent⟩
  · exact h.gpsWeek

/-! ### Streams -/

/-- Behind a frame, the original driver holds a packet back only when it is the last one, and 58
bytes long. -/
theorem windows_cons (f : Frame) (fs : List Frame) :
    kExtendedLength ≤ (bytes (f :: fs)).length ∧
        windows (f :: fs) = (bytes (f :: fs)).take kExtendedLength :: windows fs ∨
      windows (f :: fs) = [] ∧ fs = [] ∧ f.bytes.length = kMainLength := by
  rw [windows]
  by_cases hlong : kExtendedLength ≤ (bytes (f :: fs)).length
  · exact .inl ⟨hlong, if_pos hlong⟩
  · refine .inr ⟨if_neg hlong, ?_⟩
    rw [bytes_cons, List.length_append, not_le] at hlong
    have hcount := mainLength_mul_le fs
    have hf := f.mainLength_le
    unfold kMainLength kExtendedLength at *
    constructor
    · apply List.length_eq_zero_iff.mp
      omega
    · rcases f.valid.length with hlength | hlength
      · exact hlength
      · unfold kExtendedLength at hlength
        omega

theorem length_windows (fs : List Frame) : (windows fs).length ≤ fs.length ∧
    fs.length ≤ (windows fs).length + 1 ∧
    ∀ f ∈ fs.getLast?, f.bytes.length = kExtendedLength → (windows fs).length = fs.length := by
  induction fs with
  | nil => simp [windows]
  | cons f fs ih =>
    rcases windows_cons f fs with ⟨-, hwindow⟩ | ⟨hwindow, rfl, hf⟩
    · rw [hwindow, List.length_cons, List.length_cons]
      refine ⟨Nat.succ_le_succ ih.1, Nat.succ_le_succ ih.2.1, fun g hg hlength => ?_⟩
      cases fs with
      | nil => rfl
      | cons f' fs => rw [ih.2.2 g (by rwa [List.getLast?_cons_cons] at hg) hlength]
    · rw [hwindow]
      refine ⟨Nat.zero_le 1, le_rfl, fun g hg hlength => ?_⟩
      obtain rfl : f = g := Option.some.inj hg
      rw [hf] at hlength
      exact absurd hlength (by decide)

/-- From agreeing states, the messages for the frames say what the samples do. -/
theorem messages_ported {fs : List Frame} (hfollows : fs.IsChain Follows)
    {sent : List (List UInt8)} {d : INSData Exact} {v : Locals Exact} (h : Agree sent d v)
    (k : Nat) :
    ∀ d' ∈ (samples d (fs.map Frame.bytes))[k]?, ∀ m ∈ (messages v (windows fs))[k]?,
      Ported (sent ++ (fs.take (k + 1)).map Frame.bytes) d' m := by
  induction fs generalizing sent d v k with
  | nil => simp [windows, messages]
  | cons f fs ih =>
    rw [List.isChain_cons] at hfollows
    rcases windows_cons f fs with ⟨hlong, hwindow⟩ | ⟨hwindow, -, -⟩
    · have hm : MainAt (bytes (f :: fs)) := f.valid.mainAt.append (bytes fs)
      have hlength : frameLength (bytes (f :: fs)) = f.bytes.length :=
        (f.frameLength_append_iff fs).mpr hfollows.1
      have hdecode : decode d f.bytes = decode d (bytes (f :: fs)) := by
        rw [← decode_take d hm, hlength, bytes_cons, List.take_left]
      have hweek : hasExtendedFrame (bytes (f :: fs)) =
          xorOk (bytes (f :: fs)) kExtendedLength := by
        rw [hasExtendedFrame, decide_eq_true hlong, Bool.true_and]
      have hstep := h.step f (bytes fs) hdecode hweek
      rw [hwindow, messages, process_take, makeMessage_take]
      cases k with
      | zero =>
        intro d' hd' m hm'
        obtain rfl : decode d f.bytes = d' := Option.some.inj hd'
        obtain rfl := Option.some.inj hm'
        rw [hdecode] at hstep ⊢
        exact hstep.ported
      | succ k =>
        have hrest := ih hfollows.2 hstep k
        rwa [List.append_assoc] at hrest
    · rw [hwindow]
      simp [messages]

theorem agree_initial (v : Locals Exact) : Agree [] .initial v := by
  constructor <;> exact fun h => absurd h Bool.false_ne_true

end AsensingDriver
