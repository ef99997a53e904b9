import AsensingDriver.BackToBack
import AsensingDriver.Monitor

/-! Device time over a whole session.  Every packet carries the counter, but only an extended packet
carries the week, so behind a main packet the week is that of an earlier packet.
`deviceTimeRegressions_iff` says for which sessions the monitor counts no regression of a clock
that never runs backwards. -/

namespace AsensingDriver

open Latest Exact

/-- An instant of the device's clock, with the frame that is sent at it and the stamp of its
messages.  The counter runs in quarter milliseconds and starts again with each week. -/
structure Instant where
  week : UInt32
  counter : UInt32
  counter_lt : counter.toNat < 4 * 604800000
  frame : Frame
  counter_eq : u32 frame.bytes 52 = counter
  week_eq : frame.bytes.length = kExtendedLength → u32 frame.bytes 58 = week
  stamp : Time

/-- The frame of the instant is an extended one. -/
def Instant.extended (x : Instant) : Prop := x.frame.bytes.length = kExtendedLength

instance (x : Instant) : Decidable x.extended := inferInstanceAs (Decidable (_ = _))

/-- The clock does not read less at `b` than at `a`. -/
def Instant.NotAfter (a b : Instant) : Prop :=
  a.week < b.week ∨ a.week = b.week ∧ a.counter ≤ b.counter

/-- The instants of a session, in the order of the device's clock. -/
structure Session where
  instants : List Instant
  ordered : instants.Pairwise Instant.NotAfter

/-! ### Runs -/

section Runs

variable {F : Type} [Double F] (steady : Nat → Int) (frameId : String) (types : List Int64)

/-- The frame of an instant is fed to the parser in one call, and the statuses of the samples that
the call returns are passed to the monitor. -/
def deliver (s : ASENSINGParser F × R3HardwareMonitor F) (x : Instant) :
    ASENSINGParser F × R3HardwareMonitor F :=
  let (p, result) := s.1.feed x.frame.bytes
  (p, result.foldl (fun m d => m.onStatus steady (makeInsStatus d x.stamp frameId types)) s.2)

/-- The monitor after a session, with a fresh parser. -/
def Session.monitor (session : Session) (initialStaticWindowSec : F) : R3HardwareMonitor F :=
  (session.instants.foldl (deliver steady frameId types)
    (.fresh, .started steady initialStaticWindowSec)).2

theorem deliver_eq (d : INSData F) (m : R3HardwareMonitor F) (x : Instant) :
    deliver steady frameId types (⟨[], d⟩, m) x =
      (⟨[], decode d x.frame.bytes⟩,
        m.onStatus steady (makeInsStatus (decode d x.frame.bytes) x.stamp frameId types)) := by
  rw [deliver, feed_frame d x.frame.valid]
  rfl

end Runs

/-! ### Device times -/

theorem deviceTimeSeconds_exact (week ms : UInt32) :
    (deviceTimeSeconds week ms : Exact) = .num (week.toNat * 604800 + ms.toNat / 1000) := by
  have h1 : (604800.0 : Exact) = .num 604800 := by rw [ofScientific_eq]; norm_num
  have h2 : (1000.0 : Exact) = .num 1000 := by rw [ofScientific_eq]; norm_num
  rw [deviceTimeSeconds, h1, h2]
  simp only [Double.ofUInt32, ofInt_eq]
  rw [num_mul, num_div (by norm_num), num_add, num_inj]
  push_cast
  rfl

/-- Device times are compared like numbers of milliseconds. -/
theorem deviceTimeSeconds_lt (week ms week' ms' : UInt32) :
    Double.lt (deviceTimeSeconds week ms : Exact) (deviceTimeSeconds week' ms') = true ↔
      week.toNat * 604800000 + ms.toNat < week'.toNat * 604800000 + ms'.toNat := by
  rw [deviceTimeSeconds_exact, deviceTimeSeconds_exact, lt_num]
  constructor
  · intro h
    have : ((week.toNat * 604800000 + ms.toNat : ℕ) : ℝ) <
        (week'.toNat * 604800000 + ms'.toNat : ℕ) := by
      push_cast
      linarith
    exact_mod_cast this
  · intro h
    have : ((week.toNat * 604800000 + ms.toNat : ℕ) : ℝ) <
        (week'.toNat * 604800000 + ms'.toNat : ℕ) := by exact_mod_cast h
    push_cast at this
    linarith

/-! ### Sessions -/

/-- The counter does not go back at `b` when `b` is sent as a main packet behind an extended one:
`pre` and `a` are the instants before it. -/
def CounterHolds (pre : List Instant) (a b : Instant) : Prop :=
  (∃ x ∈ pre ++ [a], x.extended) → ¬b.extended → a.counter.toNat / 4 ≤ b.counter.toNat / 4

/-- What the parser's state `d` and the monitor `m` hold after the instants `l`. -/
structure Synced (l : List Instant) (d : INSData Exact) (m : R3HardwareMonitor Exact) : Prop where
  week_valid : d.hasGpsWeek = true ↔ ∃ x ∈ l, x.extended
  week_le : ∀ pre a, l = pre ++ [a] → d.hasGpsWeek = true → d.gpsWeek.toNat ≤ a.week.toNat
  time : ∀ pre a, l = pre ++ [a] → d.gpsTimeMs.toNat = a.counter.toNat / 4
  last : m.lastDeviceTimeSec =
    if d.hasGpsWeek then some (deviceTimeSeconds d.gpsWeek d.gpsTimeMs) else none
  regressions : m.deviceTimeRegressions = 0 ↔ Adjacent CounterHolds l

theorem gpsTimeMs_decode (d : INSData Exact) (x : Instant) :
    (decode d x.frame.bytes).gpsTimeMs.toNat = x.counter.toNat / 4 := by
  rw [(measures_decode d _).gpsTimeMs, x.counter_eq, milliseconds_exact, UInt32.toNat_div]
  rfl

/-- An extended instant sets the week to its own, and any other instant leaves it alone. -/
theorem week_extended {F : Type} [Double F] (d : INSData F) {x : Instant} (h : x.extended) :
    (decode d x.frame.bytes).gpsWeek = x.week ∧ (decode d x.frame.bytes).hasGpsWeek = true := by
  have hweek := week_decode_bytes d x.frame
  rw [Frame.weekAfter, if_pos (show _ = _ from h), x.week_eq h] at hweek
  exact Prod.mk.inj hweek

theorem week_not_extended {F : Type} [Double F] (d : INSData F) {x : Instant} (h : ¬x.extended) :
    (decode d x.frame.bytes).gpsWeek = d.gpsWeek ∧
      (decode d x.frame.bytes).hasGpsWeek = d.hasGpsWeek := by
  have hweek := week_decode_bytes d x.frame
  rw [Frame.weekAfter, if_neg (show ¬_ = _ from h)] at hweek
  exact Prod.mk.inj hweek

/-- What a sample's status does to the device time. -/
theorem status_deviceTime {F : Type} [Double F] (m : R3HardwareMonitor F) (d : INSData F)
    (steady : Nat → Int) (stamp : Time) (frameId : String) (types : List Int64) :
    (m.onStatus steady (makeInsStatus d stamp frameId types)).deviceTime =
      if d.hasGpsWeek then
        let deviceTime := deviceTimeSeconds d.gpsWeek d.gpsTimeMs
        (some deviceTime, m.deviceTimeRegressions +
          if m.lastDeviceTimeSec.any fun last => Double.lt deviceTime last then 1 else 0)
      else m.deviceTime := by
  obtain ⟨-, -, -, -, -, -, hvalid⟩ := makeInsStatus_flags d stamp frameId types
  obtain ⟨-, -, -, hweek, hms, -⟩ := makeInsStatus_copies d stamp frameId types
  rw [R3HardwareMonitor.onStatus_deviceTime, hvalid, hweek, hms]
  rfl

/-- The device time goes back at `b` exactly when `b` is sent as a main packet and its counter in
milliseconds is less than the one before. -/
theorem deviceTime_back_iff {pre : List Instant} {a b : Instant} {d : INSData Exact}
    {m : R3HardwareMonitor Exact} (h : Synced (pre ++ [a]) d m) (hd : d.hasGpsWeek = true)
    (ordered : a.NotAfter b) :
    let d' := decode d b.frame.bytes
    Double.lt (deviceTimeSeconds d'.gpsWeek d'.gpsTimeMs : Exact)
        (deviceTimeSeconds d.gpsWeek d.gpsTimeMs) = true ↔
      ¬b.extended ∧ b.counter.toNat / 4 < a.counter.toNat / 4 := by
  intro d'
  have hle := h.week_le pre a rfl hd
  rw [deviceTimeSeconds_lt, h.time pre a rfl, gpsTimeMs_decode]
  by_cases hb : b.extended
  · -- The week of `b` is its own, and a later week outweighs every counter.
    have hcounter := a.counter_lt
    rw [Instant.NotAfter, UInt32.lt_iff_toNat_lt, UInt32.le_iff_toNat_le, ← UInt32.toNat_inj]
      at ordered
    rw [(week_extended d hb).1]
    simp only [hb, not_true_eq_false, false_and, iff_false]
    omega
  · rw [(week_not_extended d hb).1]
    simp only [hb, not_false_eq_true, true_and]
    omega

/-- The week is never lost again. -/
theorem hasGpsWeek_decode {d : INSData Exact} (b : Instant) (hd : d.hasGpsWeek = true) :
    (decode d b.frame.bytes).hasGpsWeek = true := by
  by_cases hb : b.extended
  · exact (week_extended d hb).2
  · exact (week_not_extended d hb).2.trans hd

section Step

variable {l : List Instant} {d : INSData Exact} {m : R3HardwareMonitor Exact} {b : Instant}
  (steady : Nat → Int) (frameId : String) (types : List Int64)

/-- There is an instant once the week is known. -/
theorem Synced.eq_concat (h : Synced l d m) (hd : d.hasGpsWeek = true) :
    ∃ pre a, l = pre ++ [a] := by
  obtain ⟨x, hx, -⟩ := h.week_valid.mp hd
  exact l.eq_nil_or_concat'.resolve_left (List.ne_nil_of_mem hx)

/-- The first status with a week has no device time to be compared with. -/
theorem Synced.regressions_same (h : Synced l d m) (hd : d.hasGpsWeek = false) :
    (m.onStatus steady (makeInsStatus (decode d b.frame.bytes) b.stamp frameId
      types)).deviceTimeRegressions = m.deviceTimeRegressions := by
  have hnone : m.lastDeviceTimeSec = none := by rw [h.last, hd]; rfl
  have hcount := congrArg Prod.snd
    (status_deviceTime m (decode d b.frame.bytes) steady b.stamp frameId types)
  rw [hnone] at hcount
  split at hcount <;> exact hcount

/-- Every later status is compared with the one before. -/
theorem Synced.regressions_add {pre : List Instant} {a : Instant} (h : Synced (pre ++ [a]) d m)
    (hd : d.hasGpsWeek = true) (ordered : a.NotAfter b) :
    (m.onStatus steady (makeInsStatus (decode d b.frame.bytes) b.stamp frameId
      types)).deviceTimeRegressions = m.deviceTimeRegressions +
        if ¬b.extended ∧ b.counter.toNat / 4 < a.counter.toNat / 4 then 1 else 0 := by
  have hback := deviceTime_back_iff h hd ordered
  have hcount := congrArg Prod.snd
    (status_deviceTime m (decode d b.frame.bytes) steady b.stamp frameId types)
  rw [if_pos (hasGpsWeek_decode b hd), h.last, if_pos hd] at hcount
  simp only [← hback]
  exact hcount

/-- Delivering one more instant keeps parser and monitor in step. -/
theorem synced_step (h : Synced l d m) (ordered : ∀ a ∈ l, a.NotAfter b) :
    Synced (l ++ [b]) (decode d b.frame.bytes)
      (m.onStatus steady (makeInsStatus (decode d b.frame.bytes) b.stamp frameId types)) := by
  have last_eq {pre : List Instant} {a : Instant} (hl : l ++ [b] = pre ++ [a]) : b = a := by
    simpa using (List.append_inj' hl rfl).2
  constructor
  case week_valid =>
    by_cases hb : b.extended
    · simp [(week_extended d hb).2, hb]
    · simp [(week_not_extended d hb).2, hb, h.week_valid]
  case week_le =>
    rintro pre a hl hvalid
    obtain rfl := last_eq hl
    by_cases hb : b.extended
    · rw [(week_extended d hb).1]
    · rw [(week_not_extended d hb).2] at hvalid
      obtain ⟨pre', a, rfl⟩ := h.eq_concat hvalid
      have hle := h.week_le pre' a rfl hvalid
      have hab := ordered a (by simp)
      rw [Instant.NotAfter, UInt32.lt_iff_toNat_lt, ← UInt32.toNat_inj] at hab
      rw [(week_not_extended d hb).1]
      omega
  case time =>
    rintro pre a hl
    obtain rfl := last_eq hl
    exact gpsTimeMs_decode d b
  case last =>
    have hlast := congrArg Prod.fst
      (status_deviceTime m (decode d b.frame.bytes) steady b.stamp frameId types)
    split at hlast
    · rename_i hd
      rw [if_pos hd]
      exact hlast
    · rename_i hd
      have hnone : m.lastDeviceTimeSec = none := by
        rw [h.last, if_neg fun hd' => hd (hasGpsWeek_decode b hd')]
      rw [if_neg hd]
      exact hlast.trans hnone
  case regressions =>
    rw [adjacent_concat, ← h.regressions]
    cases hd : d.hasGpsWeek with
    | false =>
      rw [h.regressions_same steady frameId types hd]
      apply Iff.symm
      apply and_iff_left
      rintro pre a rfl hx
      exact absurd (h.week_valid.mpr hx) (by rw [hd]; decide)
    | true =>
      obtain ⟨pre, a, rfl⟩ := h.eq_concat hd
      rw [h.regressions_add steady frameId types hd (ordered a (by simp)), Nat.add_eq_zero_iff]
      apply and_congr_right
      intro _
      have hx : ∃ x ∈ pre ++ [a], x.extended := h.week_valid.mp hd
      constructor
      · intro hzero pre' a' hl _ hb
        obtain ⟨rfl, rfl⟩ : pre = pre' ∧ a = a' := by simpa using List.append_inj' hl rfl
        by_contra hlt
        rw [if_pos ⟨hb, by omega⟩] at hzero
        cases hzero
      · intro hholds
        have hab := hholds pre a rfl hx
        rw [if_neg]
        rintro ⟨hb, hlt⟩
        exact absurd (hab hb) (by omega)

end Step

/-- A whole session keeps parser and monitor in step. -/
theorem synced_run (steady : Nat → Int) (frameId : String) (types : List Int64) (window : Exact)
    {l : List Instant} (ordered : l.Pairwise Instant.NotAfter) :
    ∃ d m, l.foldl (deliver steady frameId types) (.fresh, .started steady window) = (⟨[], d⟩, m) ∧
      Synced l d m := by
  induction l using List.reverseRecOn with
  | nil =>
    refine ⟨.initial, _, rfl, ?_⟩
    constructor
    case week_valid => simp [INSData.initial]
    case week_le => simp
    case time => simp
    case last => rfl
    case regressions => exact iff_of_true rfl (adjacent_nil _)
  | append_singleton l b ih =>
    obtain ⟨hl, -, hb⟩ := List.pairwise_append.mp ordered
    obtain ⟨d, m, hrun, h⟩ := ih hl
    refine ⟨_, _, ?_, synced_step steady frameId types h fun a ha => hb a ha b (by simp)⟩
    rw [List.foldl_append, hrun, List.foldl_cons, List.foldl_nil, deliver_eq]

/-- For every session, the monitor counts no regression of the device time exactly when no main
packet that follows an extended one, at whatever distance, has a counter in milliseconds less than
the packet just before it. -/
theorem deviceTimeRegressions_iff (session : Session) (steady : Nat → Int) (frameId : String)
    (types : List Int64) (window : Exact) :
    (session.monitor steady frameId types window).deviceTimeRegressions = 0 ↔
      ∀ pre a b post, session.instants = pre ++ a :: b :: post → (∃ x ∈ pre ++ [a], x.extended) →
        ¬b.extended → a.counter.toNat / 4 ≤ b.counter.toNat / 4 := by
  obtain ⟨d, m, hrun, h⟩ := synced_run steady frameId types window session.ordered
  rw [Session.monitor, hrun]
  exact h.regressions

/-- The instant at which the device sends a packet, as an extended frame or as a main frame. -/
def Packet.instant (p : Packet) (week : UInt32) (extended : Bool) (stamp : Time)
    (counter_lt : p.counter.toNat < 4 * 604800000) : Instant where
  week := week
  counter := p.counter
  counter_lt := counter_lt
  frame := ⟨p.frame (if extended then some week else none), p.validFrame_frame _⟩
  counter_eq := (p.filled_frame _).counter
  week_eq h := by
    cases extended with
    | false => simp [p.length_frame, kMainLength, kExtendedLength] at h
    | true =>
      simp only [reduceIte]
      exact p.week_frame week
  stamp := stamp

/-- Of two instants, an extended one and a main one with a counter that has started again, the
second is counted as a regression. -/
theorem regression_of_rollover {a b : Instant} (ordered : a.NotAfter b) (ha : a.extended)
    (hb : ¬b.extended) (hlt : b.counter.toNat / 4 < a.counter.toNat / 4) (steady : Nat → Int)
    (frameId : String) (types : List Int64) (window : Exact) :
    (Session.monitor steady frameId types ⟨[a, b], List.pairwise_pair.mpr ordered⟩
      window).deviceTimeRegressions ≠ 0 := by
  obtain ⟨d, m, hrun, h⟩ := synced_run steady frameId types window (List.pairwise_pair.mpr ordered)
  rw [Session.monitor, hrun]
  intro hzero
  have hholds := h.regressions.mp hzero [] a b [] rfl ⟨a, by simp, ha⟩ hb
  omega

/-- An extended packet near the end of week 2300, and a main packet just after it. -/
theorem deviceTime_rollover : ¬∀ (session : Session) (steady : Nat → Int) (frameId : String)
    (types : List Int64) (window : Exact),
    (session.monitor steady frameId types window).deviceTimeRegressions = 0 := by
  intro h
  let packet : Packet := .ofSelector 0 0 0 0
  let a := { packet with counter := 2419196000 }.instant 2300 true ⟨0, 0⟩ (by decide)
  let b := { packet with counter := 4000 }.instant 2301 false ⟨0, 0⟩ (by decide)
  have ordered : a.NotAfter b := .inl (show (2300 : UInt32) < 2301 by decide)
  exact regression_of_rollover ordered (by decide +kernel) (by decide +kernel) (by decide +kernel)
    (fun _ => 0) "" [] (.num 60) (h _ _ _ _ _)

end AsensingDriver
