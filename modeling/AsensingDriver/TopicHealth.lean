import AsensingDriver.Lib.Gaps
import AsensingDriver.Metrics
import Mathlib.Order.Hom.Basic
import Mathlib.Data.Nat.Count

/-! The health of a topic.  Message `i` arrives when the steady clock reads `now i`, with the stamp
`stamp i`; `topic_health` says what the tracker holds after any number of messages. -/

namespace AsensingDriver

open Gaps

/-! ### Stamps -/

/-- A stamp in nanoseconds. -/
def Time.nanoseconds (stamp : Time) : Int := stamp.sec.toInt * 1000000000 + stamp.nanosec.toNat

/-- Neither the product nor the sum leaves the range of a 64-bit integer. -/
theorem stampNs_exact (stamp : Time) :
    (stamp.sec.toInt64 * 1000000000).toInt = stamp.sec.toInt * 1000000000 ∧
    (stampNs stamp).toInt = stamp.nanoseconds := by
  have hlow := stamp.sec.le_toInt
  have hhigh := stamp.sec.toInt_lt
  have hnano := stamp.nanosec.toNat_lt
  have hproduct : (stamp.sec.toInt64 * 1000000000).toInt = stamp.sec.toInt * 1000000000 := by
    rw [Int64.toInt_mul, Int32.toInt_toInt64, show (1000000000 : Int64).toInt = 1000000000 from rfl]
    apply Int.bmod_eq_of_le <;> omega
  have hsum : stamp.nanosec.toUInt64.toInt64.toInt = stamp.nanosec.toNat := by
    rw [toInt_toInt64 (by rw [UInt32.toNat_toUInt64]; omega), UInt32.toNat_toUInt64]
  refine ⟨hproduct, ?_⟩
  rw [stampNs, Int64.toInt_add, hproduct, hsum]
  apply Int.bmod_eq_of_le <;> omega

theorem stampNs_lt (a b : Time) : stampNs a < stampNs b ↔ a.nanoseconds < b.nanoseconds := by
  rw [Int64.lt_iff_toInt_lt, (stampNs_exact a).2, (stampNs_exact b).2]

/-! ### Messages -/

namespace TopicTracker

variable (now : ℕ → Int) (stamp : ℕ → Time)

/-- The tracker after the first `n` messages. -/
def observed {F : Type} [Double F] : ℕ → TopicTracker F
  | 0 => empty
  | n + 1 => (observed n).observe (now n) (stamp n)

/-- When message `i` arrives, in seconds. -/
noncomputable def receive (i : ℕ) : ℝ := now i / 1000000000

/-- The tracker holds the figures of the messages `0` to `n`. -/
structure Of (t : TopicTracker Exact) (n : ℕ) : Prop where
  count : t.count = n + 1
  stampRegressions : t.stampRegressions =
    Nat.count (fun i => (stamp (i + 1)).nanoseconds < (stamp i).nanoseconds) n
  maxGapSec : t.maxGapSec = .num (maxGap (receive now) n)
  firstReceive : t.firstReceive = now 0
  lastReceive : t.lastReceive = now n
  lastStampNs : t.lastStampNs = some (stampNs (stamp n))

variable {now} {stamp} {t : TopicTracker Exact} {n : ℕ}

theorem seconds_sub (i j : ℕ) :
    (seconds (now j - now i) : Exact) = .num (receive now j - receive now i) := by
  rw [seconds_exact, Int.cast_sub, sub_div]
  rfl

theorem of_first : Of now stamp (empty.observe (now 0) (stamp 0)) 0 where
  count := rfl
  stampRegressions := rfl
  maxGapSec := Exact.zero_exact
  firstReceive := rfl
  lastReceive := rfl
  lastStampNs := rfl

theorem any_stampNs_lt (message last : Time) :
    ((some (stampNs last)).any fun ns => stampNs message < ns) =
      decide (message.nanoseconds < last.nanoseconds) := by
  rw [Option.any_some]
  exact decide_eq_decide.mpr (stampNs_lt message last)

/-- Every message after the first one is counted, timed against the one before, and its stamp
compared with the one before. -/
theorem observe_of_count_ne (hcount : t.count ≠ 0) (time : Int) (message last : Time)
    (hlast : t.lastStampNs = some (stampNs last)) :
    t.observe time message =
      { count := t.count + 1
        stampRegressions :=
          t.stampRegressions + if message.nanoseconds < last.nanoseconds then 1 else 0
        maxGapSec := Double.max t.maxGapSec (seconds (time - t.lastReceive))
        firstReceive := t.firstReceive
        lastReceive := time
        lastStampNs := some (stampNs message) } := by
  unfold TopicTracker.observe
  rw [if_neg hcount, hlast]
  simp only [any_stampNs_lt, decide_eq_true_eq]

theorem Of.observe (h : Of now stamp t n) :
    Of now stamp (t.observe (now (n + 1)) (stamp (n + 1))) (n + 1) := by
  have hcount : t.count ≠ 0 := by
    rw [h.count]
    exact Nat.succ_ne_zero n
  rw [observe_of_count_ne hcount _ _ _ h.lastStampNs]
  constructor
  · rw [h.count]
  · rw [h.stampRegressions, Nat.count_succ]
  · rw [h.maxGapSec, h.lastReceive, seconds_sub, Exact.max_num, maxGap]
  · exact h.firstReceive
  · rfl
  · rfl

theorem observed_of (n : ℕ) : Of now stamp (observed now stamp (n + 1)) n := by
  induction n with
  | zero => exact of_first
  | succ n ih => exact ih.observe

/-- A first and a last message at different times are two messages. -/
theorem pos_of_receive_lt (hlt : receive now 0 < receive now n) : 0 < n := by
  rw [Nat.pos_iff_ne_zero]
  rintro rfl
  exact lt_irrefl _ hlt

/-- The elapsed time that the rate is taken over. -/
theorem Of.elapsed (h : Of now stamp t n) :
    (seconds (t.lastReceive - t.firstReceive) : Exact) =
      .num (receive now n - receive now 0) := by
  rw [h.lastReceive, h.firstReceive, seconds_sub]

theorem Of.rateHz_of_lt (h : Of now stamp t n) (hlt : receive now 0 < receive now n) :
    t.rateHz = .num (n / (receive now n - receive now 0)) := by
  have hmessages := pos_of_receive_lt hlt
  have hcount : ¬ t.count < 2 := by
    rw [h.count]
    omega
  have hpos : 0 < receive now n - receive now 0 := sub_pos.mpr hlt
  have hrate : (Double.ofNat (t.count - 1) : Exact) = .num n := by
    rw [h.count, Nat.add_sub_cancel]
    rfl
  unfold rateHz
  rw [if_neg hcount, h.elapsed, Exact.zero_exact, if_pos ((Exact.lt_num _ _).mpr hpos), hrate,
    Exact.num_div hpos.ne']

theorem Of.rateHz_of_le (h : Of now stamp t n) (hle : receive now n ≤ receive now 0) :
    t.rateHz = .num 0 := by
  unfold rateHz
  split
  · exact Exact.zero_exact
  · rw [h.elapsed, Exact.zero_exact, if_neg]
    rw [Exact.lt_num]
    exact not_lt.mpr (sub_nonpos.mpr hle)

/-- The mean gap is at most the greatest one. -/
theorem one_le_rate_mul_gap (hlt : receive now 0 < receive now n) :
    1 ≤ n / (receive now n - receive now 0) * maxGap (receive now) n := by
  have hpos : 0 < receive now n - receive now 0 := sub_pos.mpr hlt
  rw [div_mul_eq_mul_div, le_div_iff₀ hpos, one_mul]
  exact sub_le_mul_maxGap (receive now) n

/-- What the tracker reports after the messages `0` to `n`: their number, the number of stamps that
are older than the one before, the greatest gap, and a rate that the greatest gap bounds from
below. -/
theorem topic_health (now : ℕ →o ℤ) (stamp : ℕ → Time) (n : ℕ) :
    let t : TopicTracker Exact := observed now stamp (n + 1)
    t.count = n + 1 ∧
    t.stampRegressions =
      Nat.count (fun i => (stamp (i + 1)).nanoseconds < (stamp i).nanoseconds) n ∧
    (∀ i, ((stamp i).sec.toInt64 * 1000000000).toInt = (stamp i).sec.toInt * 1000000000 ∧
      (stampNs (stamp i)).toInt = (stamp i).nanoseconds) ∧
    ∃ rate gap : ℝ, t.rateHz = .num rate ∧ t.maxGapSec = .num gap ∧
      (n = 0 → gap = 0) ∧
      (0 < n → IsGreatest {g | ∃ i < n, receive now (i + 1) - receive now i = g} gap) ∧
      (0 < n ∧ receive now 0 < receive now n →
        rate = n / (receive now n - receive now 0) ∧ 1 ≤ rate * gap) ∧
      (¬ (0 < n ∧ receive now 0 < receive now n) → rate = 0) := by
  intro t
  have h : Of now stamp t n := observed_of n
  have hmono : Monotone (receive now) := by
    intro i j hij
    have hnow : (now i : ℝ) ≤ now j := by exact_mod_cast now.monotone hij
    exact div_le_div_of_nonneg_right hnow (by norm_num)
  have hfirst : n = 0 → maxGap (receive now) n = 0 := by
    rintro rfl
    rfl
  refine ⟨h.count, h.stampRegressions, fun i => stampNs_exact (stamp i), ?_⟩
  rcases lt_or_ge (receive now 0) (receive now n) with hlt | hle
  · refine ⟨_, _, h.rateHz_of_lt hlt, h.maxGapSec, hfirst, isGreatest_maxGap hmono,
      fun _ => ⟨rfl, one_le_rate_mul_gap hlt⟩, ?_⟩
    intro hnot
    exact absurd ⟨pos_of_receive_lt hlt, hlt⟩ hnot
  · refine ⟨_, _, h.rateHz_of_le hle, h.maxGapSec, hfirst, isGreatest_maxGap hmono, ?_,
      fun _ => rfl⟩
    rintro ⟨-, hlt⟩
    exact absurd hlt (not_lt.mpr hle)

end TopicTracker

end AsensingDriver
