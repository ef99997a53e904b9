import AsensingDriver.Metrics
import AsensingDriver.Lib.Latest

/-! The RTK indicator.  It reads a clock that follows the system clock, and so may be stepped.
`honest_iff` says in which runs a verdict on a live stream is never published for a dead one. -/

namespace AsensingDriver

open Latest

/-- The texts that the indicator publishes. -/
inductive Indicator
  | NO_DATA | STALE | FIXED | NOT_FIXED
deriving DecidableEq

/-- A verdict on a live stream. -/
def Indicator.live : Indicator → Bool
  | FIXED | NOT_FIXED => true
  | NO_DATA | STALE => false

structure RTKIndicatorNode (F : Type) where
  timeoutSec : F
  lastStatus : Option (INSStatus F)
  lastStatusTime : Int

namespace RTKIndicatorNode

variable {F : Type} [Double F]

/-- A status message, when the clock of the node reads `now`. -/
def onStatus (node : RTKIndicatorNode F) (now : Int) (message : INSStatus F) : RTKIndicatorNode F :=
  { node with lastStatus := some message, lastStatusTime := now }

/-- What the node publishes when its clock reads `now`. -/
def report (node : RTKIndicatorNode F) (now : Int) : Indicator :=
  match node.lastStatus with
  | none => .NO_DATA
  | some status =>
    let age : F := seconds (now - node.lastStatusTime)
    if Double.lt node.timeoutSec age then .STALE
    else if status.rtkFixed then .FIXED else .NOT_FIXED

/-! ### Runs -/

/-- What may happen: a status arrives, the timer ticks, real time passes, and the clock is stepped
forwards or backwards.  Times count nanoseconds. -/
inductive Step (F : Type)
  | status (message : INSStatus F)
  | tick
  | pass (ns : Nat)
  | adjust (ns : Int)

namespace Step

def isStatus : Step F → Bool
  | status _ => true
  | tick | pass _ | adjust _ => false

/-- The real time that passes. -/
def passes : Step F → Int
  | pass ns => ns
  | status _ | tick | adjust _ => 0

def adjusts : Step F → Int
  | adjust ns => ns
  | status _ | tick | pass _ => 0

end Step

/-- The real time that passes in a run. -/
def passed (steps : List (Step F)) : Int := (steps.map Step.passes).sum

/-- The sum of the adjustments of the clock in a run. -/
def adjusted (steps : List (Step F)) : Int := (steps.map Step.adjusts).sum

/-- The node, and what its clock reads. -/
structure World (F : Type) where
  node : RTKIndicatorNode F
  clock : Int

namespace World

def step (w : World F) : Step F → World F
  | .status message => { w with node := w.node.onStatus w.clock message }
  | .tick => w
  | .pass ns => { w with clock := w.clock + ns }
  | .adjust ns => { w with clock := w.clock + ns }

def run (timeoutSec : F) (start : Int) (steps : List (Step F)) : World F :=
  steps.foldl step ⟨⟨timeoutSec, none, 0⟩, start⟩

end World

/-- At every tick, `NO_DATA` is published exactly when no status has arrived, a live verdict only if
some status arrived within the timeout, and then it is that of the latest status. -/
def Honest (timeoutSec : F) (start : Int) (steps : List (Step F)) : Prop :=
  ∀ pre post, steps = pre ++ .tick :: post →
    let w := World.run timeoutSec start pre
    let verdict := w.node.report w.clock
    (verdict = .NO_DATA ↔ ∀ s ∈ pre, s.isStatus = false) ∧
    (verdict.live = true →
      (∃ before message after, pre = before ++ .status message :: after ∧
        Double.le (seconds (passed after)) timeoutSec = true) ∧
      ∀ before message after, pre = before ++ .status message :: after →
        (∀ s ∈ after, s.isStatus = false) → (verdict = .FIXED ↔ message.rtkFixed = true))

section Runs

variable (timeoutSec : F) (start : Int)

omit [Double F] in
theorem foldl_clock (w : World F) (steps : List (Step F)) :
    (steps.foldl World.step w).clock = w.clock + (passed steps + adjusted steps) := by
  induction steps generalizing w with
  | nil => simp [passed, adjusted]
  | cons s steps ih =>
    rw [List.foldl_cons, ih]
    cases s <;> simp [World.step, passed, adjusted, Step.passes, Step.adjusts] <;> omega

omit [Double F] in
theorem foldl_timeoutSec (w : World F) (steps : List (Step F)) :
    (steps.foldl World.step w).node.timeoutSec = w.node.timeoutSec := by
  induction steps generalizing w with
  | nil => rfl
  | cons s steps ih =>
    rw [List.foldl_cons, ih]
    cases s <;> rfl

omit [Double F] in
theorem foldl_node {steps : List (Step F)} (h : ∀ s ∈ steps, s.isStatus = false) (w : World F) :
    (steps.foldl World.step w).node = w.node := by
  induction steps generalizing w with
  | nil => rfl
  | cons s steps ih =>
    have hs := h s (by simp)
    rw [List.foldl_cons, ih fun s hs => h s (by simp [hs])]
    cases s with
    | status message => cases hs
    | tick | pass | adjust => rfl

/-- Before the first status there is no data. -/
theorem report_of_none {steps : List (Step F)} (h : ∀ s ∈ steps, s.isStatus = false) :
    (World.run timeoutSec start steps).node.report (World.run timeoutSec start steps).clock =
      .NO_DATA := by
  rw [World.run, foldl_node h]
  rfl

/-- The age that the node sees is the real age of the latest status, with the adjustments since. -/
theorem report_of_latest (before : List (Step F)) (message : INSStatus F) {after : List (Step F)}
    (h : ∀ s ∈ after, s.isStatus = false) :
    let w := World.run timeoutSec start (before ++ .status message :: after)
    w.node.report w.clock =
      if Double.lt timeoutSec (seconds (passed after + adjusted after)) then .STALE
      else if message.rtkFixed then .FIXED else .NOT_FIXED := by
  intro w
  obtain ⟨v, hv⟩ : ∃ v, v = World.run timeoutSec start before := ⟨_, rfl⟩
  have htimeout : v.node.timeoutSec = timeoutSec := by
    rw [hv]
    exact foldl_timeoutSec _ before
  have hw : w = after.foldl World.step (v.step (.status message)) := by
    rw [hv]
    exact List.foldl_append
  have hnode : w.node = ⟨timeoutSec, some message, v.clock⟩ := by
    rw [hw, foldl_node h, ← htimeout]
    rfl
  have hclock : w.clock - v.clock = passed after + adjusted after := by
    rw [hw, foldl_clock]
    exact add_sub_cancel_left v.clock _
  rw [report, hnode]
  dsimp only
  rw [hclock]

omit [Double F] in
theorem passed_nonneg (steps : List (Step F)) : 0 ≤ passed steps := by
  apply List.sum_nonneg
  intro ns hns
  obtain ⟨s, -, rfl⟩ := List.mem_map.mp hns
  cases s with
  | pass ns => exact Int.natCast_nonneg ns
  | status | tick | adjust => exact le_rfl

omit [Double F] in
/-- No status is younger than the latest one. -/
theorem passed_latest_le {before before' after after' : List (Step F)}
    {message message' : INSStatus F}
    (heq : before ++ .status message :: after = before' ++ .status message' :: after')
    (h : ∀ s ∈ after, s.isStatus = false) : passed after ≤ passed after' := by
  rcases List.append_eq_append_iff.mp heq with ⟨c, -, hc⟩ | ⟨c, -, hc⟩
  · cases c with
    | nil => exact le_of_eq (congrArg passed (List.cons.inj hc).2)
    | cons s c =>
      have hmem : .status message' ∈ after := by simp [(List.cons.inj hc).2]
      cases h _ hmem
  · cases c with
    | nil => exact le_of_eq (congrArg passed (List.cons.inj hc).2.symm)
    | cons s c =>
      have hsplit : passed after' = passed c + passed (.status message :: after) := by
        have hafter : after' = c ++ .status message :: after := (List.cons.inj hc).2
        rw [hafter, passed, List.map_append, List.sum_append]
        rfl
      have hstatus : passed (.status message :: after) = passed after := Int.zero_add _
      have hc := passed_nonneg c
      omega

end Runs

/-- No live verdict is ever published for a dead stream in exactly the runs in which, at every tick
after a status, the latest status is within the timeout, or its age and the adjustments of the clock
since it make up more than the timeout. -/
theorem honest_iff (timeoutSec : Exact) (start : Int) (steps : List (Step Exact)) :
    Honest timeoutSec start steps ↔
      ∀ before message after post, steps = before ++ .status message :: (after ++ .tick :: post) →
        (∀ s ∈ after, s.isStatus = false) →
          Double.le (seconds (passed after)) timeoutSec = true ∨
          Double.lt timeoutSec (seconds (passed after + adjusted after)) = true := by
  constructor
  · intro h before message after post heq hlatest
    by_cases hstale : Double.lt timeoutSec (seconds (passed after + adjusted after)) = true
    · exact Or.inr hstale
    obtain ⟨-, hlive⟩ := h (before ++ .status message :: after) post (by simp [heq])
    rw [report_of_latest timeoutSec start before message hlatest, if_neg hstale] at hlive
    have hlive := hlive (by split <;> rfl)
    obtain ⟨⟨before', message', after', heq', hle⟩, -⟩ := hlive
    left
    -- Another status that is within the timeout is no younger than the latest one.
    by_contra hlate
    have hlate := le_seconds_mono (passed_latest_le heq' hlatest) (Bool.eq_false_iff.mpr hlate)
    exact Bool.false_ne_true (hlate.symm.trans hle)
  · intro h pre post heq w verdict
    cases hlast : latest Step.isStatus pre with
    | none =>
      have hnone : ∀ s ∈ pre, s.isStatus = false := by
        simpa [latest] using hlast
      have hverdict : verdict = .NO_DATA := report_of_none timeoutSec start hnone
      rw [hverdict]
      refine ⟨⟨fun _ => hnone, fun _ => rfl⟩, ?_⟩
      intro hlive
      cases hlive
    | some s =>
      obtain ⟨hstatus, before, after, hpre, hlatest⟩ := latest_eq_some_iff.mp hlast
      cases s with
      | tick | pass | adjust => cases hstatus
      | status message =>
        have hverdict : verdict = if Double.lt timeoutSec (seconds (passed after + adjusted after))
            then .STALE else if message.rtkFixed then .FIXED else .NOT_FIXED := by
          have hreport := report_of_latest timeoutSec start before message hlatest
          rw [← hpre] at hreport
          exact hreport
        have hmem : .status message ∈ pre := by simp [hpre]
        have hne : verdict ≠ .NO_DATA := by
          rw [hverdict]
          split
          · simp
          · split <;> simp
        refine ⟨iff_of_false hne fun hnone => Bool.false_ne_true (hnone _ hmem).symm, ?_⟩
        intro hlive
        by_cases hstale : Double.lt timeoutSec (seconds (passed after + adjusted after)) = true
        · rw [hverdict, if_pos hstale] at hlive
          cases hlive
        have hle := (h before message after post (by simp [heq, hpre]) hlatest).resolve_right hstale
        refine ⟨⟨before, message, after, hpre, hle⟩, ?_⟩
        intro before' message' after' hpre' hlatest'
        obtain rfl : message = message' := by
          have hlast' : latest Step.isStatus pre = some (.status message') :=
            latest_eq_some_iff.mpr ⟨rfl, before', after', hpre', hlatest'⟩
          have hsame := hlast.symm.trans hlast'
          simpa using hsame
        rw [hverdict, if_neg hstale]
        cases message.rtkFixed <;> simp

/-- A status with a fix arrives, the clock is stepped back by ten seconds, and five seconds later
there is no other status. -/
theorem not_honest_stepped_back :
    let message : INSStatus Exact :=
      { INSStatus.initial ⟨0, 0⟩ "rtk_antenna_link" with rtkFixed := true }
    ¬ Honest (.num 2) 0 [.status message, .adjust (-10000000000), .pass 5000000000, .tick] := by
  intro message h
  obtain ⟨after, hafter⟩ : ∃ after : List (Step Exact),
      after = [.adjust (-10000000000), .pass 5000000000] := ⟨_, rfl⟩
  have hlatest : ∀ s ∈ after, s.isStatus = false := by simp [hafter, Step.isStatus]
  have hpassed : passed after = 5000000000 := by rw [hafter]; rfl
  have hadjusted : adjusted after = -10000000000 := by rw [hafter]; rfl
  obtain ⟨-, hlive⟩ := h (.status message :: after) [] (by rw [hafter]; rfl)
  have hverdict := report_of_latest (.num 2) 0 [] message hlatest
  rw [hpassed, hadjusted, seconds_exact, if_neg (by rw [Exact.lt_num]; norm_num),
    if_pos (show message.rtkFixed = true from rfl)] at hverdict
  rw [List.nil_append] at hverdict
  rw [hverdict] at hlive
  obtain ⟨⟨before, message', after', heq, hle⟩, -⟩ := hlive rfl
  rw [← List.nil_append (Step.status message :: after)] at heq
  have hdead : Double.le (seconds (passed after)) (Exact.num 2) = false := by
    rw [hpassed, seconds_exact, Bool.eq_false_iff, Ne, Exact.le_num]
    norm_num
  have hlate := le_seconds_mono (passed_latest_le heq hlatest) hdead
  exact Bool.false_ne_true (hlate.symm.trans hle)

end RTKIndicatorNode

end AsensingDriver
