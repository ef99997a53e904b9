import AsensingDriver.RunningStats
import AsensingDriver.Monitor
import AsensingDriver.Lib.Changes
import Mathlib.Data.FinEnum

/-! The monitor's evidence on the RTK solution.  Of all calls only a status with a valid solution
touches it, and `rtk_evidence` says that after any sequence of calls the counters, the histogram and
the logged transitions are those of the valid statuses received so far. -/

namespace AsensingDriver

open Changes Exact

namespace R3HardwareMonitor

variable {F : Type} [Double F]

/-- What the monitor keeps about the solution. -/
structure RtkEvidence (F : Type) where
  validSolutionStatusCount : Nat
  rtkFixedCount : Nat
  positionTypeHistogram : UInt8 → Nat
  satelliteCount : R3RunningStats F
  lastRtkFixed : Option Bool
  lastPositionType : Option UInt8
  rtkFixedTransitions : List String
  positionTypeTransitions : List String

def rtkEvidence (m : R3HardwareMonitor F) : RtkEvidence F where
  validSolutionStatusCount := m.validSolutionStatusCount
  rtkFixedCount := m.rtkFixedCount
  positionTypeHistogram := m.positionTypeHistogram
  satelliteCount := m.satelliteCount
  lastRtkFixed := m.lastRtkFixed
  lastPositionType := m.lastPositionType
  rtkFixedTransitions := logged "rtk_fixed_transition" m.events
  positionTypeTransitions := logged "position_type_transition" m.events

/-- The text of a change of the verdict. -/
def fixedText (c : Bool × Bool) : String := if c.1 then "fixed->not_fixed" else "not_fixed->fixed"

/-- The text of a change of the position type. -/
def typeText (c : UInt8 × UInt8) : String := toString c.1.toNat ++ "->" ++ toString c.2.toNat

/-- One more status with a valid solution. -/
def RtkEvidence.observe (e : RtkEvidence F) (message : INSStatus F) : RtkEvidence F where
  validSolutionStatusCount := e.validSolutionStatusCount + 1
  rtkFixedCount := e.rtkFixedCount + if message.rtkFixed then 1 else 0
  positionTypeHistogram := Function.update e.positionTypeHistogram message.positionType
    (e.positionTypeHistogram message.positionType + 1)
  satelliteCount := e.satelliteCount.add (Double.ofNat message.numSatellite.toNat)
  lastRtkFixed := some message.rtkFixed
  lastPositionType := some message.positionType
  rtkFixedTransitions :=
    e.rtkFixedTransitions ++ (changeFrom e.lastRtkFixed message.rtkFixed).map fixedText
  positionTypeTransitions :=
    e.positionTypeTransitions ++ (changeFrom e.lastPositionType message.positionType).map typeText

/-- More events of one kind. -/
def RtkEvidence.log (e : RtkEvidence F) (kind : String) (details : List String) : RtkEvidence F :=
  { e with
    rtkFixedTransitions :=
      e.rtkFixedTransitions ++ if kind == "rtk_fixed_transition" then details else []
    positionTypeTransitions :=
      e.positionTypeTransitions ++ if kind == "position_type_transition" then details else [] }

/-! ### One call -/

section Calls

variable (steady : Nat → Int) (m : R3HardwareMonitor F)

omit [Double F] in
theorem RtkEvidence.log_nil (e : RtkEvidence F) (kind : String) : e.log kind [] = e := by
  simp [RtkEvidence.log]

omit [Double F] in
/-- Events of other kinds are no evidence. -/
theorem RtkEvidence.log_other (e : RtkEvidence F) {kind : String} (details : List String)
    (hfixed : kind ≠ "rtk_fixed_transition") (htype : kind ≠ "position_type_transition") :
    e.log kind details = e := by
  simp [RtkEvidence.log, hfixed, htype]

theorem addEvent_rtkEvidence (kind detail : String) :
    (m.addEvent steady kind detail).rtkEvidence = m.rtkEvidence.log kind [detail] := by
  have hlogged (k : String) : logged k (m.addEvent steady kind detail).events =
      logged k m.events ++ if kind == k then [detail] else [] := by
    rw [addEvent, logged_append]
    congr 1
    simp only [logged, List.filter_cons, List.filter_nil]
    split <;> rfl
  rw [rtkEvidence, hlogged, hlogged]
  rfl

/-- A transition is logged where the value changes. -/
theorem transition_rtkEvidence {α : Type} [DecidableEq α] (kind : String) (last : Option α)
    (value : α) (text : α × α → String) :
    (m.transition steady kind last value fun a => text (a, value)).rtkEvidence =
      m.rtkEvidence.log kind ((changeFrom last value).map text) := by
  cases last with
  | none => exact (m.rtkEvidence.log_nil kind).symm
  | some last =>
    by_cases h : last = value
    · simp [transition, changeFrom, change, h, RtkEvidence.log_nil]
    · simp [transition, changeFrom, change, h, addEvent_rtkEvidence]

theorem observeSolution_rtkEvidence (message : INSStatus F) :
    (m.observeSolution steady message).rtkEvidence =
      if message.positionStatusValid then m.rtkEvidence.observe message else m.rtkEvidence := by
  cases hvalid : message.positionStatusValid with
  | false => simp [observeSolution, hvalid]
  | true =>
    -- The states between the statements of the source.
    let counted : R3HardwareMonitor F :=
      { m with
        validSolutionStatusCount := m.validSolutionStatusCount + 1
        positionTypeHistogram := Function.update m.positionTypeHistogram message.positionType
          (m.positionTypeHistogram message.positionType + 1)
        satelliteCount := m.satelliteCount.add (Double.ofNat message.numSatellite.toNat)
        rtkFixedCount := m.rtkFixedCount + if message.rtkFixed then 1 else 0 }
    let verdict := counted.transition steady "rtk_fixed_transition" m.lastRtkFixed message.rtkFixed
      fun last => fixedText (last, message.rtkFixed)
    let fixed := { verdict with lastRtkFixed := some message.rtkFixed }
    let typed := fixed.transition steady "position_type_transition" verdict.lastPositionType
      message.positionType fun last => typeText (last, message.positionType)
    have hstates : m.observeSolution steady message =
        { typed with lastPositionType := some message.positionType } := by
      unfold observeSolution
      rw [hvalid]
      rfl
    have hverdict : verdict.rtkEvidence = counted.rtkEvidence.log "rtk_fixed_transition"
        ((changeFrom m.lastRtkFixed message.rtkFixed).map fixedText) :=
      transition_rtkEvidence steady counted _ _ _ _
    have hlast : verdict.lastPositionType = m.lastPositionType :=
      congrArg RtkEvidence.lastPositionType hverdict
    have htyped : typed.rtkEvidence =
        RtkEvidence.log { verdict.rtkEvidence with lastRtkFixed := some message.rtkFixed }
          "position_type_transition"
          ((changeFrom m.lastPositionType message.positionType).map typeText) := by
      rw [← hlast]
      exact transition_rtkEvidence steady fixed _ _ _ _
    have hfinal : (m.observeSolution steady message).rtkEvidence =
        { typed.rtkEvidence with lastPositionType := some message.positionType } := by
      rw [hstates]
      rfl
    rw [hfinal, htyped, hverdict, if_pos rfl]
    simp [RtkEvidence.log, RtkEvidence.observe, rtkEvidence, counted]

theorem observeStd_rtkEvidence (message : INSStatus F) :
    (m.observeStd message).rtkEvidence = m.rtkEvidence := by
  unfold observeStd
  split <;> rfl

theorem observeDeviceTime_rtkEvidence (message : INSStatus F) :
    (m.observeDeviceTime message).rtkEvidence = m.rtkEvidence := by
  unfold observeDeviceTime
  split <;> rfl

theorem onStatus_rtkEvidence (message : INSStatus F) :
    (m.onStatus steady message).rtkEvidence =
      if message.positionStatusValid then m.rtkEvidence.observe message else m.rtkEvidence := by
  rw [onStatus, observeDeviceTime_rtkEvidence, observeStd_rtkEvidence, observeSolution_rtkEvidence]
  rfl

theorem setReference_rtkEvidence (message : NavSatFix F) :
    (m.setReference steady message).rtkEvidence = m.rtkEvidence := by
  unfold setReference
  split
  · rw [addEvent_rtkEvidence, RtkEvidence.log_other _ _ (by decide) (by decide)]
    rfl
  · rfl

theorem observeStatic_rtkEvidence (message : NavSatFix F) (en : F × F) :
    (m.observeStatic steady message en).rtkEvidence = m.rtkEvidence := by
  unfold observeStatic
  split
  · rfl
  · dsimp only
    split
    · rfl
    · split
      · rw [addEvent_rtkEvidence, RtkEvidence.log_other _ _ (by decide) (by decide)]
        rfl
      · rfl

theorem onFix_rtkEvidence (message : NavSatFix F) :
    (m.onFix steady message).rtkEvidence = m.rtkEvidence := by
  unfold onFix
  dsimp only
  split
  · rfl
  · rw [observeStatic_rtkEvidence]
    exact setReference_rtkEvidence ..

/-- The status of a call, if it has a valid solution. -/
def Callback.validStatus? : Callback F → Option (INSStatus F)
  | .status message => if message.positionStatusValid then some message else none
  | .fix _ | .imu _ | .velocity _ | .marker _ | .snapshot => none

/-- Of all calls, only a status with a valid solution is evidence. -/
theorem handle_rtkEvidence (c : Callback F) :
    (m.handle steady c).rtkEvidence =
      c.validStatus?.elim m.rtkEvidence m.rtkEvidence.observe := by
  cases c with
  | fix message => exact onFix_rtkEvidence steady m message
  | status message =>
    rw [handle, onStatus_rtkEvidence, Callback.validStatus?]
    split <;> rfl
  | imu message => rfl
  | velocity message => rfl
  | marker data =>
    rw [handle, onMarker, addEvent_rtkEvidence, RtkEvidence.log_other _ _ (by decide) (by decide)]
    rfl
  | snapshot => rfl

end Calls

/-! ### Sequences of calls -/

/-- The evidence `e` is that of the valid statuses `V`. -/
structure RtkEvidence.Of (e : RtkEvidence Exact) (V : List (INSStatus Exact)) : Prop where
  count : e.validSolutionStatusCount = V.length
  satellites : e.satelliteCount.count = V.length
  fixed : e.rtkFixedCount = V.countP (·.rtkFixed)
  histogram : ∀ t, e.positionTypeHistogram t = V.countP (·.positionType == t)
  lastFixed : e.lastRtkFixed = (V.map (·.rtkFixed)).getLast?
  lastType : e.lastPositionType = (V.map (·.positionType)).getLast?
  fixedTransitions : e.rtkFixedTransitions = (changes (V.map (·.rtkFixed))).map fixedText
  typeTransitions : e.positionTypeTransitions = (changes (V.map (·.positionType))).map typeText

theorem of_started (steady : Nat → Int) (window : Exact) :
    RtkEvidence.Of (started steady window).rtkEvidence [] := by
  constructor <;> first | rfl | exact fun _ => rfl

theorem RtkEvidence.Of.observe {e : RtkEvidence Exact} {V : List (INSStatus Exact)} (h : e.Of V)
    (message : INSStatus Exact) : (e.observe message).Of (V ++ [message]) := by
  constructor
  case count => simp [RtkEvidence.observe, h.count]
  case satellites => simp [RtkEvidence.observe, count_add, h.satellites, Double.ofNat]
  case fixed => simp [RtkEvidence.observe, h.fixed, List.countP_append, List.countP_singleton]
  case histogram =>
    intro t
    rw [List.countP_append, List.countP_singleton, ← h.histogram]
    show Function.update _ _ _ _ = _
    rw [Function.update_apply]
    by_cases ht : t = message.positionType
    · simp [ht]
    · simp [ht, Ne.symm ht]
  case lastFixed => simp [RtkEvidence.observe]
  case lastType => simp [RtkEvidence.observe]
  case fixedTransitions =>
    rw [RtkEvidence.observe, h.fixedTransitions, h.lastFixed, List.map_append, List.map_singleton,
      changes_concat, List.map_append]
  case typeTransitions =>
    rw [RtkEvidence.observe, h.typeTransitions, h.lastType, List.map_append, List.map_singleton,
      changes_concat, List.map_append]

/-- The statuses with a valid solution among the messages of a sequence of calls. -/
def validStatuses (callbacks : List (Callback F)) : List (INSStatus F) :=
  callbacks.filterMap Callback.validStatus?

theorem run_rtkEvidence (steady : Nat → Int) (window : Exact) (callbacks : List (Callback Exact)) :
    (run steady window callbacks).rtkEvidence.Of (validStatuses callbacks) := by
  induction callbacks using List.reverseRecOn with
  | nil => exact of_started steady window
  | append_singleton callbacks c ih =>
    rw [run_concat, handle_rtkEvidence, validStatuses, List.filterMap_append]
    cases hc : c.validStatus? with
    | none => simpa [hc, validStatuses] using ih
    | some message => simpa [hc, validStatuses] using ih.observe message

/-- The share of the fixed solutions lies between zero and one. -/
theorem rtkFixedRatio_bounds (m : R3HardwareMonitor Exact)
    (h : m.rtkFixedCount ≤ m.validSolutionStatusCount) :
    ∃ r : ℝ, m.rtkFixedRatio = .num r ∧ 0 ≤ r ∧ r ≤ 1 := by
  unfold rtkFixedRatio
  split
  · exact ⟨0, zero_exact, le_rfl, zero_le_one⟩
  · rename_i hpos
    have hne : ((m.validSolutionStatusCount : ℤ) : ℝ) ≠ 0 := by exact_mod_cast hpos
    refine ⟨_, num_div hne, by positivity, ?_⟩
    exact div_le_one_of_le₀ (by exact_mod_cast h) (by positivity)

omit [Double F] in
/-- Every message adds to the count of one position type. -/
theorem sum_countP (V : List (INSStatus F)) :
    ∑ t : UInt8, V.countP (·.positionType == t) = V.length := by
  have hcount (t : UInt8) :
      V.countP (·.positionType == t) = Multiset.count t (V.map (·.positionType)) := by
    rw [Multiset.coe_count, List.count, List.countP_map]
    rfl
  simp only [hcount]
  rw [Multiset.sum_count_eq_card (by simp)]
  simp

/-- Adjacent changes of a verdict go in opposite directions. -/
theorem fixedText_alternates (l : List Bool) :
    ((changes l).map fixedText).IsChain (· ≠ ·) := by
  rw [List.isChain_map, List.isChain_iff_forall_rel_of_append_cons_cons]
  intro p q pre post hl
  have hnext : p.2 = q.1 := List.isChain_iff_forall_rel_of_append_cons_cons.mp
    (changes_isChain l) hl
  have hne : p.1 ≠ p.2 := ne_of_mem_changes (l := l) (by simp [hl])
  rw [hnext] at hne
  unfold fixedText
  cases hp : p.1 <;> cases hq : q.1 <;> simp_all

/-- After any sequence of calls, with the statuses `V` of a valid solution among them: the counters
and the histogram count the messages of `V`, the share of fixed solutions lies between zero and one,
and the logged transitions are the adjacent changes along `V`, so that those of the verdict
alternate, each of the position type starts where the one before it ended, and the last one ends at
the latest message. -/
theorem rtk_evidence (steady : Nat → Int) (window : Exact) (callbacks : List (Callback Exact)) :
    let m := run steady window callbacks
    let V := validStatuses callbacks
    let verdicts := changes (V.map (·.rtkFixed))
    let types := changes (V.map (·.positionType))
    (m.validSolutionStatusCount = V.length ∧ m.satelliteCount.count = V.length ∧
      ∑ t : UInt8, m.positionTypeHistogram t = V.length) ∧
    (∀ t, m.positionTypeHistogram t = V.countP (·.positionType == t)) ∧
    m.rtkFixedCount = V.countP (·.rtkFixed) ∧
    (∃ r : ℝ, m.rtkFixedRatio = .num r ∧ 0 ≤ r ∧ r ≤ 1) ∧
    (logged "rtk_fixed_transition" m.events = verdicts.map fixedText ∧
      (verdicts.map fixedText).IsChain (· ≠ ·) ∧
      ∀ p ∈ verdicts.getLast?, (V.map (·.rtkFixed)).getLast? = some p.2) ∧
    (logged "position_type_transition" m.events = types.map typeText ∧
      types.IsChain (fun p q => p.2 = q.1) ∧
      ∀ p ∈ types.getLast?, (V.map (·.positionType)).getLast? = some p.2) := by
  intro m V verdicts types
  have h : m.rtkEvidence.Of V := run_rtkEvidence steady window callbacks
  have hhistogram (t : UInt8) : m.positionTypeHistogram t = V.countP (·.positionType == t) :=
    h.histogram t
  refine ⟨⟨h.count, h.satellites, ?_⟩, hhistogram, h.fixed, rtkFixedRatio_bounds m ?_,
    ⟨h.fixedTransitions, fixedText_alternates _, fun p hp => getLast?_of_changes hp⟩,
    h.typeTransitions, changes_isChain _, fun p hp => getLast?_of_changes hp⟩
  · simp only [hhistogram]
    exact sum_countP V
  · rw [show m.rtkFixedCount = _ from h.fixed, show m.validSolutionStatusCount = _ from h.count]
    exact List.countP_le_length

end R3HardwareMonitor

end AsensingDriver
