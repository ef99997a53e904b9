import AsensingDriver.Covariances
import AsensingDriver.System

/-! From the bytes of the device to the evidence of the monitor and the verdict of the indicator.
`run_counts` bounds what the monitor counts by the samples of the bytes read, `run_reference` says
where its reference position comes from, and `run_verdict` what a verdict rests on. -/

namespace AsensingDriver

open Exact R3HardwareMonitor Latest

namespace System

section Counts

variable {F : Type} [Double F] (setup : Setup F)

/-- What the monitor has received of one type. -/
theorem madeOf_calls {α : Type} (events : List Event) {s : Subscription} (hs : s ≠ .indicator)
    {arrived : Callback F → Option α} (select : Message F → Option α)
    {make : INSData F → Time → α} (harrived : ∀ c, arrived c = (messageOn s c).bind select)
    (hmake : ∀ d stamp, select (makeMessage setup.parameters setup.setRPY d stamp s.topic) =
      some (make d stamp)) :
    MadeOf setup events s make ((run setup events).callbacks.filterMap arrived) := by
  have hcalls : (run setup events).callbacks.filterMap arrived =
      ((run setup events).links s).received.filterMap select := by
    rw [← (run_consistent setup events).calls s hs, List.filterMap_filterMap]
    exact List.filterMap_congr fun c _ => harrived c
  rw [hcalls]
  exact (received_madeOf setup events s).filterMap setup hmake

variable (events : List Event)

theorem madeOf_statuses :
    MadeOf setup events .status
      (fun d stamp => makeInsStatus d stamp setup.parameters.gnssFrameId
        setup.parameters.rtkFixedTypes)
      (statuses (run setup events).callbacks) :=
  madeOf_calls setup events (by decide) Message.status? (fun c => by cases c <;> rfl)
    fun _ _ => rfl

theorem madeOf_fixes :
    MadeOf setup events .fix
      (fun d stamp => makeNavSatFix d stamp setup.parameters.gnssFrameId)
      (fixes (run setup events).callbacks) :=
  madeOf_calls setup events (by decide) Message.fix? (fun c => by cases c <;> rfl) fun _ _ => rfl

theorem madeOf_imus :
    MadeOf setup events .imu
      (fun d stamp => makeImuMessage d stamp setup.parameters.insFrameId
        setup.parameters.useDeviceOrientationInImu)
      (imus (run setup events).callbacks) :=
  madeOf_calls setup events (by decide) Message.imu? (fun c => by cases c <;> rfl) fun _ _ => rfl

/-- A count of messages of a subscription is at most that of the samples `m`, and equal to it once
every message has arrived. -/
def Reaches (s : Subscription) (n m : Nat) : Prop := n ≤ m ∧ (Complete setup events s → n = m)

variable {setup events} in
/-- Messages are counted like the samples that they are made from. -/
theorem MadeOf.countP {α : Type} {s : Subscription} {make : INSData F → Time → α} {l : List α}
    (h : MadeOf setup events s make l) {p : α → Bool} {p' : INSData F → Bool}
    (hp : ∀ d stamp, p (make d stamp) = p' d) :
    Reaches setup events s (l.countP p)
      ((received F (chunks (run setup events).driver.calls)).countP p') := by
  obtain ⟨samples, hsublist, rfl, hcomplete⟩ := h
  have hcount : samples.countP (p ∘ fun x => make x.1 (setup.now x.2)) =
      samples.countP (p' ∘ Prod.fst) := List.countP_congr fun x _ => by simp [hp]
  have hall : (received F (chunks (run setup events).driver.calls)).countP p' =
      (received F (chunks (run setup events).driver.calls)).zipIdx.countP (p' ∘ Prod.fst) := by
    rw [← List.countP_map, List.zipIdx_map_fst]
  rw [List.countP_map, hall]
  exact ⟨hcount.trans_le hsublist.countP_le, fun hdone => hcount.trans (by rw [hcomplete hdone])⟩

variable {setup events} in
/-- The first message with a property is made from the first sample with it. -/
theorem MadeOf.find? {α : Type} {s : Subscription} {make : INSData F → Time → α} {l : List α}
    (h : MadeOf setup events s make l) {p : α → Bool} {p' : INSData F → Bool}
    (hp : ∀ d stamp, p (make d stamp) = p' d) :
    ∃ d? : Option (INSData F × Nat), l.find? p = (d?.map fun (d, k) => make d (setup.now k)) ∧
      (∀ d ∈ d?, d.1 ∈ received F (chunks (run setup events).driver.calls) ∧ p' d.1 = true) ∧
      (Complete setup events s →
        d?.map Prod.fst = (received F (chunks (run setup events).driver.calls)).find? p') := by
  obtain ⟨samples, hsublist, rfl, hcomplete⟩ := h
  have hfind : (p ∘ fun x : INSData F × Nat => make x.1 (setup.now x.2)) = p' ∘ Prod.fst :=
    funext fun x => hp x.1 (setup.now x.2)
  refine ⟨samples.find? (p' ∘ Prod.fst), ?_, fun d hd => ?_, fun hdone => ?_⟩
  · rw [List.find?_map, hfind]
  · have hmem := hsublist.subset (List.mem_of_find?_eq_some hd)
    exact ⟨List.fst_mem_of_mem_zipIdx hmem, List.find?_some (p := p' ∘ Prod.fst) hd⟩
  · rw [hcomplete hdone, ← List.find?_map, List.zipIdx_map_fst]

variable {setup events} in
/-- The last message is made from the last sample, or from one before it. -/
theorem MadeOf.getLast? {α : Type} {s : Subscription} {make : INSData F → Time → α} {l : List α}
    (h : MadeOf setup events s make l) :
    (l = [] ∧ (Complete setup events s →
        received F (chunks (run setup events).driver.calls) = [])) ∨
    ∃ k : Fin (received F (chunks (run setup events).driver.calls)).length,
      l.getLast? = some (make ((received F (chunks (run setup events).driver.calls)).get k)
        (setup.now k)) ∧
      (Complete setup events s →
        k.val + 1 = (received F (chunks (run setup events).driver.calls)).length) := by
  obtain ⟨samples, hsublist, rfl, hcomplete⟩ := h
  rcases List.eq_nil_or_concat samples with rfl | ⟨before, ⟨d, k⟩, rfl⟩
  · exact .inl ⟨rfl, fun hdone => List.zipIdx_eq_nil_iff.mp (hcomplete hdone).symm⟩
  · right
    have hmem : (d, k) ∈ (received F (chunks (run setup events).driver.calls)).zipIdx :=
      hsublist.subset (by simp)
    obtain ⟨hk, hd⟩ := List.mem_zipIdx' hmem
    refine ⟨⟨k, hk⟩, ?_, fun hdone => ?_⟩
    · simp [hd]
    · have hlast := congrArg List.getLast? (hcomplete hdone)
      rw [List.concat_eq_append, List.getLast?_concat, List.getLast?_zipIdx, Nat.zero_add] at hlast
      obtain ⟨_, -, hd⟩ := Option.map_eq_some_iff.mp hlast.symm
      have := (Prod.mk.inj hd).2
      show k + 1 = _
      omega

/-! ### The messages that are counted -/

omit [Double F] in
theorem validStatuses_eq (callbacks : List (Callback F)) :
    validStatuses callbacks = (statuses callbacks).filter (·.positionStatusValid) := by
  rw [statuses, List.filter_filterMap]
  refine List.filterMap_congr fun c _ => ?_
  cases c with
  | status message => simp [Callback.status?, Callback.validStatus?, Option.filter_some]
  | _ => rfl

theorem usableFixes_eq (callbacks : List (Callback F)) :
    usableFixes callbacks = (fixes callbacks).filter usable := by
  rw [fixes, List.filter_filterMap]
  refine List.filterMap_congr fun c _ => ?_
  cases c with
  | fix message => simp [Callback.fix?, Callback.usableFix?, Option.filter_some]
  | _ => rfl

/-- A usable fix is made from a sample with a solution and valid coordinates. -/
theorem usable_makeNavSatFix_eq (d : INSData F) (stamp : Time) (frameId : String) :
    usable (makeNavSatFix d stamp frameId) = (d.insStatus != 0 && validCoordinates d) := by
  rw [Bool.eq_iff_iff, usable_makeNavSatFix, status_fix_iff]
  simp

end Counts

section Evidence

variable (setup : Setup Exact) (events : List Event)

/-- The first entry of the covariance says whether an orientation is offered. -/
theorem orientation_available (d : INSData Exact) (stamp : Time) (frameId : String) (use : Bool) :
    Double.le 0.0 ((makeImuMessage d stamp frameId use).orientationCovariance.get 0) = use := by
  have hzero : Double.le 0.0 ((Vector.replicate 9 (0.0 : Exact)).get 0) = true := by
    rw [get_replicate, zero_exact, le_num]
  cases use with
  | false =>
    show Double.le 0.0 (((Vector.replicate 9 (0.0 : Exact)).set 0 (-1.0)).get 0) = false
    rw [get_set, if_pos (Fin.val_zero 9).symm, zero_exact, ofScientific_eq, num_neg,
      ← Bool.not_eq_true, le_num]
    norm_num
  | true =>
    show Double.le 0.0 (Vector.get (if validAttitudeStd d then diagonal (d.rollStd * d.rollStd) _ _
      else Vector.replicate 9 0.0) 0) = true
    by_cases hstd : validAttitudeStd d = true
    · rw [if_pos hstd, diagonal, get_set, if_neg (by decide), get_set, if_neg (by decide), get_set,
        if_pos (Fin.val_zero 9).symm]
      have hroll : finiteNonnegative d.rollStd = true := by
        simp only [validAttitudeStd, Bool.and_eq_true] at hstd
        exact hstd.1.1.2
      obtain ⟨x, hx⟩ : ∃ x, d.rollStd = num x := by
        cases hx : d.rollStd with
        | num x => exact ⟨x, rfl⟩
        | _ => simp [hx, finiteNonnegative, Double.isfinite, isfinite] at hroll
      rw [hx, num_mul, zero_exact, le_num]
      exact mul_self_nonneg x
    · rw [if_neg hstd]
      exact hzero

/-- In every run of the system, what the monitor counts is at most what the samples of the bytes
read give, and the same once every message has arrived: the statuses with a solution, those with an
RTK fix and those of each position type, the statuses with a device time, the usable fixes, and the
IMU messages with an orientation. -/
theorem run_counts (setup : Setup Exact) (events : List Event) :
    let sys := run setup events
    let ds := received Exact (chunks sys.driver.calls)
    let listed (d : INSData Exact) := setup.parameters.rtkFixedTypes.contains
      (typeWord d.positionType)
    (Reaches setup events .status sys.monitor.validSolutionStatusCount
        (ds.countP (·.hasPositionStatus)) ∧
      Reaches setup events .status sys.monitor.rtkFixedCount
        (ds.countP fun d => d.hasPositionStatus && listed d) ∧
      ∀ t, Reaches setup events .status (sys.monitor.positionTypeHistogram t)
        (ds.countP fun d => d.hasPositionStatus && d.positionType == t)) ∧
    Reaches setup events .status sys.monitor.deviceTimeCount (ds.countP (·.hasGpsWeek)) ∧
    Reaches setup events .fix sys.monitor.usableFixCount
      (ds.countP fun d => d.insStatus != 0 && validCoordinates d) ∧
    Reaches setup events .imu sys.monitor.orientationAvailableCount
      (ds.countP fun _ => setup.parameters.useDeviceOrientationInImu) := by
  intro sys ds listed
  have hmonitor : sys.monitor = .run setup.steady setup.initialStaticWindowSec sys.callbacks :=
    (run_consistent setup events).monitor
  have hevidence := run_rtkEvidence setup.steady setup.initialStaticWindowSec sys.callbacks
  have hfigures := run_figures setup.steady setup.initialStaticWindowSec sys.callbacks
  have hposition := run_position ⟨setup.steady, setup.steady_mono⟩ setup.initialStaticWindowSec
    sys.callbacks
  rw [← hmonitor] at hevidence hfigures
  have hflags (d : INSData Exact) (stamp : Time) :=
    makeInsStatus_flags d stamp setup.parameters.gnssFrameId setup.parameters.rtkFixedTypes
  have hvalid (d : INSData Exact) (stamp : Time) := (hflags d stamp).2.2.2.1
  refine ⟨⟨?_, ?_, fun t => ?_⟩, ?_, ?_, ?_⟩
  · have hcount : sys.monitor.validSolutionStatusCount =
        (statuses sys.callbacks).countP (·.positionStatusValid) := by
      rw [List.countP_eq_length_filter, ← validStatuses_eq]
      exact hevidence.count
    rw [hcount]
    exact (madeOf_statuses setup events).countP hvalid
  · have hcount : sys.monitor.rtkFixedCount =
        (statuses sys.callbacks).countP fun m => m.rtkFixed && m.positionStatusValid := by
      rw [← List.countP_filter, ← validStatuses_eq]
      exact hevidence.fixed
    rw [hcount]
    refine (madeOf_statuses setup events).countP fun d stamp => ?_
    rw [makeInsStatus_rtkFixed, hvalid, Bool.and_right_comm, Bool.and_self]
  · have hcount : sys.monitor.positionTypeHistogram t = (statuses sys.callbacks).countP fun m =>
        m.positionType == t && m.positionStatusValid := by
      rw [← List.countP_filter, ← validStatuses_eq]
      exact hevidence.histogram t
    rw [hcount]
    refine (madeOf_statuses setup events).countP fun d stamp => ?_
    rw [hvalid, (makeInsStatus_copies d stamp _ _).1, Bool.and_comm]
  · have hcount : sys.monitor.deviceTimeCount =
        (statuses sys.callbacks).countP (·.gpsWeekValid) := by
      rw [List.countP_eq_length_filter]
      exact hfigures.statuses.deviceTimeCount.trans (List.length_map ..)
    rw [hcount]
    exact (madeOf_statuses setup events).countP fun d stamp => (hflags d stamp).2.2.2.2.2.2
  · have hcount : sys.monitor.usableFixCount = (fixes sys.callbacks).countP usable := by
      rw [List.countP_eq_length_filter, ← usableFixes_eq, hmonitor]
      exact hposition.count
    rw [hcount]
    exact (madeOf_fixes setup events).countP fun d stamp => usable_makeNavSatFix_eq d stamp _
  · have hcount : sys.monitor.orientationAvailableCount = (imus sys.callbacks).countP fun m =>
        Double.le 0.0 (m.orientationCovariance.get 0) := hfigures.imus.orientationAvailableCount
    rw [hcount]
    exact (madeOf_imus setup events).countP fun d stamp => orientation_available d stamp _ _

/-- In every run of the system, the reference position of the monitor is that of one sample of the
bytes read, which has a solution and valid coordinates; and of the first such sample, once every fix
has arrived. -/
theorem run_reference (setup : Setup Exact) (events : List Event) :
    let sys := run setup events
    let ds := received Exact (chunks sys.driver.calls)
    let solved (d : INSData Exact) := d.insStatus != 0 && validCoordinates d
    ∃ d? : Option (INSData Exact), (∀ d ∈ d?, d ∈ ds ∧ solved d = true) ∧
      sys.monitor.referenceLatitude = d?.map (·.latitude) ∧
      sys.monitor.referenceLongitude = d?.map (·.longitude) ∧
      sys.monitor.referenceAltitude = d?.map (·.altitude) ∧
      (Complete setup events .fix → d? = ds.find? solved) := by
  intro sys ds solved
  obtain ⟨d?, hfix, hmem, hcomplete⟩ := (madeOf_fixes setup events).find? (p := usable)
    fun d stamp => usable_makeNavSatFix_eq d stamp _
  have hposition := run_position ⟨setup.steady, setup.steady_mono⟩ setup.initialStaticWindowSec
    sys.callbacks
  have hmonitor : sys.monitor = .run setup.steady setup.initialStaticWindowSec sys.callbacks :=
    (run_consistent setup events).monitor
  have hfirst : (usableFixes sys.callbacks).head? =
      d?.map fun (d, k) => makeNavSatFix d (setup.now k) setup.parameters.gnssFrameId := by
    rw [usableFixes_eq, List.head?_filter]
    exact hfix
  have hfields (d : INSData Exact) (stamp : Time) (frameId : String) :
      (makeNavSatFix d stamp frameId).latitude = d.latitude ∧
      (makeNavSatFix d stamp frameId).longitude = d.longitude ∧
      (makeNavSatFix d stamp frameId).altitude = d.altitude := by
    unfold makeNavSatFix
    dsimp only
    split <;> exact ⟨rfl, rfl, rfl⟩
  have hfield {select : NavSatFix Exact → Exact} {select' : INSData Exact → Exact}
      (h : ∀ d stamp, select (makeNavSatFix d stamp setup.parameters.gnssFrameId) = select' d) :
      (usableFixes sys.callbacks).head?.map select = (d?.map Prod.fst).map select' := by
    rw [hfirst, Option.map_map, Option.map_map]
    exact congrArg (Option.map · d?) (funext fun x => h x.1 _)
  refine ⟨d?.map Prod.fst, ?_, ?_, ?_, ?_, hcomplete⟩
  · intro d hd
    obtain ⟨x, hx, rfl⟩ := Option.map_eq_some_iff.mp hd
    exact hmem x hx
  · rw [hmonitor, ← hfield fun d stamp => (hfields d stamp _).1]
    exact hposition.latitude
  · rw [hmonitor, ← hfield fun d stamp => (hfields d stamp _).2.1]
    exact hposition.longitude
  · rw [hmonitor, ← hfield fun d stamp => (hfields d stamp _).2.2]
    exact hposition.altitude

end Evidence

/-! ### The verdict -/

section Verdict

variable {F : Type} [Double F]

/-- The flag of an RTK fix is that of the last frame with a position type. -/
theorem rtkFixed_received (chunks : List (List UInt8)) (k : Fin (received F chunks).length)
    (stamp : Time) (frameId : String) (types : List Int64) :
    (makeInsStatus ((received F chunks).get k) stamp frameId types).rtkFixed = true ↔
      ∃ f, latest (fun f => byte f 56 == 32) (accepted F chunks k) = some f ∧
        ∃ t ∈ types, t.toInt = (i16 f 46).toInt % 256 := by
  obtain ⟨hfields, hflag⟩ := (Group.positionStatus (F := F)).initial_latest (accepted F chunks k)
  rw [← received_get chunks k] at hfields hflag
  have hflag' : ((received F chunks).get k).hasPositionStatus =
      (latest (fun f => byte f 56 == 32) (accepted F chunks k)).isSome := hflag
  rw [makeInsStatus_rtkFixed, hflag']
  cases hlast : latest (fun f => byte f 56 == 32) (accepted F chunks k) with
  | none => simp
  | some f =>
    have hlast' : latest (Group.positionStatus (F := F)).carries (accepted F chunks k) = some f :=
      hlast
    rw [hlast'] at hfields
    rw [Option.isSome_some, Bool.true_and, show ((received F chunks).get k).positionType =
      (i16 f 46).toUInt16.toUInt8 from (Prod.mk.inj hfields).1, contains_typeWord]
    simp

/-- What the indicator publishes after a status. -/
theorem report_of_some {node : RTKIndicatorNode F} {message : INSStatus F}
    (h : node.lastStatus = some message) (now : Int) :
    node.report now ≠ .NO_DATA ∧
      ((node.report now).live = true → (node.report now = .FIXED ↔ message.rtkFixed = true)) := by
  rw [RTKIndicatorNode.report, h]
  dsimp only
  split
  · exact ⟨by decide, fun hlive => absurd hlive (by decide)⟩
  · cases message.rtkFixed <;> exact ⟨by decide, fun _ => by decide⟩

/-- In every run of the system, what the indicator publishes rests on one sample of the bytes read:
its verdict is a fix exactly when the last frame with a position type up to that sample carries one
whose low byte is listed.  Without any sample there is no verdict, and once every status has arrived
the sample is the last one. -/
theorem run_verdict (setup : Setup F) (events : List Event) :
    let sys := run setup events
    let cs := chunks sys.driver.calls
    let verdict := sys.indicator.node.report sys.indicator.clock
    (verdict.live = true → ∃ k : Fin (received F cs).length,
      (verdict = .FIXED ↔ ∃ f, latest (fun f => byte f 56 == 32) (accepted F cs k) = some f ∧
        ∃ t ∈ setup.parameters.rtkFixedTypes, t.toInt = (i16 f 46).toInt % 256) ∧
      (Complete setup events .indicator → k.val + 1 = (received F cs).length)) ∧
    (Complete setup events .indicator → (verdict = .NO_DATA ↔ received F cs = [])) := by
  intro sys cs verdict
  have hmade : MadeOf setup events .indicator
      (fun d stamp => makeInsStatus d stamp setup.parameters.gnssFrameId
        setup.parameters.rtkFixedTypes)
      ((sys.links .indicator).received.filterMap Message.status?) :=
    (received_madeOf setup events .indicator).filterMap setup fun _ _ => rfl
  have hlast := (run_consistent setup events).indicator
  rcases hmade.getLast? with ⟨hnone, hcomplete⟩ | ⟨k, hsome, hcomplete⟩
  · rw [hnone] at hlast
    have hverdict : verdict = .NO_DATA := by
      show RTKIndicatorNode.report _ _ = _
      rw [RTKIndicatorNode.report, show sys.indicator.node.lastStatus = none from hlast]
    rw [hverdict]
    exact ⟨by simp [Indicator.live], fun hdone => iff_of_true rfl (hcomplete hdone)⟩
  · obtain ⟨hdata, hfixed⟩ := report_of_some (hlast.trans hsome) sys.indicator.clock
    refine ⟨fun hlive => ⟨k, ?_, hcomplete⟩, fun _ => iff_of_false hdata ?_⟩
    · rw [← rtkFixed_received cs k (setup.now k) setup.parameters.gnssFrameId]
      exact hfixed hlive
    · exact List.ne_nil_of_length_pos (Nat.zero_lt_of_lt k.isLt)

end Verdict

end System

end AsensingDriver
