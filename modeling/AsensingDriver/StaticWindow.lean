import AsensingDriver.Evidence
import Mathlib.Order.Hom.Basic

/-! The monitor's evidence on the position.  The first usable fix becomes the reference, and the
offsets of the usable fixes from it fill the static statistics until the static window has passed.
`static_window_evidence` says what the monitor holds after any sequence of calls when the steady
clock does not run backwards. -/

namespace AsensingDriver

open Exact

namespace R3HardwareMonitor

variable {F : Type} [Double F]

/-! ### The evidence -/

/-- Statistics of East, of North and of the altitude. -/
structure Statistics (F : Type) where
  east : R3RunningStats F
  north : R3RunningStats F
  altitude : R3RunningStats F

def Statistics.add (s : Statistics F) (en : F × F) (altitude : F) : Statistics F :=
  ⟨s.east.add en.1, s.north.add en.2, s.altitude.add altitude⟩

/-- What the monitor keeps about the position. -/
structure PositionEvidence (F : Type) where
  initialStaticWindowSec : F
  usableFixCount : Nat
  referenceLatitude : Option F
  referenceLongitude : Option F
  referenceAltitude : Option F
  staticWindowStart : Option Int
  staticWindowComplete : Bool
  trajectory : Statistics F
  scatter : Statistics F
  milestones : List (String × String)

/-- The events on the position, with their kinds and details. -/
def milestones (events : List (Event F)) : List (String × String) :=
  (events.filter fun e => e.kind == "gnss" || e.kind == "static_window").map
    fun e => (e.kind, e.detail)

def position (m : R3HardwareMonitor F) : PositionEvidence F where
  initialStaticWindowSec := m.initialStaticWindowSec
  usableFixCount := m.usableFixCount
  referenceLatitude := m.referenceLatitude
  referenceLongitude := m.referenceLongitude
  referenceAltitude := m.referenceAltitude
  staticWindowStart := m.staticWindowStart
  staticWindowComplete := m.staticWindowComplete
  trajectory := ⟨m.eastOffsetM, m.northOffsetM, m.altitudeM⟩
  scatter := ⟨m.staticEastM, m.staticNorthM, m.staticAltitudeM⟩
  milestones := milestones m.events

namespace PositionEvidence

variable (e : PositionEvidence F) (message : NavSatFix F)

/-- One more event. -/
def log (kind detail : String) : PositionEvidence F :=
  { e with
    milestones := e.milestones ++
      if kind == "gnss" || kind == "static_window" then [(kind, detail)] else [] }

/-- The first usable fix becomes the reference, when the clock reads `start`. -/
def setReference (start : Int) : PositionEvidence F :=
  if e.referenceLatitude.isNone then
    { e with
      referenceLatitude := some message.latitude
      referenceLongitude := some message.longitude
      referenceAltitude := some message.altitude
      staticWindowStart := some start }.log "gnss" "first_usable_fix"
  else e

/-- A usable fix with the offset `en`, when the clock reads `now`. -/
def observeStatic (en : F × F) (now : Int) : PositionEvidence F :=
  match e.staticWindowStart with
  | none => e
  | some start =>
    if Double.le (seconds (now - start)) e.initialStaticWindowSec then
      { e with scatter := e.scatter.add en (message.altitude - e.referenceAltitude.getD 0.0) }
    else if !e.staticWindowComplete then
      { e with staticWindowComplete := true }.log "static_window" "complete"
    else e

/-- A usable fix, for which the clock reads `start` and then `now`. -/
def observe (start now : Int) : PositionEvidence F :=
  let e := { e with usableFixCount := e.usableFixCount + 1 }.setReference message start
  let en := approxEnuOffsetM message.latitude message.longitude
    (e.referenceLatitude.getD 0.0) (e.referenceLongitude.getD 0.0)
  { e with trajectory := e.trajectory.add en message.altitude }.observeStatic message en now

end PositionEvidence

/-! ### One call -/

section Calls

variable (steady : Nat → Int) (m : R3HardwareMonitor F)

theorem addEvent_position (kind detail : String) :
    (m.addEvent steady kind detail).position = m.position.log kind detail := by
  have hmilestones : milestones (m.addEvent steady kind detail).events = milestones m.events ++
      if kind == "gnss" || kind == "static_window" then [(kind, detail)] else [] := by
    simp only [addEvent, milestones, List.filter_append, List.map_append, List.filter_cons,
      List.filter_nil]
    congr 1
    split <;> rfl
  rw [position, hmilestones]
  rfl

omit [Double F] in
/-- Events of other kinds are no evidence. -/
theorem PositionEvidence.log_other (e : PositionEvidence F) {kind : String} (detail : String)
    (hgnss : kind ≠ "gnss") (hstatic : kind ≠ "static_window") : e.log kind detail = e := by
  simp [PositionEvidence.log, hgnss, hstatic]

theorem transition_position {α : Type} [DecidableEq α] {kind : String} (last : Option α)
    (value : α) (detail : α → String) (hgnss : kind ≠ "gnss") (hstatic : kind ≠ "static_window") :
    (m.transition steady kind last value detail).position = m.position := by
  unfold transition
  split
  · split
    · rw [addEvent_position, PositionEvidence.log_other _ _ hgnss hstatic]
    · rfl
  · rfl

theorem observeSolution_position (message : INSStatus F) :
    (m.observeSolution steady message).position = m.position := by
  unfold observeSolution
  split
  · rfl
  · exact (transition_position _ _ _ _ _ (by decide) (by decide)).trans
      (transition_position _ _ _ _ _ (by decide) (by decide))

theorem onStatus_position (message : INSStatus F) :
    (m.onStatus steady message).position = m.position := by
  have hstd (m : R3HardwareMonitor F) : (m.observeStd message).position = m.position := by
    unfold observeStd
    split <;> rfl
  have htime (m : R3HardwareMonitor F) : (m.observeDeviceTime message).position = m.position := by
    unfold observeDeviceTime
    split <;> rfl
  rw [onStatus, htime, hstd, observeSolution_position]
  rfl

theorem setReference_position (message : NavSatFix F) :
    (m.setReference steady message).position =
      m.position.setReference message (steady m.readings) := by
  unfold setReference PositionEvidence.setReference
  rw [show m.position.referenceLatitude = m.referenceLatitude from rfl]
  split
  · rw [addEvent_position]
    rfl
  · rfl

theorem observeStatic_position (message : NavSatFix F) (en : F × F) :
    (m.observeStatic steady message en).position =
      m.position.observeStatic message en (steady m.readings) := by
  rcases Option.eq_none_or_eq_some m.staticWindowStart with h | ⟨start, h⟩
  · simp [observeStatic, PositionEvidence.observeStatic, position, h]
  · by_cases hle : Double.le (seconds (steady m.readings - start)) m.initialStaticWindowSec = true
    · simp [observeStatic, PositionEvidence.observeStatic, position, Statistics.add, h, hle]
    · cases hcomplete : m.staticWindowComplete with
      | false =>
        have hevent : m.observeStatic steady message en = addEvent steady
            { m with readings := m.readings + 1, staticWindowComplete := true }
            "static_window" "complete" := by
          simp [observeStatic, h, hle, hcomplete]
        rw [hevent, addEvent_position]
        simp [PositionEvidence.observeStatic, position, h, hle, hcomplete]
      | true =>
        simp [observeStatic, PositionEvidence.observeStatic, position, h, hle, hcomplete]

theorem transition_readings {α : Type} [DecidableEq α] (kind : String) (last : Option α)
    (value : α) (detail : α → String) :
    m.readings ≤ (m.transition steady kind last value detail).readings := by
  unfold transition
  split
  · split
    · exact Nat.le_succ _
    · exact Nat.le_refl _
  · exact Nat.le_refl _

theorem onStatus_readings (message : INSStatus F) :
    m.readings ≤ (m.onStatus steady message).readings := by
  have hstd (m : R3HardwareMonitor F) : (m.observeStd message).readings = m.readings := by
    unfold observeStd
    split <;> rfl
  have htime (m : R3HardwareMonitor F) : (m.observeDeviceTime message).readings = m.readings := by
    unfold observeDeviceTime
    split <;> rfl
  have hsolution (m : R3HardwareMonitor F) :
      m.readings ≤ (m.observeSolution steady message).readings := by
    unfold observeSolution
    split
    · exact Nat.le_refl _
    · dsimp only
      refine Nat.le_trans ?_ (transition_readings (α := UInt8) ..)
      dsimp only
      refine Nat.le_trans ?_ (transition_readings (α := Bool) ..)
      exact Nat.le_refl _
  rw [onStatus, htime, hstd]
  refine Nat.le_trans ?_ (hsolution _)
  exact Nat.le_succ _

theorem setReference_readings (message : NavSatFix F) :
    m.readings ≤ (m.setReference steady message).readings := by
  unfold setReference
  split
  · exact Nat.le_add_right _ 2
  · exact Nat.le_refl _

theorem observeStatic_readings (message : NavSatFix F) (en : F × F) :
    m.readings ≤ (m.observeStatic steady message en).readings := by
  unfold observeStatic
  split
  · exact Nat.le_refl _
  · dsimp only
    split
    · exact Nat.le_succ _
    · split
      · exact Nat.le_add_right _ 2
      · exact Nat.le_succ _

/-- A usable fix is observed at two readings of the clock that the call makes. -/
theorem onFix_position {message : NavSatFix F} (h : usable message = true) :
    ∃ i j, m.readings ≤ j ∧ j ≤ (m.onFix steady message).readings ∧
      (m.onFix steady message).position = m.position.observe message (steady i) (steady j) := by
  obtain ⟨seen, hseen⟩ : ∃ seen : R3HardwareMonitor F, seen =
      { m with
        fixTracker := m.fixTracker.observe (steady m.readings) message.header.stamp
        readings := m.readings + 1
        usableFixCount := m.usableFixCount + 1 } := ⟨_, rfl⟩
  have hfix : m.onFix steady message =
      let referenced := seen.setReference steady message
      let en := approxEnuOffsetM message.latitude message.longitude
        (referenced.referenceLatitude.getD 0.0) (referenced.referenceLongitude.getD 0.0)
      observeStatic steady
        { referenced with
          eastOffsetM := referenced.eastOffsetM.add en.1
          northOffsetM := referenced.northOffsetM.add en.2
          altitudeM := referenced.altitudeM.add message.altitude } message en := by
    rw [hseen]
    simp only [onFix, h, Bool.not_true, Bool.false_eq_true, if_false]
  have hreadings := setReference_readings steady seen message
  have hposition := setReference_position steady seen message
  have hlater : m.readings ≤ seen.readings := by
    rw [hseen]
    exact Nat.le_succ _
  have hcount : seen.position = { m.position with usableFixCount := m.usableFixCount + 1 } := by
    rw [hseen]
    rfl
  rw [hfix]
  generalize seen.setReference steady message = referenced at hreadings hposition ⊢
  dsimp only
  refine ⟨seen.readings, referenced.readings, Nat.le_trans hlater hreadings, ?_, ?_⟩
  · refine Nat.le_trans ?_ (observeStatic_readings ..)
    exact Nat.le_refl _
  rw [observeStatic_position, PositionEvidence.observe]
  rw [hcount] at hposition
  rw [show m.position.usableFixCount = m.usableFixCount from rfl, ← hposition]
  rfl

/-- A fix of a call, if it is usable. -/
def Callback.usableFix? : Callback F → Option (NavSatFix F)
  | .fix message => if usable message then some message else none
  | .status _ | .imu _ | .velocity _ | .marker _ | .snapshot => none

/-- Of all calls, only a usable fix is evidence on the position. -/
theorem handle_position (c : Callback F) :
    m.readings ≤ (m.handle steady c).readings ∧
    match c.usableFix? with
    | some message => ∃ i j, m.readings ≤ j ∧ j ≤ (m.handle steady c).readings ∧
        (m.handle steady c).position = m.position.observe message (steady i) (steady j)
    | none => (m.handle steady c).position = m.position := by
  cases c with
  | fix message =>
    rw [Callback.usableFix?]
    cases h : usable message with
    | false =>
      have hfix : m.onFix steady message = { m with
          fixTracker := m.fixTracker.observe (steady m.readings) message.header.stamp
          readings := m.readings + 1 } := by
        simp only [onFix, h, Bool.not_false, if_true]
      rw [handle, hfix]
      exact ⟨Nat.le_succ _, rfl⟩
    | true =>
      obtain ⟨i, j, hj, hle, hposition⟩ := onFix_position steady m h
      exact ⟨Nat.le_trans hj hle, i, j, hj, hle, hposition⟩
  | status message => exact ⟨onStatus_readings steady m message, onStatus_position steady m message⟩
  | imu message => exact ⟨Nat.le_succ _, rfl⟩
  | velocity message => exact ⟨Nat.le_succ _, rfl⟩
  | marker data =>
    refine ⟨Nat.le_succ _, ?_⟩
    show (m.addEvent steady "marker" data).position = m.position
    rw [addEvent_position, PositionEvidence.log_other _ _ (by decide) (by decide)]
  | snapshot => exact ⟨Nat.le_add_right _ 2, rfl⟩

end Calls

/-! ### Sequences of calls -/

section Offsets

/-- The statistics of a list of values. -/
def statsOf (values : List F) : R3RunningStats F := values.foldl R3RunningStats.add .empty

def Statistics.of (l : List ((F × F) × F)) : Statistics F :=
  ⟨statsOf (l.map (·.1.1)), statsOf (l.map (·.1.2)), statsOf (l.map (·.2))⟩

theorem Statistics.of_concat (l : List ((F × F) × F)) (en : F × F) (altitude : F) :
    Statistics.of (l ++ [(en, altitude)]) = (Statistics.of l).add en altitude := by
  simp [Statistics.of, Statistics.add, statsOf]

/-- East and North of a fix from the fix `r`. -/
def offset (r x : NavSatFix F) : F × F :=
  approxEnuOffsetM x.latitude x.longitude r.latitude r.longitude

/-- The offset of each fix from the first one, with its altitude. -/
def track (U : List (NavSatFix F)) : List ((F × F) × F) :=
  U.map fun x => (offset (U.head?.getD x) x, x.altitude)

/-- The offset of each fix from the first one, with the difference of the altitudes. -/
def offsets (U : List (NavSatFix F)) : List ((F × F) × F) :=
  U.map fun x => (offset (U.head?.getD x) x, x.altitude - (U.head?.getD x).altitude)

omit [Double F] in
theorem head?_concat_getD (U : List (NavSatFix F)) (x y : NavSatFix F) :
    (U ++ [x]).head?.getD y = U.head?.getD x := by
  cases U <;> rfl

theorem track_concat (U : List (NavSatFix F)) (x : NavSatFix F) :
    track (U ++ [x]) = track U ++ [(offset (U.head?.getD x) x, x.altitude)] := by
  simp only [track, head?_concat_getD, List.map_append, List.map_singleton]
  cases U <;> rfl

theorem offsets_concat (U : List (NavSatFix F)) (x : NavSatFix F) :
    offsets (U ++ [x]) = offsets U ++
      [(offset (U.head?.getD x) x, x.altitude - (U.head?.getD x).altitude)] := by
  simp only [offsets, head?_concat_getD, List.map_append, List.map_singleton]
  cases U <;> rfl

end Offsets

/-- The reference of `e` and its statistics of the trajectory are those of the usable fixes `U`. -/
structure PositionEvidence.Referenced (window : Exact) (U : List (NavSatFix Exact))
    (e : PositionEvidence Exact) : Prop where
  limit : e.initialStaticWindowSec = window
  count : e.usableFixCount = U.length
  latitude : e.referenceLatitude = U.head?.map (·.latitude)
  longitude : e.referenceLongitude = U.head?.map (·.longitude)
  altitude : e.referenceAltitude = U.head?.map (·.altitude)
  start : e.staticWindowStart.isSome = U.head?.isSome
  trajectory : e.trajectory = .of (track U)

/-- The evidence `e`, after `n` readings of the clock, is that of the usable fixes `U`. -/
structure PositionEvidence.Of (steady : Nat → Int) (window : Exact) (n : Nat)
    (U : List (NavSatFix Exact)) (e : PositionEvidence Exact) : Prop extends
    e.Referenced window U where
  scatter : ∃ k ≤ U.length, (e.staticWindowComplete = false → k = U.length) ∧
    e.scatter = .of ((offsets U).take k)
  closed : e.staticWindowComplete = true → ∃ start i, e.staticWindowStart = some start ∧ i ≤ n ∧
    Double.le (seconds (steady i - start)) window = false
  milestones : e.milestones = (if U = [] then [] else [("gnss", "first_usable_fix")]) ++
    if e.staticWindowComplete then [("static_window", "complete")] else []

section Steps

variable {steady : ℕ →o ℤ} {window : Exact} {n : ℕ} {U : List (NavSatFix Exact)}
  {e : PositionEvidence Exact}

/-- The evidence with one more usable fix `x`, apart from the static window: `r` is the reference,
and the window started at `s`. -/
def PositionEvidence.seen (e : PositionEvidence F) (r x : NavSatFix F) (s : Int) :
    PositionEvidence F :=
  { e with
    usableFixCount := e.usableFixCount + 1
    referenceLatitude := some r.latitude
    referenceLongitude := some r.longitude
    referenceAltitude := some r.altitude
    staticWindowStart := some s
    trajectory := e.trajectory.add (offset r x) x.altitude
    milestones := ("gnss", "first_usable_fix") ::
      if e.staticWindowComplete then [("static_window", "complete")] else [] }

/-- With a usable fix the reference is the first one, and the static window has started. -/
theorem PositionEvidence.Of.setReference (h : e.Of steady window n U) (x : NavSatFix Exact)
    (start : Int) :
    ∃ s, (∀ s', e.staticWindowStart = some s' → s' = s) ∧
      { e with usableFixCount := e.usableFixCount + 1 }.setReference x start =
        { e.seen (U.head?.getD x) x s with trajectory := e.trajectory } := by
  have hstart := h.start
  have hclosed := h.closed
  unfold PositionEvidence.setReference
  cases U with
  | nil =>
    have hnone : e.staticWindowStart = none := by simpa using hstart
    have hopen : e.staticWindowComplete = false := by
      rw [Bool.eq_false_iff]
      intro hcomplete
      obtain ⟨s, -, hs, -⟩ := hclosed hcomplete
      rw [hnone] at hs
      cases hs
    refine ⟨start, by simp [hnone], ?_⟩
    rw [if_pos (by simp [h.latitude])]
    simp [PositionEvidence.log, PositionEvidence.seen, h.milestones, hopen]
  | cons r U =>
    obtain ⟨s, hs⟩ : ∃ s, e.staticWindowStart = some s := by
      simpa [Option.isSome_iff_exists] using hstart
    refine ⟨s, by simp [hs], ?_⟩
    rw [if_neg (by simp [h.latitude])]
    simp [PositionEvidence.seen, h.latitude, h.longitude, h.altitude, h.milestones, hs]

/-- What one more usable fix does to the static window that started at `s`. -/
theorem PositionEvidence.Of.observe_eq (h : e.Of steady window n U) (x : NavSatFix Exact)
    (start : Int) :
    ∃ s, (∀ s', e.staticWindowStart = some s' → s' = s) ∧
      ∀ now, e.observe x start now =
        let r := U.head?.getD x
        if Double.le (seconds (now - s)) window then
          { e.seen r x s with scatter := e.scatter.add (offset r x) (x.altitude - r.altitude) }
        else if e.staticWindowComplete then e.seen r x s
        else { e.seen r x s with
          staticWindowComplete := true
          milestones := [("gnss", "first_usable_fix"), ("static_window", "complete")] } := by
  obtain ⟨s, hs, hreference⟩ := h.setReference x start
  refine ⟨s, hs, ?_⟩
  intro now
  rw [← h.limit]
  unfold PositionEvidence.observe
  rw [hreference]
  unfold PositionEvidence.observeStatic
  dsimp only [PositionEvidence.seen]
  split
  · rfl
  · cases hcomplete : e.staticWindowComplete with
    | true => rfl
    | false => rfl

theorem PositionEvidence.Of.referenced (h : e.Of steady window n U) (x : NavSatFix Exact)
    (s : Int) : (e.seen (U.head?.getD x) x s).Referenced window (U ++ [x]) := by
  constructor
  case limit => exact h.limit
  case count => simp [PositionEvidence.seen, h.count]
  case trajectory => rw [PositionEvidence.seen, h.trajectory, track_concat, Statistics.of_concat]
  all_goals cases U <;> rfl

/-- One more usable fix keeps the evidence up, and adds no static sample when the window is
complete. -/
theorem PositionEvidence.Of.observe (h : e.Of steady window n U) (x : NavSatFix Exact)
    (start : Int) {j n' : ℕ} (hj : n ≤ j) (hn : j ≤ n') :
    (e.observe x start (steady j)).Of steady window n' (U ++ [x]) ∧
    (e.staticWindowComplete = true → (e.observe x start (steady j)).scatter = e.scatter ∧
      (e.observe x start (steady j)).staticWindowComplete = true) := by
  obtain ⟨s, hs, hobserve⟩ := h.observe_eq x start
  obtain ⟨k, hk, hopen, hscatter⟩ := h.scatter
  have hreferenced := h.referenced x s
  have hlength : (offsets U).length = U.length := List.length_map _
  have hprefix : (offsets (U ++ [x])).take k = (offsets U).take k := by
    rw [offsets_concat, List.take_append_of_le_length (hlength.symm ▸ hk)]
  have hlonger : k ≤ (U ++ [x]).length := hk.trans (by simp)
  -- What was seen to be past the window is so for every later reading.
  have hpast (hcomplete : e.staticWindowComplete = true) :
      Double.le (seconds (steady j - s)) window = false := by
    obtain ⟨s', i, hs', hi, hle⟩ := h.closed hcomplete
    obtain rfl := hs s' hs'
    exact le_seconds_mono (Int.sub_le_sub_right (steady.monotone (hi.trans hj)) _) hle
  rw [hobserve]
  dsimp only
  cases hcomplete : e.staticWindowComplete with
  | true =>
    rw [hpast hcomplete, if_neg Bool.false_ne_true, if_pos rfl]
    refine ⟨⟨hreferenced, ?_, ?_, ?_⟩, fun _ => ⟨rfl, hcomplete⟩⟩
    · refine ⟨k, hlonger, ?_, hprefix ▸ hscatter⟩
      intro hincomplete
      cases hcomplete.symm.trans hincomplete
    · intro _
      exact ⟨s, j, rfl, hn, hpast hcomplete⟩
    · simp [PositionEvidence.seen, hcomplete]
  | false =>
    cases hle : Double.le (seconds (steady j - s)) window with
    | true =>
      rw [if_pos rfl]
      refine ⟨⟨{ hreferenced with }, ?_, ?_, ?_⟩, ?_⟩
      · refine ⟨(U ++ [x]).length, le_rfl, fun _ => rfl, ?_⟩
        rw [hopen hcomplete, ← hlength, List.take_length] at hscatter
        rw [offsets_concat, List.take_of_length_le (by simp [hlength]), Statistics.of_concat,
          ← hscatter]
      · intro hc
        cases hcomplete.symm.trans hc
      · simp [PositionEvidence.seen, hcomplete]
      · intro hc
        cases hc
    | false =>
      rw [if_neg Bool.false_ne_true, if_neg Bool.false_ne_true]
      refine ⟨⟨{ hreferenced with }, ?_, ?_, ?_⟩, ?_⟩
      · refine ⟨k, hlonger, ?_, hprefix ▸ hscatter⟩
        intro hc
        cases hc
      · intro _
        exact ⟨s, j, rfl, hn, hle⟩
      · simp
      · intro hc
        cases hc

theorem PositionEvidence.Of.mono (h : e.Of steady window n U) {n' : ℕ} (hn : n ≤ n') :
    e.Of steady window n' U := by
  refine { h with closed := ?_ }
  intro hcomplete
  obtain ⟨s, i, hs, hi, hle⟩ := h.closed hcomplete
  exact ⟨s, i, hs, hi.trans hn, hle⟩

end Steps

/-- The usable fixes among the messages of a sequence of calls. -/
def usableFixes (callbacks : List (Callback F)) : List (NavSatFix F) :=
  callbacks.filterMap Callback.usableFix?

theorem usable_of_mem {callbacks : List (Callback F)} {x : NavSatFix F}
    (h : x ∈ usableFixes callbacks) : usable x = true := by
  obtain ⟨c, -, hc⟩ := List.mem_filterMap.mp h
  cases c with
  | fix message =>
    simp only [Callback.usableFix?, Option.ite_none_right_eq_some, Option.some.injEq] at hc
    exact hc.2 ▸ hc.1
  | status | imu | velocity | marker | snapshot => cases hc

section Runs

variable (steady : ℕ →o ℤ) (window : Exact) (callbacks : List (Callback Exact))

theorem run_position : (run steady window callbacks).position.Of steady window
    (run steady window callbacks).readings (usableFixes callbacks) := by
  induction callbacks using List.reverseRecOn with
  | nil =>
    refine ⟨⟨rfl, rfl, rfl, rfl, rfl, rfl, rfl⟩, ⟨0, le_rfl, fun _ => rfl, rfl⟩, ?_, rfl⟩
    intro hcomplete
    cases hcomplete
  | append_singleton callbacks c ih =>
    obtain ⟨hreadings, hposition⟩ := handle_position steady (run steady window callbacks) c
    rw [run_concat, usableFixes, List.filterMap_append]
    cases hc : c.usableFix? with
    | none =>
      rw [hc] at hposition
      have hstays := ih.mono hreadings
      rw [hposition]
      simpa [hc, usableFixes] using hstays
    | some x =>
      rw [hc] at hposition
      obtain ⟨i, j, hj, hn, heq⟩ := hposition
      rw [heq]
      simpa [hc, usableFixes] using (ih.observe x (steady i) hj hn).1

/-- Once the window is complete, no call changes the static statistics. -/
theorem run_scatter_complete (h : (run steady window callbacks).staticWindowComplete = true)
    (more : List (Callback Exact)) :
    (run steady window (callbacks ++ more)).position.scatter =
      (run steady window callbacks).position.scatter ∧
    (run steady window (callbacks ++ more)).staticWindowComplete = true := by
  induction more using List.reverseRecOn with
  | nil => rw [List.append_nil]; exact ⟨rfl, h⟩
  | append_singleton more c ih =>
    have hof := run_position steady window (callbacks ++ more)
    obtain ⟨-, hposition⟩ := handle_position steady (run steady window (callbacks ++ more)) c
    rw [← List.append_assoc, run_concat]
    cases hc : c.usableFix? with
    | none =>
      rw [hc] at hposition
      have hcomplete := congrArg PositionEvidence.staticWindowComplete hposition
      exact ⟨(congrArg PositionEvidence.scatter hposition).trans ih.1, hcomplete.trans ih.2⟩
    | some x =>
      rw [hc] at hposition
      obtain ⟨i, j, hj, hn, heq⟩ := hposition
      obtain ⟨hscatter, hcomplete⟩ := (hof.observe x (steady i) hj hn).2 ih.2
      rw [heq]
      refine ⟨hscatter.trans ih.1, ?_⟩
      exact (congrArg PositionEvidence.staticWindowComplete heq).trans hcomplete

end Runs

/-! ### Counts -/

theorem count_statsOf {values : List F} (h : ∀ v ∈ values, Double.isfinite v = true) :
    (statsOf values).count = values.length := by
  induction values using List.reverseRecOn with
  | nil => rfl
  | append_singleton values v ih =>
    have hv : Double.isfinite v = true := h v (by simp)
    have hall := ih fun w hw => h w (by simp [hw])
    rw [statsOf, List.foldl_append, List.length_append, ← hall]
    show (R3RunningStats.add _ v).count = _
    rw [count_add, hv]
    rfl

/-- The coordinates of a usable fix are numbers. -/
theorem usable_num {x : NavSatFix Exact} (h : usable x = true) :
    ∃ φ l a : ℝ, x.latitude = .num φ ∧ x.longitude = .num l ∧ x.altitude = .num a := by
  have finite {v : Exact} (hv : Double.isfinite v = true) : ∃ y, v = .num y := by
    cases v with
    | num y => exact ⟨y, rfl⟩
    | inf s => cases hv
    | nan => cases hv
  simp only [usable, Bool.and_eq_true] at h
  obtain ⟨⟨⟨⟨⟨⟨⟨-, h1⟩, h2⟩, h3⟩, -⟩, -⟩, -⟩, -⟩ := h
  obtain ⟨φ, hφ⟩ := finite h1
  obtain ⟨l, hl⟩ := finite h2
  obtain ⟨a, ha⟩ := finite h3
  exact ⟨φ, l, a, hφ, hl, ha⟩

/-- The offset of a usable fix from another one is finite. -/
theorem offset_finite {r x : NavSatFix Exact} (hr : usable r = true) (hx : usable x = true) :
    Double.isfinite (offset r x).1 = true ∧ Double.isfinite (offset r x).2 = true ∧
      Double.isfinite x.altitude = true ∧ Double.isfinite (x.altitude - r.altitude) = true := by
  obtain ⟨φ, l, a, h1, h2, h3⟩ := usable_num hr
  obtain ⟨φ', l', a', h1', h2', h3'⟩ := usable_num hx
  rw [offset, h1, h2, h3, h1', h2', h3', approxEnuOffsetM_exact, num_sub]
  exact ⟨rfl, rfl, rfl, rfl⟩

theorem offset_self {r : NavSatFix Exact} (hr : usable r = true) :
    offset r r = (num 0, num 0) := by
  obtain ⟨φ, l, a, h1, h2, -⟩ := usable_num hr
  rw [offset, h1, h2, approxEnuOffsetM_self]

/-- Finite samples are all counted. -/
theorem Statistics.count_of {l : List ((F × F) × F)}
    (h : ∀ o ∈ l, Double.isfinite o.1.1 = true ∧ Double.isfinite o.1.2 = true ∧
      Double.isfinite o.2 = true) :
    (Statistics.of l).east.count = l.length ∧ (Statistics.of l).north.count = l.length ∧
      (Statistics.of l).altitude.count = l.length := by
  refine ⟨?_, ?_, ?_⟩
  all_goals
    refine (count_statsOf ?_).trans (List.length_map _)
    intro v hv
    obtain ⟨o, ho, rfl⟩ := List.mem_map.mp hv
  · exact (h o ho).1
  · exact (h o ho).2.1
  · exact (h o ho).2.2

section Finite

variable {U : List (NavSatFix Exact)} (h : ∀ x ∈ U, usable x = true)
include h

/-- The first of the usable fixes is usable. -/
theorem usable_head {x : NavSatFix Exact} (hx : x ∈ U) : usable (U.head?.getD x) = true := by
  cases U with
  | nil => simp at hx
  | cons r U => exact h r (by simp)

theorem count_track :
    (Statistics.of (track U)).east.count = U.length ∧
    (Statistics.of (track U)).north.count = U.length ∧
    (Statistics.of (track U)).altitude.count = U.length := by
  have hlength : (track U).length = U.length := List.length_map _
  rw [← hlength]
  apply Statistics.count_of
  intro o ho
  obtain ⟨x, hx, rfl⟩ := List.mem_map.mp ho
  obtain ⟨heast, hnorth, haltitude, -⟩ := offset_finite (usable_head h hx) (h x hx)
  exact ⟨heast, hnorth, haltitude⟩

theorem count_take_offsets {k : ℕ} (hk : k ≤ U.length) :
    (Statistics.of ((offsets U).take k)).east.count = k ∧
    (Statistics.of ((offsets U).take k)).north.count = k ∧
    (Statistics.of ((offsets U).take k)).altitude.count = k := by
  have hlength : ((offsets U).take k).length = k := by
    rw [List.length_take, offsets, List.length_map, Nat.min_eq_left hk]
  have hcount := Statistics.count_of (l := (offsets U).take k) ?_
  · rwa [hlength] at hcount
  intro o ho
  obtain ⟨x, hx, rfl⟩ := List.mem_map.mp (List.mem_of_mem_take ho)
  obtain ⟨heast, hnorth, -, hdelta⟩ := offset_finite (usable_head h hx) (h x hx)
  exact ⟨heast, hnorth, hdelta⟩

end Finite

/-- The first usable fix is logged before the end of the static window, and each of them once. -/
theorem PositionEvidence.Of.milestones_cases {steady : ℕ → Int} {window : Exact} {n : ℕ}
    {U : List (NavSatFix Exact)} {e : PositionEvidence Exact} (h : e.Of steady window n U) :
    U = [] ∧ e.milestones = [] ∨
    U ≠ [] ∧ e.milestones = [("gnss", "first_usable_fix")] ∨
    U ≠ [] ∧ e.milestones = [("gnss", "first_usable_fix"), ("static_window", "complete")] := by
  rw [h.milestones]
  cases hcomplete : e.staticWindowComplete with
  | false => by_cases hU : U = [] <;> simp [hU]
  | true =>
    -- A window that was complete had started, at a usable fix.
    obtain ⟨s, -, hs, -⟩ := h.closed hcomplete
    have hstart := h.start
    have hU : U ≠ [] := by
      rintro hU
      rw [hs, hU] at hstart
      cases hstart
    exact Or.inr (Or.inr ⟨hU, by rw [if_neg hU]; rfl⟩)

/-- The end of the static window is logged by a monitor whose window is complete. -/
theorem PositionEvidence.Of.complete_of_mem {steady : ℕ → Int} {window : Exact} {n : ℕ}
    {U : List (NavSatFix Exact)} {e : PositionEvidence Exact} (h : e.Of steady window n U)
    (hmem : ("static_window", "complete") ∈ e.milestones) : e.staticWindowComplete = true := by
  rw [h.milestones] at hmem
  cases hcomplete : e.staticWindowComplete with
  | true => rfl
  | false => by_cases hU : U = [] <;> simp [hcomplete, hU] at hmem

/-- After any sequence of calls, with the usable fixes `U` among them, when the steady clock does
not run backwards: the reference is the first fix of `U`, every fix of `U` is counted in the
statistics of the trajectory, and the static statistics are those of the offsets of a prefix of `U`
from the reference, East along the circle of the reference latitude, North along the meridian, and
in the altitude.  The first usable fix has been logged once when there is one, and the end of
the static window at most once and after it.  Whatever calls follow, the reference stays, and no
static sample is added once the end of the window is logged. -/
theorem static_window_evidence (steady : ℕ →o ℤ) (window : Exact)
    (callbacks : List (Callback Exact)) :
    let m := run steady window callbacks
    let U := usableFixes callbacks
    let radians (x : Exact) := x * (3.14159265358979323846 / 180.0)
    (m.referenceLatitude = U.head?.map (·.latitude) ∧
      m.referenceLongitude = U.head?.map (·.longitude) ∧
      m.referenceAltitude = U.head?.map (·.altitude) ∧
      (m.referenceLatitude = none ↔ m.usableFixCount = 0)) ∧
    (m.usableFixCount = U.length ∧ m.eastOffsetM.count = U.length ∧
      m.northOffsetM.count = U.length ∧ m.altitudeM.count = U.length) ∧
    (∀ r ∈ U.head?,
      offsets U = U.map (fun x =>
        ((radians (x.longitude - r.longitude) * Double.cos (radians r.latitude) * 6378137.0,
          radians (x.latitude - r.latitude) * 6378137.0), x.altitude - r.altitude)) ∧
      offset r r = (num 0, num 0)) ∧
    (∃ k ≤ U.length,
      let samples := (offsets U).take k
      m.staticEastM = statsOf (samples.map (·.1.1)) ∧
      m.staticNorthM = statsOf (samples.map (·.1.2)) ∧
      m.staticAltitudeM = statsOf (samples.map (·.2)) ∧
      m.staticEastM.count = k ∧ m.staticNorthM.count = k ∧ m.staticAltitudeM.count = k) ∧
    (U = [] ∧ milestones m.events = [] ∨
      U ≠ [] ∧ milestones m.events = [("gnss", "first_usable_fix")] ∨
      U ≠ [] ∧
        milestones m.events = [("gnss", "first_usable_fix"), ("static_window", "complete")]) ∧
    ∀ more,
      let later := run steady window (callbacks ++ more)
      (U ≠ [] → later.referenceLatitude = m.referenceLatitude ∧
        later.referenceLongitude = m.referenceLongitude ∧
        later.referenceAltitude = m.referenceAltitude) ∧
      (("static_window", "complete") ∈ milestones m.events →
        later.staticEastM = m.staticEastM ∧ later.staticNorthM = m.staticNorthM ∧
        later.staticAltitudeM = m.staticAltitudeM) := by
  intro m U radians
  have h : m.position.Of steady window m.readings U := run_position steady window callbacks
  have husable : ∀ x ∈ U, usable x = true := fun x hx => usable_of_mem hx
  have hlatitude : m.referenceLatitude = U.head?.map (·.latitude) := h.latitude
  have hlongitude : m.referenceLongitude = U.head?.map (·.longitude) := h.longitude
  have haltitude : m.referenceAltitude = U.head?.map (·.altitude) := h.altitude
  have hcount : m.usableFixCount = U.length := h.count
  refine ⟨⟨hlatitude, hlongitude, haltitude, ?_⟩, ⟨hcount, ?_⟩, ?_, ?_, h.milestones_cases, ?_⟩
  · rw [hlatitude, hcount]
    cases U <;> simp
  · obtain ⟨heast, hnorth, halt⟩ := count_track husable
    have htrajectory : Statistics.mk m.eastOffsetM m.northOffsetM m.altitudeM = .of (track U) :=
      h.trajectory
    rw [← htrajectory] at heast hnorth halt
    exact ⟨heast, hnorth, halt⟩
  · intro r hr
    refine ⟨?_, offset_self (husable r (List.mem_of_mem_head? hr))⟩
    rw [offsets, Option.mem_def.mp hr]
    rfl
  · obtain ⟨k, hk, -, hscatter⟩ := h.scatter
    obtain ⟨heast, hnorth, halt⟩ := count_take_offsets husable hk
    rw [← hscatter] at heast hnorth halt
    refine ⟨k, hk, ?_, ?_, ?_, heast, hnorth, halt⟩
    · exact congrArg Statistics.east hscatter
    · exact congrArg Statistics.north hscatter
    · exact congrArg Statistics.altitude hscatter
  · intro more later
    refine ⟨?_, ?_⟩
    · intro hU
      have hlater := run_position steady window (callbacks ++ more)
      have hhead : (usableFixes (callbacks ++ more)).head? = U.head? := by
        rw [usableFixes, List.filterMap_append]
        exact List.head?_append_of_ne_nil _ hU
      rw [hlatitude, hlongitude, haltitude, ← hhead]
      exact ⟨hlater.latitude, hlater.longitude, hlater.altitude⟩
    · intro hmem
      have hcomplete : m.staticWindowComplete = true := h.complete_of_mem hmem
      obtain ⟨hscatter, -⟩ := run_scatter_complete steady window callbacks hcomplete more
      refine ⟨?_, ?_, ?_⟩
      · exact congrArg Statistics.east hscatter
      · exact congrArg Statistics.north hscatter
      · exact congrArg Statistics.altitude hscatter

end R3HardwareMonitor

end AsensingDriver
