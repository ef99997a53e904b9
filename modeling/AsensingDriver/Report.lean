import AsensingDriver.DeviceTime
import AsensingDriver.Lib.Document
import AsensingDriver.ReportJson
import AsensingDriver.Topics

/-! `report.json`.  `makeJson` writes the whole text, and `report` says what it tells.  `run_report`
says for which labels and markers a reader of the text learns just that. -/

namespace AsensingDriver

open Json Exact

/-! ### The text -/

/-- An object on one line. -/
def compact (members : List (String × List Char)) : List Char :=
  '{' :: (separated [] [] (members.map fun (key, text) => quote key.toList ++ ':' :: text) ++ ['}'])

/-- An object with each member on a line of its own, behind `n` spaces. -/
def block (n : Nat) (members : List (String × List Char)) : List Char :=
  '{' :: '\n' :: (separated (.replicate n ' ') ['\n']
    (members.map fun (key, text) => quote key.toList ++ ':' :: ' ' :: text) ++
    (List.replicate (n - 2) ' ' ++ ['}']))

/-- An array with each value on a line of its own, behind `n` spaces. -/
def rows (n : Nat) (texts : List (List Char)) : List Char :=
  '[' :: '\n' :: (separated (.replicate n ' ') ['\n'] texts ++
    (List.replicate (n - 2) ' ' ++ [']']))

example : block 4 [("a", "1".toList), ("b", "null".toList)] =
    "\x7b\n    \"a\": 1,\n    \"b\": null\n  \x7d".toList := by decide

/-- A count, as it is written to a stream. -/
def countJson (n : Nat) : List Char := Nat.toDigits 10 n

/-- The checks that a report asks for. -/
def manualChecksRequired : List String :=
  ["Confirm ASENSING roll/pitch/yaw axes and signs against ROS REP-103 before enabling " ++
      "device orientation in /ins/imu",
    "Confirm vendor position_type values including which value means RTK fixed",
    "Observe safe RTK degradation and recovery while stationary or under controlled conditions",
    "Verify serial reconnect behavior while vehicle is stationary",
    "Measure and record base_link to rtk_antenna_link lever arm"]

section Text

variable {F : Type} [Double F] (number : F → List Char)

def trackerJson (tracker : TopicTracker F) : List Char :=
  compact
    [("count", countJson tracker.count),
      ("rate_hz", number tracker.rateHz),
      ("max_receive_gap_sec", number tracker.maxGapSec),
      ("header_stamp_regressions", countJson tracker.stampRegressions)]

def statsJson (stats : R3RunningStats F) : List Char :=
  compact
    [("count", countJson stats.count),
      ("mean", number stats.mean),
      ("sample_stddev", number stats.sampleStddev),
      ("min", number stats.min),
      ("max", number stats.max)]

def eventText (event : Event F) : List Char :=
  compact
    [("elapsed_sec", number event.elapsedSec),
      ("kind", quote (jsonEscape event.kind.toList)),
      ("detail", quote (jsonEscape event.detail.toList))]

namespace R3HardwareMonitor

variable (m : R3HardwareMonitor F)

/-- The position types with an entry in the map, in its order. -/
def positionTypes : List UInt8 :=
  ((List.range 256).map UInt8.ofNat).filter fun t => m.positionTypeHistogram t != 0

/-- The text of the report when `elapsed_sec` returns `elapsedSec`.  `number` writes a number with
six decimals. -/
def makeJson (sessionLabel : String) (elapsedSec : F) : List Char :=
  block 2
    [("schema_version", countJson 1),
      ("session_label", quote (jsonEscape sessionLabel.toList)),
      ("elapsed_sec", number elapsedSec),
      ("validation_label", quote "EVIDENCE_ONLY".toList),
      ("freeze_recommendation", quote "NOT_READY_UNTIL_MANUAL_R3_REVIEW".toList),
      ("topics", block 4
        [("navsatfix", trackerJson number m.fixTracker),
          ("status", trackerJson number m.statusTracker),
          ("imu", trackerJson number m.imuTracker),
          ("velocity_diagnostic_only", trackerJson number m.velocityTracker)]),
      ("rtk", block 4
        [("usable_fix_count", countJson m.usableFixCount),
          ("valid_solution_status_count", countJson m.validSolutionStatusCount),
          ("rtk_fixed_count", countJson m.rtkFixedCount),
          ("rtk_fixed_ratio", number m.rtkFixedRatio),
          ("satellite_count", statsJson number m.satelliteCount),
          ("east_std_m", statsJson number m.eastStdM),
          ("north_std_m", statsJson number m.northStdM),
          ("up_std_m", statsJson number m.upStdM),
          ("position_type_histogram", compact (m.positionTypes.map fun t =>
            (toString t.toNat, countJson (m.positionTypeHistogram t))))]),
      ("position", block 4
        ((match m.referenceLatitude with
          | some latitude =>
            [("reference_latitude", number latitude),
              ("reference_longitude", number (m.referenceLongitude.getD 0.0)),
              ("reference_altitude_m", number (m.referenceAltitude.getD 0.0))]
          | none =>
            [("reference_latitude", "null".toList),
              ("reference_longitude", "null".toList),
              ("reference_altitude_m", "null".toList)]) ++
        [("trajectory_east_offset_m", statsJson number m.eastOffsetM),
          ("trajectory_north_offset_m", statsJson number m.northOffsetM),
          ("altitude_m", statsJson number m.altitudeM),
          ("initial_static_window_sec", number m.initialStaticWindowSec),
          ("initial_static_east_m", statsJson number m.staticEastM),
          ("initial_static_north_m", statsJson number m.staticNorthM),
          ("initial_static_altitude_delta_m", statsJson number m.staticAltitudeM)])),
      ("imu", block 4
        [("gyro_norm_rad_s", statsJson number m.gyroNormRadS),
          ("accel_norm_m_s2", statsJson number m.accelNormMS2),
          ("orientation_available_count", countJson m.orientationAvailableCount)]),
      ("velocity_diagnostic_only", block 4
        [("horizontal_speed_m_s", statsJson number m.diagnosticHorizontalSpeedMS)]),
      ("device_time", block 4
        [("valid_count", countJson m.deviceTimeCount),
          ("regressions", countJson m.deviceTimeRegressions),
          ("elapsed_sec", match m.firstDeviceTimeSec, m.lastDeviceTimeSec with
            | some first, some last => number (last - first)
            | _, _ => "null".toList)]),
      ("events", rows 4 (m.events.map (eventText number))),
      ("manual_checks_required", rows 4 (manualChecksRequired.map fun s => quote s.toList))] ++
    ['\n']

end R3HardwareMonitor

end Text

/-! ### What the text tells -/

section Contents

variable {F : Type} [Double F]

def trackerDoc (tracker : TopicTracker F) : Doc F :=
  .record
    [("count", .count tracker.count),
      ("rate_hz", .figure tracker.rateHz),
      ("max_receive_gap_sec", .figure tracker.maxGapSec),
      ("header_stamp_regressions", .count tracker.stampRegressions)]

def statsDoc (stats : R3RunningStats F) : Doc F :=
  .record
    [("count", .count stats.count),
      ("mean", .figure stats.mean),
      ("sample_stddev", .figure stats.sampleStddev),
      ("min", .figure stats.min),
      ("max", .figure stats.max)]

def eventDoc (event : Event F) : Doc F :=
  .record
    [("elapsed_sec", .figure event.elapsedSec),
      ("kind", .text event.kind.toList),
      ("detail", .text event.detail.toList)]

/-- A figure, or nothing. -/
def figureDoc? : Option F → Doc F
  | some x => .figure x
  | none => .null

namespace R3HardwareMonitor

variable (m : R3HardwareMonitor F)

/-- The contents of the report of the monitor `m`. -/
def report (sessionLabel : String) (elapsedSec : F) : Doc F :=
  .record
    [("schema_version", .count 1),
      ("session_label", .text sessionLabel.toList),
      ("elapsed_sec", .figure elapsedSec),
      ("validation_label", .text "EVIDENCE_ONLY".toList),
      ("freeze_recommendation", .text "NOT_READY_UNTIL_MANUAL_R3_REVIEW".toList),
      ("topics", .record
        [("navsatfix", trackerDoc m.fixTracker),
          ("status", trackerDoc m.statusTracker),
          ("imu", trackerDoc m.imuTracker),
          ("velocity_diagnostic_only", trackerDoc m.velocityTracker)]),
      ("rtk", .record
        [("usable_fix_count", .count m.usableFixCount),
          ("valid_solution_status_count", .count m.validSolutionStatusCount),
          ("rtk_fixed_count", .count m.rtkFixedCount),
          ("rtk_fixed_ratio", .figure m.rtkFixedRatio),
          ("satellite_count", statsDoc m.satelliteCount),
          ("east_std_m", statsDoc m.eastStdM),
          ("north_std_m", statsDoc m.northStdM),
          ("up_std_m", statsDoc m.upStdM),
          ("position_type_histogram", .record (m.positionTypes.map fun t =>
            (toString t.toNat, .count (m.positionTypeHistogram t))))]),
      ("position", .record
        [("reference_latitude", figureDoc? m.referenceLatitude),
          ("reference_longitude", figureDoc? m.referenceLongitude),
          ("reference_altitude_m", figureDoc? m.referenceAltitude),
          ("trajectory_east_offset_m", statsDoc m.eastOffsetM),
          ("trajectory_north_offset_m", statsDoc m.northOffsetM),
          ("altitude_m", statsDoc m.altitudeM),
          ("initial_static_window_sec", .figure m.initialStaticWindowSec),
          ("initial_static_east_m", statsDoc m.staticEastM),
          ("initial_static_north_m", statsDoc m.staticNorthM),
          ("initial_static_altitude_delta_m", statsDoc m.staticAltitudeM)]),
      ("imu", .record
        [("gyro_norm_rad_s", statsDoc m.gyroNormRadS),
          ("accel_norm_m_s2", statsDoc m.accelNormMS2),
          ("orientation_available_count", .count m.orientationAvailableCount)]),
      ("velocity_diagnostic_only", .record
        [("horizontal_speed_m_s", statsDoc m.diagnosticHorizontalSpeedMS)]),
      ("device_time", .record
        [("valid_count", .count m.deviceTimeCount),
          ("regressions", .count m.deviceTimeRegressions),
          ("elapsed_sec", figureDoc? ((m.lastDeviceTimeSec.bind fun last =>
            m.firstDeviceTimeSec.map fun first => last - first)))]),
      ("events", .list (m.events.map eventDoc)),
      ("manual_checks_required", .list (manualChecksRequired.map fun s => .text s.toList))]

end R3HardwareMonitor

end Contents

/-- The number `x` with `n` decimals, and the words for what is no number. -/
noncomputable def decimals (n : ℕ) : Exact → List Char
  | num x => Decimal.fixed (n - 1) x
  | inf negative => if negative then "-inf".toList else "inf".toList
  | nan => "nan".toList

/-- The token shows the number `x` up to half a unit of the sixth decimal. -/
def Near (x : Exact) (token : List Char) : Prop :=
  ∃ r : ℝ, x = num r ∧ |(Decimal.value token : ℝ) - r| ≤ Decimal.halfUnit 6

section Shows

/-- The value is a number. -/
def Number (x : Exact) : Prop := ∃ r, x = num r

theorem number_zero : Number 0.0 := ⟨0, zero_exact⟩

theorem shows_number {x : Exact} (h : Number x) : Shows Near (decimals 6 x) (.figure x) := by
  obtain ⟨r, rfl⟩ := h
  exact shows_figure (Decimal.isNumber_fixed 5 r) ⟨r, rfl, Decimal.abs_value_fixed_sub_le 5 r⟩

theorem plain_of_digit {c : Char} (h : digit c = true) : Plain c := by
  simp only [digit, Bool.and_eq_true, decide_eq_true_eq] at h
  refine ⟨Nat.le_trans (show 0x20 ≤ '0'.toNat by decide)
    (UInt32.le_iff_toNat_le.mp (Char.le_def.mp h.1)), ?_, ?_⟩
  all_goals
    rintro rfl
    exact absurd h (by decide)

theorem shows_escaped {s : List Char} (h : Clean s) :
    Shows Near (quote (jsonEscape s)) (.text s) := shows_text (denotes_jsonEscape h)

theorem shows_plain {s : List Char} (h : s.all (fun c => decide (Plain c)) = true) :
    Shows Near (quote s) (.text s) := shows_text (denotes_plain h)

/-! ### Layout -/

theorem spaces_nil : Spaces [] := by simp [Spaces]

theorem spaces_cons {c : Char} {ws : List Char} (hc : space c = true) (h : Spaces ws) :
    Spaces (c :: ws) := by
  intro d hd
  rcases List.mem_cons.mp hd with rfl | hd
  · exact hc
  · exact h d hd

theorem spaces_newline : Spaces ['\n'] := spaces_cons rfl spaces_nil

theorem spaces_blanks (n : Nat) : Spaces (.replicate n ' ') := by
  intro c hc
  rw [List.eq_of_mem_replicate hc]
  rfl

/-- The member of a text tells what the field of a record does. -/
structure Tells (member : String × List Char) (field : String × Doc Exact) : Prop where
  key : member.1 = field.1
  plain : member.1.toList.all (fun c => decide (Plain c)) = true
  shows : Shows Near member.2 field.2

variable {members : List (String × List Char)} {fields : List (String × Doc Exact)}

theorem tells {key : String} {text : List Char} {doc : Doc Exact} (h : Shows Near text doc)
    (plain : key.toList.all (fun c => decide (Plain c)) = true) : Tells (key, text) (key, doc) :=
  ⟨rfl, plain, h⟩

/-- Members and fields that belong together, as one list. -/
theorem exists_pairs (h : members.Forall₂ Tells fields) :
    ∃ l : List ((String × List Char) × (String × Doc Exact)),
      members = l.map Prod.fst ∧ fields = l.map (fun b => (b.1.1, b.2.2)) ∧
      ∀ b ∈ l, Tells b.1 b.2 := by
  induction h with
  | nil => exact ⟨[], rfl, rfl, by simp⟩
  | @cons member field _ _ htells _ ih =>
    obtain ⟨l, rfl, rfl, hl⟩ := ih
    refine ⟨(member, field) :: l, rfl, ?_, List.forall_mem_cons.mpr ⟨htells, hl⟩⟩
    rw [List.map_cons, htells.key]

theorem shows_members (h : members.Forall₂ Tells fields) {before after front ws gap : List Char}
    (hbefore : Spaces before) (hafter : Spaces after) (hfront : Spaces front) (hws : Spaces ws)
    (hgap : Spaces gap) :
    Shows Near
      ('{' :: (front ++ (separated before after
        (members.map fun (key, text) => quote key.toList ++ ':' :: (gap ++ text)) ++
          (ws ++ ['}']))))
      (.record fields) := by
  obtain ⟨l, rfl, rfl, hl⟩ := exists_pairs h
  rw [List.map_map]
  exact shows_record hbefore hafter hfront hws hgap (fun b hb => denotes_plain (hl b hb).plain)
    fun b hb => (hl b hb).shows

theorem shows_compact (h : members.Forall₂ Tells fields) :
    Shows Near (compact members) (.record fields) :=
  shows_members h spaces_nil spaces_nil spaces_nil spaces_nil spaces_nil

theorem shows_block (n : Nat) (h : members.Forall₂ Tells fields) :
    Shows Near (block n members) (.record fields) :=
  shows_members h (spaces_blanks n) spaces_newline spaces_newline (spaces_blanks (n - 2))
    (spaces_blanks 1)

theorem shows_rows {β : Type} (n : Nat) {entries : List β} {texts : β → List Char}
    {docs : β → Doc Exact} (h : ∀ b ∈ entries, Shows Near (texts b) (docs b)) :
    Shows Near (rows n (entries.map texts)) (.list (entries.map docs)) :=
  shows_list (spaces_blanks n) spaces_newline spaces_newline (spaces_blanks (n - 2)) h

/-! ### Parts of the report -/

theorem number_rateHz (t : TopicTracker Exact) : Number t.rateHz := by
  unfold TopicTracker.rateHz
  dsimp only
  split
  · exact number_zero
  · split
    · rename_i helapsed
      rw [seconds_exact, zero_exact, lt_num] at helapsed
      exact ⟨_, by rw [seconds_exact]; exact num_div helapsed.ne'⟩
    · exact number_zero

theorem shows_tracker {t : TopicTracker Exact} (h : Number t.maxGapSec) :
    Shows Near (trackerJson (decimals 6) t) (trackerDoc t) :=
  shows_compact
    (.cons (tells (shows_count _) rfl)
      (.cons (tells (shows_number (number_rateHz t)) rfl)
        (.cons (tells (shows_number h) rfl) (.cons (tells (shows_count _) rfl) .nil))))

/-- The figures of a statistic are numbers. -/
structure NumericStats (s : R3RunningStats Exact) : Prop where
  mean : Number s.mean
  sampleStddev : Number s.sampleStddev
  min : Number s.min
  max : Number s.max

theorem numericStats (values : List Exact) : NumericStats (R3HardwareMonitor.statsOf values) := by
  have hsummary : Summarises (R3HardwareMonitor.statsOf values) (numbers values) :=
    summarises_foldl values
  obtain ⟨σ, hstd, -⟩ := summarises_sampleStddev hsummary
  obtain ⟨hminZero, hmin⟩ := summarises_min hsummary
  obtain ⟨hmaxZero, hmax⟩ := summarises_max hsummary
  have hextremes : Number (R3HardwareMonitor.statsOf values).min ∧
      Number (R3HardwareMonitor.statsOf values).max := by
    by_cases hempty : numbers values = []
    · exact ⟨⟨0, hminZero hempty⟩, ⟨0, hmaxZero hempty⟩⟩
    · obtain ⟨a, -, ha, -⟩ := hmin hempty
      obtain ⟨b, -, hb, -⟩ := hmax hempty
      exact ⟨⟨a, ha⟩, ⟨b, hb⟩⟩
  exact ⟨⟨_, summarises_mean hsummary⟩, ⟨σ, hstd⟩, hextremes.1, hextremes.2⟩

theorem shows_stats (values : List Exact) :
    Shows Near (statsJson (decimals 6) (R3HardwareMonitor.statsOf values))
      (statsDoc (R3HardwareMonitor.statsOf values)) := by
  have h := numericStats values
  exact shows_compact
    (.cons (tells (shows_count _) rfl)
      (.cons (tells (shows_number h.mean) rfl)
        (.cons (tells (shows_number h.sampleStddev) rfl)
          (.cons (tells (shows_number h.min) rfl)
            (.cons (tells (shows_number h.max) rfl) .nil)))))

theorem shows_event {event : Event Exact} (helapsed : Number event.elapsedSec)
    (hkind : Clean event.kind.toList) (hdetail : Clean event.detail.toList) :
    Shows Near (eventText (decimals 6) event) (eventDoc event) :=
  shows_compact
    (.cons (tells (shows_number helapsed) rfl)
      (.cons (tells (shows_escaped hkind) rfl) (.cons (tells (shows_escaped hdetail) rfl) .nil)))

namespace R3HardwareMonitor

variable {F : Type} [Double F] (m : R3HardwareMonitor F)

def trackers : List (TopicTracker F) :=
  [m.fixTracker, m.statusTracker, m.imuTracker, m.velocityTracker]

def statistics : List (R3RunningStats F) :=
  [m.satelliteCount, m.eastStdM, m.northStdM, m.upStdM, m.eastOffsetM, m.northOffsetM, m.altitudeM,
    m.staticEastM, m.staticNorthM, m.staticAltitudeM, m.gyroNormRadS, m.accelNormMS2,
    m.diagnosticHorizontalSpeedMS]

/-- Every figure of the monitor is a number. -/
structure Numeric (m : R3HardwareMonitor Exact) : Prop where
  trackers : ∀ t ∈ m.trackers, Number t.maxGapSec
  statistics : ∀ s ∈ m.statistics, ∃ values, s = statsOf values
  ratio : Number m.rtkFixedRatio
  reference :
    m.referenceLatitude = none ∧ m.referenceLongitude = none ∧ m.referenceAltitude = none ∨
    ∃ φ l a : ℝ, m.referenceLatitude = some (num φ) ∧ m.referenceLongitude = some (num l) ∧
      m.referenceAltitude = some (num a)
  window : Number m.initialStaticWindowSec
  deviceTimes : ∀ r ∈ [m.firstDeviceTimeSec, m.lastDeviceTimeSec], ∀ x ∈ r, Number x
  events : ∀ e ∈ m.events, Number e.elapsedSec

theorem number_sub {x y : Exact} (hx : Number x) (hy : Number y) : Number (x - y) := by
  obtain ⟨a, rfl⟩ := hx
  obtain ⟨b, rfl⟩ := hy
  exact ⟨a - b, num_sub a b⟩

theorem shows_histogram (m : R3HardwareMonitor Exact) :
    Shows Near
      (compact (m.positionTypes.map fun t =>
        (toString t.toNat, countJson (m.positionTypeHistogram t))))
      (.record (m.positionTypes.map fun t =>
        (toString t.toNat, .count (m.positionTypeHistogram t)))) := by
  have hplain (n : Nat) : (toString n).toList.all (fun c => decide (Plain c)) = true := by
    rw [List.all_eq_true, Nat.toString_eq_repr, Nat.toList_repr]
    intro c hc
    exact decide_eq_true (plain_of_digit (Decimal.digit_toDigits hc))
  apply shows_compact
  rw [List.forall₂_map_left_iff, List.forall₂_map_right_iff, List.forall₂_same]
  exact fun t _ => tells (shows_count _) (hplain t.toNat)

/-- The text of a report tells its contents. -/
theorem shows_makeJson {m : R3HardwareMonitor Exact} (h : Numeric m) {sessionLabel : String}
    (hlabel : Clean sessionLabel.toList)
    (hevents : ∀ e ∈ m.events, Clean e.kind.toList ∧ Clean e.detail.toList) {elapsedSec : Exact}
    (helapsed : Number elapsedSec) :
    ∃ v, parse (m.makeJson (decimals 6) sessionLabel elapsedSec) = some v ∧
      Agrees Near (m.report sessionLabel elapsedSec) v := by
  have htracker {t : TopicTracker Exact} (ht : t ∈ m.trackers) :
      Shows Near (trackerJson (decimals 6) t) (trackerDoc t) := shows_tracker (h.trackers t ht)
  have hstats {s : R3RunningStats Exact} (hs : s ∈ m.statistics) :
      Shows Near (statsJson (decimals 6) s) (statsDoc s) := by
    obtain ⟨values, rfl⟩ := h.statistics s hs
    exact shows_stats values
  suffices hshows : Shows Near _ (m.report sessionLabel elapsedSec) by
    obtain ⟨v, hreads, hagrees⟩ := hshows
    exact ⟨v, parse_of_reads hreads spaces_newline, hagrees⟩
  refine shows_block 2
    (.cons (tells (shows_count 1) rfl)
    (.cons (tells (shows_escaped hlabel) rfl)
    (.cons (tells (shows_number helapsed) rfl)
    (.cons (tells (shows_plain rfl) rfl)
    (.cons (tells (shows_plain rfl) rfl)
    (.cons (tells (shows_block 4 ?topics) rfl)
    (.cons (tells (shows_block 4 ?rtk) rfl)
    (.cons (tells (shows_block 4 ?position) rfl)
    (.cons (tells (shows_block 4 ?imu) rfl)
    (.cons (tells (shows_block 4 ?velocity) rfl)
    (.cons (tells (shows_block 4 ?deviceTime) rfl)
    (.cons (tells (shows_rows 4 ?events) rfl)
    (.cons (tells (shows_rows 4 ?checks) rfl) .nil)))))))))))))
  case topics =>
    exact .cons (tells (htracker (by simp [trackers])) rfl)
      (.cons (tells (htracker (by simp [trackers])) rfl)
      (.cons (tells (htracker (by simp [trackers])) rfl)
      (.cons (tells (htracker (by simp [trackers])) rfl) .nil)))
  case rtk =>
    exact .cons (tells (shows_count _) rfl)
      (.cons (tells (shows_count _) rfl)
      (.cons (tells (shows_count _) rfl)
      (.cons (tells (shows_number h.ratio) rfl)
      (.cons (tells (hstats (by simp [statistics])) rfl)
      (.cons (tells (hstats (by simp [statistics])) rfl)
      (.cons (tells (hstats (by simp [statistics])) rfl)
      (.cons (tells (hstats (by simp [statistics])) rfl)
      (.cons (tells (shows_histogram m) rfl) .nil))))))))
  case position =>
    show List.Forall₂ Tells _
      ([(_, figureDoc? _), (_, figureDoc? _), (_, figureDoc? _)] ++ [_, _, _, _, _, _, _])
    refine List.rel_append ?_
      (.cons (tells (hstats (by simp [statistics])) rfl)
      (.cons (tells (hstats (by simp [statistics])) rfl)
      (.cons (tells (hstats (by simp [statistics])) rfl)
      (.cons (tells (shows_number h.window) rfl)
      (.cons (tells (hstats (by simp [statistics])) rfl)
      (.cons (tells (hstats (by simp [statistics])) rfl)
      (.cons (tells (hstats (by simp [statistics])) rfl) .nil)))))))
    rcases h.reference with ⟨hlat, hlon, halt⟩ | ⟨φ, l, a, hlat, hlon, halt⟩
    · rw [hlat, hlon, halt]
      exact .cons (tells shows_null rfl)
        (.cons (tells shows_null rfl) (.cons (tells shows_null rfl) .nil))
    · rw [hlat, hlon, halt]
      exact .cons (tells (shows_number ⟨φ, rfl⟩) rfl)
        (.cons (tells (shows_number ⟨l, rfl⟩) rfl) (.cons (tells (shows_number ⟨a, rfl⟩) rfl) .nil))
  case imu =>
    exact .cons (tells (hstats (by simp [statistics])) rfl)
      (.cons (tells (hstats (by simp [statistics])) rfl) (.cons (tells (shows_count _) rfl) .nil))
  case velocity => exact .cons (tells (hstats (by simp [statistics])) rfl) .nil
  case deviceTime =>
    refine .cons (tells (shows_count _) rfl)
      (.cons (tells (shows_count _) rfl) (.cons (tells ?_ rfl) .nil))
    have htimes := h.deviceTimes
    cases hfirst : m.firstDeviceTimeSec with
    | none => cases m.lastDeviceTimeSec <;> exact shows_null
    | some first =>
      cases hlast : m.lastDeviceTimeSec with
      | none => exact shows_null
      | some last =>
        rw [hfirst, hlast] at htimes
        exact shows_number (number_sub (htimes _ (by simp) last rfl) (htimes _ (by simp) first rfl))
  case events =>
    exact fun e he => shows_event (h.events e he) (hevents e he).1 (hevents e he).2
  case checks =>
    intro s hs
    exact shows_plain (by revert s; decide +kernel)

/-! ### Runs -/

section Runs

variable (steady : Nat → Int)

theorem number_seconds (duration : Int) : Number (seconds duration) := ⟨_, seconds_exact duration⟩

theorem number_observe {t : TopicTracker Exact} (h : Number t.maxGapSec) (now : Int)
    (stamp : Time) : Number (t.observe now stamp).maxGapSec := by
  unfold TopicTracker.observe
  dsimp only
  split
  · exact h
  · obtain ⟨a, ha⟩ := h
    obtain ⟨b, hb⟩ := number_seconds (now - t.lastReceive)
    exact ⟨max a b, by rw [ha, hb, max_num]⟩

/-- The trackers after a call: as they were, but for one that has observed a message. -/
theorem handle_trackers (m : R3HardwareMonitor F) (c : Callback F) :
    ∀ t ∈ (m.handle steady c).trackers, t ∈ m.trackers ∨
      ∃ t' ∈ m.trackers, ∃ now stamp, t = t'.observe now stamp := by
  have htrackers (m : R3HardwareMonitor F) : m.trackers =
      [m.figures.fixes.tracker, m.figures.statuses.tracker, m.figures.imus.tracker,
        m.figures.velocities.tracker] := rfl
  intro t ht
  cases c with
  | fix message =>
    rw [htrackers, handle, onFix_figures] at ht
    rcases List.mem_cons.mp ht with rfl | ht
    · exact .inr ⟨m.fixTracker, by simp [trackers], _, _, m.figures.fixes.observe_tracker _ _⟩
    · exact .inl (List.mem_cons_of_mem _ ht)
  | status message =>
    rw [htrackers, handle, onStatus_figures] at ht
    simp only [List.mem_cons, List.not_mem_nil, or_false] at ht
    rcases ht with rfl | rfl | rfl | rfl
    · exact .inl (by simp [trackers, figures])
    · exact .inr ⟨m.statusTracker, by simp [trackers], _, _, rfl⟩
    · exact .inl (by simp [trackers, figures])
    · exact .inl (by simp [trackers, figures])
  | imu message =>
    simp only [trackers, List.mem_cons, List.not_mem_nil, or_false] at ht
    rcases ht with rfl | rfl | rfl | rfl
    · exact .inl (by simp [trackers, handle, onImu])
    · exact .inl (by simp [trackers, handle, onImu])
    · exact .inr ⟨m.imuTracker, by simp [trackers], _, _, rfl⟩
    · exact .inl (by simp [trackers, handle, onImu])
  | velocity message =>
    simp only [trackers, List.mem_cons, List.not_mem_nil, or_false] at ht
    rcases ht with rfl | rfl | rfl | rfl
    · exact .inl (by simp [trackers, handle, onVelocity])
    · exact .inl (by simp [trackers, handle, onVelocity])
    · exact .inl (by simp [trackers, handle, onVelocity])
    · exact .inr ⟨m.velocityTracker, by simp [trackers], _, _, rfl⟩
  | marker data => exact .inl ht
  | snapshot => exact .inl ht

theorem trackers_run (window : Exact) (callbacks : List (Callback Exact)) :
    ∀ t ∈ (run steady window callbacks).trackers, Number t.maxGapSec := by
  induction callbacks using List.reverseRecOn with
  | nil =>
    intro t ht
    have hempty : t = .empty := by
      simpa [trackers, run, started, addEvent] using ht
    rw [hempty]
    exact number_zero
  | append_singleton callbacks c ih =>
    rw [run_concat]
    intro t ht
    rcases handle_trackers steady _ c t ht with ht | ⟨t', ht', now, stamp, rfl⟩
    · exact ih t ht
    · exact number_observe (ih t' ht') now stamp

end Runs

theorem run_numeric (steady : ℕ →o ℤ) (window : ℝ) (callbacks : List (Callback Exact)) :
    Numeric (run steady (num window) callbacks) := by
  have hposition := run_position steady (num window) callbacks
  have hfigures := run_figures steady (num window) callbacks
  have hevidence := run_rtkEvidence steady (num window) callbacks
  have hreference {α : Type} (l : List α) : l.head? = none ∨ ∃ a ∈ l, l.head? = some a := by
    cases l with
    | nil => exact .inl rfl
    | cons a l => exact .inr ⟨a, List.mem_cons_self, rfl⟩
  constructor
  · exact trackers_run steady (num window) callbacks
  · intro s hs
    obtain ⟨k, -, -, hscatter⟩ := hposition.scatter
    simp only [statistics, List.mem_cons, List.not_mem_nil, or_false] at hs
    rcases hs with rfl | rfl | rfl | rfl | rfl | rfl | rfl | rfl | rfl | rfl | rfl | rfl | rfl
    · exact ⟨_, hfigures.statuses.satelliteCount⟩
    · exact ⟨_, hfigures.statuses.eastStdM⟩
    · exact ⟨_, hfigures.statuses.northStdM⟩
    · exact ⟨_, hfigures.statuses.upStdM⟩
    · exact ⟨_, congrArg Statistics.east hposition.trajectory⟩
    · exact ⟨_, congrArg Statistics.north hposition.trajectory⟩
    · exact ⟨_, congrArg Statistics.altitude hposition.trajectory⟩
    · exact ⟨_, congrArg Statistics.east hscatter⟩
    · exact ⟨_, congrArg Statistics.north hscatter⟩
    · exact ⟨_, congrArg Statistics.altitude hscatter⟩
    · exact ⟨_, hfigures.imus.gyroNormRadS⟩
    · exact ⟨_, hfigures.imus.accelNormMS2⟩
    · exact ⟨_, hfigures.velocities.diagnosticHorizontalSpeedMS⟩
  · obtain ⟨r, hr, -⟩ := rtkFixedRatio_bounds (run steady (num window) callbacks) (by
      have hfixed := hevidence.fixed
      have hcount := hevidence.count
      have hle := List.countP_le_length (p := (·.rtkFixed)) (l := validStatuses callbacks)
      exact hfixed.trans_le (hle.trans_eq hcount.symm))
    exact ⟨r, hr⟩
  · rcases hreference (usableFixes callbacks) with hhead | ⟨x, hx, hhead⟩
    · exact .inl ⟨by rw [← Option.map_none, ← hhead]; exact hposition.latitude,
        by rw [← Option.map_none, ← hhead]; exact hposition.longitude,
        by rw [← Option.map_none, ← hhead]; exact hposition.altitude⟩
    · obtain ⟨φ, l, a, hφ, hl, ha⟩ := usable_num (usable_of_mem hx)
      refine .inr ⟨φ, l, a, ?_, ?_, ?_⟩
      · rw [← hφ]
        exact hposition.latitude.trans (by rw [hhead]; rfl)
      · rw [← hl]
        exact hposition.longitude.trans (by rw [hhead]; rfl)
      · rw [← ha]
        exact hposition.altitude.trans (by rw [hhead]; rfl)
  · exact ⟨window, hposition.limit⟩
  · have htime {x : Exact} (hx : x ∈ deviceTimes (statuses callbacks)) : Number x := by
      obtain ⟨message, -, rfl⟩ := List.mem_map.mp hx
      exact ⟨_, deviceTimeSeconds_exact _ _⟩
    intro r hr x hx
    simp only [List.mem_cons, List.not_mem_nil, or_false] at hr
    rcases hr with rfl | rfl
    · exact htime (List.mem_of_mem_head? (hfigures.statuses.firstDeviceTimeSec ▸ hx))
    · exact htime (List.mem_of_mem_getLast? (hfigures.statuses.lastDeviceTimeSec ▸ hx))
  · obtain ⟨entries, hevents, -⟩ := events_run steady (num window) callbacks
    intro e he
    rw [hevents] at he
    rcases List.mem_cons.mp he with rfl | he
    · exact number_seconds _
    · obtain ⟨entry, -, rfl⟩ := List.mem_map.mp he
      exact number_seconds _

end R3HardwareMonitor

end Shows

/-! ### Control characters -/

theorem clean_append {s t : List Char} (hs : Clean s) (ht : Clean t) : Clean (s ++ t) := by
  intro c hc
  rcases List.mem_append.mp hc with hc | hc
  · exact hs c hc
  · exact ht c hc

theorem clean_of_plain {s : List Char} (h : s.all (fun c => decide (Plain c)) = true) :
    Clean s := by
  intro c hc hcontrol
  have hplain : Plain c := of_decide_eq_true (List.all_eq_true.mp h c hc)
  exact absurd hcontrol (Nat.not_lt.mpr hplain.1)

theorem clean_toDigits (n : Nat) : Clean (Nat.toDigits 10 n) :=
  clean_of_plain (List.all_eq_true.mpr fun _ hc =>
    decide_eq_true (plain_of_digit (Decimal.digit_toDigits hc)))

/-- Without control characters in the text of a string there is none in the string but those that
are escaped. -/
theorem clean_of_allowed {s : List Char} (h : ∀ c ∈ jsonEscape s, Allowed c) : Clean s := by
  intro c hc hcontrol
  rcases escapeChar_cases c with ⟨e, -, -, hescaped⟩ | ⟨he, -⟩
  · exact hescaped hcontrol
  · have hmem : c ∈ jsonEscape s :=
      List.mem_flatMap.mpr ⟨c, hc, by rw [he]; exact List.mem_cons_self⟩
    rcases h c hmem with hplain | hspace
    · exact absurd hcontrol (Nat.not_lt.mpr hplain)
    · simp only [space, Bool.or_eq_true, beq_iff_eq] at hspace
      rcases hspace with ((rfl | h) | h) | h
      · exact absurd hcontrol (by decide)
      · exact .inl h
      · exact .inr (.inl h)
      · exact .inr (.inr h)

theorem infix_block (n : Nat) {members : List (String × List Char)} {key : String}
    {text : List Char} (h : (key, text) ∈ members) : text <:+: block n members := by
  have hmember : quote key.toList ++ ':' :: ' ' :: text ∈
      members.map fun (key, text) => quote key.toList ++ ':' :: ' ' :: text :=
    List.mem_map.mpr ⟨_, h, rfl⟩
  have hline : text <:+: quote key.toList ++ ':' :: ' ' :: text :=
    ⟨quote key.toList ++ [':', ' '], [], by simp⟩
  refine (hline.trans (infix_separated (.replicate n ' ') ['\n'] hmember)).trans ?_
  exact ⟨['{', '\n'], List.replicate (n - 2) ' ' ++ ['}'], by simp [block]⟩

theorem infix_rows (n : Nat) {texts : List (List Char)} {text : List Char} (h : text ∈ texts) :
    text <:+: rows n texts :=
  (infix_separated (.replicate n ' ') ['\n'] h).trans
    ⟨['[', '\n'], List.replicate (n - 2) ' ' ++ [']'], by simp [rows]⟩

theorem infix_eventText {F : Type} [Double F] (number : F → List Char) (event : Event F) :
    jsonEscape event.detail.toList <:+: eventText number event := by
  have hmember : quote "detail".toList ++ ':' :: quote (jsonEscape event.detail.toList) ∈
      [("elapsed_sec", number event.elapsedSec), ("kind", quote (jsonEscape event.kind.toList)),
        ("detail", quote (jsonEscape event.detail.toList))].map
          fun (key, text) => quote key.toList ++ ':' :: text := by simp
  have hquote : jsonEscape event.detail.toList <:+:
      quote "detail".toList ++ ':' :: quote (jsonEscape event.detail.toList) :=
    ⟨quote "detail".toList ++ [':', '"'], ['"'], by simp [quote]⟩
  exact (hquote.trans (infix_separated [] [] hmember)).trans ⟨['{'], ['}'], rfl⟩

namespace R3HardwareMonitor

theorem Observation.clean {kind detail : String} (h : Observation kind detail) :
    Clean kind.toList ∧ Clean detail.toList := by
  cases h with
  | gnss => exact ⟨clean_of_plain rfl, clean_of_plain rfl⟩
  | staticWindow => exact ⟨clean_of_plain rfl, clean_of_plain rfl⟩
  | rtkFixed last => cases last <;> exact ⟨clean_of_plain rfl, clean_of_plain rfl⟩
  | positionType last next =>
    refine ⟨clean_of_plain rfl, ?_⟩
    simp only [String.toList_append, Nat.toString_eq_repr, Nat.toList_repr]
    exact clean_append (clean_append (clean_toDigits _) (clean_of_plain rfl))
      (clean_toDigits _)

/-- A string of the report with a control character other than the escaped ones is not read. -/
theorem clean_of_parse {m : R3HardwareMonitor Exact} {sessionLabel : String} {elapsedSec : Exact}
    {v : Value} (h : parse (m.makeJson (decimals 6) sessionLabel elapsedSec) = some v) :
    Clean sessionLabel.toList ∧ ∀ e ∈ m.events, Clean e.detail.toList := by
  have hallowed := no_control_of_parse h
  obtain ⟨members, hmembers⟩ : ∃ members,
      m.makeJson (decimals 6) sessionLabel elapsedSec = block 2 members ++ ['\n'] ∧
      ("session_label", quote (jsonEscape sessionLabel.toList)) ∈ members ∧
      ("events", rows 4 (m.events.map (eventText (decimals 6)))) ∈ members := by
    refine ⟨_, rfl, by simp, by simp⟩
  obtain ⟨htext, hlabel, hevents⟩ := hmembers
  rw [htext] at hallowed
  refine ⟨clean_of_allowed fun c hc => hallowed c ?_, fun e he => clean_of_allowed fun c hc =>
    hallowed c ?_⟩
  · have hquote : c ∈ quote (jsonEscape sessionLabel.toList) := by simp [quote, hc]
    exact List.mem_append_left _ ((infix_block 2 hlabel).subset hquote)
  · have hrow : eventText (decimals 6) e ∈ m.events.map (eventText (decimals 6)) :=
      List.mem_map_of_mem he
    exact List.mem_append_left _ (((infix_eventText (decimals 6) e).trans
      ((infix_rows 4 hrow).trans (infix_block 2 hevents))).subset hc)

/-- The event of `finalize`. -/
def finalized {F : Type} [Double F] (steady : Nat → Int) (m : R3HardwareMonitor F) :
    R3HardwareMonitor F := m.addEvent steady "monitor" "stopped"

theorem Numeric.finalized {m : R3HardwareMonitor Exact} (h : Numeric m) (steady : Nat → Int) :
    Numeric (m.finalized steady) where
  trackers := h.trackers
  statistics := h.statistics
  ratio := h.ratio
  reference := h.reference
  window := h.window
  deviceTimes := h.deviceTimes
  events e he := by
    rcases List.mem_append.mp he with he | he
    · exact h.events e he
    · rw [List.mem_singleton.mp he]
      exact number_seconds _

theorem clean_monitor :
    Clean "monitor".toList ∧ Clean "started".toList ∧ Clean "stopped".toList :=
  ⟨clean_of_plain rfl, clean_of_plain rfl, clean_of_plain rfl⟩

section Markers

variable (steady : ℕ → ℤ) (window : Exact) (callbacks : List (Callback Exact))

/-- The events of a run are the start of the monitor, markers and observations. -/
theorem forall_events {P : String → String → Prop} (hstarted : P "monitor" "started")
    (hobserved : ∀ kind detail, Observation kind detail → P kind detail)
    (hmarked : ∀ data ∈ markers callbacks, P "marker" data) :
    ∀ e ∈ (run steady window callbacks).events, P e.kind e.detail := by
  obtain ⟨entries, hevents, -, hlogs⟩ := events_run steady window callbacks
  rw [hevents]
  intro e he
  rcases List.mem_cons.mp he with rfl | he
  · exact hstarted
  · obtain ⟨entry, hentry, rfl⟩ := List.mem_map.mp he
    by_cases hmarker : entry.2.1 = "marker"
    · have hdata : entry.2.2 ∈ markers callbacks := by
        rw [← hlogs.marked]
        exact List.mem_map_of_mem (List.mem_filter.mpr ⟨hentry, beq_iff_eq.mpr hmarker⟩)
      show P entry.2.1 entry.2.2
      rw [hmarker]
      exact hmarked _ hdata
    · exact hobserved _ _ (hlogs.observed entry hentry hmarker)

/-- The strings of the events are clean when the markers are. -/
theorem clean_events (h : ∀ data ∈ markers callbacks, Clean data.toList) :
    ∀ e ∈ (run steady window callbacks).events, Clean e.kind.toList ∧ Clean e.detail.toList :=
  forall_events (P := fun kind detail => Clean kind.toList ∧ Clean detail.toList) steady window
    callbacks ⟨clean_monitor.1, clean_monitor.2.1⟩ (fun _ _ h => h.clean)
    fun data hdata => ⟨clean_of_plain rfl, h data hdata⟩

/-- Every marker is the detail of an event. -/
theorem exists_event {data : String} (h : data ∈ markers callbacks) :
    ∃ e ∈ (run steady window callbacks).events, e.detail = data := by
  obtain ⟨entries, hevents, -, hlogs⟩ := events_run steady window callbacks
  rw [← hlogs.marked] at h
  obtain ⟨entry, hentry, rfl⟩ := List.mem_map.mp h
  rw [hevents]
  exact ⟨_, List.mem_cons_of_mem _ (List.mem_map_of_mem (List.mem_of_mem_filter hentry)), rfl⟩

end Markers

/-- The event of `finalize` changes no figure. -/
theorem run_ended (steady : ℕ →o ℤ) (window : ℝ) (callbacks : List (Callback Exact))
    (stopped : Bool) :
    let running := run steady (num window) callbacks
    let m := if stopped then running.finalized steady else running
    Numeric m ∧ (∀ e ∈ running.events, e ∈ m.events) ∧
    ∀ e ∈ m.events, e ∈ running.events ∨ e.kind = "monitor" ∧ e.detail = "stopped" := by
  intro running m
  have hnumeric : Numeric running := run_numeric steady window callbacks
  cases stopped with
  | false => exact ⟨hnumeric, fun e he => he, fun e he => .inl he⟩
  | true =>
    refine ⟨hnumeric.finalized steady, fun e he => List.mem_append_left _ he, fun e he => ?_⟩
    rcases List.mem_append.mp he with he | he
    · exact .inl he
    · rw [List.mem_singleton.mp he]
      exact .inr ⟨rfl, rfl⟩

/-- After any sequence of calls, and with or without the event of `finalize`, in exact arithmetic
and with a finite static window: when neither the label of the session nor a marker has a control
character other than a line feed, a carriage return or a tab, a reader of `report.json` learns the
whole contents of the report, with each number up to half a unit of its sixth decimal; and
otherwise no reader accepts it. -/
theorem run_report (steady : ℕ →o ℤ) (window : ℝ) (sessionLabel : String)
    (callbacks : List (Callback Exact)) (stopped : Bool) :
    let m := run steady (num window) callbacks
    let m := if stopped then m.finalized steady else m
    let elapsedSec : Exact := seconds (steady m.readings - m.sessionStart)
    let text := m.makeJson (decimals 6) sessionLabel elapsedSec
    let clean := Clean sessionLabel.toList ∧ ∀ data ∈ markers callbacks, Clean data.toList
    (clean → ∃ v, parse text = some v ∧ Agrees Near (m.report sessionLabel elapsedSec) v) ∧
    (¬clean → parse text = none) := by
  intro running m elapsedSec text clean
  obtain ⟨hnumeric, hkept, hevents⟩ := run_ended steady window callbacks stopped
  constructor
  · rintro ⟨hlabel, hmarkers⟩
    refine shows_makeJson hnumeric hlabel (fun e he => ?_) (number_seconds _)
    rcases hevents e he with he | ⟨hkind, hdetail⟩
    · exact clean_events steady (num window) callbacks hmarkers e he
    · rw [hkind, hdetail]
      exact ⟨clean_monitor.1, clean_monitor.2.2⟩
  · intro hclean
    by_contra hparse
    obtain ⟨v, hv⟩ := Option.ne_none_iff_exists'.mp hparse
    obtain ⟨hlabel, hdetails⟩ := clean_of_parse hv
    refine hclean ⟨hlabel, fun data hdata => ?_⟩
    obtain ⟨e, he, rfl⟩ := exists_event steady (num window) callbacks hdata
    exact hdetails e (hkept e he)

end R3HardwareMonitor

end AsensingDriver
