import AsensingDriver.Snapshots

/-! What a reader of `report.md` learns.  Nothing in the file is escaped.  `run_markdown` says that
the figures can be read back whatever the markers hold, and the events exactly when no marker holds
a line feed. -/

namespace AsensingDriver

open Json Exact Markdown
open R3HardwareMonitor (Callback markers Numeric)

/-! ### What the file tells -/

/-- What stands in a place of the file: a text, a count, a number with `n` decimals and a unit, or
the figures of a statistic. -/
inductive Shown (F : Type)
  | text (s : List Char)
  | count (n : Nat)
  | figure (n : Nat) (x : F) (unit : String)
  | stats (s : R3RunningStats F)

/-- A label of a session, on one line. -/
structure Label where
  text : String
  line : '\n' ∉ text.toList

/-- The items of a section, by their keys. -/
structure Items (F : Type) where
  heading : String
  items : List (String × Shown F)

section Contents

variable {F : Type} [Double F]

/-- The row of a topic. -/
def topicRow (topic : String) (tracker : TopicTracker F) : List (Shown F) :=
  [.text topic.toList, .count tracker.count, .figure 3 tracker.rateHz "",
    .figure 3 tracker.maxGapSec "", .count tracker.stampRegressions]

namespace R3HardwareMonitor

variable (m : R3HardwareMonitor F) (sessionLabel : String) (elapsedSec : F)

def snapshotItems : List (String × Shown F) :=
  [("Session", .text ("`".toList ++ sessionLabel.toList ++ "`".toList)),
    ("Elapsed", .figure 3 elapsedSec " s"),
    ("Validation label", .text "**EVIDENCE_ONLY**".toList),
    ("Freeze recommendation", .text "**NOT_READY_UNTIL_MANUAL_R3_REVIEW**".toList)]

def rtkItems : List (String × Shown F) :=
  [("Usable fixes", .count m.usableFixCount),
    ("Valid solution status samples", .count m.validSolutionStatusCount),
    ("RTK fixed samples", .count m.rtkFixedCount),
    ("RTK fixed ratio", .figure 3 (m.rtkFixedRatio * 100.0) "%"),
    ("Satellites", .stats m.satelliteCount),
    ("East std m", .stats m.eastStdM),
    ("North std m", .stats m.northStdM),
    ("Up std m", .stats m.upStdM)]

def staticItems : List (String × Shown F) :=
  [("East offset m", .stats m.staticEastM),
    ("North offset m", .stats m.staticNorthM),
    ("Altitude delta m", .stats m.staticAltitudeM)]

def imuItems : List (String × Shown F) :=
  [("Gyro norm rad/s", .stats m.gyroNormRadS),
    ("Acceleration norm m/s^2", .stats m.accelNormMS2),
    ("Samples advertising orientation", .count m.orientationAvailableCount)]

def deviceItems : List (String × Shown F) :=
  [("Valid GPS-week/time samples", .count m.deviceTimeCount),
    ("Device-time regressions", .count m.deviceTimeRegressions)] ++
  (match m.firstDeviceTimeSec, m.lastDeviceTimeSec with
    | some first, some last => [("Device elapsed time", .figure 3 (last - first) " s")]
    | _, _ => [])

/-- The sections with figures. -/
def summary : List (Items F) :=
  [⟨"# ASENSING R3 Hardware Validation Snapshot", snapshotItems sessionLabel elapsedSec⟩,
    ⟨"## RTK quality", m.rtkItems⟩,
    ⟨"## Initial static window", m.staticItems⟩,
    ⟨"## IMU", m.imuItems⟩,
    ⟨"## Device time", m.deviceItems⟩]

def topicRows : List (List (Shown F)) :=
  [topicRow "/ins/navsatfix" m.fixTracker,
    topicRow "/ins/status" m.statusTracker,
    topicRow "/ins/imu" m.imuTracker,
    topicRow "/ins/velocity (diagnostic only)" m.velocityTracker]

end R3HardwareMonitor

end Contents

/-! ### The reader -/

def heading (line : List Char) : Bool := line.head? == some '#'

/-- The items below a heading. -/
def readItems (title : String) (lines : List (List Char)) : List (List Char × List Char) :=
  (below heading title.toList lines).filterMap readItem

/-- The table of the topics, without the two lines at its top. -/
def readTopics (lines : List (List Char)) : List (List (List Char)) :=
  (((below heading "## Topic health".toList lines).filter (·.head? == some '|')).drop 2).map readRow

/-- An event, as it is read. -/
structure EventItem where
  elapsedSec : List Char
  kind : List Char
  detail : List Char

def readEventItem (line : List Char) : Option EventItem :=
  (readItem line).bind fun item =>
    match item.1.dropWhile (· != ' ') with
    | ' ' :: 's' :: ' ' :: '—' :: ' ' :: '*' :: '*' :: kind =>
      some ⟨item.1.takeWhile (· != ' '), kind.takeWhile (· != '*'), item.2⟩
    | _ => none

def readEvents (lines : List (List Char)) : List EventItem :=
  (below heading "## Events / markers".toList lines).filterMap readEventItem

/-- The token is a number, and it is `x` up to half a unit of decimal `n`. -/
structure Close (n : ℕ) (x : Exact) (token : List Char) : Prop where
  number : isNumber token = true
  near : ∃ r : ℝ, x = num r ∧ |(Decimal.value token : ℝ) - r| ≤ Decimal.halfUnit n

/-- The names and values of a statistic. -/
structure StatsIn (s : R3RunningStats Exact) (fields : List (List Char × List Char)) : Prop where
  names : fields.map Prod.fst =
    ["n".toList, "mean".toList, "std".toList, "min".toList, "max".toList]
  count : ∀ f ∈ fields[0]?, Decimal.value f.2 = s.count
  figures : List.Forall₂ (Close 4) [s.mean, s.sampleStddev, s.min, s.max]
    (fields.tail.map Prod.snd)

/-- The token shows it. -/
def Shown.In : Shown Exact → List Char → Prop
  | text s, token => token = s
  | count n, token => isNumber token = true ∧ Decimal.value token = n
  | figure n x unit, token => ∃ number, token = number ++ unit.toList ∧ Close n x number
  | stats s, token => StatsIn s (readFields token)

/-- The item is read, by its key. -/
structure Shown.Read (item : String × Shown Exact) (read : List Char × List Char) : Prop where
  key : read.1 = item.1.toList
  value : item.2.In read.2

/-- The entry tells the event. -/
structure EventItem.Tells (event : Event Exact) (entry : EventItem) : Prop where
  elapsedSec : Close 3 event.elapsedSec entry.elapsedSec
  kind : entry.kind = event.kind.toList
  detail : entry.detail = event.detail.toList

/-! ### The lines of the file -/

section Lines

variable {F : Type} [Double F] (number : Nat → F → List Char)

/-- The text that shows it. -/
def Shown.token : Shown F → List Char
  | text s => s
  | count n => countJson n
  | figure n x unit => number n x ++ unit.toList
  | stats s => statsMarkdown number s

def itemLine (item : String × Shown F) : List Char :=
  ("- " ++ item.1 ++ ": ").toList ++ item.2.token number

def eventLine (event : Event F) : List Char :=
  "- ".toList ++ number 3 event.elapsedSec ++ " s — **".toList ++ event.kind.toList ++
    "**: ".toList ++ event.detail.toList

/-- The row that shows the cells. -/
def rowLine (cells : List (Shown F)) : List Char :=
  '|' :: cells.flatMap fun c => ' ' :: (c.token number ++ [' ', '|'])

theorem topicMarkdown_eq (topic : String) (tracker : TopicTracker F) :
    topicMarkdown number topic tracker = rowLine number (topicRow topic tracker) := by
  unfold topicMarkdown rowLine topicRow
  simp [Shown.token]

namespace R3HardwareMonitor

variable (m : R3HardwareMonitor F) (sessionLabel : String) (elapsedSec : F)

/-- The sections before the events. -/
def sections : List (Section (List Char)) :=
  [⟨"# ASENSING R3 Hardware Validation Snapshot".toList,
      [] :: (snapshotItems sessionLabel elapsedSec).map (itemLine number) ++ [[]]⟩,
    ⟨"## Topic health".toList,
      [[], "| Topic | Count | Rate Hz | Max receive gap s | Header regressions |".toList,
        "| --- | ---: | ---: | ---: | ---: |".toList] ++ m.topicRows.map (rowLine number) ++ [[]]⟩,
    ⟨"## RTK quality".toList, [] :: m.rtkItems.map (itemLine number) ++ [[]]⟩,
    ⟨"## Initial static window".toList,
      [[], "The first ".toList ++ number 3 m.initialStaticWindowSec ++
        (" seconds after the first usable GNSS fix are treated as the initial static " ++
          "window.").toList, []] ++ m.staticItems.map (itemLine number) ++ [[]]⟩,
    ⟨"## IMU".toList, [] :: m.imuItems.map (itemLine number) ++ [[]]⟩,
    ⟨"## Device time".toList, [] :: m.deviceItems.map (itemLine number) ++ [[]]⟩]

/-- The section of the events. -/
def eventSection : Section (List Char) :=
  ⟨"## Events / markers".toList, [] :: m.events.map (eventLine number) ++ [[]]⟩

theorem makeMarkdown_eq : m.makeMarkdown number sessionLabel elapsedSec =
    Markdown.unlines '\n' (layout (m.sections number sessionLabel elapsedSec) ++
      (layout [m.eventSection number] ++
      "## Manual checks still required before R3 PASS".toList :: [] ::
        manualChecksMarkdown.map String.toList)) := by
  have hsession : "- Session: `".toList = "- Session: ".toList ++ "`".toList := by decide
  have hlabel : "- Validation label: **EVIDENCE_ONLY**".toList =
      "- Validation label: ".toList ++ "**EVIDENCE_ONLY**".toList := by decide
  have hfreeze : "- Freeze recommendation: **NOT_READY_UNTIL_MANUAL_R3_REVIEW**".toList =
      "- Freeze recommendation: ".toList ++ "**NOT_READY_UNTIL_MANUAL_R3_REVIEW**".toList := by
    decide
  unfold makeMarkdown sections eventSection snapshotItems rtkItems staticItems imuItems deviceItems
    topicRows eventLine
  congr 1
  -- The last item is there only with a device time.
  rcases m.firstDeviceTimeSec with _ | first <;> rcases m.lastDeviceTimeSec with _ | last
  all_goals
    simp only [hsession, hlabel, hfreeze, layout, ← topicMarkdown_eq, itemLine, Shown.token,
      List.flatMap_cons, List.flatMap_nil, List.map_cons, List.map_nil, List.append_assoc,
      List.cons_append, List.nil_append, List.append_nil, String.reduceAppend,
      -String.reduceToList]

end R3HardwareMonitor

end Lines

/-! ### Numbers -/

/-- Characters that no number has. -/
def separators : List Char := ['\n', ',', ':', '|', '=', '*', ' ']

theorem not_digit_of_separator {c : Char} (h : c ∈ separators) :
    digit c = false ∧ c ∉ ['.', '-', 'n', 'a', 'i', 'f'] := by
  have hall : (separators.all fun c =>
      !digit c && !(['.', '-', 'n', 'a', 'i', 'f'].contains c)) =
      true := rfl
  simpa using List.all_eq_true.mp hall c h

theorem not_mem_countJson {c : Char} (h : c ∈ separators) (n : ℕ) : c ∉ countJson n := by
  intro hc
  rw [countJson] at hc
  exact absurd (Decimal.digit_toDigits hc) (by simp [(not_digit_of_separator h).1])

theorem not_mem_decimals {c : Char} (h : c ∈ separators) (n : ℕ) (x : Exact) :
    c ∉ decimals n x := by
  obtain ⟨hdigit, hother⟩ := not_digit_of_separator h
  intro hc
  cases x with
  | num r =>
    have hpoint {k : ℕ} (hc : c ∈ Decimal.point (n - 1) k) : False := by
      rcases Decimal.mem_point hc with hc | rfl
      · rw [hdigit] at hc
        cases hc
      · simp at hother
    rw [decimals, Decimal.fixed] at hc
    split at hc
    · rcases List.mem_cons.mp hc with rfl | hc
      · simp at hother
      · exact hpoint hc
    · exact hpoint hc
  | inf negative => cases negative <;> simp_all [decimals]
  | nan => simp_all [decimals]

theorem close_decimals {n : ℕ} (hn : 0 < n) {x : Exact} (h : Number x) :
    Close n x (decimals n x) := by
  obtain ⟨r, rfl⟩ := h
  obtain ⟨n, rfl⟩ : ∃ k, n = k + 1 := ⟨n - 1, by omega⟩
  exact ⟨Decimal.isNumber_fixed n r, r, rfl, Decimal.abs_value_fixed_sub_le n r⟩

/-- The fields of a statistic are read back. -/
theorem readFields_stats (s : R3RunningStats Exact) : readFields (statsMarkdown decimals s) =
    [("n".toList, countJson s.count), ("mean".toList, decimals 4 s.mean),
      ("std".toList, decimals 4 s.sampleStddev), ("min".toList, decimals 4 s.min),
      ("max".toList, decimals 4 s.max)] := by
  have hcomma : ',' ∈ separators := by decide
  have hcount := not_mem_countJson hcomma s.count
  have hnumber (x : Exact) := not_mem_decimals hcomma 4 x
  have htext : statsMarkdown decimals s =
      ("n=".toList ++ countJson s.count) ++ ',' :: ((" mean=".toList ++ decimals 4 s.mean) ++ ',' ::
        ((" std=".toList ++ decimals 4 s.sampleStddev) ++ ',' ::
          ((" min=".toList ++ decimals 4 s.min) ++ ',' ::
            (" max=".toList ++ decimals 4 s.max)))) := by
    unfold statsMarkdown
    simp
  rw [htext, readFields_cons (by simp [hcount]), readFields_cons (by simp [hnumber]),
    readFields_cons (by simp [hnumber]), readFields_cons (by simp [hnumber]),
    readFields_of_not_mem (by simp [hnumber])]
  rfl

/-! ### Items, rows and events -/

/-- What is written between the numbers does not hold the character. -/
def Shown.Free {F : Type} (c : Char) : Shown F → Prop
  | text s => c ∉ s
  | count _ => True
  | figure _ _ unit => c ∉ unit.toList
  | stats _ => c ∉ "n=, mean=, std=, min=, max=".toList

theorem Shown.not_mem_token {c : Char} (hc : c ∈ separators) {s : Shown Exact} (h : s.Free c) :
    c ∉ s.token decimals := by
  have hcount := not_mem_countJson hc
  have hnumber := not_mem_decimals hc
  cases s with
  | text s => exact h
  | count n => exact hcount n
  | figure n x unit =>
    rw [token, List.mem_append, not_or]
    exact ⟨hnumber n x, h⟩
  | stats s =>
    rw [token]
    unfold statsMarkdown
    simp only [Free, String.reduceToList, List.mem_cons, List.not_mem_nil, not_or] at h
    simp [h, hcount, hnumber]

/-- The numbers that are shown are numbers. -/
def Shown.Numeric : Shown Exact → Prop
  | text _ | count _ => True
  | figure n x _ => 0 < n ∧ Number x
  | stats s => NumericStats s

theorem Shown.in_token {s : Shown Exact} (h : s.Numeric) : s.In (s.token decimals) := by
  cases s with
  | text s => rfl
  | count n => exact ⟨Decimal.isNumber_toDigits n, Decimal.value_toDigits n⟩
  | figure n x unit => exact ⟨_, rfl, close_decimals h.1 h.2⟩
  | stats s =>
    show StatsIn s (readFields (statsMarkdown decimals s))
    rw [readFields_stats]
    refine ⟨rfl, fun f hf => ?_, ?_⟩
    · obtain rfl := Option.some.inj hf
      exact Decimal.value_toDigits s.count
    · exact .cons (close_decimals (by decide) h.mean) (.cons (close_decimals (by decide)
        h.sampleStddev) (.cons (close_decimals (by decide) h.min)
          (.cons (close_decimals (by decide) h.max) .nil)))

/-- An item that is written on a line, with numbers. -/
structure Written (item : String × Shown Exact) : Prop where
  colon : ':' ∉ item.1.toList
  line : '\n' ∉ item.1.toList
  free : item.2.Free '\n'
  numeric : item.2.Numeric

theorem written {key : String} {shown : Shown Exact} (hfree : shown.Free '\n')
    (hnumeric : shown.Numeric)
    (hkey : key.toList.all (fun c => c != ':' && c != '\n') = true) : Written (key, shown) := by
  have hall (c : Char) (hc : c ∈ key.toList) : c ≠ ':' ∧ c ≠ '\n' := by
    simpa using List.all_eq_true.mp hkey c hc
  exact ⟨fun hc => (hall _ hc).1 rfl, fun hc => (hall _ hc).2 rfl, hfree, hnumeric⟩

theorem itemLine_eq (item : String × Shown Exact) : itemLine decimals item =
    '-' :: ' ' :: (item.1.toList ++ ':' :: ' ' :: item.2.token decimals) := by
  unfold itemLine
  simp

theorem readItem_itemLine {item : String × Shown Exact} (h : Written item) :
    readItem (itemLine decimals item) = some (item.1.toList, item.2.token decimals) := by
  rw [itemLine_eq, readItem_item h.colon]

theorem readRow_rowLine {cells : List (Shown Exact)} (h : ∀ c ∈ cells, c.Free '|') :
    readRow (rowLine decimals cells) = cells.map (Shown.token decimals) := by
  have htokens : ∀ t ∈ cells.map (Shown.token decimals), '|' ∉ t := by
    intro t ht
    obtain ⟨c, hc, rfl⟩ := List.mem_map.mp ht
    exact Shown.not_mem_token (by decide) (h c hc)
  rw [← readRow_row htokens, List.flatMap_map]
  rfl

theorem eventLine_eq (e : Event Exact) : eventLine decimals e =
    '-' :: ' ' :: ((decimals 3 e.elapsedSec ++ " s — **".toList ++ e.kind.toList ++ "**".toList) ++
      ':' :: ' ' :: e.detail.toList) := by
  unfold eventLine
  simp

/-- An event is read back, whatever its detail is. -/
theorem readEventItem_eventLine {e : Event Exact} (hcolon : ':' ∉ e.kind.toList)
    (hstar : '*' ∉ e.kind.toList) : readEventItem (eventLine decimals e) =
      some ⟨decimals 3 e.elapsedSec, e.kind.toList, e.detail.toList⟩ := by
  have hnumber : ∀ c ∈ decimals 3 e.elapsedSec, (c != ' ') = true := by
    intro c hc
    rw [bne_iff_ne]
    rintro rfl
    exact not_mem_decimals (by decide) 3 _ hc
  have hkind : ∀ c ∈ e.kind.toList, (c != '*') = true := by
    intro c hc
    rw [bne_iff_ne]
    rintro rfl
    exact hstar hc
  have hkey : ':' ∉ decimals 3 e.elapsedSec ++ " s — **".toList ++ e.kind.toList ++
      "**".toList := by
    simp [hcolon, not_mem_decimals (show ':' ∈ separators by decide)]
  have hbehind : decimals 3 e.elapsedSec ++ " s — **".toList ++ e.kind.toList ++ "**".toList =
      decimals 3 e.elapsedSec ++ ' ' :: 's' :: ' ' :: '—' :: ' ' :: '*' :: '*' ::
        (e.kind.toList ++ ['*', '*']) := by simp
  rw [readEventItem, eventLine_eq, readItem_item hkey, Option.bind_some]
  dsimp only
  rw [hbehind, List.dropWhile_append_of_pos hnumber, List.takeWhile_append_of_pos hnumber]
  simp [List.takeWhile_append_of_pos hkind]

/-! ### The sections -/

/-- A line that is no heading. -/
structure Below (l : List Char) : Prop where
  line : '\n' ∉ l
  below : heading l = false

theorem below_nil : Below [] := ⟨List.not_mem_nil, rfl⟩

theorem below_itemLine {item : String × Shown Exact} (h : Written item) :
    Below (itemLine decimals item) := by
  have htoken := Shown.not_mem_token (by decide) h.free
  rw [itemLine_eq]
  exact ⟨by simp [h.line, htoken], rfl⟩

theorem below_rowLine {cells : List (Shown Exact)} (h : ∀ c ∈ cells, c.Free '\n') :
    Below (rowLine decimals cells) := by
  refine ⟨?_, rfl⟩
  unfold rowLine
  simp only [List.mem_cons, List.mem_flatMap, not_or, not_exists, not_and]
  refine ⟨by decide, fun c hc => ?_⟩
  simp [Shown.not_mem_token (by decide) (h c hc)]

theorem below_eventLine {e : Event Exact} (hkind : '\n' ∉ e.kind.toList)
    (hdetail : '\n' ∉ e.detail.toList) : Below (eventLine decimals e) := by
  have hnumber := not_mem_decimals (show '\n' ∈ separators by decide) 3 e.elapsedSec
  rw [eventLine_eq]
  exact ⟨by simp [hkind, hdetail, hnumber], rfl⟩

/-- An event that is written on one line. -/
structure PlainEvent (kind detail : String) : Prop where
  line : '\n' ∉ kind.toList
  colon : ':' ∉ kind.toList
  star : '*' ∉ kind.toList
  detailLine : '\n' ∉ detail.toList

theorem R3HardwareMonitor.Observation.plainEvent {kind detail : String}
    (h : Observation kind detail) : PlainEvent kind detail := by
  cases h with
  | gnss => constructor <;> decide
  | staticWindow => constructor <;> decide
  | rtkFixed last => cases last <;> constructor <;> decide
  | positionType last next =>
    have hdigits := not_mem_countJson (show '\n' ∈ separators by decide)
    refine ⟨by decide, by decide, by decide, ?_⟩
    simp only [String.toList_append, Nat.toString_eq_repr, Nat.toList_repr, List.mem_append, not_or]
    exact ⟨⟨hdigits _, by decide⟩, hdigits _⟩

namespace R3HardwareMonitor

section Sections

variable {m : R3HardwareMonitor Exact} {sessionLabel : String} {elapsedSec : Exact}

theorem written_summary (hm : Numeric m) (hlabel : '\n' ∉ sessionLabel.toList)
    (helapsed : Number elapsedSec) :
    ∀ p ∈ m.summary sessionLabel elapsedSec, ∀ item ∈ p.items, Written item := by
  have hstats {s : R3RunningStats Exact} (hs : s ∈ m.statistics) : NumericStats s := by
    obtain ⟨values, rfl⟩ := hm.statistics s hs
    exact numericStats values
  have hnames : '\n' ∉ "n=, mean=, std=, min=, max=".toList := by decide
  intro p hp
  simp only [summary, List.mem_cons, List.not_mem_nil, or_false] at hp
  rcases hp with rfl | rfl | rfl | rfl | rfl
  · have hquoted : '\n' ∉ "`".toList ++ sessionLabel.toList ++ "`".toList := by simp [hlabel]
    simp only [snapshotItems, List.forall_mem_cons]
    exact ⟨written hquoted trivial rfl, written (by simp [Shown.Free]) ⟨by decide, helapsed⟩ rfl,
      written (by simp [Shown.Free]) trivial rfl, written (by simp [Shown.Free]) trivial rfl,
      by simp⟩
  · have hratio : Number (m.rtkFixedRatio * 100.0) := by
      obtain ⟨r, hr⟩ := hm.ratio
      exact ⟨r * 100, by rw [hr, ofScientific_eq, num_mul]; norm_num⟩
    simp only [rtkItems, List.forall_mem_cons]
    exact ⟨written trivial trivial rfl, written trivial trivial rfl, written trivial trivial rfl,
      written (by simp [Shown.Free]) ⟨by decide, hratio⟩ rfl,
      written hnames (hstats (by simp [statistics])) rfl,
      written hnames (hstats (by simp [statistics])) rfl,
      written hnames (hstats (by simp [statistics])) rfl,
      written hnames (hstats (by simp [statistics])) rfl, by simp⟩
  · simp only [staticItems, List.forall_mem_cons]
    exact ⟨written hnames (hstats (by simp [statistics])) rfl,
      written hnames (hstats (by simp [statistics])) rfl,
      written hnames (hstats (by simp [statistics])) rfl, by simp⟩
  · simp only [imuItems, List.forall_mem_cons]
    exact ⟨written hnames (hstats (by simp [statistics])) rfl,
      written hnames (hstats (by simp [statistics])) rfl, written trivial trivial rfl, by simp⟩
  · have hcounts : ∀ item ∈ [("Valid GPS-week/time samples", Shown.count m.deviceTimeCount),
        ("Device-time regressions", .count m.deviceTimeRegressions)], Written item := by
      simp only [List.forall_mem_cons]
      exact ⟨written trivial trivial rfl, written trivial trivial rfl, by simp⟩
    have htimes := hm.deviceTimes
    dsimp only [deviceItems]
    rw [List.forall_mem_append]
    refine ⟨hcounts, ?_⟩
    split
    · rename_i first last hfirst hlast
      have helapsed : Number (last - first) := number_sub
        (htimes _ (by simp) last hlast) (htimes _ List.mem_cons_self first hfirst)
      rw [List.forall_mem_singleton]
      exact written (by simp [Shown.Free]) ⟨by decide, helapsed⟩ rfl
    · simp

theorem below_sections (hm : Numeric m) (hlabel : '\n' ∉ sessionLabel.toList)
    (helapsed : Number elapsedSec) :
    ∀ s ∈ m.sections decimals sessionLabel elapsedSec, ∀ l ∈ s.body, Below l := by
  have hwritten := written_summary hm hlabel helapsed
  simp only [summary, List.forall_mem_cons] at hwritten
  obtain ⟨hsnapshot, hrtk, hstatic, himu, hdevice, -⟩ := hwritten
  have hitems {items : List (String × Shown Exact)} (h : ∀ item ∈ items, Written item) :
      ∀ l ∈ [] :: items.map (itemLine decimals) ++ [[]], Below l := by
    intro l hl
    simp only [List.cons_append, List.mem_cons, List.mem_append, List.mem_map, List.not_mem_nil,
      or_false] at hl
    rcases hl with rfl | ⟨item, hitem, rfl⟩ | rfl
    · exact below_nil
    · exact below_itemLine (h item hitem)
    · exact below_nil
  intro s hs
  simp only [sections, List.mem_cons, List.not_mem_nil, or_false] at hs
  rcases hs with rfl | rfl | rfl | rfl | rfl | rfl
  · exact hitems hsnapshot
  · have hrows : ∀ cells ∈ m.topicRows, ∀ c ∈ cells, c.Free '\n' := by
      simp [topicRows, topicRow, Shown.Free]
    simp only [List.forall_mem_append, List.forall_mem_cons, List.forall_mem_map]
    exact ⟨⟨⟨below_nil, ⟨by decide, rfl⟩, ⟨by decide, rfl⟩, by simp⟩,
      fun cells hcells => below_rowLine (hrows cells hcells)⟩, below_nil, by simp⟩
  · exact hitems hrtk
  · have hwindow : Below ("The first ".toList ++ decimals 3 m.initialStaticWindowSec ++
        (" seconds after the first usable GNSS fix are treated as the initial static " ++
          "window.").toList) := by
      have hnumber := not_mem_decimals (show '\n' ∈ separators by decide) 3 m.initialStaticWindowSec
      exact ⟨by simp [hnumber], rfl⟩
    intro l hl
    rcases List.mem_cons.mp hl with rfl | hl
    · exact below_nil
    rcases List.mem_cons.mp hl with rfl | hl
    · exact hwindow
    exact hitems hstatic l hl
  · exact hitems himu
  · exact hitems hdevice

/-- What stands below a heading of the figures. -/
theorem exists_section {p : Items Exact} (hp : p ∈ m.summary sessionLabel elapsedSec) :
    ∃ before, (∀ l ∈ before, readItem l = none) ∧
      ⟨p.heading.toList, before ++ p.items.map (itemLine decimals) ++ [[]]⟩ ∈
        m.sections decimals sessionLabel elapsedSec := by
  have hblank : ∀ l ∈ [([] : List Char)], readItem l = none := by simp [readItem]
  simp only [summary, List.mem_cons, List.not_mem_nil, or_false] at hp
  rcases hp with rfl | rfl | rfl | rfl | rfl
  · exact ⟨[[]], hblank, by simp [sections]⟩
  · exact ⟨[[]], hblank, by simp [sections]⟩
  · refine ⟨[[], "The first ".toList ++ decimals 3 m.initialStaticWindowSec ++
      (" seconds after the first usable GNSS fix are treated as the initial static " ++
        "window.").toList, []], ?_, by simp [sections]⟩
    simp only [List.forall_mem_cons]
    exact ⟨rfl, rfl, rfl, by simp⟩
  · exact ⟨[[]], hblank, by simp [sections]⟩
  · exact ⟨[[]], hblank, by simp [sections]⟩

/-- The sections are well formed, with any lines below the heading of the events. -/
theorem formed_sections (hm : Numeric m) (hlabel : '\n' ∉ sessionLabel.toList)
    (helapsed : Number elapsedSec) {events : List (List Char)}
    (hevents : ∀ l ∈ events, heading l = false) :
    Formed heading (m.sections decimals sessionLabel elapsedSec ++
      [⟨"## Events / markers".toList, events⟩]) := by
  have hbelow := below_sections hm hlabel helapsed
  constructor
  · intro s hs
    simp only [sections, List.mem_append, List.mem_cons, List.not_mem_nil, or_false] at hs
    rcases hs with (rfl | rfl | rfl | rfl | rfl | rfl) | rfl <;> rfl
  · intro s hs l hl
    rcases List.mem_append.mp hs with hs | hs
    · exact (hbelow s hs l hl).below
    · obtain rfl := List.mem_singleton.mp hs
      exact hevents l hl
  · show ["# ASENSING R3 Hardware Validation Snapshot".toList, "## Topic health".toList,
      "## RTK quality".toList, "## Initial static window".toList, "## IMU".toList,
      "## Device time".toList, "## Events / markers".toList].Nodup
    decide

theorem formed_figures (hm : Numeric m) (hlabel : '\n' ∉ sessionLabel.toList)
    (helapsed : Number elapsedSec) :
    Formed heading (m.sections decimals sessionLabel elapsedSec) := by
  have hnone : ∀ l ∈ ([] : List (List Char)), heading l = false := by simp
  exact (formed_sections hm hlabel helapsed hnone).left

theorem readItems_of_lines (hm : Numeric m) (hlabel : '\n' ∉ sessionLabel.toList)
    (helapsed : Number elapsedSec) {p : Items Exact} (hp : p ∈ m.summary sessionLabel elapsedSec)
    {rest : List (List Char)} (hrest : ∀ l ∈ rest.head?, heading l = true) :
    List.Forall₂ Shown.Read p.items (readItems p.heading
      (layout (m.sections decimals sessionLabel elapsedSec) ++ rest)) := by
  have hformed := formed_figures hm hlabel helapsed
  have hwritten := written_summary hm hlabel helapsed p hp
  obtain ⟨before, hbefore, hsection⟩ := exists_section hp
  have hread : (p.items.map (itemLine decimals)).filterMap readItem =
      p.items.map fun item => (item.1.toList, item.2.token decimals) := by
    rw [List.filterMap_map, ← List.filterMap_eq_map]
    exact List.filterMap_congr fun item hitem => readItem_itemLine (hwritten item hitem)
  have hitems : readItems p.heading (layout (m.sections decimals sessionLabel elapsedSec) ++ rest) =
      p.items.map fun item => (item.1.toList, item.2.token decimals) := by
    rw [readItems, below_layout hformed hsection hrest, List.filterMap_append,
      List.filterMap_append, List.filterMap_eq_nil_iff.mpr hbefore, hread]
    simp [readItem]
  rw [hitems, List.forall₂_map_right_iff, List.forall₂_same]
  exact fun item hitem => ⟨rfl, Shown.in_token (hwritten item hitem).numeric⟩

theorem readTopics_of_lines (hm : Numeric m) (hlabel : '\n' ∉ sessionLabel.toList)
    (helapsed : Number elapsedSec) {rest : List (List Char)}
    (hrest : ∀ l ∈ rest.head?, heading l = true) :
    List.Forall₂ (List.Forall₂ Shown.In) m.topicRows (readTopics
      (layout (m.sections decimals sessionLabel elapsedSec) ++ rest)) := by
  have hformed := formed_figures hm hlabel helapsed
  obtain ⟨before, hbefore, hsection⟩ : ∃ before,
      (before.filter (·.head? == some '|')).length = 2 ∧
      ⟨"## Topic health".toList, before ++ m.topicRows.map (rowLine decimals) ++ [[]]⟩ ∈
        m.sections decimals sessionLabel elapsedSec := by
    refine ⟨[[], "| Topic | Count | Rate Hz | Max receive gap s | Header regressions |".toList,
      "| --- | ---: | ---: | ---: | ---: |".toList], ?_, by simp [sections]⟩
    rfl
  have hrows : ∀ cells ∈ m.topicRows, (∀ c ∈ cells, c.Free '|') ∧ ∀ c ∈ cells, c.Numeric := by
    have htrackers := hm.trackers
    simp only [trackers, List.forall_mem_cons] at htrackers
    obtain ⟨hfix, hstatus, himu, hvelocity, -⟩ := htrackers
    simp [topicRows, topicRow, Shown.Free, Shown.Numeric, number_rateHz, hfix, hstatus, himu,
      hvelocity]
  have hbars : (m.topicRows.map (rowLine decimals)).filter (·.head? == some '|') =
      m.topicRows.map (rowLine decimals) := by
    rw [List.filter_eq_self]
    intro l hl
    obtain ⟨cells, -, rfl⟩ := List.mem_map.mp hl
    rfl
  have hcells : m.topicRows.map (readRow ∘ rowLine decimals) =
      m.topicRows.map (List.map (Shown.token decimals)) :=
    List.map_congr_left fun cells hcells => readRow_rowLine (hrows cells hcells).1
  have htopics : readTopics (layout (m.sections decimals sessionLabel elapsedSec) ++ rest) =
      m.topicRows.map (List.map (Shown.token decimals)) := by
    rw [readTopics, below_layout hformed hsection hrest, List.filter_append, List.filter_append,
      hbars, ← hbefore, List.append_assoc, List.drop_left, List.map_append, List.map_map, hcells]
    exact List.append_nil _
  rw [htopics, List.forall₂_map_right_iff, List.forall₂_same]
  intro cells hcells
  rw [List.forall₂_map_right_iff, List.forall₂_same]
  exact fun c hc => Shown.in_token ((hrows cells hcells).2 c hc)

theorem forall_mem_eventSection {P : List Char → Prop} (hnil : P [])
    (hline : ∀ e ∈ m.events, P (eventLine decimals e)) :
    ∀ l ∈ (m.eventSection decimals).body, P l := by
  show ∀ l ∈ [] :: m.events.map (eventLine decimals) ++ [[]], P l
  intro l hl
  simp only [List.cons_append, List.mem_cons, List.mem_append, List.mem_map, List.not_mem_nil,
    or_false] at hl
  rcases hl with rfl | ⟨e, he, rfl⟩ | rfl
  · exact hnil
  · exact hline e he
  · exact hnil

theorem readEvents_of_lines (hm : Numeric m) (hlabel : '\n' ∉ sessionLabel.toList)
    (helapsed : Number elapsedSec) (hevents : ∀ e ∈ m.events, PlainEvent e.kind e.detail)
    {rest : List (List Char)} (hrest : ∀ l ∈ rest.head?, heading l = true) :
    List.Forall₂ EventItem.Tells m.events (readEvents
      (layout (m.sections decimals sessionLabel elapsedSec ++ [m.eventSection decimals]) ++
        rest)) := by
  have hbody : ∀ l ∈ (m.eventSection decimals).body, heading l = false :=
    forall_mem_eventSection rfl fun e _ => by rw [eventLine_eq]; rfl
  have hread : (m.events.map (eventLine decimals)).filterMap readEventItem =
      m.events.map fun e => ⟨decimals 3 e.elapsedSec, e.kind.toList, e.detail.toList⟩ := by
    rw [List.filterMap_map, ← List.filterMap_eq_map]
    exact List.filterMap_congr fun e he =>
      readEventItem_eventLine (hevents e he).colon (hevents e he).star
  have hitems : readEvents (layout (m.sections decimals sessionLabel elapsedSec ++
      [m.eventSection decimals]) ++ rest) =
        m.events.map fun e => ⟨decimals 3 e.elapsedSec, e.kind.toList, e.detail.toList⟩ := by
    have hbelow : below heading "## Events / markers".toList
        (layout (m.sections decimals sessionLabel elapsedSec ++ [m.eventSection decimals]) ++
          rest) = [] :: m.events.map (eventLine decimals) ++ [[]] :=
      below_layout (formed_sections hm hlabel helapsed hbody)
        (List.mem_append_right _ List.mem_cons_self) hrest
    rw [readEvents, hbelow, List.filterMap_append, List.filterMap_cons_none rfl, hread]
    exact List.append_nil _
  rw [hitems, List.forall₂_map_right_iff, List.forall₂_same]
  exact fun e he => ⟨close_decimals (by decide) (hm.events e he), rfl, rfl⟩

theorem line_sections (hm : Numeric m) (hlabel : '\n' ∉ sessionLabel.toList)
    (helapsed : Number elapsedSec) :
    ∀ l ∈ layout (m.sections decimals sessionLabel elapsedSec), '\n' ∉ l := by
  intro l hl
  obtain ⟨s, hs, hl⟩ := List.mem_flatMap.mp hl
  rcases List.mem_cons.mp hl with rfl | hl
  · simp only [sections, List.mem_cons, List.not_mem_nil, or_false] at hs
    rcases hs with rfl | rfl | rfl | rfl | rfl | rfl
    all_goals
      dsimp only
      decide
  · exact (below_sections hm hlabel helapsed s hs l hl).line

/-- The lines of the file.  What stands behind the heading of the events depends on them. -/
theorem splitOn_makeMarkdown (hm : Numeric m) (hlabel : '\n' ∉ sessionLabel.toList)
    (helapsed : Number elapsedSec) :
    (∃ rest, (m.makeMarkdown decimals sessionLabel elapsedSec).splitOn '\n' =
      layout (m.sections decimals sessionLabel elapsedSec) ++
        "## Events / markers".toList :: rest) ∧
    ((∀ e ∈ m.events, PlainEvent e.kind e.detail) →
      ∃ rest, (∀ l ∈ rest.head?, heading l = true) ∧
        (m.makeMarkdown decimals sessionLabel elapsedSec).splitOn '\n' =
          layout (m.sections decimals sessionLabel elapsedSec ++ [m.eventSection decimals]) ++
            rest) := by
  have hsections := line_sections hm hlabel helapsed
  have htitle : '\n' ∉ "## Events / markers".toList := by decide
  rw [makeMarkdown_eq, layout_append]
  have hevents : layout [m.eventSection decimals] =
      ["## Events / markers".toList] ++ (m.eventSection decimals).body := List.append_nil _
  constructor
  · have hfront : ∀ l ∈ layout (m.sections decimals sessionLabel elapsedSec) ++
        ["## Events / markers".toList], '\n' ∉ l := by
      rw [List.forall_mem_append, List.forall_mem_singleton]
      exact ⟨hsections, htitle⟩
    rw [hevents, List.append_assoc, ← List.append_assoc, Markdown.unlines_append,
      splitOn_unlines hfront, List.append_assoc]
    exact ⟨_, rfl⟩
  · intro hplain
    have hbody : ∀ l ∈ (m.eventSection decimals).body, '\n' ∉ l :=
      forall_mem_eventSection List.not_mem_nil fun e he =>
        (below_eventLine (hplain e he).line (hplain e he).detailLine).line
    have hfront : ∀ l ∈ (layout (m.sections decimals sessionLabel elapsedSec) ++
        layout [m.eventSection decimals]) ++
          ["## Manual checks still required before R3 PASS".toList], '\n' ∉ l := by
      rw [hevents]
      simp only [List.forall_mem_append, List.forall_mem_singleton]
      exact ⟨⟨hsections, htitle, hbody⟩, by decide⟩
    have happend (A E cs : List (List Char)) (c : List Char) :
        A ++ (E ++ c :: cs) = (A ++ E ++ [c]) ++ cs := by simp
    rw [happend, Markdown.unlines_append, splitOn_unlines hfront, List.append_assoc]
    refine ⟨_, fun l hl => ?_, rfl⟩
    obtain rfl := Option.some.inj hl
    rfl

end Sections

theorem exists_tells {events : List (Event Exact)} {items : List EventItem}
    (h : List.Forall₂ EventItem.Tells events items) {e : Event Exact} (he : e ∈ events) :
    ∃ item ∈ items, EventItem.Tells e item := by
  induction h with
  | nil => cases he
  | @cons _ item _ _ htells _ ih =>
    rcases List.mem_cons.mp he with rfl | he
    · exact ⟨item, List.mem_cons_self, htells⟩
    · obtain ⟨item, hitem, htells⟩ := ih he
      exact ⟨item, List.mem_cons_of_mem _ hitem, htells⟩

/-- What is read as the detail of an event is a part of one line. -/
theorem line_readEvents {text : List Char} {item : EventItem}
    (h : item ∈ readEvents (text.splitOn '\n')) : '\n' ∉ item.detail := by
  obtain ⟨line, hline, hread⟩ := List.mem_filterMap.mp h
  obtain ⟨pair, hpair, hitem⟩ := Option.bind_eq_some_iff.mp hread
  have hdetail : item.detail = pair.2 := by
    split at hitem
    · rw [← Option.some.inj hitem]
    · cases hitem
  have hsubset : item.detail ⊆ line := hdetail ▸ subset_of_readItem hpair
  exact fun hnewline =>
    not_mem_of_mem_splitOn (below_subset heading _ _ hline) (hsubset hnewline)

/-- After any sequence of calls, and with or without the event of `finalize`, in exact arithmetic,
with a finite static window and a label on one line: whatever the markers hold, a reader of
`report.md` learns the items of its sections and the table of the topics, with each number up to
half a unit of its last decimal; and it learns the events exactly when no marker holds a line
feed. -/
theorem run_markdown (steady : ℕ →o ℤ) (window : ℝ) (label : Label)
    (callbacks : List (Callback Exact)) (stopped : Bool) :
    let m := run steady (num window) callbacks
    let m := if stopped then m.finalized steady else m
    let elapsedSec : Exact := seconds (steady (m.readings + 1) - m.sessionStart)
    let lines := (m.makeMarkdown decimals label.text elapsedSec).splitOn '\n'
    (∀ p ∈ m.summary label.text elapsedSec,
      List.Forall₂ Shown.Read p.items (readItems p.heading lines)) ∧
    List.Forall₂ (List.Forall₂ Shown.In) m.topicRows (readTopics lines) ∧
    (List.Forall₂ EventItem.Tells m.events (readEvents lines) ↔
      ∀ data ∈ markers callbacks, '\n' ∉ data.toList) := by
  intro running m elapsedSec lines
  obtain ⟨hnumeric, hkept, hcases⟩ := run_ended steady window callbacks stopped
  have helapsed : Number elapsedSec := number_seconds _
  obtain ⟨⟨rest, hlines⟩, hplain⟩ := splitOn_makeMarkdown hnumeric label.line helapsed
  have hheading : ∀ l ∈ ("## Events / markers".toList :: rest).head?, heading l = true := by
    intro l hl
    obtain rfl := Option.some.inj hl
    rfl
  have hlines : lines = _ := hlines
  refine ⟨fun p hp => ?_, ?_, fun hevents data hdata => ?_, fun hmarkers => ?_⟩
  · rw [hlines]
    exact readItems_of_lines hnumeric label.line helapsed hp hheading
  · rw [hlines]
    exact readTopics_of_lines hnumeric label.line helapsed hheading
  · obtain ⟨e, he, rfl⟩ := exists_event steady (num window) callbacks hdata
    obtain ⟨item, hitem, htells⟩ := exists_tells hevents (hkept e he)
    rw [← htells.detail]
    exact line_readEvents hitem
  · have hrun := forall_events (P := PlainEvent) steady (num window) callbacks
      (by constructor <;> decide) (fun _ _ h => h.plainEvent)
      fun data hdata => ⟨by decide, by decide, by decide, hmarkers data hdata⟩
    have hevents : ∀ e ∈ m.events, PlainEvent e.kind e.detail := by
      intro e he
      rcases hcases e he with he | ⟨hkind, hdetail⟩
      · exact hrun e he
      · rw [hkind, hdetail]
        constructor <;> decide
    obtain ⟨rest, hrest, hread⟩ := hplain hevents
    have hread : lines = _ := hread
    rw [hread]
    exact readEvents_of_lines hnumeric label.line helapsed hevents hrest

end R3HardwareMonitor

end AsensingDriver
