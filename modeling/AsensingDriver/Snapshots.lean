import AsensingDriver.Lib.Markdown
import AsensingDriver.Lib.Truncation
import AsensingDriver.Lib.Versions
import AsensingDriver.Report
import AsensingDriver.WriteAtomic

/-! The reports on disk.  The monitor writes `report.json` and `report.md` at every snapshot and
when it stops, while other processes may read them, and any step of a write may fail.
`run_readable` says what a reader of `report.json` finds at any moment. -/

namespace AsensingDriver

open Json Exact
open R3HardwareMonitor (Callback markers)

/-! ### `report.md` -/

section Markdown

variable {F : Type} [Double F] (number : Nat → F → List Char)

def statsMarkdown (stats : R3RunningStats F) : List Char :=
  "n=".toList ++ countJson stats.count ++ ", mean=".toList ++ number 4 stats.mean ++
    ", std=".toList ++ number 4 stats.sampleStddev ++ ", min=".toList ++ number 4 stats.min ++
    ", max=".toList ++ number 4 stats.max

/-- The row of a topic. -/
def topicMarkdown (topic : String) (tracker : TopicTracker F) : List Char :=
  "| ".toList ++ topic.toList ++ " | ".toList ++ countJson tracker.count ++ " | ".toList ++
    number 3 tracker.rateHz ++ " | ".toList ++ number 3 tracker.maxGapSec ++ " | ".toList ++
    countJson tracker.stampRegressions ++ " |".toList

/-- The checks at the end. -/
def manualChecksMarkdown : List String :=
  ["- [ ] Verify roll/pitch/yaw axis/sign convention against REP-103 before enabling device " ++
      "orientation in `/ins/imu`.",
    "- [ ] Confirm the ASENSING `position_type` enum from vendor evidence, including RTK fixed.",
    "- [ ] Observe controlled RTK degradation and recovery.",
    "- [ ] Verify serial disconnect/reconnect while stationary.",
    "- [ ] Measure `base_link -> rtk_antenna_link` lever arm.",
    "- [ ] Review rosbag and logs before proposing a candidate SHA/tag."]

namespace R3HardwareMonitor

/-- The text of `report.md`.  `number n` writes a number with `n` decimals. -/
def makeMarkdown (m : R3HardwareMonitor F) (sessionLabel : String) (elapsedSec : F) : List Char :=
  Markdown.unlines '\n'
    (["# ASENSING R3 Hardware Validation Snapshot".toList,
      [],
      "- Session: `".toList ++ sessionLabel.toList ++ "`".toList,
      "- Elapsed: ".toList ++ number 3 elapsedSec ++ " s".toList,
      "- Validation label: **EVIDENCE_ONLY**".toList,
      "- Freeze recommendation: **NOT_READY_UNTIL_MANUAL_R3_REVIEW**".toList,
      [],
      "## Topic health".toList,
      [],
      "| Topic | Count | Rate Hz | Max receive gap s | Header regressions |".toList,
      "| --- | ---: | ---: | ---: | ---: |".toList,
      topicMarkdown number "/ins/navsatfix" m.fixTracker,
      topicMarkdown number "/ins/status" m.statusTracker,
      topicMarkdown number "/ins/imu" m.imuTracker,
      topicMarkdown number "/ins/velocity (diagnostic only)" m.velocityTracker,
      [],
      "## RTK quality".toList,
      [],
      "- Usable fixes: ".toList ++ countJson m.usableFixCount,
      "- Valid solution status samples: ".toList ++ countJson m.validSolutionStatusCount,
      "- RTK fixed samples: ".toList ++ countJson m.rtkFixedCount,
      "- RTK fixed ratio: ".toList ++ number 3 (m.rtkFixedRatio * 100.0) ++ "%".toList,
      "- Satellites: ".toList ++ statsMarkdown number m.satelliteCount,
      "- East std m: ".toList ++ statsMarkdown number m.eastStdM,
      "- North std m: ".toList ++ statsMarkdown number m.northStdM,
      "- Up std m: ".toList ++ statsMarkdown number m.upStdM,
      [],
      "## Initial static window".toList,
      [],
      "The first ".toList ++ number 3 m.initialStaticWindowSec ++
        (" seconds after the first usable GNSS fix are treated as the initial static " ++
          "window.").toList,
      [],
      "- East offset m: ".toList ++ statsMarkdown number m.staticEastM,
      "- North offset m: ".toList ++ statsMarkdown number m.staticNorthM,
      "- Altitude delta m: ".toList ++ statsMarkdown number m.staticAltitudeM,
      [],
      "## IMU".toList,
      [],
      "- Gyro norm rad/s: ".toList ++ statsMarkdown number m.gyroNormRadS,
      "- Acceleration norm m/s^2: ".toList ++ statsMarkdown number m.accelNormMS2,
      "- Samples advertising orientation: ".toList ++ countJson m.orientationAvailableCount,
      [],
      "## Device time".toList,
      [],
      "- Valid GPS-week/time samples: ".toList ++ countJson m.deviceTimeCount,
      "- Device-time regressions: ".toList ++ countJson m.deviceTimeRegressions] ++
    (match m.firstDeviceTimeSec, m.lastDeviceTimeSec with
      | some first, some last =>
        ["- Device elapsed time: ".toList ++ number 3 (last - first) ++ " s".toList]
      | _, _ => []) ++
    [[], "## Events / markers".toList, []] ++
    (m.events.map fun event =>
      "- ".toList ++ number 3 event.elapsedSec ++ " s — **".toList ++ event.kind.toList ++
        "**: ".toList ++ event.detail.toList) ++
    [[], "## Manual checks still required before R3 PASS".toList, []] ++
    manualChecksMarkdown.map String.toList)

end R3HardwareMonitor

end Markdown

/-! ### Writing the reports -/

section Writing

variable {F : Type} [Double F] (number : Nat → F → List Char) (steady : Nat → Int)
  (outputDir sessionLabel : String)

/-- The path of a file in the output directory. -/
def reportPath (outputDir name : String) : String :=
  (if outputDir.isEmpty || outputDir.endsWith "/" then outputDir else outputDir ++ "/") ++ name

/-- What `elapsed_sec` returns at reading `n` of the clock. -/
def R3HardwareMonitor.elapsedSec (m : R3HardwareMonitor F) (n : Nat) : F :=
  seconds (steady n - m.sessionStart)

/-- The bytes of `report.json`, for which the clock is read once. -/
def jsonBytes (m : R3HardwareMonitor F) : List UInt8 :=
  utf8 (m.makeJson (number 6) sessionLabel (m.elapsedSec steady m.readings))

/-- The bytes of `report.md`, for which the clock is read once more. -/
def markdownBytes (m : R3HardwareMonitor F) : List UInt8 :=
  utf8 (m.makeMarkdown number sessionLabel (m.elapsedSec steady (m.readings + 1)))

/-- The files after each step of `write_reports`. -/
def writeReports (m : R3HardwareMonitor F) (files : Files String (List UInt8))
    (os : Faults × Faults) : List (Files String (List UInt8)) :=
  let json := writeAtomic files (reportPath outputDir "report.json")
    (jsonBytes number steady sessionLabel m) os.1
  json ++ writeAtomic (json.getLast?.getD files) (reportPath outputDir "report.md")
    (markdownBytes number steady sessionLabel m) os.2

/-- The monitor with its files, now and at every moment so far. -/
structure Recorder (F : Type) where
  monitor : R3HardwareMonitor F
  files : Files String (List UInt8)
  visited : List (Files String (List UInt8))

namespace Recorder

def start (initialStaticWindowSec : F) (files : Files String (List UInt8)) : Recorder F :=
  ⟨.started steady initialStaticWindowSec, files, [files]⟩

/-- The reports of the monitor `m` are written. -/
def write (recorder : Recorder F) (m : R3HardwareMonitor F) (os : Faults × Faults) : Recorder F :=
  let states := writeReports number steady outputDir sessionLabel m recorder.files os
  { recorder with
    files := states.getLast?.getD recorder.files
    visited := recorder.visited ++ states }

/-- A call, with what happens to the files if it is a snapshot. -/
def step (recorder : Recorder F) (call : Callback F × Faults × Faults) : Recorder F :=
  let written :=
    match call.1 with
    | .snapshot => recorder.write number steady outputDir sessionLabel recorder.monitor call.2
    | _ => recorder
  { written with monitor := recorder.monitor.handle steady call.1 }

def run (initialStaticWindowSec : F) (files : Files String (List UInt8))
    (calls : List (Callback F × Faults × Faults)) : Recorder F :=
  calls.foldl (step number steady outputDir sessionLabel)
    (start steady initialStaticWindowSec files)

/-- The end of the program. -/
def finalize (recorder : Recorder F) (os : Faults × Faults) : Recorder F :=
  let m := recorder.monitor.finalized steady
  { recorder.write number steady outputDir sessionLabel m os with monitor := m }

end Recorder

end Writing

/-! ### Readers -/

section Paths

variable (outputDir : String)

theorem length_reportPath :
    ∃ n, ∀ name, (reportPath outputDir name).length = n + name.length := by
  refine ⟨(if outputDir.isEmpty || outputDir.endsWith "/" then outputDir
    else outputDir ++ "/").length, fun name => ?_⟩
  rw [reportPath, String.length_append]

theorem length_tempPath (path : String) : (tempPath path).length = path.length + 4 :=
  String.length_append path ".tmp"

/-- `report.md` and its temporary file are other files than `report.json` and its own. -/
theorem reportPath_ne :
    let json := reportPath outputDir "report.json"
    let md := reportPath outputDir "report.md"
    (json ≠ md ∧ json ≠ tempPath md) ∧ tempPath json ≠ md ∧ tempPath json ≠ tempPath md := by
  obtain ⟨n, hn⟩ := length_reportPath outputDir
  have hjson : (reportPath outputDir "report.json").length = n + 11 := hn _
  have hmd : (reportPath outputDir "report.md").length = n + 9 := hn _
  have hne {a b : String} (h : a.length ≠ b.length) : a ≠ b := fun hab => h (by rw [hab])
  exact ⟨⟨hne (by omega), hne (by rw [length_tempPath]; omega)⟩,
    hne (by rw [length_tempPath]; omega), hne (by rw [length_tempPath, length_tempPath]; omega)⟩

end Paths

section Reads

variable {Written : ℕ → List UInt8 → Prop} {path : String} {files : Files String (List UInt8)}
  {i j k : ℕ}

/-- Whatever fails in a write, the versions at the path do not go back. -/
theorem writeAtomic_history (h : Files.Dated Written (tempPath path) path files i j) (hk : j ≤ k)
    {content : List UInt8} (hcontent : ∀ n, Written k (content.take n)) (os : Faults) :
    let states := writeAtomic files path content os
    ∃ i' j', i ≤ i' ∧ j' ≤ k ∧ Files.History Written path i i' states ∧
      Files.Dated Written (tempPath path) path (states.getLast?.getD files) i' j' := by
  have hne := (path_ne_tempPath path).symm
  obtain ⟨j₁, -, hk₁, htruncated⟩ := h.store hne hk (hcontent 0) os.opened
  obtain ⟨j₂, -, hk₂, hwritten⟩ := htruncated.store hne hk₁ (hcontent os.stored) os.opened
  obtain ⟨i₁, hi₁, hrenamed⟩ := hwritten.rename hne os.renamed
  have hremoved := hrenamed.remove hne os.removed
  obtain ⟨i₂, hi₂, hretried⟩ := hremoved.rename hne os.retried
  unfold writeAtomic
  dsimp only
  split
  · refine ⟨i₁, j₂, hi₁, hk₂, ?_, hrenamed⟩
    exact .cons htruncated.shown (.cons hwritten.shown (.single hrenamed.shown) hi₁ le_rfl) le_rfl
      hi₁
  · have hi := hi₁.trans hi₂
    refine ⟨i₂, j₂, hi, hk₂, ?_, hretried⟩
    refine .cons htruncated.shown (.cons hwritten.shown ?_ hi₁ hi₂) le_rfl hi
    exact .cons hrenamed.shown (.cons hremoved.shown (.single hretried.shown) hi₂ le_rfl) le_rfl hi₂

/-- A write of `report.md` does not touch `report.json`. -/
theorem writeMarkdown_ne (outputDir : String) (files : Files String (List UInt8))
    (content : List UInt8) (os : Faults) :
    let json := reportPath outputDir "report.json"
    ∀ s ∈ writeAtomic files (reportPath outputDir "report.md") content os,
      s json = files json ∧ s (tempPath json) = files (tempPath json) := by
  intro json s hs
  obtain ⟨hjson, htemp⟩ := reportPath_ne outputDir
  exact ⟨writeAtomic_ne files _ content os hjson.1 hjson.2 s hs,
    writeAtomic_ne files _ content os htemp.1 htemp.2 s hs⟩

variable {F : Type} [Double F] (number : Nat → F → List Char) (steady : Nat → Int)
  (outputDir sessionLabel : String)

/-- What is left in the files of `report.json` is what its own write has left there. -/
theorem writeReports_last (m : R3HardwareMonitor F) (files : Files String (List UInt8))
    (os : Faults × Faults) :
    let path := reportPath outputDir "report.json"
    let json := writeAtomic files path (jsonBytes number steady sessionLabel m) os.1
    let last := (writeReports number steady outputDir sessionLabel m files os).getLast?.getD files
    last path = (json.getLast?.getD files) path ∧
      last (tempPath path) = (json.getLast?.getD files) (tempPath path) := by
  intro path json last
  have hmarkdown := writeMarkdown_ne outputDir (json.getLast?.getD files)
    (markdownBytes number steady sessionLabel m) os.2
  have hlast : last = (json ++ writeAtomic (json.getLast?.getD files)
      (reportPath outputDir "report.md") (markdownBytes number steady sessionLabel m)
        os.2).getLast?.getD files := rfl
  rw [hlast, List.getLast?_append]
  cases hs : (writeAtomic (json.getLast?.getD files) (reportPath outputDir "report.md")
      (markdownBytes number steady sessionLabel m) os.2).getLast? with
  | none => exact ⟨rfl, rfl⟩
  | some s => exact hmarkdown s (List.mem_of_getLast? hs)

theorem writeReports_history
    (h : Files.Dated Written (tempPath (reportPath outputDir "report.json"))
      (reportPath outputDir "report.json") files i j)
    (hk : j ≤ k) (m : R3HardwareMonitor F)
    (hm : ∀ n, Written k ((jsonBytes number steady sessionLabel m).take n)) (os : Faults × Faults) :
    let path := reportPath outputDir "report.json"
    let states := writeReports number steady outputDir sessionLabel m files os
    ∃ i' j', i ≤ i' ∧ j' ≤ k ∧ Files.History Written path i i' states ∧
      Files.Dated Written (tempPath path) path (states.getLast?.getD files) i' j' := by
  intro path states
  obtain ⟨i', j', hi, hj, hhistory, hdated⟩ := writeAtomic_history h hk hm os.1
  obtain ⟨hpath, htemp⟩ := writeReports_last number steady outputDir sessionLabel m files os
  refine ⟨i', j', hi, hj, hhistory.append (.of_forall fun s hs => ?_) hi le_rfl, ?_, ?_, hdated.le⟩
  · have hmarkdown := writeMarkdown_ne outputDir _ _ os.2 s hs
    rw [hmarkdown.1]
    exact hdated.shown
  · rw [hpath]
    exact hdated.shown
  · rw [htemp]
    exact hdated.staged

/-- A write whose steps succeed leaves the whole text in `report.json`. -/
theorem writeReports_path (m : R3HardwareMonitor F) (files : Files String (List UInt8))
    (os : Faults × Faults) (hopened : os.1.opened = true) (hrenamed : os.1.renamed = true)
    (hstored : (jsonBytes number steady sessionLabel m).length ≤ os.1.stored) :
    let last := (writeReports number steady outputDir sessionLabel m files os).getLast?.getD files
    last (reportPath outputDir "report.json") = some (jsonBytes number steady sessionLabel m) := by
  intro last
  refine (writeReports_last number steady outputDir sessionLabel m files os).1.trans ?_
  have hmap := writeAtomic_path files (reportPath outputDir "report.json")
    (jsonBytes number steady sessionLabel m) os.1
  rw [staged, hopened, hrenamed, if_pos rfl, List.take_of_length_le hstored] at hmap
  have hlast := congrArg List.getLast? hmap
  rw [List.getLast?_map] at hlast
  obtain ⟨s, hs, hcontent⟩ := Option.map_eq_some_iff.mp hlast
  rw [hs]
  exact hcontent

end Reads

/-! ### Runs -/

/-- The snapshots among the calls. -/
def snapshots {F : Type} (callbacks : List (Callback F)) : Nat :=
  callbacks.countP fun c => match c with
    | .snapshot => true
    | .fix _ | .status _ | .imu _ | .velocity _ | .marker _ => false

/-- In a run that ends with `finalize`, the monitor `m` writes the `i`-th report. -/
inductive Reported {F : Type} [Double F] (steady : Nat → Int) (window : F)
    (callbacks : List (Callback F)) : ℕ → R3HardwareMonitor F → Prop
  | snapshot {before : List (Callback F)} (h : before ++ [.snapshot] <+: callbacks) :
    Reported steady window callbacks (snapshots before + 1) (.run steady window before)
  | stopped :
    Reported steady window callbacks (snapshots callbacks + 1)
      ((R3HardwareMonitor.run steady window callbacks).finalized steady)

section Runs

variable {F : Type} [Double F] (number : Nat → F → List Char) (steady : Nat → Int)
  (outputDir sessionLabel : String) (window : F) (files : Files String (List UInt8))

theorem Recorder.run_monitor (calls : List (Callback F × Faults × Faults)) :
    (Recorder.run number steady outputDir sessionLabel window files calls).monitor =
      .run steady window (calls.map Prod.fst) := by
  induction calls using List.reverseRecOn with
  | nil => rfl
  | append_singleton calls call ih =>
    rw [List.map_append, List.map_singleton, R3HardwareMonitor.run_concat, ← ih]
    rw [Recorder.run, List.foldl_append]
    rfl

/-- What the run of the monitor has shown, with `report.json` as the last write has left it. -/
def Recorder.Told (Written : ℕ → List UInt8 → Prop) (path : String) (k : ℕ)
    (recorder : Recorder F) : Prop :=
  ∃ i j, j ≤ k ∧ Files.History Written path 0 i recorder.visited ∧
    Files.Dated Written (tempPath path) path recorder.files i j

variable {Written : ℕ → List UInt8 → Prop}

theorem Recorder.Told.write {recorder : Recorder F} {k : ℕ}
    (h : recorder.Told Written (reportPath outputDir "report.json") k) (m : R3HardwareMonitor F)
    (hm : ∀ n, Written (k + 1) ((jsonBytes number steady sessionLabel m).take n))
    (os : Faults × Faults) :
    (recorder.write number steady outputDir sessionLabel m os).Told Written
      (reportPath outputDir "report.json") (k + 1) := by
  obtain ⟨i, j, hj, hhistory, hdated⟩ := h
  obtain ⟨i', j', hi, hj', hwritten, hlast⟩ :=
    writeReports_history number steady outputDir sessionLabel hdated (Nat.le_succ_of_le hj) m hm os
  exact ⟨i', j', hj', hhistory.append hwritten (Nat.zero_le i) hi, hlast⟩

theorem Recorder.told_run
    (hinitial : ∀ c, files (reportPath outputDir "report.json") = some c ∨
      files (tempPath (reportPath outputDir "report.json")) = some c → Written 0 c)
    (calls : List (Callback F × Faults × Faults))
    (hreports : ∀ before, before ++ [.snapshot] <+: calls.map Prod.fst →
      ∀ n, Written (snapshots before + 1)
        ((jsonBytes number steady sessionLabel (.run steady window before)).take n)) :
    (Recorder.run number steady outputDir sessionLabel window files calls).Told Written
      (reportPath outputDir "report.json") (snapshots (calls.map Prod.fst)) := by
  induction calls using List.reverseRecOn with
  | nil =>
    have hdated : Files.Dated Written (tempPath (reportPath outputDir "report.json"))
        (reportPath outputDir "report.json") files 0 0 :=
      ⟨fun c hc => hinitial c (.inl hc), fun c hc => hinitial c (.inr hc), le_rfl⟩
    exact ⟨0, 0, le_rfl, .single hdated.shown, hdated⟩
  | append_singleton calls call ih =>
    rw [List.map_append, List.map_singleton] at hreports ⊢
    have hbefore := ih fun before h => hreports before (h.trans (List.prefix_append _ _))
    have hmonitor := Recorder.run_monitor number steady outputDir sessionLabel window files calls
    rw [Recorder.run, List.foldl_append, ← Recorder.run, snapshots, List.countP_append, ← snapshots]
    obtain ⟨c, os⟩ := call
    cases c with
    | snapshot =>
      have hm := hreports (calls.map Prod.fst) (List.prefix_refl _)
      rw [← hmonitor] at hm
      exact hbefore.write number steady outputDir sessionLabel _ hm os
    | fix message => exact hbefore
    | status message => exact hbefore
    | imu message => exact hbefore
    | velocity message => exact hbefore
    | marker data => exact hbefore

end Runs

section Reported

variable {steady : ℕ →o ℤ} {window : ℝ} {callbacks : List (Callback Exact)} {i : ℕ}
  {m : R3HardwareMonitor Exact}

theorem Reported.numeric (h : Reported steady (num window) callbacks i m) : m.Numeric := by
  cases h with
  | snapshot => exact R3HardwareMonitor.run_numeric steady window _
  | stopped => exact (R3HardwareMonitor.run_numeric steady window callbacks).finalized steady

theorem Reported.clean (h : Reported steady (num window) callbacks i m)
    (hmarkers : ∀ data ∈ markers callbacks, Clean data.toList) :
    ∀ e ∈ m.events, Clean e.kind.toList ∧ Clean e.detail.toList := by
  cases h with
  | @snapshot before hbefore =>
    refine R3HardwareMonitor.clean_events steady (num window) before fun data hdata =>
      hmarkers data ?_
    exact (((List.prefix_append _ _).trans hbefore).sublist.filterMap _).subset hdata
  | stopped =>
    intro e he
    rcases List.mem_append.mp he with he | he
    · exact R3HardwareMonitor.clean_events steady (num window) callbacks hmarkers e he
    · rw [List.mem_singleton.mp he]
      exact ⟨R3HardwareMonitor.clean_monitor.1, R3HardwareMonitor.clean_monitor.2.2⟩

/-- Whoever can read a part of a report reads the report. -/
theorem Reported.reads (h : Reported steady (num window) callbacks i m) {sessionLabel : String}
    (hlabel : Clean sessionLabel.toList) (hmarkers : ∀ data ∈ markers callbacks, Clean data.toList)
    {text : List Char} (hfront : utf8 text <+: jsonBytes decimals steady sessionLabel m)
    {v : Value} (hparse : parse text = some v) :
    Agrees Near (m.report sessionLabel (m.elapsedSec steady m.readings)) v := by
  obtain ⟨back, hback⟩ := prefix_of_utf8 hfront
  obtain ⟨v', hwhole, hagrees⟩ := R3HardwareMonitor.shows_makeJson h.numeric hlabel
    (h.clean hmarkers) (R3HardwareMonitor.number_seconds (steady m.readings - m.sessionStart))
  have hhead : (m.makeJson (decimals 6) sessionLabel
      (m.elapsedSec steady m.readings)).head? = some '{' := rfl
  rw [← hback] at hhead
  have hv : v = v' := parse_front hparse (by rw [hback]; exact hwhole) hhead
  rw [hv]
  exact hagrees

end Reported

/-- A run that ends with `finalize` and in which any step of any write of the reports may fail.
`report.json` holds, at one moment after another, what it or its temporary file held before the run,
and then a front part of one report after another: a reader never finds an older one than before.
When neither the label of the session nor a marker has a control character other than a line feed, a
carriage return or a tab, a reader who can read what is there learns the contents of that report,
with each number up to half a unit of its sixth decimal, in exact arithmetic and with a finite
static window.  And the last report is there as a whole when the steps of its own write succeed. -/
theorem Recorder.run_readable (steady : ℕ →o ℤ) (window : ℝ) (outputDir sessionLabel : String)
    (files : Files String (List UInt8)) (calls : List (Callback Exact × Faults × Faults))
    (os : Faults × Faults) :
    let path := reportPath outputDir "report.json"
    let callbacks := calls.map Prod.fst
    let clean := Clean sessionLabel.toList ∧ ∀ data ∈ markers callbacks, Clean data.toList
    let recorder : Recorder Exact :=
      (Recorder.run decimals steady outputDir sessionLabel (num window) files calls).finalize
        decimals steady outputDir sessionLabel os
    (∃ versions : List ℕ, versions.Pairwise (· ≤ ·) ∧
      List.Forall₂ (fun (s : Files String (List UInt8)) i => ∀ bytes ∈ s path,
        i = 0 ∧ (files path = some bytes ∨ files (tempPath path) = some bytes) ∨
        ∃ m, Reported steady (num window) callbacks i m ∧
          bytes <+: jsonBytes decimals steady sessionLabel m ∧
          (clean → ∀ text v, utf8 text = bytes → parse text = some v →
            Agrees Near (m.report sessionLabel (m.elapsedSec steady m.readings)) v))
        recorder.visited versions) ∧
    (os.1.opened = true → os.1.renamed = true →
      (jsonBytes decimals steady sessionLabel recorder.monitor).length ≤ os.1.stored →
      recorder.files path = some (jsonBytes decimals steady sessionLabel recorder.monitor)) := by
  intro path callbacks clean recorder
  let Written (i : ℕ) (bytes : List UInt8) : Prop :=
    i = 0 ∧ (files path = some bytes ∨ files (tempPath path) = some bytes) ∨
    ∃ m, Reported steady (num window) callbacks i m ∧
      bytes <+: jsonBytes decimals steady sessionLabel m
  have hstopped : recorder.monitor =
      (R3HardwareMonitor.run steady (num window) callbacks).finalized steady :=
    congrArg (R3HardwareMonitor.finalized steady)
      (Recorder.run_monitor decimals steady outputDir sessionLabel (num window) files calls)
  have hlast : Reported steady (num window) callbacks (snapshots callbacks + 1)
      recorder.monitor := by
    rw [hstopped]
    exact .stopped
  have htold : (Recorder.run decimals steady outputDir sessionLabel (num window) files calls).Told
      Written path (snapshots callbacks) :=
    Recorder.told_run decimals steady outputDir sessionLabel (num window) files
      (fun c hc => .inl ⟨rfl, hc⟩) calls
      fun before h n => .inr ⟨_, .snapshot h, List.take_prefix n _⟩
  obtain ⟨_, _, -, ⟨versions, hsorted, -, hwritten⟩, -⟩ :=
    htold.write decimals steady outputDir sessionLabel recorder.monitor
      (fun n => .inr ⟨_, hlast, List.take_prefix n _⟩) os
  constructor
  · refine ⟨versions, hsorted, hwritten.imp fun s i h bytes hbytes => ?_⟩
    rcases h bytes hbytes with hinitial | ⟨m, hm, hfront⟩
    · exact .inl hinitial
    · refine .inr ⟨m, hm, hfront, ?_⟩
      rintro ⟨hlabel, hmarkers⟩ text v rfl hparse
      exact hm.reads hlabel hmarkers hfront hparse
  · exact writeReports_path decimals steady outputDir sessionLabel recorder.monitor _ os

end AsensingDriver
