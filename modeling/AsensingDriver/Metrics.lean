import AsensingDriver.Conversions

/-! The figures that the monitor keeps: running statistics, the offset from a reference position,
device time, and the health of a topic. -/

namespace AsensingDriver

variable {F : Type} [Double F]

/-! ### Running statistics -/

structure R3RunningStats (F : Type) where
  count : Nat
  mean_ : F
  m2 : F
  min_ : F
  max_ : F

namespace R3RunningStats

def empty : R3RunningStats F where
  count := 0
  mean_ := 0.0
  m2 := 0.0
  min_ := Double.infinity
  max_ := -Double.infinity

def add (stats : R3RunningStats F) (value : F) : R3RunningStats F :=
  if !Double.isfinite value then stats
  else
    let count := stats.count + 1
    let delta := value - stats.mean_
    let mean_ := stats.mean_ + delta / Double.ofNat count
    let delta2 := value - mean_
    { count, mean_
      m2 := stats.m2 + delta * delta2
      min_ := Double.min stats.min_ value
      max_ := Double.max stats.max_ value }

def mean (stats : R3RunningStats F) : F := if stats.count = 0 then 0.0 else stats.mean_

def sampleStddev (stats : R3RunningStats F) : F :=
  if stats.count < 2 then 0.0 else Double.sqrt (stats.m2 / Double.ofNat (stats.count - 1))

def min (stats : R3RunningStats F) : F := if stats.count = 0 then 0.0 else stats.min_

def max (stats : R3RunningStats F) : F := if stats.count = 0 then 0.0 else stats.max_

end R3RunningStats

/-! ### Positions and times -/

/-- The offset from a reference position, East then North. -/
def approxEnuOffsetM (latitudeDeg longitudeDeg referenceLatitudeDeg referenceLongitudeDeg : F) :
    F × F :=
  let kDegToRad : F := 3.14159265358979323846 / 180.0
  let kEarthRadiusM : F := 6378137.0
  let referenceLatitudeRad := referenceLatitudeDeg * kDegToRad
  let east := (longitudeDeg - referenceLongitudeDeg) * kDegToRad *
    Double.cos referenceLatitudeRad * kEarthRadiusM
  let north := (latitudeDeg - referenceLatitudeDeg) * kDegToRad * kEarthRadiusM
  (east, north)

/-- East is the difference of the longitudes along the circle of the reference latitude, and North
the difference of the latitudes along the meridian. -/
theorem approxEnuOffsetM_exact (φ l φ₀ l₀ : ℝ) :
    let radians (x : ℝ) := x * (3.14159265358979323846 / 180)
    approxEnuOffsetM (.num φ) (.num l) (.num φ₀) (.num l₀) =
      ((.num (radians (l - l₀) * Real.cos (radians φ₀) * 6378137),
        .num (radians (φ - φ₀) * 6378137)) : Exact × Exact) := by
  have hdegree : (3.14159265358979323846 / 180.0 : Exact) =
      .num (3.14159265358979323846 / 180) := by
    rw [Exact.ofScientific_eq, Exact.ofScientific_eq, Exact.num_div (by norm_num)]
    norm_num
  have hradius : (6378137.0 : Exact) = .num 6378137 := by
    rw [Exact.ofScientific_eq]
    norm_num
  simp only [approxEnuOffsetM, hdegree, hradius, Exact.num_sub, Exact.num_mul, Exact.cos_num]

/-- The reference is at no distance from itself. -/
theorem approxEnuOffsetM_self (φ l : ℝ) :
    approxEnuOffsetM (.num φ) (.num l) (.num φ) (.num l) = ((.num 0, .num 0) : Exact × Exact) := by
  rw [approxEnuOffsetM_exact]
  simp

def deviceTimeSeconds (gpsWeek gpsTimeMs : UInt32) : F :=
  let kSecondsPerGpsWeek : F := 604800.0
  Double.ofUInt32 gpsWeek * kSecondsPerGpsWeek + Double.ofUInt32 gpsTimeMs / 1000.0

/-! ### Topics -/

/-- A difference of two steady-clock readings, which count nanoseconds, in seconds. -/
def seconds (duration : Int) : F := Double.ofInt duration / 1000000000.0

theorem seconds_exact (duration : Int) :
    (seconds duration : Exact) = .num (duration / 1000000000) := by
  have hbillion : (1000000000.0 : Exact) = .num 1000000000 := by
    rw [Exact.ofScientific_eq]
    norm_num
  rw [seconds, Exact.ofInt_eq, hbillion, Exact.num_div (by norm_num)]

/-- What takes longer than a limit still does when it takes longer. -/
theorem le_seconds_mono {a b : Int} {limit : Exact} (hab : a ≤ b)
    (h : Double.le (seconds a) limit = false) : Double.le (seconds b) limit = false := by
  rw [seconds_exact] at h ⊢
  cases limit with
  | num w =>
    rw [Bool.eq_false_iff, Ne, Exact.le_num] at h ⊢
    intro hle
    have hcast : (a : ℝ) ≤ b := by exact_mod_cast hab
    exact h (le_trans (by gcongr) hle)
  | inf s => exact h
  | nan => rfl

def stampNs (stamp : Time) : Int64 :=
  stamp.sec.toInt64 * 1000000000 + stamp.nanosec.toUInt64.toInt64

structure TopicTracker (F : Type) where
  count : Nat
  stampRegressions : Nat
  maxGapSec : F
  firstReceive : Int
  lastReceive : Int
  lastStampNs : Option Int64

namespace TopicTracker

def empty : TopicTracker F where
  count := 0
  stampRegressions := 0
  maxGapSec := 0.0
  firstReceive := 0
  lastReceive := 0
  lastStampNs := none

/-- A message with the stamp `stamp` arrives when the steady clock reads `now`. -/
def observe (t : TopicTracker F) (now : Int) (stamp : Time) : TopicTracker F :=
  let t :=
    if t.count = 0 then { t with firstReceive := now }
    else { t with maxGapSec := Double.max t.maxGapSec (seconds (now - t.lastReceive)) }
  let ns := stampNs stamp
  { t with
    lastReceive := now
    count := t.count + 1
    stampRegressions := t.stampRegressions +
      (if t.lastStampNs.any fun last => ns < last then 1 else 0)
    lastStampNs := some ns }

def rateHz (t : TopicTracker F) : F :=
  if t.count < 2 then 0.0
  else
    let elapsed : F := seconds (t.lastReceive - t.firstReceive)
    if Double.lt 0.0 elapsed then Double.ofNat (t.count - 1) / elapsed else 0.0

end TopicTracker

end AsensingDriver
