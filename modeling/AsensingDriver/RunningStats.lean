import AsensingDriver.Metrics
import AsensingDriver.Lib.Deviations

/-! `R3RunningStats` over exact values.  The one-pass updates of `add` keep the count, the mean, the
sum of the squared deviations and the extremes of the finite values seen so far (`Summarises`), so
that the figures do not depend on the order of the values (`stats_batch`). -/

namespace AsensingDriver

open Exact Deviations

/-- Only finite values are counted. -/
theorem count_add {F : Type} [Double F] (stats : R3RunningStats F) (v : F) :
    (stats.add v).count = stats.count + if Double.isfinite v then 1 else 0 := by
  unfold R3RunningStats.add
  cases Double.isfinite v <;> rfl

/-- The finite values of a list, as numbers. -/
def numbers (values : List Exact) : List ℝ := values.filterMap number?

theorem numbers_concat (values : List Exact) (v : Exact) :
    numbers (values ++ [v]) = numbers values ++ v.number?.toList := by
  rw [numbers, List.filterMap_append]
  cases v <;> rfl

/-- `v` is the number of `xs` that is related to all others, and `none` where there is no number. -/
def Extreme (R : ℝ → ℝ → Prop) (none : Exact) (xs : List ℝ) (v : Exact) : Prop :=
  xs = [] ∧ v = none ∨ ∃ x ∈ xs, v = .num x ∧ ∀ y ∈ xs, R x y

/-- The figures `stats` are those of the numbers `xs`. -/
structure Summarises (stats : R3RunningStats Exact) (xs : List ℝ) : Prop where
  count : stats.count = xs.length
  mean_ : stats.mean_ = .num (mean xs)
  m2 : stats.m2 = .num (squares xs)
  min_ : Extreme (· ≤ ·) (.inf false) xs stats.min_
  max_ : Extreme (· ≥ ·) (.inf true) xs stats.max_

theorem summarises_empty : Summarises .empty [] := by
  constructor
  case count => rfl
  case mean_ => exact zero_exact.trans (by rw [mean, List.sum_nil, zero_div])
  case m2 => exact zero_exact
  case min_ => exact .inl ⟨rfl, rfl⟩
  case max_ => exact .inl ⟨rfl, rfl⟩

/-- One more number replaces the least one when it is less, and the greatest one when it is
greater. -/
theorem extreme_concat {R : ℝ → ℝ → Prop} {none v : Exact} {xs : List ℝ} {replaces : Bool}
    (x : ℝ) (refl : R x x) (trans : ∀ {a b}, R x a → R a b → R x b) (h : Extreme R none xs v)
    (first : v = none → replaces = true)
    (next : ∀ a, v = .num a → if replaces then R x a else R a x) :
    Extreme R none (xs ++ [x]) (if replaces then .num x else v) := by
  right
  rcases h with ⟨rfl, hv⟩ | ⟨a, ha, rfl, hall⟩
  · refine ⟨x, by simp, by rw [first hv]; rfl, ?_⟩
    simpa using refl
  · have hnext := next a rfl
    cases replaces with
    | true =>
      refine ⟨x, by simp, rfl, ?_⟩
      intro y hy
      rcases List.mem_append.mp hy with hy | hy
      · exact trans hnext (hall y hy)
      · obtain rfl := List.mem_singleton.mp hy
        exact refl
    | false =>
      refine ⟨a, List.mem_append_left _ ha, rfl, ?_⟩
      intro y hy
      rcases List.mem_append.mp hy with hy | hy
      · exact hall y hy
      · obtain rfl := List.mem_singleton.mp hy
        exact hnext

/-- Two orders of the same numbers have the same extreme. -/
theorem extreme_unique {R : ℝ → ℝ → Prop} {none v w : Exact} {xs ys : List ℝ}
    (antisymm : ∀ {a b}, R a b → R b a → a = b) (hperm : xs.Perm ys) (h : Extreme R none xs v)
    (h' : Extreme R none ys w) : v = w := by
  rcases h with ⟨rfl, rfl⟩ | ⟨a, ha, rfl, hall⟩ <;> rcases h' with ⟨rfl, rfl⟩ | ⟨b, hb, rfl, hall'⟩
  · rfl
  · simp [← hperm.mem_iff] at hb
  · simp [hperm.mem_iff] at ha
  · rw [antisymm (hall b (hperm.mem_iff.mpr hb)) (hall' a (hperm.mem_iff.mp ha))]

/-- One more value keeps the figures up. -/
theorem summarises_add {stats : R3RunningStats Exact} {xs : List ℝ} (h : Summarises stats xs)
    (v : Exact) : Summarises (stats.add v) (xs ++ v.number?.toList) := by
  cases v with
  | inf s => simpa [R3RunningStats.add, number?, Double.isfinite, isfinite] using h
  | nan => simpa [R3RunningStats.add, number?, Double.isfinite, isfinite] using h
  | num x =>
    have hcount : (Double.ofNat (stats.count + 1) : Exact) = .num (xs.length + 1) := by
      rw [h.count, Double.ofNat, ofInt_eq]
      push_cast
      rfl
    have hmean : (stats.mean_ + (.num x - stats.mean_) / Double.ofNat (stats.count + 1) : Exact) =
        .num (mean (xs ++ [x])) := by
      rw [hcount, h.mean_, mean_concat, num_sub, num_div (length_succ_ne_zero xs), num_add]
    constructor
    case count =>
      show stats.count + 1 = (xs ++ [x]).length
      rw [h.count, List.length_append, List.length_singleton]
    case mean_ => exact hmean
    case m2 =>
      show (stats.m2 + (.num x - stats.mean_) * (.num x - (stats.mean_ +
        (.num x - stats.mean_) / Double.ofNat (stats.count + 1))) : Exact) = _
      rw [hmean, h.m2, h.mean_, num_sub, num_sub, num_mul, num_add]
      exact congrArg Exact.num (squares_concat xs x).symm
    case min_ =>
      refine extreme_concat x le_rfl le_trans h.min_ ?_ ?_
      · rintro hinf
        rw [hinf]
        rfl
      · rintro a ha
        rw [ha]
        split
        · rename_i hlt
          exact le_of_lt_num hlt
        · rename_i hlt
          exact le_of_not_lt_num hlt
    case max_ =>
      refine extreme_concat x le_rfl ge_trans h.max_ ?_ ?_
      · rintro hinf
        rw [hinf]
        rfl
      · rintro a ha
        rw [ha]
        split
        · rename_i hlt
          exact le_of_lt_num hlt
        · rename_i hlt
          exact le_of_not_lt_num hlt

/-- The figures of a list of values are those of its finite values. -/
theorem summarises_foldl (values : List Exact) :
    Summarises (values.foldl R3RunningStats.add .empty) (numbers values) := by
  induction values using List.reverseRecOn with
  | nil => exact summarises_empty
  | append_singleton values v ih =>
    rw [List.foldl_append, numbers_concat]
    exact summarises_add ih v

/-- The figures of the same numbers in two orders are the same. -/
theorem summarises_perm {stats stats' : R3RunningStats Exact} {xs ys : List ℝ}
    (h : Summarises stats xs) (h' : Summarises stats' ys) (hperm : xs.Perm ys) :
    stats = stats' := by
  obtain ⟨count, mean_, m2, min_, max_⟩ := stats
  obtain ⟨count', mean_', m2', min_', max_'⟩ := stats'
  obtain rfl : count = count' := h.count.trans (hperm.length_eq.trans h'.count.symm)
  obtain rfl : mean_ = mean_' := h.mean_.trans ((mean_perm hperm).symm ▸ h'.mean_.symm)
  obtain rfl : m2 = m2' := h.m2.trans ((squares_perm hperm).symm ▸ h'.m2.symm)
  obtain rfl : min_ = min_' := extreme_unique le_antisymm hperm h.min_ h'.min_
  obtain rfl : max_ = max_' :=
    extreme_unique (fun hab hba => le_antisymm hba hab) hperm h.max_ h'.max_
  rfl

/-- The standard deviation of fewer than two values is zero, and that of more is the root of the
unbiased variance. -/
theorem summarises_sampleStddev {stats : R3RunningStats Exact} {xs : List ℝ}
    (h : Summarises stats xs) :
    ∃ σ : ℝ, stats.sampleStddev = .num σ ∧ 0 ≤ σ ∧ (xs.length < 2 → σ = 0) ∧
      (2 ≤ xs.length → σ ^ 2 = squares xs / (xs.length - 1)) := by
  rw [R3RunningStats.sampleStddev, h.count]
  split
  · rename_i hfew
    exact ⟨0, zero_exact, le_rfl, fun _ => rfl, fun h2 => absurd hfew (by omega)⟩
  · rename_i hmany
    have hpos : (0 : ℝ) < xs.length - 1 := by
      have : (2 : ℝ) ≤ xs.length := by exact_mod_cast Nat.le_of_not_lt hmany
      linarith
    have hcount : (Double.ofNat (xs.length - 1) : Exact) = .num (xs.length - 1) := by
      rw [Double.ofNat, ofInt_eq, Nat.cast_sub (by omega)]
      push_cast
      rfl
    have hvariance : 0 ≤ squares xs / ((xs.length : ℝ) - 1) :=
      div_nonneg (squares_nonneg xs) hpos.le
    refine ⟨√(squares xs / (xs.length - 1)), ?_, Real.sqrt_nonneg _, fun h2 => absurd h2 hmany,
      fun _ => Real.sq_sqrt hvariance⟩
    rw [hcount, h.m2, num_div hpos.ne']
    exact sqrt_num hvariance

/-- The least value, which reads as zero when there is none. -/
theorem summarises_min {stats : R3RunningStats Exact} {xs : List ℝ} (h : Summarises stats xs) :
    (xs = [] → stats.min = .num 0) ∧
    (xs ≠ [] → ∃ x ∈ xs, stats.min = .num x ∧ ∀ y ∈ xs, x ≤ y) := by
  rw [R3RunningStats.min, h.count]
  rcases h.min_ with ⟨rfl, -⟩ | ⟨x, hx, hmin, hall⟩
  · exact ⟨fun _ => zero_exact, fun hne => absurd rfl hne⟩
  · have hne := List.ne_nil_of_mem hx
    rw [if_neg (List.length_eq_zero_iff.not.mpr hne)]
    exact ⟨fun hnil => absurd hnil hne, fun _ => ⟨x, hx, hmin, hall⟩⟩

/-- The greatest value, which reads as zero when there is none. -/
theorem summarises_max {stats : R3RunningStats Exact} {xs : List ℝ} (h : Summarises stats xs) :
    (xs = [] → stats.max = .num 0) ∧
    (xs ≠ [] → ∃ x ∈ xs, stats.max = .num x ∧ ∀ y ∈ xs, y ≤ x) := by
  rw [R3RunningStats.max, h.count]
  rcases h.max_ with ⟨rfl, -⟩ | ⟨x, hx, hmax, hall⟩
  · exact ⟨fun _ => zero_exact, fun hne => absurd rfl hne⟩
  · have hne := List.ne_nil_of_mem hx
    rw [if_neg (List.length_eq_zero_iff.not.mpr hne)]
    exact ⟨fun hnil => absurd hnil hne, fun _ => ⟨x, hx, hmax, hall⟩⟩

theorem summarises_mean {stats : R3RunningStats Exact} {xs : List ℝ} (h : Summarises stats xs) :
    stats.mean = .num (mean xs) := by
  rw [R3RunningStats.mean, h.count]
  split
  · rename_i hnil
    rw [List.length_eq_zero_iff.mp hnil, mean, List.sum_nil, zero_div]
    exact zero_exact
  · exact h.mean_

/-- For every list of values, of which some may not be finite, the running figures are those of its
finite values: their number, their arithmetic mean, the sum of their squared deviations from it,
the root of their unbiased variance, the least and the greatest.  Without any value they are zero,
and they do not depend on the order. -/
theorem stats_batch (values : List Exact) :
    let stats := values.foldl R3RunningStats.add .empty
    let xs := numbers values
    let n := xs.length
    let average := if n = 0 then 0 else xs.sum / n
    let deviations := (xs.map fun x => (x - average) ^ 2).sum
    stats.count = n ∧ stats.mean = .num average ∧ stats.m2 = .num deviations ∧ 0 ≤ deviations ∧
    (∃ σ : ℝ, stats.sampleStddev = .num σ ∧ 0 ≤ σ ∧ (n < 2 → σ = 0) ∧
      (2 ≤ n → σ ^ 2 = deviations / (n - 1))) ∧
    (xs = [] → stats.min = .num 0 ∧ stats.max = .num 0) ∧
    (xs ≠ [] → (∃ x ∈ xs, stats.min = .num x ∧ ∀ y ∈ xs, x ≤ y) ∧
      ∃ x ∈ xs, stats.max = .num x ∧ ∀ y ∈ xs, y ≤ x) ∧
    ∀ values', values.Perm values' → values'.foldl R3RunningStats.add .empty = stats := by
  intro stats xs n average deviations
  have h : Summarises stats xs := summarises_foldl values
  have haverage : average = mean xs := by
    show (if n = 0 then (0 : ℝ) else _) = _
    split
    · rename_i hnil
      rw [List.length_eq_zero_iff.mp hnil, mean, List.sum_nil, zero_div]
    · rfl
  have hdeviations : deviations = squares xs := by
    show (xs.map fun x => (x - average) ^ 2).sum = _
    rw [haverage]
    rfl
  rw [haverage, hdeviations]
  obtain ⟨hmin0, hmin⟩ := summarises_min h
  obtain ⟨hmax0, hmax⟩ := summarises_max h
  refine ⟨h.count, summarises_mean h, h.m2, squares_nonneg xs, summarises_sampleStddev h,
    fun hnil => ⟨hmin0 hnil, hmax0 hnil⟩, fun hne => ⟨hmin hne, hmax hne⟩, ?_⟩
  intro values' hperm
  exact summarises_perm (summarises_foldl values') h (hperm.filterMap _).symm

end AsensingDriver
