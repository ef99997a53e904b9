import AsensingDriver.Lib.Json
import Mathlib.Algebra.Order.Floor.Semiring
import Mathlib.Algebra.Order.Archimedean.Real.Basic
import Mathlib.Data.List.TakeWhile

/-! Numbers in decimal notation.  `value` is what the token of a JSON number stands for, and `fixed`
writes a real number with a given number of decimals.  The token of `fixed` is a number of the
grammar, and its value is the nearest one with these decimals. -/

namespace Decimal

open Json Nat

/-! ### Reading -/

/-- The value of digits with at most one point among them. -/
def unsigned (token : List Char) : ℚ :=
  let int := token.takeWhile (· != '.')
  let frac := (token.dropWhile (· != '.')).tail
  ofDigitChars 10 int 0 + ofDigitChars 10 frac 0 / 10 ^ frac.length

/-- The value before the exponent of a number. -/
def mantissa : List Char → ℚ
  | '-' :: token => -unsigned token
  | token => unsigned token

/-- The exponent of a number, from the letter on. -/
def exponent : List Char → ℤ
  | [] => 0
  | _ :: '-' :: digits => -ofDigitChars 10 digits 0
  | _ :: '+' :: digits | _ :: digits => ofDigitChars 10 digits 0

/-- The value of the token of a number. -/
def value (token : List Char) : ℚ :=
  let letter (c : Char) := c == 'e' || c == 'E'
  mantissa (token.takeWhile (!letter ·)) * 10 ^ exponent (token.dropWhile (!letter ·))

example : value "-12.50e1".toList = -125 := by decide +kernel

/-! ### Writing -/

/-- The last `n` digits of a number. -/
def lastDigits : ℕ → ℕ → List Char
  | 0, _ => []
  | n + 1, k => lastDigits n (k / 10) ++ [digitChar (k % 10)]

/-- The number `k / 10 ^ (n + 1)`. -/
def point (n k : ℕ) : List Char :=
  toDigits 10 (k / 10 ^ (n + 1)) ++ '.' :: lastDigits (n + 1) (k % 10 ^ (n + 1))

/-- The nearest natural number, and the even one of two that are as near. -/
noncomputable def nearest (y : ℝ) : ℕ :=
  let below := y - ⌊y⌋₊
  let above := ⌊y⌋₊ + 1 - y
  if below < above ∨ below = above ∧ Even ⌊y⌋₊ then ⌊y⌋₊ else ⌊y⌋₊ + 1

/-- The number `x` with `n + 1` decimals. -/
noncomputable def fixed (n : ℕ) (x : ℝ) : List Char :=
  (if x < 0 then ['-'] else []) ++ point n (nearest (|x| * 10 ^ (n + 1)))

/-- Half a unit of decimal `n`. -/
def halfUnit (n : ℕ) : ℚ := 1 / 2 / 10 ^ n

/-! ### Digits -/

theorem digit_of_isDigit {c : Char} (h : c.isDigit = true) : digit c = true := by
  simp only [Char.isDigit, Bool.and_eq_true, decide_eq_true_eq] at h
  simp only [digit, Bool.and_eq_true, decide_eq_true_eq]
  exact h

theorem digit_toDigits {n : ℕ} {c : Char} (h : c ∈ toDigits 10 n) : digit c = true :=
  digit_of_isDigit (isDigit_of_mem_toDigits (by decide) (by decide) h)

theorem digit_lastDigits {n k : ℕ} {c : Char} (h : c ∈ lastDigits n k) : digit c = true := by
  induction n generalizing k with
  | zero => cases h
  | succ n ih =>
    rcases List.mem_append.mp h with h | h
    · exact ih h
    · rw [List.mem_singleton.mp h]
      apply digit_of_isDigit
      rw [isDigit_digitChar, decide_eq_true_eq]
      exact mod_lt k (by decide)

theorem length_lastDigits (n k : ℕ) : (lastDigits n k).length = n := by
  induction n generalizing k with
  | zero => rfl
  | succ n ih => simp [lastDigits, ih]

theorem ofDigitChars_lastDigits (n k : ℕ) : ofDigitChars 10 (lastDigits n k) 0 = k % 10 ^ n := by
  induction n generalizing k with
  | zero => simp [lastDigits, mod_one]
  | succ n ih =>
    rw [lastDigits, ofDigitChars_append, ih,
      ofDigitChars_cons_digitChar_of_lt_ten (mod_lt k (by decide)), ofDigitChars_nil, pow_succ',
      mod_mul]
    omega

/-- A number starts with the digit zero only if it is zero. -/
theorem toDigits_head (n : ℕ) :
    toDigits 10 n = ['0'] ∨ ∃ c cs, toDigits 10 n = c :: cs ∧ c ≠ '0' := by
  induction n using Nat.strong_induction_on with
  | _ n ih =>
    rw [toDigits_eq_if (by decide)]
    by_cases hlt : n < 10
    · rw [if_pos hlt]
      by_cases hzero : n = 0
      · exact .inl (by rw [hzero]; rfl)
      · exact .inr ⟨_, [], rfl, by rwa [Ne, digitChar_eq_zero]⟩
    · rw [if_neg hlt]
      rcases ih (n / 10) (by omega) with h | ⟨c, cs, h, hc⟩
      · -- The number without its last digit is not zero.
        have hvalue := congrArg (ofDigitChars 10 · 0) h
        simp only [ofDigitChars_ten_toDigits] at hvalue
        have hdiv : n / 10 = 0 := hvalue
        omega
      · exact .inr ⟨c, cs ++ [digitChar (n % 10)], by rw [h]; rfl, hc⟩

/-! ### The token is a number -/

theorem foldlM_digits {s : NumberState} (hs : ∀ c, digit c = true → s.next c = some s)
    {ds : List Char} (h : ∀ c ∈ ds, digit c = true) : ds.foldlM NumberState.next s = some s := by
  induction ds with
  | nil => rfl
  | cons c ds ih =>
    rw [List.foldlM_cons, hs c (h c (by simp))]
    exact ih fun c hc => h c (by simp [hc])

/-- A natural number, read behind an optional sign, is complete and may be followed by a point. -/
theorem foldlM_toDigits {s : NumberState} (hs : s = .start ∨ s = .minus) (n : ℕ) :
    ∃ s', (toDigits 10 n).foldlM NumberState.next s = some s' ∧ s'.accepts = true ∧
      s'.next '.' = some .point := by
  rcases toDigits_head n with h | ⟨c, cs, h, hc⟩
  · rw [h]
    rcases hs with rfl | rfl <;> exact ⟨.zero, rfl, rfl, rfl⟩
  · have hdigit (d : Char) (hd : d ∈ toDigits 10 n) := digit_toDigits hd
    rw [h] at hdigit ⊢
    have hfirst : s.next c = some .int := by
      have hminus : c ≠ '-' := by
        rintro rfl
        exact absurd (hdigit '-' (by simp)) (by decide)
      rcases hs with rfl | rfl <;> simp [NumberState.next, hc, hminus, hdigit c]
    refine ⟨.int, ?_, rfl, rfl⟩
    rw [List.foldlM_cons, hfirst]
    exact foldlM_digits (fun c hc => by simp [NumberState.next, hc])
      fun d hd => hdigit d (by simp [hd])

theorem isNumber_toDigits (n : ℕ) : isNumber (toDigits 10 n) = true := by
  obtain ⟨s, hs, haccepts, -⟩ := foldlM_toDigits (.inl rfl) n
  rw [isNumber, hs]
  exact haccepts

theorem foldlM_point {s : NumberState} (hs : s = .start ∨ s = .minus) (n k : ℕ) :
    (point n k).foldlM NumberState.next s = some .frac := by
  obtain ⟨s', hint, -, hpoint⟩ := foldlM_toDigits hs (k / 10 ^ (n + 1))
  have hfrac : (lastDigits (n + 1) (k % 10 ^ (n + 1))).foldlM NumberState.next .point =
      some .frac := by
    have hdigit (c : Char) (hc : c ∈ lastDigits (n + 1) (k % 10 ^ (n + 1))) :=
      digit_lastDigits hc
    have hlength := length_lastDigits (n + 1) (k % 10 ^ (n + 1))
    cases h : lastDigits (n + 1) (k % 10 ^ (n + 1)) with
    | nil => rw [h] at hlength; cases hlength
    | cons c cs =>
      rw [h] at hdigit
      rw [List.foldlM_cons, NumberState.next, if_pos (hdigit c (by simp))]
      exact foldlM_digits (fun c hc => by simp [NumberState.next, hc])
        fun d hd => hdigit d (by simp [hd])
  rw [point, List.foldlM_append, hint, Option.bind_eq_bind, Option.bind_some, List.foldlM_cons,
    hpoint]
  exact hfrac

theorem isNumber_fixed (n : ℕ) (x : ℝ) : isNumber (fixed n x) = true := by
  have hrun : (fixed n x).foldlM NumberState.next .start = some .frac := by
    unfold fixed
    split
    · exact foldlM_point (.inr rfl) n _
    · exact foldlM_point (.inl rfl) n _
  rw [isNumber, hrun]
  rfl

/-! ### The value of the token -/

theorem digit_ne {c : Char} (h : digit c = true) : c ≠ '.' ∧ c ≠ '-' ∧ c ≠ 'e' ∧ c ≠ 'E' := by
  refine ⟨?_, ?_, ?_, ?_⟩
  all_goals
    rintro rfl
    exact absurd h (by decide)

/-- Without a letter there is no exponent. -/
theorem value_of_no_letter {token : List Char} (h : ∀ c ∈ token, c ≠ 'e' ∧ c ≠ 'E') :
    value token = mantissa token := by
  have hall : ∀ c ∈ token, (!(c == 'e' || c == 'E')) = true := by
    intro c hc
    simp [h c hc]
  unfold value
  dsimp only
  rw [List.takeWhile_eq_self_iff.mpr hall, List.dropWhile_eq_nil_iff.mpr hall, exponent, zpow_zero,
    mul_one]

theorem mantissa_of_no_sign {token : List Char} (h : ∀ c ∈ token, c ≠ '-') :
    mantissa token = unsigned token := by
  unfold mantissa
  split
  · exact absurd rfl (h '-' (by simp))
  · rfl

theorem value_toDigits (n : ℕ) : value (toDigits 10 n) = n := by
  have hdigit (c : Char) (hc : c ∈ toDigits 10 n) := digit_ne (digit_toDigits hc)
  have hpoint : ∀ c ∈ toDigits 10 n, (c != '.') = true := by
    intro c hc
    simp [hdigit c hc]
  rw [value_of_no_letter fun c hc => (hdigit c hc).2.2,
    mantissa_of_no_sign fun c hc => (hdigit c hc).2.1]
  unfold unsigned
  dsimp only
  rw [List.takeWhile_eq_self_iff.mpr hpoint, List.dropWhile_eq_nil_iff.mpr hpoint,
    ofDigitChars_ten_toDigits]
  simp

theorem unsigned_point (n k : ℕ) : unsigned (point n k) = k / 10 ^ (n + 1) := by
  have hint : ∀ c ∈ toDigits 10 (k / 10 ^ (n + 1)), (c != '.') = true := by
    intro c hc
    simp [digit_ne (digit_toDigits hc)]
  have hdiv : ((10 ^ (n + 1) * (k / 10 ^ (n + 1)) + k % 10 ^ (n + 1) : ℕ) : ℚ) = k := by
    rw [div_add_mod]
  unfold unsigned point
  dsimp only
  rw [List.takeWhile_append_of_pos hint, List.dropWhile_append_of_pos hint,
    List.takeWhile_cons_of_neg (by decide), List.dropWhile_cons_of_neg (by decide),
    List.append_nil, List.tail_cons, ofDigitChars_ten_toDigits, ofDigitChars_lastDigits,
    length_lastDigits, mod_mod, eq_div_iff (by positivity), add_mul,
    div_mul_cancel₀ _ (by positivity), ← hdiv]
  push_cast
  ring

/-- The characters of a number with a point. -/
theorem mem_point {n k : ℕ} {c : Char} (h : c ∈ point n k) : digit c = true ∨ c = '.' := by
  rcases List.mem_append.mp h with h | h
  · exact .inl (digit_toDigits h)
  · rcases List.mem_cons.mp h with h | h
    · exact .inr h
    · exact .inl (digit_lastDigits h)

theorem value_point (n k : ℕ) :
    value (point n k) = k / 10 ^ (n + 1) ∧ value ('-' :: point n k) = -(k / 10 ^ (n + 1)) := by
  have hchar (c : Char) (hc : c ∈ point n k) : c ≠ '-' ∧ c ≠ 'e' ∧ c ≠ 'E' := by
    rcases mem_point hc with h | rfl
    · exact (digit_ne h).2
    · decide
  constructor
  · rw [value_of_no_letter fun c hc => (hchar c hc).2,
      mantissa_of_no_sign fun c hc => (hchar c hc).1, unsigned_point]
  · rw [value_of_no_letter, mantissa, unsigned_point]
    intro c hc
    rcases List.mem_cons.mp hc with rfl | hc
    · decide
    · exact (hchar c hc).2

theorem abs_nearest_sub_le {y : ℝ} (hy : 0 ≤ y) : |nearest y - y| ≤ 1 / 2 := by
  have hle := Nat.floor_le hy
  have hlt := Nat.lt_floor_add_one y
  unfold nearest
  dsimp only
  split
  · rename_i hnear
    have : y - ⌊y⌋₊ ≤ 1 / 2 := by
      rcases hnear with h | ⟨h, -⟩ <;> linarith
    rw [abs_le]
    constructor <;> linarith
  · rename_i hfar
    have : 1 / 2 ≤ y - ⌊y⌋₊ := by
      by_contra h
      exact hfar (.inl (by linarith))
    rw [abs_le]
    push_cast
    constructor <;> linarith

/-- The value of the token is the nearest one with these decimals. -/
theorem abs_value_fixed_sub_le (n : ℕ) (x : ℝ) :
    |(value (fixed n x) : ℝ) - x| ≤ halfUnit (n + 1) := by
  have hunit : (halfUnit (n + 1) : ℝ) = 1 / 2 / 10 ^ (n + 1) := by simp [halfUnit]
  rw [hunit]
  have hpos : (0 : ℝ) < 10 ^ (n + 1) := by positivity
  have hnear := abs_nearest_sub_le (mul_nonneg (abs_nonneg x) hpos.le)
  have habs : |(nearest (|x| * 10 ^ (n + 1)) / 10 ^ (n + 1) : ℝ) - (|x|)| ≤
      1 / 2 / 10 ^ (n + 1) := by
    rw [le_div_iff₀ hpos, ← abs_of_pos hpos, ← abs_mul, abs_of_pos hpos, sub_mul,
      div_mul_cancel₀ _ hpos.ne']
    exact hnear
  obtain ⟨hplus, hminus⟩ := value_point n (nearest (|x| * 10 ^ (n + 1)))
  unfold fixed
  split
  · rename_i hneg
    rw [List.singleton_append, hminus]
    rw [abs_of_neg hneg] at habs ⊢
    rw [← abs_neg]
    push_cast
    convert habs using 2
    ring
  · rename_i hnonneg
    rw [List.nil_append, hplus]
    rw [abs_of_nonneg (not_lt.mp hnonneg)] at habs ⊢
    push_cast
    exact habs

end Decimal
