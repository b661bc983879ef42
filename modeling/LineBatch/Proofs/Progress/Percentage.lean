import LineBatch.Progress.State
import Mathlib.Data.Int.Log
import Mathlib.Data.Rat.Cast.Order
import Mathlib.Data.Rat.Floor
import Mathlib.Tactic.FieldSimp
import Mathlib.Tactic.GCongr
import Mathlib.Tactic.Positivity
import Mathlib.Tactic.Linarith
import Mathlib.Tactic.Ring

/-
  Rounding ratios to doubles, and the percentage of a progress.

  A ratio `n / d` of positive integers rounds in its binade `c`, the
  binary logarithm of the ratio rounded down: the significand is the
  scaled ratio `n / d · 2^(52 - c)` rounded to an integer, which lies
  in `[2^52, 2^53]`. `log2Floor` is Mathlib's `Int.log 2` of the
  ratio, so rounding sees the ratio only and not its two parts.

  Integers below `2^53` are doubles exactly, and so are their
  products while they stay below `2^53`; a quotient of two of them is
  their ratio rounded once. The percentage of a progress is therefore
  `100 · processed / total` rounded once and capped at one hundred,
  and it is one hundred exactly when the processed units reach the
  total, as long as both counts are below `2^46`.

  Main declarations:
    * `Binary64.log2Floor_eq_log`, `Binary64.ofRatio_mul_mul`
    * `Binary64.ofRatio_of_normal`, `Binary64.ofRatio_bounds`
    * `Binary64.ofInt_exact`, `Binary64.mul_ofInt`, `Binary64.div_ofInt`
    * `Binary64.ofRatio_reaches_hundred_iff`
    * `Progress.percentage_eq_ofRatio`, `Progress.percentage_eq_hundred_iff`
-/

namespace LineBatch

namespace Binary64

theorem two_zpow_eq (k : Int) : (2 : ℚ) ^ k = 2 ^ k.toNat / 2 ^ (-k).toNat := by
  conv_lhs => rw [← Int.toNat_sub_toNat_neg k]
  rw [zpow_sub₀ (by norm_num), zpow_natCast, zpow_natCast]

theorem scaled_eq (n d : Nat) (k : Int) :
    scaled n d k = (n * 2 ^ k.toNat, d * 2 ^ (-k).toNat) := by
  unfold scaled
  split_ifs with h
  · have h0 : (-k).toNat = 0 := by omega
    simp [h0]
  · have h0 : k.toNat = 0 := by omega
    simp [h0]

theorem ratio_scaled (n d : Nat) (k : Int) :
    ((n * 2 ^ k.toNat : Nat) : ℚ) / ((d * 2 ^ (-k).toNat : Nat) : ℚ) = n / d * 2 ^ k := by
  rw [two_zpow_eq]
  push_cast
  rw [mul_div_mul_comm]

/- A ratio below a power of two, multiplied out. -/
theorem lt_two_zpow_iff {n d : Nat} (hd : 0 < d) (k : Int) :
    n * 2 ^ (-k).toNat < d * 2 ^ k.toNat ↔ (n : ℚ) / d < 2 ^ k := by
  rw [two_zpow_eq, div_lt_div_iff₀ (by exact_mod_cast hd) (by positivity),
    mul_comm (2 ^ k.toNat : ℚ)]
  exact_mod_cast Iff.rfl

/- The ratio lies strictly between the powers of two next to the quotient of the leading
powers of its parts. -/
theorem ratio_bracket {n d : Nat} (hn : 0 < n) (hd : 0 < d) :
    (2 : ℚ) ^ ((n.log2 : Int) - d.log2 - 1) < n / d ∧
      (n : ℚ) / d < 2 ^ ((n.log2 : Int) - d.log2 + 1) := by
  have hN : (2 : ℚ) ^ n.log2 ≤ n := by exact_mod_cast Nat.log2_self_le (Nat.pos_iff_ne_zero.1 hn)
  have hN' : (n : ℚ) < 2 ^ (n.log2 + 1) := by exact_mod_cast Nat.lt_log2_self
  have hD : (2 : ℚ) ^ d.log2 ≤ d := by exact_mod_cast Nat.log2_self_le (Nat.pos_iff_ne_zero.1 hd)
  have hD' : (d : ℚ) < 2 ^ (d.log2 + 1) := by exact_mod_cast Nat.lt_log2_self
  have hdQ : (0 : ℚ) < d := by exact_mod_cast hd
  have e₁ : (2 : ℚ) ^ ((n.log2 : Int) - d.log2 - 1) = 2 ^ n.log2 / 2 ^ (d.log2 + 1) := by
    rw [show (n.log2 : Int) - d.log2 - 1 = (n.log2 : Int) - ((d.log2 + 1 : Nat) : Int) by omega,
      zpow_sub₀ (by norm_num), zpow_natCast, zpow_natCast]
  have e₂ : (2 : ℚ) ^ ((n.log2 : Int) - d.log2 + 1) = 2 ^ (n.log2 + 1) / 2 ^ d.log2 := by
    rw [show (n.log2 : Int) - d.log2 + 1 = ((n.log2 + 1 : Nat) : Int) - (d.log2 : Int) by omega,
      zpow_sub₀ (by norm_num), zpow_natCast, zpow_natCast]
  rw [e₁, e₂]
  constructor
  · rw [div_lt_div_iff₀ (by positivity) hdQ]
    calc (2 : ℚ) ^ n.log2 * d ≤ n * d := by gcongr
      _ < n * 2 ^ (d.log2 + 1) := by gcongr
  · rw [div_lt_div_iff₀ hdQ (by positivity)]
    calc (n : ℚ) * 2 ^ d.log2 ≤ n * d := by gcongr
      _ < 2 ^ (n.log2 + 1) * d := by gcongr

/- `log2Floor` is the binary logarithm of the ratio, rounded down. -/
theorem log2Floor_eq_log {n d : Nat} (hn : 0 < n) (hd : 0 < d) :
    log2Floor n d = Int.log 2 ((n : ℚ) / d) := by
  have hr : (0 : ℚ) < n / d := by positivity
  obtain ⟨hAbove, hBelow⟩ := ratio_bracket hn hd
  unfold log2Floor
  simp only [scaled_eq, Nat.one_mul]
  split_ifs with hTest
  · rw [lt_two_zpow_iff hd] at hTest
    have h₁ := (Int.zpow_le_iff_le_log (by norm_num) hr).1 hAbove.le
    have h₂ := (Int.lt_zpow_iff_log_lt (by norm_num) hr).1 hTest
    push_cast at h₁ h₂
    omega
  · rw [lt_two_zpow_iff hd, not_lt] at hTest
    have h₁ := (Int.zpow_le_iff_le_log (by norm_num) hr).1 hTest
    have h₂ := (Int.lt_zpow_iff_log_lt (by norm_num) hr).1 hBelow
    push_cast at h₁ h₂
    omega

/- The ratio lies in the binade `log2Floor` names. -/
theorem log2Floor_spec {n d : Nat} (hn : 0 < n) (hd : 0 < d) :
    (2 : ℚ) ^ log2Floor n d ≤ n / d ∧ (n : ℚ) / d < 2 ^ (log2Floor n d + 1) := by
  have hr : (0 : ℚ) < n / d := by positivity
  have hLow := Int.zpow_log_le_self (show 1 < 2 by norm_num) hr
  have hHigh := Int.lt_zpow_succ_log_self (show 1 < 2 by norm_num) ((n : ℚ) / d)
  push_cast at hLow hHigh
  rw [log2Floor_eq_log hn hd]
  exact ⟨hLow, hHigh⟩

------------------------------------------------------------
-- Rounding
------------------------------------------------------------

/- Rounding a quotient gives its floor or the next integer. -/
theorem roundHalfEven_cases (a b : Nat) :
    roundHalfEven a b = a / b ∨ roundHalfEven a b = a / b + 1 := by
  unfold roundHalfEven
  dsimp only
  split <;> simp

/- Scaling both sides of the quotient rounds the same: the tie test compares twice the
remainder with the divisor, and both scale alike. -/
theorem roundHalfEven_mul_mul (a b : Nat) {Y : Nat} (hY : 0 < Y) :
    roundHalfEven (a * Y) (b * Y) = roundHalfEven a b := by
  unfold roundHalfEven
  dsimp only
  rw [Nat.mul_div_mul_right _ _ hY, Nat.mul_mod_mul_right, ← Nat.mul_assoc]
  have hTie : (2 * (a % b) * Y == b * Y) = (2 * (a % b) == b) := by
    rw [Bool.eq_iff_iff]
    simp [Nat.mul_left_inj hY.ne']
  simp only [gt_iff_lt, Nat.mul_lt_mul_right hY, hTie]

theorem roundHalfEven_one (a : Nat) : roundHalfEven a 1 = a := by
  simp [roundHalfEven, Nat.mod_one]

/- Rounding depends on the ratio only. -/
theorem ofRatio_mul_mul (s : Bool) (n d : Nat) {Y : Nat} (hY : 0 < Y) :
    ofRatio s (n * Y) (d * Y) = ofRatio s n d := by
  by_cases hZero : n = 0 ∨ d = 0
  · rcases hZero with rfl | rfl <;> simp [ofRatio]
  have hn : 0 < n := by omega
  have hd : 0 < d := by omega
  have hLog : log2Floor (n * Y) (d * Y) = log2Floor n d := by
    rw [log2Floor_eq_log (Nat.mul_pos hn hY) (Nat.mul_pos hd hY), log2Floor_eq_log hn hd]
    push_cast
    rw [mul_div_mul_right _ _ (by positivity)]
  have hRound (k : Int) : roundHalfEven (n * Y * 2 ^ k.toNat) (d * Y * 2 ^ (-k).toNat) =
      roundHalfEven (n * 2 ^ k.toNat) (d * 2 ^ (-k).toNat) := by
    rw [Nat.mul_right_comm n, Nat.mul_right_comm d, roundHalfEven_mul_mul _ _ hY]
  simp only [ofRatio, scaled_eq, hLog, hRound, Nat.mul_eq_zero, hY.ne', or_false]

/- A ratio in the normal range rounds in its own binade `c`: to the significand
nearest `n / d · 2^(52 - c)`, or, when that carries to `2^53`, to the first double of the
next binade. -/
theorem ofRatio_of_normal (s : Bool) {n d : Nat} (hn : 0 < n) (hd : 0 < d)
    (hLow : -1022 ≤ log2Floor n d)
    (hHigh : log2Floor n d ≤ 1022) :
    ofRatio s n d =
      let c := log2Floor n d
      let m := roundHalfEven (n * 2 ^ (52 - c).toNat) (d * 2 ^ (c - 52).toNat)
      if m = 2 ^ 53 then .finite s (2 ^ 52) (c - 51) else .finite s m (c - 52) := by
  have hq : max (log2Floor n d - 52) minExp = log2Floor n d - 52 := by
    simp only [minExp]
    omega
  have hNeg : -(log2Floor n d - 52) = 52 - log2Floor n d := by omega
  have hNeg' : -(52 - log2Floor n d) = log2Floor n d - 52 := by omega
  simp only [ofRatio, hn.ne', hd.ne', decide_false, Bool.or_false, Bool.false_eq_true,
    ↓reduceIte, hq, scaled_eq, hNeg, hNeg', Nat.pow_eq]
  split_ifs with hCarry hOver hOver <;> simp only [maxExp] at hOver
  · omega
  · rw [show log2Floor n d - 52 + 1 = log2Floor n d - 51 by omega]
  · omega
  · rfl

theorem ofInt_natCast (k : Nat) : ofInt k = ofRatio false k 1 := by
  have hSign : ¬ (k : Int) < 0 := by omega
  simp [ofInt, hSign]

/- In the binade of the ratio the scaled ratio lies in `[2^52, 2^53)`, so it rounds to a
significand of 53 bits or carries to `2^53`. -/
theorem roundHalfEven_of_binade {n d : Nat} (hn : 0 < n) (hd : 0 < d) :
    let c := log2Floor n d
    2 ^ 52 ≤ roundHalfEven (n * 2 ^ (52 - c).toNat) (d * 2 ^ (c - 52).toNat) ∧
      roundHalfEven (n * 2 ^ (52 - c).toNat) (d * 2 ^ (c - 52).toNat) ≤ 2 ^ 53 := by
  intro c
  have hSpec := log2Floor_spec hn hd
  generalize hA : n * 2 ^ (52 - c).toNat = a
  generalize hB : d * 2 ^ (c - 52).toNat = b
  have hb : 0 < b := by rw [← hB]; positivity
  have hRatio : (a : ℚ) / b = n / d * 2 ^ (52 - c) := by
    rw [← hA, ← hB, show c - 52 = -(52 - c) by omega, ratio_scaled]
  have hLo : 2 ^ 52 * b ≤ a := by
    have h : (2 : ℚ) ^ (52 : Int) ≤ a / b := by
      have e : (2 : ℚ) ^ (52 : Int) = 2 ^ c * 2 ^ (52 - c) := by
        rw [← zpow_add₀ (by norm_num : (2 : ℚ) ≠ 0)]
        congr 1
        omega
      rw [hRatio, e]
      exact mul_le_mul_of_nonneg_right hSpec.1 (zpow_nonneg (by norm_num : (0 : ℚ) ≤ 2) _)
    rw [le_div_iff₀ (by exact_mod_cast hb)] at h
    exact_mod_cast h
  have hHi : a < 2 ^ 53 * b := by
    have h : (a : ℚ) / b < 2 ^ (53 : Int) := by
      have e : (2 : ℚ) ^ (53 : Int) = 2 ^ (c + 1) * 2 ^ (52 - c) := by
        rw [← zpow_add₀ (by norm_num : (2 : ℚ) ≠ 0)]
        congr 1
        omega
      rw [hRatio, e]
      exact mul_lt_mul_of_pos_right hSpec.2 (zpow_pos (by norm_num : (0 : ℚ) < 2) _)
    rw [div_lt_iff₀ (by exact_mod_cast hb)] at h
    exact_mod_cast h
  have hFloorLo : 2 ^ 52 ≤ a / b := (Nat.le_div_iff_mul_le hb).2 hLo
  have hFloorHi : a / b < 2 ^ 53 := (Nat.div_lt_iff_lt_mul hb).2 hHi
  rcases roundHalfEven_cases a b with h | h <;> omega

theorem pow_mul_zpow (k : Nat) (e : Int) : (2 : ℚ) ^ k * 2 ^ e = 2 ^ ((k : Int) + e) := by
  rw [zpow_add₀ (by norm_num : (2 : ℚ) ≠ 0), zpow_natCast]

/- A ratio in the normal range rounds to a finite double of its binade: its value is
between the powers of two around the ratio, a carry landing on the first double of the
next binade. -/
theorem ofRatio_bounds (s : Bool) {n d : Nat} (hn : 0 < n) (hd : 0 < d)
    (hLow : -1022 ≤ log2Floor n d)
    (hHigh : log2Floor n d ≤ 1022) :
    ∃ m q, ofRatio s n d = .finite s m q ∧
      (2 : ℚ) ^ log2Floor n d ≤ m * 2 ^ q ∧ (m : ℚ) * 2 ^ q ≤ 2 ^ (log2Floor n d + 1) := by
  obtain ⟨hLo, hHi⟩ := roundHalfEven_of_binade hn hd
  rw [ofRatio_of_normal s hn hd hLow hHigh]
  dsimp only
  generalize log2Floor n d = c at *
  generalize roundHalfEven (n * 2 ^ (52 - c).toNat) (d * 2 ^ (c - 52).toNat) = m at *
  split_ifs with hCarry
  · have hValue : ((2 ^ 52 : Nat) : ℚ) * 2 ^ (c - 51) = 2 ^ (c + 1) := by
      rw [Nat.cast_pow, Nat.cast_ofNat, pow_mul_zpow]
      congr 1
      omega
    refine ⟨_, _, rfl, ?_, hValue.le⟩
    rw [hValue]
    exact zpow_le_zpow_right₀ (by norm_num) (by omega)
  · have hLo' : (2 : ℚ) ^ 52 ≤ m := by exact_mod_cast hLo
    have hHi' : (m : ℚ) ≤ 2 ^ 53 := by exact_mod_cast hHi
    have hPos : (0 : ℚ) < 2 ^ (c - 52) := zpow_pos (by norm_num) _
    refine ⟨_, _, rfl, ?_, ?_⟩
    · calc (2 : ℚ) ^ c = 2 ^ 52 * 2 ^ (c - 52) := by rw [pow_mul_zpow]; congr 1; omega
        _ ≤ m * 2 ^ (c - 52) := by gcongr
    · calc (m : ℚ) * 2 ^ (c - 52) ≤ 2 ^ 53 * 2 ^ (c - 52) := by gcongr
        _ = 2 ^ (c + 1) := by rw [pow_mul_zpow]; congr 1; omega

------------------------------------------------------------
-- Values and exact integers
------------------------------------------------------------

/- A nonnegative finite double as a ratio: its significand scaled up by a nonnegative
exponent, over two to a negative one. -/
theorem toRatio_false (m : Nat) (e : Int) :
    toRatio false m e = (((m * 2 ^ e.toNat : Nat) : Int), 2 ^ (-e).toNat) := by
  simp only [toRatio, Bool.false_eq_true, ↓reduceIte, Nat.pow_eq]
  split_ifs with h
  · have h0 : (-e).toNat = 0 := by omega
    simp [h0]
  · have h0 : e.toNat = 0 := by omega
    simp [h0]

theorem value_eq (m : Nat) (e : Int) :
    ((m * 2 ^ e.toNat : Nat) : ℚ) / ((2 ^ (-e).toNat : Nat) : ℚ) = m * 2 ^ e := by
  simpa using ratio_scaled m 1 e

/- Comparing two nonnegative finite doubles compares their values. -/
theorem lt_finite_iff (a b : Nat) (e f : Int) :
    lt (.finite false a e) (.finite false b f) = true ↔ (a : ℚ) * 2 ^ e < b * 2 ^ f := by
  rw [← value_eq a e, ← value_eq b f, div_lt_div_iff₀ (by positivity) (by positivity)]
  simp only [lt, toRatio_false, decide_eq_true_eq]
  exact_mod_cast Iff.rfl

/- The binade of a natural number is its binary logarithm. -/
theorem log2Floor_one {k : Nat} (hk : 0 < k) : log2Floor k 1 = Nat.log 2 k := by
  rw [log2Floor_eq_log hk Nat.one_pos, Nat.cast_one, div_one, Int.log_natCast]

/- A positive integer below `2^53` is a double exactly: its significand is the integer
shifted up to 53 bits, which stays below `2^53`, so no carry. -/
theorem ofInt_exact {k : Nat} (h0 : 0 < k) (hk : k < 2 ^ 53) :
    ofInt k = .finite false (k * 2 ^ (52 - Nat.log 2 k)) (-((52 - Nat.log 2 k : Nat) : Int)) := by
  have hLog : Nat.log 2 k < 53 := Nat.log_lt_of_lt_pow h0.ne' hk
  have hBelow : k < 2 ^ (Nat.log 2 k + 1) := Nat.lt_pow_succ_log_self (by norm_num) k
  rw [ofInt_natCast, ofRatio_of_normal false h0 Nat.one_pos (by rw [log2Floor_one h0]; omega)
    (by rw [log2Floor_one h0]; omega)]
  simp only [log2Floor_one h0]
  have hUp : (52 - (Nat.log 2 k : Int)).toNat = 52 - Nat.log 2 k := by omega
  have hDown : ((Nat.log 2 k : Int) - 52).toNat = 0 := by omega
  have hFits : k * 2 ^ (52 - Nat.log 2 k) < 2 ^ 53 := by
    calc k * 2 ^ (52 - Nat.log 2 k) < 2 ^ (Nat.log 2 k + 1) * 2 ^ (52 - Nat.log 2 k) :=
          Nat.mul_lt_mul_of_pos_right hBelow (by positivity)
      _ = 2 ^ 53 := by rw [← Nat.pow_add]; congr 1; omega
  simp only [hUp, hDown, Nat.pow_zero, Nat.mul_one, roundHalfEven_one, hFits.ne, ↓reduceIte]
  congr 1
  omega

/- An integer shifted up as `ofInt_exact` gives it, as a ratio. -/
theorem toRatio_shifted (k j : Nat) :
    toRatio false (k * 2 ^ j) (-(j : Int)) = (((k * 2 ^ j : Nat) : Int), 2 ^ j) := by
  have hUp : (-(j : Int)).toNat = 0 := by omega
  simp [toRatio_false, hUp]

/- Products of integers are exact while they stay below `2^53`. -/
theorem mul_ofInt {a b : Nat} (ha : 0 < a) (ha' : a < 2 ^ 53) (hab : a * b < 2 ^ 53) :
    mul (ofInt a) (ofInt b) = ofInt ((a * b : Nat) : Int) := by
  have hi := ofInt_exact ha ha'
  generalize 52 - Nat.log 2 a = i at hi
  rcases Nat.eq_zero_or_pos b with rfl | hb
  · simp [hi, ofInt_zero, mul, toRatio_false, ofSigned]
  have hb' : b < 2 ^ 53 := lt_of_le_of_lt (Nat.le_mul_of_pos_left b ha) hab
  have hj := ofInt_exact hb hb'
  generalize 52 - Nat.log 2 b = j at hj
  have hNum : ((a * 2 ^ i : Nat) : Int) * ((b * 2 ^ j : Nat) : Int) =
      ((a * b * (2 ^ i * 2 ^ j) : Nat) : Int) := by
    push_cast
    ring
  have hPos : 0 < a * b * (2 ^ i * 2 ^ j) := by positivity
  simp only [hi, hj, mul, toRatio_shifted, ofSigned, hNum, Nat.cast_eq_zero, hPos.ne',
    ↓reduceIte, Int.natAbs_natCast, Int.natCast_nonneg, not_lt.2, decide_false]
  have hScale := ofRatio_mul_mul false (a * b) 1 (show 0 < 2 ^ i * 2 ^ j by positivity)
  rw [Nat.one_mul] at hScale
  rw [hScale, ofInt_natCast]

/- The quotient of two integers below `2^53` is their ratio rounded once. -/
theorem div_ofInt {a b : Nat} (ha : a < 2 ^ 53) (hb : 0 < b) (hb' : b < 2 ^ 53) :
    div (ofInt a) (ofInt b) = ofRatio false a b := by
  have hj := ofInt_exact hb hb'
  generalize 52 - Nat.log 2 b = j at hj
  have hMant : b * 2 ^ j ≠ 0 := by positivity
  rcases Nat.eq_zero_or_pos a with rfl | ha₀
  · simp [hj, ofInt_zero, div, toRatio_false, ofSigned, hMant, ofRatio]
  have hi := ofInt_exact ha₀ ha
  generalize 52 - Nat.log 2 a = i at hi
  have hNum : ((a * 2 ^ i : Nat) : Int) * ((2 ^ j : Nat) : Int) * 1 =
      ((a * (2 ^ i * 2 ^ j) : Nat) : Int) := by
    push_cast
    ring
  have hDen : 2 ^ i * (b * 2 ^ j) = b * (2 ^ i * 2 ^ j) := by ring
  have hPos : 0 < a * (2 ^ i * 2 ^ j) := by positivity
  simp only [hi, hj, div, hMant, toRatio_shifted, ofSigned, ↓reduceIte, Int.natCast_nonneg,
    not_lt.2, hNum, Nat.cast_eq_zero, hPos.ne', decide_false, Int.natAbs_natCast, hDen]
  exact ofRatio_mul_mul false a b (by positivity)

------------------------------------------------------------
-- One hundred
------------------------------------------------------------

/- One hundred as a double: 100 · 2^46 · 2^-46. -/
theorem ofInt_hundred : ofInt 100 = .finite false (100 * 2 ^ 46) (-46) := by
  have hLog : Nat.log 2 100 = 6 := Nat.log_eq_of_pow_le_of_lt_pow (by norm_num) (by norm_num)
  have h := @ofInt_exact 100 (by norm_num) (by norm_num)
  rw [hLog] at h
  exact h

theorem hundred_value : ((100 * 2 ^ 46 : Nat) : ℚ) * 2 ^ (-46 : Int) = 100 := by
  norm_num

section Hundred

variable {N t : Nat}

/- Zero is below one hundred. -/
theorem reaches_hundred_zero (ht : 0 < t) :
    (lt (ofInt 100) (ofRatio false 0 t) = true ∨ ofRatio false 0 t = ofInt 100) ↔
      100 * t ≤ 0 := by
  have hZero : ofRatio false 0 t = .finite false 0 0 := by simp [ofRatio]
  have hPos : (0 : ℚ) < ((100 * 2 ^ 46 : Nat) : ℚ) * 2 ^ (-46 : Int) := by positivity
  rw [hZero, ofInt_hundred, lt_finite_iff, Nat.cast_zero, zero_mul]
  constructor
  · rintro (h | h)
    · linarith
    · simp at h
  · intro h
    omega

/- A ratio above 2^-46 and below 2^53 is in a normal binade. -/
theorem log2Floor_normal
    (hN₀ : 0 < N)
    (hN : N < 2 ^ 53)
    (ht : 0 < t)
    (ht' : t < 2 ^ 46) :
    -1022 ≤ log2Floor N t ∧ log2Floor N t ≤ 1022 := by
  have htQ : (0 : ℚ) < t := by exact_mod_cast ht
  have hSpec := log2Floor_spec hN₀ ht
  have hAbove : (2 : ℚ) ^ (-46 : Int) < N / t := by
    rw [lt_div_iff₀ htQ, zpow_neg, zpow_ofNat, ← div_eq_inv_mul, div_lt_iff₀ (by positivity)]
    have h₁ : (t : ℚ) < 2 ^ 46 := by exact_mod_cast ht'
    have h₂ : (1 : ℚ) ≤ N := by exact_mod_cast hN₀
    nlinarith
  have hBelow : (N : ℚ) / t < 2 ^ (53 : Int) := by
    rw [div_lt_iff₀ htQ, zpow_ofNat]
    have h₁ : (N : ℚ) < 2 ^ 53 := by exact_mod_cast hN
    have h₂ : (1 : ℚ) ≤ t := by exact_mod_cast ht
    nlinarith
  have hLow := (zpow_lt_zpow_iff_right₀ (by norm_num : (1 : ℚ) < 2)).1 (hAbove.trans hSpec.2)
  have hHigh := (zpow_lt_zpow_iff_right₀ (by norm_num : (1 : ℚ) < 2)).1 (hSpec.1.trans_lt hBelow)
  omega

variable (hN₀ : 0 < N) (ht : 0 < t)
variable (hLow : -1022 ≤ log2Floor N t) (hHigh : log2Floor N t ≤ 1022)
include hN₀ ht hLow hHigh

/- Below 64 the rounded ratio stays below one hundred. -/
theorem reaches_hundred_below (hc : log2Floor N t < 6) :
    (lt (ofInt 100) (ofRatio false N t) = true ∨ ofRatio false N t = ofInt 100) ↔
      100 * t ≤ N := by
  have htQ : (0 : ℚ) < t := by exact_mod_cast ht
  have hSpec := log2Floor_spec hN₀ ht
  obtain ⟨m, q, hR, -, hVal⟩ := ofRatio_bounds false hN₀ ht hLow hHigh
  have h64 : (2 : ℚ) ^ (log2Floor N t + 1) ≤ 64 := by
    calc (2 : ℚ) ^ (log2Floor N t + 1) ≤ 2 ^ (6 : Int) :=
          zpow_le_zpow_right₀ (by norm_num) (by omega)
      _ = 64 := by norm_num
  have hRatio : (N : ℚ) < 100 * t := by
    rw [← div_lt_iff₀ htQ]
    linarith [hSpec.2]
  rw [hR, ofInt_hundred, lt_finite_iff, hundred_value]
  constructor
  · rintro (h | h)
    · linarith
    · simp only [finite.injEq, true_and] at h
      obtain ⟨rfl, rfl⟩ := h
      linarith [hundred_value]
  · intro h
    have h' : (100 * t : ℚ) ≤ N := by exact_mod_cast h
    linarith

/- From 128 on the rounded ratio is above one hundred. -/
theorem reaches_hundred_above (hc : 6 < log2Floor N t) :
    (lt (ofInt 100) (ofRatio false N t) = true ∨ ofRatio false N t = ofInt 100) ↔
      100 * t ≤ N := by
  have htQ : (0 : ℚ) < t := by exact_mod_cast ht
  have hSpec := log2Floor_spec hN₀ ht
  obtain ⟨m, q, hR, hVal, -⟩ := ofRatio_bounds false hN₀ ht hLow hHigh
  have h128 : (128 : ℚ) ≤ 2 ^ log2Floor N t := by
    calc (128 : ℚ) = 2 ^ (7 : Int) := by norm_num
      _ ≤ 2 ^ log2Floor N t := zpow_le_zpow_right₀ (by norm_num) (by omega)
  have hRatio : (128 * t : ℚ) ≤ N := by
    rw [← le_div_iff₀ htQ]
    linarith [hSpec.1]
  refine iff_of_true (.inl ?_) ?_
  · rw [hR, ofInt_hundred, lt_finite_iff, hundred_value]
    linarith
  · have h : (100 * t : ℚ) ≤ N := by linarith
    exact_mod_cast h

/-
  In the binade of one hundred the rounded significand reaches 100 · 2^46 exactly when
  the ratio reaches one hundred: a ratio below it is at least 2^46 / t units of the last
  place short, which is more than one for a denominator below 2^46.
-/
theorem reaches_hundred_six (ht' : t < 2 ^ 46) (hc : log2Floor N t = 6) :
    (lt (ofInt 100) (ofRatio false N t) = true ∨ ofRatio false N t = ofInt 100) ↔
      100 * t ≤ N := by
  rw [ofRatio_of_normal false hN₀ ht hLow hHigh]
  dsimp only
  rw [hc, show ((52 : Int) - 6).toNat = 46 from rfl, show ((6 : Int) - 52).toNat = 0 from rfl,
    Nat.pow_zero, Nat.mul_one]
  have hCases := roundHalfEven_cases (N * 2 ^ 46) t
  generalize roundHalfEven (N * 2 ^ 46) t = m at hCases ⊢
  have hReach : 100 * t ≤ N ↔ 100 * 2 ^ 46 ≤ m := by
    constructor
    · intro h
      have hFloor : 100 * 2 ^ 46 ≤ N * 2 ^ 46 / t :=
        (Nat.le_div_iff_mul_le ht).2 (by norm_num; omega)
      omega
    · intro h
      by_contra hLt
      have hFloor : N * 2 ^ 46 / t < 100 * 2 ^ 46 - 1 :=
        (Nat.div_lt_iff_lt_mul ht).2 (by norm_num at ht' ⊢; omega)
      omega
  rw [hReach, ofInt_hundred]
  split_ifs with hCarry
  · refine iff_of_true (.inl ?_) (by omega)
    rw [lt_finite_iff]
    norm_num
  · rw [lt_finite_iff, show (6 : Int) - 52 = -46 by norm_num,
      mul_lt_mul_iff_of_pos_right (zpow_pos (by norm_num) _), Nat.cast_lt]
    simp only [finite.injEq, true_and, and_true]
    omega

end Hundred

/-
  Rounded once, a ratio of integers is at least one hundred exactly when the ratio is,
  as long as the numerator is below 2^53 and the denominator below 2^46. The binade of
  the ratio is set against that of one hundred.
-/
theorem ofRatio_reaches_hundred_iff {N t : Nat} (hN : N < 2 ^ 53) (ht : 0 < t) (ht' : t < 2 ^ 46) :
    (lt (ofInt 100) (ofRatio false N t) = true ∨ ofRatio false N t = ofInt 100) ↔ 100 * t ≤ N := by
  rcases Nat.eq_zero_or_pos N with rfl | hN₀
  · exact reaches_hundred_zero ht
  obtain ⟨hLow, hHigh⟩ := log2Floor_normal hN₀ hN ht ht'
  rcases lt_trichotomy (log2Floor N t) 6 with hc | hc | hc
  · exact reaches_hundred_below hN₀ ht hLow hHigh hc
  · exact reaches_hundred_six hN₀ ht hLow hHigh ht' hc
  · exact reaches_hundred_above hN₀ ht hLow hHigh hc

end Binary64

namespace Progress

------------------------------------------------------------
-- The percentage
------------------------------------------------------------

/- While the counts stay below 2^53 the percentage is one hundred times the processed
units over the total, rounded once and capped at one hundred. -/
theorem percentage_eq_ofRatio (p : Progress) (hT : 0 < p.total) (hT' : p.total < 2 ^ 53)
    (hP : 100 * p.processed < 2 ^ 53) :
    p.percentage =
      let pct := Binary64.ofRatio false (100 * p.processed) p.total
      if Binary64.lt (Binary64.ofInt 100) pct then Binary64.ofInt 100 else pct := by
  unfold percentage
  dsimp only
  rw [show (100 : Int) = ((100 : Nat) : Int) from rfl,
    Binary64.mul_ofInt (by norm_num) (by norm_num) hP, Binary64.div_ofInt hP hT hT']

/- The percentage is one hundred exactly when the processed units reach the total, for
counts below 2^46. -/
theorem percentage_eq_hundred_iff (p : Progress) (hT : 0 < p.total) (hT' : p.total < 2 ^ 46)
    (hP : p.processed < 2 ^ 46) :
    p.percentage = Binary64.ofInt 100 ↔ p.total ≤ p.processed := by
  rw [percentage_eq_ofRatio p hT (by omega) (by omega),
    ← Nat.mul_le_mul_left_iff (by norm_num : 0 < 100),
    ← Binary64.ofRatio_reaches_hundred_iff (by omega) hT hT']
  dsimp only
  split_ifs with hLt <;> simp [hLt]

end Progress

end LineBatch
