import LineBatch.Http.Client
import Mathlib.Tactic.Positivity
import Mathlib.Tactic.Linarith

/-
  The wait before each retry of a request.

  Before retry `a` the client waits its first wait doubled `a - 1`
  times, up to its largest wait. The doubling is done in 64-bit
  integers and the cap is applied after it, so the wait is the one
  meant exactly while the doubled wait fits in 64 bits: it is then
  min(first * 2^(a-1), largest), positive, at most the largest wait,
  and no retry waits less than one before it. A first wait of one
  second no longer fits at the 35th retry, where the product wraps to
  a negative wait that the cap leaves alone; from the 65th retry on
  the factor is 0, and so is the wait.

  Main declarations:
    * `Options.backoff_toInt_of_fits`, `Options.backoff_le_of_fits`
    * `backoff_doubles_up_to_cap`, `backoff_wraps_below_zero`
-/

namespace LineBatch.Http

namespace Options

variable (o : Options)

/- A doubled wait that fits in 64 bits doubles fewer than 63 times. -/
theorem shift_lt_of_fits {s : Nat} (hBase : 0 < o.retryBackoff)
    (hFits : o.retryBackoff.toInt * 2 ^ s < 2 ^ 63) :
    s < 63 := by
  have hOne : 1 ≤ o.retryBackoff.toInt := Int64.lt_iff_toInt_lt.1 hBase
  by_contra hLarge
  have hPow : (2 : Int) ^ 63 ≤ 2 ^ s := pow_le_pow_right₀ (by norm_num) (by omega)
  have hPos : (0 : Int) < 2 ^ s := by positivity
  nlinarith

/- While the doubled wait fits in 64 bits, the wait before retry `a` is the first wait doubled
`a - 1` times, or the largest wait if that is less: the unsigned shift is `a - 1` itself,
and the product fits, so it does not wrap. -/
theorem backoff_toInt_of_fits {a : Int} (ha : 1 ≤ a) (hBase : 0 < o.retryBackoff)
    (hFits : o.retryBackoff.toInt * 2 ^ (a - 1).toNat < 2 ^ 63) :
    (o.backoff a).toInt =
      min (o.retryBackoff.toInt * 2 ^ (a - 1).toNat) o.retryMaxBackoff.toInt := by
  have hShift := o.shift_lt_of_fits hBase hFits
  have hOne : 1 ≤ o.retryBackoff.toInt := Int64.lt_iff_toInt_lt.1 hBase
  have hMod : ((a - 1) % 2 ^ 64).toNat = (a - 1).toNat := by
    rw [Int.emod_eq_of_lt (by omega) (by omega)]
  have hPowLt : 2 ^ (a - 1).toNat < 2 ^ 63 := Nat.pow_lt_pow_right (by omega) hShift
  have hFactor : (Int64.ofNat (2 ^ (a - 1).toNat)).toInt = 2 ^ (a - 1).toNat := by
    rw [Int64.toInt_ofNat_of_lt hPowLt]
    push_cast
    rfl
  have hNonneg : 0 ≤ o.retryBackoff.toInt * 2 ^ (a - 1).toNat := by positivity
  have hWait : (o.retryBackoff * Int64.ofNat (2 ^ (a - 1).toNat)).toInt =
      o.retryBackoff.toInt * 2 ^ (a - 1).toNat := by
    rw [Int64.toInt_mul, hFactor]
    exact Int.bmod_eq_of_le (by omega) (by omega)
  simp only [backoff, Int.pow_eq, Nat.pow_eq, hMod, if_pos (show (a - 1).toNat < 64 by omega)]
  split
  · next hCapped =>
    rw [Int64.lt_iff_toInt_lt, hWait] at hCapped
    omega
  · next hKept =>
    rw [Int64.lt_iff_toInt_lt, hWait] at hKept
    rw [hWait]
    omega

/- Over the integers, the first wait doubled before an earlier retry is no larger. -/
theorem doubled_le {a a' : Int} (hLe : a' ≤ a) (hBase : 0 < o.retryBackoff) :
    o.retryBackoff.toInt * 2 ^ (a' - 1).toNat ≤ o.retryBackoff.toInt * 2 ^ (a - 1).toNat := by
  have hOne : 0 ≤ o.retryBackoff.toInt := by
    have := Int64.lt_iff_toInt_lt.1 hBase
    simp at this
    omega
  have hPow : (2 : Int) ^ (a' - 1).toNat ≤ 2 ^ (a - 1).toNat :=
    pow_le_pow_right₀ (by norm_num) (by omega)
  exact mul_le_mul_of_nonneg_left hPow hOne

/- Fitting in 64 bits at a retry, the doubled wait fits at every retry before it. -/
theorem fits_of_le {a a' : Int} (hLe : a' ≤ a) (hBase : 0 < o.retryBackoff)
    (hFits : o.retryBackoff.toInt * 2 ^ (a - 1).toNat < 2 ^ 63) :
    o.retryBackoff.toInt * 2 ^ (a' - 1).toNat < 2 ^ 63 :=
  calc o.retryBackoff.toInt * 2 ^ (a' - 1).toNat
      ≤ o.retryBackoff.toInt * 2 ^ (a - 1).toNat := o.doubled_le hLe hBase
    _ < 2 ^ 63 := hFits

/- While the doubled wait fits, no retry waits less than one before it. -/
theorem backoff_le_of_fits {a a' : Int} (ha' : 1 ≤ a') (hLe : a' ≤ a)
    (hBase : 0 < o.retryBackoff) (hFits : o.retryBackoff.toInt * 2 ^ (a - 1).toNat < 2 ^ 63) :
    o.backoff a' ≤ o.backoff a := by
  have hFits' := o.fits_of_le hLe hBase hFits
  have hMul := o.doubled_le hLe hBase
  rw [Int64.le_iff_toInt_le, o.backoff_toInt_of_fits (by omega) hBase hFits,
    o.backoff_toInt_of_fits ha' hBase hFits']
  omega

end Options

/-
  While the first wait doubled `a - 1` times fits in 64 bits, the wait
  before retry `a` of a HEAD or a GET is that doubled wait or the
  largest wait, whichever is less, computed over the integers; it is
  positive, at most the largest wait, and no earlier retry waits
  longer.
-/
theorem backoff_doubles_up_to_cap (o : Options) (hBase : 0 < o.retryBackoff)
    (hCap : 0 < o.retryMaxBackoff) (a : Int) (ha : 1 ≤ a)
    (hFits : o.retryBackoff.toInt * 2 ^ (a - 1).toNat < 2 ^ 63) :
    (o.backoff a).toInt =
        min (o.retryBackoff.toInt * 2 ^ (a - 1).toNat) o.retryMaxBackoff.toInt ∧
      0 < o.backoff a ∧ o.backoff a ≤ o.retryMaxBackoff ∧
      ∀ a', 1 ≤ a' → a' ≤ a → o.backoff a' ≤ o.backoff a := by
  have hValue := o.backoff_toInt_of_fits ha hBase hFits
  have hOne : 1 ≤ o.retryBackoff.toInt := Int64.lt_iff_toInt_lt.1 hBase
  have hCapPos : 0 < o.retryMaxBackoff.toInt := Int64.lt_iff_toInt_lt.1 hCap
  have hPow : (1 : Int) ≤ 2 ^ (a - 1).toNat := one_le_pow₀ (by norm_num)
  have hProduct : 1 ≤ o.retryBackoff.toInt * 2 ^ (a - 1).toNat := by nlinarith
  refine ⟨hValue, ?_, ?_, fun a' ha' hLe => o.backoff_le_of_fits ha' hLe hBase hFits⟩
  · rw [Int64.lt_iff_toInt_lt, hValue]
    simp only [Int64.toInt_zero]
    omega
  · rw [Int64.le_iff_toInt_le, hValue]
    omega

/- The client's usual waits, one second doubled up to thirty, before its fifth retry. -/
theorem backoff_doubles_up_to_cap_default :
    let o : Options :=
      { retryAttempts := 5, retryBackoff := 1000000000, retryMaxBackoff := 30000000000 }
    0 < o.retryBackoff ∧ 0 < o.retryMaxBackoff ∧
      o.retryBackoff.toInt * 2 ^ ((5 : Int) - 1).toNat < 2 ^ 63 ∧
      (o.backoff 5).toInt = 16000000000 := by
  intro o
  have hBase : 0 < o.retryBackoff := by decide
  have hCap : 0 < o.retryMaxBackoff := by decide
  have hFits : o.retryBackoff.toInt * 2 ^ ((5 : Int) - 1).toNat < 2 ^ 63 := by decide
  refine ⟨hBase, hCap, hFits, ?_⟩
  rw [(backoff_doubles_up_to_cap o hBase hCap 5 (by decide) hFits).1]
  decide

/-
  With a first wait of one second and a largest wait of thirty, the
  wait before the 35th retry wraps around to a negative number of
  nanoseconds, where doubling over the integers and capping gives
  thirty seconds; before the 65th retry the wait is 0.
-/
theorem backoff_wraps_below_zero :
    let o : Options :=
      { retryAttempts := 65, retryBackoff := 1000000000, retryMaxBackoff := 30000000000 }
    (o.backoff 35).toInt = -1266874889709551616 ∧
      min (o.retryBackoff.toInt * 2 ^ ((35 : Int) - 1).toNat) o.retryMaxBackoff.toInt =
        30000000000 ∧
      (o.backoff 65).toInt = 0 := by
  decide

end LineBatch.Http
