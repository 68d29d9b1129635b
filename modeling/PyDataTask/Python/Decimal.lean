import Mathlib.Data.Nat.Log
import Mathlib.Data.Rat.Floor
import Mathlib.Algebra.Order.Field.Power
import Mathlib.Algebra.BigOperators.Group.List
import Mathlib.Tactic.Linarith

/-!
# Python's `decimal` arithmetic on finite values

`kubernetes.utils.parse_quantity` returns a `Decimal`, and `launch`, `delete` and `_load_usage`
add and subtract such values with `+=` and `-=`. In the default context each of these operations
rounds its exact result to `prec = 28` significant digits, ties to even (`ROUND_HALF_EVEN`);
comparisons are exact, and `Decimal(string)` is exact whatever its length. A finite `Decimal` is
a rational here, and `Decimal.round` is the context's rounding of an exact result. The special
values (`NaN`, `Infinity`) and the exponent limits `Emin` and `Emax` are left out.

Every definition evaluates: the adjusted exponent is found from the digit counts of the numerator
and the denominator, with powers of ten built from natural numbers.
-/

namespace PyDataTask.Python.Decimal

/-- `⌊log₁₀ n⌋` by repeated division by ten (`0` for `n = 0`); `n` itself is enough fuel. -/
def log10Fuel : ℕ → ℕ → ℕ
  | 0, _ => 0
  | fuel + 1, n => if n < 10 then 0 else log10Fuel fuel (n / 10) + 1

def log10 (n : ℕ) : ℕ := log10Fuel n n

theorem log10Fuel_eq : ∀ (fuel n : ℕ), n ≤ fuel → log10Fuel fuel n = Nat.log 10 n
  | 0, n, bound => by simp [Nat.le_zero.1 bound, log10Fuel]
  | fuel + 1, n, bound => by
      unfold log10Fuel
      split_ifs with small
      · exact (Nat.log_of_lt small).symm
      · rw [log10Fuel_eq fuel (n / 10) (by omega),
          Nat.log_of_one_lt_of_le (by norm_num) (by omega : 10 ≤ n)]

theorem log10_eq (n : ℕ) : log10 n = Nat.log 10 n := log10Fuel_eq n n le_rfl

/-- `10 ^ e` for an integer exponent, as a quotient of natural powers. -/
def pow10 (e : ℤ) : ℚ := mkRat ((10 ^ e.toNat : ℕ) : ℤ) (10 ^ (-e).toNat)

@[simp]
theorem pow10_eq (e : ℤ) : pow10 e = 10 ^ e := by
  rw [pow10, Rat.mkRat_eq_div]
  obtain ⟨n, rfl | rfl⟩ := Int.eq_nat_or_neg e <;> simp [zpow_neg]

/-! ## Rounding to the context's precision -/

/-- The adjusted exponent of `q ≠ 0`, the `e` with `10 ^ e ≤ |q| < 10 ^ (e + 1)`: the digit
counts of the numerator and the denominator place it within one. -/
def adjusted (q : ℚ) : ℤ :=
  let e : ℤ := log10 q.num.natAbs - log10 q.den
  if pow10 e ≤ |q| then e else e - 1

theorem abs_eq_natAbs_div_den (q : ℚ) : |q| = (q.num.natAbs : ℚ) / q.den := by
  conv_lhs => rw [← Rat.num_div_den q]
  rw [abs_div, Nat.abs_cast, Nat.cast_natAbs, Int.cast_abs]

theorem pow10_adjusted_le {q : ℚ} (nonzero : q ≠ 0) : 10 ^ adjusted q ≤ |q| := by
  unfold adjusted
  dsimp only
  split_ifs with below
  · rwa [pow10_eq] at below
  · rw [log10_eq, log10_eq, abs_eq_natAbs_div_den]
    set N := q.num.natAbs
    set D := q.den
    have lower : 10 ^ Nat.log 10 N ≤ N :=
      Nat.pow_log_le_self 10 (Int.natAbs_ne_zero.mpr (Rat.num_ne_zero.mpr nonzero))
    have upper : D < 10 ^ (Nat.log 10 D + 1) := Nat.lt_pow_succ_log_self (by norm_num) D
    have split : (10 : ℚ) ^ ((Nat.log 10 N : ℤ) - Nat.log 10 D - 1) =
        10 ^ Nat.log 10 N / 10 ^ (Nat.log 10 D + 1) := by
      rw [sub_sub, zpow_sub₀ (by norm_num), zpow_natCast, ← Nat.cast_succ, zpow_natCast]
    rw [split]
    exact div_le_div₀ (by positivity) (by exact_mod_cast lower) (by positivity)
      (by exact_mod_cast upper.le)

/-- `ROUND_HALF_EVEN` to an integer: the nearest one, the even one of two at a tie. -/
def roundHalfEven (x : ℚ) : ℤ :=
  if x - ⌊x⌋ < 1 / 2 then ⌊x⌋
  else if 1 / 2 < x - ⌊x⌋ then ⌊x⌋ + 1
  else if ⌊x⌋ % 2 = 0 then ⌊x⌋ else ⌊x⌋ + 1

theorem roundHalfEven_intCast (k : ℤ) : roundHalfEven k = k := by
  simp [roundHalfEven]

/-- The default context's precision, `getcontext().prec`. -/
def prec : ℕ := 28

/-- The exponent of the last digit kept: `prec` digits from the leading one. -/
def quantum (q : ℚ) : ℤ := adjusted q - (prec - 1)

/-- The exact result of an addition or a subtraction as the default context rounds it. -/
def round (q : ℚ) : ℚ := roundHalfEven (q / pow10 (quantum q)) * pow10 (quantum q)

/-- A value of at most `prec` significant digits is not rounded: this covers every sum of
quantities in whole nanounits that stays below `10 ^ 19` in magnitude. -/
theorem round_eq_self {q : ℚ} {m k : ℤ} (value : q = m * 10 ^ k) (digits : |m| < 10 ^ prec) :
    round q = q := by
  rcases eq_or_ne q 0 with rfl | nonzero
  · simp [round, roundHalfEven]
  set t := quantum q with ht
  have small : t ≤ k := by
    have above : (10 : ℚ) ^ adjusted q < 10 ^ ((prec : ℤ) + k) :=
      calc (10 : ℚ) ^ adjusted q ≤ |q| := pow10_adjusted_le nonzero
        _ = |(m : ℚ)| * 10 ^ k := by
            rw [value, abs_mul, abs_of_pos (zpow_pos (by norm_num : (0 : ℚ) < 10) k)]
        _ < 10 ^ prec * 10 ^ k :=
            mul_lt_mul_of_pos_right (by exact_mod_cast digits) (zpow_pos (by norm_num) k)
        _ = 10 ^ ((prec : ℤ) + k) := by rw [zpow_add₀ (by norm_num), zpow_natCast]
    have := (zpow_lt_zpow_iff_right₀ (by norm_num : (1 : ℚ) < 10)).mp above
    simp only [ht, quantum]
    omega
  have scaled : q / 10 ^ t = ((m * 10 ^ (k - t).toNat : ℤ) : ℚ) := by
    rw [value, Int.cast_mul, Int.cast_pow, ← zpow_natCast, Int.toNat_of_nonneg (by omega),
      mul_div_assoc, ← zpow_sub₀ (by norm_num)]
    norm_num
  rw [round, pow10_eq, scaled, roundHalfEven_intCast, ← scaled,
    div_mul_cancel₀ _ (zpow_ne_zero _ (by norm_num))]

/-- `Decimal('1.0000000000000000000000000001')`, of 29 digits, rounds to `1`. -/
example : round (mkRat ((10 ^ 28 + 1 : ℕ) : ℤ) (10 ^ 28)) = 1 := by with_unfolding_all decide

/-! ## Running sums -/

/-- `total = 0` followed by `total += x` for each `x` in turn, each sum rounded by `round`:
with `Decimal.round` the loop of `launch`, with `id` exact arithmetic. -/
def accumulate (round : ℚ → ℚ) (xs : List ℚ) : ℚ := xs.foldl (fun total x => round (total + x)) 0

theorem foldl_add_eq (xs : List ℚ) :
    ∀ total : ℚ, xs.foldl (fun total x => total + x) total = total + xs.sum := by
  induction xs with
  | nil => simp
  | cons x rest ih => intro total; simp [ih, add_assoc]

@[simp]
theorem accumulate_id (xs : List ℚ) : accumulate id xs = xs.sum := by
  simpa [accumulate] using foldl_add_eq xs 0

/-- `total -= x` for each `x` in turn from `start`, each difference rounded by `round`: the loop
of `delete`. -/
def deduct (round : ℚ → ℚ) (start : ℚ) (xs : List ℚ) : ℚ :=
  xs.foldl (fun total x => round (total - x)) start

@[simp]
theorem deduct_id (start : ℚ) (xs : List ℚ) : deduct id start xs = start - xs.sum := by
  induction xs generalizing start with
  | nil => simp [deduct]
  | cons x rest ih => simpa [deduct, sub_sub] using ih (start - x)

end PyDataTask.Python.Decimal
