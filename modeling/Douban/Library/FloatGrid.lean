import Douban.Library.NearestEven
import Mathlib.Algebra.Ring.CharZero
import Mathlib.Data.Int.Log
import Mathlib.Tactic.Positivity

/-!
# Binary floating-point grids

A format represents the multiples of a power of two whose significand fits its
precision, down to a least exponent.  `nearest` rounds a number to the grid of
its own binade, without an upper bound on the exponent; overflow is a matter of
the formats built on it.  The two facts that other proofs use are that rounding
is monotone and that it fixes what is representable.
-/

namespace Library

structure FloatFormat where
  precision : ℕ
  least : ℤ
  precise : 0 < precision

namespace FloatFormat

section Representable

variable {K : Type*} [Field K] {format : FloatFormat} {x : K}

/-- A significand that fits, times a power of two that is not too small. -/
def Representable (format : FloatFormat) (x : K) : Prop :=
  ∃ significand exponent : ℤ, |significand| < 2 ^ format.precision ∧
    format.least ≤ exponent ∧ x = significand * 2 ^ exponent

namespace Representable

theorem zero : format.Representable (0 : K) :=
  ⟨0, format.least, by positivity, le_refl _, by simp⟩

theorem neg (representable : format.Representable x) :
    format.Representable (-x) := by
  obtain ⟨significand, exponent, fits, least, value⟩ := representable
  refine ⟨-significand, exponent, ?_, least, ?_⟩
  · rwa [abs_neg]
  · rw [value]
    push_cast
    ring

variable [CharZero K]

/-- A significand may also reach the bound: it is a power of two then. -/
theorem of_le {significand exponent : ℤ}
    (fits : |significand| ≤ 2 ^ format.precision)
    (least : format.least ≤ exponent)
    (value : x = significand * 2 ^ exponent) : format.Representable x := by
  rcases lt_or_eq_of_le fits with less | equal
  · exact ⟨significand, exponent, less, least, value⟩
  · obtain ⟨bits, precision⟩ := Nat.exists_eq_add_of_lt format.precise
    rw [Nat.zero_add] at precision
    have power : (2 : ℤ) ^ format.precision = 2 ^ bits * 2 := by
      rw [precision, pow_succ]
    have positive : (0 : ℤ) < 2 ^ bits := by positivity
    rw [power] at equal
    have halved : ∃ half : ℤ, significand = half * 2 ∧ |half| = 2 ^ bits := by
      rcases abs_choice significand with same | opposite
      · exact ⟨2 ^ bits, by omega, abs_of_pos positive⟩
      · exact ⟨-2 ^ bits, by omega, by rw [abs_neg, abs_of_pos positive]⟩
    obtain ⟨half, split, size⟩ := halved
    refine ⟨half, exponent + 1, ?_, by omega, ?_⟩
    · rw [size, power]
      omega
    · rw [value, split, zpow_add₀ two_ne_zero, zpow_one]
      push_cast
      ring

theorem intCast {n : ℤ} (fits : |n| ≤ 2 ^ format.precision)
    (least : format.least ≤ 0) : format.Representable (n : K) :=
  of_le fits least (by simp)

end Representable

private theorem exists_mul_zpow [CharZero K] (significand : ℤ)
    {low high : ℤ} (le : low ≤ high) :
    ∃ n : ℤ, (significand : K) * 2 ^ high = n * 2 ^ low := by
  have exponents : high = ((high - low).toNat : ℤ) + low := by omega
  have powers : (2 : K) ^ high = 2 ^ (high - low).toNat * 2 ^ low := by
    conv_lhs => rw [exponents]
    rw [zpow_add₀ two_ne_zero, zpow_natCast]
  refine ⟨significand * 2 ^ (high - low).toNat, ?_⟩
  rw [powers]
  push_cast
  ring

end Representable

variable {K : Type*} [Field K] [LinearOrder K] [FloorRing K]

/-- The exponent of the grid on which a number is rounded. -/
def gridExponent (format : FloatFormat) (x : K) : ℤ :=
  max (Int.log 2 |x| + 1 - format.precision) format.least

def nearest (format : FloatFormat) (x : K) : K :=
  nearestEven (x / 2 ^ format.gridExponent x) * 2 ^ format.gridExponent x

variable {format : FloatFormat} {x y : K}

theorem least_le_gridExponent (format : FloatFormat) (x : K) :
    format.least ≤ format.gridExponent x := le_max_right _ _

theorem gridExponent_neg (x : K) :
    format.gridExponent (-x) = format.gridExponent x := by
  rw [gridExponent, gridExponent, abs_neg]

variable [IsStrictOrderedRing K]

/-! ## The grid of a number -/

private theorem two_zpow_pos (exponent : ℤ) : (0 : K) < 2 ^ exponent :=
  zpow_pos two_pos exponent

private theorem zpow_le_zpow {low high : ℤ} (le : low ≤ high) :
    (2 : K) ^ low ≤ 2 ^ high :=
  zpow_le_zpow_right₀ one_le_two le

theorem abs_lt_two_zpow_log (x : K) : |x| < 2 ^ (Int.log 2 |x| + 1) := by
  exact_mod_cast Int.lt_zpow_succ_log_self (b := 2) (by omega) |x|

theorem two_zpow_log_le_abs (nonzero : x ≠ 0) :
    (2 : K) ^ Int.log 2 |x| ≤ |x| := by
  exact_mod_cast
    Int.zpow_log_le_self (b := 2) (by omega) (abs_pos.mpr nonzero)

theorem log_lt_of_abs_lt {exponent : ℤ} (nonzero : x ≠ 0)
    (small : |x| < 2 ^ exponent) : Int.log 2 |x| < exponent := by
  apply (zpow_lt_zpow_iff_right₀ (one_lt_two (α := K))).mp
  exact lt_of_le_of_lt (two_zpow_log_le_abs nonzero) small

theorem gridExponent_mono (nonzero : x ≠ 0) (le : |x| ≤ |y|) :
    format.gridExponent x ≤ format.gridExponent y := by
  have logs := Int.log_mono_right (b := 2) (abs_pos.mpr nonzero) le
  apply max_le_max_right
  omega

theorem gridExponent_le {exponent : ℤ} (nonzero : x ≠ 0)
    (small : |x| < 2 ^ (format.precision + exponent))
    (least : format.least ≤ exponent) :
    format.gridExponent x ≤ exponent := by
  have log := log_lt_of_abs_lt nonzero small
  apply max_le _ least
  omega

theorem abs_lt_two_zpow_gridExponent (format : FloatFormat) (x : K) :
    |x| < 2 ^ (format.precision + format.gridExponent x) := by
  apply lt_of_lt_of_le (abs_lt_two_zpow_log x)
  apply zpow_le_zpow
  have bound : Int.log 2 |x| + 1 - format.precision ≤
      format.gridExponent x := le_max_left _ _
  omega

theorem abs_div_gridExponent_lt (format : FloatFormat) (x : K) :
    |x / 2 ^ format.gridExponent x| < 2 ^ format.precision := by
  rw [abs_div, abs_of_pos (two_zpow_pos (K := K) _),
    div_lt_iff₀ (two_zpow_pos _)]
  have bound := abs_lt_two_zpow_gridExponent format x
  rwa [zpow_add₀ two_ne_zero, zpow_natCast] at bound

theorem nearest_of_mul_zpow {significand exponent : ℤ}
    (grid : format.gridExponent x ≤ exponent)
    (value : x = significand * 2 ^ exponent) : format.nearest x = x := by
  have positive := two_zpow_pos (K := K) (format.gridExponent x)
  obtain ⟨n, onGrid⟩ := exists_mul_zpow (K := K) significand grid
  rw [← value, ← div_eq_iff (ne_of_gt positive)] at onGrid
  rw [nearest, onGrid, nearestEven_intCast, ← onGrid,
    div_mul_cancel₀ _ (ne_of_gt positive)]

/-! ## Rounding and representable numbers -/

theorem nearest_of_representable (representable : format.Representable x) :
    format.nearest x = x := by
  obtain ⟨significand, exponent, fits, least, value⟩ := representable
  by_cases zero : x = 0
  · rw [zero, nearest, zero_div, nearestEven_zero]
    simp
  · apply nearest_of_mul_zpow _ value
    apply gridExponent_le zero _ least
    rw [value, abs_mul, abs_of_pos (two_zpow_pos (K := K) _),
      zpow_add₀ two_ne_zero, zpow_natCast]
    apply mul_lt_mul_of_pos_right _ (two_zpow_pos _)
    exact_mod_cast fits

theorem nearest_representable (format : FloatFormat) (x : K) :
    format.Representable (format.nearest x) := by
  have bound := abs_lt.mp (abs_div_gridExponent_lt format x)
  obtain ⟨low, high⟩ := bound
  have fits : |nearestEven (x / 2 ^ format.gridExponent x)| ≤
      2 ^ format.precision := by
    apply abs_le.mpr
    constructor
    · apply le_nearestEven_of_le
      push_cast
      exact le_of_lt low
    · apply nearestEven_le_of_le
      push_cast
      exact le_of_lt high
  exact .of_le fits (least_le_gridExponent format x) rfl

/-- The representation on the number's own grid: it uses the full precision
unless the exponent is the least one. -/
theorem Representable.canonical (representable : format.Representable x)
    (positive : 0 < x) :
    ∃ significand : ℕ, significand < 2 ^ format.precision ∧
      (2 ^ (format.precision - 1) ≤ significand ∨
        format.gridExponent x = format.least) ∧
      x = significand * 2 ^ format.gridExponent x := by
  have unit := two_zpow_pos (K := K) (format.gridExponent x)
  have nonneg : ((0 : ℤ) : K) ≤ x / 2 ^ format.gridExponent x := by
    rw [Int.cast_zero]
    exact div_nonneg (le_of_lt positive) (le_of_lt unit)
  obtain ⟨significand, natural⟩ :=
    Int.eq_ofNat_of_zero_le (le_nearestEven_of_le nonneg)
  have value : x = significand * 2 ^ format.gridExponent x := by
    conv_lhs => rw [← nearest_of_representable representable, nearest, natural]
    rw [Int.cast_natCast]
  have scaled : x / 2 ^ format.gridExponent x = significand :=
    (div_eq_iff (ne_of_gt unit)).mpr value
  refine ⟨significand, ?_, ?_, value⟩
  · have bound := abs_div_gridExponent_lt format x
    rw [scaled, Nat.abs_cast] at bound
    exact_mod_cast bound
  · rcases max_choice (Int.log 2 |x| + 1 - format.precision) format.least
      with normal | subnormal
    · left
      have precise := format.precise
      have binade : Int.log 2 |x| =
          ((format.precision - 1 : ℕ) : ℤ) + format.gridExponent x := by
        rw [gridExponent, normal]
        omega
      have below := two_zpow_log_le_abs (ne_of_gt positive)
      rw [binade, zpow_add₀ two_ne_zero, zpow_natCast, abs_of_pos positive,
        ← le_div_iff₀ unit, scaled] at below
      exact_mod_cast below
    · exact .inr subnormal

/-! ## Order and symmetry -/

theorem nearest_neg (x : K) : format.nearest (-x) = -format.nearest x := by
  rw [nearest, nearest, gridExponent_neg, neg_div, nearestEven_neg]
  push_cast
  ring

@[simp] theorem nearest_zero : format.nearest (0 : K) = 0 :=
  nearest_of_representable .zero

theorem nearest_nonneg (nonneg : 0 ≤ x) : 0 ≤ format.nearest x := by
  apply mul_nonneg _ (le_of_lt (two_zpow_pos _))
  have scaled : ((0 : ℤ) : K) ≤ x / 2 ^ format.gridExponent x := by
    push_cast
    exact div_nonneg nonneg (le_of_lt (two_zpow_pos _))
  exact_mod_cast le_nearestEven_of_le scaled

private theorem nearest_le_of_grid {n : ℤ}
    (le : x ≤ n * 2 ^ format.gridExponent x) :
    format.nearest x ≤ n * 2 ^ format.gridExponent x := by
  apply mul_le_mul_of_nonneg_right _ (le_of_lt (two_zpow_pos _))
  rw [← div_le_iff₀ (two_zpow_pos _)] at le
  exact_mod_cast nearestEven_le_of_le le

private theorem le_nearest_of_grid {n : ℤ}
    (le : n * 2 ^ format.gridExponent x ≤ x) :
    n * 2 ^ format.gridExponent x ≤ format.nearest x := by
  apply mul_le_mul_of_nonneg_right _ (le_of_lt (two_zpow_pos _))
  rw [← le_div_iff₀ (two_zpow_pos _)] at le
  exact_mod_cast le_nearestEven_of_le le

/-- Numbers of different binades are separated by a power of two that is on
both grids. -/
private theorem nearest_le_of_pos (positive : 0 < x) (le : x ≤ y) :
    format.nearest x ≤ format.nearest y := by
  have positiveY : 0 < y := lt_of_lt_of_le positive le
  have absolute : |x| ≤ |y| := by
    rwa [abs_of_pos positive, abs_of_pos positiveY]
  have grids : format.gridExponent x ≤ format.gridExponent y :=
    gridExponent_mono (ne_of_gt positive) absolute
  rcases lt_or_eq_of_le grids with finer | same
  · have precise := format.precise
    have leastX := least_le_gridExponent format x
    have gridY : format.gridExponent y =
        Int.log 2 |y| + 1 - format.precision := by
      have choice := max_choice (Int.log 2 |y| + 1 - format.precision)
        format.least
      rw [← gridExponent] at choice
      omega
    have gridX : Int.log 2 |x| + 1 - format.precision ≤
        format.gridExponent x := le_max_left _ _
    have boundary : (2 : K) ^ Int.log 2 |y| ≤ y := by
      apply le_of_le_of_eq (two_zpow_log_le_abs (ne_of_gt positiveY))
      exact abs_of_pos positiveY
    have belowBoundary : x ≤ 2 ^ Int.log 2 |y| := by
      have above := abs_lt_two_zpow_log x
      rw [abs_of_pos positive] at above
      apply le_of_lt (lt_of_lt_of_le above _)
      apply zpow_le_zpow
      rw [abs_of_pos positive] at gridX
      omega
    obtain ⟨unitsX, onGridX⟩ := exists_mul_zpow (K := K) 1
      (show format.gridExponent x ≤ Int.log 2 |y| by omega)
    obtain ⟨unitsY, onGridY⟩ := exists_mul_zpow (K := K) 1
      (show format.gridExponent y ≤ Int.log 2 |y| by omega)
    rw [Int.cast_one, one_mul] at onGridX onGridY
    calc format.nearest x
        ≤ 2 ^ Int.log 2 |y| := by
          rw [onGridX] at belowBoundary ⊢
          exact nearest_le_of_grid belowBoundary
      _ ≤ format.nearest y := by
          rw [onGridY] at boundary ⊢
          exact le_nearest_of_grid boundary
  · rw [nearest, nearest, same]
    apply mul_le_mul_of_nonneg_right _ (le_of_lt (two_zpow_pos _))
    have scaled := nearestEven_mono
      (div_le_div_of_nonneg_right le
        (le_of_lt (two_zpow_pos (format.gridExponent y))))
    exact_mod_cast scaled

theorem nearest_mono (le : x ≤ y) : format.nearest x ≤ format.nearest y := by
  rcases lt_or_ge 0 x with positive | nonpositive
  · exact nearest_le_of_pos positive le
  · rcases lt_or_ge y 0 with negative | nonnegative
    · have mirrored : format.nearest (-y) ≤ format.nearest (-x) := by
        apply nearest_le_of_pos <;> linarith
      rw [nearest_neg, nearest_neg] at mirrored
      linarith
    · have low : 0 ≤ format.nearest (-x) := nearest_nonneg (by linarith)
      have high : 0 ≤ format.nearest y := nearest_nonneg nonnegative
      rw [nearest_neg] at low
      linarith

/-- Rounding does not cross a representable number. -/
theorem nearest_le (representable : format.Representable y) (le : x ≤ y) :
    format.nearest x ≤ y := by
  rw [← nearest_of_representable representable]
  exact nearest_mono le

theorem le_nearest (representable : format.Representable x) (le : x ≤ y) :
    x ≤ format.nearest y := by
  rw [← nearest_of_representable representable]
  exact nearest_mono le

/-! ## Distance -/

theorem abs_sub_nearest_le_grid (format : FloatFormat) (x : K) :
    |x - format.nearest x| ≤ 2 ^ format.gridExponent x / 2 := by
  have positive := two_zpow_pos (K := K) (format.gridExponent x)
  have scaled := abs_sub_nearestEven_le (x / 2 ^ format.gridExponent x)
  have difference : x - format.nearest x =
      (x / 2 ^ format.gridExponent x -
        nearestEven (x / 2 ^ format.gridExponent x)) *
          2 ^ format.gridExponent x := by
    rw [sub_mul, div_mul_cancel₀ _ (ne_of_gt positive), nearest]
  rw [difference, abs_mul, abs_of_pos positive]
  linarith [mul_le_mul_of_nonneg_right scaled (le_of_lt positive)]

theorem abs_sub_nearest_le (format : FloatFormat) (x : K) :
    |x - format.nearest x| ≤
      |x| / 2 ^ format.precision + 2 ^ format.least / 2 := by
  have onGrid := abs_sub_nearest_le_grid format x
  have relative : 0 ≤ |x| / 2 ^ format.precision := by positivity
  have absolute : (0 : K) < 2 ^ format.least := two_zpow_pos _
  by_cases zero : x = 0
  · rw [zero, nearest_zero, sub_zero, abs_zero, zero_div]
    linarith
  · rcases max_choice (Int.log 2 |x| + 1 - format.precision) format.least
      with normal | subnormal
    · have grid : (2 : K) ^ format.gridExponent x / 2 =
          2 ^ Int.log 2 |x| / 2 ^ format.precision := by
        rw [gridExponent, normal, zpow_sub₀ two_ne_zero,
          zpow_add₀ two_ne_zero, zpow_one, zpow_natCast]
        field_simp
      have below := div_le_div_of_nonneg_right (two_zpow_log_le_abs zero)
        (show (0 : K) ≤ 2 ^ format.precision by positivity)
      linarith
    · rw [gridExponent, subnormal] at onGrid
      linarith

/-! ## Halves, integral and fractional parts -/

omit [IsStrictOrderedRing K] in
theorem Representable.double (representable : format.Representable x) :
    format.Representable (x * 2) := by
  obtain ⟨significand, exponent, fits, least, value⟩ := representable
  refine ⟨significand, exponent + 1, fits, by omega, ?_⟩
  rw [value, zpow_add_one₀ two_ne_zero, mul_assoc]

/-- Above the subnormal numbers there is an exponent left for halving. -/
theorem Representable.half (representable : format.Representable x)
    (normal : 2 ^ (format.precision + format.least) ≤ |x|) :
    format.Representable (x / 2) := by
  obtain ⟨significand, exponent, fits, least, value⟩ := representable
  have notLeast : exponent ≠ format.least := by
    intro equality
    subst equality
    have size : |(significand : K)| < 2 ^ format.precision := by
      exact_mod_cast fits
    rw [value, abs_mul, abs_of_pos (two_zpow_pos (K := K) _),
      zpow_add₀ two_ne_zero, zpow_natCast] at normal
    have unit := two_zpow_pos (K := K) format.least
    exact (not_lt_of_ge (le_of_mul_le_mul_right normal unit)) size
  refine ⟨significand, exponent - 1, fits, by omega, ?_⟩
  rw [value, zpow_sub_one₀ two_ne_zero, mul_div_assoc, div_eq_mul_inv]

theorem Representable.fract (representable : format.Representable x)
    (nonneg : 0 ≤ x) : format.Representable (Int.fract x) := by
  obtain ⟨significand, exponent, fits, least, value⟩ := representable
  by_cases integral : 0 ≤ exponent
  · obtain ⟨n, whole⟩ := exists_mul_zpow (K := K) significand integral
    rw [← value, zpow_zero, mul_one] at whole
    rw [whole, Int.fract_intCast]
    exact .zero
  · have opposite : (2 : K) ^ (-exponent).toNat * 2 ^ exponent = 1 := by
      rw [← zpow_natCast, ← zpow_add₀ two_ne_zero]
      have cancel : (((-exponent).toNat : ℕ) : ℤ) + exponent = 0 := by omega
      rw [cancel, zpow_zero]
    have part : Int.fract x =
        ((significand - ⌊x⌋ * 2 ^ (-exponent).toNat : ℤ) : K) *
          2 ^ exponent := by
      push_cast
      rw [sub_mul, mul_assoc, opposite, mul_one, ← value]
      rfl
    refine ⟨_, exponent, ?_, least, part⟩
    have positive := two_zpow_pos (K := K) exponent
    have floorNonneg : 0 ≤ ⌊x⌋ := Int.floor_nonneg.mpr nonneg
    have partNonneg := Int.fract_nonneg x
    rw [part] at partNonneg
    have lower : 0 ≤ significand - ⌊x⌋ * 2 ^ (-exponent).toNat := by
      exact_mod_cast nonneg_of_mul_nonneg_left partNonneg positive
    have removed : 0 ≤ ⌊x⌋ * 2 ^ (-exponent).toNat := by positivity
    rw [abs_of_nonneg lower]
    have upper := le_abs_self significand
    linarith

theorem Representable.floor (representable : format.Representable x)
    (least : format.least ≤ 0) : format.Representable (⌊x⌋ : K) := by
  obtain ⟨significand, exponent, fits, bound, value⟩ := representable
  by_cases integral : 0 ≤ exponent
  · obtain ⟨n, whole⟩ := exists_mul_zpow (K := K) significand integral
    rw [← value, zpow_zero, mul_one] at whole
    have same : (⌊x⌋ : K) = x := by
      rw [whole, Int.floor_intCast]
    rw [same]
    exact ⟨significand, exponent, fits, bound, value⟩
  · apply Representable.intCast _ least
    have small : (2 : K) ^ exponent ≤ 1 := by
      have step : (2 : K) ^ exponent ≤ 2 ^ (0 : ℤ) :=
        zpow_le_zpow (by omega)
      rwa [zpow_zero] at step
    have size : |x| ≤ 2 ^ format.precision := by
      rw [value, abs_mul, abs_of_pos (two_zpow_pos (K := K) _)]
      have fits : |(significand : K)| ≤ 2 ^ format.precision := by
        exact_mod_cast le_of_lt fits
      calc |(significand : K)| * 2 ^ exponent
          ≤ |(significand : K)| * 1 :=
            mul_le_mul_of_nonneg_left small (abs_nonneg _)
        _ ≤ 2 ^ format.precision := by rwa [mul_one]
    obtain ⟨low, high⟩ := abs_le.mp size
    apply abs_le.mpr
    constructor
    · apply Int.le_floor.mpr
      push_cast
      exact low
    · have below := le_trans (Int.floor_le x) high
      exact_mod_cast below

end FloatFormat

end Library
