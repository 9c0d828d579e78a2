import Douban.Dart.Json
import Douban.Library.FloatGrid
import Mathlib.Data.Rat.Floor

/-!
# Arithmetic of doubles

The operators of `double` that the widgets apply.  IEEE 754 defines each of
them on finite operands as the exact result rounded once, and fixes the results
on infinities, zeros and numbers that are not one.  An integer operand is
converted first.
-/

namespace Douban.Dart

/-- What building a widget can raise: an error of the data, or one of the core
library and the framework that no other modelled code raises. -/
inductive BuildError where
  | dart (error : DartError)
  | unsupportedError
  | assertionError
  deriving DecidableEq, Repr

namespace Double

open Library (FloatFormat)

def binary64 : FloatFormat :=
  { precision := 53, least := -1074, precise := by decide }

def isNaN (number : Double) : Bool :=
  number.exponent == 2047 && number.fraction != 0

/-- The sign bit in front of exponent and fraction. -/
def ofCode (negative : Bool) (code : Nat) : Double :=
  ⟨BitVec.ofNat 64 (if negative then 2 ^ 63 + code else code)⟩

def zero (negative : Bool) : Double := ofCode negative 0

def infinity (negative : Bool) : Double := ofCode negative (2047 * 2 ^ 52)

def nan : Double := ofCode false (2047 * 2 ^ 52 + 2 ^ 51)

/-- A magnitude on the grid.  The implicit leading bit of the significand adds
one to the exponent. -/
def encode (negative : Bool) (magnitude : Rat) : Double :=
  if magnitude = 0 then zero negative
  else
    let exponent := binary64.gridExponent magnitude
    let significand := ⌊magnitude / 2 ^ exponent⌋.toNat
    ofCode negative ((exponent + 1074).toNat * 2 ^ 52 + significand)

/-- Rounded results of this magnitude overflow. -/
def limit : Rat := 2 ^ (1024 : Int)

/-- An exact result, rounded to the nearest double. -/
def round (negative : Bool) (exact : Rat) : Double :=
  let rounded := binary64.nearest |exact|
  if limit ≤ rounded then infinity negative else encode negative rounded

/-- `value.toDouble()` of an integer. -/
def ofInt (value : Int) : Double := round (value < 0) value

/-- `left - right`.  A difference of zero is negative only if it subtracts a
positive zero from a negative one. -/
def sub (left right : Double) : Double :=
  match left.toRat?, right.toRat? with
  | some a, some b =>
      if a = b then
        zero (left.negative && !right.negative && a == 0)
      else round (a < b) (a - b)
  | some _, none => if right.isNaN then nan else infinity !right.negative
  | none, some _ => if left.isNaN then nan else infinity left.negative
  | none, none =>
      if left.isNaN || right.isNaN || left.negative == right.negative then nan
      else infinity left.negative

/-- `left * right`. -/
def mul (left right : Double) : Double :=
  let negative := left.negative ^^ right.negative
  match left.toRat?, right.toRat? with
  | some a, some b => round negative (a * b)
  | some a, none => if right.isNaN || a == 0 then nan else infinity negative
  | none, some b => if left.isNaN || b == 0 then nan else infinity negative
  | none, none => if left.isNaN || right.isNaN then nan else infinity negative

/-- `left / right`. -/
def div (left right : Double) : Double :=
  let negative := left.negative ^^ right.negative
  match left.toRat?, right.toRat? with
  | some a, some b =>
      if b = 0 then (if a = 0 then nan else infinity negative)
      else round negative (a / b)
  | some _, none => if right.isNaN then nan else zero negative
  | none, some _ => if left.isNaN then nan else infinity negative
  | none, none => nan

/-- `number.floor()`: the result stays within the 64-bit range, and there is
none for an infinity or a number that is not one. -/
def floor (number : Double) : Except BuildError Int :=
  match number.toRat? with
  | some value => .ok (max (-2 ^ 63) (min ⌊value⌋ (2 ^ 63 - 1)))
  | none => .error .unsupportedError

/-! ## The fields of a code -/

theorem exponent_ofCode (negative : Bool) {code : Nat} (fits : code < 2 ^ 63) :
    (ofCode negative code).exponent = code / 2 ^ 52 := by
  unfold exponent ofCode
  rw [BitVec.extractLsb'_toNat, BitVec.toNat_ofNat,
    Nat.shiftRight_eq_div_pow]
  cases negative <;> simp <;> omega

theorem fraction_ofCode (negative : Bool) (code : Nat) :
    (ofCode negative code).fraction = code % 2 ^ 52 := by
  unfold fraction ofCode
  rw [BitVec.extractLsb'_toNat, BitVec.toNat_ofNat,
    Nat.shiftRight_eq_div_pow]
  cases negative with
  | false => simp
  | true =>
      simp only [↓reduceIte]
      omega

theorem negative_ofCode (negative : Bool) {code : Nat}
    (fits : code < 2 ^ 63) : (ofCode negative code).negative = negative := by
  unfold Double.negative ofCode
  rw [BitVec.msb_eq_decide, BitVec.toNat_ofNat]
  cases negative <;> simp <;> omega

/-! ## The numbers represented -/

def signed (negative : Bool) (magnitude : Rat) : Rat :=
  if negative then -magnitude else magnitude

theorem abs_signed (negative : Bool) (magnitude : Rat) :
    |signed negative magnitude| = |magnitude| := by
  cases negative with
  | false => rfl
  | true => exact abs_neg magnitude

/-- The exponent of the last bit of a double. -/
def gridExponent (number : Double) : Int :=
  (number.exponent - 1 : Nat) - 1074

def magnitude (number : Double) : Rat :=
  number.significand * 2 ^ number.gridExponent

private theorem mkRat_power (significand exponent : Nat) :
    mkRat (significand * 2 ^ exponent) (2 ^ 1074) =
      significand * 2 ^ ((exponent : Int) - 1074) := by
  have denominator : ((2 ^ 1074 : Nat) : Rat) = 2 ^ (1074 : Int) := by
    rw [Nat.cast_pow, Nat.cast_ofNat]
    exact (zpow_natCast 2 1074).symm
  have numerator : ((significand * 2 ^ exponent : Int) : Rat) =
      significand * 2 ^ exponent := by
    push_cast
    rfl
  rw [Rat.mkRat_eq_div, denominator, numerator, zpow_sub₀ two_ne_zero,
    zpow_natCast, ← mul_div_assoc]

theorem toRat?_of_exponent {number : Double}
    (finite : number.exponent ≠ 2047) :
    number.toRat? = some (signed number.negative number.magnitude) := by
  have unsigned := mkRat_power number.significand (number.exponent - 1)
  rw [toRat?, if_neg finite, signed, magnitude, gridExponent, ← unsigned,
    Rat.neg_mkRat]
  generalize (2 ^ 1074 : Nat) = denominator
  cases number.negative <;> rfl

theorem exponent_of_toRat? {number : Double} {value : Rat}
    (finite : number.toRat? = some value) : number.exponent < 2047 := by
  have bound : number.exponent < 2 ^ 11 := BitVec.isLt _
  have notSpecial : number.exponent ≠ 2047 := by
    intro special
    rw [toRat?, if_pos special] at finite
    cases finite
  omega

theorem significand_lt (number : Double) : number.significand < 2 ^ 53 := by
  have bound : number.fraction < 2 ^ 52 := BitVec.isLt _
  unfold significand
  split <;> omega

theorem magnitude_nonneg (number : Double) : 0 ≤ number.magnitude := by
  have unit : (0 : Rat) < 2 ^ number.gridExponent := zpow_pos two_pos _
  unfold magnitude
  positivity

section Finite

variable {number : Double} {value : Rat}
  (finite : number.toRat? = some value)

include finite

theorem eq_signed_of_toRat? :
    value = signed number.negative number.magnitude := by
  have exponent := exponent_of_toRat? finite
  rw [toRat?_of_exponent (by omega)] at finite
  exact (Option.some.inj finite).symm

theorem signed_abs_of_toRat? : signed number.negative |value| = value := by
  rw [eq_signed_of_toRat? finite, abs_signed,
    abs_of_nonneg number.magnitude_nonneg]

theorem representable_of_toRat? : binary64.Representable value := by
  have magnitude : binary64.Representable number.magnitude := by
    refine ⟨number.significand, number.gridExponent, ?_, ?_, ?_⟩
    · rw [Nat.abs_cast]
      exact_mod_cast significand_lt number
    · have least : binary64.least = -1074 := rfl
      unfold gridExponent
      omega
    · rw [Double.magnitude, Int.cast_natCast]
  rw [eq_signed_of_toRat? finite, signed]
  split
  · exact magnitude.neg
  · exact magnitude

theorem abs_lt_of_toRat? : |value| < limit := by
  have exponent := exponent_of_toRat? finite
  have significand : (number.significand : Rat) < 2 ^ 53 := by
    exact_mod_cast significand_lt number
  have largest : number.gridExponent ≤ 971 := by
    unfold gridExponent
    omega
  have unit : (0 : Rat) < 2 ^ number.gridExponent := zpow_pos two_pos _
  have scale : (2 : Rat) ^ number.gridExponent ≤ 2 ^ (971 : Int) :=
    zpow_le_zpow_right₀ one_le_two largest
  rw [eq_signed_of_toRat? finite, abs_signed,
    abs_of_nonneg number.magnitude_nonneg, magnitude]
  calc (number.significand : Rat) * 2 ^ number.gridExponent
      < 2 ^ 53 * 2 ^ number.gridExponent :=
        mul_lt_mul_of_pos_right significand unit
    _ ≤ 2 ^ 53 * 2 ^ (971 : Int) :=
        mul_le_mul_of_nonneg_left scale (by positivity)
    _ = limit := by
        rw [limit, ← zpow_natCast, ← zpow_add₀ two_ne_zero]
        rfl

end Finite

/-! ## Rounding an exact result -/

/-- A code gives its significand and exponent back: the carry out of the
fraction is the implicit leading bit. -/
theorem toRat?_ofCode (negative : Bool) (shift significand : Nat)
    (fits : significand < 2 ^ 53) (largest : shift ≤ 2045)
    (normal : 2 ^ 52 ≤ significand ∨ shift = 0) :
    (ofCode negative (shift * 2 ^ 52 + significand)).toRat? =
      some (signed negative (significand * 2 ^ ((shift : Int) - 1074))) := by
  have inRange : shift * 2 ^ 52 + significand < 2 ^ 63 := by omega
  have exponent := exponent_ofCode negative inRange
  have fraction := fraction_ofCode negative (shift * 2 ^ 52 + significand)
  have sameSignificand :
      (ofCode negative (shift * 2 ^ 52 + significand)).significand =
        significand := by
    rw [Double.significand, exponent, fraction]
    split <;> omega
  have sameExponent :
      (ofCode negative (shift * 2 ^ 52 + significand)).gridExponent =
        shift - 1074 := by
    rw [gridExponent, exponent]
    omega
  rw [toRat?_of_exponent (by omega), magnitude, sameSignificand,
    sameExponent, negative_ofCode negative inRange]

theorem toRat?_encode (negative : Bool) {magnitude : Rat}
    (representable : binary64.Representable magnitude)
    (nonneg : 0 ≤ magnitude) (finite : magnitude < limit) :
    (encode negative magnitude).toRat? = some (signed negative magnitude) := by
  rcases eq_or_lt_of_le nonneg with isZero | positive
  · subst isZero
    have coded := toRat?_ofCode negative 0 0 (by omega) (by omega)
      (.inr rfl)
    rw [encode, if_pos rfl, zero]
    simpa using coded
  · obtain ⟨significand, fits, normal, value⟩ :=
      representable.canonical positive
    have least : -1074 ≤ binary64.gridExponent magnitude :=
      FloatFormat.least_le_gridExponent binary64 magnitude
    have largest : binary64.gridExponent magnitude ≤ 971 := by
      apply FloatFormat.gridExponent_le (ne_of_gt positive)
      · rw [abs_of_pos positive]
        exact finite
      · exact (by decide : (-1074 : Int) ≤ 971)
    obtain ⟨shift, shifted⟩ := Int.eq_ofNat_of_zero_le
      (show 0 ≤ binary64.gridExponent magnitude + 1074 by omega)
    have exponent : binary64.gridExponent magnitude = shift - 1074 := by omega
    have unit : (0 : Rat) < 2 ^ binary64.gridExponent magnitude :=
      zpow_pos two_pos _
    have scaled : magnitude / 2 ^ binary64.gridExponent magnitude =
        significand := (div_eq_iff (ne_of_gt unit)).mpr value
    have normal : 2 ^ 52 ≤ significand ∨ shift = 0 := by
      rcases normal with precise | subnormal
      · exact .inl precise
      · right
        have least : binary64.least = -1074 := rfl
        omega
    rw [encode, if_neg (ne_of_gt positive)]
    simp only [scaled, Int.floor_natCast, Int.toNat_natCast, shifted]
    rw [toRat?_ofCode negative shift significand fits (by omega) normal,
      ← exponent, ← value]

theorem nearest_abs (exact : Rat) :
    binary64.nearest |exact| = |binary64.nearest exact| := by
  rcases le_total 0 exact with nonneg | nonpos
  · rw [abs_of_nonneg nonneg,
      abs_of_nonneg (FloatFormat.nearest_nonneg nonneg)]
  · have mirrored : 0 ≤ binary64.nearest (-exact) :=
      FloatFormat.nearest_nonneg (by linarith)
    rw [abs_of_nonpos nonpos, ← abs_neg, ← FloatFormat.nearest_neg,
      abs_of_nonneg mirrored]

/-- The rounded result, if it does not overflow. -/
theorem toRat?_round {negative : Bool} {exact : Rat}
    (sign : signed negative |exact| = exact)
    (finite : |binary64.nearest exact| < limit) :
    (round negative exact).toRat? = some (binary64.nearest exact) := by
  have representable : binary64.Representable |binary64.nearest exact| := by
    rw [← nearest_abs]
    exact FloatFormat.nearest_representable binary64 |exact|
  have restored : signed negative |binary64.nearest exact| =
      binary64.nearest exact := by
    rw [← nearest_abs]
    conv_rhs => rw [← sign]
    unfold signed
    split
    · rw [FloatFormat.nearest_neg]
    · rfl
  rw [round, nearest_abs, if_neg (not_le_of_gt finite),
    toRat?_encode negative representable (abs_nonneg _) finite, restored]

theorem representable_two_pow (exponent : Nat) :
    binary64.Representable ((2 : Rat) ^ exponent) := by
  refine ⟨1, exponent, by decide, ?_, ?_⟩
  · have least : binary64.least = -1074 := rfl
    omega
  · rw [Int.cast_one, one_mul, zpow_natCast]

theorem representable_one : binary64.Representable (1 : Rat) := by
  simpa using representable_two_pow 0

theorem two_pow_lt_limit (exponent : Nat) (small : exponent < 1024) :
    (2 : Rat) ^ exponent < limit := by
  rw [limit, ← zpow_natCast]
  exact zpow_lt_zpow_right₀ one_lt_two (by exact_mod_cast small)

theorem one_lt_limit : (1 : Rat) < limit := by
  simpa using two_pow_lt_limit 0 (by omega)

theorem abs_nearest_lt {exact bound : Rat}
    (representable : binary64.Representable bound) (inside : bound < limit)
    (le : |exact| ≤ bound) : |binary64.nearest exact| < limit := by
  rw [← nearest_abs]
  exact lt_of_le_of_lt (FloatFormat.nearest_le representable le) inside

/-! ## The operators on finite operands -/

@[simp] theorem toRat?_zero (negative : Bool) :
    (zero negative).toRat? = some 0 := by
  have coded := toRat?_encode negative .zero (le_refl 0)
    (zpow_pos two_pos _)
  rw [encode, if_pos rfl] at coded
  rw [coded, signed]
  cases negative <;> rfl

theorem toRat?_of_special {negative : Bool} {code : Nat}
    (special : 2047 * 2 ^ 52 ≤ code) (fits : code < 2048 * 2 ^ 52) :
    (ofCode negative code).toRat? = none := by
  have exponent := exponent_ofCode negative (show code < 2 ^ 63 by omega)
  rw [toRat?, if_pos (by omega)]

@[simp] theorem toRat?_infinity (negative : Bool) :
    (infinity negative).toRat? = none :=
  toRat?_of_special (by omega) (by omega)

@[simp] theorem toRat?_nan : nan.toRat? = none :=
  toRat?_of_special (by omega) (by omega)

theorem toRat?_ofInt {value : Int}
    (finite : |binary64.nearest (value : Rat)| < limit) :
    (ofInt value).toRat? = some (binary64.nearest (value : Rat)) := by
  apply toRat?_round _ finite
  unfold signed
  by_cases negative : value < 0
  · have nonpos : (value : Rat) ≤ 0 := by exact_mod_cast le_of_lt negative
    rw [if_pos (decide_eq_true negative), abs_of_nonpos nonpos, neg_neg]
  · have nonneg : (0 : Rat) ≤ value := by exact_mod_cast not_lt.mp negative
    rw [if_neg (by simpa using negative), abs_of_nonneg nonneg]

theorem toRat?_ofInt_of_le {value : Int} (fits : |value| ≤ 2 ^ 53) :
    (ofInt value).toRat? = some (value : Rat) := by
  have representable : binary64.Representable (value : Rat) :=
    .intCast fits (by decide)
  have fixed := FloatFormat.nearest_of_representable representable
  have small : |(value : Rat)| < limit := by
    have bound : |(value : Rat)| ≤ 2 ^ 53 := by exact_mod_cast fits
    exact lt_of_le_of_lt bound (two_pow_lt_limit 53 (by omega))
  rw [toRat?_ofInt (by rwa [fixed]), fixed]

section Operators

variable {left right : Double} {a b : Rat} (isLeft : left.toRat? = some a)

include isLeft

variable (isRight : right.toRat? = some b)

include isRight

theorem toRat?_sub (finite : |binary64.nearest (a - b)| < limit) :
    (left.sub right).toRat? = some (binary64.nearest (a - b)) := by
  unfold sub
  rw [isLeft, isRight]
  dsimp only
  split
  · rename_i equality
    subst equality
    rw [toRat?_zero, sub_self, FloatFormat.nearest_zero]
  · apply toRat?_round _ finite
    unfold signed
    by_cases less : a < b
    · rw [if_pos (decide_eq_true less), abs_of_neg (by linarith), neg_neg]
    · rw [if_neg (by simpa using less), abs_of_nonneg (by linarith)]

theorem toRat?_mul (finite : |binary64.nearest (a * b)| < limit) :
    (left.mul right).toRat? = some (binary64.nearest (a * b)) := by
  have leftSign := signed_abs_of_toRat? isLeft
  have rightSign := signed_abs_of_toRat? isRight
  unfold mul
  rw [isLeft, isRight]
  apply toRat?_round _ finite
  rw [abs_mul]
  conv_rhs => rw [← leftSign, ← rightSign]
  cases left.negative <;> cases right.negative <;> simp [signed]

theorem toRat?_div (nonzero : b ≠ 0)
    (finite : |binary64.nearest (a / b)| < limit) :
    (left.div right).toRat? = some (binary64.nearest (a / b)) := by
  have leftSign := signed_abs_of_toRat? isLeft
  have rightSign := signed_abs_of_toRat? isRight
  unfold div
  rw [isLeft, isRight]
  simp only [if_neg nonzero]
  apply toRat?_round _ finite
  rw [abs_div]
  conv_rhs => rw [← leftSign, ← rightSign]
  cases left.negative <;> cases right.negative <;>
    simp [signed, neg_div, div_neg]

theorem eq_nearest_of_toRat?_div (nonzero : b ≠ 0) {quotient : Rat}
    (finite : (left.div right).toRat? = some quotient) :
    quotient = binary64.nearest (a / b) := by
  by_cases inside : |binary64.nearest (a / b)| < limit
  · rw [toRat?_div isLeft isRight nonzero inside] at finite
    exact (Option.some.inj finite).symm
  · rw [← nearest_abs, not_lt] at inside
    have overflow : left.div right =
        infinity (left.negative ^^ right.negative) := by
      unfold div
      rw [isLeft, isRight]
      simp only [if_neg nonzero, round, if_pos inside]
    rw [overflow, toRat?_infinity] at finite
    cases finite

end Operators

theorem toRat?_div_of_not_finite {left : Double} (right : Double)
    (special : left.toRat? = none) : (left.div right).toRat? = none := by
  unfold div
  rw [special]
  cases right.toRat? with
  | none => exact toRat?_nan
  | some b =>
      dsimp only
      split
      · exact toRat?_nan
      · exact toRat?_infinity _

theorem toRat?_mul_of_not_finite {left : Double} (right : Double)
    (special : left.toRat? = none) : (left.mul right).toRat? = none := by
  unfold mul
  rw [special]
  cases right.toRat? with
  | none =>
      dsimp only
      split
      · exact toRat?_nan
      · exact toRat?_infinity _
  | some b =>
      dsimp only
      split
      · exact toRat?_nan
      · exact toRat?_infinity _

theorem floor_of_toRat? {number : Double} {value : Rat}
    (finite : number.toRat? = some value) :
    number.floor = .ok (max (-2 ^ 63) (min ⌊value⌋ (2 ^ 63 - 1))) := by
  rw [floor, finite]

theorem floor_of_not_finite {number : Double}
    (special : number.toRat? = none) :
    number.floor = .error .unsupportedError := by
  rw [floor, special]

end Double

end Douban.Dart
