import Douban.Dart.DoubleArithmetic

/-!
# Screen sizes

The initializer turns the metrics of the window into the two units of the
design, `rpx` and `px`.  A screen is 750 `rpx` wide, so the first unit is
rounded; the second one is twice the first and is not.
-/

namespace Douban

open Dart Library

/-- The members of `window` that are read. -/
structure Window where
  physicalWidth : Double
  physicalHeight : Double
  devicePixelRatio : Double
  paddingTop : Double

structure ScreenSizeFit where
  screenWidth : Double
  screenHeight : Double
  dpr : Double
  statusHeight : Double
  rpx : Double
  px : Double

namespace ScreenSizeFit

def initialized (window : Window) : ScreenSizeFit :=
  let physicalWidth := window.physicalWidth
  let physicalHeight := window.physicalHeight
  let dpr := window.devicePixelRatio
  let screenWidth := physicalWidth.div dpr
  let screenHeight := physicalHeight.div dpr
  let statusHeight := window.paddingTop.div dpr
  let rpx := screenWidth.div (.ofInt 750)
  let px := rpx.mul (.ofInt 2)
  { screenWidth, screenHeight, dpr, statusHeight, rpx, px }

/-- Dividing by 750 leaves more than enough room for doubling. -/
theorem abs_nearest_unit_le {width : Rat} (finite : |width| < Double.limit) :
    |Double.binary64.nearest (width / 750)| ≤ 2 ^ 1015 := by
  rw [← Double.nearest_abs]
  apply FloatFormat.nearest_le (Double.representable_two_pow 1015)
  have powers : Double.limit = 2 ^ 1015 * 512 := by
    rw [Double.limit, ← zpow_natCast]
    exact zpow_add₀ two_ne_zero (1015 : Int) 9
  rw [powers] at finite
  rw [abs_div, div_le_iff₀ (by norm_num)]
  have positive : (0 : Rat) < 2 ^ 1015 := pow_pos two_pos _
  generalize (2 : Rat) ^ 1015 = power at finite positive ⊢
  norm_num
  linarith

variable {window : Window} {width : Rat}

theorem toRat?_rpx
    (finite : (initialized window).screenWidth.toRat? = some width) :
    (initialized window).rpx.toRat? =
      some (Double.binary64.nearest (width / 750)) := by
  have divisor : (Double.ofInt 750).toRat? = some 750 :=
    Double.toRat?_ofInt_of_le (by decide)
  have unit := abs_nearest_unit_le (Double.abs_lt_of_toRat? finite)
  apply Double.toRat?_div finite divisor (by norm_num)
  exact lt_of_le_of_lt unit (Double.two_pow_lt_limit 1015 (by omega))

theorem toRat?_px
    (finite : (initialized window).screenWidth.toRat? = some width) :
    (initialized window).px.toRat? =
      some (Double.binary64.nearest (width / 750) * 2) := by
  have factor : (Double.ofInt 2).toRat? = some 2 :=
    Double.toRat?_ofInt_of_le (by decide)
  have rpx := toRat?_rpx finite
  have exact : Double.binary64.nearest
      (Double.binary64.nearest (width / 750) * 2) =
        Double.binary64.nearest (width / 750) * 2 :=
    FloatFormat.nearest_of_representable
      (FloatFormat.nearest_representable _ _).double
  have unit := abs_nearest_unit_le (Double.abs_lt_of_toRat? finite)
  have inside : |Double.binary64.nearest (width / 750) * 2| <
      Double.limit := by
    have room := Double.two_pow_lt_limit 1016 (by omega)
    rw [pow_succ] at room
    rw [abs_mul, abs_two]
    generalize (2 : Rat) ^ 1015 = power at room unit
    linarith
  rw [← exact] at inside
  have product := Double.toRat?_mul rpx factor inside
  rw [exact] at product
  exact product

theorem abs_sub_units_le (width : Rat) :
    |width - 750 * Double.binary64.nearest (width / 750)| ≤
      |width| / 2 ^ 53 + 375 * 2 ^ (-1074 : Int) := by
  have error : |width / 750 - Double.binary64.nearest (width / 750)| ≤
      |width / 750| / 2 ^ 53 + 2 ^ (-1074 : Int) / 2 :=
    FloatFormat.abs_sub_nearest_le Double.binary64 (width / 750)
  have scaled : width - 750 * Double.binary64.nearest (width / 750) =
      750 * (width / 750 - Double.binary64.nearest (width / 750)) := by
    ring
  have share : |width / 750| = |width| / 750 := by
    rw [abs_div]
    norm_num
  rw [scaled, abs_mul, abs_of_pos (by norm_num : (0 : Rat) < 750)]
  rw [share] at error
  generalize (2 : Rat) ^ (-1074 : Int) = least at error ⊢
  linarith

/-- `px` is exactly twice `rpx`, and 750 `rpx` are the width of the screen up
to the one rounding; without a finite width there is no finite unit. -/
theorem initialized_units (window : Window) :
    ((initialized window).screenWidth.toRat? = none ∧
        (initialized window).rpx.toRat? = none ∧
        (initialized window).px.toRat? = none) ∨
      ∃ width rpx, (initialized window).screenWidth.toRat? = some width ∧
        (initialized window).rpx.toRat? = some rpx ∧
        (initialized window).px.toRat? = some (rpx * 2) ∧
        |width - 750 * rpx| ≤ |width| / 2 ^ 53 + 375 * 2 ^ (-1074 : Int) := by
  cases finite : (initialized window).screenWidth.toRat? with
  | none =>
      have rpx : (initialized window).rpx.toRat? = none :=
        Double.toRat?_div_of_not_finite _ finite
      exact .inl ⟨rfl, rpx, Double.toRat?_mul_of_not_finite _ rpx⟩
  | some width =>
      right
      exact ⟨width, _, rfl, toRat?_rpx finite, toRat?_px finite,
        abs_sub_units_le width⟩

theorem px_eq {ratio physical px : Rat}
    (isRatio : window.devicePixelRatio.toRat? = some ratio)
    (positive : 0 < ratio)
    (isPhysical : window.physicalWidth.toRat? = some physical)
    (unit : (initialized window).px.toRat? = some px) :
    px = Double.binary64.nearest
      (Double.binary64.nearest (physical / ratio) / 750) * 2 := by
  cases finite : (initialized window).screenWidth.toRat? with
  | none =>
      have special : (initialized window).px.toRat? = none :=
        Double.toRat?_mul_of_not_finite _
          (Double.toRat?_div_of_not_finite _ finite)
      rw [special] at unit
      cases unit
  | some width =>
      have rounded : width = Double.binary64.nearest (physical / ratio) :=
        Double.eq_nearest_of_toRat?_div isPhysical isRatio
          (ne_of_gt positive) finite
      rw [toRat?_px finite] at unit
      rw [← rounded]
      exact (Option.some.inj unit).symm

/-- Among windows of one pixel ratio with finite units a wider one never has a
smaller unit, through all roundings. -/
theorem px_mono {window window' : Window}
    {ratio physical physical' px px' : Rat}
    (isRatio : window.devicePixelRatio.toRat? = some ratio)
    (isRatio' : window'.devicePixelRatio.toRat? = some ratio)
    (positive : 0 < ratio)
    (isPhysical : window.physicalWidth.toRat? = some physical)
    (isPhysical' : window'.physicalWidth.toRat? = some physical')
    (le : physical ≤ physical')
    (unit : (initialized window).px.toRat? = some px)
    (unit' : (initialized window').px.toRat? = some px') : px ≤ px' := by
  rw [px_eq isRatio positive isPhysical unit,
    px_eq isRatio' positive isPhysical' unit']
  have widths : Double.binary64.nearest (physical / ratio) ≤
      Double.binary64.nearest (physical' / ratio) := by
    apply FloatFormat.nearest_mono
    exact div_le_div_of_nonneg_right le (le_of_lt positive)
  have units : Double.binary64.nearest
      (Double.binary64.nearest (physical / ratio) / 750) ≤
        Double.binary64.nearest
          (Double.binary64.nearest (physical' / ratio) / 750) := by
    apply FloatFormat.nearest_mono
    linarith
  linarith

/-- A window of so many physical pixels at the ratio `2`. -/
def phone (physicalWidth : Int) : Window :=
  { physicalWidth := .ofInt physicalWidth
    physicalHeight := .ofInt 1334
    devicePixelRatio := .ofInt 2
    paddingTop := .ofInt 40 }

theorem px_mono_phone :
    (initialized (phone 750)).px.toRat? = some 1 ∧
      (initialized (phone 1500)).px.toRat? = some 2 ∧ (1 : Rat) ≤ 2 := by
  have ratio : ∀ width, (phone width).devicePixelRatio.toRat? = some 2 := by
    intro width
    exact Double.toRat?_ofInt_of_le (by decide)
  have physical : (phone 750).physicalWidth.toRat? = some 750 :=
    Double.toRat?_ofInt_of_le (by decide)
  have physical' : (phone 1500).physicalWidth.toRat? = some 1500 :=
    Double.toRat?_ofInt_of_le (by decide)
  have unit : (initialized (phone 750)).px.toRat? = some 1 := by
    decide +kernel
  have unit' : (initialized (phone 1500)).px.toRat? = some 2 := by
    decide +kernel
  exact ⟨unit, unit', px_mono (ratio 750) (ratio 1500) two_pos physical
    physical' (by norm_num) unit unit'⟩

end ScreenSizeFit

end Douban
