import Douban.Widgets.Widget

/-!
# The star rating

`buildSelectedStar` draws as many full stars as the rating is worth and one
clipped star for the rest.  Every step rounds: the value of one star, the
number of stars and the width of the rest.
-/

namespace Douban

open Dart

structure DSStarRating where
  rating : Option Double
  maxRating : Double := .ofInt 10
  count : Int := 5
  size : Double := .ofInt 30
  unselectImage : Widget := .icon .starBorder (some size)
  selectImage : Widget := .icon .star (some size)

namespace DSStarRatingState

def buildUnselectedStar (widget : DSStarRating) :
    Except BuildError (List Widget) :=
  generate widget.count fun _ => widget.unselectImage

/-- What one star is worth. -/
def oneValue (widget : DSStarRating) : Double :=
  widget.maxRating.div (.ofInt widget.count)

/-- The loop that adds the full stars. -/
def addStars (star : Widget) (entireCount : Int) (stars : List Widget) :
    List Widget :=
  (List.range entireCount.toNat).foldl (fun stars _ => stars ++ [star]) stars

def buildSelectedStar (widget : DSStarRating) :
    Except BuildError (List Widget) := do
  let star := widget.selectImage
  let rating ← BuildError.lift (nonNull widget.rating)
  let entireCount ← (rating.div (oneValue widget)).floor
  let stars := addStars star entireCount []
  let leftWidth :=
    ((rating.div (oneValue widget)).sub (.ofInt entireCount)).mul widget.size
  let halfStar := .clipRect { width := leftWidth } star
  return stars ++ [halfStar]

def build (widget : DSStarRating) : Except BuildError Widget := do
  let unselected ← buildUnselectedStar widget
  let selected ← buildSelectedStar widget
  return .stack [.flex .horizontal unselected, .flex .horizontal selected]

/-- The width painted by the selected stars: the last one is clipped, the
others are painted in full. -/
def highlighted (widget : DSStarRating) : Option Rat := do
  let stars ← (buildSelectedStar widget).toOption
  let size ← widget.size.toRat?
  match stars.getLast? with
  | some (.clipRect clipper _) =>
      let left ← clipper.width.toRat?
      return (stars.length - 1 : Nat) * size + left
  | _ => none

theorem addStars_eq (star : Widget) (entireCount : Int)
    (stars : List Widget) :
    addStars star entireCount stars =
      stars ++ List.replicate entireCount.toNat star := by
  unfold addStars
  induction entireCount.toNat with
  | zero => simp
  | succ count induction =>
      rw [List.range_succ, List.foldl_append, induction,
        List.replicate_succ', ← List.append_assoc]
      rfl

/-! ## When the row is built -/

section Outcome

variable {widget : DSStarRating}

theorem buildSelectedStar_of_null (null : widget.rating = none) :
    buildSelectedStar widget = .error (.dart .noSuchMethodError) := by
  rw [buildSelectedStar, null]
  rfl

theorem buildSelectedStar_of_special {rating : Double}
    (given : widget.rating = some rating)
    (special : (rating.div (oneValue widget)).toRat? = none) :
    buildSelectedStar widget = .error .unsupportedError := by
  rw [buildSelectedStar, given]
  simp only [nonNull_some, BuildError.lift_ok, Library.ok_bind,
    Double.floor_of_not_finite special, Library.error_bind]

/-- The number of full stars for a quotient: `floor` stays in 64 bits. -/
def fullStars (quotient : Rat) : Int :=
  max (-2 ^ 63) (min ⌊quotient⌋ (2 ^ 63 - 1))

theorem buildSelectedStar_of_quotient {rating : Double} {quotient : Rat}
    (given : widget.rating = some rating)
    (finite : (rating.div (oneValue widget)).toRat? = some quotient) :
    buildSelectedStar widget = .ok
      (List.replicate (fullStars quotient).toNat widget.selectImage ++
        [.clipRect
          { width := ((rating.div (oneValue widget)).sub
              (.ofInt (fullStars quotient))).mul widget.size }
          widget.selectImage]) := by
  rw [buildSelectedStar, given]
  simp only [nonNull_some, BuildError.lift_ok, Library.ok_bind,
    Double.floor_of_toRat? finite, addStars_eq, List.nil_append]
  rfl

end Outcome

/-! ## The width of the row -/

open Double (binary64 limit)

/-- The width of the clipped star: the fraction of the quotient, scaled by the
size of a star, each step rounded. -/
def leftWidth (quotient size : Rat) : Rat :=
  binary64.nearest (binary64.nearest (Int.fract quotient) * size)

theorem abs_floor_le {quotient : Rat} (inRange : |quotient| ≤ 2 ^ 62) :
    |⌊quotient⌋| ≤ 2 ^ 62 := by
  obtain ⟨low, high⟩ := abs_le.mp inRange
  apply abs_le.mpr
  constructor
  · apply Int.le_floor.mpr
    push_cast
    exact low
  · exact_mod_cast le_trans (Int.floor_le quotient) high

theorem fullStars_of_le {quotient : Rat} (inRange : |quotient| ≤ 2 ^ 62) :
    fullStars quotient = ⌊quotient⌋ := by
  have bounds := abs_le.mp (abs_floor_le inRange)
  unfold fullStars
  omega

theorem nearest_fract_mem (quotient : Rat) :
    0 ≤ binary64.nearest (Int.fract quotient) ∧
      binary64.nearest (Int.fract quotient) ≤ 1 := by
  constructor
  · exact Library.FloatFormat.nearest_nonneg (Int.fract_nonneg quotient)
  · apply Library.FloatFormat.nearest_le Double.representable_one
    exact le_of_lt (Int.fract_lt_one quotient)

section Width

variable {star : Double} {size : Rat} (starSize : star.toRat? = some size)
  (nonneg : 0 ≤ size)

include starSize nonneg

theorem leftWidth_mem (quotient : Rat) :
    0 ≤ leftWidth quotient size ∧ leftWidth quotient size ≤ size := by
  obtain ⟨low, high⟩ := nearest_fract_mem quotient
  constructor
  · apply Library.FloatFormat.nearest_nonneg
    exact mul_nonneg low nonneg
  · apply Library.FloatFormat.nearest_le
      (Double.representable_of_toRat? starSize)
    exact mul_le_of_le_one_left nonneg high

theorem toRat?_leftWidth {value : Double} {quotient : Rat}
    (finite : value.toRat? = some quotient)
    (inRange : |quotient| ≤ 2 ^ 62) :
    ((value.sub (.ofInt (fullStars quotient))).mul star).toRat? =
      some (leftWidth quotient size) := by
  obtain ⟨partLow, partHigh⟩ := nearest_fract_mem quotient
  obtain ⟨widthLow, widthHigh⟩ := leftWidth_mem starSize nonneg quotient
  have floorExact :
      binary64.nearest ((⌊quotient⌋ : Int) : Rat) = (⌊quotient⌋ : Rat) :=
    Library.FloatFormat.nearest_of_representable
      ((Double.representable_of_toRat? finite).floor (by decide))
  have floorSmall : |((⌊quotient⌋ : Int) : Rat)| < limit := by
    apply lt_of_le_of_lt _
      (Double.two_pow_lt_limit 62 (by omega))
    exact_mod_cast abs_floor_le inRange
  have count : (Double.ofInt ⌊quotient⌋).toRat? = some (⌊quotient⌋ : Rat) := by
    rw [Double.toRat?_ofInt (by rwa [floorExact]), floorExact]
  have fraction : (value.sub (.ofInt ⌊quotient⌋)).toRat? =
      some (binary64.nearest (Int.fract quotient)) := by
    apply Double.toRat?_sub finite count
    apply lt_of_le_of_lt _ Double.one_lt_limit
    rw [Int.self_sub_floor, abs_of_nonneg partLow]
    exact partHigh
  rw [fullStars_of_le inRange]
  apply Double.toRat?_mul fraction starSize
  apply lt_of_le_of_lt _ (Double.abs_lt_of_toRat? starSize)
  rw [abs_of_nonneg nonneg]
  rw [leftWidth] at widthLow widthHigh
  rw [abs_of_nonneg widthLow]
  exact widthHigh

end Width

/-- A row whose stars are worth something and have a size. -/
structure Regular (widget : DSStarRating) (one size : Rat) : Prop where
  isOne : (oneValue widget).toRat? = some one
  positive : 0 < one
  isSize : widget.size.toRat? = some size
  nonneg : 0 ≤ size

section Row

variable {widget : DSStarRating} {one size : Rat}

theorem abs_nearest_quotient_le {rating : Rat} (positive : 0 < one)
    (inRange : |rating| ≤ 2 ^ 62 * one) :
    |binary64.nearest (rating / one)| ≤ 2 ^ 62 := by
  rw [← Double.nearest_abs]
  apply Library.FloatFormat.nearest_le (Double.representable_two_pow 62)
  rw [abs_div, abs_of_pos positive, div_le_iff₀ positive]
  exact inRange

/-- The stars drawn for a rating of at most `2 ^ 62` stars. -/
theorem buildSelectedStar_of_regular (regular : Regular widget one size)
    {rating : Double} {value : Rat} (given : widget.rating = some rating)
    (finite : rating.toRat? = some value)
    (inRange : |value| ≤ 2 ^ 62 * one) :
    ∃ width,
      buildSelectedStar widget = .ok
        (List.replicate ⌊binary64.nearest (value / one)⌋.toNat
            widget.selectImage ++
          [.clipRect { width } widget.selectImage]) ∧
        width.toRat? =
          some (leftWidth (binary64.nearest (value / one)) size) := by
  have quotientRange := abs_nearest_quotient_le regular.positive inRange
  have quotient : (rating.div (oneValue widget)).toRat? =
      some (binary64.nearest (value / one)) := by
    apply Double.toRat?_div finite regular.isOne
      (ne_of_gt regular.positive)
    exact lt_of_le_of_lt quotientRange (Double.two_pow_lt_limit 62 (by omega))
  rw [buildSelectedStar_of_quotient given quotient,
    fullStars_of_le quotientRange]
  refine ⟨_, rfl, ?_⟩
  have width := toRat?_leftWidth regular.isSize regular.nonneg quotient
    quotientRange
  rwa [fullStars_of_le quotientRange] at width

theorem highlighted_of_regular (regular : Regular widget one size)
    {rating : Double} {value : Rat} (given : widget.rating = some rating)
    (finite : rating.toRat? = some value)
    (inRange : |value| ≤ 2 ^ 62 * one) :
    highlighted widget =
      some (⌊binary64.nearest (value / one)⌋.toNat * size +
        leftWidth (binary64.nearest (value / one)) size) := by
  obtain ⟨width, built, left⟩ :=
    buildSelectedStar_of_regular regular given finite inRange
  simp [highlighted, built, regular.isSize, left, Except.toOption]

end Row

/-! ## Order -/

theorem width_mono {size : Rat} {star : Double}
    (starSize : star.toRat? = some size) (nonneg : 0 ≤ size)
    {quotient larger : Rat} (quotientNonneg : 0 ≤ quotient)
    (le : quotient ≤ larger) :
    (⌊quotient⌋.toNat : Rat) * size + leftWidth quotient size ≤
      ⌊larger⌋.toNat * size + leftWidth larger size := by
  have floors : ⌊quotient⌋ ≤ ⌊larger⌋ := Int.floor_mono le
  have floorNonneg : 0 ≤ ⌊quotient⌋ := Int.floor_nonneg.mpr quotientNonneg
  rcases lt_or_eq_of_le floors with fewer | same
  · -- One more full star is at least as wide as any clipped one.
    have high := (leftWidth_mem starSize nonneg quotient).2
    have low := (leftWidth_mem starSize nonneg larger).1
    have counts : (⌊quotient⌋.toNat : Rat) + 1 ≤ ⌊larger⌋.toNat := by
      have naturals : ⌊quotient⌋.toNat + 1 ≤ ⌊larger⌋.toNat := by omega
      exact_mod_cast naturals
    linarith [mul_le_mul_of_nonneg_right counts nonneg]
  · have fractions : Int.fract quotient ≤ Int.fract larger := by
      rw [Int.fract, Int.fract, same]
      linarith
    rw [same]
    apply add_le_add_right
    apply Library.FloatFormat.nearest_mono
    apply mul_le_mul_of_nonneg_right _ nonneg
    exact Library.FloatFormat.nearest_mono fractions

/-- From zero on, a better rating never highlights less. -/
theorem highlighted_mono {widget : DSStarRating} {one size : Rat}
    (regular : Regular widget one size) {rating better : Double}
    {value larger : Rat} (finite : rating.toRat? = some value)
    (betterFinite : better.toRat? = some larger) (nonneg : 0 ≤ value)
    (le : value ≤ larger) (inRange : larger ≤ 2 ^ 62 * one) :
    ∃ less more,
      highlighted { widget with rating := some rating } = some less ∧
        highlighted { widget with rating := some better } = some more ∧
        less ≤ more := by
  have rated : ∀ given, Regular { widget with rating := given } one size := by
    intro given
    exact ⟨regular.isOne, regular.positive, regular.isSize, regular.nonneg⟩
  have quotientNonneg : 0 ≤ value / one :=
    div_nonneg nonneg (le_of_lt regular.positive)
  refine ⟨_, _,
    highlighted_of_regular (rated (some rating)) rfl finite ?_,
    highlighted_of_regular (rated (some better)) rfl betterFinite ?_, ?_⟩
  · rw [abs_of_nonneg nonneg]
    exact le_trans le inRange
  · rwa [abs_of_nonneg (le_trans nonneg le)]
  · apply width_mono regular.isSize regular.nonneg
    · exact Library.FloatFormat.nearest_nonneg quotientNonneg
    · apply Library.FloatFormat.nearest_mono
      exact div_le_div_of_nonneg_right le (le_of_lt regular.positive)

theorem highlighted_mono_sevenEight :
    ∃ less more,
      highlighted { rating := some ⟨0x401C000000000000#64⟩ } = some less ∧
        highlighted { rating := some ⟨0x4020000000000000#64⟩ } =
          some more ∧
        less ≤ more := by
  have regular : Regular { rating := none } 2 30 :=
    { isOne := by decide +kernel
      positive := two_pos
      isSize := by decide +kernel
      nonneg := by norm_num }
  have seven : (⟨0x401C000000000000#64⟩ : Double).toRat? = some 7 := by
    decide +kernel
  have eight : (⟨0x4020000000000000#64⟩ : Double).toRat? = some 8 := by
    decide +kernel
  exact highlighted_mono regular seven eight (by norm_num) (by norm_num)
    (by norm_num)

end DSStarRatingState

end Douban
