import Douban.Widgets.StarRating

/-!
# The star row of a movie

A movie item leaves every argument but the rating and the size at its default:
five stars for ten points.  Then the value of one star is exactly two, and only
the rest of the rating is subject to rounding.
-/

namespace Douban

open Dart Library
open Double (binary64 limit)

/-- The row as a movie item constructs it. -/
def DSStarRating.standard (rating : Option Double) (size : Double) :
    DSStarRating := { rating, size }

namespace DSStarRatingState

variable {rating star : Double} {value size : Rat}

theorem oneValue_standard (rating : Option Double) (star : Double) :
    (oneValue (.standard rating star)).toRat? = some 2 := by
  have ten : (Double.ofInt 10).toRat? = some 10 := by
    exact_mod_cast Double.toRat?_ofInt_of_le
      (by decide : |(10 : Int)| ≤ 2 ^ 53)
  have five : (Double.ofInt 5).toRat? = some 5 := by
    exact_mod_cast Double.toRat?_ofInt_of_le
      (by decide : |(5 : Int)| ≤ 2 ^ 53)
  have two : binary64.nearest (10 / 5 : Rat) = 2 := by
    have representable := Double.representable_two_pow 1
    rw [pow_one] at representable
    have exact : (10 / 5 : Rat) = 2 := by norm_num
    rw [exact, FloatFormat.nearest_of_representable representable]
  have divided := Double.toRat?_div ten five (by norm_num) (by
    rw [two, abs_of_pos two_pos]
    simpa using Double.two_pow_lt_limit 1 (by omega))
  rw [two] at divided
  exact divided

theorem regular_standard (rating : Option Double)
    (starSize : star.toRat? = some size) (nonneg : 0 ≤ size) :
    Regular (.standard rating star) 2 size :=
  ⟨oneValue_standard rating star, two_pos, starSize, nonneg⟩

/-! ## Half a rating -/

/-- Halving is exact for all but the tiniest ratings, and those stay below
one. -/
theorem nearest_half_cases (representable : binary64.Representable value) :
    binary64.nearest (value / 2) = value / 2 ∨ |value| < 1 := by
  rcases lt_or_ge |value| 1 with tiny | normal
  · exact .inr tiny
  · left
    apply FloatFormat.nearest_of_representable
    apply representable.half
    apply le_trans _ normal
    apply zpow_le_one_of_nonpos₀ one_le_two
    decide

theorem nearest_half_mem (nonneg : 0 ≤ value) (tiny : value < 1) :
    0 ≤ binary64.nearest (value / 2) ∧
      binary64.nearest (value / 2) ≤ 1 / 2 := by
  have half : binary64.Representable (1 / 2 : Rat) := by
    refine ⟨1, -1, by decide, by decide, ?_⟩
    norm_num
  constructor
  · apply FloatFormat.nearest_nonneg
    linarith
  · apply FloatFormat.nearest_le half
    linarith

theorem floor_nearest_half (representable : binary64.Representable value)
    (nonneg : 0 ≤ value) :
    ⌊binary64.nearest (value / 2)⌋ = ⌊value / 2⌋ := by
  rcases nearest_half_cases representable with exact | tiny
  · rw [exact]
  · rw [abs_of_nonneg nonneg] at tiny
    obtain ⟨low, high⟩ := nearest_half_mem nonneg tiny
    have rounded : ⌊binary64.nearest (value / 2)⌋ = 0 := by
      apply Int.floor_eq_zero_iff.mpr
      exact ⟨low, by linarith⟩
    have unrounded : ⌊value / 2⌋ = 0 := by
      apply Int.floor_eq_zero_iff.mpr
      exact ⟨by linarith, by linarith⟩
    rw [rounded, unrounded]

/-- The least distance that rounding can add. -/
def leastError : Rat := 2 ^ (-1075 : Int)

theorem abs_sub_nearest_le (exact : Rat) :
    |exact - binary64.nearest exact| ≤ |exact| / 2 ^ 53 + leastError := by
  have general := FloatFormat.abs_sub_nearest_le binary64 exact
  have least : (2 : Rat) ^ binary64.least / 2 = leastError :=
    (zpow_sub_one₀ two_ne_zero (-1074)).symm
  rwa [least] at general

theorem leastError_le : leastError ≤ 1 / 2 ^ 54 := by
  have power : (1 / 2 ^ 54 : Rat) = 2 ^ (-54 : Int) := by norm_num
  rw [power]
  exact zpow_le_zpow_right₀ one_le_two (by decide)

theorem abs_fract_sub_le (representable : binary64.Representable value)
    (nonneg : 0 ≤ value) :
    |Int.fract (value / 2) -
        Int.fract (binary64.nearest (value / 2))| ≤ 1 / 2 ^ 53 := by
  rcases nearest_half_cases representable with exact | tiny
  · rw [exact, sub_self, abs_zero]
    positivity
  · rw [abs_of_nonneg nonneg] at tiny
    obtain ⟨low, high⟩ := nearest_half_mem nonneg tiny
    have rounded : Int.fract (binary64.nearest (value / 2)) =
        binary64.nearest (value / 2) :=
      Int.fract_eq_self.mpr ⟨low, by linarith⟩
    have unrounded : Int.fract (value / 2) = value / 2 :=
      Int.fract_eq_self.mpr ⟨by linarith, by linarith⟩
    have error := abs_sub_nearest_le (value / 2)
    have least := leastError_le
    have size : |value / 2| / 2 ^ 53 ≤ 1 / 2 ^ 54 := by
      rw [abs_of_nonneg (by linarith)]
      linarith
    rw [rounded, unrounded]
    linarith

theorem abs_leftWidth_sub_le (representable : binary64.Representable value)
    (nonneg : 0 ≤ value) (sizeNonneg : 0 ≤ size) :
    |Int.fract (value / 2) * size -
        leftWidth (binary64.nearest (value / 2)) size| ≤
      size / 2 ^ 52 + leastError := by
  have quotientNonneg : 0 ≤ binary64.nearest (value / 2) :=
    FloatFormat.nearest_nonneg (by linarith)
  have fractionExact :
      binary64.nearest (Int.fract (binary64.nearest (value / 2))) =
        Int.fract (binary64.nearest (value / 2)) :=
    FloatFormat.nearest_of_representable
      ((FloatFormat.nearest_representable _ _).fract quotientNonneg)
  have fraction := abs_fract_sub_le representable nonneg
  generalize quotient : binary64.nearest (value / 2) = rounded at *
  have low := Int.fract_nonneg rounded
  have high := le_of_lt (Int.fract_lt_one rounded)
  have product := abs_sub_nearest_le (Int.fract rounded * size)
  have bound : |Int.fract rounded * size| ≤ size := by
    rw [abs_of_nonneg (mul_nonneg low sizeNonneg)]
    exact mul_le_of_le_one_left sizeNonneg high
  have scaled :
      |Int.fract (value / 2) * size - Int.fract rounded * size| ≤
        size / 2 ^ 53 := by
    rw [← sub_mul, abs_mul, abs_of_nonneg sizeNonneg]
    linarith [mul_le_mul_of_nonneg_right fraction sizeNonneg]
  rw [leftWidth, fractionExact]
  calc |Int.fract (value / 2) * size -
        binary64.nearest (Int.fract rounded * size)|
      ≤ |Int.fract (value / 2) * size - Int.fract rounded * size| +
          |Int.fract rounded * size -
            binary64.nearest (Int.fract rounded * size)| :=
        abs_sub_le _ _ _
    _ ≤ size / 2 ^ 52 + leastError := by linarith

/-- The standard row draws a full star for every two points and clips one more
star to the rest, up to rounding. -/
theorem buildSelectedStar_standard (finite : rating.toRat? = some value)
    (nonneg : 0 ≤ value) (inRange : value ≤ 2 ^ 62)
    (starSize : star.toRat? = some size) (sizeNonneg : 0 ≤ size) :
    ∃ width left,
      buildSelectedStar (.standard (some rating) star) = .ok
        (List.replicate ⌊value / 2⌋.toNat (.icon .star (some star)) ++
          [.clipRect { width } (.icon .star (some star))]) ∧
        width.toRat? = some left ∧ 0 ≤ left ∧ left ≤ size ∧
        |Int.fract (value / 2) * size - left| ≤
          size / 2 ^ 52 + leastError := by
  have representable := Double.representable_of_toRat? finite
  have small : |value| ≤ 2 ^ 62 * 2 := by
    rw [abs_of_nonneg nonneg]
    linarith
  obtain ⟨width, built, left⟩ := buildSelectedStar_of_regular
    (regular_standard (some rating) starSize sizeNonneg) rfl finite small
  rw [floor_nearest_half representable nonneg] at built
  obtain ⟨low, high⟩ := leftWidth_mem starSize sizeNonneg
    (binary64.nearest (value / 2))
  exact ⟨width, _, built, left, low, high,
    abs_leftWidth_sub_le representable nonneg sizeNonneg⟩

theorem buildSelectedStar_standard_seven :
    ∃ width left,
      buildSelectedStar (.standard (some ⟨0x401C000000000000#64⟩)
          (.ofInt 20)) = .ok
        (List.replicate ⌊(7 / 2 : Rat)⌋.toNat
            (.icon .star (some (.ofInt 20))) ++
          [.clipRect { width } (.icon .star (some (.ofInt 20)))]) ∧
        width.toRat? = some left ∧ 0 ≤ left ∧ left ≤ 20 ∧
        |Int.fract (7 / 2 : Rat) * 20 - left| ≤
          20 / 2 ^ 52 + leastError := by
  have seven : (⟨0x401C000000000000#64⟩ : Double).toRat? = some 7 := by
    decide +kernel
  have twenty : (Double.ofInt 20).toRat? = some 20 :=
    Double.toRat?_ofInt_of_le (by decide)
  exact buildSelectedStar_standard seven (by norm_num) (by norm_num) twenty
    (by norm_num)

/-! ## Every finite rating -/

theorem toRat?_quotient (finite : rating.toRat? = some value)
    (star : Double) :
    (rating.div (oneValue (.standard (some rating) star))).toRat? =
      some (binary64.nearest (value / 2)) := by
  apply Double.toRat?_div finite (oneValue_standard (some rating) star)
    two_ne_zero
  have representable := Double.representable_of_toRat? finite
  have magnitude : binary64.Representable |value| := by
    rcases abs_choice value with same | opposite
    · rwa [same]
    · rw [opposite]
      exact representable.neg
  apply Double.abs_nearest_lt magnitude (Double.abs_lt_of_toRat? finite)
  rw [abs_div, abs_of_pos (two_pos (α := Rat))]
  linarith [abs_nonneg value]

theorem nearest_half_lt_five_iff
    (representable : binary64.Representable value) :
    binary64.nearest (value / 2) < 5 ↔ value < 10 := by
  have five : binary64.Representable ((5 : Int) : Rat) :=
    .intCast (by decide) (by decide)
  rw [Int.cast_ofNat] at five
  have one := Double.representable_one
  constructor
  · intro below
    by_contra above
    have le := FloatFormat.le_nearest five
      (show (5 : Rat) ≤ value / 2 by linarith)
    linarith
  · intro below
    rcases nearest_half_cases representable with exact | tiny
    · rw [exact]
      linarith
    · have bound := (abs_lt.mp tiny).2
      have le := FloatFormat.nearest_le one
        (show value / 2 ≤ 1 by linarith)
      linarith

theorem buildUnselectedStar_standard (rating : Option Double)
    (star : Double) :
    buildUnselectedStar (.standard rating star) =
      .ok (List.replicate 5 (.icon .starBorder (some star))) := rfl

/-- The selected stars stay over the unselected ones exactly for ratings below
the maximum: a full rating draws a sixth star. -/
theorem selected_fit_iff (finite : rating.toRat? = some value)
    (star : Double) :
    ∃ unselected selected,
      buildUnselectedStar (.standard (some rating) star) = .ok unselected ∧
        buildSelectedStar (.standard (some rating) star) = .ok selected ∧
        (selected.length ≤ unselected.length ↔ value < 10) := by
  refine ⟨_, _, buildUnselectedStar_standard (some rating) star,
    buildSelectedStar_of_quotient rfl (toRat?_quotient finite star), ?_⟩
  have representable := Double.representable_of_toRat? finite
  rw [← nearest_half_lt_five_iff representable]
  have floor : ⌊binary64.nearest (value / 2)⌋ < 5 ↔
      binary64.nearest (value / 2) < 5 := by
    rw [Int.floor_lt]
    norm_num
  rw [← floor, List.length_append, List.length_replicate,
    List.length_singleton, List.length_replicate, fullStars]
  omega

theorem selected_fit_iff_ten :
    ∃ unselected selected,
      buildUnselectedStar (.standard (some ⟨0x4024000000000000#64⟩)
          (.ofInt 20)) = .ok unselected ∧
        buildSelectedStar (.standard (some ⟨0x4024000000000000#64⟩)
          (.ofInt 20)) = .ok selected ∧
        (selected.length ≤ unselected.length ↔ (10 : Rat) < 10) := by
  have ten : (⟨0x4024000000000000#64⟩ : Double).toRat? = some 10 := by
    decide +kernel
  exact selected_fit_iff ten (.ofInt 20)

theorem build_standard_of_finite (finite : rating.toRat? = some value)
    (star : Double) :
    ∃ width, build (.standard (some rating) star) = .ok
      (.stack
        [.flex .horizontal
            (List.replicate 5 (.icon .starBorder (some star))),
          .flex .horizontal
            (List.replicate (fullStars (binary64.nearest (value / 2))).toNat
                (.icon .star (some star)) ++
              [.clipRect { width } (.icon .star (some star))])]) := by
  have selected : buildSelectedStar (.standard (some rating) star) = _ :=
    buildSelectedStar_of_quotient rfl (toRat?_quotient finite star)
  rw [build, buildUnselectedStar_standard, ok_bind, selected]
  exact ⟨_, rfl⟩

theorem build_standard_of_null :
    build (.standard none star) = .error (.dart .noSuchMethodError) := by
  have selected : buildSelectedStar (.standard none star) = _ :=
    buildSelectedStar_of_null rfl
  rw [build, buildUnselectedStar_standard, ok_bind, selected, error_bind]

theorem build_standard_of_special (special : rating.toRat? = none) :
    build (.standard (some rating) star) = .error .unsupportedError := by
  have selected : buildSelectedStar (.standard (some rating) star) = _ :=
    buildSelectedStar_of_special rfl
      (Double.toRat?_div_of_not_finite _ special)
  rw [build, buildUnselectedStar_standard, ok_bind, selected, error_bind]

/-- The row fails to build exactly for a rating that is null or not finite. -/
theorem build_standard_eq_error_iff {rating : Option Double}
    {failure : BuildError} :
    build (.standard rating star) = .error failure ↔
      (rating = none ∧ failure = .dart .noSuchMethodError) ∨
        ∃ number, rating = some number ∧ number.toRat? = none ∧
          failure = .unsupportedError := by
  cases rating with
  | none =>
      rw [build_standard_of_null]
      simp [eq_comm]
  | some number =>
      cases finite : number.toRat? with
      | none =>
          rw [build_standard_of_special finite]
          simp [finite, eq_comm]
      | some value =>
          obtain ⟨width, built⟩ := build_standard_of_finite finite star
          simp [built, finite]

end DSStarRatingState

end Douban
