import Mathlib.Algebra.Order.Floor.Ring
import Mathlib.Tactic.Linarith
import Mathlib.Tactic.NormNum
import Mathlib.Tactic.Ring

/-!
# Rounding to the nearest integer, ties to even

`nearestEven_eq_iff` characterizes the result by its distance alone.  Symmetry
and monotonicity follow from the characterization, without another look at the
definition.
-/

namespace Library

variable {K : Type*} [Field K] [LinearOrder K]

/-- Being nearest, with the rule for ties. -/
inductive IsNearestEven (x : K) (n : ℤ) : Prop where
  | near : |x - n| < 1 / 2 → IsNearestEven x n
  | tie : |x - n| = 1 / 2 → Even n → IsNearestEven x n

theorem IsNearestEven.abs_sub_le {x : K} {n : ℤ}
    (nearest : IsNearestEven x n) : |x - n| ≤ 1 / 2 := by
  cases nearest with
  | near near => exact le_of_lt near
  | tie tie _ => exact le_of_eq tie

variable [IsStrictOrderedRing K]

/-- Two integers as near as that are at most one apart, and both even if they
differ. -/
theorem IsNearestEven.unique {x : K} {n m : ℤ}
    (left : IsNearestEven x n) (right : IsNearestEven x m) : n = m := by
  obtain ⟨leftLow, leftHigh⟩ := abs_le.mp left.abs_sub_le
  obtain ⟨rightLow, rightHigh⟩ := abs_le.mp right.abs_sub_le
  by_contra different
  wlog less : n < m generalizing n m
  · exact this right left rightLow rightHigh leftLow leftHigh
      (Ne.symm different) (by omega)
  have next : m = n + 1 := by
    have apart : (m : K) ≤ n + 1 := by linarith
    have apart : m ≤ n + 1 := by exact_mod_cast apart
    omega
  subst next
  push_cast at rightLow rightHigh
  have half : x - (n : K) = 1 / 2 := by linarith
  have otherHalf : |x - ((n + 1 : ℤ) : K)| = 1 / 2 := by
    push_cast
    rw [abs_of_nonpos (by linarith)]
    linarith
  have even : Even n := by
    cases left with
    | near near =>
        rw [half, abs_of_pos (by norm_num)] at near
        exact (lt_irrefl _ near).elim
    | tie _ even => exact even
  have odd : Even (n + 1) := by
    cases right with
    | near near => exact (ne_of_lt near otherHalf).elim
    | tie _ even => exact even
  exact (Int.even_add_one.mp odd) even

variable [FloorRing K]

/-- The integer nearest to a number, and the even one of two nearest ones. -/
def nearestEven (x : K) : ℤ :=
  if Int.fract x < 1 - Int.fract x then ⌊x⌋
  else if 1 - Int.fract x < Int.fract x then ⌊x⌋ + 1
  else if Even ⌊x⌋ then ⌊x⌋
  else ⌊x⌋ + 1

theorem isNearestEven_nearestEven (x : K) :
    IsNearestEven x (nearestEven x) := by
  have decomposed : x = ⌊x⌋ + Int.fract x := (Int.floor_add_fract x).symm
  have nonneg := Int.fract_nonneg x
  have small := Int.fract_lt_one x
  have below : x - (⌊x⌋ : K) = Int.fract x := Int.self_sub_floor x
  have above : x - ((⌊x⌋ + 1 : ℤ) : K) = -(1 - Int.fract x) := by
    push_cast
    linarith
  unfold nearestEven
  split
  · rename_i lower
    apply IsNearestEven.near
    rw [below, abs_of_nonneg nonneg]
    linarith
  · rename_i notLower
    split
    · rename_i upper
      apply IsNearestEven.near
      rw [above, abs_neg, abs_of_pos (by linarith)]
      linarith
    · rename_i notUpper
      have tie : Int.fract x = 1 / 2 := by linarith
      split
      · rename_i even
        apply IsNearestEven.tie _ even
        rw [below, abs_of_nonneg nonneg]
        exact tie
      · rename_i odd
        apply IsNearestEven.tie _ (Int.not_even_iff_odd.mp odd).add_one
        rw [above, abs_neg, abs_of_pos (by linarith)]
        linarith

theorem nearestEven_eq_iff {x : K} {n : ℤ} :
    nearestEven x = n ↔ IsNearestEven x n := by
  constructor
  · intro equality
    subst equality
    exact isNearestEven_nearestEven x
  · intro nearest
    exact (isNearestEven_nearestEven x).unique nearest

theorem abs_sub_nearestEven_le (x : K) : |x - nearestEven x| ≤ 1 / 2 :=
  (isNearestEven_nearestEven x).abs_sub_le

@[simp] theorem nearestEven_intCast (n : ℤ) :
    nearestEven (n : K) = n := by
  apply nearestEven_eq_iff.mpr
  apply IsNearestEven.near
  norm_num

@[simp] theorem nearestEven_zero : nearestEven (0 : K) = 0 := by
  exact_mod_cast nearestEven_intCast (K := K) 0

theorem nearestEven_neg (x : K) : nearestEven (-x) = -nearestEven x := by
  apply nearestEven_eq_iff.mpr
  have mirrored : |-x - ((-nearestEven x : ℤ) : K)| = |x - nearestEven x| := by
    push_cast
    rw [← abs_neg]
    congr 1
    ring
  cases isNearestEven_nearestEven x with
  | near near => exact .near (mirrored ▸ near)
  | tie tie even => exact .tie (mirrored ▸ tie) (even_neg.mpr even)

theorem nearestEven_mono {x y : K} (le : x ≤ y) :
    nearestEven x ≤ nearestEven y := by
  by_contra less
  have apart : nearestEven y + 1 ≤ nearestEven x := by omega
  have apart : (nearestEven y : K) + 1 ≤ nearestEven x := by
    exact_mod_cast apart
  obtain ⟨low, _⟩ := abs_le.mp (abs_sub_nearestEven_le x)
  obtain ⟨_, high⟩ := abs_le.mp (abs_sub_nearestEven_le y)
  have equality : x = y := by linarith
  subst equality
  omega

theorem nearestEven_le_of_le {x : K} {n : ℤ} (le : x ≤ n) :
    nearestEven x ≤ n := by
  simpa using nearestEven_mono le

theorem le_nearestEven_of_le {x : K} {n : ℤ} (le : (n : K) ≤ x) :
    n ≤ nearestEven x := by
  simpa using nearestEven_mono le

end Library
