import Mathlib.Algebra.Ring.Nat
import Mathlib.Data.List.Basic
import Mathlib.Data.List.Induction

/-!
# Accumulating contributions

Contributors arrive one after another and each appends a list of items to one
shared list.  What a contributor finds there right after its own turn is
everything contributed so far.  The lemmas below say when that is exactly its
own contribution, and who contributed the items it finds.
-/

namespace Library

variable {α : Type}

theorem getElem?_concat_cases {items : List α} {last item : α}
    {index : Nat} (found : (items ++ [last])[index]? = some item) :
    (index < items.length ∧ items[index]? = some item) ∨
      (index = items.length ∧ item = last) := by
  by_cases old : index < items.length
  · rw [List.getElem?_append_left old] at found
    exact .inl ⟨old, found⟩
  · obtain ⟨inRange, value⟩ := List.getElem?_eq_some_iff.mp found
    have atEnd : index = items.length := by
      rw [List.length_append, List.length_singleton] at inRange
      omega
    subst atEnd
    exact .inr ⟨rfl, by simpa using value.symm⟩

/-- What contributor `index` finds in the shared list right after its own
turn. -/
def accumulated (contributions : List (List α)) (index : Nat) : List α :=
  (contributions.take (index + 1)).flatten

theorem accumulated_eq_append
    {contributions : List (List α)} {index : Nat} {own : List α}
    (present : contributions[index]? = some own) :
    accumulated contributions index =
      (contributions.take index).flatten ++ own := by
  simp [accumulated, List.take_add_one, present]

theorem accumulated_append_of_lt
    {contributions later : List (List α)} {index : Nat}
    (early : index < contributions.length) :
    accumulated (contributions ++ later) index =
      accumulated contributions index := by
  simp [accumulated, List.take_append_of_le_length (Nat.succ_le_of_lt early)]

theorem accumulated_concat_length
    (contributions : List (List α)) (own : List α) :
    accumulated (contributions ++ [own]) contributions.length =
      contributions.flatten ++ own := by
  simp [accumulated, List.take_of_length_le]

/-- A contributor finds its own items alone exactly when nobody before it
contributed anything. -/
theorem accumulated_eq_own_iff
    {contributions : List (List α)} {index : Nat} {own : List α}
    (present : contributions[index]? = some own) :
    accumulated contributions index = own ↔
      ∀ earlier ∈ contributions.take index, earlier = [] := by
  rw [accumulated_eq_append present, List.append_left_eq_self,
    List.flatten_eq_nil_iff]

/-- Once every contribution is nonempty, only the first contributor finds its
own items alone. -/
theorem accumulated_eq_own_iff_first
    {contributions : List (List α)} {index : Nat} {own : List α}
    (nonempty : ∀ contribution ∈ contributions, contribution ≠ [])
    (present : contributions[index]? = some own) :
    accumulated contributions index = own ↔ index = 0 := by
  rw [accumulated_eq_own_iff present]
  constructor
  · intro silent
    by_contra later
    obtain ⟨inRange, _⟩ := List.getElem?_eq_some_iff.mp present
    have first : contributions[0] ∈ contributions.take index :=
      List.mem_take_iff_getElem.mpr ⟨0, by omega, rfl⟩
    apply nonempty _ (List.getElem_mem _)
    exact silent _ first
  · intro first
    subst first
    simp

theorem mem_accumulated_iff
    {contributions : List (List α)} {index : Nat} {item : α} :
    item ∈ accumulated contributions index ↔
      ∃ contributor contribution, contributor ≤ index ∧
        contributions[contributor]? = some contribution ∧
        item ∈ contribution := by
  simp only [accumulated, List.mem_flatten]
  constructor
  · intro found
    obtain ⟨contribution, taken, member⟩ := found
    obtain ⟨contributor, bound, equality⟩ := List.mem_take_iff_getElem.mp taken
    subst equality
    exact ⟨contributor, _, by omega,
      List.getElem?_eq_getElem (by omega), member⟩
  · intro found
    obtain ⟨contributor, contribution, early, present, member⟩ := found
    obtain ⟨inRange, equality⟩ := List.getElem?_eq_some_iff.mp present
    subst equality
    exact ⟨_, List.mem_take_iff_getElem.mpr
      ⟨contributor, by omega, rfl⟩, member⟩

/-- If every contributor brings exactly one item of a kind, then contributor
`index` finds those of itself and of everybody before it, in order. -/
theorem filterMap_accumulated {β : Type} {kind : α → Option β}
    {brought : Nat → β} {contributions : List (List α)}
    (one : ∀ index own, contributions[index]? = some own →
      own.filterMap kind = [brought index])
    {index : Nat} (inRange : index < contributions.length) :
    (accumulated contributions index).filterMap kind =
      (List.range (index + 1)).map brought := by
  induction index with
  | zero =>
      have present := List.getElem?_eq_getElem inRange
      rw [accumulated_eq_append present]
      simpa using one 0 _ present
  | succ index induction =>
      have present := List.getElem?_eq_getElem inRange
      have before := induction (by omega)
      rw [accumulated] at before
      rw [accumulated_eq_append present, List.filterMap_append, before,
        one (index + 1) _ present, List.range_succ (n := index + 1),
        List.map_append]
      rfl

theorem two_mul_sum_of_successors {found : List Nat}
    (each : ∀ index count, found[index]? = some count → count = index + 1) :
    2 * found.sum = found.length * (found.length + 1) := by
  induction found using List.reverseRecOn with
  | nil => rfl
  | append_singleton found last induction =>
      have before : 2 * found.sum = found.length * (found.length + 1) := by
        apply induction
        intro index count present
        apply each
        obtain ⟨inRange, _⟩ := List.getElem?_eq_some_iff.mp present
        rw [List.getElem?_append_left inRange]
        exact present
      have isLast : last = found.length + 1 := by
        apply each
        exact List.getElem?_concat_length
      rw [List.sum_append, List.sum_singleton, List.length_append,
        List.length_singleton, Nat.mul_add, before, isLast, ← Nat.add_mul]
      exact Nat.mul_comm _ _

end Library
