import Mathlib.Data.List.Basic

/-!
# Fields of a delimited text

Splitting at a separator, read backwards: how the first fields of the result
determine the text that was split.  The splitting equations themselves are
those of `List.splitOn`.
-/

namespace Library

variable {α : Type} {separator : α}

section Split

variable [BEq α] [LawfulBEq α]

theorem splitOn_cases (separator : α) (text : List α) :
    (separator ∉ text ∧ text.splitOn separator = [text]) ∨
      ∃ field rest, text = field ++ separator :: rest ∧ separator ∉ field ∧
        text.splitOn separator = field :: rest.splitOn separator := by
  by_cases member : separator ∈ text
  · obtain ⟨field, rest, equality, absent⟩ := List.eq_append_cons_of_mem member
    subst equality
    exact .inr ⟨field, rest, rfl, absent,
      List.splitOn_append_cons_self_of_not_mem absent rest⟩
  · exact .inl ⟨member, List.splitOn_eq_singleton member⟩

theorem not_mem_of_splitOn_eq_cons {text field : List α}
    {fields : List (List α)}
    (split : text.splitOn separator = field :: fields) :
    separator ∉ field := by
  rcases splitOn_cases separator text with
    ⟨absent, single⟩ | ⟨first, rest, _, absent, several⟩
  · rw [single] at split
    cases split
    exact absent
  · rw [several] at split
    cases split
    exact absent

theorem eq_append_of_splitOn_eq_cons_cons {text field next : List α}
    {fields : List (List α)}
    (split : text.splitOn separator = field :: next :: fields) :
    ∃ rest, text = field ++ separator :: rest ∧
      rest.splitOn separator = next :: fields := by
  rcases splitOn_cases separator text with
    ⟨_, single⟩ | ⟨first, rest, equality, _, several⟩
  · rw [single] at split
    cases split
  · rw [several] at split
    obtain ⟨sameItem, tail⟩ := List.cons.inj split
    subst sameItem
    exact ⟨rest, equality, tail⟩

theorem eq_of_splitOn_eq_singleton {text field : List α}
    (split : text.splitOn separator = [field]) : text = field := by
  rcases splitOn_cases separator text with
    ⟨_, single⟩ | ⟨_, rest, _, _, several⟩
  · rw [single] at split
    cases split
    rfl
  · rw [several] at split
    exact (List.splitOn_ne_nil separator rest
      (List.cons.inj split).2).elim

theorem splitOn_eq_cons_iff {text field : List α} {fields : List (List α)} :
    text.splitOn separator = field :: fields ↔
      separator ∉ field ∧
        ((text = field ∧ fields = []) ∨
          ∃ rest, text = field ++ separator :: rest ∧
            rest.splitOn separator = fields) := by
  constructor
  · intro split
    refine ⟨not_mem_of_splitOn_eq_cons split, ?_⟩
    cases fields with
    | nil => exact .inl ⟨eq_of_splitOn_eq_singleton split, rfl⟩
    | cons next fields =>
        exact .inr (eq_append_of_splitOn_eq_cons_cons split)
  · intro parts
    obtain ⟨absent, ⟨rfl, rfl⟩ | ⟨rest, rfl, rfl⟩⟩ := parts
    · exact List.splitOn_eq_singleton absent
    · exact List.splitOn_append_cons_self_of_not_mem absent rest

end Split

theorem append_eq_append_cases {first rest before found : List α}
    (equality : first ++ rest = before ++ found) :
    (∃ inside, inside ≠ [] ∧ first = before ++ inside ∧
        found = inside ++ rest) ∨
      ∃ later, before = first ++ later ∧ rest = later ++ found := by
  rcases List.append_eq_append_iff.mp equality with
    ⟨later, rfl, rfl⟩ | ⟨inside, rfl, rfl⟩
  · exact .inr ⟨later, rfl, rfl⟩
  · by_cases empty : inside = []
    · subst empty
      exact .inr ⟨[], by simp, by simp⟩
    · exact .inl ⟨inside, empty, rfl, rfl⟩

/-- A suffix that begins with an item foreign to the first part begins after
it. -/
theorem skip_of_not_mem {first rest before tail : List α} {item : α}
    (foreign : item ∉ first)
    (equality : first ++ rest = before ++ item :: tail) :
    ∃ later, before = first ++ later ∧ rest = later ++ item :: tail := by
  rcases append_eq_append_cases equality with
    ⟨inside, nonempty, whole, found⟩ | later
  · cases inside with
    | nil => exact (nonempty rfl).elim
    | cons head inside =>
        obtain ⟨sameItem, _⟩ := List.cons.inj found
        subst sameItem
        exact (foreign (by simp [whole])).elim
  · exact later

/-- A field that ends before the text is cut at `blank :: item` lies before the
cut, together with its separator. -/
theorem eq_append_cons_of_not_mem {first rest before tail : List α}
    {blank item : α} (foreign : item ∉ first) (notItem : item ≠ separator)
    (notBlank : blank ≠ separator)
    (equality : first ++ separator :: rest = before ++ blank :: item :: tail) :
    ∃ later, before = first ++ separator :: later := by
  have closed : item ∉ first ++ [separator] := by
    simp [foreign, notItem]
  have regrouped : (first ++ [separator]) ++ rest =
      (before ++ [blank]) ++ item :: tail := by
    simpa using equality
  obtain ⟨later, ends, _⟩ := skip_of_not_mem closed regrouped
  rcases List.eq_nil_or_concat later with rfl | ⟨later, last, rfl⟩
  · rw [List.append_nil] at ends
    obtain ⟨_, same⟩ := List.append_inj' ends rfl
    exact (notBlank (List.cons.inj same).1).elim
  · rw [List.concat_eq_append, ← List.append_assoc] at ends
    obtain ⟨whole, _⟩ := List.append_inj' ends rfl
    exact ⟨later, by simpa using whole⟩

/-- Two texts cut at their first separator agree piece by piece. -/
theorem append_cons_inj_of_not_mem {left left' right right' : List α}
    (absent : separator ∉ left) (absent' : separator ∉ left')
    (equality : left ++ separator :: right = left' ++ separator :: right') :
    left = left' ∧ right = right' := by
  induction left generalizing left' with
  | nil =>
      cases left' with
      | nil => exact ⟨rfl, (List.cons.inj equality).2⟩
      | cons item left' =>
          obtain ⟨sameItem, _⟩ := List.cons.inj equality
          subst sameItem
          simp at absent'
  | cons item left induction =>
      cases left' with
      | nil =>
          obtain ⟨sameItem, _⟩ := List.cons.inj equality
          subst sameItem
          simp at absent
      | cons item' left' =>
          obtain ⟨sameItem, tail⟩ := List.cons.inj equality
          subst sameItem
          obtain ⟨rfl, rfl⟩ := induction
            (fun member => absent (List.mem_cons_of_mem _ member))
            (fun member => absent' (List.mem_cons_of_mem _ member)) tail
          exact ⟨rfl, rfl⟩

end Library
