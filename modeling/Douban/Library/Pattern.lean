import Mathlib.Data.List.Infix

/-!
# Backtracking patterns and leftmost search

A small fragment of regular expressions over an arbitrary alphabet: one item of
a class, a nonempty run of a class, and concatenation.  `matchThen` is the
backtracking matcher; `matchThen_iff` shows that trying the longest run first
loses no match.  `firstMatch` is the unanchored search built on it.
-/

namespace Library

inductive Pattern (α : Type) where
  | one (accepts : α → Bool)
  | oneOrMore (accepts : α → Bool)
  | seq (first second : Pattern α)

namespace Pattern

variable {α : Type}

/-- The literal text `head :: tail`. -/
def literal [BEq α] (head : α) : List α → Pattern α
  | [] => one (· == head)
  | next :: tail => seq (one (· == head)) (literal next tail)

/-- A greedy run: the longer run is tried before the continuation. -/
def repeatThen (accepts : α → Bool) (next : List α → Bool) : List α → Bool
  | [] => false
  | item :: rest =>
      accepts item && (repeatThen accepts next rest || next rest)

/-- Match a prefix of the input and hand what remains to `next`. -/
def matchThen : Pattern α → (List α → Bool) → List α → Bool
  | one _, _, [] => false
  | one accepts, next, item :: rest => accepts item && next rest
  | oneOrMore accepts, next, input => repeatThen accepts next input
  | seq first second, next, input =>
      first.matchThen (fun rest => second.matchThen next rest) input

/-- The words a pattern describes. -/
inductive Matches : Pattern α → List α → Prop where
  | one {accepts : α → Bool} {item : α} :
      accepts item = true → Matches (.one accepts) [item]
  | oneOrMore {accepts : α → Bool} {word : List α} :
      word ≠ [] → (∀ item ∈ word, accepts item = true) →
      Matches (.oneOrMore accepts) word
  | seq {first second : Pattern α} {left right : List α} :
      Matches first left → Matches second right →
      Matches (.seq first second) (left ++ right)

theorem matches_one_iff {accepts : α → Bool} {word : List α} :
    Matches (.one accepts) word ↔
      ∃ item, word = [item] ∧ accepts item = true := by
  constructor
  · intro matched
    cases matched with
    | one accepted => exact ⟨_, rfl, accepted⟩
  · intro accepts
    obtain ⟨item, equality, accepted⟩ := accepts
    subst equality
    exact .one accepted

theorem matches_oneOrMore_iff {accepts : α → Bool} {word : List α} :
    Matches (.oneOrMore accepts) word ↔
      word ≠ [] ∧ ∀ item ∈ word, accepts item = true := by
  constructor
  · intro matched
    cases matched with
    | oneOrMore nonempty accepted => exact ⟨nonempty, accepted⟩
  · intro accepts
    obtain ⟨nonempty, accepted⟩ := accepts
    exact .oneOrMore nonempty accepted

theorem matches_seq_iff {first second : Pattern α} {word : List α} :
    Matches (.seq first second) word ↔
      ∃ left right, word = left ++ right ∧
        Matches first left ∧ Matches second right := by
  constructor
  · intro matched
    cases matched with
    | seq left right => exact ⟨_, _, rfl, left, right⟩
  · intro matched
    obtain ⟨left, right, equality, leftMatched, rightMatched⟩ := matched
    subst equality
    exact .seq leftMatched rightMatched

theorem matches_literal_iff [BEq α] [LawfulBEq α]
    {head : α} {tail word : List α} :
    Matches (literal head tail) word ↔ word = head :: tail := by
  induction tail generalizing head word with
  | nil => simp [literal, matches_one_iff]
  | cons next tail induction =>
      simp [literal, matches_seq_iff, matches_one_iff, induction]

private theorem repeatThen_iff
    {accepts : α → Bool} {next : List α → Bool} {input : List α} :
    repeatThen accepts next input = true ↔
      ∃ word rest, input = word ++ rest ∧ word ≠ [] ∧
        (∀ item ∈ word, accepts item = true) ∧ next rest = true := by
  induction input with
  | nil =>
      simp only [repeatThen, Bool.false_eq_true, List.nil_eq_append_iff,
        false_iff]
      intro matched
      obtain ⟨word, rest, ⟨rfl, rfl⟩, nonempty, _⟩ := matched
      exact nonempty rfl
  | cons item input induction =>
      simp only [repeatThen, Bool.and_eq_true, Bool.or_eq_true, induction]
      constructor
      · intro matched
        rcases matched with ⟨accepted, longer | stops⟩
        · obtain ⟨word, rest, equality, _, all, finished⟩ := longer
          subst equality
          exact ⟨item :: word, rest, rfl, by simp,
            List.forall_mem_cons.mpr ⟨accepted, all⟩, finished⟩
        · exact ⟨[item], input, rfl, by simp, by simpa using accepted, stops⟩
      · intro matched
        obtain ⟨word, rest, split, nonempty, all, finished⟩ := matched
        cases word with
        | nil => exact (nonempty rfl).elim
        | cons first word =>
            obtain ⟨rfl, rfl⟩ : item = first ∧ input = word ++ rest := by
              simpa using split
            obtain ⟨accepted, tailAccepted⟩ := List.forall_mem_cons.mp all
            refine ⟨accepted, ?_⟩
            by_cases last : word = []
            · subst word
              exact .inr finished
            · exact .inl ⟨word, rest, rfl, last, tailAccepted, finished⟩

/-- The backtracking matcher finds exactly the prefixes that the pattern
describes and whose continuation succeeds. -/
theorem matchThen_iff
    {pattern : Pattern α} {next : List α → Bool} {input : List α} :
    pattern.matchThen next input = true ↔
      ∃ word rest, input = word ++ rest ∧
        pattern.Matches word ∧ next rest = true := by
  induction pattern generalizing next input with
  | one accepts =>
      cases input with
      | nil => simp [matchThen, matches_one_iff]
      | cons item input =>
          simp only [matchThen, Bool.and_eq_true, matches_one_iff]
          constructor
          · intro matched
            obtain ⟨accepted, finished⟩ := matched
            exact ⟨[item], input, rfl, ⟨item, rfl, accepted⟩, finished⟩
          · intro matched
            obtain ⟨_, rest, split, ⟨first, equality, accepted⟩, finished⟩ :=
              matched
            subst equality
            obtain ⟨rfl, rfl⟩ : item = first ∧ input = rest := by
              simpa using split
            exact ⟨accepted, finished⟩
  | oneOrMore accepts =>
      simp only [matchThen, repeatThen_iff, matches_oneOrMore_iff, and_assoc]
  | seq first second firstInduction secondInduction =>
      simp only [matchThen, firstInduction, secondInduction, matches_seq_iff]
      constructor
      · intro matched
        obtain ⟨left, _, rfl, leftMatched, right, rest, rfl, rightMatched,
          finished⟩ := matched
        exact ⟨left ++ right, rest, (List.append_assoc ..).symm,
          ⟨left, right, rfl, leftMatched, rightMatched⟩, finished⟩
      · intro matched
        obtain ⟨_, rest, rfl, ⟨left, right, rfl, leftMatched, rightMatched⟩,
          finished⟩ := matched
        exact ⟨left, right ++ rest, List.append_assoc .., leftMatched,
          right, rest, rfl, rightMatched, finished⟩

/-- Some prefix of the input matches. -/
def startsMatch (pattern : Pattern α) (input : List α) : Bool :=
  pattern.matchThen (fun _ => true) input

theorem startsMatch_iff {pattern : Pattern α} {input : List α} :
    pattern.startsMatch input = true ↔
      ∃ word rest, input = word ++ rest ∧ pattern.Matches word := by
  simp [startsMatch, matchThen_iff]

/-- Position of the leftmost match. -/
def firstMatch (pattern : Pattern α) (input : List α) : Option Nat :=
  input.tails.findIdx? pattern.startsMatch

/-- No match begins inside `before` when `rest` follows it. -/
def noMatchBefore (pattern : Pattern α) : List α → List α → Bool
  | [], _ => true
  | item :: before, rest =>
      !pattern.startsMatch (item :: (before ++ rest)) &&
        pattern.noMatchBefore before rest

section Search

variable {pattern : Pattern α}

@[simp] theorem noMatchBefore_nil (rest : List α) :
    pattern.noMatchBefore [] rest = true := rfl

theorem noMatchBefore_cons_iff {item : α} {before rest : List α} :
    pattern.noMatchBefore (item :: before) rest = true ↔
      pattern.startsMatch (item :: (before ++ rest)) = false ∧
        pattern.noMatchBefore before rest = true := by
  simp [noMatchBefore]

theorem noMatchBefore_append_iff {left right rest : List α} :
    pattern.noMatchBefore (left ++ right) rest = true ↔
      pattern.noMatchBefore left (right ++ rest) = true ∧
        pattern.noMatchBefore right rest = true := by
  induction left with
  | nil => simp
  | cons item left induction =>
      simp [noMatchBefore_cons_iff, induction, and_assoc]

theorem noMatchBefore_iff_forall_suffix {before rest : List α} :
    pattern.noMatchBefore before rest = true ↔
      ∀ later, later <:+ before → later ≠ [] →
        pattern.startsMatch (later ++ rest) = false := by
  induction before with
  | nil =>
      simp only [noMatchBefore_nil, List.suffix_nil, true_iff]
      intro later empty nonempty
      exact (nonempty empty).elim
  | cons item before induction =>
      rw [noMatchBefore_cons_iff, induction]
      constructor
      · intro blocked later suffix nonempty
        rcases List.suffix_cons_iff.mp suffix with whole | inside
        · subst whole
          exact blocked.1
        · exact blocked.2 later inside nonempty
      · intro blocked
        constructor
        · exact blocked (item :: before) List.suffix_rfl
            (List.cons_ne_nil _ _)
        · intro later suffix nonempty
          apply blocked later _ nonempty
          exact suffix.trans (List.suffix_cons item before)

theorem firstMatch_cons (item : α) (input : List α) :
    pattern.firstMatch (item :: input) =
      if pattern.startsMatch (item :: input) then some 0
      else (pattern.firstMatch input).map (· + 1) := by
  simp [firstMatch, List.findIdx?_cons]

theorem firstMatch_append_of_noMatchBefore {before rest : List α}
    (quiet : pattern.noMatchBefore before rest = true)
    (starts : pattern.startsMatch rest = true) :
    pattern.firstMatch (before ++ rest) = some before.length := by
  induction before with
  | nil =>
      cases rest with
      | nil => simp [firstMatch, starts]
      | cons item rest => simp [firstMatch_cons, starts]
  | cons item before induction =>
      obtain ⟨head, tail⟩ := noMatchBefore_cons_iff.mp quiet
      simp [firstMatch_cons, head, induction tail]

theorem firstMatch_eq_some {input : List α} {index : Nat}
    (found : pattern.firstMatch input = some index) :
    ∃ before rest, input = before ++ rest ∧ before.length = index ∧
      pattern.noMatchBefore before rest = true ∧
      pattern.startsMatch rest = true := by
  induction input generalizing index with
  | nil =>
      by_cases starts : pattern.startsMatch [] = true
      · obtain rfl : 0 = index := by
          simpa [firstMatch, List.findIdx?_cons, starts] using found
        exact ⟨[], [], rfl, rfl, rfl, starts⟩
      · simp [firstMatch, List.findIdx?_cons, starts] at found
  | cons item input induction =>
      rw [firstMatch_cons] at found
      by_cases starts : pattern.startsMatch (item :: input) = true
      · obtain rfl : 0 = index := by simpa [starts] using found
        exact ⟨[], item :: input, rfl, rfl, rfl, starts⟩
      · rw [if_neg starts] at found
        obtain ⟨previous, later, equality⟩ := Option.map_eq_some_iff.mp found
        subst equality
        obtain ⟨before, rest, rfl, rfl, quiet, matched⟩ := induction later
        exact ⟨item :: before, rest, rfl, rfl,
          noMatchBefore_cons_iff.mpr ⟨by simpa using starts, quiet⟩, matched⟩

end Search

end Pattern

end Library
