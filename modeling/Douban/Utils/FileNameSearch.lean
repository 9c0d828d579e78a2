import Douban.Utils.Log
import Douban.Library.Traversal

/-!
# What the search for a file name finds

The regular expression is unanchored, its dot is not escaped and its class has
no digits.  `BeginsMatch` and `Quiet` say without the matcher where its matches
begin; the rest of the development speaks of the search in these terms.
-/

namespace Douban

open Dart Library

/-- `A` to `Z`, `a` to `z` and `_`. -/
def NameLetter (character : CodeUnit) : Prop :=
  ('A'.toNat ≤ character.toNat ∧ character.toNat ≤ 'Z'.toNat) ∨
    ('a'.toNat ≤ character.toNat ∧ character.toNat ≤ 'z'.toNat) ∨
    character = unit '_'

instance (character : CodeUnit) : Decidable (NameLetter character) :=
  inferInstanceAs (Decidable (_ ∨ _ ∨ _))

def LineTerminator (character : CodeUnit) : Prop :=
  character = unit '\n' ∨ character = unit '\r' ∨
    character = unit '\u2028' ∨ character = unit '\u2029'

instance (character : CodeUnit) : Decidable (LineTerminator character) :=
  inferInstanceAs (Decidable (_ ∨ _ ∨ _ ∨ _))

/-- A nonempty run of letters and underscores, one code unit that need not be a
dot, and the text `dart`. -/
def BeginsMatch (text : DartString) : Prop :=
  ∃ run any rest, text = run ++ any :: (units "dart" ++ rest) ∧ run ≠ [] ∧
    (∀ character ∈ run, NameLetter character) ∧ ¬ LineTerminator any

/-- No match begins inside `before` when `rest` follows it. -/
def Quiet (before rest : DartString) : Prop :=
  ∀ later, later <:+ before → later ≠ [] → ¬ BeginsMatch (later ++ rest)

/-! ## The matcher -/

theorem letterUnit_iff {character : CodeUnit} :
    letterUnit character = true ↔ NameLetter character := by
  simp [letterUnit, CodeUnit.inRange, NameLetter, or_assoc]

theorem anyUnit_iff {character : CodeUnit} :
    anyUnit character = true ↔ ¬ LineTerminator character := by
  simp [anyUnit, LineTerminator, and_assoc]

theorem startsMatch_iff_beginsMatch {text : DartString} :
    fileNamePattern.startsMatch text = true ↔ BeginsMatch text := by
  simp only [Pattern.startsMatch_iff, fileNamePattern,
    Pattern.matches_seq_iff, Pattern.matches_oneOrMore_iff,
    Pattern.matches_one_iff, Pattern.matches_literal_iff, letterUnit_iff,
    anyUnit_iff]
  constructor
  · intro matched
    obtain ⟨_, rest, rfl, run, _, rfl, ⟨nonempty, letters⟩, _, _, rfl,
      ⟨any, rfl, accepted⟩, rfl⟩ := matched
    refine ⟨run, any, rest, ?_, nonempty, letters, accepted⟩
    simp only [List.append_assoc]
    rfl
  · intro matched
    obtain ⟨run, any, rest, equality, nonempty, letters, accepted⟩ := matched
    subst equality
    refine ⟨run ++ ([any] ++ units "dart"), rest, ?_, run, _, rfl,
      ⟨nonempty, letters⟩, [any], units "dart", rfl, ⟨any, rfl, accepted⟩, rfl⟩
    simp

theorem noMatchBefore_iff_quiet {before rest : DartString} :
    fileNamePattern.noMatchBefore before rest = true ↔ Quiet before rest := by
  simp only [Pattern.noMatchBefore_iff_forall_suffix, Quiet,
    ← startsMatch_iff_beginsMatch, Bool.not_eq_true]

/-! ## Where a match begins -/

theorem BeginsMatch.head {text : DartString} (begins : BeginsMatch text) :
    ∃ letter tail, text = letter :: tail ∧ NameLetter letter := by
  obtain ⟨run, any, rest, equality, nonempty, letters, _⟩ := begins
  subst equality
  cases run with
  | nil => exact (nonempty rfl).elim
  | cons letter run => exact ⟨letter, _, rfl, letters letter (by simp)⟩

theorem not_beginsMatch_cons {head : CodeUnit} (notLetter : ¬ NameLetter head)
    (tail : DartString) : ¬ BeginsMatch (head :: tail) := by
  intro begins
  obtain ⟨letter, rest, equality, isLetter⟩ := begins.head
  obtain ⟨same, _⟩ := List.cons.inj equality
  subst same
  exact notLetter isLetter

theorem BeginsMatch.dart_infix {text : DartString}
    (begins : BeginsMatch text) : units "dart" <:+: text := by
  obtain ⟨run, any, rest, equality, _, _, _⟩ := begins
  subst equality
  exact ⟨run ++ [any], rest, by simp⟩

theorem BeginsMatch.append {text : DartString} (begins : BeginsMatch text)
    (rest : DartString) : BeginsMatch (text ++ rest) := by
  obtain ⟨run, any, tail, equality, nonempty, letters, accepted⟩ := begins
  refine ⟨run, any, tail ++ rest, ?_, nonempty, letters, accepted⟩
  rw [equality]
  simp only [List.append_assoc, List.cons_append]

/-- A match that begins before an extension ends before it too, or takes all of
the text as its run and the dot of the extension as its own. -/
theorem beginsMatch_extension_iff (text rest : DartString) :
    BeginsMatch (text ++ (units ".dart" ++ rest)) ↔
      BeginsMatch text ∨
        (text ≠ [] ∧ ∀ character ∈ text, NameLetter character) := by
  have extension : units ".dart" = unit '.' :: units "dart" := by decide
  rw [extension, List.cons_append]
  constructor
  · intro begins
    obtain ⟨run, any, after, equality, nonempty, letters, accepted⟩ := begins
    rcases append_eq_append_cases equality with
      ⟨inside, insideNonempty, rfl, found⟩ | ⟨later, rfl, found⟩
    · cases inside with
      | nil => exact (insideNonempty rfl).elim
      | cons first inside =>
          obtain ⟨sameItem, word⟩ := List.cons.inj found
          subst sameItem
          -- The dot of the extension is none of the letters of `dart`.
          have noDot : unit '.' ∉ units "dart" := by decide
          obtain ⟨last, equality, _⟩ := skip_of_not_mem noDot word
          subst equality
          exact .inl ⟨run, any, last, rfl, nonempty, letters, accepted⟩
    · cases later with
      | nil =>
          rw [List.append_nil] at nonempty letters
          exact .inr ⟨nonempty, letters⟩
      | cons dot later =>
          obtain ⟨sameItem, _⟩ := List.cons.inj found
          subst sameItem
          have notLetter : ¬ NameLetter (unit '.') := by decide
          exact (notLetter (letters (unit '.')
            (List.mem_append_right text List.mem_cons_self))).elim
  · intro choices
    rcases choices with begins | ⟨nonempty, letters⟩
    · exact begins.append _
    · exact ⟨text, unit '.', rest, rfl, nonempty, letters, by decide⟩

/-! ## Quiet texts -/

theorem quiet_append_iff {left right rest : DartString} :
    Quiet (left ++ right) rest ↔
      Quiet left (right ++ rest) ∧ Quiet right rest := by
  simp only [← noMatchBefore_iff_quiet, Pattern.noMatchBefore_append_iff]

theorem quiet_of_no_letters {before : DartString}
    (noLetters : ∀ character ∈ before, ¬ NameLetter character)
    (rest : DartString) : Quiet before rest := by
  intro later suffix nonempty
  cases later with
  | nil => exact (nonempty rfl).elim
  | cons head later =>
      exact not_beginsMatch_cons
        (noLetters head (suffix.subset List.mem_cons_self)) _

namespace DSCustomTrace

theorem parseFileInfo_eq_ok_iff {fileInfo : DartString}
    {info : DSCustomTrace} :
    parseFileInfo fileInfo = .ok info ↔
      ∃ lineText columnText fields,
        fileInfo.splitOn (unit ':') =
          info.fileName :: lineText :: columnText :: fields ∧
        intParse lineText = .ok info.lineNumber ∧
        intParse (replaceFirst (unit ')') [] columnText) =
          .ok info.columnNumber := by
  simp only [parseFileInfo, split, bind_eq_ok_iff, elementAt_eq_ok_iff,
    pure_eq_ok, Except.ok.injEq]
  constructor
  · intro read
    obtain ⟨fileName, first, lineText, second, line, lineRead, columnText,
      third, column, columnRead, equality⟩ := read
    subst equality
    cases fields : fileInfo.splitOn (unit ':') with
    | nil => simp [fields] at first
    | cons field others =>
        rw [fields] at first second third
        cases others with
        | nil => simp at second
        | cons field' others =>
            cases others with
            | nil => simp at third
            | cons field'' others =>
                cases first
                cases second
                cases third
                exact ⟨_, _, _, rfl, lineRead, columnRead⟩
  · intro read
    obtain ⟨lineText, columnText, fields, split, lineRead, columnRead⟩ := read
    rw [split]
    exact ⟨_, rfl, lineText, rfl, _, lineRead, columnText, rfl, _,
      columnRead, rfl⟩

/-- The parser reads what begins at the leftmost match of the first line. -/
theorem parseTrace_eq_ok_iff {trace : StackTrace} {line : DartString}
    {info : DSCustomTrace}
    (firstLine : elementAt (split trace.text (unit '\n')) 0 = .ok line) :
    parseTrace trace = .ok info ↔
      ∃ before found, line = before ++ found ∧ Quiet before found ∧
        BeginsMatch found ∧ parseFileInfo found = .ok info := by
  simp only [parseTrace, firstLine, ok_bind, bind_eq_ok_iff,
    substring_indexOf_eq_ok_iff, noMatchBefore_iff_quiet,
    startsMatch_iff_beginsMatch]
  constructor
  · intro read
    obtain ⟨found, ⟨before, whole, quiet, starts⟩, parsed⟩ := read
    exact ⟨before, found, whole, quiet, starts, parsed⟩
  · intro read
    obtain ⟨before, found, whole, quiet, starts, parsed⟩ := read
    exact ⟨found, ⟨before, whole, quiet, starts⟩, parsed⟩

end DSCustomTrace

end Douban
