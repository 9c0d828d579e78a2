import Douban.Library.Pattern
import Douban.Library.Fields

/-!
# Dart strings

A Dart string is a sequence of UTF-16 code units; indices, separators and
regular-expression classes all speak about code units.  This module embeds the
string operations of the core library that the application calls, with the
errors they raise.
-/

namespace Douban.Dart

/-- The errors that the modelled code can raise. -/
inductive DartError where
  | noSuchMethodError
  | castError
  | typeError
  | rangeError
  | formatException
  | dioError (message : List UInt16)
  deriving DecidableEq, Repr

abbrev CodeUnit := UInt16

abbrev DartString := List CodeUnit

/-- The code unit of a character of the basic multilingual plane. -/
def unit (character : Char) : CodeUnit := character.toNat.toUInt16

/-- A string literal of the source; all of them stay inside that plane. -/
def units (literal : String) : DartString := literal.toList.map unit

instance : Coe String DartString := ⟨units⟩

/-- A property of all items of a list is decided on the list, also where the
items have a type that could be searched. -/
instance (priority := high) decidableForallMem {α : Type}
    {property : α → Prop} [DecidablePred property] (items : List α) :
    Decidable (∀ item ∈ items, property item) :=
  List.decidableBAll property items

def CodeUnit.inRange (unit : CodeUnit) (low high : Char) : Bool :=
  low.toNat ≤ unit.toNat && unit.toNat ≤ high.toNat

/-- `items[index]` on a list. -/
def elementAt {α : Type} (items : List α) (index : Nat) :
    Except DartError α :=
  match items[index]? with
  | some item => .ok item
  | none => .error .rangeError

/-- `text.split(separator)` for a separator of one code unit. -/
def split (text : DartString) (separator : CodeUnit) : List DartString :=
  text.splitOn separator

/-- `text.indexOf(RegExp(...))`: the start of the leftmost match, or `-1`. -/
def indexOf (text : DartString) (pattern : Library.Pattern CodeUnit) : Int :=
  match pattern.firstMatch text with
  | some index => index
  | none => -1

/-- `text.substring(start)`. -/
def substring (text : DartString) (start : Int) :
    Except DartError DartString :=
  if 0 ≤ start ∧ start ≤ text.length then
    .ok (text.drop start.toNat)
  else
    .error .rangeError

/-- `text.replaceFirst(target, replacement)` for a target of one code unit. -/
def replaceFirst (target : CodeUnit) (replacement : DartString) :
    DartString → DartString
  | [] => []
  | unit :: rest =>
      if unit = target then replacement ++ rest
      else unit :: replaceFirst target replacement rest

/-- The class `.` of a regular expression: one code unit that does not end a
line.  A character outside the basic multilingual plane is two code units. -/
def anyUnit (character : CodeUnit) : Bool :=
  character != unit '\n' && character != unit '\r' &&
    character != unit '\u2028' && character != unit '\u2029'

theorem indexOf_append {pattern : Library.Pattern CodeUnit}
    {before rest : DartString}
    (quiet : pattern.noMatchBefore before rest = true)
    (starts : pattern.startsMatch rest = true) :
    indexOf (before ++ rest) pattern = before.length := by
  simp [indexOf, Library.Pattern.firstMatch_append_of_noMatchBefore quiet
    starts]

theorem substring_append (before rest : DartString) :
    substring (before ++ rest) before.length = .ok rest := by
  have inRange : (0 : Int) ≤ before.length ∧
      (before.length : Int) ≤ (before ++ rest).length := by
    simp only [List.length_append]
    omega
  rw [substring, if_pos inRange]
  simp

/-- `text.substring(text.indexOf(pattern))` returns what begins at the leftmost
match, and raises when there is none. -/
theorem substring_indexOf_eq_ok_iff {pattern : Library.Pattern CodeUnit}
    {text found : DartString} :
    substring text (indexOf text pattern) = .ok found ↔
      ∃ before, text = before ++ found ∧
        pattern.noMatchBefore before found = true ∧
        pattern.startsMatch found = true := by
  constructor
  · intro taken
    cases search : pattern.firstMatch text with
    | none => simp [indexOf, search, substring] at taken
    | some index =>
        obtain ⟨before, rest, rfl, rfl, quiet, starts⟩ :=
          Library.Pattern.firstMatch_eq_some search
        rw [indexOf_append quiet starts, substring_append] at taken
        cases taken
        exact ⟨before, rfl, quiet, starts⟩
  · intro found
    obtain ⟨before, equality, quiet, starts⟩ := found
    subst equality
    rw [indexOf_append quiet starts, substring_append]

theorem replaceFirst_of_not_mem {target : CodeUnit}
    {replacement text : DartString} (absent : target ∉ text) :
    replaceFirst target replacement text = text := by
  induction text with
  | nil => rfl
  | cons unit text induction =>
      have different : unit ≠ target := by
        intro same
        subst same
        simp at absent
      simp [replaceFirst, different,
        induction fun member => absent (List.mem_cons_of_mem _ member)]

theorem replaceFirst_append_cons_of_not_mem {target : CodeUnit}
    {replacement before : DartString} (absent : target ∉ before)
    (after : DartString) :
    replaceFirst target replacement (before ++ target :: after) =
      before ++ replacement ++ after := by
  induction before with
  | nil => simp [replaceFirst]
  | cons unit before induction =>
      have different : unit ≠ target := by
        intro same
        subst same
        simp at absent
      simp [replaceFirst, different,
        induction fun member => absent (List.mem_cons_of_mem _ member)]

theorem mem_replaceFirst_nil_of_ne {target unit : CodeUnit}
    {text : DartString} (different : unit ≠ target) (member : unit ∈ text) :
    unit ∈ replaceFirst target [] text := by
  induction text with
  | nil => cases member
  | cons head text induction =>
      rcases List.mem_cons.mp member with rfl | later
      · simp [replaceFirst, different]
      · by_cases removed : head = target
        · simpa [replaceFirst, removed] using later
        · simp [replaceFirst, removed, induction later]

theorem elementAt_eq_ok_iff {α : Type} {items : List α} {index : Nat}
    {item : α} :
    elementAt items index = .ok item ↔ items[index]? = some item := by
  unfold elementAt
  split <;> simp_all

end Douban.Dart
