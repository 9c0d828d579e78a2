import Douban.Dart.Text
import Mathlib.Data.List.DropRight
import Mathlib.Tactic.IntervalCases

/-!
# Dart numbers

On the native platforms a Dart `int` is a signed 64-bit integer and a `double`
is an IEEE 754 binary64.  `intParse` follows the documented `int.parse`:
surrounding white space and a sign are accepted, `0x` introduces hexadecimal
digits, and a literal outside the 64-bit range is a `FormatException`.
-/

namespace Douban.Dart

/-- Decimal digits of a natural number, as `toString` prints them. -/
def decimal (value : Nat) : DartString :=
  (Nat.toDigits 10 value).map unit

/-- `toString` of an integer. -/
def showInt (value : Int) : DartString :=
  if value < 0 then "-" ++ decimal value.natAbs else decimal value.natAbs

/-- The code units that `int.parse` trims. -/
def isWhitespace (unit : CodeUnit) : Bool :=
  let code := unit.toNat
  (9 ≤ code && code ≤ 13) || code == 0x20 || code == 0x85 || code == 0xA0 ||
    code == 0x1680 || (0x2000 ≤ code && code ≤ 0x200A) || code == 0x2028 ||
    code == 0x2029 || code == 0x202F || code == 0x205F || code == 0x3000 ||
    code == 0xFEFF

def trim (text : DartString) : DartString :=
  (text.dropWhile isWhitespace).rdropWhile isWhitespace

def alphanumericValue? (unit : CodeUnit) : Option Nat :=
  if unit.inRange '0' '9' then some (unit.toNat - '0'.toNat)
  else if unit.inRange 'a' 'z' then some (unit.toNat - 'a'.toNat + 10)
  else if unit.inRange 'A' 'Z' then some (unit.toNat - 'A'.toNat + 10)
  else none

def digitValue? (radix : Nat) (unit : CodeUnit) : Option Nat :=
  (alphanumericValue? unit).filter (· < radix)

/-- Value of a digit sequence, continuing from the value read so far. -/
def parseDigitsFrom (radix : Nat) (value : Nat) :
    DartString → Option Nat
  | [] => some value
  | unit :: rest =>
      match digitValue? radix unit with
      | some digit => parseDigitsFrom radix (radix * value + digit) rest
      | none => none

/-- Value of a nonempty digit sequence. -/
def parseDigits (radix : Nat) (text : DartString) : Option Nat :=
  if text.isEmpty then none else parseDigitsFrom radix 0 text

/-- A signed decimal literal, within the 64-bit range. -/
def parseDecimalLiteral (negative : Bool) (text : DartString) : Option Int :=
  match parseDigits 10 text with
  | none => none
  | some value =>
      if negative then
        if value ≤ 2 ^ 63 then some (-value) else none
      else
        if value < 2 ^ 63 then some value else none

/-- Hexadecimal digits.  Without a minus sign they may use all 64 bits and
stand for the signed integer with that representation. -/
def parseHexLiteral (negative : Bool) (text : DartString) : Option Int :=
  match parseDigits 16 text with
  | none => none
  | some value =>
      if negative then
        if value ≤ 2 ^ 63 then some (-value) else none
      else if value < 2 ^ 63 then some value
      else if value < 2 ^ 64 then some (value - 2 ^ 64)
      else none

def parseMagnitude (negative : Bool) (text : DartString) : Option Int :=
  match text with
  | zero :: marker :: digits =>
      if zero = unit '0' ∧ (marker = unit 'x' ∨ marker = unit 'X') then
        parseHexLiteral negative digits
      else
        parseDecimalLiteral negative text
  | _ => parseDecimalLiteral negative text

def parseSigned (text : DartString) : Option Int :=
  match text with
  | [] => none
  | sign :: rest =>
      if sign = unit '+' then parseMagnitude false rest
      else if sign = unit '-' then parseMagnitude true rest
      else parseMagnitude false text

/-- `int.parse(text)`. -/
def intParse (text : DartString) : Except DartError Int :=
  match parseSigned (trim text) with
  | some value => .ok value
  | none => .error .formatException

/-! ## Code units of a numeral -/

/-- The code units that can occur in a text accepted by `int.parse`. -/
def numeralUnit (character : CodeUnit) : Bool :=
  isWhitespace character || character == unit '+' || character == unit '-' ||
    character == unit 'x' || character == unit 'X' ||
    (digitValue? 16 character).isSome

private theorem numeralUnit_of_digit {radix digit : Nat} {unit : CodeUnit}
    (small : radix ≤ 16) (value : digitValue? radix unit = some digit) :
    numeralUnit unit = true := by
  have hexadecimal : (digitValue? 16 unit).isSome = true := by
    unfold digitValue? at value ⊢
    obtain ⟨read, below⟩ := Option.filter_eq_some_iff.mp value
    have bound : digit < 16 := by
      have belowRadix : digit < radix := by simpa using below
      omega
    simp [read, bound]
  simp [numeralUnit, hexadecimal]

private theorem parseDigitsFrom_units {radix : Nat} (small : radix ≤ 16)
    {text : DartString} {start value : Nat}
    (parsed : parseDigitsFrom radix start text = some value) :
    ∀ unit ∈ text, numeralUnit unit = true := by
  induction text generalizing start with
  | nil => simp
  | cons head rest induction =>
      unfold parseDigitsFrom at parsed
      cases digit : digitValue? radix head with
      | none => simp [digit] at parsed
      | some first =>
          simp only [digit] at parsed
          rw [List.forall_mem_cons]
          constructor
          · exact numeralUnit_of_digit small digit
          · exact induction parsed

private theorem parseDigits_units {radix : Nat} (small : radix ≤ 16)
    {text : DartString} {value : Nat}
    (parsed : parseDigits radix text = some value) :
    ∀ unit ∈ text, numeralUnit unit = true := by
  unfold parseDigits at parsed
  split at parsed
  · cases parsed
  · exact parseDigitsFrom_units small parsed

private theorem parseDecimalLiteral_units {negative : Bool}
    {text : DartString} {value : Int}
    (parsed : parseDecimalLiteral negative text = some value) :
    ∀ unit ∈ text, numeralUnit unit = true := by
  unfold parseDecimalLiteral at parsed
  cases digits : parseDigits 10 text with
  | none => simp [digits] at parsed
  | some magnitude => exact parseDigits_units (by omega) digits

private theorem parseHexLiteral_units {negative : Bool}
    {text : DartString} {value : Int}
    (parsed : parseHexLiteral negative text = some value) :
    ∀ unit ∈ text, numeralUnit unit = true := by
  unfold parseHexLiteral at parsed
  cases digits : parseDigits 16 text with
  | none => simp [digits] at parsed
  | some magnitude => exact parseDigits_units (by omega) digits

private theorem parseMagnitude_units {negative : Bool}
    {text : DartString} {value : Int}
    (parsed : parseMagnitude negative text = some value) :
    ∀ unit ∈ text, numeralUnit unit = true := by
  unfold parseMagnitude at parsed
  split at parsed
  · rename_i zero marker digits
    split at parsed
    · rename_i hexadecimal
      obtain ⟨equality, marked⟩ := hexadecimal
      subst equality
      have digitUnits := parseHexLiteral_units parsed
      have markerUnit : numeralUnit marker = true := by
        rcases marked with rfl | rfl <;> decide
      rw [List.forall_mem_cons]
      refine ⟨by decide, ?_⟩
      rw [List.forall_mem_cons]
      exact ⟨markerUnit, digitUnits⟩
    · exact parseDecimalLiteral_units parsed
  · exact parseDecimalLiteral_units parsed

private theorem parseSigned_units {text : DartString} {value : Int}
    (parsed : parseSigned text = some value) :
    ∀ unit ∈ text, numeralUnit unit = true := by
  unfold parseSigned at parsed
  split at parsed
  · simp
  · rename_i sign rest
    split at parsed
    · rename_i plus
      subst plus
      rw [List.forall_mem_cons]
      exact ⟨by decide, parseMagnitude_units parsed⟩
    · split at parsed
      · rename_i minus
        subst minus
        rw [List.forall_mem_cons]
        exact ⟨by decide, parseMagnitude_units parsed⟩
      · exact parseMagnitude_units parsed

private theorem isWhitespace_or_mem_trim {text : DartString}
    {unit : CodeUnit} (member : unit ∈ text) :
    isWhitespace unit = true ∨ unit ∈ trim text := by
  by_cases blank : isWhitespace unit = true
  · exact .inl blank
  · right
    have inDropped : unit ∈ text.dropWhile isWhitespace := by
      rw [← List.takeWhile_append_dropWhile (p := isWhitespace) (l := text),
        List.mem_append] at member
      rcases member with early | late
      · exact (blank (List.mem_takeWhile_imp early)).elim
      · exact late
    have split := List.rdropWhile_append_rtakeWhile (p := isWhitespace)
      (l := text.dropWhile isWhitespace)
    rw [← split, List.mem_append] at inDropped
    rcases inDropped with early | late
    · exact early
    · exact (blank (List.mem_rtakeWhile_imp late)).elim

theorem numeralUnit_of_intParse_eq_ok {text : DartString} {value : Int}
    (parsed : intParse text = .ok value) :
    ∀ unit ∈ text, numeralUnit unit = true := by
  intro unit member
  unfold intParse at parsed
  cases signed : parseSigned (trim text) with
  | none => simp [signed] at parsed
  | some read =>
      rcases isWhitespace_or_mem_trim member with blank | kept
      · simp [numeralUnit, blank]
      · exact parseSigned_units signed unit kept

/-! ## Printing and reading back -/

def decimalDigits : List Char := "0123456789".toList

private theorem mem_decimalDigits_of_isDigit {character : Char}
    (digit : character.isDigit = true) : character ∈ decimalDigits := by
  obtain ⟨low, high⟩ := Char.isDigit_iff_toNat.mp digit
  have restored : Char.ofNat character.toNat = character :=
    Char.ofNat_toNat character
  generalize character.toNat = code at low high restored
  subst restored
  have bounds : 48 ≤ code ∧ code ≤ 57 := ⟨low, high⟩
  clear digit low high
  obtain ⟨low, high⟩ := bounds
  interval_cases code <;> decide

private theorem digitValue?_unit {character : Char}
    (digit : character.isDigit = true) :
    digitValue? 10 (unit character) =
      some (character.toNat - '0'.toNat) := by
  have values : ∀ character ∈ decimalDigits,
      digitValue? 10 (unit character) =
        some (character.toNat - '0'.toNat) := by decide
  exact values character (mem_decimalDigits_of_isDigit digit)

private theorem parseDigitsFrom_map_unit (characters : List Char)
    (digits : ∀ character ∈ characters, character.isDigit = true)
    (start : Nat) :
    parseDigitsFrom 10 start (characters.map unit) =
      some (Nat.ofDigitChars 10 characters start) := by
  induction characters generalizing start with
  | nil => rfl
  | cons character characters induction =>
      obtain ⟨head, tail⟩ := List.forall_mem_cons.mp digits
      simp only [List.map_cons, parseDigitsFrom, digitValue?_unit head,
        Nat.ofDigitChars_cons]
      exact induction tail _

private theorem isDigit_of_mem_toDigits (value : Nat) :
    ∀ character ∈ Nat.toDigits 10 value, character.isDigit = true := by
  intro character member
  exact Nat.isDigit_of_mem_toDigits (by omega) (by omega) member

theorem forall_mem_decimal {property : CodeUnit → Prop}
    (digits : ∀ character ∈ decimalDigits, property (unit character))
    (value : Nat) :
    ∀ character ∈ decimal value, property character := by
  intro character member
  obtain ⟨digit, digitMember, equality⟩ := List.mem_map.mp member
  subst equality
  apply digits
  exact mem_decimalDigits_of_isDigit
    (isDigit_of_mem_toDigits value digit digitMember)

theorem not_mem_decimal {character : CodeUnit}
    (foreign : ∀ digit ∈ decimalDigits, unit digit ≠ character)
    (value : Nat) : character ∉ decimal value := by
  have different : ∀ digit ∈ decimal value, digit ≠ character :=
    forall_mem_decimal foreign value
  intro member
  exact different character member rfl

theorem decimal_ne_nil (value : Nat) : decimal value ≠ [] := by
  simp [decimal, Nat.toDigits_ne_nil]

theorem parseDigits_decimal (value : Nat) :
    parseDigits 10 (decimal value) = some value := by
  have nonempty : (decimal value).isEmpty = false := by
    simpa using decimal_ne_nil value
  rw [parseDigits, nonempty]
  simp only [Bool.false_eq_true, if_false]
  rw [decimal, parseDigitsFrom_map_unit _ (isDigit_of_mem_toDigits value)]
  simp [Nat.ofDigitChars_ten_toDigits]

private theorem plain_of_mem_decimal (value : Nat) :
    ∀ character ∈ decimal value,
      isWhitespace character = false ∧ character ≠ unit '+' ∧
        character ≠ unit '-' ∧ character ≠ unit 'x' ∧
        character ≠ unit 'X' :=
  forall_mem_decimal (by decide) value

private theorem trim_decimal (value : Nat) :
    trim (decimal value) = decimal value := by
  have plain : ∀ character ∈ decimal value,
      isWhitespace character = false := by
    intro character member
    exact (plain_of_mem_decimal value character member).1
  have left : (decimal value).dropWhile isWhitespace = decimal value := by
    apply List.dropWhile_eq_self_iff.mpr
    intro nonempty
    simp [plain _ (List.getElem_mem nonempty)]
  rw [trim, left]
  apply List.rdropWhile_eq_self_iff.mpr
  intro nonempty
  simp [plain _ (List.getLast_mem nonempty)]

private theorem parseSigned_decimal (value : Nat) :
    parseSigned (decimal value) =
      parseDecimalLiteral false (decimal value) := by
  cases text : decimal value with
  | nil => exact (decimal_ne_nil value text).elim
  | cons first rest =>
      have plain := plain_of_mem_decimal value
      rw [text] at plain
      obtain ⟨_, notPlus, notMinus, _, _⟩ := plain first (by simp)
      rw [parseSigned, if_neg notPlus, if_neg notMinus]
      cases rest with
      | nil => rfl
      | cons second rest =>
          obtain ⟨_, _, _, notLower, notUpper⟩ := plain second (by simp)
          simp [parseMagnitude, notLower, notUpper]

/-- Reading a printed natural number back fails exactly when it does not fit
into 64 bits. -/
theorem intParse_decimal (value : Nat) :
    intParse (decimal value) =
      if value < 2 ^ 63 then .ok (value : Int)
      else .error .formatException := by
  simp only [intParse, trim_decimal, parseSigned_decimal,
    parseDecimalLiteral, parseDigits_decimal]
  by_cases fits : value < 2 ^ 63
  · simp only [fits, if_true, Bool.false_eq_true, if_false]
  · simp only [fits, if_false, Bool.false_eq_true]

/-! ## The range of `int.parse` -/

/-- The values of a Dart `int`. -/
def IsInt64 (value : Int) : Prop := -2 ^ 63 ≤ value ∧ value < 2 ^ 63

private theorem isInt64_of_decimalLiteral {negative : Bool}
    {text : DartString} {value : Int}
    (parsed : parseDecimalLiteral negative text = some value) :
    IsInt64 value := by
  unfold parseDecimalLiteral at parsed
  unfold IsInt64
  grind

private theorem isInt64_of_hexLiteral {negative : Bool} {text : DartString}
    {value : Int} (parsed : parseHexLiteral negative text = some value) :
    IsInt64 value := by
  unfold parseHexLiteral at parsed
  unfold IsInt64
  grind

private theorem isInt64_of_magnitude {negative : Bool} {text : DartString}
    {value : Int} (parsed : parseMagnitude negative text = some value) :
    IsInt64 value := by
  unfold parseMagnitude at parsed
  split at parsed
  · split at parsed
    · exact isInt64_of_hexLiteral parsed
    · exact isInt64_of_decimalLiteral parsed
  · exact isInt64_of_decimalLiteral parsed

theorem isInt64_of_intParse {text : DartString} {value : Int}
    (parsed : intParse text = .ok value) : IsInt64 value := by
  unfold intParse at parsed
  cases signed : parseSigned (trim text) with
  | none => simp [signed] at parsed
  | some read =>
      rw [signed] at parsed
      cases parsed
      unfold parseSigned at signed
      split at signed
      · cases signed
      · split at signed
        · exact isInt64_of_magnitude signed
        · split at signed
          · exact isInt64_of_magnitude signed
          · exact isInt64_of_magnitude signed

private theorem parseMagnitude_decimal (negative : Bool) (value : Nat) :
    parseMagnitude negative (decimal value) =
      parseDecimalLiteral negative (decimal value) := by
  have plain := plain_of_mem_decimal value
  generalize decimal value = text at plain
  match text with
  | [] => rfl
  | [_] => rfl
  | first :: second :: rest =>
      obtain ⟨_, _, _, notLower, notUpper⟩ := plain second (by simp)
      simp [parseMagnitude, notLower, notUpper]

private theorem trim_negative (value : Nat) :
    trim (unit '-' :: decimal value) = unit '-' :: decimal value := by
  have plain : ∀ character ∈ unit '-' :: decimal value,
      isWhitespace character = false := by
    rw [List.forall_mem_cons]
    refine ⟨by decide, ?_⟩
    intro character member
    exact (plain_of_mem_decimal value character member).1
  have left : (unit '-' :: decimal value).dropWhile isWhitespace =
      unit '-' :: decimal value := List.dropWhile_cons_of_neg (by decide)
  rw [trim, left]
  apply List.rdropWhile_eq_self_iff.mpr
  intro nonempty
  simp [plain _ (List.getLast_mem nonempty)]

theorem intParse_showInt_iff (value : Int) :
    intParse (showInt value) = .ok value ↔ IsInt64 value := by
  constructor
  · exact isInt64_of_intParse
  · intro inRange
    obtain ⟨low, high⟩ := inRange
    by_cases negative : value < 0
    · have bound : value.natAbs ≤ 2 ^ 63 := by omega
      have restored : -(value.natAbs : Int) = value := by omega
      have printed : showInt value = unit '-' :: decimal value.natAbs := by
        rw [showInt, if_pos negative]
        rfl
      have minus : unit '-' ≠ unit '+' := by decide
      rw [printed, intParse, trim_negative, parseSigned, if_neg minus,
        if_pos rfl, parseMagnitude_decimal, parseDecimalLiteral,
        parseDigits_decimal]
      simp only [if_true, if_pos bound, restored]
    · have fits : value.natAbs < 2 ^ 63 := by omega
      have restored : (value.natAbs : Int) = value := by omega
      rw [showInt, if_neg negative, intParse_decimal, if_pos fits, restored]

/-! ## Printed integers -/

theorem not_mem_showInt {character : CodeUnit}
    (foreign : ∀ digit ∈ decimalDigits, unit digit ≠ character)
    (notMinus : character ≠ unit '-') (value : Int) :
    character ∉ showInt value := by
  have digits := not_mem_decimal foreign value.natAbs
  unfold showInt
  split
  · intro member
    rcases List.mem_append.mp member with isMinus | isDigit
    · exact notMinus (List.mem_singleton.mp isMinus)
    · exact digits isDigit
  · exact digits

theorem decimal_inj {value other : Nat} :
    decimal value = decimal other ↔ value = other := by
  constructor
  · intro same
    have read := parseDigits_decimal value
    rw [same, parseDigits_decimal] at read
    exact (Option.some.inj read).symm
  · intro same
    rw [same]

theorem showInt_inj {value other : Int} :
    showInt value = showInt other ↔ value = other := by
  have signed : ∀ number : Nat, unit '-' ∉ decimal number :=
    not_mem_decimal (by decide)
  -- The texts agree in their signs, for only one of them can have a minus.
  have starts : ∀ number : Nat, units "-" ++ decimal number =
      unit '-' :: decimal number := fun _ => rfl
  constructor
  · intro same
    unfold showInt at same
    by_cases negative : value < 0
    · by_cases negative' : other < 0
      · rw [if_pos negative, if_pos negative', starts, starts] at same
        have absolute := decimal_inj.mp (List.cons.inj same).2
        omega
      · rw [if_pos negative, if_neg negative', starts] at same
        have member : unit '-' ∈ decimal other.natAbs := by
          rw [← same]
          exact List.mem_cons_self
        exact (signed _ member).elim
    · by_cases negative' : other < 0
      · rw [if_neg negative, if_pos negative', starts] at same
        have member : unit '-' ∈ decimal value.natAbs := by
          rw [same]
          exact List.mem_cons_self
        exact (signed _ member).elim
      · rw [if_neg negative, if_neg negative'] at same
        have absolute := decimal_inj.mp same
        omega
  · intro same
    rw [same]

end Douban.Dart
