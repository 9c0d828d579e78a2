import Douban.Dart.Text
import Douban.Library.Traversal
import Mathlib.Algebra.Ring.Rat

/-!
# Decoded JSON as Dart sees it

`jsonDecode` returns values of static type `dynamic`.  A JSON number without
fraction or exponent becomes an `int`, any other one a `double`, and on the
native platforms the two types are disjoint: a cast from one to the other
raises.  The language version is older than null safety, so every cast lets
`null` through and a typed field may hold `null`; here that is `none`.
-/

namespace Douban.Dart

/-- An IEEE 754 binary64, by its representation. -/
structure Double where
  bits : BitVec 64
  deriving DecidableEq, Repr

namespace Double

def negative (number : Double) : Bool := number.bits.msb

def exponent (number : Double) : Nat :=
  (number.bits.extractLsb' 52 11).toNat

def fraction (number : Double) : Nat :=
  (number.bits.extractLsb' 0 52).toNat

/-- The significand: subnormal numbers have no implicit leading bit. -/
def significand (number : Double) : Nat :=
  if number.exponent = 0 then number.fraction
  else 2 ^ 52 + number.fraction

/-- The number represented, unless it is an infinity or not a number. -/
def toRat? (number : Double) : Option Rat :=
  if number.exponent = 2047 then none
  else
    let scaled : Int := number.significand * 2 ^ (number.exponent - 1)
    some (mkRat (if number.negative then -scaled else scaled) (2 ^ 1074))

example : toRat? ⟨0x4023000000000000#64⟩ = some (19 / 2) := by
  decide +kernel

end Double

/-- A JSON number after decoding. -/
inductive DartNum where
  | int (value : Int)
  | double (value : Double)
  deriving DecidableEq, Repr

namespace DartNum

def isDouble : DartNum → Bool
  | int _ => false
  | double _ => true

/-- Numerical value of a finite number. -/
def toRat? : DartNum → Option Rat
  | int value => some value
  | double value => value.toRat?

end DartNum

/-- A double is numerically equal to a number if both are the same double, or
both are finite and denote the same rational. -/
def Double.NumericallyEquals (left : Double) (right : DartNum) : Prop :=
  right = .double left ∨
    ∃ value, left.toRat? = some value ∧ right.toRat? = some value

/-- Decoded JSON values. -/
inductive JsonValue where
  | null
  | bool (value : Bool)
  | num (value : DartNum)
  | string (value : DartString)
  | list (items : List JsonValue)
  | map (entries : List (DartString × JsonValue))

/-- A value of static type `Map<String, dynamic>`. -/
abbrev JsonMap := Option (List (DartString × JsonValue))

/-- `entries[key]`, which is `null` for an absent key. -/
def lookup (entries : List (DartString × JsonValue)) (key : DartString) :
    JsonValue :=
  (entries.lookup key).getD .null

/-- `json[key]` on a receiver of static type `Map<String, dynamic>`. -/
def JsonMap.get (json : JsonMap) (key : DartString) :
    Except DartError JsonValue :=
  match json with
  | some entries => .ok (lookup entries key)
  | none => .error .noSuchMethodError

namespace JsonValue

/-- `receiver[key]` for a string key, dispatched dynamically: only a map takes
one, a list or a string refuses its type, and nothing else has the operator. -/
def getKey (receiver : JsonValue) (key : DartString) :
    Except DartError JsonValue :=
  match receiver with
  | map entries => .ok (lookup entries key)
  | list _ => .error .typeError
  | string _ => .error .typeError
  | _ => .error .noSuchMethodError

/-- `receiver[index]` for a literal index.  A map has no key that is an
integer, so it answers `null`. -/
def getIndex (receiver : JsonValue) (index : Nat) :
    Except DartError JsonValue :=
  match receiver with
  | list items => elementAt items index
  | string text => do
      let unit ← elementAt text index
      return .string [unit]
  | map _ => .ok .null
  | _ => .error .noSuchMethodError

def isNull : JsonValue → Bool
  | null => true
  | _ => false

/-- `value as int`. -/
def asInt : JsonValue → Except DartError (Option Int)
  | num (.int value) => .ok (some value)
  | null => .ok none
  | _ => .error .castError

/-- `value as double`. -/
def asDouble : JsonValue → Except DartError (Option Double)
  | num (.double value) => .ok (some value)
  | null => .ok none
  | _ => .error .castError

/-- `value as String`. -/
def asString : JsonValue → Except DartError (Option DartString)
  | string value => .ok (some value)
  | null => .ok none
  | _ => .error .castError

/-- `value as List<dynamic>`. -/
def asList : JsonValue → Except DartError (Option (List JsonValue))
  | list items => .ok (some items)
  | null => .ok none
  | _ => .error .castError

/-- `value as Map<String, dynamic>`. -/
def asMap : JsonValue → Except DartError JsonMap
  | map entries => .ok (some entries)
  | null => .ok none
  | _ => .error .castError

end JsonValue

/-- A `List<String>` made by `cast<String>()`: a view that checks an element
only when it is read. -/
structure CastList where
  source : List JsonValue

namespace CastList

/-- All elements read in order. -/
def toList (view : CastList) :
    Except DartError (List (Option DartString)) :=
  view.source.mapM JsonValue.asString

end CastList

/-- `value.cast<String>()`, dispatched dynamically.  Only a list has a method
`cast` with one type parameter. -/
def JsonValue.castStrings : JsonValue → Except DartError CastList
  | list items => .ok ⟨items⟩
  | _ => .error .noSuchMethodError

/-- A member of a nullable receiver, such as `.map` or the iterator of a
`for` loop: it exists on everything but `null`. -/
def nonNull {α : Type} : Option α → Except DartError α
  | some receiver => .ok receiver
  | none => .error .noSuchMethodError

/-! ## The accesses and casts that succeed -/

section Access

variable {entries : List (DartString × JsonValue)} {items : List JsonValue}

@[simp] theorem JsonMap.get_some (key : DartString) :
    JsonMap.get (some entries) key = .ok (lookup entries key) := rfl

@[simp] theorem nonNull_some {α : Type} (receiver : α) :
    nonNull (some receiver) = .ok receiver := rfl

namespace JsonValue

@[simp] theorem getKey_map (key : DartString) :
    (map entries).getKey key = .ok (lookup entries key) := rfl

@[simp] theorem getIndex_list (index : Nat) :
    (list items).getIndex index = elementAt items index := rfl

@[simp] theorem isNull_null : null.isNull = true := rfl

@[simp] theorem isNull_map : (map entries).isNull = false := rfl

@[simp] theorem asInt_int (value : Int) :
    (num (.int value)).asInt = .ok (some value) := rfl

@[simp] theorem asDouble_double (value : Double) :
    (num (.double value)).asDouble = .ok (some value) := rfl

/-- The native `int` and `double` are disjoint types. -/
@[simp] theorem asDouble_int (value : Int) :
    (num (.int value)).asDouble = .error .castError := rfl

@[simp] theorem asString_string (value : DartString) :
    (string value).asString = .ok (some value) := rfl

@[simp] theorem asList_list : (list items).asList = .ok (some items) := rfl

@[simp] theorem asMap_map : (map entries).asMap = .ok (some entries) := rfl

@[simp] theorem castStrings_list :
    (list items).castStrings = .ok ⟨items⟩ := rfl

end JsonValue

end Access

theorem CastList.toList_strings (texts : List DartString) :
    CastList.toList ⟨texts.map .string⟩ = .ok (texts.map some) := by
  have related : List.Forall₂ (fun item text => item = JsonValue.string text)
      (texts.map .string) texts :=
    List.forall₂_map_left_iff.mpr (List.forall₂_same.mpr fun _ _ => rfl)
  apply Library.mapM_of_forall₂ _ related
  intro item text equality
  rw [equality, JsonValue.asString_string]

end Douban.Dart
