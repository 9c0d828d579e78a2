import Douban.Dart.DoubleArithmetic

/-!
# Widgets

The widgets that carry content, in the order in which their parents list them.
A widget of the application stands for what its `build` method returns, or for
the error widget that the framework puts in its place when the method raises.
Colors, fonts, paddings and alignments are left out.
-/

namespace Douban

open Dart

inductive IconData where
  | playCircleOutline
  | turnedInNot
  | starBorder
  | star
  deriving DecidableEq, Repr

/-- Clips a star to a width; the other edges are those of the star. -/
structure DSStarClipper where
  width : Double
  deriving DecidableEq, Repr

inductive Axis where
  | horizontal
  | vertical
  deriving DecidableEq, Repr

inductive Widget where
  | text (data : Option DartString)
  | rich (spans : List Widget)
  | icon (name : IconData) (size : Option Double)
  | image (src : Option DartString)
  | box (width height : Double)
  | clipRect (clipper : DSStarClipper) (child : Widget)
  | flex (direction : Axis) (children : List Widget)
  | stack (children : List Widget)
  | error (raised : BuildError)

namespace Widget

section Collect

variable {α : Type} (found : Widget → List α)

mutual

/-- What is found at the leaves of a tree, in the order of display. -/
def collect : Widget → List α
  | rich spans => collectAll spans
  | clipRect _ child => collect child
  | flex _ children => collectAll children
  | stack children => collectAll children
  | leaf => found leaf

def collectAll : List Widget → List α
  | [] => []
  | widget :: widgets => collect widget ++ collectAll widgets

end

end Collect

def leafTexts : Widget → List DartString
  | text data => data.toList
  | _ => []

def leafImages : Widget → List DartString
  | image src => src.toList
  | _ => []

def leafIcons : Widget → List IconData
  | icon name _ => [name]
  | _ => []

def leafErrors : Widget → List BuildError
  | error raised => [raised]
  | _ => []

/-- The texts on display. -/
def texts : Widget → List DartString := collect leafTexts

/-- The images on display. -/
def images : Widget → List DartString := collect leafImages

def icons : Widget → List IconData := collect leafIcons

/-- The errors in place of widgets that could not be built. -/
def failures : Widget → List BuildError := collect leafErrors

/-- What the framework shows for a widget whose `build` method was called. -/
def inflate : Except BuildError Widget → Widget
  | .ok widget => widget
  | .error raised => .error raised

/-- The constructors `Text` and `Image.network` assert that their argument is
not null.  Assertions are evaluated in debug mode only. -/
def assertNotNull {α : Type} (debug : Bool) (argument : Option α) :
    Except BuildError Unit :=
  if debug && argument.isNone then .error .assertionError else .ok ()

end Widget

/-- An expression of the data layer inside a `build` method. -/
def BuildError.lift {α : Type} (expression : Except DartError α) :
    Except BuildError α :=
  expression.mapError .dart

/-- `List.generate(length, generator)`. -/
def generate {α : Type} (length : Int) (generator : Nat → α) :
    Except BuildError (List α) :=
  if 0 ≤ length then .ok ((List.range length.toNat).map generator)
  else .error (.dart .rangeError)

/-- A dashed line: `count` dashes along an axis. -/
structure DSDashedLine where
  axis : Axis := .horizontal
  dashedWidth : Double := .ofInt 1
  dashedHeight : Double := .ofInt 1
  count : Int := 10

def DSDashedLine.build (widget : DSDashedLine) : Except BuildError Widget := do
  let dashes ← generate widget.count fun _ =>
    .box widget.dashedWidth widget.dashedHeight
  return .flex widget.axis dashes

namespace Widget

section Collect

variable {α : Type} (found : Widget → List α)

@[simp] theorem collectAll_append (front back : List Widget) :
    collectAll found (front ++ back) =
      collectAll found front ++ collectAll found back := by
  induction front with
  | nil => rfl
  | cons widget front induction =>
      simp only [List.cons_append, collectAll, induction, List.append_assoc]

theorem collectAll_replicate (count : Nat) (widget : Widget) :
    collectAll found (List.replicate count widget) =
      (List.replicate count (collect found widget)).flatten := by
  induction count with
  | zero => rfl
  | succ count induction =>
      simp only [List.replicate_succ, collectAll, induction,
        List.flatten_cons]

end Collect

@[simp] theorem assertNotNull_some {α : Type} (debug : Bool)
    (argument : α) : assertNotNull debug (some argument) = .ok () := by
  simp [assertNotNull]

@[simp] theorem assertNotNull_none {α : Type} :
    assertNotNull true (none : Option α) = .error .assertionError := rfl

@[simp] theorem assertNotNull_false {α : Type} (argument : Option α) :
    assertNotNull false argument = .ok () := rfl

end Widget

@[simp] theorem BuildError.lift_ok {α : Type} (value : α) :
    BuildError.lift (.ok value) = .ok value := rfl

end Douban
