import Douban.Utils.Log

/-!
# Printed stack frames

The first line of a stack trace as the Dart VM prints it, with the texts that
can occur in it.  A frame cannot be built from a member or a path that contains
a delimiter of the format.
-/

namespace Douban

open Dart

/-- The printed name of a class member. -/
structure Member where
  text : DartString
  plain : ∀ character ∈ text, character ≠ unit '\n' ∧
    character ≠ unit '(' ∧ character ≠ unit ')'

/-- The delimiters of a printed location. -/
def locationDelimiter (character : CodeUnit) : Bool :=
  character == unit '\n' || character == unit ':' ||
    character == unit '(' || character == unit ')' ||
    character == unit '/'

/-- A path segment or the stem of a file name.  Letters, digits, `_` and `-`
are all allowed; only the delimiters are not. -/
structure PathName where
  text : DartString
  nonempty : text ≠ []
  plain : ∀ character ∈ text, locationDelimiter character = false

inductive Scheme where
  | package
  | file
  deriving DecidableEq

def Scheme.text : Scheme → DartString
  | .package => "package"
  | .file => "file"

/-- A uri prefix that ends in `/`: `root` slashes after the colon, then the
segments. -/
structure Location where
  scheme : Scheme
  root : Nat
  segments : List PathName
  closed : root ≠ 0 ∨ segments ≠ []

namespace Location

/-- What follows the colon of the scheme. -/
def path (location : Location) : DartString :=
  List.replicate location.root (unit '/') ++
    location.segments.flatMap fun segment => segment.text ++ [unit '/']

def print (location : Location) : DartString :=
  location.scheme.text ++ unit ':' :: location.path

end Location

structure Frame where
  number : Nat
  member : Member
  location : Location
  stem : PathName
  line : Nat
  column : Nat

namespace Frame

variable (frame : Frame)

/-- What stands before the member. -/
def header : DartString :=
  "#" ++ decimal frame.number ++ units "      "

def fileName : DartString := frame.stem.text ++ units ".dart"

/-- What stands after the file name. -/
def position : DartString :=
  unit ':' :: (decimal frame.line ++ unit ':' :: (decimal frame.column ++
    [unit ')']))

def print : DartString :=
  frame.header ++ (frame.member.text ++ (units " (" ++
    (frame.location.print ++ (frame.fileName ++ frame.position))))

/-- The frame alone, or followed by a newline and more text. -/
def trace (rest : Option DartString) : StackTrace :=
  match rest with
  | none => ⟨frame.print⟩
  | some rest => ⟨frame.print ++ unit '\n' :: rest⟩

/-- What reading the frame back must give. -/
def info : DSCustomTrace :=
  { fileName := frame.fileName
    lineNumber := frame.line
    columnNumber := frame.column }

end Frame

/-! ## Code units of a printed frame -/

theorem PathName.not_mem (name : PathName) {character : CodeUnit}
    (delimiter : locationDelimiter character = true) :
    character ∉ name.text := by
  intro member
  have plain := name.plain character member
  rw [delimiter] at plain
  cases plain

theorem Location.not_mem_path (location : Location) {character : CodeUnit}
    (delimiter : locationDelimiter character = true)
    (different : character ≠ unit '/') :
    character ∉ location.path := by
  intro member
  rcases List.mem_append.mp member with inRoot | inSegments
  · apply different
    exact List.eq_of_mem_replicate inRoot
  · obtain ⟨segment, _, inSegment⟩ := List.mem_flatMap.mp inSegments
    rcases List.mem_append.mp inSegment with inText | isSlash
    · exact segment.not_mem delimiter inText
    · apply different
      exact List.mem_singleton.mp isSlash

theorem Location.path_eq_concat (location : Location) :
    ∃ before, location.path = before ++ [unit '/'] := by
  rcases List.eq_nil_or_concat location.segments with none | ⟨init, last, some⟩
  · have rooted := location.closed.resolve_right (not_not.mpr none)
    obtain ⟨root, succ⟩ := Nat.exists_eq_succ_of_ne_zero rooted
    refine ⟨List.replicate root (unit '/'), ?_⟩
    rw [path, none, succ, List.replicate_succ']
    simp
  · refine ⟨List.replicate location.root (unit '/') ++
      ((init.flatMap fun segment => segment.text ++ [unit '/']) ++
        last.text), ?_⟩
    simp [path, some]

theorem Scheme.not_mem_text (scheme : Scheme) {character : CodeUnit}
    (foreign : character ∉ units "packagefile") :
    character ∉ scheme.text := by
  intro member
  apply foreign
  cases scheme with
  | package =>
      exact List.mem_append_left (units "file") member
  | file =>
      exact List.mem_append_right (units "package") member

theorem Location.not_mem_print (location : Location) {character : CodeUnit}
    (delimiter : locationDelimiter character = true)
    (notSlash : character ≠ unit '/') (notColon : character ≠ unit ':')
    (foreign : character ∉ units "packagefile") :
    character ∉ location.print := by
  intro member
  rcases List.mem_append.mp member with inScheme | inRest
  · exact location.scheme.not_mem_text foreign inScheme
  · rcases List.mem_cons.mp inRest with isColon | inPath
    · exact notColon isColon
    · exact location.not_mem_path delimiter notSlash inPath

namespace Frame

theorem not_mem_fileName (frame : Frame) {character : CodeUnit}
    (delimiter : locationDelimiter character = true) :
    character ∉ frame.fileName := by
  intro member
  rcases List.mem_append.mp member with inStem | inExtension
  · exact frame.stem.not_mem delimiter inStem
  · have plain : ∀ character ∈ units ".dart",
        locationDelimiter character = false := by decide
    rw [plain character inExtension] at delimiter
    cases delimiter

theorem newline_not_mem_print (frame : Frame) :
    unit '\n' ∉ frame.print := by
  have digits : ∀ value, unit '\n' ∉ decimal value :=
    not_mem_decimal (by decide)
  have hash : unit '\n' ∉ units "#" := by decide
  have gap : unit '\n' ∉ units "      " := by decide
  have opening : unit '\n' ∉ units " (" := by decide
  have colon : unit '\n' ≠ unit ':' := by decide
  have closing : unit '\n' ≠ unit ')' := by decide
  have member : unit '\n' ∉ frame.member.text := by
    intro inMember
    exact (frame.member.plain _ inMember).1 rfl
  have location : unit '\n' ∉ frame.location.print :=
    frame.location.not_mem_print (by decide) (by decide) (by decide)
      (by decide)
  have fileName : unit '\n' ∉ frame.fileName :=
    frame.not_mem_fileName (by decide)
  simp [print, header, position, digits, hash, gap, opening, colon, closing,
    member, location, fileName]

theorem firstLine_trace (frame : Frame) (rest : Option DartString) :
    elementAt (split (frame.trace rest).text (unit '\n')) 0 =
      .ok frame.print := by
  rw [elementAt_eq_ok_iff]
  cases rest with
  | none =>
      simp only [trace, split]
      rw [List.splitOn_eq_singleton frame.newline_not_mem_print]
      rfl
  | some rest =>
      simp only [trace, split]
      rw [List.splitOn_append_cons_self_of_not_mem
        frame.newline_not_mem_print]
      rfl

end Frame

end Douban
