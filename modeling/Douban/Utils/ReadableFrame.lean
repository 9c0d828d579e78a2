import Douban.Utils.StackFrame
import Douban.Utils.FileNameSearch

/-!
# Frames that can be read back

`Frame.Readable` describes the frames that the parser reads back.  In the
ordinary case the leftmost match is the file name itself.  The other case is a
member whose own text begins its first match with the same file name, followed
by fields that happen to read as the same line and column.
-/

namespace Douban

open Dart Library

namespace Frame

/-- What stands between the header and the file name. -/
def lead (frame : Frame) : DartString :=
  frame.member.text ++ (units " (" ++ frame.location.print)

/-- No match begins in the text before the file name. -/
def QuietBefore (frame : Frame) (before : DartString) : Prop :=
  Quiet before frame.fileName

/-- The file name of the frame is where a match begins. -/
def Leads (frame : Frame) : Prop :=
  BeginsMatch frame.fileName

inductive Readable (frame : Frame) : Prop where
  | unobstructed
      (line : frame.line < 2 ^ 63)
      (column : frame.column < 2 ^ 63)
      (leads : frame.Leads)
      (quiet : frame.QuietBefore frame.lead)
  | echoed {before lineText columnText after : DartString}
      (member : frame.member.text = before ++ (frame.fileName ++
        unit ':' :: (lineText ++ unit ':' :: (columnText ++
          unit ':' :: after))))
      (lineField : unit ':' ∉ lineText)
      (columnField : unit ':' ∉ columnText)
      (line : intParse lineText = .ok (frame.line : Int))
      (column : intParse columnText = .ok (frame.column : Int))
      (leads : frame.Leads)
      (quiet : frame.QuietBefore before)

variable {frame : Frame}

theorem print_eq (frame : Frame) :
    frame.print =
      frame.header ++ (frame.lead ++ (frame.fileName ++ frame.position)) := by
  simp [print, lead]

theorem not_letter_of_mem_header (frame : Frame) :
    ∀ character ∈ frame.header, ¬ NameLetter character := by
  have digits : ∀ character ∈ decimal frame.number,
      ¬ NameLetter character := forall_mem_decimal (by decide) _
  have hash : ∀ character ∈ units "#",
      ¬ NameLetter character := by decide
  have gap : ∀ character ∈ units "      ",
      ¬ NameLetter character := by decide
  intro character member
  rcases List.mem_append.mp member with inNumber | inGap
  · rcases List.mem_append.mp inNumber with isHash | isDigit
    · exact hash character isHash
    · exact digits character isDigit
  · exact gap character inGap

theorem not_letter_of_mem_position (frame : Frame) :
    ∀ character ∈ frame.position, ¬ NameLetter character := by
  have digits : ∀ value, ∀ character ∈ decimal value,
      ¬ NameLetter character := forall_mem_decimal (by decide)
  have colon : ¬ NameLetter (unit ':') := by decide
  have paren : ¬ NameLetter (unit ')') := by decide
  intro character member
  simp only [position, List.mem_cons, List.mem_append, List.not_mem_nil,
    or_false] at member
  rcases member with rfl | inLine | rfl | inColumn | rfl
  · exact colon
  · exact digits _ _ inLine
  · exact colon
  · exact digits _ _ inColumn
  · exact paren

/-- A colon after the file name does not change which matches begin before
it. -/
theorem beginsMatch_fileName_iff (text rest : DartString) :
    BeginsMatch (text ++ (frame.fileName ++ unit ':' :: rest)) ↔
      BeginsMatch (text ++ frame.fileName) := by
  have split : ∀ after, text ++ (frame.fileName ++ after) =
      (text ++ frame.stem.text) ++ (units ".dart" ++ after) := by
    simp [fileName]
  have alone := split []
  rw [List.append_nil] at alone
  rw [split, alone, beginsMatch_extension_iff, beginsMatch_extension_iff]

theorem leads_iff (rest : DartString) :
    BeginsMatch (frame.fileName ++ unit ':' :: rest) ↔ frame.Leads :=
  frame.beginsMatch_fileName_iff [] rest

theorem quietBefore_iff (before rest : DartString) :
    Quiet before (frame.fileName ++ unit ':' :: rest) ↔
      frame.QuietBefore before := by
  simp only [QuietBefore, Quiet, beginsMatch_fileName_iff]

theorem quiet_header_iff (before rest : DartString) :
    Quiet (frame.header ++ before) rest ↔ Quiet before rest := by
  rw [quiet_append_iff]
  exact and_iff_right
    (quiet_of_no_letters frame.not_letter_of_mem_header _)

/-- A stem leads if it consists of letters and underscores, or has a match of
its own. -/
theorem leads_iff_stem (frame : Frame) :
    frame.Leads ↔ BeginsMatch frame.stem.text ∨
      ∀ character ∈ frame.stem.text, NameLetter character := by
  have extension := beginsMatch_extension_iff frame.stem.text []
  rw [List.append_nil] at extension
  rw [Leads, fileName, extension, and_iff_right frame.stem.nonempty]

theorem Readable.leads (readable : frame.Readable) : frame.Leads := by
  cases readable with
  | unobstructed line column leads quiet => exact leads
  | echoed member lineField columnField line column leads quiet => exact leads

/-- A digit or a dash in the stem is enough to make a frame unreadable, unless
the stem contains `dart` itself. -/
theorem not_readable_of_mem_stem {character : CodeUnit}
    (member : character ∈ frame.stem.text)
    (notLetter : ¬ NameLetter character)
    (noDart : ¬ units "dart" <:+: frame.stem.text) :
    ¬ frame.Readable := by
  intro readable
  rcases frame.leads_iff_stem.mp readable.leads with begins | letters
  · exact noDart begins.dart_infix
  · exact notLetter (letters character member)

theorem lead_eq_concat (frame : Frame) :
    ∃ before, frame.lead = before ++ [unit '/'] := by
  obtain ⟨path, ends⟩ := frame.location.path_eq_concat
  refine ⟨frame.member.text ++ (units " (" ++
    (frame.location.scheme.text ++ unit ':' :: path)), ?_⟩
  simp [lead, Location.print, ends]

/-- The ordinary frames: a stem of letters and underscores, and no `dart` but
the one of the extension. -/
theorem readable_of_plain (line : frame.line < 2 ^ 63)
    (column : frame.column < 2 ^ 63)
    (letters : ∀ character ∈ frame.stem.text, NameLetter character)
    (noDart : ¬ units "dart" <:+: frame.lead ++ frame.stem.text) :
    frame.Readable := by
  apply Readable.unobstructed line column
  · apply frame.leads_iff_stem.mpr
    exact .inr letters
  · intro later suffix nonempty begins
    have extension := beginsMatch_extension_iff
      (later ++ frame.stem.text) []
    rw [List.append_nil, List.append_assoc] at extension
    rcases extension.mp begins with inside | ⟨_, run⟩
    · apply noDart
      obtain ⟨before, split⟩ := suffix
      rw [← split, List.append_assoc]
      exact inside.dart_infix.trans (List.suffix_append before _).isInfix
    · -- The slash before the stem would be part of the run.
      obtain ⟨before, ends⟩ := frame.lead_eq_concat
      have slash : unit '/' ∈ later := by
        rw [ends] at suffix
        rcases List.suffix_concat_iff.mp suffix with rfl | ⟨_, rfl, _⟩
        · exact (nonempty rfl).elim
        · simp
      have letter := run (unit '/') (List.mem_append_left _ slash)
      revert letter
      decide

/-! ## The fields of a frame -/

theorem colon_not_mem_fileName (frame : Frame) :
    unit ':' ∉ frame.fileName :=
  frame.not_mem_fileName (by decide)

theorem colon_not_mem_decimal (value : Nat) :
    unit ':' ∉ decimal value :=
  not_mem_decimal (by decide) value

private theorem splitOn_fileName (frame : Frame) (rest : DartString) :
    (frame.fileName ++ unit ':' :: rest).splitOn (unit ':') =
      frame.fileName :: rest.splitOn (unit ':') :=
  List.splitOn_append_cons_self_of_not_mem frame.colon_not_mem_fileName rest

theorem splitOn_position (frame : Frame) :
    (frame.fileName ++ frame.position).splitOn (unit ':') =
      [frame.fileName, decimal frame.line,
        decimal frame.column ++ [unit ')']] := by
  have column : unit ':' ∉ decimal frame.column ++ [unit ')'] := by
    intro member
    rcases List.mem_append.mp member with inDigits | isParen
    · exact colon_not_mem_decimal _ inDigits
    · revert isParen
      decide
  rw [position, splitOn_fileName,
    List.splitOn_append_cons_self_of_not_mem (colon_not_mem_decimal _),
    List.splitOn_eq_singleton column]

theorem replaceFirst_column (value : Nat) :
    replaceFirst (unit ')') [] (decimal value ++ [unit ')']) =
      decimal value := by
  have absent : unit ')' ∉ decimal value := not_mem_decimal (by decide) value
  have replaced : replaceFirst (unit ')') [] (decimal value ++ [unit ')']) =
      decimal value ++ [] ++ [] :=
    replaceFirst_append_cons_of_not_mem absent []
  rw [replaced, List.append_nil, List.append_nil]

theorem intParse_decimal_eq_ok_iff (value : Nat) :
    intParse (decimal value) = .ok (value : Int) ↔ value < 2 ^ 63 := by
  rw [intParse_decimal]
  by_cases fits : value < 2 ^ 63
  · simp only [fits, if_true]
  · simp only [fits, if_false, reduceCtorEq]

theorem parseFileInfo_position_iff (frame : Frame) :
    DSCustomTrace.parseFileInfo (frame.fileName ++ frame.position) =
        .ok frame.info ↔
      frame.line < 2 ^ 63 ∧ frame.column < 2 ^ 63 := by
  rw [DSCustomTrace.parseFileInfo_eq_ok_iff, splitOn_position]
  constructor
  · intro read
    obtain ⟨lineText, columnText, fields, split, line, column⟩ := read
    cases split
    rw [replaceFirst_column] at column
    exact ⟨(intParse_decimal_eq_ok_iff _).mp line,
      (intParse_decimal_eq_ok_iff _).mp column⟩
  · intro fits
    refine ⟨_, _, [], rfl, ?_, ?_⟩
    · apply (intParse_decimal_eq_ok_iff _).mpr
      exact fits.1
    · rw [replaceFirst_column]
      apply (intParse_decimal_eq_ok_iff _).mpr
      exact fits.2

/-! ## Readable frames are read back -/

theorem mem_fields_of_member {before lineText columnText after : DartString}
    (member : frame.member.text = before ++ (frame.fileName ++
      unit ':' :: (lineText ++ unit ':' :: (columnText ++
        unit ':' :: after)))) :
    unit ')' ∉ columnText := by
  intro inColumn
  have plain := frame.member.plain (unit ')') (by simp [member, inColumn])
  exact plain.2.2 rfl

theorem parseTrace_of_readable (readable : frame.Readable)
    (rest : Option DartString) :
    DSCustomTrace.parseTrace (frame.trace rest) = .ok frame.info := by
  rw [DSCustomTrace.parseTrace_eq_ok_iff (frame.firstLine_trace rest)]
  cases readable with
  | unobstructed line column leads quiet =>
      refine ⟨frame.header ++ frame.lead, frame.fileName ++ frame.position,
        ?_, ?_, ?_, ?_⟩
      · rw [print_eq, List.append_assoc]
      · rw [quiet_header_iff]
        exact (quietBefore_iff _ _).mpr quiet
      · exact (leads_iff _).mpr leads
      · exact frame.parseFileInfo_position_iff.mpr ⟨line, column⟩
  | @echoed before lineText columnText after member lineField columnField
      line column leads quiet =>
      let tail := units " (" ++ (frame.location.print ++
        (frame.fileName ++ frame.position))
      refine ⟨frame.header ++ before, frame.fileName ++ unit ':' ::
        (lineText ++ unit ':' :: (columnText ++ unit ':' ::
          (after ++ tail))), ?_, ?_, ?_, ?_⟩
      · simp [print, member, tail]
      · rw [quiet_header_iff]
        exact (quietBefore_iff _ _).mpr quiet
      · exact (leads_iff _).mpr leads
      · apply DSCustomTrace.parseFileInfo_eq_ok_iff.mpr
        refine ⟨lineText, columnText, (after ++ tail).splitOn (unit ':'), ?_,
          line, ?_⟩
        · rw [splitOn_fileName,
            List.splitOn_append_cons_self_of_not_mem lineField,
            List.splitOn_append_cons_self_of_not_mem columnField]
          rfl
        · rw [replaceFirst_of_not_mem (mem_fields_of_member member)]
          exact column

end Frame

end Douban
