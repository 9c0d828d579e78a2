import Douban.Utils.FileNameSearch

/-!
# Which stack traces are accepted

`DSCustomTrace` is given any stack trace.  It accepts the ones whose first line
carries a position, which need not be the position of a frame, and it can give
back any file name with a match at its start, whatever surrounds it.
-/

namespace Douban

open Dart Library

/-- The text up to the first newline, or all of it. -/
def FirstLine (text line : DartString) : Prop :=
  unit '\n' ∉ line ∧
    (text = line ∨ ∃ rest, text = line ++ unit '\n' :: rest)

/-- What stands at the end of a field. -/
def EndsField (after : DartString) : Prop :=
  after = [] ∨ ∃ rest, after = unit ':' :: rest

/-- A text that starts with a file name, a line and a column. -/
structure Positions (found : DartString) (info : DSCustomTrace)
    (lineText columnText after : DartString) : Prop where
  text : found = info.fileName ++ unit ':' ::
    (lineText ++ unit ':' :: (columnText ++ after))
  fileName : unit ':' ∉ info.fileName
  lineField : unit ':' ∉ lineText
  columnField : unit ':' ∉ columnText
  ends : EndsField after
  line : intParse lineText = .ok info.lineNumber
  column : intParse (replaceFirst (unit ')') [] columnText) =
    .ok info.columnNumber

/-- A trace whose first line has a position at its leftmost match. -/
def StackTrace.Carries (trace : StackTrace) (info : DSCustomTrace) : Prop :=
  ∃ line before found lineText columnText after,
    FirstLine trace.text line ∧ line = before ++ found ∧
      Quiet before found ∧ BeginsMatch info.fileName ∧
      Positions found info lineText columnText after

/-! ## The first line -/

theorem elementAt_split_eq_ok_iff {text line : DartString} :
    elementAt (split text (unit '\n')) 0 = .ok line ↔
      FirstLine text line := by
  rw [elementAt_eq_ok_iff, split, FirstLine]
  cases fields : text.splitOn (unit '\n') with
  | nil => exact (List.splitOn_ne_nil _ _ fields).elim
  | cons first others =>
      obtain ⟨absent, whole⟩ := splitOn_eq_cons_iff.mp fields
      rw [List.getElem?_cons_zero, Option.some.injEq]
      constructor
      · intro same
        subst same
        refine ⟨absent, ?_⟩
        rcases whole with ⟨all, _⟩ | ⟨rest, split, _⟩
        · exact .inl all
        · exact .inr ⟨rest, split⟩
      · intro parts
        obtain ⟨clean, rfl | ⟨rest, rfl⟩⟩ := parts
        · rw [List.splitOn_eq_singleton clean] at fields
          exact (List.cons.inj fields).1.symm
        · rw [List.splitOn_append_cons_self_of_not_mem clean] at fields
          exact (List.cons.inj fields).1.symm

theorem exists_firstLine (text : DartString) :
    ∃ line, FirstLine text line := by
  rcases splitOn_cases (unit '\n') text with
    ⟨absent, _⟩ | ⟨line, rest, whole, absent, _⟩
  · exact ⟨text, absent, .inl rfl⟩
  · exact ⟨line, absent, .inr ⟨rest, whole⟩⟩

/-! ## The fields of the position -/

theorem parseFileInfo_eq_ok_iff_positions {found : DartString}
    {info : DSCustomTrace} :
    DSCustomTrace.parseFileInfo found = .ok info ↔
      ∃ lineText columnText after,
        Positions found info lineText columnText after := by
  rw [DSCustomTrace.parseFileInfo_eq_ok_iff]
  constructor
  · intro read
    obtain ⟨lineText, columnText, fields, split, line, column⟩ := read
    obtain ⟨fileName, ⟨_, impossible⟩ | ⟨tail, text, split⟩⟩ :=
      splitOn_eq_cons_iff.mp split
    · cases impossible
    · obtain ⟨lineField, ⟨_, impossible⟩ | ⟨tail', text', split⟩⟩ :=
        splitOn_eq_cons_iff.mp split
      · cases impossible
      · obtain ⟨columnField, ⟨rfl, _⟩ | ⟨rest, rfl, _⟩⟩ :=
          splitOn_eq_cons_iff.mp split
        · subst text'
          refine ⟨lineText, tail', [], ?_⟩
          rw [← List.append_nil tail'] at text
          exact ⟨text, fileName, lineField, columnField, .inl rfl, line,
            column⟩
        · subst text'
          exact ⟨lineText, columnText, unit ':' :: rest, text, fileName,
            lineField, columnField, .inr ⟨rest, rfl⟩, line, column⟩
  · intro positions
    obtain ⟨lineText, columnText, after, positions⟩ := positions
    obtain ⟨fields, split⟩ : ∃ fields,
        (columnText ++ after).splitOn (unit ':') = columnText :: fields := by
      rcases positions.ends with rfl | ⟨rest, rfl⟩
      · rw [List.append_nil]
        exact ⟨[], List.splitOn_eq_singleton positions.columnField⟩
      · exact ⟨_, List.splitOn_append_cons_self_of_not_mem
          positions.columnField rest⟩
    refine ⟨lineText, columnText, fields, ?_, positions.line,
      positions.column⟩
    rw [positions.text,
      List.splitOn_append_cons_self_of_not_mem positions.fileName,
      List.splitOn_append_cons_self_of_not_mem positions.lineField, split]

/-! ## The match lies in the file name -/

/-- A colon can be no more than the one free code unit of a match, and then the
text `dart` would have to be read as a number. -/
theorem beginsMatch_fileName_of_positions {found : DartString}
    {info : DSCustomTrace} {lineText columnText after : DartString}
    (positions : Positions found info lineText columnText after)
    (begins : BeginsMatch found) : BeginsMatch info.fileName := by
  obtain ⟨run, any, rest, equality, nonempty, letters, accepted⟩ := begins
  have noColon : unit ':' ∉ units "dart" := by decide
  rw [positions.text] at equality
  rcases append_eq_append_cases equality with
    ⟨inside, insideNonempty, whole, word⟩ | ⟨later, whole, word⟩
  · cases inside with
    | nil => exact (insideNonempty rfl).elim
    | cons first inside =>
        obtain ⟨same, tail⟩ := List.cons.inj word
        subst same
        obtain ⟨last, rfl, _⟩ := skip_of_not_mem noColon tail
        exact ⟨run, any, last, whole, nonempty, letters, accepted⟩
  · cases later with
    | cons first later =>
        obtain ⟨rfl, _⟩ := List.cons.inj word
        have notLetter : ¬ NameLetter (unit ':') := by decide
        exact (notLetter (letters (unit ':') (by simp [whole]))).elim
    | nil =>
        obtain ⟨_, tail⟩ := List.cons.inj word
        obtain ⟨last, field, _⟩ := skip_of_not_mem noColon tail.symm
        have member : unit 'r' ∈ lineText := by
          rw [field]
          apply List.mem_append_left
          decide
        have numeral := numeralUnit_of_intParse_eq_ok positions.line
          (unit 'r') member
        cases numeral

theorem parseTrace_eq_ok_iff_carries {trace : StackTrace}
    {info : DSCustomTrace} :
    DSCustomTrace.parseTrace trace = .ok info ↔ trace.Carries info := by
  obtain ⟨line, first⟩ := exists_firstLine trace.text
  have read := elementAt_split_eq_ok_iff.mpr first
  rw [DSCustomTrace.parseTrace_eq_ok_iff read]
  constructor
  · intro parsed
    obtain ⟨before, found, whole, quiet, begins, parsed⟩ := parsed
    obtain ⟨lineText, columnText, after, positions⟩ :=
      parseFileInfo_eq_ok_iff_positions.mp parsed
    exact ⟨line, before, found, lineText, columnText, after, first, whole,
      quiet, beginsMatch_fileName_of_positions positions begins, positions⟩
  · intro carries
    obtain ⟨line', before, found, lineText, columnText, after, first', whole,
      quiet, begins, positions⟩ := carries
    have read' := elementAt_split_eq_ok_iff.mpr first'
    rw [read] at read'
    cases read'
    refine ⟨before, found, whole, quiet, ?_, ?_⟩
    · rw [positions.text]
      exact begins.append _
    · exact parseFileInfo_eq_ok_iff_positions.mpr
        ⟨lineText, columnText, after, positions⟩

/-! ## What the parser raises -/

theorem rangeError_of_elementAt {α : Type} {items : List α} {index : Nat}
    {failure : DartError} (failed : elementAt items index = .error failure) :
    failure = .rangeError := by
  unfold elementAt at failed
  split at failed
  · cases failed
  · exact (Except.error.inj failed).symm

theorem rangeError_of_substring {text : DartString} {start : Int}
    {failure : DartError} (failed : substring text start = .error failure) :
    failure = .rangeError := by
  unfold substring at failed
  split at failed
  · cases failed
  · exact (Except.error.inj failed).symm

theorem formatException_of_intParse {text : DartString}
    {failure : DartError} (failed : intParse text = .error failure) :
    failure = .formatException := by
  unfold intParse at failed
  split at failed
  · cases failed
  · exact (Except.error.inj failed).symm

theorem parseTrace_error {trace : StackTrace} {failure : DartError}
    (failed : DSCustomTrace.parseTrace trace = .error failure) :
    failure = .rangeError ∨ failure = .formatException := by
  simp only [DSCustomTrace.parseTrace, DSCustomTrace.parseFileInfo,
    bind_eq_error_iff, pure_eq_ok, reduceCtorEq, and_false, exists_false,
    or_false] at failed
  rcases failed with missing | ⟨_, _, missing | ⟨_, _, missing |
    ⟨_, _, missing | ⟨_, _, malformed | ⟨_, _, missing |
      ⟨_, _, malformed⟩⟩⟩⟩⟩⟩
  · exact .inl (rangeError_of_elementAt missing)
  · exact .inl (rangeError_of_substring missing)
  · exact .inl (rangeError_of_elementAt missing)
  · exact .inl (rangeError_of_elementAt missing)
  · exact .inr (formatException_of_intParse malformed)
  · exact .inl (rangeError_of_elementAt missing)
  · exact .inr (formatException_of_intParse malformed)

/-- For any stack trace `dsLog` prints one line with the position that the
trace carries and returns, or the trace carries none, and `dsLog` prints
nothing and raises a range error or a format exception. -/
theorem perform_dsLog_cases {Memory : Type} (message : DartString)
    (current : StackTrace) (process : Process Memory) :
    (∃ info, current.Carries info ∧
        (dsLog message current).perform process =
          (.ok (), { process with
            console := process.console ++ [logLine info message] })) ∨
      ((∀ info, ¬ current.Carries info) ∧
        ∃ failure,
          (failure = .rangeError ∨ failure = .formatException) ∧
          (dsLog message current).perform process =
            (.error failure, process)) := by
  cases parsed : DSCustomTrace.parseTrace current with
  | ok info =>
      left
      refine ⟨info, parseTrace_eq_ok_iff_carries.mp parsed, ?_⟩
      rw [dsLog, parsed]
      rfl
  | error failure =>
      right
      refine ⟨?_, failure, parseTrace_error parsed, ?_⟩
      · intro info carries
        rw [parseTrace_eq_ok_iff_carries.mpr carries] at parsed
        cases parsed
      · rw [dsLog, parsed]
        rfl

/-! ## What the parser returns -/

structure DSCustomTrace.Proper (info : DSCustomTrace) : Prop where
  begins : BeginsMatch info.fileName
  colonFree : unit ':' ∉ info.fileName
  oneLine : unit '\n' ∉ info.fileName
  lineNumber : IsInt64 info.lineNumber
  columnNumber : IsInt64 info.columnNumber

theorem proper_of_carries {trace : StackTrace} {info : DSCustomTrace}
    (carries : trace.Carries info) : info.Proper := by
  obtain ⟨line, before, found, lineText, columnText, after, first, whole, _,
    begins, positions⟩ := carries
  constructor
  · exact begins
  · exact positions.fileName
  · intro member
    apply first.1
    rw [whole, positions.text]
    simp [member]
  · exact isInt64_of_intParse positions.line
  · exact isInt64_of_intParse positions.column

/-- A first line that carries a given position and nothing else. -/
def DSCustomTrace.toTrace (info : DSCustomTrace) : StackTrace :=
  ⟨info.fileName ++ unit ':' :: (showInt info.lineNumber ++
    unit ':' :: (showInt info.columnNumber ++ []))⟩

theorem carries_toTrace {info : DSCustomTrace} (proper : info.Proper) :
    info.toTrace.Carries info := by
  have colon : ∀ value, unit ':' ∉ showInt value :=
    not_mem_showInt (by decide) (by decide)
  have newline : ∀ value, unit '\n' ∉ showInt value :=
    not_mem_showInt (by decide) (by decide)
  have paren : ∀ value, unit ')' ∉ showInt value :=
    not_mem_showInt (by decide) (by decide)
  have different : unit '\n' ≠ unit ':' := by decide
  refine ⟨info.toTrace.text, [], info.toTrace.text,
    showInt info.lineNumber, showInt info.columnNumber, [], ⟨?_, .inl rfl⟩,
    rfl, quiet_of_no_letters (List.forall_mem_nil _) _, proper.begins, ?_⟩
  · simp [DSCustomTrace.toTrace, proper.oneLine, newline, different]
  · constructor
    · rfl
    · exact proper.colonFree
    · exact colon _
    · exact colon _
    · exact .inl rfl
    · exact (intParse_showInt_iff _).mpr proper.lineNumber
    · rw [replaceFirst_of_not_mem (paren _)]
      exact (intParse_showInt_iff _).mpr proper.columnNumber

/-- What the parser can return at all: a file name on one line, without a
colon, that begins with a match, and two numbers of 64 bits. -/
theorem exists_parseTrace_iff {info : DSCustomTrace} :
    (∃ trace, DSCustomTrace.parseTrace trace = .ok info) ↔ info.Proper := by
  constructor
  · intro parsed
    obtain ⟨trace, parsed⟩ := parsed
    exact proper_of_carries (parseTrace_eq_ok_iff_carries.mp parsed)
  · intro proper
    exact ⟨_, parseTrace_eq_ok_iff_carries.mpr (carries_toTrace proper)⟩

end Douban
