import Douban.Utils.ReadableFrame

/-!
# Reading a printed frame back

Parsing the trace of a frame gives the frame's own position exactly when the
frame is readable.  The converse goes over the places where the leftmost match
can begin: the member, the location and the file name.
-/

namespace Douban

open Dart Library

namespace Frame

variable {frame : Frame}

private theorem paren_not_mem_of_intParse {text : DartString} {value : Int}
    (parsed : intParse text = .ok value) : unit '(' ∉ text := by
  intro member
  have numeral := numeralUnit_of_intParse_eq_ok parsed _ member
  revert numeral
  decide

/-- What a successful read says about the text it started from. -/
structure Reads (frame : Frame) (found : DartString) : Prop where
  begins : BeginsMatch found
  parsed : DSCustomTrace.parseFileInfo found = .ok frame.info

namespace Reads

variable {found : DartString}

theorem skip (reads : frame.Reads found) {first rest before : DartString}
    (noLetters : ∀ character ∈ first, ¬ NameLetter character)
    (whole : first ++ rest = before ++ found) :
    ∃ later, before = first ++ later ∧ rest = later ++ found := by
  obtain ⟨letter, tail, equality, isLetter⟩ := reads.begins.head
  subst equality
  apply skip_of_not_mem _ whole
  intro member
  exact noLetters letter member isLetter

theorem fileName_first (reads : frame.Reads found) :
    ∃ lineText columnText fields tail,
      found = frame.fileName ++ unit ':' :: tail ∧
        tail.splitOn (unit ':') = lineText :: columnText :: fields ∧
        intParse lineText = .ok (frame.line : Int) ∧
        intParse (replaceFirst (unit ')') [] columnText) =
          .ok (frame.column : Int) := by
  obtain ⟨lineText, columnText, fields, split, line, column⟩ :=
    DSCustomTrace.parseFileInfo_eq_ok_iff.mp reads.parsed
  obtain ⟨tail, whole, tailSplit⟩ :=
    eq_append_of_splitOn_eq_cons_cons split
  exact ⟨lineText, columnText, fields, tail, whole, tailSplit, line, column⟩

theorem not_extended (reads : frame.Reads found)
    {inside rest : DartString} (nonempty : inside ≠ [])
    (colonFree : unit ':' ∉ inside)
    (whole : found = inside ++ (frame.fileName ++ unit ':' :: rest)) :
    False := by
  obtain ⟨_, _, _, tail, first, _, _, _⟩ := reads.fileName_first
  have field : unit ':' ∉ inside ++ frame.fileName := by
    intro member
    rcases List.mem_append.mp member with inInside | inName
    · exact colonFree inInside
    · exact frame.colon_not_mem_fileName inName
  have regrouped : (inside ++ frame.fileName) ++ unit ':' :: rest =
      frame.fileName ++ unit ':' :: tail := by
    rw [← first, whole, List.append_assoc]
  obtain ⟨same, _⟩ := append_cons_inj_of_not_mem field
    frame.colon_not_mem_fileName regrouped
  have lengths := congrArg List.length same
  rw [List.length_append] at lengths
  apply nonempty
  apply List.length_eq_zero_iff.mp
  omega

theorem not_in_location (reads : frame.Reads found)
    {before inside : DartString} (nonempty : inside ≠ [])
    (location : frame.location.print = before ++ inside)
    (whole : found = inside ++ (frame.fileName ++ frame.position)) :
    False := by
  rcases append_eq_append_cases location with
    ⟨scheme, schemeNonempty, schemeText, insideText⟩ | ⟨later, _, rest⟩
  · -- It would have to read a suffix of the scheme as the file name.
    obtain ⟨_, _, _, tail, first, _, _, _⟩ := reads.fileName_first
    have schemePlain : ∀ character, character ∉ units "packagefile" →
        character ∉ scheme := by
      intro character foreign member
      apply frame.location.scheme.not_mem_text foreign
      rw [schemeText]
      exact List.mem_append_right before member
    have regrouped : scheme ++ unit ':' :: (frame.location.path ++
        (frame.fileName ++ frame.position)) =
        frame.fileName ++ unit ':' :: tail := by
      rw [← first, whole, insideText]
      simp
    obtain ⟨same, _⟩ := append_cons_inj_of_not_mem
      (schemePlain (unit ':') (by decide)) frame.colon_not_mem_fileName
      regrouped
    apply schemePlain (unit '.') (by decide)
    rw [same, fileName]
    apply List.mem_append_right
    decide
  · have colon : ∀ character ∈ [unit ':'], ¬ NameLetter character := by
      decide
    have split : [unit ':'] ++ (frame.location.path ++
        (frame.fileName ++ frame.position)) = later ++ found := by
      rw [whole, ← List.append_assoc later, ← rest]
      simp
    obtain ⟨later', equality, _⟩ := reads.skip colon split
    subst equality
    have path : frame.location.path = later' ++ inside := by
      simpa using rest
    apply reads.not_extended nonempty _ whole
    intro member
    have colonFree : unit ':' ∉ frame.location.path :=
      frame.location.not_mem_path (by decide) (by decide)
    apply colonFree
    rw [path]
    exact List.mem_append_right later' member

/-- The found text begins in the file name only where the file name does. -/
theorem not_in_fileName (reads : frame.Reads found)
    {before inside : DartString}
    (name : frame.fileName = before ++ inside)
    (whole : found = inside ++ frame.position) : before = [] := by
  obtain ⟨_, _, _, tail, first, _, _, _⟩ := reads.fileName_first
  have field : unit ':' ∉ inside := by
    intro member
    apply frame.colon_not_mem_fileName
    rw [name]
    exact List.mem_append_right before member
  have regrouped : inside ++ frame.position =
      frame.fileName ++ unit ':' :: tail := by
    rw [← first, whole]
  obtain ⟨same, _⟩ := append_cons_inj_of_not_mem field
    frame.colon_not_mem_fileName regrouped
  have lengths := congrArg List.length name
  rw [← same, List.length_append] at lengths
  apply List.length_eq_zero_iff.mp
  omega

theorem not_in_position (reads : frame.Reads found)
    {before : DartString} (whole : frame.position = before ++ found) :
    False := by
  obtain ⟨letter, tail, equality, isLetter⟩ := reads.begins.head
  subst equality
  have member : letter ∈ frame.position := by
    rw [whole]
    simp
  exact frame.not_letter_of_mem_position letter member isLetter

/-- Found text that begins in the member has all its fields there: none of them
can contain the parenthesis that ends the member. -/
theorem fields_in_member (reads : frame.Reads found)
    {inside rest : DartString}
    (whole : found = inside ++ (units " (" ++ rest)) :
    ∃ lineText columnText after,
      inside = frame.fileName ++ unit ':' :: (lineText ++
        unit ':' :: (columnText ++ unit ':' :: after)) ∧
      unit ':' ∉ lineText ∧ unit ':' ∉ columnText ∧
      intParse lineText = .ok (frame.line : Int) ∧
      intParse (replaceFirst (unit ')') [] columnText) =
        .ok (frame.column : Int) := by
  obtain ⟨lineText, columnText, fields, tail, first, split, line, column⟩ :=
    reads.fileName_first
  obtain ⟨tail', equality, split'⟩ := eq_append_of_splitOn_eq_cons_cons split
  subst equality
  have inName : unit '(' ∉ frame.fileName := frame.not_mem_fileName (by decide)
  have inLine : unit '(' ∉ lineText := paren_not_mem_of_intParse line
  have inColumn : unit '(' ∉ columnText := by
    intro member
    apply paren_not_mem_of_intParse column
    exact mem_replaceFirst_nil_of_ne (by decide) member
  have colon : unit '(' ≠ unit ':' := by decide
  cases fields with
  | nil =>
      obtain rfl := eq_of_splitOn_eq_singleton split'
      have inFound : unit '(' ∈ found := by
        rw [whole]
        apply List.mem_append_right
        apply List.mem_append_left
        decide
      rw [first] at inFound
      simp [inName, inLine, inColumn, colon] at inFound
  | cons field fields =>
      obtain ⟨after, equality, _⟩ := eq_append_of_splitOn_eq_cons_cons split'
      subst equality
      let read := frame.fileName ++ unit ':' :: (lineText ++
        unit ':' :: columnText)
      have foreign : unit '(' ∉ read := by
        simp [read, inName, inLine, inColumn, colon]
      have aligned : read ++ unit ':' :: after =
          inside ++ unit ' ' :: unit '(' :: rest := by
        have opening : units " (" = [unit ' ', unit '('] := by decide
        rw [opening] at whole
        simpa [read] using first.symm.trans whole
      obtain ⟨later, inMember⟩ :=
        eq_append_cons_of_not_mem foreign colon (by decide) aligned
      refine ⟨lineText, columnText, later, ?_, ?_, ?_, line, column⟩
      · rw [inMember]
        simp [read]
      · exact not_mem_of_splitOn_eq_cons split
      · exact not_mem_of_splitOn_eq_cons split'

end Reads

theorem readable_of_reads {before found : DartString}
    (reads : frame.Reads found)
    (whole : frame.print = before ++ found)
    (quiet : Quiet before found) :
    frame.Readable := by
  rw [print] at whole
  obtain ⟨later, equality, afterHeader⟩ :=
    reads.skip frame.not_letter_of_mem_header whole
  subst equality
  rw [quiet_header_iff] at quiet
  rcases append_eq_append_cases afterHeader with
    ⟨inside, _, member, rfl⟩ | ⟨later, rfl, afterMember⟩
  · obtain ⟨lineText, columnText, after, equality, lineField, columnField,
      line, column⟩ := reads.fields_in_member rfl
    subst equality
    rw [replaceFirst_of_not_mem (mem_fields_of_member member)] at column
    have begins := reads.begins
    simp only [List.append_assoc, List.cons_append] at quiet begins
    exact .echoed member lineField columnField line column
      ((leads_iff _).mp begins) ((quietBefore_iff _ _).mp quiet)
  · have opening : ∀ character ∈ units " (", ¬ NameLetter character := by
      decide
    obtain ⟨later, equality, afterOpening⟩ := reads.skip opening afterMember
    subst equality
    rcases append_eq_append_cases afterOpening with
      ⟨inside, nonempty, location, suffix⟩ | ⟨later, rfl, afterLocation⟩
    · exact (reads.not_in_location nonempty location suffix).elim
    · rcases append_eq_append_cases afterLocation with
        ⟨inside, _, name, rfl⟩ | ⟨_, _, afterName⟩
      · obtain rfl := reads.not_in_fileName name rfl
        obtain rfl : frame.fileName = inside := name
        obtain ⟨line, column⟩ :=
          frame.parseFileInfo_position_iff.mp reads.parsed
        rw [List.append_nil] at quiet
        exact .unobstructed line column ((leads_iff _).mp reads.begins)
          ((quietBefore_iff _ _).mp quiet)
      · exact (reads.not_in_position afterName).elim

/-- The parser undoes the printer on exactly the readable frames. -/
theorem parseTrace_trace_iff (frame : Frame) (rest : Option DartString) :
    DSCustomTrace.parseTrace (frame.trace rest) = .ok frame.info ↔
      frame.Readable := by
  constructor
  · intro parsed
    obtain ⟨before, found, whole, quiet, begins, read⟩ :=
      (DSCustomTrace.parseTrace_eq_ok_iff (frame.firstLine_trace rest)).mp
        parsed
    exact readable_of_reads ⟨begins, read⟩ whole quiet
  · intro readable
    exact parseTrace_of_readable readable rest

/-- The frame is read back, and logging from a call site with this frame prints
its line and hands over to the next statement. -/
structure ReadsBack (frame : Frame) (rest : Option DartString) : Prop where
  parsed : DSCustomTrace.parseTrace (frame.trace rest) = .ok frame.info
  continues : ∀ {Memory β : Type} (message : DartString)
    (next : Effect Memory β) (process : Process Memory),
    Effect.perform (do dsLog message (frame.trace rest); next) process =
      Effect.perform next
        { process with
          console := process.console ++ [logLine frame.info message] }

theorem readsBack_iff_readable (frame : Frame) (rest : Option DartString) :
    frame.ReadsBack rest ↔ frame.Readable := by
  constructor
  · intro back
    exact (frame.parseTrace_trace_iff rest).mp back.parsed
  · intro readable
    have parsed := parseTrace_of_readable readable rest
    constructor
    · exact parsed
    · intro Memory β message next process
      exact perform_dsLog_of_ok parsed message next process

/-- A file whose name has a digit before the extension. -/
def pageTwo : Frame :=
  { number := 0
    member := ⟨"main", by decide⟩
    location :=
      { scheme := .package
        root := 0
        segments := [⟨"app", by decide, by decide⟩]
        closed := .inr (List.cons_ne_nil _ _) }
    stem := ⟨"page2", by decide, by decide⟩
    line := 22
    column := 38 }

theorem pageTwo_not_readsBack :
    (pageTwo.trace none).text =
        units "#0      main (package:app/page2.dart:22:38)" ∧
      DSCustomTrace.parseTrace (pageTwo.trace none) = .error .rangeError ∧
      ¬ pageTwo.ReadsBack none := by
  have failed : DSCustomTrace.parseTrace (pageTwo.trace none) =
      .error .rangeError := by decide +kernel
  refine ⟨by decide, failed, ?_⟩
  intro back
  have parsed := back.parsed
  rw [failed] at parsed
  cases parsed

end Frame

end Douban
