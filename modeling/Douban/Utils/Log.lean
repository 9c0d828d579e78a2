import Douban.Dart.Effect
import Douban.Dart.Number

/-!
# Logging with the position of the caller

`dsLog` prints a message with the file and line of its caller, which
`DSCustomTrace` reads out of the text of a stack trace.
-/

namespace Douban

open Dart

/-- A stack trace, by what `toString` prints for it. -/
structure StackTrace where
  text : DartString

structure DSCustomTrace where
  fileName : DartString
  lineNumber : Int
  columnNumber : Int
  deriving DecidableEq, Repr

/-- The class `[A-Za-z_]`. -/
def letterUnit (character : CodeUnit) : Bool :=
  character.inRange 'A' 'Z' || character.inRange 'a' 'z' ||
    character == unit '_'

/-- The regular expression `[A-Za-z_]+.dart`. -/
def fileNamePattern : Library.Pattern CodeUnit :=
  .seq (.oneOrMore letterUnit)
    (.seq (.one anyUnit) (.literal (unit 'd') (units "art")))

namespace DSCustomTrace

/-- The part of `_parseTrace` after the file name has been found. -/
def parseFileInfo (fileInfo : DartString) :
    Except DartError DSCustomTrace := do
  let listOfInfos := split fileInfo (unit ':')
  let fileName ← elementAt listOfInfos 0
  let lineNumber ← intParse (← elementAt listOfInfos 1)
  let columnStr ← elementAt listOfInfos 2
  let columnStr := replaceFirst (unit ')') [] columnStr
  let columnNumber ← intParse columnStr
  return { fileName, lineNumber, columnNumber }

/-- The constructor, which does nothing but run `_parseTrace`. -/
def parseTrace (trace : StackTrace) : Except DartError DSCustomTrace := do
  let traceString ← elementAt (split trace.text (unit '\n')) 0
  let indexOfFileName := indexOf traceString fileNamePattern
  let fileInfo ← substring traceString indexOfFileName
  parseFileInfo fileInfo

end DSCustomTrace

/-- The line that `dsLog` prints. -/
def logLine (programInfo : DSCustomTrace) (message : DartString) :
    DartString :=
  "所在文件: " ++ programInfo.fileName ++ ", 所在行: " ++
    showInt programInfo.lineNumber ++ ", 打印信息: " ++ message

def dsLog {Memory : Type} (message : DartString) (current : StackTrace) :
    Effect Memory Unit := do
  let programInfo ← Effect.evaluate (DSCustomTrace.parseTrace current)
  Effect.print (logLine programInfo message)

section Statement

variable {Memory β : Type} {current : StackTrace}

theorem perform_dsLog_of_ok {info : DSCustomTrace}
    (parsed : DSCustomTrace.parseTrace current = .ok info)
    (message : DartString) (next : Effect Memory β)
    (process : Process Memory) :
    Effect.perform (do dsLog message current; next) process =
      Effect.perform next
        { process with
          console := process.console ++ [logLine info message] } := by
  apply Effect.perform_bind_of_ok
  rw [dsLog, parsed]
  rfl

theorem perform_dsLog_of_error {error : DartError}
    (failed : DSCustomTrace.parseTrace current = .error error)
    (message : DartString) (next : Effect Memory β)
    (process : Process Memory) :
    Effect.perform (do dsLog message current; next) process =
      (.error error, process) := by
  apply Effect.perform_bind_of_error
  rw [dsLog, failed]
  rfl

end Statement

end Douban
