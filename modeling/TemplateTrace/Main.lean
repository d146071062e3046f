import TemplateTrace.CommandLine.Run

/-!
# The program

Collects what the program finds around it, runs it, and writes what it leaves behind. Files and
the standard input are read only if the command line needs them.
-/

namespace TemplateTrace

/-- The number of an error of the system, which some functions give with a minus sign. -/
def systemNumber (code : UInt32) : Nat := code.toInt32.toInt.natAbs

/-- The file error that an error of the system is. -/
def FileError.ofSystem (error : IO.Error) : FileError :=
  match error with
  | .noFileOrDirectory .. => .notFound
  | .inappropriateType _ code _ => if systemNumber code = 20 then .notADirectory else .isDirectory
  | .invalidArgument _ code _ =>
      if systemNumber code = 36 then .nameTooLong else .other (toString error)
  | _ => .other (toString error)

/-- The text of a file. -/
def readFile (path : String) : IO (Except FileError String) := do
  try
    return decodeText (← IO.FS.readBinFile path)
  catch error =>
    return .error (.ofSystem error)

/-- All bytes that are left of a stream. -/
partial def readToEnd (stream : IO.FS.Stream) (start : ByteArray) : IO ByteArray := do
  let bytes ← stream.read 4096
  if bytes.isEmpty then return start else readToEnd stream (start ++ bytes)

/-- The file that a command line names. -/
def Invocation.path? : Invocation → Option String
  | .check _ path | .trace _ path _ _ _ _ => some path
  | .debug _ path _ _ _ _ => path

/-- Whether a command line takes lines from the standard input. -/
def Invocation.readsInput : Invocation → Bool
  | .debug _ _ _ _ lines _ => lines.isEmpty
  | _ => false

/-- What there is around a command line. -/
def gather (invocation : Invocation) : IO Surroundings := do
  let text ← match invocation.path? with
    | some path => readFile path
    | none => pure (.error .notFound)
  let input ← if invocation.readsInput then readToEnd (← IO.getStdin) .empty else pure .empty
  return { files := fun _ => text
           lines := inputLines input
           columns := ← IO.getEnv "COLUMNS"
           isTerminal := ← (← IO.getStdout).isTty }

end TemplateTrace

open TemplateTrace in
/-- Runs the program. -/
def main (arguments : List String) : IO UInt32 := do
  match Invocation.read arguments with
  | .error error => return error.exitCode.toUInt32
  | .ok invocation =>
      let report := invocation.run (← gather invocation)
      IO.eprint (report.errorText invocation.threshold)
      IO.print report.output
      return report.exitCode.toUInt32
