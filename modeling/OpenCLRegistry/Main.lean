import OpenCLRegistry.CommandLine.Report

/-!
# The program

Reads the configuration file that the arguments name, if they name one, and
prints the report. Only this module touches the outside.
-/
namespace OpenCLRegistry.Program

/-- The text of a file. -/
def readFile (path : String) : IO (Except FileFault String) := do
  try
    let bytes ← IO.FS.readBinFile path
    return match String.fromUTF8? bytes with
      | some text => .ok text
      | none => .error .notText
  catch
    | .noFileOrDirectory .. => return .error .missing
    | .inappropriateType .. => return .error .isDirectory
    | e => return .error (.other (toString e))

/-- A line of the log. -/
def logLine (event : Event) : String :=
  let fields := event.fields.map fun (name, value) => " " ++ name ++ "=" ++ value.compact
  event.level.label ++ " " ++ event.message ++ String.join fields

/-- What is said of arguments that are refused. -/
def usage (_ : List String) : String := Report.usageLine ++ "\n"

/-- The only file that a run can look at is the one its arguments name. -/
def report (args : List String) : IO Report := do
  match Invocation.ofArguments args with
  | .ok { configuration := some path, .. } =>
    let text ← readFile path
    return Report.explained usage (fun _ => text) args
  | _ => return Report.explained usage (fun _ => .error .missing) args

end OpenCLRegistry.Program

def main (args : List String) : IO UInt32 := do
  let report ← OpenCLRegistry.Program.report args
  for event in report.log do
    IO.eprintln (OpenCLRegistry.Program.logLine event)
  IO.print report.stdout
  IO.eprint report.stderr
  return report.exitCode.toUInt32
