import MetricSeries.CommandLine
import Std.Time.DateTime.Timestamp

/-!
# The program

Gathers what `CommandLine.run` looks at, the arguments, the environment, the files and the clock,
and prints the outcome.
-/

namespace MetricSeries.CommandLine

def fileProblem : IO.Error → String
  | .noFileOrDirectory .. => "No such file or directory (os error 2)"
  | .permissionDenied .. => "Permission denied (os error 13)"
  | .inappropriateType .. => "Is a directory (os error 21)"
  | e => toString e

def fileText (path : String) : IO (Except String String) := do
  try
    let bytes ← IO.FS.readBinFile path
    match String.fromUTF8? bytes with
    | some text => return .ok text
    | none => return .error "stream did not contain valid UTF-8"
  catch e => return .error (fileProblem e)

/-- The zone that the environment names, universal time where it names none that is known. -/
def systemZone : IO Time.Zone :=
  return ((← IO.getEnv "TZ").bind Time.Zone.ofName?).getD .utc

def systemClock : IO Time.Clock := do
  let now ← Std.Time.Timestamp.now
  return ⟨← systemZone, now.toMillisecondsSinceUnixEpoch.val⟩

/-- Runs the program on the system. Every argument may name a file to read. -/
def execute (arguments : List String) : IO UInt32 := do
  let files ← arguments.mapM fun path => return (path, ← fileText path)
  let names := [Config.maxPointsVariable, Config.schemaVariable, Config.precisionVariable]
  let settings ← names.mapM fun name => return (name, ← IO.getEnv name)
  let outcome := run
    { program := (← IO.appPath).fileName.getD "explain"
      setting := fun name => (settings.lookup name).join
      file := fun path => (files.lookup path).getD (.error "file was not looked up")
      clock := ← systemClock } arguments
  IO.print outcome.output
  IO.eprint outcome.errors
  return outcome.exitStatus.toUInt32

end MetricSeries.CommandLine

def main (arguments : List String) : IO UInt32 := MetricSeries.CommandLine.execute arguments
