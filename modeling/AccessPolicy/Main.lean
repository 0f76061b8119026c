import AccessPolicy.CommandLine.Program
import Std.Time.DateTime.Timestamp

/-!
# The executable

Reads the arguments, the environment and the files that the arguments name, and runs the program
on them.
-/

namespace AccessPolicy.CommandLine

/-- What files and environment variables hold, by name. -/
abbrev Contents := List (String × String)

/-- The text of a file, if it can be read. -/
def readFile? (path : String) : IO (Option String) := do
  try
    return some (← IO.FS.readFile path)
  catch _ =>
    return none

/-- The environment variables that the program knows. -/
def readVariables : IO Contents := do
  let names := [policiesVariable, rolesVariable, configVariable]
  let found ← names.mapM fun name => do
    return (← IO.getEnv name).map fun value => (name, value)
  return found.filterMap id

/-- The texts of the files that an invocation names. -/
def readFiles (call : Invocation) : IO Contents := do
  let found ← call.files.mapM fun path => do
    return (← readFile? path).map fun text => (path, text)
  return found.filterMap id

/-- The present and a random number. -/
def readMoment : IO Moment := do
  let time ← Std.Time.Timestamp.now
  let nanos := time.toNanosecondsSinceUnixEpoch.val
  let some now := Instant.ofUnix? (nanos / 1000000000) (nanos % 1000000000).toNat
    | throw (IO.userError "the clock shows no date of the calendar")
  let draw ← IO.rand 0 (Nat.pow 2 53 - 1)
  return { now, sample := .ofRatio false draw (Nat.pow 2 53) }

end AccessPolicy.CommandLine

open AccessPolicy CommandLine in
/-- Runs the program on its arguments. -/
def main (args : List String) : IO UInt32 := do
  let found ← readVariables
  let environment : Variables := fun name => Entries.get? name found
  let files ← match Invocation.read environment args with
    | .ok call => readFiles call
    | .error _ => pure []
  let host : Host := {
    file? := fun path => Entries.get? path files
    environment
    moment := ← readMoment }
  let report := host.run args
  IO.print report.output
  report.notes.forM IO.eprintln
  return report.code.toUInt32
