import Rollup.CommandLine.Run
import Std.Time.DateTime.Timestamp

/-!
# The program

Reads the arguments, the files and the line that a command needs, runs the command, and writes what it
leaves: one line of JSON after the other on standard output, and an error on standard error.
-/

namespace Rollup

/-- How the program is called. -/
def usage : String :=
  "usage: [--config FILE] materialize --fixture FILE --report ID\n" ++
  "       [--config FILE] query --fixture FILE\n" ++
  "       [--config FILE] count --fixture FILE --report ID [--owners GROUP,GROUP]\n" ++
  "       [--config FILE] download --fixture FILE"

/-- The text of a file, if it can be read. -/
def readFile? (path : String) : IO (Option String) := do
  try return some (← IO.FS.readFile path)
  catch _ => return none

/-- The time of day. -/
def timeOfDay : IO Instant := do
  let now ← Std.Time.Timestamp.now
  return (Instant.ofParts? now.toSecondsSinceUnixEpoch.val
    (now.toNanosecondsSinceUnixEpoch.val % 1000000000).toNat).getD .epoch

/-- What the command of an invocation finds around it. -/
def surroundings (i : Invocation) : IO Surroundings := do
  let paths := i.config.toList ++ [i.command.fixture]
  let texts ← paths.mapM fun path => do return (path, ← readFile? path)
  let line ← if i.command.readsQuery then (← IO.getStdin).getLine else pure ""
  return {
    file := fun path => (texts.find? fun (p, _) => p == path).bind Prod.snd
    line
    time := ← timeOfDay }

end Rollup

/-- **Runs the program.** -/
def main (args : List String) : IO UInt32 := do
  match Rollup.Call.read? args with
  | none =>
    IO.eprintln Rollup.usage
    return 2
  | some .version =>
    IO.println Rollup.CommandLine.version
    return 0
  | some (.run invocation) =>
    let outcome := Rollup.CommandLine.run invocation (← Rollup.surroundings invocation)
    for line in outcome.lines do
      IO.println line.compact
    match outcome.error with
    | none => return 0
    | some e =>
      IO.eprintln e.message
      return 1
