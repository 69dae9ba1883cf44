import Classwright.CommandLine.Reach
import Std.Time.Format

/-!
# The program

The program fetches what a run reaches from the disk, lets the run take place, and puts what it
leaves on the disk and the console.
-/

namespace Classwright.Program

/-- A text given from outside. -/
def given (s : String) : Text := s.toList

/-- A text for outside. -/
def handed (t : Text) : String := String.ofList t

/-- A place as the system names it. -/
def named (place : Place) : String := handed ("/" ++ Text.join "/" place)

/-- What stands at a place of the disk; the system refuses to read a directory with a number of its
own. -/
def nodeAt (place : Place) : IO (Option Node) := do
  try
    return some (.file (← IO.FS.readBinFile (named place)).data.toList)
  catch
    | .inappropriateType _ 21 _ => return some .directory
    | _ => return none

/-- The disk with what stands at these places. -/
def fetched (home : Place) (places : List Place) : IO Disk := do
  let mut nodes : Table Place Node := []
  for place in places.eraseDups do
    if let some node ← nodeAt place then nodes := nodes.insert place node
  return { nodes, home }

/-- The variables of the environment. -/
def environment : IO Environment := do
  try
    let all ← IO.FS.readFile "/proc/self/environ"
    return (Text.split (· == '\x00') (given all)).map fun entry =>
      (entry.takeWhile (· != '='), (entry.dropWhile (· != '=')).drop 1)
  catch _ => return []

/-- A number with at least so many digits. -/
def digits (width : Nat) (n : Int) : Text :=
  let written := Text.ofInt n
  List.replicate (width - written.length) '0' ++ written

/-- The time of the day to the thousandth of a second. -/
def clock : IO Text := do
  let now ← Std.Time.PlainTime.now
  return digits 2 now.hour.val ++ ":" ++ digits 2 now.minute.val ++ ":" ++ digits 2 now.second.val
    ++ "." ++ digits 3 (now.nanosecond.val / 1000000)

/-- A notice as the console shows it. -/
def shown : Notice → IO Text
  | .timed text => return (← clock) ++ " | " ++ text
  | .plain text => return text

/-- Puts a node on the disk. -/
def put : Place × Node → IO Unit
  | (place, .directory) => IO.FS.createDir (named place)
  | (place, .file content) => IO.FS.writeBinFile (named place) ⟨content.toArray⟩

/-- A run of the program with the words on its command line; the answer is its code. -/
def run (list : List Text) : IO UInt32 := do
  let home := (Path.ofText (given (toString (← IO.currentDir)))).names
  let environment ← environment
  let read := CommandLine.pathsRead environment list
  let readable ← fetched home (read.flatMap (CommandLine.placesOn home))
  let written := CommandLine.pathsWritten environment readable list
  let disk ← fetched home ((read ++ written).flatMap (CommandLine.placesOn home))
  let outcome := CommandLine.run environment disk list
  for node in CommandLine.addedNodes disk outcome.disk do put node
  for notice in outcome.notices do IO.eprintln (handed (← shown notice))
  IO.print (handed outcome.report)
  match outcome.ending with
  | .exit code => return code.toUInt32
  | .broken error => do
      IO.eprintln (handed error.message)
      return 1

end Classwright.Program

/-- The program. -/
def main (arguments : List String) : IO UInt32 :=
  Classwright.Program.run (arguments.map Classwright.Program.given)
