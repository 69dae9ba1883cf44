import Classwright.CommandLine.Arguments
import Classwright.Config.Logging
import Classwright.Document.Input
import Classwright.Generation

/-!
# CommandLine — runs

A run reads its settings and sets up its loggers before it looks at its arguments. It ends with a
code, or breaks off with a failure that it does not report itself.

* `Outcome`: what a run leaves.
* `generate`: the work of a run.
* `run`: a whole run.
-/

namespace Classwright.CommandLine

/-- How a run ends. -/
inductive Ending where
  | exit (code : Nat)
  | broken (error : Error)
  deriving DecidableEq, Repr

/-- What a run leaves: its report, what it says on the console, its end and the disk. -/
structure Outcome where
  report : Text := []
  notices : List Notice := []
  ending : Ending
  disk : Disk

/-- The console of a run, times apart. -/
def Outcome.console (outcome : Outcome) : Text :=
  outcome.notices.flatMap fun notice => notice.text ++ ['\n']

/-- The line of a report about a file. -/
def wrote (path : Path) : Text := "  wrote " ++ path.text

/-- The last line of a report. -/
def done : Text := "Done."

/-- Lines, each with a line feed. -/
def report (lines : List Text) : Text := lines.flatMap fun line => line ++ ['\n']

/-- The loggers that the parts of the program have. -/
def programLoggers : List Text := [Log.generation, Log.document, Log.macros]

/-- The settings and the loggers that a run starts with. -/
def start (environment : Environment) (disk : Disk) : Except Error (Settings × Loggers) := do
  let settings ← Settings.load environment disk
  let loggers ← Loggers.setUp {} environment disk none []
  return (settings, loggers.add programLoggers)

/-- The work of a run: the classes that the input describes, as files. -/
def generate (settings : Settings) (arguments : Arguments) : Action Disk (List Path) := do
  let (project, _) ← Action.within (Document.load (← Action.state) arguments.input) {}
  Generation.generate settings arguments.outputDirectory project

/-- The outcome of the work of a run. -/
def work (settings : Settings) (loggers : Loggers) (disk : Disk) (arguments : Arguments) :
    Outcome :=
  let (result, left) := (generate settings arguments).start disk
  let notices := left.log.flatMap loggers.notices
  match result with
  | .ok paths =>
      { report := report (paths.map wrote ++ [done])
        notices
        ending := .exit 0
        disk := left.state }
  | .error error =>
      if error.isReported then
        { notices := notices ++ [.plain ("FAIL: " ++ error.message)]
          ending := .exit 1
          disk := left.state }
      else { notices, ending := .broken error, disk := left.state }

/-- A run with the texts on its command line. -/
def run (environment : Environment) (disk : Disk) (list : List Text) : Outcome :=
  match start environment disk with
  | .error error => { ending := .broken error, disk }
  | .ok (settings, loggers) =>
      match Arguments.ofList list with
      | .error .help => { report := report help, ending := .exit 0, disk }
      | .error (.refused misuse) =>
          { notices := usage.map .plain ++ [.plain ("classgen: error: " ++ misuse.message)]
            ending := .exit 2
            disk }
      | .ok arguments =>
          match loggers.setUp environment disk arguments.loggingConfig arguments.logLevel with
          | .error error => { ending := .broken error, disk }
          | .ok loggers => work settings loggers disk arguments

end Classwright.CommandLine
