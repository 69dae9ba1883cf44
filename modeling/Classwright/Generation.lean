import Classwright.Class.Assembly
import Classwright.Config.Settings
import Classwright.Disk.Change

/-!
# Generation — classes as files

Every class of a project gets a file of its own. Where the files go, whether something is there
already and what they hold is settled before the first of them is written.

* `directory`: where the file of a class goes.
* `generateClass`: one class as a file.
* `Planned`, `plan`, `generate`: a whole project.
-/

namespace Classwright.Generation

/-! ### Places and contents -/

/-- The directory that a class goes to: its own, else that of the caller, else that of the project,
else that of the settings. -/
def directory (settings : Settings) (given : Text) (project : Project) (c : Class) :
    Except Error Path :=
  match [c.output, given, project.defaultOutput, settings.outputDirectory].find? (· ≠ []) with
  | some t => .ok (.ofText t)
  | none => .error (.noOutputDirectory c.name)

/-- The file of a class in a directory. -/
def filePath (directory : Path) (extension : Text) (c : Class) : Path :=
  directory.join (.ofText (c.name ++ extension))

/-- The content of a file of lines, each as a writer sends it. -/
def content (lines : List Text) : Text := lines.flatMap Writer.sentLine

/-! ### One class -/

/-- Writes a class to a file in a directory, which is made if it is not there. -/
def generateClass (c : Class) (directory : Path) (extension : Text) : Action Disk Path := do
  let lines ← Action.ofExcept c.render
  Disk.makeDirectories directory
  let path := filePath directory extension c
  Action.log .info Log.generation ("Writing " ++ c.name ++ " to " ++ path.text)
  Disk.createFile path (content lines)
  return path

/-! ### A project -/

/-- A file that is going to be written. -/
structure Planned where
  path : Path
  lines : List Text
  deriving DecidableEq, Repr

/-- The file of a class, on a disk that has none at its path. -/
def plan (settings : Settings) (given : Text) (project : Project) (disk : Disk) (c : Class) :
    Except Error Planned := do
  let path := filePath (← directory settings given project c) settings.extension c
  if disk.has path then throw (.outputExists path.text)
  return { path, lines := ← c.render }

/-- Writes a planned file; the directory is made if it is not there. -/
def write (planned : Planned) : Action Disk Unit := do
  Disk.makeDirectories planned.path.parent
  Action.log .info Log.generation ("Writing " ++ planned.path.text)
  Disk.createFile planned.path (content planned.lines)

/-- Writes planned files, one after the other. -/
def writeAll : List Planned → Action Disk Unit
  | [] => pure ()
  | planned :: rest => do
      write planned
      writeAll rest

/-- Writes the classes of a project; all of them are planned on the disk as it is before the first
is written. -/
def generate (settings : Settings) (given : Text) (project : Project) : Action Disk (List Path) := do
  let disk ← Action.state
  let planned ← Action.ofExcept (project.classes.mapM (plan settings given project disk))
  writeAll planned
  Action.log .info Log.generation ("Generated " ++ Text.ofNat planned.length ++ " classes")
  return planned.map (·.path)

end Classwright.Generation
