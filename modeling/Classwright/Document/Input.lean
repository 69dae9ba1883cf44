import Classwright.Disk.Basic
import Classwright.Document.Project

/-!
# Document — input files

* `inputText`: the text of an input file.
* `load`: the project that an input file describes.
-/

namespace Classwright.Document

/-- The text of an input file; a failure to read it names the path. -/
def inputText (disk : Disk) (path : Path) : Except Error Text :=
  match disk.bytes path with
  | .error fault => .error (.unreadableInput path.text fault)
  | .ok content => Disk.textOf content

/-- The project that an input file describes. -/
def load (disk : Disk) (path : Path) : Action Macro.Registry Project := do
  project (← Action.ofExcept (inputText disk path))

end Classwright.Document
