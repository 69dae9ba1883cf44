import Classwright.Action
import Classwright.Disk.Basic

/-!
# Disk — changes

* `Disk.makeDirectory`, `Disk.makeDirectories`: a directory at a path, with those on the way.
* `Disk.createFile`: a new file at a path; what is there already is never touched.
-/

namespace Classwright.Disk

/-- Sees to it that there is a directory at the path, without making any on the way. -/
def makeDirectory (path : Path) : Action Disk Unit := do
  let disk ← Action.state
  match disk.withDirectory path with
  | .ok disk => Action.put disk
  | .error fault => if disk.hasDirectory path then pure () else throw (.refusedPath path.text fault)

/-- Sees to it that there is a directory at the path. When something on the way is missing, the way
to the parent is made first. -/
def makeDirectories (path : Path) : Action Disk Unit := do
  let disk ← Action.state
  match disk.withDirectory path, _h : path.parent? with
  | .error .missing, some parent =>
      makeDirectories parent
      makeDirectory path
  | _, _ => makeDirectory path
termination_by path.names.length
decreasing_by exact Path.length_names_of_parent? ‹_›

/-- Creates a file; a path that is taken is refused. -/
def createFile (path : Path) (content : Text) : Action Disk Unit := do
  match (← Action.state).withFile path content with
  | .ok disk => Action.put disk
  | .error .present => throw (.outputExists path.text)
  | .error fault => throw (.refusedPath path.text fault)

end Classwright.Disk
