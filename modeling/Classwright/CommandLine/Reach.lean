import Classwright.CommandLine.Run

/-!
# CommandLine — the part of a disk that a run reaches

A run looks at few places: the files it reads, the files it writes, and the directories on the way
to both. A disk on which just these places are as they are elsewhere serves the run as well.

* `placesOn`: the places on the way of a path.
* `pathsRead`: the paths of the files that a run reads.
* `pathsWritten`: the paths of the files that a run writes.
* `addedNodes`: what a run leaves that was not there before.
-/

namespace Classwright.CommandLine

/-- The places that names pass through from one, and the last. -/
def placesFrom : (place : Place) → List Text → List Place
  | place, [] => [place]
  | place, name :: names => place :: placesFrom (Disk.step place name) names

/-- The places on the way of a path from the working directory. -/
def placesOn (home : Place) (path : Path) : List Place :=
  placesFrom [] home ++ placesFrom (Disk.start { home } path.anchor) path.names

/-- The paths of the files that a run reads: variables, the logging configuration, the input. -/
def pathsRead (environment : Environment) (list : List Text) : List Path :=
  let named :=
    match Arguments.ofList list with
    | .ok arguments => arguments.input :: arguments.loggingConfig.toList
    | .error _ => []
  Settings.variableFile :: (Logging.path? environment none).toList ++ named

/-- The paths of the files that a run writes, given a disk with what it reads. -/
def pathsWritten (environment : Environment) (disk : Disk) (list : List Text) : List Path :=
  match Settings.load environment disk, Arguments.ofList list with
  | .ok settings, .ok arguments =>
      match ((Document.load disk arguments.input).start {}).1 with
      | .ok project => project.classes.filterMap fun c =>
          (Generation.directory settings arguments.outputDirectory project c).toOption.map
            fun directory => Generation.filePath directory settings.extension c
      | .error _ => []
  | _, _ => []

/-- What is on a disk that was not on it before, in the order in which it came. -/
def addedNodes (before after : Disk) : List (Place × Node) :=
  after.nodes.filter fun entry => !before.nodes.contains entry.1

end Classwright.CommandLine
