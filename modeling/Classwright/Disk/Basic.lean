import Classwright.Disk.Path
import Classwright.Error
import Classwright.Table
import Classwright.Text.Encoded

/-!
# Disk — directories and files

A disk is a table of places. A path is followed name by name: whatever it passes through has to be
a directory.

* `Disk`, `Node`, `Place`: what stands where.
* `Disk.follow`, `Disk.find`: where a path leads and what is there.
* `Disk.withDirectory`, `Disk.withFile`: one more directory or file where nothing was.
* `Disk.node?_of_withNode`: what was there stays.
-/

namespace Classwright

/-- A place on a disk: the names that lead there from the root. -/
abbrev Place := List Text

/-- What stands at a place. -/
inductive Node where
  | directory
  | file (content : Bytes)
  deriving DecidableEq

/-- The content of a disk, apart from the root, and the working directory. -/
structure Disk where
  nodes : Table Place Node := []
  home : Place := []
  deriving DecidableEq

namespace Disk

/-! ### Looking -/

/-- What stands at a place, if something does; the root is a directory. -/
def node? (disk : Disk) (place : Place) : Option Node :=
  if place = [] then some .directory else disk.nodes.find? place

/-- The place that a name leads to from a directory. -/
def step (place : Place) (name : Text) : Place :=
  if name = ".." then place.dropLast else place ++ [name]

/-- The place that names lead to from another. All places on the way have to be directories; the
last need not be anything. -/
def followNames (disk : Disk) : (place : Place) → List Text → Except FileFault Place
  | place, [] => .ok place
  | place, name :: names =>
      match disk.node? place with
      | none => .error .missing
      | some (.file _) => .error .notDirectory
      | some .directory => followNames disk (step place name) names

/-- The place that a path starts from. -/
def start (disk : Disk) : Anchor → Place
  | .home => disk.home
  | .root | .doubledRoot => []

/-- The place that a path leads to. -/
def follow (disk : Disk) (path : Path) : Except FileFault Place :=
  disk.followNames (disk.start path.anchor) path.names

/-- What a path leads to. -/
def find (disk : Disk) (path : Path) : Except FileFault Node := do
  match disk.node? (← disk.follow path) with
  | none => throw .missing
  | some node => return node

/-- Does the path lead to something? -/
def has (disk : Disk) (path : Path) : Bool := (disk.find path).toBool

/-- Does the path lead to a directory? -/
def hasDirectory (disk : Disk) (path : Path) : Bool :=
  match disk.find path with
  | .ok .directory => true
  | _ => false

/-- Does the path lead to a file? -/
def hasFile (disk : Disk) (path : Path) : Bool :=
  match disk.find path with
  | .ok (.file _) => true
  | _ => false

/-- The bytes of the file that a path leads to. -/
def bytes (disk : Disk) (path : Path) : Except FileFault Bytes := do
  match ← disk.find path with
  | .directory => throw .isDirectory
  | .file content => return content

/-- The text of a file, with line feeds for all line ends. -/
def textOf (content : Bytes) : Except Error Text :=
  match Text.decoded? content with
  | none => .error .undecodable
  | some t => .ok (Text.unifyReturns t)

/-- The text of the file that a path leads to; a failure names the path. -/
def text (disk : Disk) (path : Path) : Except Error Text :=
  match disk.bytes path with
  | .error fault => .error (.refusedPath path.text fault)
  | .ok content => textOf content

/-! ### Adding -/

/-- The disk with a node at the place that the path leads to, where nothing has been. -/
def withNode (disk : Disk) (path : Path) (node : Node) : Except FileFault Disk := do
  let place ← disk.follow path
  match disk.node? place with
  | some _ => throw .present
  | none => return { disk with nodes := disk.nodes.insert place node }

theorem withNode_eq_ok_iff {disk after : Disk} {path : Path} {node : Node} :
    disk.withNode path node = .ok after ↔
      ∃ place, disk.follow path = .ok place ∧ disk.node? place = none ∧
        after = { disk with nodes := disk.nodes.insert place node } := by
  unfold withNode
  cases hf : disk.follow path with
  | error fault =>
      refine ⟨fun h => ?_, fun ⟨_, h, _⟩ => ?_⟩
      · cases h
      · cases h
  | ok place =>
      cases hn : disk.node? place with
      | some found =>
          refine ⟨fun h => ?_, fun ⟨other, h, hnone, _⟩ => ?_⟩
          · simp [bind, Except.bind, hn] at h
          · cases h
            rw [hn] at hnone
            cases hnone
      | none =>
          refine ⟨fun h => ⟨place, rfl, hn, ?_⟩, fun ⟨other, h, _, ha⟩ => ?_⟩
          · simp only [bind, Except.bind, hn, pure, Except.pure] at h
            exact (Except.ok.inj h).symm
          · cases h
            simp only [bind, Except.bind, hn, pure, Except.pure, ha]

/-- What is added stands at its place, and nothing else changes. -/
theorem node?_insert (disk : Disk) {place other : Place} (node : Node) (h : place ≠ []) :
    Disk.node? { disk with nodes := disk.nodes.insert place node } other
      = if place = other then some node else disk.node? other := by
  by_cases ho : other = []
  · subst ho
    simp [node?, h]
  · simp only [node?, ho, if_false, Table.find?_insert]

/-- What was there before something was added is there afterwards. -/
theorem node?_of_withNode {disk after : Disk} {path : Path} {node found : Node} {other : Place}
    (h : disk.withNode path node = .ok after) (hf : disk.node? other = some found) :
    after.node? other = some found := by
  obtain ⟨place, _, hn, rfl⟩ := withNode_eq_ok_iff.mp h
  have ne_nil : place ≠ [] := by
    rintro rfl
    simp [node?] at hn
  rw [node?_insert disk node ne_nil]
  split
  next he =>
    subst he
    rw [hn] at hf
    cases hf
  next => exact hf

/-- The disk with one more directory, in one that is there. -/
def withDirectory (disk : Disk) (path : Path) : Except FileFault Disk :=
  disk.withNode path .directory

/-- The disk with one more file, in a directory that is there. -/
def withFile (disk : Disk) (path : Path) (content : Text) : Except FileFault Disk :=
  disk.withNode path (.file content.encoded)

end Disk

end Classwright
