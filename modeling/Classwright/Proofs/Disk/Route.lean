import Classwright.Disk.Basic

/-!
# Disk — the way of a path

A path names a place by steps from a start, whatever stands on the way.  The disk only decides
whether the steps can be taken: each place but the last has to be a directory.

* `Disk.route`, `Disk.target`: the places on the way of a path, and the last of them.
* `Disk.follow_cases`: a path is followed to its target, or the way is broken by a place where
  nothing is or by a file.
* `Disk.fileAt?`, `Disk.SameFiles`: the files of a disk, directories apart.
-/

namespace Classwright.Disk

/-! ### Places on the way -/

/-- The places on the way of a path, the first and the last included. -/
def route (disk : Disk) (path : Path) : List Place :=
  path.names.scanl step (disk.start path.anchor)

/-- The place that a path names. -/
def target (disk : Disk) (path : Path) : Place :=
  path.names.foldl step (disk.start path.anchor)

theorem start_congr {disk other : Disk} (h : other.home = disk.home) (anchor : Anchor) :
    other.start anchor = disk.start anchor := by
  cases anchor with
  | home => exact h
  | root | doubledRoot => rfl

/-- Routes depend on the working directory alone. -/
theorem route_congr {disk other : Disk} (h : other.home = disk.home) (path : Path) :
    other.route path = disk.route path := by
  rw [route, route, start_congr h]

theorem target_congr {disk other : Disk} (h : other.home = disk.home) (path : Path) :
    other.target path = disk.target path := by
  rw [target, target, start_congr h]

theorem target_mem_route (disk : Disk) (path : Path) : disk.target path ∈ disk.route path :=
  List.mem_of_getLast? List.getLast?_scanl

theorem route_ne_nil (disk : Disk) (path : Path) : disk.route path ≠ [] := List.scanl_ne_nil

theorem route_eq_dropLast_append (disk : Disk) (path : Path) :
    disk.route path = (disk.route path).dropLast ++ [disk.target path] := by
  have last : (disk.route path).getLast (disk.route_ne_nil path) = disk.target path :=
    List.getLast_scanl _
  rw [← last]
  exact (List.dropLast_concat_getLast _).symm

/-- What holds of the places before the last and of the last holds on the whole way. -/
theorem forall_mem_route {disk : Disk} {path : Path} {p : Place → Prop}
    (before : ∀ place ∈ (disk.route path).dropLast, p place) (last : p (disk.target path)) :
    ∀ place ∈ disk.route path, p place := by
  rw [route_eq_dropLast_append]
  intro place h
  rcases List.mem_append.mp h with h | h
  · exact before place h
  · cases List.mem_singleton.mp h
    exact last

/-- The way of a path is the way to its parent and one more place. -/
theorem dropLast_route {path up : Path} (disk : Disk) (h : path.parent? = some up) :
    (disk.route path).dropLast = disk.route up := by
  unfold Path.parent? at h
  split at h
  · cases h
  · next hne =>
      cases h
      have last := List.dropLast_concat_getLast hne
      rw [route, route, ← last, List.scanl_append, List.dropLast_concat]
      simp

/-! ### Following -/

/-- Names are followed to the end, or the first place that is no directory breaks the way. -/
theorem followNames_cases (disk : Disk) (names : List Text) (place : Place) :
    (disk.followNames place names = .ok (names.foldl step place) ∧
      ∀ p ∈ (names.scanl step place).dropLast, disk.node? p = some .directory) ∨
    (disk.followNames place names = .error .missing ∧
      ∃ p ∈ (names.scanl step place).dropLast, disk.node? p = none) ∨
    (disk.followNames place names = .error .notDirectory ∧
      ∃ p ∈ (names.scanl step place).dropLast, ∃ content, disk.node? p = some (.file content)) := by
  induction names generalizing place with
  | nil => exact .inl ⟨rfl, by simp⟩
  | cons name names ih =>
      have first : ((name :: names).scanl step place).dropLast
          = place :: (names.scanl step (step place name)).dropLast := by
        rw [List.scanl_cons, List.dropLast_cons_of_ne_nil List.scanl_ne_nil]
      rw [first]
      simp only [followNames, List.foldl_cons, List.mem_cons, forall_eq_or_imp, exists_eq_or_imp]
      cases hn : disk.node? place with
      | none => exact .inr (.inl ⟨rfl, .inl rfl⟩)
      | some node =>
          cases node with
          | file content => exact .inr (.inr ⟨rfl, .inl ⟨content, rfl⟩⟩)
          | directory =>
              rcases ih (step place name) with ⟨h, all⟩ | ⟨h, missing⟩ | ⟨h, file⟩
              · exact .inl ⟨h, rfl, all⟩
              · exact .inr (.inl ⟨h, .inr missing⟩)
              · exact .inr (.inr ⟨h, .inr file⟩)

/-- A path is followed to its target when the places before it are directories; else the way is
broken where nothing is, or at a file. -/
theorem follow_cases (disk : Disk) (path : Path) :
    (disk.follow path = .ok (disk.target path) ∧
      ∀ p ∈ (disk.route path).dropLast, disk.node? p = some .directory) ∨
    (disk.follow path = .error .missing ∧
      ∃ p ∈ (disk.route path).dropLast, disk.node? p = none) ∨
    (disk.follow path = .error .notDirectory ∧
      ∃ p ∈ (disk.route path).dropLast, ∃ content, disk.node? p = some (.file content)) :=
  followNames_cases disk path.names (disk.start path.anchor)

theorem follow_eq_ok {disk : Disk} {path : Path}
    (h : ∀ p ∈ (disk.route path).dropLast, disk.node? p = some .directory) :
    disk.follow path = .ok (disk.target path) := by
  rcases follow_cases disk path with ⟨hf, -⟩ | ⟨-, p, hp, hn⟩ | ⟨-, p, hp, content, hn⟩
  · exact hf
  · rw [h p hp] at hn; cases hn
  · rw [h p hp] at hn; cases hn

theorem find_eq_ok {disk : Disk} {path : Path} {node : Node}
    (h : ∀ p ∈ (disk.route path).dropLast, disk.node? p = some .directory)
    (hn : disk.node? (disk.target path) = some node) : disk.find path = .ok node := by
  simp [find, follow_eq_ok h, bind, Except.bind, hn, pure, Except.pure]

/-! ### Files -/

/-- The content of the file at a place, if a file stands there. -/
def fileAt? (disk : Disk) (place : Place) : Option Bytes :=
  match disk.node? place with
  | some (.file content) => some content
  | _ => none

theorem fileAt?_eq_some_iff {disk : Disk} {place : Place} {content : Bytes} :
    disk.fileAt? place = some content ↔ disk.node? place = some (.file content) := by
  unfold fileAt?
  split
  next found h => rw [h]; simp
  next h =>
      refine ⟨fun hc => (nomatch hc), fun hc => ?_⟩
      exact absurd hc (h content)

theorem fileAt?_eq_none_of_directory {disk : Disk} {place : Place}
    (h : disk.node? place = some .directory) : disk.fileAt? place = none := by
  simp [fileAt?, h]

theorem fileAt?_eq_none_of_none {disk : Disk} {place : Place} (h : disk.node? place = none) :
    disk.fileAt? place = none := by
  simp [fileAt?, h]

theorem fileAt?_congr {disk other : Disk} {place : Place}
    (h : other.node? place = disk.node? place) : other.fileAt? place = disk.fileAt? place := by
  simp [fileAt?, h]

/-- Two disks have the same files with the same contents. -/
def SameFiles (disk other : Disk) : Prop := ∀ place, other.fileAt? place = disk.fileAt? place

theorem SameFiles.refl (disk : Disk) : SameFiles disk disk := fun _ => rfl

end Classwright.Disk
