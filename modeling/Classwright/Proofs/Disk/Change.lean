import Classwright.Disk.Change
import Classwright.Proofs.Action
import Classwright.Proofs.Disk.Route

/-!
# Disk — what changes leave

Directories are made along the route of a path until a file is in the way; a file is created at a
target where nothing is.  Neither touches what was there.

* `Disk.Opened`: a disk with directories at some places where nothing was.
* `Disk.makeDirectories_induction`: what holds of one directory holds of those on the way as well.
* `Disk.makeDirectories_run`: directories are made on the whole route, or a file is on it and the
  path is refused.
* `Disk.createFile_run_vacant`, `Disk.createFile_run_taken`: a file is created exactly at a vacant
  target.
* `Disk.find_of_createFile`: a file that was created is found.
-/

namespace Classwright.Disk

open Classwright.Action

/-! ### Nodes -/

theorem withNode_of_vacant {disk : Disk} {path : Path} (node : Node)
    (h : disk.follow path = .ok (disk.target path)) (hn : disk.node? (disk.target path) = none) :
    disk.withNode path node
      = .ok { disk with nodes := disk.nodes.insert (disk.target path) node } :=
  withNode_eq_ok_iff.mpr ⟨disk.target path, h, hn, rfl⟩

theorem withNode_of_taken {disk : Disk} {path : Path} {found : Node} (node : Node)
    (h : disk.follow path = .ok (disk.target path))
    (hn : disk.node? (disk.target path) = some found) :
    disk.withNode path node = .error .present := by
  simp only [withNode, h, bind, Except.bind, hn]
  rfl

theorem withNode_of_broken {disk : Disk} {path : Path} {fault : FileFault} (node : Node)
    (h : disk.follow path = .error fault) : disk.withNode path node = .error fault := by
  simp only [withNode, h, bind, Except.bind]

/-- What is added at a vacant place stands there, and nothing else changes. -/
theorem node?_insert_vacant {disk : Disk} {place : Place} (node : Node)
    (h : disk.node? place = none) (other : Place) :
    Disk.node? { disk with nodes := disk.nodes.insert place node } other
      = if place = other then some node else disk.node? other := by
  refine node?_insert disk node ?_
  rintro rfl
  simp [node?] at h

/-! ### Directories -/

/-- `after` is `before` with directories at some of the places where nothing was. -/
structure Opened (before after : Disk) (places : List Place) : Prop where
  home : after.home = before.home
  node : ∀ place, after.node? place = before.node? place ∨
    before.node? place = none ∧ place ∈ places ∧ after.node? place = some .directory

namespace Opened

variable {before middle after : Disk} {places more : List Place}

theorem refl (disk : Disk) (places : List Place) : Opened disk disk places :=
  ⟨rfl, fun _ => .inl rfl⟩

theorem mono (h : Opened before after places) (sub : ∀ place ∈ places, place ∈ more) :
    Opened before after more := by
  refine ⟨h.home, fun place => ?_⟩
  rcases h.node place with same | ⟨hn, hp, hd⟩
  · exact .inl same
  · exact .inr ⟨hn, sub place hp, hd⟩

theorem trans (h₁ : Opened before middle places) (h₂ : Opened middle after places) :
    Opened before after places := by
  refine ⟨h₂.home.trans h₁.home, fun place => ?_⟩
  rcases h₂.node place with same₂ | ⟨hn₂, hp₂, hd₂⟩
  · rw [same₂]
    exact h₁.node place
  · rcases h₁.node place with same₁ | ⟨-, -, hd₁⟩
    · exact .inr ⟨same₁ ▸ hn₂, hp₂, hd₂⟩
    · rw [hd₁] at hn₂; cases hn₂

/-- What stood somewhere stands there still. -/
theorem node_of_some (h : Opened before after places) {place : Place} {node : Node}
    (hn : before.node? place = some node) : after.node? place = some node := by
  rcases h.node place with same | ⟨none, -, -⟩
  · rw [same, hn]
  · rw [hn] at none; cases none

theorem fileAt? (h : Opened before after places) (place : Place) :
    after.fileAt? place = before.fileAt? place := by
  rcases h.node place with same | ⟨hn, -, hd⟩
  · exact fileAt?_congr same
  · rw [fileAt?_eq_none_of_none hn, fileAt?_eq_none_of_directory hd]

theorem sameFiles (h : Opened before after places) : SameFiles before after := h.fileAt?

end Opened

/-- Making directories is looking at the disk and making one directory after another: what holds of
these and is kept by sequences holds of it. -/
theorem makeDirectories_induction {P : Action Disk Unit → Prop}
    (look : ∀ next : Disk → Action Disk Unit, (∀ disk, P (next disk)) → P (state >>= next))
    (sequence : ∀ first second, P first → P second → P (first >>= fun _ => second))
    (one : ∀ path, P (makeDirectory path)) (path : Path) : P (makeDirectories path) := by
  rw [makeDirectories]
  refine look _ fun disk => ?_
  split
  next parent _ hp =>
    exact sequence _ _ (makeDirectories_induction look sequence one parent) (one path)
  next => exact one path
termination_by path.names.length
decreasing_by exact Path.length_names_of_parent? ‹_›

/-- In a directory, one more directory is made, unless a file stands at its place. -/
theorem makeDirectory_run {disk : Disk} {path : Path} (log : List Log.Record)
    (h : ∀ p ∈ (disk.route path).dropLast, disk.node? p = some .directory) :
    (∃ after, runFrom (makeDirectory path) { state := disk, log }
        = (.ok (), { state := after, log }) ∧
      Opened disk after (disk.route path) ∧ after.node? (disk.target path) = some .directory) ∨
    (∃ fault, runFrom (makeDirectory path) { state := disk, log }
        = (.error (.refusedPath path.text fault), { state := disk, log }) ∧
      ∃ content, disk.node? (disk.target path) = some (.file content)) := by
  have hf := follow_eq_ok h
  rw [makeDirectory, runFrom_state_bind]
  cases hn : disk.node? (disk.target path) with
  | none =>
      have added := node?_insert_vacant .directory hn
      refine .inl ⟨{ disk with nodes := disk.nodes.insert (disk.target path) .directory }, ?_,
        ⟨rfl, fun place => ?_⟩, by rw [added, if_pos rfl]⟩
      · simp only [withDirectory, withNode_of_vacant .directory hf hn]
        rfl
      · rw [added]
        split
        next he =>
            subst he
            exact .inr ⟨hn, target_mem_route disk path, rfl⟩
        next => exact .inl rfl
  | some node =>
      have found : disk.find path = .ok node := find_eq_ok h hn
      cases node with
      | directory =>
          refine .inl ⟨disk, ?_, .refl _ _, hn⟩
          simp only [withDirectory, withNode_of_taken .directory hf hn, hasDirectory, found]
          rfl
      | file content =>
          refine .inr ⟨.present, ?_, content, rfl⟩
          simp only [withDirectory, withNode_of_taken .directory hf hn, hasDirectory, found]
          rfl

/-- On a broken way no directory is made. -/
theorem makeDirectory_run_broken {disk : Disk} {path : Path} {fault : FileFault}
    (log : List Log.Record) (h : disk.follow path = .error fault) :
    runFrom (makeDirectory path) { state := disk, log }
      = (.error (.refusedPath path.text fault), { state := disk, log }) := by
  have lost : disk.find path = .error fault := by simp [find, h, bind, Except.bind]
  rw [makeDirectory, runFrom_state_bind]
  simp only [withDirectory, withNode_of_broken .directory h, hasDirectory, lost]
  rfl

theorem makeDirectories_of_missing {disk : Disk} {path up : Path} (log : List Log.Record)
    (h : disk.withDirectory path = .error .missing) (hp : path.parent? = some up) :
    runFrom (makeDirectories path) { state := disk, log }
      = runFrom (makeDirectories up >>= fun _ => makeDirectory path) { state := disk, log } := by
  rw [makeDirectories, runFrom_state_bind]
  split
  next parent he hp' =>
      rw [hp] at hp'
      cases hp'
      rfl
  next no => exact absurd hp (no up h)

theorem makeDirectories_of_ne_missing {disk : Disk} {path : Path} (log : List Log.Record)
    (h : disk.withDirectory path ≠ .error .missing) :
    runFrom (makeDirectories path) { state := disk, log }
      = runFrom (makeDirectory path) { state := disk, log } := by
  rw [makeDirectories, runFrom_state_bind]
  split
  next he _ => exact absurd he h
  next => rfl

/-- **The directories of a route.**  After a run that makes them every place of the route is a
directory; a run that does not has met a file there, and the file system has refused a path.
Either way nothing but directories is new, and only on the route. -/
theorem makeDirectories_run (disk : Disk) (path : Path) (log : List Log.Record) :
    ∃ after, Opened disk after (disk.route path) ∧
      ((runFrom (makeDirectories path) { state := disk, log } = (.ok (), { state := after, log }) ∧
        ∀ p ∈ disk.route path, after.node? p = some .directory) ∨
      (∃ refused fault, runFrom (makeDirectories path) { state := disk, log }
          = (.error (.refusedPath refused fault), { state := after, log }) ∧
        ∃ p ∈ disk.route path, disk.fileAt? p ≠ none)) := by
  rcases follow_cases disk path with ⟨hf, dirs⟩ | ⟨hf, p, hp, -⟩ | ⟨hf, p, hp, content, hn⟩
  · -- The way is open: only the last directory may be missing.
    have present : disk.withDirectory path ≠ .error .missing := by
      cases hn : disk.node? (disk.target path) with
      | none => simp [withDirectory, withNode_of_vacant .directory hf hn]
      | some node => simp [withDirectory, withNode_of_taken .directory hf hn]
    rw [makeDirectories_of_ne_missing log present]
    rcases makeDirectory_run log dirs with ⟨after, run, opened, last⟩ | ⟨fault, run, content, hn⟩
    · have before : ∀ p ∈ (disk.route path).dropLast, after.node? p = some .directory :=
        fun p hp => opened.node_of_some (dirs p hp)
      exact ⟨after, opened, .inl ⟨run, forall_mem_route before last⟩⟩
    · refine ⟨disk, .refl _ _, .inr ⟨_, fault, run, disk.target path, target_mem_route _ _, ?_⟩⟩
      simp [fileAt?_eq_some_iff.mpr hn]
  · -- Something on the way is missing: the way to the parent comes first.
    have missing : disk.withDirectory path = .error .missing := withNode_of_broken .directory hf
    obtain ⟨up, hu⟩ : ∃ up, path.parent? = some up := by
      unfold Path.parent?
      split
      next hnil => simp [route, hnil] at hp
      next => exact ⟨_, rfl⟩
    rw [makeDirectories_of_missing log missing hu]
    have sub : ∀ p ∈ disk.route up, p ∈ disk.route path := by
      rw [← dropLast_route disk hu]
      exact List.dropLast_subset _
    obtain ⟨middle, opened, ⟨run, dirs⟩ | ⟨refused, fault, run, p, hp, hn⟩⟩ :=
      makeDirectories_run disk up log
    · rw [runFrom_bind_ok run]
      have homes := opened.home
      have dirs' : ∀ p ∈ (middle.route path).dropLast, middle.node? p = some .directory := by
        rw [route_congr homes, dropLast_route disk hu]
        exact dirs
      rcases makeDirectory_run log dirs'
        with ⟨after, run', opened', last⟩ | ⟨fault, run', content, hn⟩
      · rw [route_congr homes] at opened'
        rw [target_congr homes] at last
        have before : ∀ p ∈ (disk.route path).dropLast, after.node? p = some .directory := by
          rw [dropLast_route disk hu]
          exact fun p hp => opened'.node_of_some (dirs p hp)
        exact ⟨after, (opened.mono sub).trans opened',
          .inl ⟨run', forall_mem_route before last⟩⟩
      · refine ⟨middle, opened.mono sub,
          .inr ⟨_, fault, run', disk.target path, target_mem_route _ _, ?_⟩⟩
        rw [target_congr homes] at hn
        -- The file was there before: directories are all that the way to the parent has added.
        rw [← opened.fileAt?, fileAt?_eq_some_iff.mpr hn]
        simp
    · exact ⟨middle, opened.mono sub,
        .inr ⟨refused, fault, runFrom_bind_error run, p, sub p hp, hn⟩⟩
  · -- A file breaks the way.
    have broken : disk.withDirectory path ≠ .error .missing := by
      simp [withDirectory, withNode_of_broken .directory hf]
    rw [makeDirectories_of_ne_missing log broken]
    refine ⟨disk, .refl _ _, .inr ⟨_, _, makeDirectory_run_broken log hf, p, ?_, ?_⟩⟩
    · exact List.dropLast_subset _ hp
    · simp [fileAt?_eq_some_iff.mpr hn]
termination_by path.names.length
decreasing_by exact Path.length_names_of_parent? ‹_›

/-! ### Files -/

theorem createFile_run_vacant {disk : Disk} {path : Path} (content : Text) (log : List Log.Record)
    (h : disk.follow path = .ok (disk.target path)) (hn : disk.node? (disk.target path) = none) :
    runFrom (createFile path content) { state := disk, log } = (.ok (),
      { state := { disk with
          nodes := disk.nodes.insert (disk.target path) (.file content.encoded) }, log }) := by
  rw [createFile, runFrom_state_bind]
  simp only [withFile, withNode_of_vacant (.file content.encoded) h hn]
  rfl

theorem createFile_run_taken {disk : Disk} {path : Path} {found : Node} (content : Text)
    (log : List Log.Record) (h : disk.follow path = .ok (disk.target path))
    (hn : disk.node? (disk.target path) = some found) :
    runFrom (createFile path content) { state := disk, log }
      = (.error (.outputExists path.text), { state := disk, log }) := by
  rw [createFile, runFrom_state_bind]
  simp only [withFile, withNode_of_taken (.file content.encoded) h hn]
  rfl

/-- What is added at a path is found there. -/
theorem find_of_withNode {disk after : Disk} {path : Path} {node : Node}
    (h : disk.withNode path node = .ok after) : after.find path = .ok node := by
  obtain ⟨place, hf, hn, he⟩ := withNode_eq_ok_iff.mp h
  rcases follow_cases disk path with ⟨hf', dirs⟩ | ⟨hf', -⟩ | ⟨hf', -⟩
  · cases hf.symm.trans hf'
    have homes : after.home = disk.home := by rw [he]
    refine find_eq_ok (fun p hp => ?_) ?_
    · rw [route_congr homes] at hp
      exact node?_of_withNode h (dirs p hp)
    · rw [target_congr homes, he, node?_insert_vacant node hn, if_pos rfl]
  · rw [hf'] at hf; cases hf
  · rw [hf'] at hf; cases hf

theorem find_of_createFile {path : Path} {content : Text} {start left : Logged Disk}
    (h : runFrom (createFile path content) start = (.ok (), left)) :
    left.state.find path = .ok (.file content.encoded) := by
  rw [createFile, runFrom_state_bind] at h
  cases hw : start.state.withFile path content with
  | ok after =>
      rw [hw] at h
      cases h
      exact find_of_withNode hw
  | error fault =>
      rw [hw] at h
      cases fault <;> cases h

end Classwright.Disk
