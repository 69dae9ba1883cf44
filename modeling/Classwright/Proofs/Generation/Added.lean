import Classwright.Proofs.Disk.Growth
import Classwright.Proofs.Generation.Batch
import Mathlib.Data.List.Nodup

/-!
# Generation — what a run adds

A run only adds to the disk, whether it succeeds or fails.  A run that succeeds adds one file for
each class, at a path of its own where nothing was, and the file holds the rendered lines of the
class as a writer sends them.

* `generate_grows`: all that stood somewhere stands there still.
* `find_of_writeAll`: after a batch the path of each file leads to it.
* `Produced`: a class and the new file that a run has made of it.
* `produced_of_generate`: a run that succeeds has made a file of every class.
* `generation_adds_files`: old files are kept, and the new files are those of the classes.
-/

namespace Classwright.Generation

open Classwright.Action Disk

/-! ### Nothing goes -/

theorem write_grows (planned : Planned) : Grows (write planned) :=
  (makeDirectories_grows _).bind fun _ => (Grows.log _ _ _).bind fun _ => createFile_grows _ _

theorem writeAll_grows (batch : List Planned) : Grows (writeAll batch) := by
  induction batch with
  | nil => exact .pure ()
  | cons planned batch ih => exact (write_grows planned).bind fun _ => ih

theorem generate_grows (settings : Settings) (given : Text) (project : Project) :
    Grows (generate settings given project) :=
  Grows.state.bind fun _ => (Grows.ofExcept _).bind fun _ => (writeAll_grows _).bind fun _ =>
    (Grows.log _ _ _).bind fun _ => Grows.pure _

/-! ### A batch that is written -/

theorem find_of_write {planned : Planned} {start left : Logged Disk}
    (h : runFrom (write planned) start = (.ok (), left)) :
    left.state.find planned.path = .ok (.file planned.bytes) := by
  unfold write at h
  obtain ⟨-, second, -, h⟩ := of_runFrom_bind_ok h
  obtain ⟨-, third, -, h⟩ := of_runFrom_bind_ok h
  exact find_of_createFile h

/-- After a batch the path of each file leads to it: the files that come later leave it as it is. -/
theorem find_of_writeAll {batch : List Planned} {start left : Logged Disk}
    (h : runFrom (writeAll batch) start = (.ok (), left)) :
    ∀ planned ∈ batch, left.state.find planned.path = .ok (.file planned.bytes) := by
  induction batch generalizing start with
  | nil => simp
  | cons first rest ih =>
      obtain ⟨⟨⟩, middle, written, later⟩ := of_runFrom_bind_ok h
      have grown : Grown middle.state left.state := by
        have := writeAll_grows rest middle
        rwa [later] at this
      exact List.forall_mem_cons.mpr ⟨find_of_grown grown (find_of_write written), ih later⟩

/-- A batch that is written fits, and its files are all that is new. -/
theorem placed_of_writeAll {batch : List Planned} {start left : Logged Disk}
    (h : runFrom (writeAll batch) start = (.ok (), left)) :
    Fits start.state batch ∧ Placed start.state left.state batch := by
  obtain ⟨done, rest, after, log', rfl, fits, -, placed, ⟨rfl, run⟩ | ⟨-, error, run⟩⟩ :=
    writeAll_run start.state batch start.log
  · cases h.symm.trans run
    rw [List.append_nil]
    exact ⟨fits, placed⟩
  · cases h.symm.trans run

/-! ### A project -/

/-- What a run has made of a class: its path is in the directory that the class goes to, nothing
was there before, and now a file is there that holds the rendered lines, each without the blanks at
its end and with a line feed. -/
structure Produced (settings : Settings) (given : Text) (project : Project) (before after : Disk)
    (c : Class) (path : Path) : Prop where
  placed : ∃ folder, directory settings given project c = .ok folder ∧
    path = filePath folder settings.extension c
  free : before.has path = false
  vacant : ∃ place, after.follow path = .ok place ∧ before.node? place = none
  filled : ∃ lines, c.render = .ok lines ∧
    after.find path
      = .ok (.file (Text.encoded (lines.flatMap fun line => Text.trimEnd line ++ ['\n'])))

variable {settings : Settings} {given : Text} {project : Project} {start left : Logged Disk}

/-- The class of a planned file has its directory, the path is free, and the lines are its own. -/
theorem parts_of_plan {disk : Disk} {c : Class} {planned : Planned}
    (h : plan settings given project disk c = .ok planned) :
    (∃ folder, directory settings given project c = .ok folder ∧
      planned.path = filePath folder settings.extension c) ∧
    disk.has planned.path = false ∧ c.render = .ok planned.lines := by
  unfold plan at h
  obtain ⟨folder, hd, h⟩ := Outcome.bind_eq_ok_iff.mp h
  dsimp only at h
  split at h
  · cases h
  next free =>
    obtain ⟨lines, rendered, h⟩ := Outcome.bind_eq_ok_iff.mp h
    cases h
    exact ⟨⟨folder, hd, rfl⟩, Bool.eq_false_iff.mpr free, rendered⟩

/-- A run that succeeds has planned all classes and written what was planned. -/
theorem parts_of_generate {paths : List Path}
    (h : runFrom (generate settings given project) start = (.ok paths, left)) :
    ∃ batch middle, project.classes.mapM (plan settings given project start.state) = .ok batch ∧
      paths = batch.map (·.path) ∧ runFrom (writeAll batch) start = (.ok (), middle) ∧
      left.state = middle.state := by
  rw [generate, runFrom_state_bind] at h
  obtain ⟨batch, first, planned, further⟩ := of_runFrom_bind_ok h
  obtain ⟨⟨⟩, middle, run, last⟩ := of_runFrom_bind_ok further
  obtain ⟨planned, rfl⟩ := of_runFrom_ofExcept_ok planned
  cases last
  exact ⟨batch, middle, planned, rfl, run, rfl⟩

/-- A run that succeeds has made a file of every class, in order. -/
theorem produced_of_generate {paths : List Path}
    (h : runFrom (generate settings given project) start = (.ok paths, left)) :
    List.Forall₂ (Produced settings given project start.state left.state) project.classes
      paths := by
  obtain ⟨batch, middle, planned, rfl, run, same⟩ := parts_of_generate h
  rw [same]
  obtain ⟨fits, -⟩ := placed_of_writeAll run
  have found := find_of_writeAll run
  have homes : middle.state.home = start.state.home := by
    have := writeAll_grows batch start
    rw [run] at this
    exact this.home
  rw [List.forall₂_map_right_iff]
  refine List.forall₂_iff_get.mpr ?_
  obtain ⟨lengths, related⟩ := List.forall₂_iff_get.mp (Outcome.mapM_eq_ok_iff.mp planned)
  refine ⟨lengths, fun i hc hb => ?_⟩
  have member := List.get_mem batch ⟨i, hb⟩
  obtain ⟨placed, free, rendered⟩ := parts_of_plan (related i hc hb)
  refine ⟨placed, free, ⟨_, follow_of_find (found _ member), ?_⟩, _, rendered, found _ member⟩
  rw [target_congr homes]
  exact fits.vacant _ member

/-- **What a run adds.**  Whatever becomes of a run, every file that was there keeps its content.
When the run succeeds, the paths it returns are those of the classes in order, they are pairwise
different and lead to different places, nothing was at any of them, the new files are exactly those
at these paths, and each holds the rendered lines of its class. -/
theorem generation_adds_files (settings : Settings) (given : Text) (project : Project)
    (start : Logged Disk) :
    let run := runFrom (generate settings given project) start
    let after := run.2.state
    (∀ place content, start.state.fileAt? place = some content →
      after.fileAt? place = some content) ∧
    ∀ paths, run.1 = .ok paths →
      List.Forall₂ (Produced settings given project start.state after) project.classes paths ∧
      paths.Nodup ∧ (paths.map after.follow).Nodup ∧
      ∀ place, (start.state.fileAt? place = none ∧ after.fileAt? place ≠ none) ↔
        ∃ path ∈ paths, after.follow path = .ok place := by
  intro run after
  refine ⟨fun place content => (generate_grows settings given project start).fileAt?, ?_⟩
  intro paths succeeded
  have whole : run = (.ok paths, run.2) := Prod.ext succeeded rfl
  have produced := produced_of_generate whole
  obtain ⟨batch, middle, -, rfl, written, same⟩ := parts_of_generate whole
  obtain ⟨fits, placed⟩ := placed_of_writeAll written
  rw [← same] at placed
  have homes : after.home = start.state.home := (generate_grows settings given project start).home
  have follows : ∀ p ∈ batch, after.follow p.path = .ok (start.state.target p.path) :=
    fun p hp => by
      have found := find_of_writeAll written p hp
      rw [← same] at found
      rw [← target_congr homes]
      exact follow_of_find found
  -- The places of the batch differ, so the paths that lead there do.
  have distinct : ((batch.map (·.path)).map after.follow).Nodup := by
    have apart : (batch.map fun p => after.follow p.path)
        = (batch.map fun p => start.state.target p.path).map .ok := by
      rw [List.map_map]
      exact List.map_congr_left follows
    rw [List.map_map]
    change (batch.map fun p => after.follow p.path).Nodup
    rw [apart]
    exact fits.distinct.map fun _ _ => Except.ok.inj
  refine ⟨produced, distinct.of_map _, distinct, fun place => ⟨?_, ?_⟩⟩
  · rintro ⟨old, new⟩
    by_contra none
    refine new ((placed.others place fun p hp he => none ?_).trans old)
    exact ⟨p.path, List.mem_map_of_mem hp, (follows p hp).trans (congrArg _ he)⟩
  · rintro ⟨path, hm, hf⟩
    obtain ⟨p, hp, rfl⟩ := List.mem_map.mp hm
    cases (follows p hp).symm.trans hf
    refine ⟨fileAt?_eq_none_of_none (fits.vacant p hp), ?_⟩
    rw [placed.placed p hp]
    exact Option.some_ne_none _

/-- Two classes whose directories are written differently and are the same. -/
def neighbours : Project where
  defaultOutput := "o/../o"
  classes := [{ name := "A", description := "One.", output := "o" },
    { name := "B", description := "Two." }]

/-- Both are written, side by side. -/
theorem neighbours_are_added :
    ∃ paths, ((generate {} [] neighbours).start bareDisk).1 = .ok paths ∧
      paths.map (·.text) = ["o/A.php", "o/../o/B.php"] ∧ paths.Nodup ∧
      ∃ path ∈ paths,
        ((generate {} [] neighbours).start bareDisk).2.state.follow path
          = .ok ["run", "o", "B.php"] := by
  have succeeded : ((generate {} [] neighbours).start bareDisk).1
      = .ok [.ofText "o/A.php", .ofText "o/../o/B.php"] := by decide +kernel
  obtain ⟨-, distinct, -, exactly⟩ :=
    (generation_adds_files {} [] neighbours { state := bareDisk }).2 _ succeeded
  refine ⟨_, succeeded, by decide +kernel, distinct, (exactly _).mp ⟨by decide +kernel, ?_⟩⟩
  decide +kernel

end Classwright.Generation
