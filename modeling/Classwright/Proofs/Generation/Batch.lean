import Classwright.Generation
import Classwright.Proofs.Disk.Change
import Classwright.Proofs.Outcome

/-!
# Generation — a batch of files on a disk

The files of a project are planned against the disk as it is at first, but each is written to the
disk that the files before it have left.  A file takes its target and turns its way into
directories, so it can get in the way of a later one.

* `Fits`: the files of a batch are in nobody's way, neither on the disk nor among themselves.
* `Blocked`: a file stands on the way to the directory of another.
* `write_run_of_fits`, `write_run_of_blocked`, `write_run_of_taken`: a file is written exactly when
  it fits; when it does not, its way is blocked or its target is taken.
* `fits_cons_iff`: what fits after a file has been written.
* `writeAll_run`: the first files that fit together are written, and the first that does not ends
  the run.
* `generate_run`: the same for a project.
* `failed_generation_keeps_files_iff`: when a failed run leaves the files as they were.
-/

namespace Classwright.Generation

open Classwright.Action Disk

/-! ### Files in nobody's way -/

/-- The bytes of a planned file. -/
def Planned.bytes (planned : Planned) : Bytes := (content planned.lines).encoded

/-- The files of a batch are in nobody's way: no file of the disk is on the way to one of their
directories, nothing stands at their targets, no target is on the way to a directory of the batch,
and no two targets are the same. -/
structure Fits (disk : Disk) (batch : List Planned) : Prop where
  unblocked : ∀ p ∈ batch, ∀ place ∈ disk.route p.path.parent, disk.fileAt? place = none
  vacant : ∀ p ∈ batch, disk.node? (disk.target p.path) = none
  clear : ∀ p ∈ batch, ∀ q ∈ batch, disk.target p.path ∉ disk.route q.path.parent
  distinct : (batch.map fun p => disk.target p.path).Nodup

theorem fits_nil (disk : Disk) : Fits disk [] := by
  constructor <;> simp

/-- The first files of a batch that fits fit. -/
theorem Fits.of_append {disk : Disk} (first rest : List Planned) (h : Fits disk (first ++ rest)) :
    Fits disk first where
  unblocked p hp := h.unblocked p (List.mem_append_left _ hp)
  vacant p hp := h.vacant p (List.mem_append_left _ hp)
  clear p hp q hq := h.clear p (List.mem_append_left _ hp) q (List.mem_append_left _ hq)
  distinct := by
    have := h.distinct
    rw [List.map_append] at this
    exact (List.nodup_append.mp this).1

theorem fits_singleton_iff {disk : Disk} {planned : Planned} :
    Fits disk [planned] ↔
      (∀ place ∈ disk.route planned.path.parent, disk.fileAt? place = none) ∧
      disk.node? (disk.target planned.path) = none ∧
      disk.target planned.path ∉ disk.route planned.path.parent := by
  constructor
  · intro h
    have hp := List.mem_singleton_self planned
    exact ⟨h.unblocked _ hp, h.vacant _ hp, h.clear _ hp _ hp⟩
  · rintro ⟨unblocked, vacant, clear⟩
    constructor <;> simp [*]
    exact unblocked

/-! ### One file -/

/-- `after` is `before` with a file at its target and directories on the way to it. -/
structure Written (before after : Disk) (planned : Planned) : Prop where
  home : after.home = before.home
  node : ∀ place, after.node? place =
    if before.target planned.path = place then some (.file planned.bytes)
    else if place ∈ before.route planned.path.parent then some .directory
    else before.node? place

/-- The places before the last on the way of a path are on the way to its parent. -/
theorem mem_route_parent {disk : Disk} {path : Path} {place : Place}
    (h : place ∈ (disk.route path).dropLast) : place ∈ disk.route path.parent := by
  unfold Path.parent
  cases hp : path.parent? with
  | some up =>
      rw [dropLast_route disk hp] at h
      exact h
  | none => exact List.dropLast_subset _ h

/-- A path is followed to its target once the way to its parent is made of directories. -/
theorem follow_of_parent {disk middle : Disk} {path : Path} (homes : middle.home = disk.home)
    (h : ∀ p ∈ disk.route path.parent, middle.node? p = some .directory) :
    middle.follow path = .ok (middle.target path) := by
  rw [← route_congr homes] at h
  exact follow_eq_ok fun p hp => h p (mem_route_parent hp)

/-- The record of a file that is about to be written. -/
def writing (planned : Planned) : Log.Record where
  level := .info
  logger := Log.generation
  message := "Writing " ++ planned.path.text

/-- With its directories made, a file is logged and created. -/
theorem write_of_directories {planned : Planned} {start : Logged Disk} {middle : Logged Disk}
    (h : runFrom (makeDirectories planned.path.parent) start = (.ok (), middle)) :
    runFrom (write planned) start
      = runFrom (createFile planned.path (content planned.lines))
          { state := middle.state, log := middle.log ++ [writing planned] } := by
  rw [write, runFrom_bind_ok h, runFrom_bind_ok (runFrom_log _ _ _ _)]
  rfl

theorem write_run_of_fits {disk : Disk} {planned : Planned} (log : List Log.Record)
    (h : Fits disk [planned]) :
    ∃ after log', runFrom (write planned) { state := disk, log }
        = (.ok (), { state := after, log := log' }) ∧ Written disk after planned := by
  obtain ⟨unblocked, vacant, clear⟩ := fits_singleton_iff.mp h
  obtain ⟨middle, opened, ⟨run, dirs⟩ | ⟨-, -, -, p, hp, hfile⟩⟩ :=
    makeDirectories_run disk planned.path.parent log
  · have homes := opened.home
    have hf := follow_of_parent homes dirs
    have hn : middle.node? (middle.target planned.path) = none := by
      rw [target_congr homes]
      rcases opened.node (disk.target planned.path) with same | ⟨-, hp, -⟩
      · rw [same, vacant]
      · exact absurd hp clear
    have created := createFile_run_vacant (content planned.lines) (log ++ [writing planned]) hf hn
    refine ⟨_, _, (write_of_directories run).trans created, homes, fun place => ?_⟩
    rw [node?_insert_vacant _ hn, target_congr homes]
    by_cases hp : place ∈ disk.route planned.path.parent
    · rw [if_pos hp, dirs place hp]
      rfl
    · rw [if_neg hp]
      rcases opened.node place with same | ⟨-, hp', -⟩
      · rw [same]
        rfl
      · exact absurd hp' hp
  · exact absurd (unblocked p hp) hfile

/-- On the way to the directory of a file stands another: on the disk, or once the files before it
are written. -/
def Blocked (disk : Disk) (done : List Planned) (next : Planned) : Prop :=
  ∃ place ∈ disk.route next.path.parent,
    disk.fileAt? place ≠ none ∨ ∃ p ∈ done, disk.target p.path = place

theorem blocked_nil_iff {disk : Disk} {next : Planned} : Blocked disk [] next ↔
    ∃ place ∈ disk.route next.path.parent, disk.fileAt? place ≠ none := by
  simp [Blocked]

/-- A file whose way is blocked is refused by the file system. -/
theorem write_run_of_blocked {disk : Disk} {planned : Planned} (log : List Log.Record)
    (h : Blocked disk [] planned) :
    ∃ refused fault after, runFrom (write planned) { state := disk, log }
        = (.error (.refusedPath refused fault), { state := after, log }) ∧
      SameFiles disk after := by
  obtain ⟨place, hp, hfile⟩ := blocked_nil_iff.mp h
  obtain ⟨middle, opened, ⟨-, dirs⟩ | ⟨refused, fault, run, -⟩⟩ :=
    makeDirectories_run disk planned.path.parent log
  · rw [← opened.fileAt?, fileAt?_eq_none_of_directory (dirs place hp)] at hfile
    exact absurd rfl hfile
  · exact ⟨refused, fault, middle, runFrom_bind_error run, opened.sameFiles⟩

/-- A file whose way is open and that does not fit finds its target taken. -/
theorem write_run_of_taken {disk : Disk} {planned : Planned} (log : List Log.Record)
    (h : ¬ Fits disk [planned]) (way : ¬ Blocked disk [] planned) :
    ∃ after log', runFrom (write planned) { state := disk, log }
        = (.error (.outputExists planned.path.text), { state := after, log := log' }) ∧
      SameFiles disk after := by
  obtain ⟨middle, opened, ⟨run, dirs⟩ | ⟨-, -, -, p, hp, hfile⟩⟩ :=
    makeDirectories_run disk planned.path.parent log
  · have homes := opened.home
    have hf := follow_of_parent homes dirs
    have unblocked : ∀ p ∈ disk.route planned.path.parent, disk.fileAt? p = none := fun p hp => by
      rw [← opened.fileAt?]
      exact fileAt?_eq_none_of_directory (dirs p hp)
    -- With the way open, the target is taken: by what was there, or as a directory of the way.
    obtain ⟨found, hn⟩ : ∃ found, middle.node? (disk.target planned.path) = some found := by
      cases hn : disk.node? (disk.target planned.path) with
      | some found => exact ⟨found, opened.node_of_some hn⟩
      | none =>
          by_cases clear : disk.target planned.path ∈ disk.route planned.path.parent
          · exact ⟨.directory, dirs _ clear⟩
          · exact absurd (fits_singleton_iff.mpr ⟨unblocked, hn, clear⟩) h
    rw [← target_congr homes] at hn
    have refused := createFile_run_taken (content planned.lines) (log ++ [writing planned]) hf hn
    exact ⟨middle, _, (write_of_directories run).trans refused, opened.sameFiles⟩
  · exact absurd (blocked_nil_iff.mpr ⟨p, hp, hfile⟩) way

/-- A file that does not fit is refused, and no file has changed. -/
theorem write_run_of_not_fits {disk : Disk} {planned : Planned} (log : List Log.Record)
    (h : ¬ Fits disk [planned]) :
    ∃ error after log', runFrom (write planned) { state := disk, log }
        = (.error error, { state := after, log := log' }) ∧ SameFiles disk after := by
  by_cases way : Blocked disk [] planned
  · obtain ⟨refused, fault, after, run, same⟩ := write_run_of_blocked log way
    exact ⟨_, after, log, run, same⟩
  · obtain ⟨after, log', run, same⟩ := write_run_of_taken log h way
    exact ⟨_, after, log', run, same⟩

/-! ### What fits after a file -/

/-- A file written adds itself to the files. -/
theorem Written.fileAt? {before after : Disk} {planned : Planned} (h : Written before after planned)
    (fits : Fits before [planned]) (place : Place) :
    after.fileAt? place =
      if before.target planned.path = place then some planned.bytes else before.fileAt? place := by
  have node := h.node place
  by_cases ht : before.target planned.path = place
  · rw [if_pos ht] at node ⊢
    exact fileAt?_eq_some_iff.mpr node
  · rw [if_neg ht] at node ⊢
    by_cases hp : place ∈ before.route planned.path.parent
    · rw [if_pos hp] at node
      rw [fileAt?_eq_none_of_directory node, (fits_singleton_iff.mp fits).1 place hp]
    · rw [if_neg hp] at node
      exact fileAt?_congr node

/-- A place that is vacant behind a file is apart from it and its way, and was vacant before. -/
theorem Written.vacant_iff {before after : Disk} {planned : Planned}
    (h : Written before after planned) {place : Place} : after.node? place = none ↔
      before.target planned.path ≠ place ∧ place ∉ before.route planned.path.parent ∧
        before.node? place = none := by
  rw [h.node]
  split
  next he => simp [he]
  next hne =>
    split
    next hp => simp [hp]
    next hp => simp [hne, hp]

/-- A place without a file behind a file is not its target, and had none before. -/
theorem Written.fileAt?_eq_none_iff {before after : Disk} {planned : Planned}
    (h : Written before after planned) (fits : Fits before [planned]) {place : Place} :
    after.fileAt? place = none ↔
      before.target planned.path ≠ place ∧ before.fileAt? place = none := by
  rw [h.fileAt? fits]
  split
  next he => simp [he]
  next hne => simp [hne]

section Behind

variable {disk after : Disk} {planned : Planned} {rest : List Planned}

/-- Files that fit together with another fit behind it. -/
theorem Fits.behind (all : Fits disk (planned :: rest)) (h : Written disk after planned) :
    Fits after rest := by
  have routes := route_congr h.home
  have targets := target_congr h.home
  have first : Fits disk [planned] := Fits.of_append [planned] rest all
  have head := List.mem_cons_self (a := planned) (l := rest)
  have distinct := List.nodup_cons.mp all.distinct
  refine ⟨fun q hq place hp => ?_, fun q hq => ?_, fun p hp q hq => ?_, ?_⟩
  · rw [routes] at hp
    have hq' := List.mem_cons_of_mem planned hq
    refine (h.fileAt?_eq_none_iff first).mpr ⟨?_, all.unblocked q hq' place hp⟩
    rintro rfl
    exact all.clear _ head _ hq' hp
  · have hq' := List.mem_cons_of_mem planned hq
    rw [targets]
    refine h.vacant_iff.mpr ⟨fun he => ?_, all.clear _ hq' _ head, all.vacant q hq'⟩
    exact distinct.1 (List.mem_map.mpr ⟨q, hq, he.symm⟩)
  · rw [targets, routes]
    exact all.clear p (List.mem_cons_of_mem _ hp) q (List.mem_cons_of_mem _ hq)
  · simpa only [targets] using distinct.2

/-- Files that fit behind another fit together with it: what the disk holds behind the file tells
each later one apart from it and from its way. -/
theorem Fits.cons (fits : Fits disk [planned]) (h : Written disk after planned)
    (later : Fits after rest) : Fits disk (planned :: rest) := by
  have routes := route_congr h.home
  have targets := target_congr h.home
  obtain ⟨unblocked, vacant, clear⟩ := fits_singleton_iff.mp fits
  have apart : ∀ q ∈ rest, disk.target planned.path ≠ disk.target q.path ∧
      disk.target q.path ∉ disk.route planned.path.parent ∧
      disk.node? (disk.target q.path) = none := fun q hq => by
    rw [← h.vacant_iff, ← targets]
    exact later.vacant q hq
  have avoids : ∀ q ∈ rest, ∀ place ∈ disk.route q.path.parent,
      disk.target planned.path ≠ place ∧ disk.fileAt? place = none := fun q hq place hp => by
    rw [← h.fileAt?_eq_none_iff fits]
    rw [← routes] at hp
    exact later.unblocked q hq place hp
  refine ⟨?_, ?_, ?_, ?_⟩
  · intro q hq place hp
    rcases List.mem_cons.mp hq with rfl | hq
    · exact unblocked place hp
    · exact (avoids q hq place hp).2
  · intro q hq
    rcases List.mem_cons.mp hq with rfl | hq
    · exact vacant
    · exact (apart q hq).2.2
  · intro p hp q hq
    rcases List.mem_cons.mp hp with hp | hp <;> rcases List.mem_cons.mp hq with hq | hq
    · rw [hp, hq]
      exact clear
    · rw [hp]
      exact fun hmem => (avoids q hq _ hmem).1 rfl
    · rw [hq]
      exact (apart p hp).2.1
    · have := later.clear p hp q hq
      rwa [targets, routes] at this
  · refine List.nodup_cons.mpr ⟨fun hmem => ?_, ?_⟩
    · obtain ⟨q, hq, he⟩ := List.mem_map.mp hmem
      exact (apart q hq).1 he.symm
    · simpa only [targets] using later.distinct

/-- Files fit behind another when they fit together with it. -/
theorem fits_cons_iff (h : Written disk after planned) (fits : Fits disk [planned]) :
    Fits disk (planned :: rest) ↔ Fits after rest :=
  ⟨fun all => all.behind h, fits.cons h⟩

end Behind

/-! ### A batch -/

/-- The files of `after` are those of `before` and the given ones at their targets. -/
structure Placed (before after : Disk) (files : List Planned) : Prop where
  placed : ∀ p ∈ files, after.fileAt? (before.target p.path) = some p.bytes
  others : ∀ place, (∀ p ∈ files, before.target p.path ≠ place) →
    after.fileAt? place = before.fileAt? place

theorem placed_nil_iff {before after : Disk} : Placed before after [] ↔ SameFiles before after :=
  ⟨fun h place => h.others place (by simp), fun h => ⟨by simp, fun place _ => h place⟩⟩

theorem Placed.cons {disk middle after : Disk} {planned : Planned} {files : List Planned}
    (h : Written disk middle planned) (fits : Fits disk (planned :: files))
    (later : Placed middle after files) : Placed disk after (planned :: files) := by
  have targets := target_congr h.home
  have first := h.fileAt? (Fits.of_append [planned] files fits)
  have distinct := List.nodup_cons.mp fits.distinct
  constructor
  · intro p hp
    rcases List.mem_cons.mp hp with rfl | hp
    · rw [later.others, first, if_pos rfl]
      intro q hq he
      rw [targets] at he
      exact distinct.1 (List.mem_map.mpr ⟨q, hq, he⟩)
    · rw [← targets]
      exact later.placed p hp
  · intro place hne
    rw [later.others, first, if_neg (hne planned List.mem_cons_self)]
    intro q hq
    rw [targets]
    exact hne q (List.mem_cons_of_mem _ hq)

/-- **A run over a batch.**  The files of the longest part that fits are written; a file that does
not fit behind them ends the run with a failure, and nothing else has become of any file. -/
theorem writeAll_run (disk : Disk) (batch : List Planned) (log : List Log.Record) :
    ∃ done left after log', batch = done ++ left ∧ Fits disk done ∧
      (∀ next rest, left = next :: rest → ¬ Fits disk (done ++ [next])) ∧
      Placed disk after done ∧
      (left = [] ∧ runFrom (writeAll batch) { state := disk, log }
          = (.ok (), { state := after, log := log' }) ∨
        left ≠ [] ∧ ∃ error, runFrom (writeAll batch) { state := disk, log }
          = (.error error, { state := after, log := log' })) := by
  induction batch generalizing disk log with
  | nil =>
      exact ⟨[], [], disk, log, rfl, fits_nil disk, by simp, placed_nil_iff.mpr (.refl disk),
        .inl ⟨rfl, rfl⟩⟩
  | cons planned batch ih =>
      by_cases fits : Fits disk [planned]
      · obtain ⟨middle, log₁, run, written⟩ := write_run_of_fits log fits
        obtain ⟨done, left, after, log', rfl, fitting, stuck, placed, result⟩ := ih middle log₁
        have fitting' := (fits_cons_iff written fits).mpr fitting
        refine ⟨planned :: done, left, after, log', rfl, fitting', fun next rest he hfit => ?_,
          .cons written fitting' placed, ?_⟩
        · exact stuck next rest he ((fits_cons_iff written fits).mp hfit)
        · rw [writeAll, runFrom_bind_ok run]
          exact result
      · obtain ⟨error, after, log', run, same⟩ := write_run_of_not_fits log fits
        refine ⟨[], planned :: batch, after, log', rfl, fits_nil disk, fun next rest he => ?_,
          placed_nil_iff.mpr same, .inr ⟨by simp, error, runFrom_bind_error run⟩⟩
        cases he
        exact fits

/-! ### A project -/

theorem generate_run_of_plan_error {settings : Settings} {given : Text} {project : Project}
    {start : Logged Disk} {error : Error}
    (h : project.classes.mapM (plan settings given project start.state) = .error error) :
    runFrom (generate settings given project) start = (.error error, start) := by
  rw [generate, runFrom_state_bind, h]
  rfl

/-- **A run of a project.**  Once everything is planned, the first files that fit together are
written; the run succeeds exactly when these are all, and says where they are. -/
theorem generate_run {settings : Settings} {given : Text} {project : Project} {start : Logged Disk}
    {batch : List Planned}
    (h : project.classes.mapM (plan settings given project start.state) = .ok batch) :
    ∃ done left after log', batch = done ++ left ∧ Fits start.state done ∧
      (∀ next rest, left = next :: rest → ¬ Fits start.state (done ++ [next])) ∧
      Placed start.state after done ∧
      (left = [] ∧ runFrom (generate settings given project) start
          = (.ok (batch.map (·.path)), { state := after, log := log' }) ∨
        left ≠ [] ∧ ∃ error, runFrom (generate settings given project) start
          = (.error error, { state := after, log := log' })) := by
  obtain ⟨done, left, after, log', hb, fits, stuck, placed, result⟩ :=
    writeAll_run start.state batch start.log
  have begun : runFrom (generate settings given project) start
      = runFrom (writeAll batch >>= fun _ => do
          log .info Log.generation ("Generated " ++ Text.ofNat batch.length ++ " classes")
          return batch.map (·.path)) start := by
    rw [generate, runFrom_state_bind, h]
    rfl
  rcases result with ⟨hl, run⟩ | ⟨hl, error, run⟩
  · exact ⟨done, left, after, _, hb, fits, stuck, placed,
      .inl ⟨hl, begun.trans ((runFrom_bind_ok run).trans rfl)⟩⟩
  · refine ⟨done, left, after, log', hb, fits, stuck, placed, .inr ⟨hl, error, ?_⟩⟩
    rw [begun, runFrom_bind_error run]

/-- **When a failed run leaves no file behind.**  A run that fails leaves all files as they were
exactly if, whenever planning succeeds and the first planned file fits, the whole batch fits. -/
theorem failed_generation_keeps_files_iff (settings : Settings) (given : Text) (project : Project)
    (start : Logged Disk) :
    (∀ error left, runFrom (generate settings given project) start = (.error error, left) →
      SameFiles start.state left.state) ↔
    ∀ first rest,
      project.classes.mapM (plan settings given project start.state) = .ok (first :: rest) →
      Fits start.state [first] → Fits start.state (first :: rest) := by
  constructor
  · intro kept first rest hplan fits
    obtain ⟨done, left, after, log', hb, fitting, stuck, placed, ⟨rfl, -⟩ | ⟨hl, error, run⟩⟩ :=
      generate_run hplan
    · rwa [hb, List.append_nil]
    · -- The first file is among those written, where no file was.
      cases done with
      | nil => exact absurd fits (stuck first rest hb.symm)
      | cons p done =>
          cases hb
          have new := placed.placed first List.mem_cons_self
          rw [kept error _ run, fileAt?_eq_none_of_none ((fits_singleton_iff.mp fits).2.1)] at new
          cases new
  · intro whole error left run
    cases hplan : project.classes.mapM (plan settings given project start.state) with
    | error refused =>
        rw [generate_run_of_plan_error hplan] at run
        cases run
        exact .refl _
    | ok batch =>
        obtain ⟨done, rest, after, log', hb, fitting, stuck, placed,
          ⟨-, run'⟩ | ⟨hl, other, run'⟩⟩ := generate_run hplan
        · rw [run] at run'; cases run'
        · rw [run] at run'
          cases run'
          cases done with
          | nil => exact placed_nil_iff.mp placed
          | cons p done =>
              -- The first file fits, so all do, and none is left to fail.
              obtain ⟨next, rest', rfl⟩ := List.exists_cons_of_ne_nil hl
              subst hb
              have all : Fits start.state (p :: (done ++ next :: rest')) :=
                whole p _ hplan (Fits.of_append [p] done fitting)
              refine absurd (Fits.of_append _ rest' ?_) (stuck next rest' rfl)
              simpa using all

/-- Two classes of one name for one directory. -/
def twins : Project where
  classes :=
    [{ name := "A", description := "One.", output := "o" },
      { name := "A", description := "Two.", output := "o" }]

/-- A disk with a working directory and nothing in it. -/
def bareDisk : Disk where
  nodes := [(["run"], .directory)]
  home := ["run"]

/-- The file of the first twin stays behind when the second is refused. -/
theorem twins_leave_a_file :
    ((generate {} [] twins).start bareDisk).1 = .error (.outputExists "o/A.php") ∧
      ¬ SameFiles bareDisk ((generate {} [] twins).start bareDisk).2.state := by
  refine ⟨by decide +kernel, fun same => ?_⟩
  have differ : Disk.fileAt? ((generate {} [] twins).start bareDisk).2.state ["run", "o", "A.php"]
      ≠ bareDisk.fileAt? ["run", "o", "A.php"] := by decide +kernel
  exact differ (same _)

end Classwright.Generation
