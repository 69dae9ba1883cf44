import Classwright.Proofs.Document.Failure
import Classwright.Proofs.Generation.Batch
import Classwright.Proofs.Generation.Failure

/-!
# Generation — obstructed runs

Most failures of a run are reported: a class without a directory, a path that is taken.  One is not.
A file on the way to an output directory, be it an old one or one that the run has written itself,
makes the file system refuse the directory, and the run breaks off.

* `Obstructed`: the first file of a project that is not written is blocked.
* `writeAll_breaks_iff`: a batch ends in a refusal exactly when, behind files that fit, one is
  blocked.
* `generate_breaks_iff`: so does a project whose classes are all rendered.
-/

namespace Classwright.Generation

open Classwright.Action Disk

/-! ### A batch -/

/-- The failure is a refusal of the file system. -/
def IsRefusal (error : Error) : Prop := ∃ path fault, error = .refusedPath path fault

/-- A run of the action ends in a refusal. -/
def Breaks {α : Type} (action : Action Disk α) (start : Logged Disk) : Prop :=
  ∃ error, (runFrom action start).1 = .error error ∧ IsRefusal error

/-- What cannot fail does not break a run off. -/
theorem breaks_bind_iff {α β : Type} {action : Action Disk α} {next : α → Action Disk β}
    {start : Logged Disk} (h : ∀ a, FailsOnly (fun _ => False) (next a)) :
    Breaks (action >>= next) start ↔ Breaks action start := by
  unfold Breaks
  cases run : runFrom action start with
  | mk result left =>
      cases result with
      | error error =>
          rw [runFrom_bind_error run]
          simp only [Except.error.injEq]
      | ok a =>
          rw [runFrom_bind_ok run]
          refine iff_of_false ?_ ?_
          · rintro ⟨error, failed, -⟩
            exact h a left error _ (Prod.ext failed rfl)
          · rintro ⟨error, failed, -⟩
            cases failed

section Behind

variable {disk after : Disk} {planned next : Planned} {done : List Planned}

/-- What is blocked behind a file and others is blocked behind the others once the file is there. -/
theorem blocked_cons_iff (h : Written disk after planned) (fits : Fits disk [planned]) :
    Blocked disk (planned :: done) next ↔ Blocked after done next := by
  have there : ∀ place, after.fileAt? place ≠ none ↔
      disk.target planned.path = place ∨ disk.fileAt? place ≠ none := fun place => by
    rw [ne_eq, h.fileAt?_eq_none_iff fits]
    tauto
  have targets := target_congr h.home
  simp only [Blocked, route_congr h.home, there, targets, List.mem_cons, exists_eq_or_imp]
  refine exists_congr fun place => and_congr_right fun _ => ?_
  tauto

end Behind

/-- **A batch that breaks off.**  The file system refuses a path exactly if, behind files that fit
together, there is one whose way is blocked. -/
theorem writeAll_breaks_iff (disk : Disk) (batch : List Planned) (log : List Log.Record) :
    Breaks (writeAll batch) { state := disk, log } ↔
      ∃ done next rest, batch = done ++ next :: rest ∧ Fits disk done ∧ Blocked disk done next := by
  induction batch generalizing disk log with
  | nil =>
      constructor
      · rintro ⟨error, h, -⟩
        cases h
      · rintro ⟨done, next, rest, h, -⟩
        simp at h
  | cons planned batch ih =>
      by_cases fits : Fits disk [planned]
      · obtain ⟨middle, log', run, written⟩ := write_run_of_fits log fits
        have later : Breaks (writeAll (planned :: batch)) { state := disk, log } ↔
            Breaks (writeAll batch) { state := middle, log := log' } := by
          rw [Breaks, writeAll, runFrom_bind_ok run, Breaks]
        rw [later, ih]
        constructor
        · rintro ⟨done, next, rest, rfl, fitting, blocked⟩
          exact ⟨planned :: done, next, rest, rfl, (fits_cons_iff written fits).mpr fitting,
            (blocked_cons_iff written fits).mpr blocked⟩
        · rintro ⟨done, next, rest, he, fitting, blocked⟩
          cases done with
          | nil =>
              cases he
              obtain ⟨place, hp, file⟩ := blocked_nil_iff.mp blocked
              exact absurd (fits.unblocked planned (List.mem_singleton_self _) place hp) file
          | cons p done =>
              cases he
              exact ⟨done, next, rest, rfl, (fits_cons_iff written fits).mp fitting,
                (blocked_cons_iff written fits).mp blocked⟩
      · have split : (∃ done next rest, planned :: batch = done ++ next :: rest ∧
            Fits disk done ∧ Blocked disk done next) ↔ Blocked disk [] planned := by
          constructor
          · rintro ⟨done, next, rest, he, fitting, blocked⟩
            cases done with
            | nil =>
                cases he
                exact blocked
            | cons p done =>
                cases he
                exact absurd (Fits.of_append [planned] done fitting) fits
          · intro blocked
            exact ⟨[], planned, batch, rfl, fits_nil disk, blocked⟩
        rw [split]
        by_cases way : Blocked disk [] planned
        · obtain ⟨refused, fault, after, run, -⟩ := write_run_of_blocked log way
          refine iff_of_true ⟨_, ?_, refused, fault, rfl⟩ way
          rw [writeAll, runFrom_bind_error run]
        · obtain ⟨after, log', run, -⟩ := write_run_of_taken log fits way
          refine iff_of_false ?_ way
          rintro ⟨error, failed, refused, fault, rfl⟩
          rw [writeAll, runFrom_bind_error run] at failed
          cases failed

/-! ### A project -/

/-- Planning succeeds, and the first planned file that is not written is blocked. -/
def Obstructed (settings : Settings) (given : Text) (project : Project) (disk : Disk) : Prop :=
  ∃ done next rest,
    project.classes.mapM (plan settings given project disk) = .ok (done ++ next :: rest) ∧
      Fits disk done ∧ Blocked disk done next

theorem not_isRefusal_of_reported {error : Error} (h : error.isReported = true) :
    ¬ IsRefusal error := by
  rintro ⟨path, fault, rfl⟩
  cases h

/-- A failure over an output path is reported unless it is a refusal. -/
theorem isRefusal_of_not_reported {error : Error} (path : error.concernsOutput = true)
    (h : error.isReported = false) : IsRefusal error := by
  cases error with
  | refusedPath refused fault => exact ⟨refused, fault, rfl⟩
  | outputExists _ => cases h
  | noOutputDirectory _ => cases h
  | _ => cases path

/-- A class that is rendered is planned or fails with a reported failure. -/
theorem plan_reports {settings : Settings} {given : Text} {project : Project} {disk : Disk}
    {c : Class} {lines : List Text} (h : c.render = .ok lines) :
    Document.Reports (plan settings given project disk c) := by
  refine Outcome.FailsIn.bind ?_ fun folder => ?_
  · unfold directory
    split
    · exact .ok _
    · exact .error rfl
  · dsimp only
    split
    · exact .error rfl
    · rw [h]
      exact .ok _

/-- **A project that breaks off.**  When every class is rendered, the run breaks off exactly if it
is obstructed. -/
theorem generate_breaks_iff {settings : Settings} {given : Text} {project : Project}
    (rendered : ∀ c ∈ project.classes, ∃ lines, c.render = .ok lines) (start : Logged Disk) :
    Breaks (generate settings given project) start ↔
      Obstructed settings given project start.state := by
  cases planned : project.classes.mapM (plan settings given project start.state) with
  | error error =>
      refine iff_of_false ?_ ?_
      · rintro ⟨other, failed, refusal⟩
        rw [generate_run_of_plan_error planned] at failed
        cases failed
        obtain ⟨c, hc, he⟩ := Outcome.exists_of_mapM_eq_error planned
        obtain ⟨lines, hl⟩ := rendered c hc
        exact not_isRefusal_of_reported (plan_reports hl error he) refusal
      · rintro ⟨done, next, rest, he, -⟩
        rw [planned] at he
        cases he
  | ok batch =>
      have begun : Breaks (generate settings given project) start ↔
          Breaks (writeAll batch) start := by
        rw [Breaks, generate, runFrom_state_bind, planned]
        exact breaks_bind_iff fun _ => (FailsOnly.log _ _ _).bind fun _ => .pure _
      rw [begun, writeAll_breaks_iff start.state batch start.log, Obstructed, planned]
      simp only [Except.ok.injEq]

end Classwright.Generation
