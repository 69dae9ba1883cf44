import Classwright.Proofs.CommandLine.Ordinary
import Classwright.Proofs.Disk.Change
import Classwright.Proofs.Document.Alike
import Mathlib.Tactic.Common

/-!
# CommandLine — the console of a run

Under the configuration that is built in, the loggers of the program write to the console, whatever
level the command line asks for.  So what a run logs shows as lines with a time, if it shows at all,
and the only line without one is the report of a failure.

* `logLevel_of_ofList`: the levels that arguments can have.
* `Loggers.sameConsoles_of_force`: a level does not change what the console gets.
* `run_eq_work`: a run with defaults comes down to its work, with loggers that are `Heard`.
* `load_logs`, `generate_logs`: the loggers that the work of a run logs to.
* `timed_of_mem_notices`: what records of these loggers leave on the console.
-/

namespace Classwright

open Classwright.Action

/-! ### Levels on the command line -/

namespace CommandLine

theorem Taken.set_logLevel {taken left : Taken} {s : Switch} {argument : Text}
    (h : taken.set s argument = .ok left) (known : taken.logLevel ∈ [] :: levels) :
    left.logLevel ∈ [] :: levels := by
  cases s with
  | help => cases h
  | outputDirectory => cases h; exact known
  | loggingConfig => cases h; exact known
  | logLevel =>
      dsimp only [Taken.set] at h
      split at h
      next listed =>
        cases h
        exact List.mem_cons_of_mem _ listed
      next => cases h

/-- Only the argument of a switch sets a level; no other word does. -/
theorem Taken.take_logLevel {taken left : Taken} {words : List Word}
    (h : taken.take words = .ok left) (known : taken.logLevel ∈ [] :: levels) :
    left.logLevel ∈ [] :: levels := by
  fun_induction Taken.take taken words with
  | case1 => cases h; exact known
  | case2 _ _ _ ih | case9 _ _ _ ih => exact ih h known
  | case3 _ _ _ _ ih | case4 _ _ _ _ ih | case7 _ _ _ _ ih | case8 _ _ _ _ ih => exact ih h known
  | case5 _ _ _ _ _ ih | case6 _ _ _ _ _ ih => exact ih h known
  | case10 | case11 | case13 => cases h
  | case12 _ _ _ _ _ ih | case14 _ _ _ _ ih =>
      obtain ⟨taken, set, h⟩ := Outcome.bind_eq_ok_iff.mp h
      exact ih taken h (Taken.set_logLevel set known)

/-- Arguments have one of the levels that the switch takes, or none. -/
theorem logLevel_of_ofList {list : List Text} {arguments : Arguments}
    (h : Arguments.ofList list = .ok arguments) : arguments.logLevel ∈ [] :: levels := by
  unfold Arguments.ofList at h
  split at h
  · cases h
  · obtain ⟨taken, took, h⟩ := Outcome.bind_eq_ok_iff.mp h
    have known := Taken.take_logLevel took List.mem_cons_self
    unfold Taken.finish at h
    split at h
    · cases h
    · cases h
    · cases h
      exact known

end CommandLine

/-! ### Loggers at a level -/

namespace Loggers

/-- The loggers write to the console and pass records on alike. -/
def SameConsoles (first second : Loggers) : Prop :=
  ∀ name, (second.logger name).console = (first.logger name).console ∧
    (second.logger name).propagates = (first.logger name).propagates

theorem SameConsoles.trans {first second third : Loggers} (h₁ : SameConsoles first second)
    (h₂ : SameConsoles second third) : SameConsoles first third := fun name =>
  ⟨(h₂ name).1.trans (h₁ name).1, (h₂ name).2.trans (h₁ name).2⟩

theorem SameConsoles.consoles {first second : Loggers} (h : SameConsoles first second)
    (names : List Text) : second.consoles names = first.consoles names := by
  induction names with
  | nil => rfl
  | cons name rest ih =>
      obtain ⟨console, propagates⟩ := h name
      rw [Loggers.consoles, Loggers.consoles, console, propagates, ih]

/-- A level of its own leaves a logger's console as it is. -/
theorem sameConsoles_insert (loggers : Loggers) (name : Text) (level : Int) :
    SameConsoles loggers { loggers with
      known := loggers.known.insert name { (loggers.known.find? name).getD {} with level } } := by
  intro other
  simp only [logger, Table.find?_insert]
  split
  next same => simp [same]
  next => exact ⟨rfl, rfl⟩

/-- The level that the command line gives is for three loggers, and their consoles stay. -/
theorem sameConsoles_of_force {loggers left : Loggers} {level : Text}
    (h : loggers.force level = .ok left) : SameConsoles loggers left := by
  obtain ⟨number, -, set⟩ := Outcome.bind_eq_ok_iff.mp h
  cases set
  clear h
  generalize forced = names
  induction names generalizing loggers with
  | nil => exact fun name => ⟨rfl, rfl⟩
  | cons name rest ih => exact (sameConsoles_insert loggers name number).trans ih

end Loggers

/-! ### The loggers of a run -/

namespace CommandLine

/-- The loggers of the program write to the console. -/
def Heard (loggers : Loggers) : Prop :=
  ∀ name ∈ programLoggers, loggers.consoles (Loggers.upward name) ≠ 0

/-- The configuration that is built in can be set up twice, and its loggers are heard. -/
theorem configure_builtIn : ∃ first second, Loggers.configure {} (Logging.builtIn []) = .ok first ∧
    (first.add programLoggers).configure (Logging.builtIn []) = .ok second ∧ Heard second :=
  ⟨_, _, rfl, rfl, by unfold Heard; decide +kernel⟩

/-- The levels that the switch takes are all known. -/
theorem exists_force (loggers : Loggers) {level : Text} (h : level ∈ levels) :
    ∃ left, loggers.force level = .ok left := by
  have known : ∀ level ∈ levels, (Log.levelNumber (Text.toUpper level)).isOk = true := by
    decide +kernel
  cases number : Log.levelNumber (Text.toUpper level) with
  | ok n => exact ⟨_, by rw [Loggers.force, number]; rfl⟩
  | error error =>
      have := known level h
      rw [number] at this
      cases this

variable {environment : Environment} {disk : Disk} {list : List Text} {arguments : Arguments}

/-- With defaults, nothing fails before the work of a run begins. -/
theorem run_eq_work (accepted : Arguments.ofList list = .ok arguments)
    (defaults : Defaults environment disk arguments) :
    ∃ loggers, Heard loggers ∧ run environment disk list = work {} loggers disk arguments := by
  obtain ⟨first, second, configured, again, heard⟩ := configure_builtIn
  have early := defaults.configuration_eq none (by simp)
  have late := defaults.configuration_eq arguments.loggingConfig (by simp)
  have started : start environment disk = .ok ({}, first.add programLoggers) := by
    simp only [start, Loggers.setUp, defaults.settings_eq, early, bind, Except.bind, configured]
    rfl
  obtain ⟨loggers, same, setUp⟩ : ∃ loggers, Loggers.SameConsoles second loggers ∧
      (first.add programLoggers).setUp environment disk arguments.loggingConfig arguments.logLevel
        = .ok loggers := by
    simp only [Loggers.setUp, late, again, bind, Except.bind]
    rcases List.mem_cons.mp (logLevel_of_ofList accepted) with none | given
    · exact ⟨second, fun name => ⟨rfl, rfl⟩, by rw [if_pos none]; rfl⟩
    · obtain ⟨loggers, forced⟩ := exists_force second given
      have unset : arguments.logLevel ≠ [] := ne_of_mem_of_not_mem given (by decide)
      exact ⟨loggers, Loggers.sameConsoles_of_force forced, by rw [if_neg unset, forced]⟩
  refine ⟨loggers, fun name hn => ?_, ?_⟩
  · rw [same.consoles]
    exact heard name hn
  · simp only [run, started, accepted, setUp]

end CommandLine

/-! ### What is logged -/

open CommandLine (programLoggers)

theorem mem_programLoggers : Log.generation ∈ programLoggers ∧ Log.document ∈ programLoggers ∧
    Log.macros ∈ programLoggers := by
  simp [programLoggers]

namespace Document

open Macro

/-- The action logs to the loggers of the program only. -/
abbrev Logs {σ α : Type} (action : Action σ α) : Prop := LogsTo programLoggers action

theorem log_logs {σ : Type} (level : Log.Level) (message : Text) :
    Logs (Action.log level Log.document message : Action σ Unit) :=
  .log level message mem_programLoggers.2.1

theorem register_logs (name template : Text) : Logs (Registry.register name template) := by
  refine Keeps.state.bind fun registry => ?_
  dsimp only
  split
  · exact .throw_bind _
  · split
    · exact .throw_bind _
    · split
      · exact (LogsTo.log _ _ mem_programLoggers.2.2).bind fun _ => LogsTo.put _
      · exact LogsTo.put _

theorem registerMacros_logs (elements : List Xml.Element) : Logs (registerMacros elements) := by
  induction elements with
  | nil => exact .pure ()
  | cons e rest ih =>
      exact (Keeps.ofExcept _).bind fun _ => (register_logs _ _).bind fun _ => ih

theorem macros_logs (root : Xml.Element) : Logs (macros root) := by
  unfold macros
  dsimp only
  split
  · exact Keeps.state.bind fun _ => log_logs _ _
  · exact (registerMacros_logs _).bind fun _ => Keeps.state.bind fun _ => log_logs _ _

theorem expand_logs (t : Text) : Logs (Registry.expand t) :=
  Keeps.state.bind fun _ => (LogsTo.put _).bind fun _ => .ofExcept _

/-- Actions are alike in that they log to the loggers of the program only. -/
def logging (σ : Type) : Likeness (Action σ) (Action σ) where
  alike action _ := Logs action
  pure := Keeps.pure
  lift _ := Keeps.lift _
  bind := Keeps.bind

theorem classes_logs (root : Xml.Element) : Logs (classes root) := by
  have expanding : (logging Registry).Readings (.expanding Registry.expand)
      (.expanding Registry.expand) := Likeness.expanding expand_logs
  exact Keeps.bind (Likeness.mapM (describedClass_alike expanding) _) fun _ =>
    (log_logs _ _).bind fun _ => .pure _

/-- Reading an input file logs to the loggers of the program only. -/
theorem load_logs (disk : Disk) (path : Path) : Logs (load disk path) :=
  (Keeps.ofExcept _).bind fun _ => (Keeps.ofExcept _).bind fun _ =>
    (macros_logs _).bind fun _ => (classes_logs _).bind fun _ => .pure _

end Document

namespace Generation

open Disk
open Document (Logs)

theorem makeDirectory_logs (path : Path) : Logs (makeDirectory path) := by
  refine Keeps.state.bind fun disk => ?_
  split
  · exact LogsTo.put _
  · split
    · exact .pure ()
    · exact .throw _

theorem makeDirectories_logs (path : Path) : Logs (makeDirectories path) :=
  makeDirectories_induction (fun _ h => Keeps.state.bind h) (fun _ _ h₁ h₂ => h₁.bind fun _ => h₂)
    makeDirectory_logs path

theorem createFile_logs (path : Path) (content : Text) : Logs (createFile path content) := by
  refine Keeps.state.bind fun disk => ?_
  split
  · exact LogsTo.put _
  · exact .throw _
  · exact .throw _

theorem log_logs {σ : Type} (level : Log.Level) (message : Text) :
    Logs (Action.log level Log.generation message : Action σ Unit) :=
  .log level message mem_programLoggers.1

theorem write_logs (planned : Planned) : Logs (write planned) :=
  (makeDirectories_logs _).bind fun _ => (log_logs _ _).bind fun _ => createFile_logs _ _

theorem writeAll_logs (batch : List Planned) : Logs (writeAll batch) := by
  induction batch with
  | nil => exact .pure ()
  | cons planned batch ih => exact (write_logs planned).bind fun _ => ih

/-- Generating a project logs to the loggers of the program only. -/
theorem generate_logs (settings : Settings) (given : Text) (project : Project) :
    Logs (generate settings given project) :=
  Keeps.state.bind fun _ => (Keeps.ofExcept _).bind fun _ => (writeAll_logs _).bind fun _ =>
    (log_logs _ _).bind fun _ => .pure _

end Generation

namespace CommandLine

theorem generate_logs (settings : Settings) (arguments : Arguments) :
    Document.Logs (generate settings arguments) :=
  Keeps.state.bind fun _ => (LogsTo.within (Document.load_logs _ _) _).bind fun _ =>
    Generation.generate_logs _ _ _

/-- A record shows with its time when its logger writes to the console. -/
theorem timed_of_mem_notices {loggers : Loggers} {record : Log.Record} {notice : Notice}
    (h : loggers.consoles (Loggers.upward record.logger) ≠ 0)
    (hn : notice ∈ loggers.notices record) : ∃ t, notice = .timed t := by
  unfold Loggers.notices at hn
  split at hn
  · cases hn
  · split at hn
    next silent => exact absurd silent h
    next => exact ⟨_, List.eq_of_mem_replicate hn⟩

end CommandLine

end Classwright
