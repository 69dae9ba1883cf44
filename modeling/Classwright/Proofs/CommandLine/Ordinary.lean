import Classwright.CommandLine.Run

/-!
# CommandLine — ordinary runs

A run has default settings and the configuration that is built in when neither the environment nor
a file says otherwise.  It stays within the limits of the system when no number that it reads is too
long and no path that it follows is too long or too deep.  The limits are no part of a run as it is
described here, where numbers, names and paths may be of any length, so that what holds of a run
holds of the program within them.

* `Defaults`: nothing is said about settings and logging.
* `Defaults.settings_eq`, `Defaults.configuration_eq`: what the run has then.
* `Macro.numbersFit`, `Path.isSupported`: the limits.
* `Ordinary`: a run with defaults and within the limits.
-/

namespace Classwright

/-! ### Defaults -/

namespace Settings

/-- The variables of the settings, in small letters. -/
def variableNames : List Text := ["classgen_default_output_dir", "classgen_file_extension"]

theorem find?_lowered_eq_none {bindings : Bindings} {name : Text}
    (h : ∀ entry ∈ bindings, Text.toLower entry.1 ≠ name) :
    (lowered bindings).find? name = none := by
  unfold lowered
  suffices ∀ table : Bindings, table.find? name = none →
      Table.find? name (bindings.foldl (fun table entry =>
        table.insert (Text.toLower entry.1) entry.2) table) = none from this [] rfl
  induction bindings with
  | nil => exact fun _ none => none
  | cons entry rest ih =>
      obtain ⟨other, apart⟩ := List.forall_mem_cons.mp h
      intro table none
      refine ih apart _ ?_
      rw [Table.find?_insert, if_neg other, none]

theorem value_eq_default {environment : Bindings} {name : Text}
    (h : ∀ entry ∈ environment, Text.toLower entry.1 ≠ name) (default : Text) :
    value environment [] name default = default := by
  rw [value, find?_lowered_eq_none h]
  rfl

/-- Without the variables there are the default settings. -/
theorem ofVariables_eq {environment : Environment}
    (h : ∀ name ∈ variableNames, ∀ entry ∈ environment, Text.toLower entry.1 ≠ name) :
    ofVariables environment [] = {} := by
  simp only [variableNames, List.forall_mem_cons] at h
  obtain ⟨directory, extension, -⟩ := h
  unfold ofVariables
  dsimp only
  rw [value_eq_default, value_eq_default]
  · exact List.forall_mem_map.mpr extension
  · exact List.forall_mem_map.mpr directory

end Settings

namespace Logging

/-- The variables of the logging configuration. -/
def variableNames : List Text := ["CLASSGEN_LOGGING_CONFIG", "CLASSGEN_LOG_LEVEL"]

variable {environment : Environment}

/-- Without the variables and with no file where one is given, the configuration is built in. -/
theorem configuration_eq {disk : Disk} {given : Option Path}
    (unset : ∀ name ∈ variableNames, environment.value? name = none)
    (absent : ∀ path ∈ given, disk.has path = false) :
    configuration environment disk (path? environment given) = .ok (builtIn []) := by
  simp only [variableNames, List.forall_mem_cons] at unset
  obtain ⟨noPath, noLevel, -⟩ := unset
  have same : builtIn environment = builtIn [] := by
    rw [builtIn, noLevel]
    rfl
  have only : path? environment given = given := by
    rw [path?, noPath]
    exact Option.or_none
  rw [only, ← same]
  cases given with
  | none => rfl
  | some path =>
      rw [configuration, absent path rfl]
      rfl

end Logging

namespace CommandLine

/-- Nothing is said about settings and logging: there is no file of variables, the environment has
none of the variables, those of the settings in whatever case of letters, and there is no file where
the arguments place the configuration, if they do. -/
structure Defaults (environment : Environment) (disk : Disk) (arguments : Arguments) : Prop where
  variableFile : disk.hasFile Settings.variableFile = false
  settings : ∀ name ∈ Settings.variableNames, ∀ entry ∈ environment, Text.toLower entry.1 ≠ name
  logging : ∀ name ∈ Logging.variableNames, environment.value? name = none
  configuration : ∀ path ∈ arguments.loggingConfig, disk.has path = false

namespace Defaults

variable {environment : Environment} {disk : Disk} {arguments : Arguments}

theorem settings_eq (h : Defaults environment disk arguments) :
    Settings.load environment disk = .ok {} := by
  rw [Settings.load, h.variableFile, Settings.ofVariables_eq h.settings]
  rfl

/-- The configuration is the same as the run starts and once its arguments are read. -/
theorem configuration_eq (h : Defaults environment disk arguments) :
    ∀ given ∈ [none, arguments.loggingConfig],
      Logging.configuration environment disk (Logging.path? environment given)
        = .ok (Logging.builtIn []) := by
  intro given hg
  refine Logging.configuration_eq h.logging ?_
  rcases List.mem_cons.mp hg with rfl | hg
  · exact fun path hp => nomatch hp
  · obtain rfl := List.mem_singleton.mp hg
    exact h.configuration

end Defaults

end CommandLine

/-! ### Limits -/

namespace Macro

/-- The most digits of a number that the system reads. -/
def maxDigits : Nat := 4300

/-- Has every placeholder of a template a number that the system reads? -/
def numbersFit : (template : Text) → Bool
  | [] => true
  | c :: rest => (c != '$' || (Text.digits rest).length ≤ maxDigits) && numbersFit rest

end Macro

namespace Path

/-- The most bytes of a name that the file system takes. -/
def maxName : Nat := 255

/-- The most bytes of a whole path that the file system takes. -/
def maxLength : Nat := 4095

/-- The most directories that the system makes one inside the other. -/
def maxDepth : Nat := 900

/-- Is a path one that the system takes? -/
def isSupported (path : Path) : Bool :=
  path.names.all (fun name => name.encoded.length ≤ maxName)
    && path.names.length ≤ maxDepth
    && path.text.encoded.length ≤ maxLength
    && !path.text.contains '\x00'

end Path

namespace CommandLine

/-- An ordinary run: it has defaults, the placeholders of the macros that its input defines have
numbers that the system reads, and the system takes the paths that are given to the run and those of
the files that it is to write. -/
structure Ordinary (environment : Environment) (disk : Disk) (arguments : Arguments) : Prop
    extends Defaults environment disk arguments where
  numbers : ∀ entry ∈ ((Document.load disk arguments.input).start {}).2.state.templates,
    Macro.numbersFit entry.2 = true
  given : ∀ path ∈ arguments.input :: arguments.loggingConfig.toList, path.isSupported = true
  made : ∀ project left, (Document.load disk arguments.input).start {} = (.ok project, left) →
    ∀ c ∈ project.classes, ∀ directory,
      Generation.directory {} arguments.outputDirectory project c = .ok directory →
        (Generation.filePath directory ".php" c).isSupported = true

end CommandLine

end Classwright
