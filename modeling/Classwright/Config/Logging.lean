import Classwright.Config.Reader
import Classwright.Config.Variables
import Classwright.Disk.Basic
import Classwright.Log
import Classwright.Text.Case

/-!
# Config — logging

Loggers form a tree by the dots in their names. A record goes to the console of its logger and of
every logger above; a logger without a level of its own has that of the next one above.

* `Loggers`: the loggers that are known.
* `Loggers.configure`: what a configuration makes of them.
* `Logging.configuration`: the configuration of a run.
* `Loggers.setUp`: the loggers of a run.
* `Loggers.notices`: what a record leaves on the console.
-/

namespace Classwright

/-! ### Levels -/

namespace Log

/-- The names of levels and their numbers, the usual name of a number first. -/
def levelNumbers : Table Text Int :=
  [("CRITICAL", 50), ("ERROR", 40), ("WARNING", 30), ("INFO", 20), ("DEBUG", 10), ("NOTSET", 0),
    ("FATAL", 50), ("WARN", 30)]

/-- The name of the level with a number. -/
def levelName (n : Int) : Text :=
  match List.find? (fun entry => entry.2 == n) levelNumbers with
  | some (name, _) => name
  | none => "Level " ++ Text.ofInt n

/-- The number of the level with a name. -/
def levelNumber (name : Text) : Except Error Int :=
  match Table.find? name levelNumbers with
  | some n => .ok n
  | none => .error (.unknownLevel name)

end Log

/-! ### Loggers -/

/-- What is known of a logger. -/
structure Logger where
  /-- The number of its own level; zero when it has none. -/
  level : Int := 0
  /-- Does it write to the console itself? -/
  console : Bool := false
  /-- Do its records go to the loggers above as well? -/
  propagates : Bool := true
  disabled : Bool := false
  deriving DecidableEq, Repr

/-- The loggers that are known, and the level of the root. -/
structure Loggers where
  root : Int := 30
  known : Table Text Logger := []
  deriving DecidableEq, Repr

namespace Loggers

/-- A logger by its name; one that is not known has nothing of its own. -/
def logger (loggers : Loggers) (name : Text) : Logger := (loggers.known.find? name).getD {}

/-- The name of the logger above, if that is not the root. -/
def above? (name : Text) : Option Text :=
  match (name.reverse.dropWhile (· != '.')) with
  | [] => none
  | _ :: rest => some rest.reverse

theorem length_above?_lt {name upper : Text} (h : above? name = some upper) :
    upper.length < name.length := by
  unfold above? at h
  split at h
  · cases h
  · next c rest he =>
      cases h
      have := Text.length_dropWhile_le (· != '.') name.reverse
      rw [he, List.length_cons, List.length_reverse] at this
      rw [List.length_reverse]
      omega

/-- The name of a logger and of all above it but the root, the nearest first. -/
def upward (name : Text) : List Text :=
  match _h : above? name with
  | none => [name]
  | some upper => name :: upward upper
termination_by name.length
decreasing_by exact length_above?_lt ‹_›

/-- The level that decides on the records of a logger. -/
def effectiveLevel (loggers : Loggers) (name : Text) : Int :=
  (((upward name).map fun n => (loggers.logger n).level).find? (· ≠ 0)).getD loggers.root

/-- The loggers with these among the known. -/
def add (loggers : Loggers) (names : List Text) : Loggers :=
  { loggers with known := names.foldl (fun known name =>
      if known.contains name then known else known.insert name {}) loggers.known }

/-! ### Configurations -/

/-- The number of the level that a value names. -/
def levelOf (value : Value) : Option Int :=
  match value with
  | .number n 0 => some n
  | .bool b => some (if b then 1 else 0)
  | .text name => (Log.levelNumber name).toOption
  | _ => none

/-- The level that a configuration gives, if it gives one; else the level that was. -/
def levelIn (config : Value) (level : Int) : Option Int :=
  match config.field? "level" with
  | none | some .null => some level
  | some value => levelOf value

/-- Does a configuration name something for a field? -/
def names (config : Value) (field : Text) : Bool :=
  ((config.field? field).map fun value => !value.isBlank).getD false

/-- The names in a value that lists them. -/
def listedNames? : Value → Option (List Text)
  | .list items => items.mapM fun item =>
      match item with
      | .text t => some t
      | _ => none
  | .record fields => some (fields.map (·.1))
  | .text t => some (t.map fun c => [c])
  | _ => none

/-- Does a logger write to the console under its part of a configuration? It does by any handler;
a handler that is not defined cannot be given. -/
def consoleIn (defined : List Text) (config : Value) : Option Bool :=
  if names config "handlers" then do
    let listed ← (config.field? "handlers").bind listedNames?
    if listed.all defined.contains then some true else none
  else some false

/-- The logger under its part of a configuration. -/
def configureLogger (defined : List Text) (name : Text) (logger : Logger) (config : Value) :
    Except Error Logger :=
  match config.fields?, levelIn config logger.level, consoleIn defined config with
  | some _, some level, some console =>
      .ok {
        level
        console
        propagates :=
          match config.field? "propagate" with
          | none | some .null => logger.propagates
          | some value => !value.isBlank }
  | _, _, _ => .error (.unconfigurableLogger name)

/-- A logger that a configuration does not name: those below a named one lose what they had of
their own, the others are silenced or not as the configuration says. -/
def leave (named : List Text) (silence : Bool) (name : Text) (logger : Logger) : Logger :=
  if (upward name).any named.contains then
    { logger with level := 0, console := false, propagates := true }
  else { logger with disabled := silence }

/-- The known loggers with those that a configuration names configured. -/
def configureNamed (defined : List Text) (known : Table Text Logger) :
    List (Text × Value) → Except Error (Table Text Logger)
  | [] => .ok known
  | (name, config) :: rest => do
      let logger ← configureLogger defined name ((known.find? name).getD {}) config
      configureNamed defined (known.insert name logger) rest

/-- Refuses a configuration of any version but the first. -/
def checkVersion (config : Value) : Except Error Unit :=
  match config.field? "version" with
  | none => .error .unversionedLogging
  | some (.bool true) => .ok ()
  | some (.number units places) =>
      let version := Value.numberText units places
      if version = "1" || version = "1.0" then .ok () else .error (.unsupportedLogging version)
  | some value => .error (.unsupportedLogging value.shown)

/-- The level of the root under a configuration. -/
def rootLevel (config : Value) (level : Int) : Except Error Int :=
  if names config "root" then
    match (config.field? "root").bind fun root =>
        root.fields?.bind fun _ => levelIn root level with
    | some level => .ok level
    | none => .error .unconfigurableRoot
  else .ok level

/-- The loggers under a configuration. -/
def configure (loggers : Loggers) (config : Value) : Except Error Loggers := do
  checkVersion config
  let parts := ((config.field? "loggers").bind Value.fields?).getD []
  let defined := (((config.field? "handlers").bind Value.fields?).getD []).map (·.1)
  let named := parts.map (·.1)
  let silence := ((config.field? "disable_existing_loggers").map (!·.isBlank)).getD true
  let left := loggers.known.map fun (name, logger) =>
    (name, if named.contains name then logger else leave named silence name logger)
  return { known := ← configureNamed defined left parts, root := ← rootLevel config loggers.root }

/-- The loggers that a level on the command line is for. -/
def forced : List Text := ["classgen", "classgen.macros", "classgen.generator"]

/-- The loggers with a level given by its name. -/
def force (loggers : Loggers) (level : Text) : Except Error Loggers := do
  let number ← Log.levelNumber (Text.toUpper level)
  return { loggers with known := forced.foldl (fun known name =>
    known.insert name { (known.find? name).getD {} with level := number }) loggers.known }

end Loggers

/-! ### The configuration of a run -/

namespace Logging

/-- Where the configuration is read from: the path given, else the one that the environment
names. -/
def path? (environment : Environment) (given : Option Path) : Option Path :=
  given.or <|
    match environment.value? "CLASSGEN_LOGGING_CONFIG" with
    | none | some [] => none
    | some t => some (.ofText t)

/-- The configuration when there is no file: the program's loggers write to the console, at the
level that the environment names. -/
def builtIn (environment : Environment) : Value :=
  let text (t : Text) : Value := .text t
  .record [
    ("version", .int 1),
    ("disable_existing_loggers", .bool false),
    ("formatters", .record [
      ("standard", .record [
        ("format", text "%(asctime)s.%(msecs)03d | %(levelname)-7s | %(name)s - %(message)s"),
        ("datefmt", text "%H:%M:%S")]),
      ("detailed", .record [
        ("format", text
          "%(asctime)s | %(levelname)-7s | %(name)s | %(funcName)s:%(lineno)d - %(message)s"),
        ("datefmt", text "%Y-%m-%d %H:%M:%S")])]),
    ("handlers", .record [
      ("console", .record [
        ("class", text "logging.StreamHandler"),
        ("formatter", text "standard"),
        ("stream", text "ext://sys.stderr")])]),
    ("loggers", .record [
      ("classgen", .record [
        ("level", .text ((environment.value? "CLASSGEN_LOG_LEVEL").getD "INFO")),
        ("handlers", .list [text "console"]),
        ("propagate", .bool true)])]),
    ("root", .record [("level", text "WARNING")])]

/-- The configuration of a run; a file that is not there is as good as none. -/
def configuration (environment : Environment) (disk : Disk) (path? : Option Path) :
    Except Error Value :=
  match path? with
  | none => .ok (builtIn environment)
  | some path =>
      if disk.has path then do
        match Value.ofText? (← disk.text path) with
        | none => throw (.unreadableConfiguration path.text)
        | some value => return if value.isBlank then .record [] else value
      else .ok (builtIn environment)

end Logging

namespace Loggers

/-- The loggers of a run: configured by the file at the path given or found, or by what is built
in, and then at the level given, if one is. -/
def setUp (loggers : Loggers) (environment : Environment) (disk : Disk) (path : Option Path)
    (level : Text) : Except Error Loggers := do
  let config ← Logging.configuration environment disk (Logging.path? environment path)
  let loggers ← loggers.configure config
  if level = [] then return loggers else loggers.force level

/-! ### Records on the console -/

end Loggers

/-- A line on the console. -/
inductive Notice where
  /-- A line that begins with the time. -/
  | timed (text : Text)
  | plain (text : Text)
  deriving DecidableEq, Repr

namespace Notice

/-- The text of a notice, without the time. -/
def text : Notice → Text
  | timed t | plain t => t

end Notice

namespace Loggers

/-- The line for a record: its level, its logger and its message. -/
def line (record : Log.Record) : Text :=
  let level := record.level.name
  level ++ List.replicate (7 - level.length) ' ' ++ " | " ++ record.logger ++ " - "
    ++ record.message

/-- How many loggers among these write to the console, up to the first that passes nothing on. -/
def consoles (loggers : Loggers) : List Text → Nat
  | [] => 0
  | name :: rest =>
      let logger := loggers.logger name
      logger.console.toNat + (if logger.propagates then consoles loggers rest else 0)

/-- What a record leaves on the console. When no logger writes there, grave records still do, with
nothing but their message. -/
def notices (loggers : Loggers) (record : Log.Record) : List Notice :=
  if (loggers.logger record.logger).disabled
      || record.level.number < loggers.effectiveLevel record.logger then []
  else
    match loggers.consoles (upward record.logger) with
    | 0 => if record.level.number < Log.Level.warning.number then [] else [.plain record.message]
    | n => List.replicate n (.timed (line record))

end Loggers

end Classwright
