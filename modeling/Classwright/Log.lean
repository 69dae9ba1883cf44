import Classwright.Text.Basic

/-!
# Log — records of a run

* `Log.Level`: how grave a record is.
* `Log.Record`: a message with its level and the logger it goes to.
* `Log.macros`, `Log.document`, `Log.generation`: the loggers of this program.
-/

namespace Classwright.Log

/-- How grave a record is. -/
inductive Level where
  | debug
  | info
  | warning
  | error
  | critical
  deriving DecidableEq, Repr

namespace Level

/-- The number of a level; a logger lets pass what is not below its own. -/
def number : Level → Nat
  | debug => 10
  | info => 20
  | warning => 30
  | error => 40
  | critical => 50

/-- The name of a level. -/
def name : Level → Text
  | debug => "DEBUG"
  | info => "INFO"
  | warning => "WARNING"
  | error => "ERROR"
  | critical => "CRITICAL"

end Level

/-- A message with its level and its logger. -/
structure Record where
  level : Level
  logger : Text
  message : Text
  deriving DecidableEq, Repr

/-- The logger of the macro registry. -/
def macros : Text := "classgen.macros"

/-- The logger of reading a document. -/
def document : Text := "classgen.generator.loader"

/-- The logger of writing classes. -/
def generation : Text := "classgen.generator.class_builder"

end Classwright.Log
