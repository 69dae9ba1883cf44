import Classwright.Text.Basic

/-!
# Record — descriptions that do not fit

A description may be handed over as a record of named values instead of a document. The faults of a
record are reported together, each with its place.

* `Record.Fault`: a place in a record and what is wrong there.
* `Record.report`: the faults in one text.
-/

namespace Classwright.Record

/-- What is wrong with a value. -/
inductive Flaw where
  /-- There is no value. -/
  | missing
  /-- The value is no text. -/
  | notText
  /-- The value is none of the words allowed. -/
  | notListed
  deriving DecidableEq, Repr

/-- The word for a flaw. -/
def Flaw.word : Flaw → Text
  | .missing => "missing"
  | .notText => "string_type"
  | .notListed => "enum"

/-- A flaw at a place, given by the names and numbers that lead to it. -/
structure Fault where
  place : List Text
  flaw : Flaw
  deriving DecidableEq, Repr

/-- A fault in words. -/
def Fault.line (fault : Fault) : Text := Text.join "." fault.place ++ ": " ++ fault.flaw.word

/-- The faults in words, in the order of their texts. -/
def report (faults : List Fault) : Text :=
  Text.join "; " ((faults.map (·.line)).mergeSort Text.le)

end Classwright.Record
