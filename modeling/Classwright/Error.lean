import Classwright.Record
import Classwright.Text.Quoted

/-!
# Error — what can go wrong

Every failure is a cause with the values that its message names.

* `FileFault`: why the file system refuses a path.
* `Error`: all causes.
* `Error.message`: the wording of each.
* `Error.isReported`: is the failure one that ends a run of the command line with a report?
-/

namespace Classwright

/-! ### Refusals of the file system -/

/-- Why the file system refuses a path. -/
inductive FileFault where
  /-- Nothing is there, or a directory on the way is missing. -/
  | missing
  /-- Something is there already. -/
  | present
  /-- A file stands where the path goes on. -/
  | notDirectory
  /-- A directory stands where a file is wanted. -/
  | isDirectory
  deriving DecidableEq, Repr

namespace FileFault

/-- The number that the system gives to the fault. -/
def number : FileFault → Nat
  | .missing => 2
  | .present => 17
  | .notDirectory => 20
  | .isDirectory => 21

/-- The system's own words for the fault. -/
def words : FileFault → Text
  | .missing => "No such file or directory"
  | .present => "File exists"
  | .notDirectory => "Not a directory"
  | .isDirectory => "Is a directory"

/-- The fault at a path, with its number. -/
def message (fault : FileFault) (path : Text) : Text :=
  "[Errno " ++ Text.ofNat fault.number ++ "] " ++ fault.words ++ ": " ++ path.quoted

end FileFault

/-! ### Causes -/

/-- The causes of failure. -/
inductive Error where
  /-- A level of indentation below zero. -/
  | negativeIndent (level : Int)
  /-- A comment with no text. -/
  | missingDescription
  /-- A docblock tag with no name. -/
  | unnamedTag
  /-- A docblock tag with more fields than it can show. -/
  | crowdedTag (name : Text) (fields : Nat)
  /-- A macro registered under no name. -/
  | unnamedMacro
  /-- A macro registered when expansion has begun. -/
  | frozenRegistry (name : Text)
  /-- A macro call with an argument whose quote never closes. -/
  | unclosedQuote (call : Text)
  /-- A macro call, braces included, that names no macro. -/
  | namelessCall (call : Text)
  /-- A macro call by a name that is not registered. -/
  | undefinedMacro (name : Text)
  /-- A line for a writer that is closed. -/
  | closedWriter (writer : Text)
  /-- An extension of the buffered line when there is none. -/
  | nothingToExtend (writer : Text)
  /-- A removal of the buffered line when there is none. -/
  | nothingToDelete (writer : Text)
  /-- An output path that is taken. -/
  | outputExists (path : Text)
  /-- A class without an output directory. -/
  | noOutputDirectory (className : Text)
  /-- Openings and closings of character data that do not pair up. -/
  | unbalancedCdata (opened closed : Nat)
  /-- A document that is no well-formed XML. -/
  | malformedXml
  /-- A document about something else. -/
  | unexpectedRoot (tag : Text)
  /-- An element without an attribute it needs. -/
  | missingAttribute (tag key : Text)
  /-- An attribute that should say yes or no and says something else. -/
  | unclearFlag (tag key value : Text)
  /-- An element without a description. -/
  | undescribed (label : Text)
  /-- An element that should hold text and holds none. -/
  | emptyElement (label : Text)
  /-- An input file that cannot be read. -/
  | unreadableInput (path : Text) (fault : FileFault)
  /-- A file whose bytes are no text. -/
  | undecodable
  /-- A path that the file system refuses. -/
  | refusedPath (path : Text) (fault : FileFault)
  /-- A record that is no description. -/
  | malformedRecord (faults : List Record.Fault)
  /-- A logging configuration that is no value. -/
  | unreadableConfiguration (path : Text)
  /-- A logging configuration without a version. -/
  | unversionedLogging
  /-- A logging configuration of another version. -/
  | unsupportedLogging (version : Text)
  /-- A logger that cannot be given its configuration. -/
  | unconfigurableLogger (name : Text)
  /-- The root logger cannot be given its configuration. -/
  | unconfigurableRoot
  /-- A level that has no number. -/
  | unknownLevel (name : Text)
  deriving DecidableEq, Repr

namespace Error

/-- The most data fields of a docblock tag. -/
def maxFields : Nat := 3

/-- The wording of a failure. -/
def message : Error → Text
  | negativeIndent level => "indent level must be >= 0, got " ++ Text.ofInt level
  | missingDescription => "Missing description in docblock."
  | unnamedTag => "Docblock attribute needs a tag"
  | crowdedTag name fields =>
      "Docblock attribute @" ++ name ++ " has " ++ Text.ofNat fields ++ " data fields, at most "
        ++ Text.ofNat maxFields ++ " are allowed"
  | unnamedMacro => "Macro definitions need a name"
  | frozenRegistry name =>
      "Cannot register macro " ++ name.quoted ++ " after expansion has started"
  | unclosedQuote call =>
      "Unterminated quoted argument in macro call \x7b\x7b" ++ call ++ "\x7d\x7d"
  | namelessCall call => "Macro call " ++ call.quoted ++ " has no macro name"
  | undefinedMacro name => "Macro \"" ++ name ++ "\" is not defined."
  | closedWriter writer => "Writer for " ++ writer ++ " is closed"
  | nothingToExtend writer => "No buffered line to extend in " ++ writer
  | nothingToDelete writer => "No buffered line to delete in " ++ writer
  | outputExists path => path ++ " already exists."
  | noOutputDirectory className =>
      "Class " ++ className
        ++ " has no output directory and no default output directory is set"
  | unbalancedCdata opened closed =>
      "Found " ++ Text.ofNat opened ++ " '<![CDATA[' but " ++ Text.ofNat closed
        ++ " ']]>'. If ']]>' appears in embedded code, separate the brackets"
        ++ " (for example ']] >')."
  | malformedXml => "Invalid XML"
  | unexpectedRoot tag => "Unexpected root element <" ++ tag ++ ">, expected <classgen>"
  | missingAttribute tag key =>
      "<" ++ tag ++ "> is missing the required '" ++ key ++ "' attribute"
  | unclearFlag tag key value =>
      "<" ++ tag ++ "> attribute '" ++ key
        ++ "' must be one of 0, 1, false, no, true, yes, got " ++ value.quoted
  | undescribed label =>
      label ++ " has no description; add a doc attribute or a <doc> element"
  | emptyElement label => label ++ " is empty"
  | unreadableInput path fault =>
      "Cannot read input file " ++ path ++ ": " ++ fault.message path
  | undecodable => "the file is not valid UTF-8"
  | refusedPath path fault => fault.message path
  | malformedRecord faults => Record.report faults
  | unreadableConfiguration path => "Cannot read logging configuration " ++ path
  | unversionedLogging => "dictionary doesn't specify a version"
  | unsupportedLogging version => "Unsupported version: " ++ version
  | unconfigurableLogger name => "Unable to configure logger " ++ name.quoted
  | unconfigurableRoot => "Unable to configure root logger"
  | unknownLevel name => "Unknown level: " ++ name.quoted

/-- Is the failure one that the command line reports and ends with? The rest break a run off: a
negative indent, the file system, undecodable bytes, records and the logging configuration. -/
def isReported : Error → Bool
  | negativeIndent _ | undecodable | refusedPath _ _ | malformedRecord _ => false
  | unreadableConfiguration _ | unversionedLogging | unsupportedLogging _ => false
  | unconfigurableLogger _ | unconfigurableRoot | unknownLevel _ => false
  | _ => true

end Error

end Classwright
