import Classwright.Text.Quoted

/-!
# CommandLine — switches and help

* `Switch`: the switches of the program.
* `usage`, `help`: the texts that say how the program is called.
-/

namespace Classwright.CommandLine

/-- A switch. -/
inductive Switch where
  | help
  | outputDirectory
  | logLevel
  | loggingConfig
  deriving DecidableEq, Repr

namespace Switch

/-- The switches, in the order of their definition. -/
def all : List Switch := [help, outputDirectory, logLevel, loggingConfig]

/-- The long name of a switch. -/
def longName : Switch → Text
  | help => "--help"
  | outputDirectory => "--output-dir"
  | logLevel => "--log-level"
  | loggingConfig => "--logging-config"

/-- The short name of the switch for help. -/
def shortHelp : Text := "-h"

/-- A switch as messages show it. -/
def label : Switch → Text
  | help => shortHelp ++ "/" ++ longName help
  | switch => switch.longName

end Switch

/-- The levels that the switch for the level takes. -/
def levels : List Text := ["DEBUG", "INFO", "WARNING", "ERROR", "CRITICAL"]

/-- How the program is called, in short. -/
def usage : List Text :=
  [ "usage: classgen [-h] [--output-dir OUTPUT_DIR]",
    "                [--log-level \x7b" ++ Text.join "," levels ++ "\x7d]",
    "                [--logging-config LOGGING_CONFIG]",
    "                input" ]

/-- What the words on the command line mean. -/
def explanation : List Text :=
  [ "Generate class files from an XML description",
    "",
    "positional arguments:",
    "  input                 XML input file",
    "",
    "options:",
    "  -h, --help            show this help message and exit",
    "  --output-dir OUTPUT_DIR",
    "                        Output directory for classes without their own",
    "                        'output' attribute",
    "  --log-level \x7b" ++ Text.join "," levels ++ "\x7d",
    "                        Log level override",
    "  --logging-config LOGGING_CONFIG",
    "                        YAML logging configuration file" ]

/-- How the program is called, at length. -/
def help : List Text := usage ++ [] :: explanation

end Classwright.CommandLine
