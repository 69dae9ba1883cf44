import Classwright.Config.Variables
import Classwright.Disk.Basic
import Classwright.Text.Case

/-!
# Config — settings

Settings come from the environment, then from a file of variables in the working directory, then
from defaults. The names of their variables are read in any case of letters.

* `Settings`: the settings.
* `Settings.load`: the settings of a run.
-/

namespace Classwright

/-- The settings of a run. -/
structure Settings where
  /-- Where classes go that nothing else says a directory for; empty when there is no such place. -/
  outputDirectory : Text := []
  /-- What the names of files end in. -/
  extension : Text := ".php"
  deriving DecidableEq, Repr

namespace Settings

/-- The file of variables that is read, if it is there. -/
def variableFile : Path := .ofText ".env"

/-- Variables by their names in small letters; the last of a name counts. -/
def lowered (bindings : Bindings) : Bindings :=
  bindings.foldl (fun table (name, value) => table.insert (Text.toLower name) value) []

/-- The value of a variable, by its name in small letters: that of the environment, else that of
the file, else a default. -/
def value (environment file : Bindings) (name default : Text) : Text :=
  (((lowered environment).find? name).join.or ((lowered file).find? name).join).getD default

/-- The settings that an environment and a file of variables give. -/
def ofVariables (environment : Environment) (file : Bindings) : Settings :=
  let given := environment.map fun (name, value) => (name, some value)
  { outputDirectory := value given file "classgen_default_output_dir" []
    extension := value given file "classgen_file_extension" ".php" }

/-- The settings of a run. -/
def load (environment : Environment) (disk : Disk) : Except Error Settings := do
  if disk.hasFile variableFile then
    return ofVariables environment (.ofText environment (← disk.text variableFile))
  return ofVariables environment []

end Settings

end Classwright
