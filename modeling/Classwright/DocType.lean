import Classwright.Table
import Classwright.Text.Blank
import Classwright.Text.Case

/-!
# DocType — types in documentation

Code names a class by its short name and imports it; documentation writes its name out in full. A
type is a union of members, each of which may be nullable and may be an array.

* `shortName`: the segment after the last backslash.
* `Imports`, `Imports.ofUses`: full names by short name.
* `builtins`: the types that no import can rename in documentation unless it claims their name.
* `Imports.qualify`: the full name of one plain name.
* `Imports.resolve`: a type with every member written out.
-/

namespace Classwright.DocType

open Text

/-- The segment of a name after its last backslash. -/
def shortName (name : Text) : Text := (split (· == '\\') name).getLastD []

/-- Full names by the short names that stand for them. -/
abbrev Imports := Table Text Text

/-- The types of the language itself, in small letters. -/
def builtins : List Text :=
  ["int", "integer", "float", "double", "string", "bool", "boolean", "array", "iterable",
    "callable", "void", "resource", "mixed", "null", "object", "self", "static", "parent", "false",
    "true", "never"]

/-- Is the name, in whatever case, a type of the language itself? -/
def isBuiltin (name : Text) : Bool := builtins.contains (toLower name)

/-- The name that a use statement imports: trimmed, without backslashes in front. -/
def imported (use : Text) : Text := (trim use).dropWhile (· == '\\')

namespace Imports

/-! ### Building -/

/-- The imports with one more use statement; a use of nothing changes nothing. -/
def addUse (imports : Imports) (use : Text) : Imports :=
  if imported use = [] then imports
  else imports.insert (shortName (imported use)) (imported use)

/-- The imports of use statements, the last one of a short name counting. -/
def ofUses (uses : List Text) : Imports := uses.foldl addUse []

/-! ### Resolving -/

/-- A plain name written out: as it is when it is empty, begins with a backslash or is built in,
by its import if it has one, and in the global namespace otherwise. -/
def qualify (imports : Imports) (name : Text) : Text :=
  match name with
  | [] => []
  | '\\' :: _ => name
  | _ =>
      match imports.find? name with
      | some full => '\\' :: full
      | none => if isBuiltin name then name else '\\' :: name

/-- The array suffix at the end of a reversed name: how many pairs of brackets, and the reversed
rest. -/
def stripArrays : Text → Nat × Text
  | ']' :: '[' :: rest =>
      let further := stripArrays rest
      (further.1 + 1, further.2)
  | base => (0, base)

/-- A number of array suffixes. -/
def arraySuffix : Nat → Text
  | 0 => []
  | n + 1 => "[]" ++ arraySuffix n

/-- The name before the array suffixes, resolved, with the suffixes. -/
def resolveArray (imports : Imports) (member : Text) : Text :=
  let stripped := stripArrays member.reverse
  imports.qualify stripped.2.reverse ++ arraySuffix stripped.1

/-- One member of a type written out; a question mark in front becomes the member `null`
behind. -/
def resolveMember (imports : Imports) (member : Text) : Text :=
  match trim member with
  | '?' :: base => imports.resolveArray base ++ "|null"
  | base => imports.resolveArray base

/-- The type with every member written out. -/
def resolve (imports : Imports) (type : Text) : Text :=
  join "|" ((split (· == '|') type).map imports.resolveMember)

end Imports

end Classwright.DocType
