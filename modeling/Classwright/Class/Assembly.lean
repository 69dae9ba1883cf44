import Classwright.Class.Member
import Classwright.Text.Lines

/-!
# Class — assembling a file

A class file opens with its namespace, its imports and its comments. Inside the braces come traits,
constants, properties, the accessors between two marks, and the methods by visibility. Every part
leaves an empty line behind, and the last of these is taken back.

* `Class.write`: the class through a writer.
* `Class.text`: the text of the class.
* `Class.render`: its lines, along the line boundaries of the text.
-/

namespace Classwright.Class

open Comment (Tag docblock)

/-- The level of the members of a class. -/
def memberLevel : Int := 1

/-- The mark before the accessors. -/
def accessorsStart : Text := "// START getters and setters."

/-- The mark after the accessors. -/
def accessorsEnd : Text := "// END getters and setters."

/-- The mark before the private members. -/
def helpersMark : Text := "// Helper functions below this line."

/-! ### Parts -/

/-- Writes a comment at the left margin. -/
def writeHeading (description : Text) (tags : List Tag) : Writing Unit := do
  Writing.appendAll (← Writing.ofExcept (docblock (some description) tags 0 .block true))

/-- Writes statements, one a line, and an empty line; nothing when there are none. -/
def writeStatements (statements : List Text) (level : Int) : Writing Unit := do
  if statements ≠ [] then
    statements.forM fun statement => Writing.append statement level
    Writing.append []

/-- Writes what comes before the braces. -/
def writeHeader (c : Class) : Writing Unit := do
  Writing.append "<?php"
  Writing.append []
  if c.home ≠ [] then
    Writing.append ("namespace " ++ c.home ++ ";")
    Writing.append []
  writeStatements (c.uses.map fun use => "use " ++ use ++ ";") 0
  c.superdocs.forM fun superdoc => do
    writeHeading superdoc []
    Writing.append []
  writeHeading c.description (if c.author = [] then [] else [.author c.author])
  Writing.append c.declaration

/-- The place of the members of the class. -/
def scope (c : Class) : Scope where
  imports := .ofUses c.uses
  level := memberLevel

/-- Writes a mark between members. -/
def writeMark (mark : Text) : Writing Unit := do
  Writing.append mark memberLevel
  Writing.append []

/-- Writes the constants, the properties and their accessors. -/
def writeFields (c : Class) : Writing Unit := do
  c.constants.forM c.scope.writeConstant
  c.properties.forM c.scope.writeProperty
  let accessible := c.properties.filter (·.hasAccessor)
  if accessible ≠ [] then
    Writing.append []
    writeMark accessorsStart
    accessible.forM c.scope.writeAccessors
    writeMark accessorsEnd

/-- Writes the members of a visibility. -/
def writeGroup (c : Class) (v : Visibility) : Writing Unit := do
  if c.members v ≠ [] then
    if v = .privateAccess then
      Writing.append []
      writeMark helpersMark
    (c.members v).forM c.scope.writeMember

/-- Takes the empty line back that the last part left. -/
def retractSeparator : Writing Unit := do
  if (← get).buffer = some [] then Writing.deleteLast

/-! ### The whole -/

/-- Writes the class. -/
def write (c : Class) : Writing Unit := do
  c.writeHeader
  Writing.append "\x7b"
  writeStatements (c.traits.map fun trait => "use " ++ trait ++ ";") memberLevel
  c.writeFields
  Visibility.all.forM c.writeGroup
  retractSeparator
  Writing.append "\x7d"

/-- The text of the class. -/
def text (c : Class) : Except Error Text :=
  match c.write.runFrom { name := c.name } with
  | (.ok _, writer) => .ok writer.close.sent
  | (.error e, _) => .error e

/-- The lines of the class, along the line boundaries of its text. -/
def render (c : Class) : Except Error (List Text) := c.text.map Text.boundaryLines

end Classwright.Class
