import Classwright.Class.Declaration
import Classwright.Comment.Docblock
import Classwright.DocType
import Classwright.Writer

/-!
# Class — writing members

Each member is a comment, its code and one empty line behind.

* `Scope`: the imports that documentation resolves types by, and the level of indentation.
* `Scope.docType`: a type in documentation.
* `Scope.writeConstant`, `Scope.writeProperty`, `Scope.writeAccessors`, `Scope.writeMethod`,
  `Scope.writeComment`, `Scope.writeMember`: each kind of member.
-/

namespace Classwright

open Comment (Style Tag docblock)
open DocType (Imports)

/-! ### Tags of members -/

namespace Comment.Tag

/-- The type of a constant or a property. -/
def var (type : Text) : Tag where
  name := "var"
  fields := [type]
  name_ne_nil := by decide
  length_fields := by simp [Error.maxFields]

/-- What a method returns. -/
def returns (type : Text) : Tag where
  name := "return"
  fields := [type]
  name_ne_nil := by decide
  length_fields := by simp [Error.maxFields]

/-- The author of a class. -/
def author (name : Text) : Tag where
  name := "author"
  fields := [name]
  name_ne_nil := by decide
  length_fields := by simp [Error.maxFields]

/-- A parameter: its type, its name and, if it says anything, its description. -/
def param (type name description : Text) : Tag where
  name := "param"
  fields := [type, "$" ++ name] ++ if Text.isBlank description then [] else [description]
  name_ne_nil := by decide
  length_fields := by split <;> simp [Error.maxFields]

end Comment.Tag

/-- Where members are written: the imports of the class, and the level of indentation. -/
structure Scope where
  imports : Imports
  level : Int := 1

namespace Scope

/-- A type as documentation shows it: written out in full, `mixed` when there is none. -/
def docType (scope : Scope) (type : Text) : Text :=
  if type = [] then "mixed" else scope.imports.resolve type

/-! ### Comments -/

/-- Writes a comment. -/
def writeDocblock (scope : Scope) (description : Text) (tags : List Tag) (style : Style)
    (forceMultiLine : Bool) : Writing Unit := do
  let lines ← Writing.ofExcept (docblock (some description) tags scope.level style forceMultiLine)
  Writing.appendAll lines

/-- Writes a free comment. -/
def writeComment (scope : Scope) (text : Text) : Writing Unit := do
  scope.writeDocblock text [] .line false
  Writing.append []

/-! ### Constants and properties -/

/-- Writes a constant. -/
def writeConstant (scope : Scope) (constant : Constant) : Writing Unit := do
  scope.writeDocblock constant.description [.var (scope.docType constant.type)] .block
    constant.forceMultiLine
  Writing.append ("const " ++ constant.name ++ " = " ++ constant.value ++ ";") scope.level
  Writing.append []

/-- Writes a property. -/
def writeProperty (scope : Scope) (property : Property) : Writing Unit := do
  scope.writeDocblock property.description [.var (scope.docType property.type)] .block
    property.forceMultiLine
  Writing.append
    ("private " ++ Text.onlyIf property.isStatic "static " ++ "$" ++ property.name)
    scope.level
  if property.default ≠ [] then Writing.extendLast (" = " ++ property.defaultLiteral)
  Writing.extendLast ";"
  Writing.append []

/-! ### Methods -/

/-- The line that stands for a missing body. -/
def missingBody : Text := "// Todo."

/-- Writes the body of a method between braces. -/
def writeBody (scope : Scope) (body : Option (List Text)) : Writing Unit := do
  Writing.append "\x7b" scope.level
  (body.getD [missingBody]).forM fun line => Writing.append line (scope.level + 1)
  Writing.append "\x7d" scope.level

/-- The tags of a method: its parameters, and what it returns. -/
def methodTags (scope : Scope) (method : Method) : List Tag :=
  method.parameters.map (fun p => .param (scope.docType p.type) p.name p.description)
    ++ [.returns (scope.docType (if method.returnType = [] then "void" else method.returnType))]

/-- Writes a method. -/
def writeMethod (scope : Scope) (method : Method) : Writing Unit := do
  scope.writeDocblock method.description (scope.methodTags method) .block true
  Writing.append method.signature scope.level
  if method.isAbstract then Writing.extendLast ";" else scope.writeBody method.body
  Writing.append []

/-- Writes the accessors of a property, the setter first. -/
def writeAccessors (scope : Scope) (property : Property) : Writing Unit := do
  if property.setter then scope.writeMethod property.setterMethod
  if property.getter then scope.writeMethod property.getterMethod

/-- Writes a method or a free comment. -/
def writeMember (scope : Scope) : Member → Writing Unit
  | .method method => scope.writeMethod method
  | .comment text => scope.writeComment text

end Scope

end Classwright
