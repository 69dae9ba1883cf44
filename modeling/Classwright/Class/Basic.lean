import Classwright.Table
import Classwright.Text.Blank
import Classwright.Text.Case

/-!
# Class — descriptions of classes

A class has constants, properties and members; a member is a method or a free comment. The setter
and the getter of a property are ordinary methods, so that they are laid out as written ones are.

* `Parameter`, `Method`, `Member`, `Constant`, `Property`, `Class`, `Project`: the descriptions.
* `Property.getterMethod`, `Property.setterMethod`: the accessors of a property.
* `Keywords.ofWords`: a set of words, in order.
-/

namespace Classwright

/-! ### Members -/

/-- Who may call a method. -/
inductive Visibility where
  | publicAccess
  | protectedAccess
  | privateAccess
  deriving DecidableEq, Repr

namespace Visibility

/-- The keyword of a visibility. -/
def keyword : Visibility → Text
  | publicAccess => "public"
  | protectedAccess => "protected"
  | privateAccess => "private"

/-- The visibilities in the order of output. -/
def all : List Visibility := [publicAccess, protectedAccess, privateAccess]

theorem mem_all (v : Visibility) : v ∈ all := by cases v <;> decide

/-- The visibility of a keyword. -/
def ofKeyword? (word : Text) : Option Visibility := all.find? fun v => v.keyword == word

end Visibility

/-- A parameter of a method. -/
structure Parameter where
  name : Text
  type : Text := []
  description : Text := []
  deriving DecidableEq, Repr

/-- A method; one without a body gets a placeholder. -/
structure Method where
  name : Text
  description : Text
  parameters : List Parameter := []
  returnType : Text := []
  body : Option (List Text) := none
  visibility : Visibility := .publicAccess
  isStatic : Bool := false
  isAbstract : Bool := false
  deriving DecidableEq, Repr

/-- What stands among the methods of a class. -/
inductive Member where
  | method (method : Method)
  | comment (text : Text)
  deriving DecidableEq, Repr

/-- A constant of a class. -/
structure Constant where
  name : Text
  value : Text
  description : Text
  type : Text := []
  forceMultiLine : Bool := false
  deriving DecidableEq, Repr

/-- A private property, with the accessors to generate for it. -/
structure Property where
  name : Text
  description : Text
  type : Text := []
  default : Text := []
  isStatic : Bool := false
  getter : Bool := true
  setter : Bool := true
  getterBody : Option (List Text) := none
  setterBody : Option (List Text) := none
  forceMultiLine : Bool := false
  deriving DecidableEq, Repr

namespace Property

/-- The name of the property inside the names of its accessors. -/
def accessorSuffix (property : Property) : Text := Text.capitalise property.name

/-- The property as code inside the class reads it. -/
def reference (property : Property) : Text :=
  if property.isStatic then "self::$" ++ property.name else "$this->" ++ property.name

/-- The default value as the declaration writes it: between quotation marks for a string. -/
def defaultLiteral (property : Property) : Text :=
  if property.type = "string" then "\"" ++ property.default ++ "\"" else property.default

/-- A body that was given, unless it has no lines; else the line that stands for it. -/
def bodyOr (body : Option (List Text)) (line : Text) : Option (List Text) :=
  match body with
  | some (l :: ls) => some (l :: ls)
  | _ => some [line]

/-- The method that reads the property. -/
def getterMethod (property : Property) : Method where
  name := "get" ++ property.accessorSuffix
  description := "Getter for " ++ property.name ++ "."
  returnType := property.type
  body := bodyOr property.getterBody ("return " ++ property.reference ++ ";")
  isStatic := property.isStatic

/-- The method that changes the property. -/
def setterMethod (property : Property) : Method where
  name := "set" ++ property.accessorSuffix
  description := "Setter for " ++ property.name ++ "."
  parameters := [{ name := "input", type := property.type }]
  returnType := "void"
  body := bodyOr property.setterBody (property.reference ++ " = $input;")
  isStatic := property.isStatic

/-- Has the property an accessor? -/
def hasAccessor (property : Property) : Bool := property.getter || property.setter

end Property

/-! ### Classes -/

/-- A set of words, in order and each once. -/
abbrev Keywords := List Text

/-- The set of these words. -/
def Keywords.ofWords (words : List Text) : Keywords := words.eraseDups.mergeSort Text.le

/-- All that is needed to write one class. -/
structure Class where
  name : Text
  description : Text
  home : Text := []
  author : Text := []
  parent : Text := []
  implements : List Text := []
  keywords : Keywords := []
  uses : List Text := []
  traits : List Text := []
  superdocs : List Text := []
  constants : List Constant := []
  properties : List Property := []
  methods : Table Visibility (List Member) := []
  output : Text := []
  deriving DecidableEq, Repr

namespace Class

/-- Is the class abstract? -/
def isAbstract (c : Class) : Bool := c.keywords.contains "abstract"

/-- Is the class final? -/
def isFinal (c : Class) : Bool := c.keywords.contains "final"

/-- The members of a visibility. -/
def members (c : Class) (v : Visibility) : List Member := (c.methods.find? v).getD []

end Class

/-- A description document. -/
structure Project where
  defaultOutput : Text := []
  classes : List Class := []
  deriving DecidableEq, Repr

end Classwright
