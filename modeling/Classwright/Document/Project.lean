import Classwright.Document.Description
import Classwright.Macro.Registry
import Classwright.Xml.Document

/-!
# Document — from a text to a project

A document first defines macros, which are registered before any class is read, and then describes
classes.

* `checkCdata`: do the openings and closings of character data pair up?
* `root`: the root element of a document.
* `macros`: the macros of a document, registered.
* `project`: a document as a project.
-/

namespace Classwright.Document

open Xml Macro

/-! ### The text of a document -/

/-- The opening of a section of character data. -/
def cdataOpening : Text := "<![CDATA["

/-- The closing of a section of character data. -/
def cdataClosing : Text := "]]>"

/-- Refuses a text with more or fewer closings of character data than openings: a stray closing
inside code would cut its section short without a word. -/
def checkCdata (t : Text) : Except Error Unit :=
  let opened := Text.count cdataOpening t
  let closed := Text.count cdataClosing t
  if opened = closed then .ok () else .error (.unbalancedCdata opened closed)

/-- The tags that the root of a document may have. -/
def rootTags : List Text := ["classgen", "phlute"]

/-- The root element of a document. -/
def root (t : Text) : Except Error Element := do
  checkCdata t
  match Element.ofText? t with
  | none => throw .malformedXml
  | some e => if rootTags.contains e.tag then return e else throw (.unexpectedRoot e.tag)

/-! ### Macros -/

/-- Registers the macros that the elements define, one after the other. -/
def registerMacros : List Element → Action Registry Unit
  | [] => pure ()
  | e :: rest => do
      let name ← Action.ofExcept (required e "name")
      Registry.register name e.text
      registerMacros rest

/-- Registers the macros of a document: those in the first child of the root that defines some. -/
def macros (root : Element) : Action Registry Unit := do
  match root.child? "macros" with
  | none => pure ()
  | some block => registerMacros (block.childrenNamed "macro")
  Action.log .debug Log.document
    ("Registered " ++ Text.ofNat (← Action.state).size ++ " macros")

/-! ### Projects -/

/-- The classes of a document, in order. The macro calls in their texts are expanded by the
registry, which the first text to be expanded freezes. -/
def classes (root : Element) : Action Registry (List Class) := do
  let classes ← (root.childrenNamed "class").mapM (describedClass (.expanding Registry.expand))
  Action.log .debug Log.document ("Parsed " ++ Text.ofNat classes.length ++ " classes")
  return classes

/-- The project that a document describes. -/
def project (t : Text) : Action Registry Project := do
  let root ← Action.ofExcept (root t)
  macros root
  let classes ← classes root
  return { defaultOutput := root.value "default-output", classes }

end Classwright.Document
