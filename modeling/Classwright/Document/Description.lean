import Classwright.Document.Field

/-!
# Document — descriptions of classes

The parts of a class are read in a fixed order, and the first fault is the failure of the whole.
What is made of free text and of code may have effects; they come in that order too.

* `parameter`, `method`, `member?`, `constant`, `property`: the parts.
* `describedClass`: a class.
-/

namespace Classwright.Document

open Xml

variable {m : Type → Type} [Monad m] [MonadLiftT (Except Error) m] (read : Reading m)

/-- A parameter of a method. -/
def parameter (e : Element) : m Parameter := do
  return {
    name := ← required e "name"
    type := e.value "type"
    description := ← read.text (e.value "desc") }

/-- A method in a group of its visibility. -/
def method (visibility : Visibility) (e : Element) : m Method := do
  return {
    name := ← required e "name"
    description := ← description read e
    parameters := ← (e.childrenNamed "input").mapM (parameter read)
    returnType := e.value "return"
    body := ← content? read e
    visibility
    isStatic := (keywords e).contains "static"
    isAbstract := (keywords e).contains "abstract" }

/-- A member in a group of its visibility; elements that are neither a method nor a comment are
none. -/
def member? (visibility : Visibility) (e : Element) : m (Option Member) := do
  if e.tag = "method" then return some (.method (← method read visibility e))
  else if e.tag = "comment" then return some (.comment (← requiredText read e))
  else return none

/-- The members in a group, in order. -/
def members (visibility : Visibility) (group : Element) : m (List Member) := do
  return (← group.children.mapM (member? read visibility)).filterMap id

/-- The members of each visibility that has a group; the first group of a visibility counts. -/
def methods (e : Element) : List Visibility → m (Table Visibility (List Member))
  | [] => pure []
  | visibility :: rest =>
      match e.grandchild? "methods" visibility.keyword with
      | none => methods e rest
      | some group => do
          let found ← members read visibility group
          return (visibility, found) :: (← methods e rest)

/-- A constant. -/
def constant (e : Element) : m Constant := do
  return {
    name := ← required e "name"
    value := ← required e "value"
    description := ← description read e
    type := e.value "type"
    forceMultiLine := ← flag e "multiline" false }

/-- The code of a child, if there is such a child. -/
def childContent? (e : Element) (tag : Text) : m (Option (List Text)) :=
  match e.child? tag with
  | none => pure none
  | some child => content? read child

/-- A property. -/
def property (e : Element) : m Property := do
  return {
    name := ← required e "name"
    description := ← description read e
    type := e.value "type"
    default := e.value "default"
    isStatic := (keywords e).contains "static"
    getter := ← flag e "getter" true
    setter := ← flag e "setter" true
    getterBody := ← childContent? read e "getter"
    setterBody := ← childContent? read e "setter"
    forceMultiLine := ← flag e "multiline" false }

/-- The names in a list that commas and white space separate. -/
def names (t : Text) : List Text := Text.words (t.map fun c => if c = ',' then ' ' else c)

/-- A class. -/
def describedClass (e : Element) : m Class := do
  let name ← required e "name"
  let methods ← methods read e Visibility.all
  return {
    name
    methods
    description := ← description read e
    home := e.value "namespace"
    author := ← read.text (e.value "author")
    parent := e.value "extends"
    implements := names (e.value "implements")
    keywords := keywords e
    uses := ← (e.grandchildrenNamed "uses" "use").mapM (required · "value")
    traits := ← (e.grandchildrenNamed "traits" "trait").mapM (required · "value")
    superdocs := ← (e.grandchildrenNamed "superdocs" "superdoc").mapM (requiredText read)
    constants := ← (e.grandchildrenNamed "properties" "constant").mapM (constant read)
    properties := ← (e.grandchildrenNamed "properties" "property").mapM (property read)
    output := e.value "output" }

end Classwright.Document
