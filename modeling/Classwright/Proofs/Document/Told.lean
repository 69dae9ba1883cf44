import Classwright.Document.Description

/-!
# Document — what a document tells

An element tells a class by its attributes and texts.  What it tells is fixed by the element alone:
names, types, values and flags stand in attributes, free text in attributes and elements, code in
elements.  Retelling it goes over the free texts and the code once, and touches nothing else.

* `told`: the class that an element tells, with its texts as they stand.
* `Reading.verbatim`: the reading that leaves texts as they stand.
* `Class.retold`: a class with a reading of each of its texts.
-/

namespace Classwright

namespace Document

open Xml

/-! ### What an element tells -/

/-- The description of an element as it stands. -/
def toldDescription (e : Element) : Text :=
  match e.value? "doc", e.child? "doc" with
  | some doc, _ => doc
  | none, some child => child.text
  | none, none => []

/-- The code of an element as it stands, in one piece. -/
def toldCode (e : Element) : Option (List Text) :=
  (e.child? "content").map fun child => [child.text]

/-- The code of a child as it stands. -/
def toldChildCode (e : Element) (tag : Text) : Option (List Text) := (e.child? tag).bind toldCode

/-- The yes or no of an attribute. -/
def toldFlag (e : Element) (key : Text) (default : Bool) : Bool :=
  match flag e key default with
  | .ok said => said
  | .error _ => default

/-- The parameter that an element tells. -/
def toldParameter (e : Element) : Parameter where
  name := e.value "name"
  type := e.value "type"
  description := e.value "desc"

/-- The method that an element tells. -/
def toldMethod (visibility : Visibility) (e : Element) : Method where
  name := e.value "name"
  description := toldDescription e
  parameters := (e.childrenNamed "input").map toldParameter
  returnType := e.value "return"
  body := toldCode e
  visibility
  isStatic := (keywords e).contains "static"
  isAbstract := (keywords e).contains "abstract"

/-- Does an element tell a member? -/
def declares (e : Element) : Bool := e.tag = "method" || e.tag = "comment"

/-- The member that an element tells. -/
def toldMember (visibility : Visibility) (e : Element) : Member :=
  if e.tag = "method" then .method (toldMethod visibility e) else .comment e.text

/-- The members that the groups of an element tell, for each visibility that has a group. -/
def toldMethods (e : Element) : List Visibility → Table Visibility (List Member)
  | [] => []
  | visibility :: rest =>
      match e.grandchild? "methods" visibility.keyword with
      | none => toldMethods e rest
      | some group =>
          (visibility, (group.children.filter declares).map (toldMember visibility))
            :: toldMethods e rest

/-- The constant that an element tells. -/
def toldConstant (e : Element) : Constant where
  name := e.value "name"
  value := e.value "value"
  description := toldDescription e
  type := e.value "type"
  forceMultiLine := toldFlag e "multiline" false

/-- The property that an element tells. -/
def toldProperty (e : Element) : Property where
  name := e.value "name"
  description := toldDescription e
  type := e.value "type"
  default := e.value "default"
  isStatic := (keywords e).contains "static"
  getter := toldFlag e "getter" true
  setter := toldFlag e "setter" true
  getterBody := toldChildCode e "getter"
  setterBody := toldChildCode e "setter"
  forceMultiLine := toldFlag e "multiline" false

/-- The class that an element tells: names, types, values and flags from attributes, and the texts
as they stand. -/
def told (e : Element) : Class where
  name := e.value "name"
  description := toldDescription e
  home := e.value "namespace"
  author := e.value "author"
  parent := e.value "extends"
  implements := names (e.value "implements")
  keywords := keywords e
  uses := (e.grandchildrenNamed "uses" "use").map (·.value "value")
  traits := (e.grandchildrenNamed "traits" "trait").map (·.value "value")
  superdocs := (e.grandchildrenNamed "superdocs" "superdoc").map (·.text)
  constants := (e.grandchildrenNamed "properties" "constant").map toldConstant
  properties := (e.grandchildrenNamed "properties" "property").map toldProperty
  methods := toldMethods e Visibility.all
  output := e.value "output"

/-! ### Readings of what is told -/

/-- The reading that leaves texts as they stand, and code in one piece. -/
def Reading.verbatim : Reading (Except Error) where
  text := .ok
  code t := .ok [t]

variable (read : Reading (Except Error))

/-- Code that stands in one piece, read. -/
def Reading.recode : Option (List Text) → Except Error (Option (List Text))
  | none => .ok none
  | some pieces => do return some (← read.code pieces.flatten)

/-- A blank text is not made to say something. -/
def Reading.KeepsBlank : Prop :=
  ∀ t u, read.text t = .ok u → u.isBlank = false → t.isBlank = false

end Document

open Document (Reading)

variable (read : Reading (Except Error))

/-- A parameter with a reading of its description. -/
def Parameter.retold (parameter : Parameter) : Except Error Parameter := do
  return { parameter with description := ← read.text parameter.description }

/-- A method with a reading of its description, of those of its parameters and of its code. -/
def Method.retold (method : Method) : Except Error Method := do
  return { method with
    description := ← read.text method.description
    parameters := ← method.parameters.mapM (·.retold read)
    body := ← read.recode method.body }

/-- A member with a reading of its texts. -/
def Member.retold : Member → Except Error Member
  | .method m => do return .method (← m.retold read)
  | .comment t => do return .comment (← read.text t)

/-- A constant with a reading of its description. -/
def Constant.retold (constant : Constant) : Except Error Constant := do
  return { constant with description := ← read.text constant.description }

/-- A property with a reading of its description and of the code of its accessors. -/
def Property.retold (property : Property) : Except Error Property := do
  return { property with
    description := ← read.text property.description
    getterBody := ← read.recode property.getterBody
    setterBody := ← read.recode property.setterBody }

/-- The members of a visibility with a reading of their texts. -/
def retoldGroup (group : Visibility × List Member) :
    Except Error (Visibility × List Member) := do
  return (group.1, ← group.2.mapM (·.retold read))

/-- A class with a reading of its description, its author, its superdocs and the texts of its
parts; everything else stays as it is. -/
def Class.retold (c : Class) : Except Error Class := do
  return { c with
    description := ← read.text c.description
    author := ← read.text c.author
    superdocs := ← c.superdocs.mapM read.text
    constants := ← c.constants.mapM (·.retold read)
    properties := ← c.properties.mapM (·.retold read)
    methods := ← c.methods.mapM (retoldGroup read) }

end Classwright
