import Classwright.Table
import Classwright.Text.Basic

/-!
# Xml — elements

* `Element`: a tag with its attributes, its child elements and all text inside it.
* `Element.value?`, `Element.value`: the value of an attribute.
* `Element.childrenNamed`, `Element.grandchildrenNamed`: the children with a tag, and theirs.
-/

namespace Classwright.Xml

/-- An element. Its text is all text inside it in document order, that of its children included. -/
structure Element where
  tag : Text
  attributes : Table Text Text := []
  children : List Element := []
  text : Text := []

namespace Element

/-- The value of an attribute, if it is given. -/
def value? (e : Element) (key : Text) : Option Text := e.attributes.find? key

/-- The value of an attribute; empty when it is not given. -/
def value (e : Element) (key : Text) : Text := (e.value? key).getD []

/-- The children with a tag, in order. -/
def childrenNamed (e : Element) (tag : Text) : List Element :=
  e.children.filter fun child => child.tag = tag

/-- The children with a tag of the children with another, in order. -/
def grandchildrenNamed (e : Element) (outer inner : Text) : List Element :=
  (e.childrenNamed outer).flatMap fun child => child.childrenNamed inner

/-- The first child with a tag. -/
def child? (e : Element) (tag : Text) : Option Element := (e.childrenNamed tag).head?

/-- The first child with a tag of the children with another. -/
def grandchild? (e : Element) (outer inner : Text) : Option Element :=
  (e.grandchildrenNamed outer inner).head?

end Element

end Classwright.Xml
