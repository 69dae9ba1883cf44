import Classwright.Xml.Element
import Classwright.Xml.Subset

/-!
# Xml — documents

A document is a row of events that opens one root element and closes all it opened. Prefixes of
names stand for namespaces that the elements around them declare.

* `Bindings`: the namespaces that prefixes stand for.
* `Frame`, `build?`: elements from events.
* `Element.ofText?`: the root element of a document, if its text is well-formed.
-/

namespace Classwright.Xml

open Classwright.Scan

/-! ### Namespaces -/

/-- The namespace of the prefix `xml`. -/
def xmlNamespace : Text := "http://www.w3.org/XML/1998/namespace"

/-- The namespace of the attributes that declare namespaces. -/
def declaringNamespace : Text := "http://www.w3.org/2000/xmlns/"

/-- The namespaces that prefixes stand for, the innermost first; the empty prefix is that of names
without one. -/
abbrev Bindings := List (Text × Text)

/-- The bindings around the root. -/
def initialBindings : Bindings := [("xml", xmlNamespace)]

/-- The prefix that an attribute declares, if it declares one. -/
def declaredPrefix? : Name → Option Text
  | ⟨none, base⟩ => if base = "xmlns" then some [] else none
  | ⟨some qualifier, base⟩ => if qualifier = "xmlns" then some base else none

/-- May the prefix stand for the namespace? The prefix `xml` and its namespace belong together, the
prefix `xmlns` and its namespace to no one, and only the empty prefix may stand for nothing. -/
def isBinding (declared value : Text) : Bool :=
  declared != "xmlns".toList && value != declaringNamespace
    && ((declared == "xml".toList) == (value == xmlNamespace))
    && (declared == [] || value != []) && !value.contains '\x7d'

/-- The bindings inside an element with these attributes. -/
def bind? (attributes : List (Name × Text)) (bindings : Bindings) : Option Bindings :=
  match attributes with
  | [] => some bindings
  | (name, value) :: rest =>
      match declaredPrefix? name with
      | none => bind? rest bindings
      | some declared =>
          if isBinding declared value then bind? rest ((declared, value) :: bindings) else none

/-- A name in a namespace. -/
def inNamespace (space base : Text) : Text :=
  if space = [] then base else "\x7b" ++ space ++ "\x7d" ++ base

/-- The name of an element with its namespace; the prefix has to be declared. -/
def elementName? (bindings : Bindings) : Name → Option Text
  | ⟨none, base⟩ => some (inNamespace ((bindings.lookup []).getD []) base)
  | ⟨some qualifier, base⟩ => (bindings.lookup qualifier).map fun space => inNamespace space base

/-- The name of an attribute with its namespace; a name without a prefix has none. -/
def attributeName? (bindings : Bindings) : Name → Option Text
  | ⟨none, base⟩ => some base
  | name => elementName? bindings name

/-- The attributes that declare no namespace, by their names with namespaces, which are all
different. -/
def attributeTable? (bindings : Bindings) (attributes : List (Name × Text)) :
    Option (Table Text Text) := do
  let named ← (attributes.filter fun a => (declaredPrefix? a.1).isNone).mapM fun (name, value) => do
    return (← attributeName? bindings name, value)
  if (named.map (·.1)).Nodup then some named else none

/-! ### Attributes -/

/-- The attributes of an element by their kinds, with the defaults of those that are not given; no
name is given twice. -/
def completed? (declarations : Declarations) (element : Name)
    (attributes : List (Name × Text)) : Option (List (Name × Text)) :=
  if (attributes.map (·.1)).Nodup then
    let given := attributes.map fun (name, value) =>
      (name, normalisedValue (((declarations.attribute? element name).map (·.isFree)).getD true)
        value)
    let defaults := (declarations.attributes.filter fun a =>
      a.element = element ∧ a.name ∉ attributes.map (·.1)).filterMap fun a =>
        a.value?.map (a.name, ·)
    some (given ++ defaults)
  else none

/-! ### Elements from events -/

/-- An element that is still open: the name it was opened by, the bindings inside it, and what is
known of it. -/
structure Frame where
  name : Name
  bindings : Bindings
  element : Element

/-- The frame with more text. -/
def Frame.addText (frame : Frame) (text : Text) : Frame :=
  { frame with element.text := frame.element.text ++ text }

/-- The frame with one more child, whose text is text of the frame as well. -/
def Frame.addChild (frame : Frame) (child : Element) : Frame :=
  { frame with
    element.children := frame.element.children ++ [child]
    element.text := frame.element.text ++ child.text }

/-- The bindings inside the innermost open element. -/
def bindingsOf : List Frame → Bindings
  | [] => initialBindings
  | frame :: _ => frame.bindings

/-- The frame of an element that begins among the open ones. -/
def open? (declarations : Declarations) (frames : List Frame) (name : Name)
    (attributes : List (Name × Text)) : Option Frame := do
  let attributes ← completed? declarations name attributes
  let bindings ← bind? attributes (bindingsOf frames)
  let tag ← elementName? bindings name
  return { name, bindings, element := { tag, attributes := ← attributeTable? bindings attributes } }

/-- The root element of a row of events, given the open elements, the innermost first, and the root
if it is closed already. Outside the root there is nothing but white space. -/
def build? (declarations : Declarations) : (frames : List Frame) → (root : Option Element) →
    List Event → Option Element
  | [], root, [] => root
  | _ :: _, _, [] => none
  | [], some _, .start _ _ :: _ => none
  | frames, root, .start name attributes :: rest => do
      build? declarations ((← open? declarations frames name attributes) :: frames) root rest
  | [], _, .finish _ :: _ => none
  | [frame], _, .finish name :: rest =>
      if frame.name = name then build? declarations [] (some frame.element) rest else none
  | frame :: outer :: frames, root, .finish name :: rest =>
      if frame.name = name then
        build? declarations (outer.addChild frame.element :: frames) root rest
      else none
  | [], root, .chars text :: rest =>
      if text.all isSpace then build? declarations [] root rest else none
  | frame :: frames, root, .chars text :: rest =>
      build? declarations (frame.addText text :: frames) root rest
  | [], _, .exact _ :: _ => none
  | frame :: frames, root, .exact text :: rest =>
      build? declarations (frame.addText text :: frames) root rest

/-! ### Documents -/

namespace Scan

/-- A word between quotes, of the characters that the first line of a document uses. -/
def declaredWord : Scan Text := do
  let quote ← char fun c => c == '"' || c == '\''
  let word ← takeWhile fun c => c.isAlphanum || c == '.' || c == '_' || c == '-'
  let _ ← char (· == quote)
  return word

/-- A named word in the first line of a document. -/
def declaredItem (name : Text) : Scan Text := do
  spaces₁
  exact name
  equals
  declaredWord

/-- The first line of a document, which names its version; does the document stand alone? The
encoding says nothing about a text. -/
def xmlDeclaration : Scan Bool := do
  exact "<?xml"
  let _ ← declaredItem "version"
  let _ ← maybe do
    let encoding ← declaredItem "encoding"
    check ((encoding.head?.map Char.isAlpha).getD false)
  let standalone ← maybe do
    let word ← declaredItem "standalone"
    check (word == "yes".toList || word == "no".toList)
    return word == "yes".toList
  spaces
  exact "?>"
  return standalone.getD false

/-- What may stand around the root: white space, a comment or an instruction. -/
def miscellany : Scan Unit := do
  if (← maybe spaces₁).isSome then return ()
  if (← maybe (exact "<!--")).isSome then return ← commentRest
  exact "<?"
  instructionRest

/-- The declarations of a document and the tokens of the rest. -/
def document : Scan (Declarations × List Token) := do
  let _ ← maybe (exact ['\uFEFF'])
  let standsAlone ← maybe xmlDeclaration
  let _ ← many miscellany
  let type ← maybe documentType
  let declarations ← ofOption (Declarations.ofList? (standsAlone.getD false)
    ((type.map (·.1)).getD false) ((type.map (·.2)).getD []))
  return (declarations, ← tokens)

end Scan

/-- The root element of a document, if the text is a well-formed document. -/
def Element.ofText? (t : Text) : Option Element := do
  if !t.all isXmlChar then none
  let (declarations, tokens) ← Scan.document.whole? (Text.unifyReturns t)
  build? declarations [] none (← declarations.entities.events? tokens)

end Classwright.Xml
