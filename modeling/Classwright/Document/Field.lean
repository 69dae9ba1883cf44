import Classwright.Class.Basic
import Classwright.Error
import Classwright.Snippet
import Classwright.Xml.Element

/-!
# Document — what an element says

An element says things by its attributes and by its text. Free text and code may hold macro calls,
so what is made of them is left open; names, types and values are read as they stand.

* `required`, `flag`, `keywords`: attributes.
* `said`: a text that must not be blank.
* `Reading`, `Reading.expanding`: what is made of free text and of code.
* `requiredText`, `description`, `content?`: the free text and the code of an element.
-/

namespace Classwright.Document

open Xml

/-! ### Attributes -/

/-- The value of an attribute that must not be empty. -/
def required (e : Element) (key : Text) : Except Error Text :=
  match e.value key with
  | [] => .error (.missingAttribute e.tag key)
  | value => .ok value

/-- The words for yes. -/
def yesWords : List Text := ["1", "true", "yes"]

/-- The words for no. -/
def noWords : List Text := ["0", "false", "no"]

/-- An attribute that says yes or no, in any case of letters; one that is empty says nothing. -/
def flag (e : Element) (key : Text) (default : Bool) : Except Error Bool :=
  match e.value key with
  | [] => .ok default
  | value =>
      let word := Text.toLower (Text.trim value)
      if yesWords.contains word then .ok true
      else if noWords.contains word then .ok false
      else .error (.unclearFlag e.tag key word)

/-- The keywords of an element. -/
def keywords (e : Element) : Keywords := Keywords.ofWords (Text.words (e.value "keywords"))

/-- The element as messages show it: its tag, and its name if it has one. -/
def label (e : Element) : Text :=
  match e.value "name" with
  | [] => "<" ++ e.tag ++ ">"
  | name => "<" ++ e.tag ++ " name=\"" ++ name ++ "\">"

/-! ### Texts -/

/-- A text that has to say something. -/
def said (fault : Error) (t : Text) : Except Error Text :=
  if t.isBlank then .error fault else .ok t

/-- What is made of the texts in a document that are not read as they stand, by computations of
some kind. -/
structure Reading (m : Type → Type) where
  /-- What is made of free text. -/
  text : Text → m Text
  /-- What is made of code. -/
  code : Text → m (List Text)

/-- Free text with its macro calls expanded, and code expanded in the same way and then
normalised. -/
def Reading.expanding {m : Type → Type} [Monad m] (expand : Text → m Text) : Reading m where
  text := expand
  code t := do return Snippet.normalise (← expand t)

variable {m : Type → Type} [Monad m] [MonadLiftT (Except Error) m] (read : Reading m)

/-- The text of an element; it has to say something. -/
def requiredText (e : Element) : m Text := do
  said (.emptyElement (label e)) (← read.text e.text)

/-- The description of an element: its attribute `doc`, or its child of that name when there is no
such attribute. It has to say something. -/
def description (e : Element) : m Text := do
  let text ←
    match e.value? "doc", e.child? "doc" with
    | some doc, _ => read.text doc
    | none, some child => read.text child.text
    | none, none => pure []
  said (.undescribed (label e)) text

/-- The code of an element: the text of its child `content`. -/
def content? (e : Element) : m (Option (List Text)) :=
  match e.child? "content" with
  | none => pure none
  | some child => do return some (← read.code child.text)

end Classwright.Document
