import Classwright.Table
import Classwright.Text.Lines
import Classwright.Xml.Token

/-!
# Xml — entities replaced

An entity stands for a text of its own, which is read as content or as part of a value where the
entity is named. Entities may name entities, but none may contain itself; so the nesting is never
deeper than the number of entities.

* `Definition`, `Entities`: what the entities of a document stand for.
* `Entities.value?`: an attribute value with its entities replaced.
* `Event`: a part of content that names no entity.
* `Entities.events?`: content with its entities replaced.
-/

namespace Classwright.Xml

/-- What an entity stands for. -/
inductive Definition where
  /-- A text given in the document. -/
  | inside (text : Text)
  /-- Something outside the document, which is not read. -/
  | outside
  deriving DecidableEq, Repr

/-- The entities of a document. -/
structure Entities where
  definitions : Table Text Definition := []
  /-- May there be declarations that were not read? Then a value may name an unknown entity. -/
  incomplete : Bool := false
  deriving DecidableEq, Repr

/-- The characters that every document has names for. -/
def predefined : Table Text Char :=
  [("lt", '<'), ("gt", '>'), ("amp", '&'), ("quot", '"'), ("apos", '\'')]

/-- The text that an entity is replaced by, its line ends unified. -/
def Definition.replacement? : Definition → Option Text
  | inside text => some (Text.unifyReturns text)
  | outside => none

namespace Entities

/-- How deep entities can be nested. -/
def depth (entities : Entities) : Nat := entities.definitions.length + 1

/-! ### In values -/

/-- Attribute values with the entities in them replaced, down to a depth of nesting. A character of
white space that stands as it is becomes a space. -/
def valueWithin? (entities : Entities) : (depth : Nat) → List ValuePart → Option Text
  | _, [] => some []
  | depth, .plain c :: rest => do
      return (if Scan.isSpace c then ' ' else c) :: (← valueWithin? entities depth rest)
  | depth, .named c :: rest => do return c :: (← valueWithin? entities depth rest)
  | 0, .entity _ :: _ => none
  | depth + 1, .entity name :: rest => do
      let replaced ←
        match predefined.find? name, entities.definitions.find? name with
        | some c, _ => some [c]
        | none, none => if entities.incomplete then some [] else none
        | none, some definition => do
            let parts ←
              (Scan.many (Scan.valuePart fun _ => false)).whole? (← definition.replacement?)
            valueWithin? entities depth parts
      return replaced ++ (← valueWithin? entities (depth + 1) rest)
termination_by depth parts => (depth, parts.length)

/-- An attribute value with its entities replaced. -/
def value? (entities : Entities) (parts : List ValuePart) : Option Text :=
  entities.valueWithin? entities.depth parts

end Entities

/-! ### In content -/

/-- A part of content that names no entity. -/
inductive Event where
  /-- An element begins. -/
  | start (name : Name) (attributes : List (Name × Text))
  /-- An element ends. -/
  | finish (name : Name)
  /-- Characters as they stand in the document. -/
  | chars (text : Text)
  /-- Other characters, which cannot stand outside the root element. -/
  | exact (text : Text)
  deriving DecidableEq, Repr

/-- How many elements are open after some events, if none was closed that they did not open. -/
def openAfter : (opened : Nat) → List Event → Option Nat
  | opened, [] => some opened
  | opened, .start _ _ :: rest => openAfter (opened + 1) rest
  | 0, .finish _ :: _ => none
  | opened + 1, .finish _ :: rest => openAfter opened rest
  | opened, .chars _ :: rest => openAfter opened rest
  | opened, .exact _ :: rest => openAfter opened rest

/-- An event from the text of an entity. -/
def Event.fromEntity : Event → Event
  | .chars text => .exact text
  | event => event

namespace Entities

/-- The attributes of a tag with the entities in their values replaced. -/
def attributes? (entities : Entities) (attributes : List (Name × List ValuePart)) :
    Option (List (Name × Text)) :=
  attributes.mapM fun (name, parts) => do return (name, ← entities.value? parts)

/-- Content with its entities replaced, down to a depth of nesting. The text of an entity closes
what it opens. -/
def eventsWithin? (entities : Entities) : (depth : Nat) → List Token → Option (List Event)
  | _, [] => some []
  | depth, .start name attributes closed :: rest => do
      let events := [Event.start name (← entities.attributes? attributes)]
      return events ++ (if closed then [.finish name] else [])
        ++ (← eventsWithin? entities depth rest)
  | depth, .finish name :: rest => do
      return .finish name :: (← eventsWithin? entities depth rest)
  | depth, .chars text :: rest => do return .chars text :: (← eventsWithin? entities depth rest)
  | depth, .exact text :: rest => do return .exact text :: (← eventsWithin? entities depth rest)
  | 0, .entity _ :: _ => none
  | depth + 1, .entity name :: rest => do
      let replaced ←
        match predefined.find? name, entities.definitions.find? name with
        | some c, _ => some [Event.exact [c]]
        | none, none => none
        | none, some definition => do
            let tokens ← Scan.tokens.whole? (← definition.replacement?)
            let events ← eventsWithin? entities depth tokens
            if openAfter 0 events = some 0 then
              some (.exact [] :: events.map Event.fromEntity)
            else none
      return replaced ++ (← eventsWithin? entities (depth + 1) rest)
termination_by depth tokens => (depth, tokens.length)

/-- Content with its entities replaced. -/
def events? (entities : Entities) (tokens : List Token) : Option (List Event) :=
  entities.eventsWithin? entities.depth tokens

end Entities

end Classwright.Xml
