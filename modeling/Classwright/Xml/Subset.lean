import Classwright.Xml.Entity

/-!
# Xml — declarations of a document

A document may declare its type, and inside that declaration entities, attributes, elements and
notations. Entities and the defaults of attributes bear on the content; the rest need only be
well-formed.

* `Declaration`: a declaration, as far as it bears on content.
* `Declarations`: what a document declares.
* `Scan.documentType`: the declaration of a type.
* `Declarations.ofList?`: declarations in their order.
-/

namespace Classwright.Xml

open Classwright.Scan

/-- A declared attribute: its name, whether its value is free character data, and its default as it
stands between quotes. -/
structure AttributeDeclaration where
  name : Name
  isFree : Bool
  default? : Option Text
  deriving DecidableEq, Repr

/-- A declaration, as far as it bears on content. Texts between quotes are looked into only when the
declaration counts. -/
inductive Declaration where
  | entity (name : Text) (definition : Definition)
  /-- An entity for use in declarations. -/
  | parameter (definition : Definition)
  | attributes (element : Name) (declared : List AttributeDeclaration)
  /-- A reference to declarations elsewhere, which are not read. -/
  | elsewhere
  | other
  deriving DecidableEq, Repr

namespace Scan

/-! ### Literals -/

/-- A text between quotes. -/
def literal : Scan Text := do
  let quote ← char fun c => c == '"' || c == '\''
  let text ← takeWhile (· != quote)
  let _ ← char (· == quote)
  return text

/-- Can a public identifier hold this character? -/
def isPublicChar (c : Char) : Bool :=
  c.isAlphanum || c == ' ' || c == '\n' || c == '\r' || "-'()+,./:=?;!*#@$_%".toList.contains c

/-- A public identifier between quotes. -/
def publicLiteral : Scan Unit := do
  let text ← literal
  check (text.all isPublicChar)

/-- Where something outside the document is to be found. -/
def externalId : Scan Unit := do
  match ← plainName with
  | ['S', 'Y', 'S', 'T', 'E', 'M'] => spaces₁
  | ['P', 'U', 'B', 'L', 'I', 'C'] =>
      spaces₁
      publicLiteral
      spaces₁
  | _ => refuse
  let _ ← literal

/-! ### Entities -/

/-- A part of the text of an entity: named characters are replaced at once, named entities when the
entity is. -/
def entityPart : Scan Text := do
  let c ← char (· != '%')
  if c = '&' then
    return match ← reference with
      | .char named => [named]
      | .entity name => "&" ++ name ++ ";"
  return [c]

/-- The text of an entity. -/
def entityText : Scan Text := do return (← many entityPart).flatten

/-- What a declared entity stands for, its text as it stands between quotes. -/
def definition (mayBeUnparsed : Bool) : Scan Definition := do
  match ← maybe literal with
  | some text => return .inside text
  | none =>
      externalId
      if mayBeUnparsed then
        let _ ← maybe do
          spaces₁
          exact "NDATA"
          spaces₁
          let _ ← plainName
      return .outside

/-- The rest of the declaration of an entity. -/
def entityRest : Scan Declaration := do
  spaces₁
  let forDeclarations ← maybe do
    exact "%"
    spaces₁
  let name ← plainName
  spaces₁
  let definition ← definition forDeclarations.isNone
  spaces
  exact ">"
  return if forDeclarations.isSome then .parameter definition else .entity name definition

/-! ### Attributes -/

/-- A row of tokens between parentheses, with bars between them. -/
def enumeration (item : Scan Unit) : Scan Unit := do
  let spaced : Scan Unit := do
    spaces
    item
    spaces
  exact "("
  spaced
  let _ ← many do
    exact "|"
    spaced
  exact ")"

/-- The type of an attribute; is it free character data? -/
def attributeType : Scan Bool := do
  match ← maybe (enumeration do let _ ← nameToken) with
  | some () => return false
  | none =>
      let word ← plainName
      if word = "CDATA" then return true
      if word = "NOTATION" then
        spaces₁
        enumeration do let _ ← plainName
        return false
      check ((["ID", "IDREF", "IDREFS", "ENTITY", "ENTITIES", "NMTOKEN", "NMTOKENS"] : List Text)
        |>.contains word)
      return false

/-- The default of an attribute as it stands between quotes, if it has one. -/
def attributeDefault : Scan (Option Text) := do
  match ← maybe (exact "#") with
  | none => return some (← literal)
  | some () =>
      let word ← plainName
      if word = "FIXED" then
        spaces₁
        return some (← literal)
      check (word == "REQUIRED".toList || word == "IMPLIED".toList)
      return none

/-- The declaration of one attribute, with the white space in front of it. -/
def attributeDeclaration : Scan AttributeDeclaration := do
  spaces₁
  let name ← name
  spaces₁
  let isFree ← attributeType
  spaces₁
  return { name, isFree, default? := ← attributeDefault }

/-- The rest of the declaration of attributes. -/
def attributesRest : Scan Declaration := do
  spaces₁
  let element ← name
  let declared ← many attributeDeclaration
  spaces
  exact ">"
  return .attributes element declared

/-! ### Elements and notations -/

/-- A part of a content model. -/
inductive ModelToken where
  | opening
  | closing (repeated : Option Char)
  | separator (c : Char)
  | name (repeated : Option Char)
  | characters
  deriving DecidableEq, Repr

/-- How often a part of a model may come. -/
def repetition : Scan (Option Char) := maybe (char fun c => c == '?' || c == '*' || c == '+')

/-- A part of a content model, with the white space behind it. -/
def modelToken : Scan ModelToken := do
  let token ← one
  spaces
  return token
where
  /-- The part itself. -/
  one : Scan ModelToken := do
    if (← maybe (exact "(")).isSome then return .opening
    if (← maybe (exact ")")).isSome then return .closing (← repetition)
    if (← maybe (exact "|")).isSome then return .separator '|'
    if (← maybe (exact ",")).isSome then return .separator ','
    if (← maybe (exact "#PCDATA")).isSome then return .characters
    let _ ← Scan.name
    return .name (← repetition)

/-- Is this the rest of a model of characters and elements, after its first word? -/
def isMixedRest : List ModelToken → Bool
  | [.closing none] => true
  | rest => named rest
where
  /-- Names behind bars, and a closing that allows repetition. -/
  named : List ModelToken → Bool
    | [.closing (some '*')] => true
    | .separator '|' :: .name none :: rest => named rest
    | _ => false

/-- Is this the rest of a model of elements? The stack holds the separator of each open group, once
it is known; `wanted` says that an item has to come next. -/
def isGroupRest : (groups : List (Option Char)) → (wanted : Bool) → List ModelToken → Bool
  | groups, true, .opening :: rest => isGroupRest (none :: groups) true rest
  | groups, true, .name _ :: rest => isGroupRest groups false rest
  | none :: groups, false, .separator c :: rest => isGroupRest (some c :: groups) true rest
  | some d :: groups, false, .separator c :: rest =>
      c == d && isGroupRest (some d :: groups) true rest
  | [_], false, [.closing _] => true
  | _ :: group :: groups, false, .closing _ :: rest => isGroupRest (group :: groups) false rest
  | _, _, _ => false

/-- Is this a content model between parentheses? -/
def isModel : List ModelToken → Bool
  | .opening :: .characters :: rest => isMixedRest rest
  | .opening :: rest => isGroupRest [none] true rest
  | _ => false

/-- The rest of the declaration of an element. -/
def elementRest : Scan Declaration := do
  spaces₁
  let _ ← name
  spaces₁
  match ← maybe plainName with
  | some word =>
      check (word == "EMPTY".toList || word == "ANY".toList)
      spaces
  | none => check (isModel (← many modelToken))
  exact ">"
  return .other

/-- The rest of the declaration of a notation. -/
def notationRest : Scan Declaration := do
  spaces₁
  let _ ← plainName
  spaces₁
  match ← plainName with
  | ['S', 'Y', 'S', 'T', 'E', 'M'] =>
      spaces₁
      let _ ← literal
  | ['P', 'U', 'B', 'L', 'I', 'C'] =>
      spaces₁
      publicLiteral
      let _ ← maybe do
        spaces₁
        let _ ← literal
  | _ => refuse
  spaces
  exact ">"
  return .other

/-! ### All declarations -/

/-- A declaration inside the declaration of a type, or something that may stand between two. -/
def declaration : Scan Declaration := do
  if (← maybe spaces₁).isSome then return .other
  if (← maybe (exact "<!--")).isSome then
    commentRest
    return .other
  if (← maybe (exact "<?")).isSome then
    instructionRest
    return .other
  if (← maybe (exact "%")).isSome then
    let _ ← plainName
    exact ";"
    return .elsewhere
  if (← maybe (exact "<!ENTITY")).isSome then return ← entityRest
  if (← maybe (exact "<!ATTLIST")).isSome then return ← attributesRest
  if (← maybe (exact "<!ELEMENT")).isSome then return ← elementRest
  exact "<!NOTATION"
  notationRest

/-- The declaration of a type; is part of it outside the document, and what is inside? -/
def documentType : Scan (Bool × List Declaration) := do
  exact "<!DOCTYPE"
  spaces₁
  let _ ← name
  let outside ← maybe do
    spaces₁
    externalId
  spaces
  let inside ← maybe do
    exact "["
    let declarations ← many declaration
    exact "]"
    spaces
    return declarations
  exact ">"
  return (outside.isSome, inside.getD [])

end Scan

/-! ### What a document declares -/

/-- A declared attribute with its default ready. -/
structure AttributeDefault where
  element : Name
  name : Name
  isFree : Bool
  value? : Option Text
  deriving DecidableEq, Repr

/-- What a document declares: its entities and its attributes. -/
structure Declarations where
  entities : Entities := {}
  attributes : List AttributeDefault := []
  deriving DecidableEq, Repr

/-- The tokens of a value, with one space between neighbours. -/
def tokenised (value : Text) : Text :=
  Text.join " " ((Text.split (· == ' ') value).filter (· ≠ []))

/-- The value of an attribute by its kind. -/
def normalisedValue (isFree : Bool) (value : Text) : Text :=
  if isFree then value else tokenised value

namespace Declarations

/-- The declaration of an attribute of an element, if there is one. -/
def attribute? (declarations : Declarations) (element name : Name) : Option AttributeDefault :=
  declarations.attributes.find? fun a => a.element = element ∧ a.name = name

/-- The default of a declared attribute; none inside when it has no default. -/
def default? (declarations : Declarations) (declared : AttributeDeclaration) :
    Option (Option Text) :=
  match declared.default? with
  | none => some none
  | some quoted => do
      let parts ← (Scan.many (Scan.valuePart fun _ => false)).whole? quoted
      return some (normalisedValue declared.isFree (← declarations.entities.value? parts))

/-- The declarations with one more attribute of an element; the first declaration counts. -/
def addAttribute? (element : Name) (declarations : Declarations)
    (declared : AttributeDeclaration) : Option Declarations := do
  let added : AttributeDefault := {
    element
    name := declared.name
    isFree := declared.isFree
    value? := ← declarations.default? declared }
  if (declarations.attribute? element declared.name).isSome then return declarations
  return { declarations with attributes := declarations.attributes ++ [added] }

/-- What an entity stands for, its text looked into. -/
def definition? : Definition → Option Definition
  | .inside quoted => (Scan.entityText.whole? quoted).map .inside
  | .outside => some .outside

/-- The declarations with one more entity; the first definition counts. -/
def addEntity (declarations : Declarations) (name : Text) (definition : Definition) :
    Declarations :=
  if declarations.entities.definitions.contains name then declarations
  else
    { declarations with
      entities.definitions := declarations.entities.definitions ++ [(name, definition)] }

/-- Declarations in their order. Behind a reference to declarations elsewhere no more count, unless
the document stands alone. -/
def addAll? (standsAlone : Bool) : (declarations : Declarations) → List Declaration →
    Option Declarations
  | declarations, [] => some declarations
  | declarations, .other :: rest => addAll? standsAlone declarations rest
  | declarations, .elsewhere :: rest =>
      if standsAlone then addAll? standsAlone declarations rest
      else some { declarations with entities.incomplete := true }
  | declarations, .parameter definition :: rest => do
      let _ ← definition? definition
      addAll? standsAlone declarations rest
  | declarations, .entity name definition :: rest => do
      addAll? standsAlone (declarations.addEntity name (← definition? definition)) rest
  | declarations, .attributes element declared :: rest => do
      addAll? standsAlone (← declared.foldlM (addAttribute? element) declarations) rest

/-- What a document declares; a document that does not stand alone may have declarations outside. -/
def ofList? (standsAlone outside : Bool) (list : List Declaration) : Option Declarations :=
  addAll? standsAlone { entities.incomplete := !standsAlone && outside } list

end Declarations

end Classwright.Xml
