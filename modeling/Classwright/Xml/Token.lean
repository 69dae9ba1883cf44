import Classwright.Xml.Name

/-!
# Xml — the tokens of content

Content is a row of tags, characters and references. Comments and instructions say nothing and are
passed over; a section of character data is characters.

* `ValuePart`: a part of an attribute value, before entities are replaced.
* `Token`: a part of content.
* `Scan.tokens`: the tokens of a text.
-/

namespace Classwright.Xml

open Classwright.Scan

/-- A part of an attribute value: a character as it stands, a character that was named, or an
entity. -/
inductive ValuePart where
  | plain (c : Char)
  | named (c : Char)
  | entity (name : Text)
  deriving DecidableEq, Repr

/-- A part of content. -/
inductive Token where
  /-- A start tag, which may close itself. -/
  | start (name : Name) (attributes : List (Name × List ValuePart)) (closed : Bool)
  /-- An end tag. -/
  | finish (name : Name)
  /-- Characters as they stand. -/
  | chars (text : Text)
  /-- Characters that were named or stand in a section of their own. -/
  | exact (text : Text)
  /-- A reference to an entity. -/
  | entity (name : Text)
  deriving DecidableEq, Repr

namespace Scan

/-! ### Attribute values -/

/-- A part of an attribute value that ends at certain characters. -/
def valuePart (ends : Char → Bool) : Scan ValuePart := do
  let c ← char fun c => !ends c && c != '<'
  if c = '&' then
    return match ← reference with
      | .char c => .named c
      | .entity name => .entity name
  return .plain c

/-- An attribute value between quotes. -/
def value : Scan (List ValuePart) := do
  let quote ← char fun c => c == '"' || c == '\''
  let parts ← many (valuePart (· == quote))
  let _ ← char (· == quote)
  return parts

/-- The sign between a name and its value. -/
def equals : Scan Unit := do
  spaces
  exact "="
  spaces

/-- An attribute, with the white space in front of it. -/
def attributeOf : Scan (Name × List ValuePart) := do
  spaces₁
  let name ← name
  equals
  return (name, ← value)

/-! ### Markup without meaning -/

/-- The rest of a comment that has been opened; it holds no two hyphens in a row. -/
def commentRest : Scan Unit := do
  let _ ← upTo "--"
  exact ">"

/-- Is the target of an instruction the word reserved for declarations, in whatever case? -/
def isReserved (target : Text) : Bool := target.map Char.toLower == "xml".toList

/-- The rest of an instruction that has been opened. -/
def instructionRest : Scan Unit := do
  let target ← plainName
  check (!isReserved target)
  match ← maybe (exact "?>") with
  | some () => return ()
  | none =>
      spaces₁
      let _ ← upTo "?>"

/-! ### Tokens -/

/-- The rest of a start tag. -/
def startRest : Scan Token := do
  let name ← name
  let attributes ← many attributeOf
  spaces
  let closed ← maybe (exact "/")
  exact ">"
  return .start name attributes closed.isSome

/-- The rest of an end tag. -/
def finishRest : Scan Token := do
  let name ← name
  spaces
  exact ">"
  return .finish name

/-- Does the text hold the closing of a section? -/
def hasSectionEnd (t : Text) : Bool := Text.count "]]>" t != 0

/-- Characters up to the next markup, which hold no closing of a section. -/
def charRun : Scan Token := do
  let run ← takeWhile fun c => c != '<' && c != '&'
  check (!run.isEmpty && !hasSectionEnd run)
  return .chars run

/-- A token; none for a comment or an instruction. -/
def token : Scan (Option Token) := do
  if (← maybe (exact "<!--")).isSome then
    commentRest
    return none
  if (← maybe (exact "<![CDATA[")).isSome then return some (.exact (← upTo "]]>"))
  if (← maybe (exact "<?")).isSome then
    instructionRest
    return none
  if (← maybe (exact "</")).isSome then return some (← finishRest)
  if (← maybe (exact "<")).isSome then return some (← startRest)
  if (← maybe (exact "&")).isSome then
    return match ← reference with
      | .char c => some (.exact [c])
      | .entity name => some (.entity name)
  return some (← charRun)

/-- The tokens of a text. -/
def tokens : Scan (List Token) := do return (← many token).filterMap id

end Scan

end Classwright.Xml
