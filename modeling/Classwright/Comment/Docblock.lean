import Classwright.Comment.Wrap
import Classwright.Indent

/-!
# Comment — docblocks

A comment has a description and tags such as `@param` and `@return`. A block comment that is short
enough takes one line; any other comment takes a line for each delimiter, the wrapped description,
and the tags below a bare line.

* `Style`: the delimiters of a kind of comment; `Style.block` and `Style.line`.
* `Tag`: one tag with at most three fields, the last of which is wrapped below it.
* `Tag.render`: the lines of a tag.
* `docblock`: the lines of a comment.
-/

namespace Classwright.Comment

open Text

/-! ### Styles -/

/-- The delimiters of a kind of comment. -/
structure Style where
  /-- The marker in front of every line of text. -/
  marker : Text
  /-- The line before the text, if any. -/
  opening : Option Text := none
  /-- The line after the text, if any. -/
  closing : Option Text := none
  /-- May the comment take a single line, delimiters included? -/
  collapses : Bool := false

/-- Block comments. -/
def Style.block : Style where
  marker := " *"
  opening := some "/**"
  closing := some " */"
  collapses := true

/-- Line comments. -/
def Style.line : Style where
  marker := "//"

/-! ### Tags -/

/-- A tag of a docblock: a name and up to three fields, such as a type, a label and a
description. -/
structure Tag where
  name : Text
  fields : List Text
  name_ne_nil : name ≠ []
  length_fields : fields.length ≤ Error.maxFields

namespace Tag

/-- The tag with this name and these fields, unless it has no name or too many fields. -/
def make (name : Text) (fields : List Text) : Except Error Tag :=
  if named : name = [] then .error .unnamedTag
  else if fits : fields.length ≤ Error.maxFields then
    .ok { name, fields, name_ne_nil := named, length_fields := fits }
  else .error (.crowdedTag name fields.length)

/-- The name as it is written. -/
def label (tag : Tag) : Text := '@' :: tag.name

/-- The line of the tag: its name, and the first two fields each at a tab stop. -/
def headline (tag : Tag) (decoration : Text) : Text :=
  (tag.fields.take 2).foldl (fun line field => toTabStop line ++ field)
    (decorate decoration tag.label)

/-- The lines of the tag: its line, and the third field wrapped below with one more column of
indentation. -/
def render (tag : Tag) (decoration : Text) : List Text :=
  trimEnd (tag.headline decoration)
    :: ((tag.fields.drop 2).flatMap fun details => wrap details decoration " " lineWidth)

end Tag

/-! ### Comments -/

/-- The comment on one line, when its style, its tags and its length allow it. -/
def singleLine? (style : Style) (indent description : Text) : List Tag → Option Text
  | [] => place []
  | [tag] => if tag.fields.length ≤ 1 then place (tag.label :: tag.fields.filter (· ≠ [])) else none
  | _ :: _ :: _ => none
where
  /-- The words of the tag and the only paragraph between the delimiters. -/
  place (tagged : List Text) : Option Text :=
    match paragraphs description with
    | [paragraph] =>
        let line := indent ++ style.opening.getD [] ++ " " ++ join " " (tagged ++ [paragraph])
          ++ style.closing.getD []
        if line.length ≤ lineWidth then some (trimEnd line) else none
    | _ => none

/-- A delimiter on a line of its own; none when the delimiter is missing or empty. -/
def delimiterLine (indent : Text) : Option Text → List Text
  | none => []
  | some [] => []
  | some delimiter => [indent ++ delimiter]

/-- The comment with a line for each delimiter. -/
def multiLine (style : Style) (indent description : Text) (tags : List Tag) : List Text :=
  let decoration := indent ++ style.marker
  let tagLines :=
    if tags = [] then [] else trimEnd decoration :: tags.flatMap (·.render decoration)
  delimiterLine indent style.opening ++ wrap description decoration [] lineWidth ++ tagLines
    ++ delimiterLine indent style.closing

/-- The lines of a comment at a level of indentation. A comment needs a description, and that is
asked before the level. -/
def docblock (description : Option Text) (tags : List Tag) (level : Int) (style : Style)
    (forceMultiLine : Bool) : Except Error (List Text) :=
  match description with
  | none => .error .missingDescription
  | some description =>
      if isBlank description then .error .missingDescription
      else do
        let indent ← indentation level
        let collapsed? :=
          if style.collapses && !forceMultiLine then singleLine? style indent description tags
          else none
        return match collapsed? with
          | some line => [line]
          | none => multiLine style indent description tags

end Classwright.Comment
