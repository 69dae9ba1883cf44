import Classwright.Comment.Docblock
import Classwright.Proofs.Text.Trim

/-!
# Comment — when there is a docblock

Of all that is asked of a comment, only a description and a level that is not below zero are
needed; the tags are never refused.  The lines have one of two forms.

* `docblock_of_blank`, `docblock_of_negative`, `docblock_of_level`: the three outcomes.
* `docblock_eq_ok_iff`: when there are lines.
* `docblock_cases`: a single line, or one for each delimiter.
* `inside`, `lineWith`: the single line of a block comment; `singleLine?_eq_some_iff`: when there is
  one.
* `decorate_label`, `exists_toTabStop`: how the line of a tag begins, and what a tab stop adds to it.
-/

namespace Classwright.Comment

open Text

variable {description : Text} {level : Int}

theorem docblock_of_blank (tags : List Tag) (level : Int) (style : Style) (forceMultiLine : Bool)
    (h : isBlank description = true) :
    docblock (some description) tags level style forceMultiLine = .error .missingDescription := by
  rw [docblock, if_pos h]

theorem docblock_of_negative (tags : List Tag) (style : Style) (forceMultiLine : Bool)
    (said : isBlank description = false) (h : level < 0) :
    docblock (some description) tags level style forceMultiLine
      = .error (.negativeIndent level) := by
  rw [docblock, if_neg (by simp [said]), indentation, if_pos h]
  rfl

theorem docblock_of_level (tags : List Tag) (style : Style) (forceMultiLine : Bool)
    (said : isBlank description = false) (h : 0 ≤ level) :
    ∃ lines, docblock (some description) tags level style forceMultiLine = .ok lines := by
  rw [docblock, if_neg (by simp [said]), indentation, if_neg (Int.not_lt.mpr h)]
  exact ⟨_, rfl⟩

/-- There are lines exactly for a description that says something, at a level that is not below
zero. -/
theorem docblock_eq_ok_iff {tags : List Tag} {style : Style} {forceMultiLine : Bool} :
    (∃ lines, docblock (some description) tags level style forceMultiLine = .ok lines) ↔
      isBlank description = false ∧ 0 ≤ level := by
  constructor
  · rintro ⟨lines, h⟩
    cases said : isBlank description with
    | true =>
        rw [docblock_of_blank tags level style forceMultiLine said] at h
        cases h
    | false =>
        refine ⟨rfl, Int.not_lt.mp fun negative => ?_⟩
        rw [docblock_of_negative tags style forceMultiLine said negative] at h
        cases h
  · rintro ⟨said, h⟩
    exact docblock_of_level tags style forceMultiLine said h

theorem level_of_docblock {tags : List Tag} {style : Style} {forceMultiLine : Bool}
    {lines : List Text}
    (h : docblock (some description) tags level style forceMultiLine = .ok lines) : 0 ≤ level :=
  (docblock_eq_ok_iff.mp ⟨lines, h⟩).2

/-! ### The two forms -/

/-- The spaces in front of a comment at a level. -/
def indentOf (level : Int) : Text := List.replicate (Indent.width * level.toNat) ' '

/-- A comment is collapsed to a single line, or it has its lines in full. -/
theorem docblock_cases {tags : List Tag} {style : Style} {forceMultiLine : Bool}
    {lines : List Text}
    (h : docblock (some description) tags level style forceMultiLine = .ok lines) :
    (∃ line, style.collapses = true ∧ forceMultiLine = false ∧
      singleLine? style (indentOf level) description tags = some line ∧ lines = [line]) ∨
    lines = multiLine style (indentOf level) description tags := by
  obtain ⟨said, positive⟩ := docblock_eq_ok_iff.mp ⟨lines, h⟩
  have indent : indentation level = .ok (indentOf level) := if_neg (Int.not_lt.mpr positive)
  rw [docblock, if_neg (by simp [said]), indent] at h
  cases h
  split
  next line collapsed =>
    obtain ⟨eligible, single⟩ := Option.ite_none_right_eq_some.mp collapsed
    rw [Bool.and_eq_true, Bool.not_eq_true'] at eligible
    exact .inl ⟨line, eligible.1, eligible.2, single, rfl⟩
  next => exact .inr rfl

/-! ### A single line -/

/-- A block comment on a single line, with this between its delimiters. -/
def lineWith (indent inside : Text) : Text := indent ++ ("/**" ++ (' ' :: inside ++ " */"))

theorem length_lineWith (indent inside : Text) :
    (lineWith indent inside).length = indent.length + 4 + inside.length + 3 := by
  simp only [lineWith, List.length_append, List.length_cons]
  show indent.length + (3 + (inside.length + 1 + 3)) = _
  omega

/-- What stands between the delimiters of a comment on a single line: each tag with its field, if
that is not empty, and the paragraph. -/
def inside (tags : List Tag) (paragraph : Text) : Text :=
  join " " (tags.flatMap (fun tag => tag.label :: tag.fields.filter (· ≠ [])) ++ [paragraph])

/-- The single line of a block comment holds the texts of the tag and the only paragraph, and is
there exactly if it is no wider than a line may be. -/
theorem place_eq_some_iff {indent line : Text} {tagged : List Text} :
    singleLine?.place .block indent description tagged = some line ↔
      ∃ paragraph, paragraphs description = [paragraph] ∧
        line = lineWith indent (join " " (tagged ++ [paragraph])) ∧ line.length ≤ lineWidth := by
  -- A line that ends in the delimiter has no blanks to trim.
  have solid : ∀ inside, trimEnd (lineWith indent inside) = lineWith indent inside := fun _ => by
    simp only [lineWith, ← List.append_assoc]
    exact trimEnd_append_of_said _ (by decide)
  have laid : ∀ inside : Text, indent ++ Style.block.opening.getD [] ++ (" " : Text) ++ inside
      ++ Style.block.closing.getD [] = lineWith indent inside := fun _ => by
    simp [lineWith, Style.block]
  unfold singleLine?.place
  split
  next paragraph only =>
    rw [laid, only]
    dsimp only
    rw [solid]
    constructor
    · intro h
      obtain ⟨fits, whole⟩ := Option.ite_none_right_eq_some.mp h
      cases whole
      exact ⟨paragraph, rfl, rfl, fits⟩
    · rintro ⟨paragraph, same, rfl, fits⟩
      cases same
      exact if_pos fits
  next several =>
    refine ⟨fun h => ?_, fun h => ?_⟩
    · cases h
    · obtain ⟨paragraph, only, -⟩ := h
      exact absurd only (several paragraph)

/-- There is a single line exactly if there is no more than one tag with no more than one field, the
description is one paragraph, and all of it is no wider than a line may be. -/
theorem singleLine?_eq_some_iff {indent line : Text} {tags : List Tag} :
    singleLine? .block indent description tags = some line ↔
      tags.length ≤ 1 ∧ (∀ tag ∈ tags, tag.fields.length ≤ 1) ∧
        ∃ paragraph, paragraphs description = [paragraph] ∧
          line = lineWith indent (inside tags paragraph) ∧ line.length ≤ lineWidth := by
  match tags with
  | [] =>
      rw [singleLine?, place_eq_some_iff]
      simp [inside]
  | [tag] =>
      rw [singleLine?, Option.ite_none_right_eq_some, place_eq_some_iff]
      simp [inside]
  | _ :: _ :: _ => simp [singleLine?]

/-! ### The line of a tag -/

theorem decorate_label (tag : Tag) (decoration : Text) :
    decorate decoration tag.label = decoration ++ (" " ++ tag.label) := by
  simp [decorate, Tag.label]

/-- Up to a tab stop a line gets blanks, at least one. -/
theorem exists_toTabStop (line : Text) :
    ∃ stop, toTabStop line = line ++ stop ∧ stop ≠ [] ∧ ∀ c ∈ stop, blank c = true := by
  refine ⟨_, toTabStop_eq line, fun none => ?_, fun _ => blank_of_mem_spaces⟩
  rw [List.replicate_eq_nil_iff, Indent.tabStop] at none
  omega

end Classwright.Comment
