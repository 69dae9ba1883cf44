import Classwright.Proofs.Comment.Frame

/-!
# Comment — when a comment takes a single line

A block comment collapses to a single line if it has no more than one tag with no more than one
field, if its description is a single paragraph, and if all of that fits into the width of a line
with the delimiters around it.  Otherwise, and when it may not, it is laid out in full.  A line
comment has no delimiters that could be put on a line with the text.

* `Collapsible`: comments that fit; `collapsible_iff`: they are those with a single line.
* `docblock_of_singleLine`, `docblock_of_wide`: the lines of a comment, case by case.
* `length_multiLine`: a comment in full is no single line.
* `docblock_collapses_iff`: exactly the comments that fit take a single line.
-/

namespace Classwright.Comment

open Text

/-! ### Comments that fit -/

/-- A comment that fits on a line of 80 columns, behind four for each level and with four for what
opens it and three for what closes it. -/
structure Collapsible (description : Text) (tags : List Tag) (level : Nat) : Prop where
  few : tags.length ≤ 1
  plain : ∀ tag ∈ tags, tag.fields.length ≤ 1
  fits : ∃ paragraph, paragraphs description = [paragraph] ∧
    4 * level + 4 + (inside tags paragraph).length + 3 ≤ 80

variable {description : Text} {tags : List Tag} {level : Nat}

/-- The comments that fit are those with a single line. -/
theorem collapsible_iff :
    Collapsible description tags level ↔
      ∃ line, singleLine? .block (List.replicate (Indent.width * level) ' ') description tags
        = some line := by
  have columns : ∀ paragraph,
      (lineWith (List.replicate (Indent.width * level) ' ') (inside tags paragraph)).length
        = 4 * level + 4 + (inside tags paragraph).length + 3 := fun _ => by
    rw [length_lineWith, List.length_replicate, Indent.width]
  constructor
  · rintro ⟨few, plain, paragraph, only, fits⟩
    exact ⟨_, singleLine?_eq_some_iff.mpr
      ⟨few, plain, paragraph, only, rfl, (columns paragraph).trans_le fits⟩⟩
  · rintro ⟨line, single⟩
    obtain ⟨few, plain, paragraph, only, rfl, fits⟩ := singleLine?_eq_some_iff.mp single
    exact ⟨few, plain, paragraph, only, (columns paragraph).ge.trans fits⟩

/-! ### The lines of a comment, case by case -/

/-- A block comment takes the single line that there is, if it may. -/
theorem docblock_of_singleLine {line : Text} (said : isBlank description = false)
    (single : singleLine? .block (List.replicate (Indent.width * level) ' ') description tags
      = some line) :
    docblock (some description) tags level .block false = .ok [line] := by
  rw [docblock, if_neg (by simp [said]), indentation_ofNat]
  change Except.ok _ = Except.ok _
  rw [if_pos (by rfl), single]

/-- A comment that may not take a single line, or has none to take, is laid out in full. -/
theorem docblock_of_wide {style : Style} {forceMultiLine : Bool}
    (said : isBlank description = false)
    (wide : style.collapses = true → forceMultiLine = false →
      singleLine? style (List.replicate (Indent.width * level) ' ') description tags = none) :
    docblock (some description) tags level style forceMultiLine
      = .ok (multiLine style (List.replicate (Indent.width * level) ' ') description tags) := by
  obtain ⟨lines, rendered⟩ :=
    docblock_of_level tags style forceMultiLine said (Int.natCast_nonneg level)
  rcases docblock_cases rendered with ⟨line, collapses, free, single, -⟩ | rfl
  · cases single.symm.trans (wide collapses free)
  · exact rendered

/-- A comment in full has a line for each delimiter and at least one in between. -/
theorem length_multiLine (indent : Text) (tags : List Tag) (said : isBlank description = false) :
    3 ≤ (multiLine .block indent description tags).length := by
  obtain ⟨last, hl, -⟩ :=
    exists_getLast?_wrap (indent ++ Style.block.marker) [] lineWidth said
  have described := List.length_pos_of_mem (List.mem_of_getLast? hl)
  have laid : multiLine .block indent description tags = (indent ++ "/**") ::
      (body (indent ++ Style.block.marker) description tags ++ [indent ++ " */"]) := rfl
  rw [laid, body, List.length_cons, List.length_append, List.length_append, List.length_singleton]
  omega

/-- What the lines of a block comment are that may take a single line, beside those in full: one
line exactly if it fits, between the delimiters and within 80 columns, and otherwise the same. -/
structure Collapses (description : Text) (tags : List Tag) (level : Nat)
    (lines full : List Text) : Prop where
  single : lines.length = 1 ↔ Collapsible description tags level
  line : ∀ line, lines = [line] → line.length ≤ 80 ∧
    ∃ paragraph, paragraphs description = [paragraph] ∧
      line = lineWith (List.replicate (Indent.width * level) ' ') (inside tags paragraph)
  full : ¬ Collapsible description tags level → lines = full

theorem collapses_of_docblock (tags : List Tag) (level : Nat)
    (said : isBlank description = false) :
    ∃ lines, docblock (some description) tags level .block false = .ok lines ∧
      Collapses description tags level lines
        (multiLine .block (List.replicate (Indent.width * level) ' ') description tags) := by
  have several := length_multiLine (List.replicate (Indent.width * level) ' ') tags said
  cases single :
    singleLine? .block (List.replicate (Indent.width * level) ' ') description tags with
  | some line =>
      have fits : Collapsible description tags level := collapsible_iff.mpr ⟨line, single⟩
      obtain ⟨-, -, paragraph, only, whole, within⟩ := singleLine?_eq_some_iff.mp single
      refine ⟨_, docblock_of_singleLine said single, iff_of_true rfl fits, ?_, absurd fits⟩
      rintro _ ⟨⟩
      exact ⟨within, paragraph, only, whole⟩
  | none =>
      have wide : ¬ Collapsible description tags level := fun fits => by
        obtain ⟨line, some⟩ := collapsible_iff.mp fits
        cases single.symm.trans some
      refine ⟨_, docblock_of_wide said fun _ _ => single, iff_of_false ?_ wide, ?_, fun _ => rfl⟩
      · omega
      · intro line one
        rw [one] at several
        exact absurd several (by simp)

/-! ### Both styles -/

/-- **A comment takes a single line exactly if it fits.**  A block comment with a description has a
single line, of at most 80 columns, if it has no more than one tag with no more than one field, its
description is one paragraph and both fit with the delimiters; otherwise, and when it may not take
one, its lines are those in full, of which there are at least three.  The lines of a line comment
are the same whether it may take a single line or not: each stands behind its marker, and there is
never one between the delimiters of a block. -/
theorem docblock_collapses_iff (description : Text) (tags : List Tag) (level : Nat)
    (said : isBlank description = false) :
    let indent : Text := List.replicate (Indent.width * level) ' '
    (∃ lines full, docblock (some description) tags level .block false = .ok lines ∧
      docblock (some description) tags level .block true = .ok full ∧
      Enclosed indent (body (indent ++ Style.block.marker) description tags) .block full ∧
      3 ≤ full.length ∧ Collapses description tags level lines full) ∧
    ∃ lines, (∀ forceMultiLine,
        docblock (some description) tags level .line forceMultiLine = .ok lines) ∧
      Enclosed indent (body (indent ++ Style.line.marker) description tags) .line lines ∧
      (∀ line ∈ lines, indent ++ Style.line.marker <+: line) ∧
      ∀ text, lines ≠ [lineWith indent text] := by
  intro indent
  constructor
  · obtain ⟨lines, rendered, collapses⟩ := collapses_of_docblock tags level said
    exact ⟨lines, _, rendered, docblock_of_wide said fun _ => nofun,
      enclosed_multiLine indent description tags (.inl rfl), length_multiLine indent tags said,
      collapses⟩
  · have enclosed := enclosed_multiLine indent description tags (.inr rfl)
    have marked : ∀ line ∈ multiLine .line indent description tags,
        indent ++ Style.line.marker <+: line := by
      generalize multiLine .line indent description tags = lines at enclosed
      cases enclosed
      exact (told_body (trimEnd_marker (.inr rfl) indent) tags said).holds.decorated
    refine ⟨_, fun _ => docblock_of_wide said nofun, enclosed, marked, fun text one => ?_⟩
    -- What follows the indent begins with the marker, not with what opens a block.
    have opened := marked (lineWith indent text) (one ▸ List.mem_singleton_self _)
    rw [lineWith, List.prefix_append_right_inj] at opened
    simp [Style.line] at opened

/-- A description with a line break in it, that fills a line behind its tag and one level. -/
def columns : Text := "The columns of a line, with those\n  of the indent before them."

/-- A tag that points to a class. -/
def pointer : Tag where
  name := "see"
  fields := ["Row"]
  name_ne_nil := by decide
  length_fields := by decide

/-- The last column of a line may be taken; one level further in there is no room. -/
theorem columns_fill_a_line :
    isBlank columns = false ∧
      docblock (some columns) [pointer] 1 .block false
        = .ok ["    /** @see Row The columns of a line, with those of the indent before them. */"] ∧
      Collapsible columns [pointer] 1 ∧ ¬ Collapsible columns [pointer] 2 ∧
      docblock (some columns) [pointer] 2 .block false
        = docblock (some columns) [pointer] 2 .block true := by
  have said : isBlank columns = false := by decide
  obtain ⟨⟨lines, _, rendered, -, -, -, collapses⟩, -⟩ :=
    docblock_collapses_iff columns [pointer] 1 said
  obtain ⟨⟨further, full, free, forced, -, -, lays⟩, -⟩ :=
    docblock_collapses_iff columns [pointer] 2 said
  have filled : docblock (some columns) [pointer] (1 : Nat) .block false = .ok
      ["    /** @see Row The columns of a line, with those of the indent before them. */"] := by
    decide +kernel
  have one : lines.length = 1 := by
    obtain rfl := Except.ok.inj (rendered.symm.trans filled)
    rfl
  have wide : ¬ Collapsible columns [pointer] 2 := fun fits => by
    obtain ⟨paragraph, only, room⟩ := fits.fits
    have reflowed : paragraphs columns
        = ["The columns of a line, with those of the indent before them."] := by decide +kernel
    obtain rfl := (List.cons.inj (only.symm.trans reflowed)).1
    exact absurd room (by decide)
  refine ⟨said, filled, collapses.single.mp one, wide, ?_⟩
  exact free.trans ((congrArg _ (lays.full wide)).trans forced.symm)

end Classwright.Comment
