import Classwright.Proofs.Comment.Docblock
import Classwright.Proofs.Comment.Words
import Classwright.Proofs.Outcome

/-!
# Comment — where a block comment ends

A block comment ends at its first `*/`.  Nothing in a comment is quoted, so a `*/` of the text
stands in the comment as it is; and as it holds no blank, neither wrapping nor tab stops nor the
decoration of a line makes or unmakes one.

* `terminator`: what ends a block comment.
* `Delimited`: lines that open a comment, close it, and hold so many ends besides.
* `sum_count_render`: the ends in the lines of a tag are those in its name and its fields.
* `delimited_singleLine`, `delimited_multiLine`: both forms of a comment.
* `block_comment_terminators`: the ends in a comment are those in its texts and the last one.
-/

namespace Classwright.Comment

open Text

/-- What ends a block comment. -/
def terminator : Text := "*/"

theorem terminator_ne_nil : terminator ≠ [] := by decide

theorem blank_of_mem_terminator : ∀ c ∈ terminator, blank c = false := by
  have solid : terminator.all (!blank ·) = true := by decide
  simpa only [List.all_eq_true, Bool.not_eq_true'] using solid

/-- A run of blanks parts the ends in front of it from those behind. -/
theorem count_terminator_append (t : Text) {blanks : Text} (u : Text) (between : blanks ≠ [])
    (h : ∀ c ∈ blanks, blank c = true) :
    count terminator (t ++ (blanks ++ u)) = count terminator t + count terminator u :=
  count_append_blanks_append terminator_ne_nil blank_of_mem_terminator t u between h

theorem count_terminator_space (t u : Text) :
    count terminator (t ++ ' ' :: u) = count terminator t + count terminator u :=
  count_append_cons t u terminator_ne_nil (by decide)

theorem count_terminator_trimEnd (t : Text) :
    count terminator (trimEnd t) = count terminator t :=
  count_trimEnd terminator_ne_nil blank_of_mem_terminator t

/-- Behind an indent a text holds the ends that it holds by itself. -/
theorem count_terminator_indent (n : Nat) (t : Text) :
    count terminator (List.replicate n ' ' ++ t) = count terminator t := by
  refine (count_of_words_append (v := []) terminator_ne_nil blank_of_mem_terminator ?_).trans
    (Nat.add_zero _)
  rw [words_blanks_append t fun _ => blank_of_mem_spaces, words_nil, List.append_nil]

/-! ### Tags -/

theorem count_toTabStop_append (t u : Text) :
    count terminator (toTabStop t ++ u) = count terminator t + count terminator u := by
  obtain ⟨stop, stopped, hne, blanks⟩ := exists_toTabStop t
  rw [stopped, List.append_assoc, count_terminator_append t u hne blanks]

theorem count_headline (tag : Tag) {decoration : Text} (bare : count terminator decoration = 0) :
    count terminator (tag.headline decoration)
      = count terminator tag.name + ((tag.fields.take 2).map (count terminator)).sum := by
  have stops : ∀ (fields : List Text) (line : Text),
      count terminator (fields.foldl (fun line field => toTabStop line ++ field) line)
        = count terminator line + (fields.map (count terminator)).sum := by
    intro fields
    induction fields with
    | nil => simp
    | cons field fields ih =>
        intro line
        rw [List.foldl_cons, ih, count_toTabStop_append, List.map_cons, List.sum_cons,
          Nat.add_assoc]
  have label : count terminator (decorate decoration tag.label) = count terminator tag.name := by
    have behind : decorate decoration tag.label = decoration ++ ' ' :: tag.label :=
      decorate_label tag decoration
    rw [behind, count_terminator_space, bare, Nat.zero_add, Tag.label,
      count_cons tag.name terminator_ne_nil (by decide)]
  rw [Tag.headline, stops, label]

/-- The ends in the lines of a tag are those in its name and its fields. -/
theorem sum_count_render (tag : Tag) {decoration : Text} (bare : count terminator decoration = 0) :
    ((tag.render decoration).map (count terminator)).sum
      = ((tag.name :: tag.fields).map (count terminator)).sum := by
  have indent : ∀ c ∈ (" " : Text), blank c = true := List.all_eq_true.mp (by decide)
  have wrapped : ∀ details, ((wrap details decoration " " lineWidth).map (count terminator)).sum
      = ([details].map (count terminator)).sum := fun details =>
    sum_count_wrap terminator_ne_nil blank_of_mem_terminator bare indent details lineWidth
  have fields : ((tag.fields.take 2).map (count terminator)).sum
      + ((tag.fields.drop 2).map (count terminator)).sum
        = (tag.fields.map (count terminator)).sum := by
    rw [← List.sum_append, ← List.map_append, List.take_append_drop]
  rw [Tag.render, List.map_cons, List.sum_cons, sum_count_flatMap wrapped,
    List.flatMap_singleton', count_terminator_trimEnd, count_headline tag bare, Nat.add_assoc,
    fields]
  rfl

/-! ### Comments -/

/-- The texts that a comment shows: its description, and the names and fields of its tags. -/
def shown (description : Text) (tags : List Tag) : List Text :=
  description :: tags.flatMap fun tag => tag.name :: tag.fields

/-- What opens a block comment. -/
def opener : Text := "/**"

/-- The lines open a block comment behind the indent and close it at the very end, with so many
ends besides. -/
structure Delimited (indent : Text) (besides : Nat) (lines : List Text) : Prop where
  opens : (indent ++ opener) <+: join "\n" lines
  closes : terminator <:+ join "\n" lines
  ends : count terminator (join "\n" lines) = besides + 1

variable {description : Text} {level : Nat}

/-- The ends in lines are those in each of them. -/
theorem count_terminator_lines (lines : List Text) :
    count terminator (join "\n" lines) = (lines.map (count terminator)).sum :=
  count_join lines terminator_ne_nil (by decide)

/-- A single line between the delimiters. -/
theorem delimited_line (inside : Text) :
    Delimited (List.replicate level ' ') (count terminator inside)
      [List.replicate level ' ' ++ (opener ++ ' ' :: (inside ++ ' ' :: terminator))] where
  opens := by
    rw [join_singleton, ← List.append_assoc]
    exact List.prefix_append _ _
  closes := by
    refine List.suffix_append_of_suffix ?_
    exact ⟨opener ++ ' ' :: (inside ++ [' ']), by simp⟩
  ends := by
    rw [join_singleton, count_terminator_indent, count_terminator_space, count_terminator_space]
    have none : count terminator opener = 0 := by decide
    have one : count terminator terminator = 1 := by decide
    rw [none, one, Nat.zero_add]

/-- The single-line form holds the ends of its texts: the only field that it leaves out is an empty
one. -/
theorem delimited_singleLine {tags : List Tag} {line : Text}
    (h : singleLine? .block (List.replicate level ' ') description tags = some line) :
    Delimited (List.replicate level ' ') ((shown description tags).map (count terminator)).sum
      [line] := by
  obtain ⟨-, -, paragraph, only, whole, -⟩ := singleLine?_eq_some_iff.mp h
  have kept := words_paragraphs description
  rw [only] at kept
  have tagged : ∀ tag : Tag,
      ((tag.label :: tag.fields.filter (· ≠ [])).map (count terminator)).sum
        = ((tag.name :: tag.fields).map (count terminator)).sum := fun tag => by
    have label : count terminator tag.label = count terminator tag.name :=
      count_cons tag.name terminator_ne_nil (by decide)
    rw [List.map_cons, List.sum_cons, label, sum_count_said, List.map_cons, List.sum_cons]
  have held : count terminator (inside tags paragraph)
      = ((shown description tags).map (count terminator)).sum := by
    refine (count_join _ terminator_ne_nil (by decide)).trans ?_
    rw [List.map_append, List.sum_append, sum_count_flatMap tagged,
      sum_count_of_words terminator_ne_nil blank_of_mem_terminator kept, shown, List.map_cons,
      List.sum_cons, Nat.add_comm]
  rw [whole, ← held]
  exact delimited_line _

/-- The form with a line for each delimiter holds the ends of its texts. -/
theorem delimited_multiLine (description : Text) (tags : List Tag) (level : Nat) :
    Delimited (List.replicate level ' ') ((shown description tags).map (count terminator)).sum
      (multiLine .block (List.replicate level ' ') description tags) := by
  -- Behind an indent neither the marker nor the opening line ends the comment.
  have marker : count terminator (List.replicate level ' ' ++ " *") = 0 :=
    (count_terminator_indent level _).trans (by decide)
  have opening : count terminator (List.replicate level ' ' ++ opener) = 0 :=
    (count_terminator_indent level _).trans (by decide)
  have closing : count terminator (List.replicate level ' ' ++ " */") = 1 :=
    (count_terminator_indent level _).trans (by decide)
  obtain ⟨tagLines, lines, tagged⟩ : ∃ tagLines,
      multiLine .block (List.replicate level ' ') description tags
        = (List.replicate level ' ' ++ opener) ::
          (wrap description (List.replicate level ' ' ++ " *") [] lineWidth ++ tagLines)
          ++ [List.replicate level ' ' ++ " */"] ∧
      (tagLines.map (count terminator)).sum
        = ((tags.flatMap fun tag => tag.name :: tag.fields).map (count terminator)).sum := by
    refine ⟨_, rfl, ?_⟩
    cases tags with
    | nil => rfl
    | cons tag tags =>
        rw [if_neg (List.cons_ne_nil tag tags), List.map_cons, List.sum_cons,
          count_terminator_trimEnd]
        refine (congrArg (· + _) marker).trans ((Nat.zero_add _).trans ?_)
        exact sum_count_flatMap (fun tag => sum_count_render tag marker) (tag :: tags)
  have described : ((wrap description (List.replicate level ' ' ++ " *") [] lineWidth).map
      (count terminator)).sum = count terminator description :=
    sum_count_wrap terminator_ne_nil blank_of_mem_terminator marker (by simp) description lineWidth
  rw [lines]
  constructor
  case opens => exact prefix_join_cons _ _ _
  case closes =>
    refine List.IsSuffix.trans ?_ (suffix_join_append _ _ _)
    exact ⟨List.replicate level ' ' ++ " ", by rw [List.append_assoc]; rfl⟩
  case ends =>
    rw [count_terminator_lines, List.map_append, List.sum_append, List.map_cons, List.sum_cons,
      List.map_append, List.sum_append, opening, described, tagged, List.map_singleton, closing]
    simp [shown]

/-- **A block comment ends once, and once more for each end in its texts.**  It opens behind the
indent and closes at its very end; that end is the only one exactly when neither the description
nor a name or field of a tag holds another. -/
theorem block_comment_terminators (description : Text) (tags : List Tag) (level : Nat)
    (forceMultiLine : Bool) (said : isBlank description = false) :
    ∃ lines, docblock (some description) tags level .block forceMultiLine = .ok lines ∧
      Delimited (List.replicate (Indent.width * level) ' ')
        ((shown description tags).map (count terminator)).sum lines ∧
      (count terminator (join "\n" lines) = 1
        ↔ ∀ t ∈ shown description tags, ¬ terminator <:+: t) := by
  obtain ⟨lines, rendered⟩ := docblock_of_level tags .block forceMultiLine said
    (Int.natCast_nonneg level)
  have delimited : Delimited (List.replicate (Indent.width * level) ' ')
      ((shown description tags).map (count terminator)).sum lines := by
    simp only [docblock, said, indentation_ofNat, Bool.false_eq_true, if_false] at rendered
    cases rendered
    split
    next line collapsed =>
      obtain ⟨-, single⟩ := Option.ite_none_right_eq_some.mp collapsed
      exact delimited_singleLine single
    next => exact delimited_multiLine description tags _
  refine ⟨lines, rendered, delimited, ?_⟩
  rw [delimited.ends, ← sum_count_eq_zero_iff terminator_ne_nil]
  omega

/-- The tag of a property. -/
def amount : Tag where
  name := "property"
  fields := ["int", "$amount", "what is left, as in 2 * 3 / 6"]
  name_ne_nil := by decide
  length_fields := by decide

/-- Stars and slashes apart from each other end nothing. -/
theorem amount_is_delimited :
    isBlank "Holds an amount." = false ∧
      ∃ lines, docblock (some "Holds an amount.") [amount] 1 .block false = .ok lines ∧
        Delimited (List.replicate (Indent.width * 1) ' ')
          ((shown "Holds an amount." [amount]).map (count terminator)).sum lines ∧
        (count terminator (join "\n" lines) = 1
          ↔ ∀ t ∈ shown "Holds an amount." [amount], ¬ terminator <:+: t) :=
  ⟨by decide, block_comment_terminators "Holds an amount." [amount] 1 false (by decide)⟩

/-- A description with an end of its own ends the comment early. -/
theorem two_terminators :
    isBlank "a */ b" = false ∧
      docblock (some "a */ b") [] 0 .block false = .ok ["/** a */ b */"] ∧
      count terminator (join "\n" ["/** a */ b */"]) = 2 := by
  refine ⟨by decide, ?_, by decide⟩
  decide +kernel

end Classwright.Comment
