import Classwright.Proofs.Comment.Docblock
import Classwright.Proofs.Comment.Kept

/-!
# Comment — a comment keeps its frame and its words

A comment in full has a line for each delimiter, if its style has any, and between them decorated
lines: those of the description and, behind a bare one, those of each tag.  A comment on a single
line has everything between its delimiters.  Either way every word of the description and of the
tags is there, in order, and nothing else is.

* `Tag.said`: the words of a tag.
* `Holds`: lines behind a decoration, and the words on them.
* `Enclosed`: lines between the delimiters of a style.
* `holds_wrap`, `tagged_render`: wrapped text and a tag keep their words.
* `Told`: the lines between the delimiters; `told_body`: what they are.
* `docblock_keeps_words`: both forms of a comment.
-/

namespace Classwright.Comment

open Text

/-! ### Decorated lines -/

/-- The words of a tag: those of its label, and of each field in order. -/
def Tag.said (tag : Tag) : List Text := (tag.label :: tag.fields).flatMap Text.words

/-- Each of the lines begins with the decoration, and the words behind it are these. -/
structure Holds (decoration : Text) (said lines : List Text) : Prop where
  decorated : ∀ line ∈ lines, decoration <+: line
  words : (lines.flatMap fun line => Text.words (behind decoration line)) = said

/-- The lines of a comment: `inner` between the delimiters that the style has. -/
inductive Enclosed (indent : Text) (inner : List Text) : Style → List Text → Prop
  | block : Enclosed indent inner .block ((indent ++ "/**") :: (inner ++ [indent ++ " */"]))
  | line : Enclosed indent inner .line inner

namespace Holds

variable {decoration : Text} {said more lines further : List Text}

theorem nil (decoration : Text) : Holds decoration [] [] := ⟨by simp, rfl⟩

theorem append (h : Holds decoration said lines) (g : Holds decoration more further) :
    Holds decoration (said ++ more) (lines ++ further) where
  decorated := List.forall_mem_append.mpr ⟨h.decorated, g.decorated⟩
  words := by rw [List.flatMap_append, h.words, g.words]

theorem flatMap {α : Type} {f g : α → List Text} (h : ∀ a, Holds decoration (f a) (g a))
    (as : List α) : Holds decoration (as.flatMap f) (as.flatMap g) := by
  induction as with
  | nil => exact .nil decoration
  | cons a as ih => exact (h a).append ih

/-- One line without the blanks at its end. -/
theorem singleton_trimEnd (solid : trimEnd decoration = decoration) (t : Text) :
    Holds decoration (Text.words t) [trimEnd (decoration ++ t)] where
  decorated := List.forall_mem_singleton.mpr (prefix_trimEnd_append t solid)
  words := by
    rw [List.flatMap_singleton, behind_trimEnd, words_trimEnd]

theorem bare (decoration : Text) : Holds decoration [] [decoration] where
  decorated := by simp
  words := by simp [behind]

end Holds

/-! ### Wrapped text -/

section Decorated

variable {decoration : Text} (solid : trimEnd decoration = decoration)

include solid in
theorem prefix_of_mem_wrap {t continuation line : Text} {width : Int}
    (h : line ∈ wrap t decoration continuation width) : decoration <+: line := by
  rcases mem_separate h with rfl | ⟨lines, hl, h⟩
  · exact ⟨[], by rw [solid, List.append_nil]⟩
  · obtain ⟨paragraph, -, rfl⟩ := List.mem_map.mp hl
    obtain ⟨pieces, -, whole⟩ :=
      wrapParagraph_eq_pieces (head decoration continuation) width paragraph
    rw [whole] at h
    obtain ⟨piece, -, rfl⟩ := List.mem_map.mp h
    rw [head, List.append_assoc, List.append_assoc]
    exact prefix_trimEnd_append _ solid

include solid in
/-- Wrapped text keeps its words, whatever blanks indent it behind the decoration. -/
theorem holds_wrap {continuation : Text} (indent : ∀ c ∈ continuation, blank c = true) (t : Text)
    (width : Int) : Holds decoration (words t) (wrap t decoration continuation width) where
  decorated := fun _ => prefix_of_mem_wrap solid
  words := by
    refine flatMap_wrap ?_ (fun piece => ?_) t width
    · rw [solid, behind, List.drop_length, words_nil]
    · rw [head, List.append_assoc, List.append_assoc, behind_trimEnd, words_trimEnd]
      exact (words_cons _ blank_space).trans (words_blanks_append piece indent)

/-! ### Tags -/

/-- Fields at tab stops keep their words, apart from what stands in front of them. -/
theorem exists_foldl_toTabStop (decoration begun : Text) (fields : List Text) :
    ∃ more, fields.foldl (fun line field => toTabStop line ++ field) (decoration ++ begun)
        = decoration ++ (begun ++ more) ∧
      words (begun ++ more) = words begun ++ fields.flatMap words := by
  induction fields generalizing begun with
  | nil => exact ⟨[], by simp, by simp⟩
  | cons field fields ih =>
      obtain ⟨stop, stopped, hne, blanks⟩ := exists_toTabStop (decoration ++ begun)
      obtain ⟨more, laid, held⟩ := ih (begun ++ (stop ++ field))
      refine ⟨stop ++ (field ++ more), ?_, ?_⟩
      · rw [List.foldl_cons, stopped]
        simpa only [List.append_assoc] using laid
      · rw [words_append_blanks_append begun field hne blanks, List.append_assoc] at held
        simpa only [List.append_assoc, List.flatMap_cons] using held

/-- The line of a tag is the decoration and the label, with the fields behind. -/
theorem exists_headline (tag : Tag) (decoration : Text) :
    ∃ more, tag.headline decoration = decoration ++ (" " ++ tag.label ++ more) ∧
      words (" " ++ tag.label ++ more) = words tag.label ++ (tag.fields.take 2).flatMap words := by
  obtain ⟨more, laid, held⟩ :=
    exists_foldl_toTabStop decoration (" " ++ tag.label) (tag.fields.take 2)
  refine ⟨more, ?_, ?_⟩
  · rw [Tag.headline, decorate_label, laid]
  · rw [held]
    exact congrArg (· ++ _) (words_cons tag.label blank_space)

/-- The lines of a tag hold its words, and the first begins with its label. -/
structure Tagged (decoration : Text) (tag : Tag) (lines : List Text) : Prop where
  holds : Holds decoration tag.said lines
  labelled : ∃ line rest, lines = line :: rest ∧ decoration ++ (" @" : Text) <+: line

include solid in
theorem tagged_render (tag : Tag) : Tagged decoration tag (tag.render decoration) := by
  obtain ⟨more, laid, held⟩ := exists_headline tag decoration
  have details : Holds decoration ((tag.fields.drop 2).flatMap words)
      ((tag.fields.drop 2).flatMap fun details => wrap details decoration " " lineWidth) :=
    Holds.flatMap (fun field => holds_wrap solid (by simp) field lineWidth) _
  constructor
  case holds =>
    have whole := (Holds.singleton_trimEnd solid (" " ++ tag.label ++ more)).append details
    rw [held, List.append_assoc, ← List.flatMap_append, List.take_append_drop] at whole
    rw [Tag.render, laid]
    exact whole
  case labelled =>
    have marked : trimEnd (decoration ++ " @") = decoration ++ " @" :=
      trimEnd_append_of_said decoration (by decide)
    have line : tag.headline decoration = decoration ++ " @" ++ (tag.name ++ more) := by
      rw [laid, Tag.label]
      simp
    refine ⟨_, _, rfl, ?_⟩
    rw [line]
    exact prefix_trimEnd_append _ marked

/-! ### A comment in full -/

/-- The lines between the delimiters: those of the description, the last of which is not bare, and
if there are tags, one bare line and the lines of each tag. -/
structure Told (decoration description : Text) (tags : List Tag) (inner : List Text) : Prop where
  holds : Holds decoration (words description ++ tags.flatMap Tag.said) inner
  parts : ∃ described groups,
    inner = described ++ (if tags = [] then [] else decoration :: groups.flatten) ∧
      Holds decoration (words description) described ∧
      (∃ last, described.getLast? = some last ∧ last ≠ decoration) ∧
      List.Forall₂ (Tagged decoration) tags groups

/-- The lines between the delimiters of a comment in full. -/
def body (decoration description : Text) (tags : List Tag) : List Text :=
  wrap description decoration [] lineWidth
    ++ if tags = [] then [] else trimEnd decoration :: tags.flatMap (·.render decoration)

theorem enclosed_multiLine {style : Style} (indent description : Text) (tags : List Tag)
    (canonical : style = .block ∨ style = .line) :
    Enclosed indent (body (indent ++ style.marker) description tags) style
      (multiLine style indent description tags) := by
  rcases canonical with rfl | rfl
  · exact .block
  · have lines : multiLine .line indent description tags
        = body (indent ++ Style.line.marker) description tags := by
      simp only [multiLine, body, delimiterLine, Style.line, List.append_nil, List.nil_append]
    rw [lines]
    exact .line

include solid in
theorem told_body {description : Text} (tags : List Tag) (said : isBlank description = false) :
    Told decoration description tags (body decoration description tags) := by
  have described := holds_wrap solid (show ∀ c ∈ ([] : Text), blank c = true by simp) description
    lineWidth
  constructor
  case holds =>
    refine described.append ?_
    by_cases none : tags = []
    · rw [if_pos none, none]
      exact .nil decoration
    · rw [if_neg none, solid]
      exact (Holds.bare decoration).append
        (Holds.flatMap (fun tag => (tagged_render solid tag).holds) tags)
  case parts =>
    obtain ⟨last, hl, speaks⟩ := exists_getLast?_wrap decoration [] lineWidth said
    refine ⟨_, tags.map (·.render decoration), ?_, described, ⟨last, hl, ?_⟩, ?_⟩
    · rw [body, solid, List.flatMap_def]
    · rintro rfl
      have bare := behind_bare last []
      rw [solid] at bare
      exact speaks bare
    · rw [List.forall₂_map_right_iff]
      exact List.forall₂_same.mpr fun tag _ => tagged_render solid tag

end Decorated

/-! ### Both forms -/

variable {description : Text} {level : Nat}

theorem words_delimited (ts : List Text) : words (' ' :: join " " ts) = ts.flatMap words :=
  (words_cons _ blank_space).trans (words_join ts blank_space)

/-- The single line holds the words of the tag, if there is one, and of the description. -/
theorem words_of_singleLine {indent line : Text} {tags : List Tag}
    (h : singleLine? .block indent description tags = some line) :
    tags.length ≤ 1 ∧ ∃ inside, line = indent ++ ("/**" ++ (inside ++ " */")) ∧
      words inside = tags.flatMap Tag.said ++ words description := by
  obtain ⟨few, -, paragraph, only, whole, -⟩ := singleLine?_eq_some_iff.mp h
  have kept := words_paragraphs description
  rw [only, List.flatMap_singleton] at kept
  have tagged : ∀ tag : Tag, (tag.label :: tag.fields.filter (· ≠ [])).flatMap words = tag.said :=
    fun tag => by rw [List.flatMap_cons, flatMap_words_said, Tag.said, List.flatMap_cons]
  refine ⟨few, _, whole, ?_⟩
  rw [inside, words_delimited, List.flatMap_append, List.flatMap_assoc, List.flatMap_singleton,
    kept]
  exact congrArg (· ++ _) (List.flatMap_congr fun tag _ => tagged tag)

theorem trimEnd_marker {style : Style} (canonical : style = .block ∨ style = .line)
    (indent : Text) : trimEnd (indent ++ style.marker) = indent ++ style.marker := by
  rcases canonical with rfl | rfl <;> exact trimEnd_append_of_said indent (by decide)

/-- **A comment keeps its frame and its words.**  A block or line comment with a description is
laid out in full, with its lines between the delimiters and behind the decoration, or, if it may
be, on a single line between the delimiters; in both forms it has the words of the description and
of every tag, each where it belongs. -/
theorem docblock_keeps_words (description : Text) (tags : List Tag) (level : Nat) {style : Style}
    (forceMultiLine : Bool) (said : isBlank description = false)
    (canonical : style = .block ∨ style = .line) :
    let indent : Text := List.replicate (Indent.width * level) ' '
    ∃ lines, docblock (some description) tags level style forceMultiLine = .ok lines ∧
      ((∃ inner, Enclosed indent inner style lines ∧
          Told (indent ++ style.marker) description tags inner) ∨
        (style = .block ∧ forceMultiLine = false ∧ tags.length ≤ 1 ∧
          ∃ inside, lines = [indent ++ ("/**" ++ (inside ++ " */"))] ∧
            words inside = tags.flatMap Tag.said ++ words description)) := by
  intro indent
  obtain ⟨lines, rendered⟩ := docblock_of_level tags style forceMultiLine said
    (Int.natCast_nonneg level)
  refine ⟨lines, rendered, ?_⟩
  rcases docblock_cases rendered with ⟨line, collapses, free, single, rfl⟩ | rfl
  · have block : style = .block := by
      rcases canonical with rfl | rfl
      · rfl
      · cases collapses
    subst block
    obtain ⟨few, inside, rfl, held⟩ := words_of_singleLine single
    exact .inr ⟨rfl, free, few, inside, rfl, held⟩
  · exact .inl ⟨_, enclosed_multiLine indent description tags canonical,
      told_body (trimEnd_marker canonical indent) tags said⟩

/-- The tag of a global variable with a description. -/
def limit : Tag where
  name := "global"
  fields := ["int", "$limit", "how many\n\nat most"]
  name_ne_nil := by decide
  length_fields := by decide

/-- A comment in full, with two paragraphs in it and in its tag. -/
theorem limit_keeps_words :
    isBlank "Takes some.\n\nOr none." = false ∧
      ∃ lines, docblock (some "Takes some.\n\nOr none.") [limit] 1 .block true = .ok lines ∧
        ∃ inner, Enclosed (List.replicate (Indent.width * 1) ' ') inner .block lines ∧
          Told (List.replicate (Indent.width * 1) ' ' ++ Style.block.marker)
            "Takes some.\n\nOr none." [limit] inner := by
  have said : isBlank "Takes some.\n\nOr none." = false := by decide
  obtain ⟨lines, rendered, full | ⟨-, free, -⟩⟩ :=
    docblock_keeps_words "Takes some.\n\nOr none." [limit] 1 true said (.inl rfl)
  · exact ⟨said, lines, rendered, full⟩
  · cases free

end Classwright.Comment
