import Classwright.Proofs.Comment.Paragraph

/-!
# Comment — lines flow together into paragraphs

Lines of content that are joined by line feeds and read as free text become paragraphs again: a
line flows into the next one with a space between, whatever blanks the next one begins with, and an
empty line parts two paragraphs.

* `Content`: a line of content; it ends in no blank.
* `flow`: the paragraphs of lines of content.
* `trim_reflow_append`: a line and what the paragraph goes on with.
* `paragraphs_join`: the paragraphs of joined lines are those that the lines flow into.
-/

namespace Classwright.Comment

open Text

/-- A line of content ends in no blank and holds neither a line feed nor a return. -/
structure Content (line : Text) : Prop where
  last : trimEnd line = line
  newline_not_mem : '\n' ∉ line
  return_not_mem : '\r' ∉ line

/-- The paragraphs that lines of content flow into. -/
def flow : List Text → List Text
  | [] => []
  | line :: lines =>
      if line = [] then flow lines
      else if lines.headD [] = [] then trimStart line :: flow lines
      else leadFirst (trimStart line ++ [' ']) (flow lines)

theorem flow_of_empty (lines : List Text) : flow ([] :: lines) = flow lines := rfl

theorem flow_of_end {line : Text} {lines : List Text} (said : line ≠ [])
    (ends : lines.headD [] = []) : flow (line :: lines) = trimStart line :: flow lines := by
  rw [flow, if_neg said, if_pos ends]

theorem flow_of_next {line : Text} {lines : List Text} (said : line ≠ [])
    (goes : lines.headD [] ≠ []) :
    flow (line :: lines) = leadFirst (trimStart line ++ [' ']) (flow lines) := by
  rw [flow, if_neg said, if_neg goes]

/-- Every paragraph begins with something that it says. -/
theorem starts_of_mem_flow {lines : List Text} (content : ∀ line ∈ lines, Content line) :
    ∀ paragraph ∈ flow lines, paragraph ≠ [] ∧ trimStart paragraph = paragraph := by
  induction lines with
  | nil => simp [flow]
  | cons line lines ih =>
      obtain ⟨here, rest⟩ := List.forall_mem_cons.mp content
      by_cases said : line = []
      · rw [said, flow_of_empty]
        exact ih rest
      have speaks := isBlank_of_trimEnd said here.last
      have opening := trimStart_ne_nil speaks
      by_cases ends : lines.headD [] = []
      · rw [flow_of_end said ends]
        exact List.forall_mem_cons.mpr ⟨⟨opening, trimStart_trimStart line⟩, ih rest⟩
      · rw [flow_of_next said ends]
        intro paragraph hp
        rcases mem_leadFirst hp with ⟨t, rfl⟩ | hp
        · rw [List.append_assoc]
          refine ⟨List.append_ne_nil_of_left_ne_nil opening _, ?_⟩
          rw [trimStart_append_of_said _ (by rwa [isBlank_trimStart]), trimStart_trimStart]
        · exact ih rest paragraph hp

/-- The first paragraph is the first line, and a space where it goes on. -/
theorem exists_flow_cons {line : Text} (lines : List Text) (said : line ≠ []) :
    ∃ after rest, flow (line :: lines) = (trimStart line ++ after) :: rest ∧
      (after = [] ∨ after.head? = some ' ') := by
  by_cases ends : lines.headD [] = []
  · exact ⟨[], flow lines, by rw [flow_of_end said ends, List.append_nil], .inl rfl⟩
  · rw [flow_of_next said ends]
    cases flow lines with
    | nil => exact ⟨[' '], [], rfl, .inr rfl⟩
    | cons p ps => exact ⟨' ' :: p, ps, by rw [leadFirst_cons, List.append_assoc]; rfl, .inr rfl⟩

theorem flow_ne_nil {lines : List Text} (said : lines ≠ []) (last : lines.getLast? ≠ some []) :
    flow lines ≠ [] := by
  induction lines with
  | nil => exact absurd rfl said
  | cons line lines ih =>
      by_cases empty : line = []
      · subst empty
        cases lines with
        | nil => exact absurd rfl last
        | cons next more => exact ih (List.cons_ne_nil next more) (by simpa using last)
      · obtain ⟨after, rest, he, -⟩ := exists_flow_cons lines empty
        rw [he]
        exact List.cons_ne_nil _ _

/-! ### A line and what follows -/

theorem trimStart_reflow {c : Char} (t : Text) (first : blank c = false) :
    trimStart (reflow (c :: t)) = reflow (c :: t) := by
  have other : c ≠ '\n' := by
    rintro rfl
    cases first
  have none : afterLineBreak? ([c] ++ t) = Option.none :=
    afterLineBreak?_of_said t (by simpa using other.symm) (by simp [isBlank, first])
  rw [List.singleton_append] at none
  rw [reflow_cons none]
  simp [trimStart, first]

/-- A line of a paragraph stays as it is, and the break behind it becomes a space. -/
theorem trim_reflow_append {line blanks t : Text} {c : Char} (content : Content line)
    (starts : trimStart line = line) (said : line ≠ [])
    (inline : ∀ d ∈ blanks, inlineBlank d = true) (first : blank c = false) :
    trim (reflow (line ++ '\n' :: (blanks ++ c :: t)))
      = line ++ [' '] ++ trim (reflow (c :: t)) := by
  have more : isBlank (reflow (c :: t)) = false := by
    rw [isBlank_reflow]
    simp [isBlank, first]
  have nonblank := isBlank_of_trimEnd said content.last
  rw [reflow_append _ content.newline_not_mem content.last,
    reflow_newline inline (by simpa using first), trim, trim,
    trimStart_append_of_said _ nonblank, starts, trimStart_reflow t first, ← List.singleton_append,
    ← List.append_assoc, trimEnd_append_of_said _ more]

theorem cutParagraphs_cons {c : Char} (t : Text) (first : blank c = false) :
    ∃ piece rest, cutParagraphs (c :: t) = (c :: piece) :: rest := by
  have other : c ≠ '\n' := by
    rintro rfl
    cases first
  obtain ⟨piece, rest, he⟩ := List.exists_cons_of_ne_nil (cutParagraphs_ne_nil t)
  exact ⟨piece, rest, by
    rw [cutParagraphs_of_not_ends (endsParagraph_of_ne t other), he, consFirst_cons]⟩

/-- The blanks that a text begins with are those of its first line, if that says something. -/
theorem takeWhile_blank_append {line : Text} (t : Text) (said : isBlank line = false) :
    (line ++ t).takeWhile blank = line.takeWhile blank := by
  rw [List.takeWhile_append, if_neg]
  intro whole
  have same : line.takeWhile blank = line := (List.takeWhile_sublist blank).eq_of_length whole
  have silent : (line.takeWhile blank).all blank = true := List.all_takeWhile
  rw [same, ← isBlank, said] at silent
  cases silent

theorem cutParagraphs_of_end {line t : Text} (h : '\n' ∉ line) (ends : '\n' ∈ t.takeWhile blank) :
    cutParagraphs (line ++ '\n' :: t) = line :: cutParagraphs (trimStart t) := by
  have cut : endsParagraph '\n' t = true := by simpa [endsParagraph] using ends
  rw [cutParagraphs_append _ h, cutParagraphs_of_ends cut, leadFirst_cons, List.append_nil]
  rfl

theorem cutParagraphs_of_next {line t : Text} (h : '\n' ∉ line) (goes : '\n' ∉ t.takeWhile blank) :
    cutParagraphs (line ++ '\n' :: t)
      = leadFirst (line ++ '\n' :: t.takeWhile blank) (cutParagraphs (trimStart t)) := by
  have uncut : endsParagraph '\n' t = false := by simpa [endsParagraph] using goes
  have parts : t = t.takeWhile blank ++ trimStart t := List.takeWhile_append_dropWhile.symm
  rw [cutParagraphs_append _ h, cutParagraphs_of_not_ends uncut, consFirst_eq_leadFirst]
  conv => lhs; rw [parts]
  rw [cutParagraphs_append _ goes, leadFirst_leadFirst, leadFirst_leadFirst, List.append_assoc]
  rfl

/-! ### Joined lines -/

/-- A paragraph that is a line by itself. -/
theorem trim_reflow_line {line : Text} (content : Content line) :
    trim (reflow (trimStart line)) = trimStart line := by
  have inside : '\n' ∉ trimStart line := fun h =>
    content.newline_not_mem ((List.dropWhile_sublist _).subset h)
  have ends := trimEnd_trimStart content.last
  have whole := reflow_append [] inside ends
  rw [List.append_nil, reflow_nil, List.append_nil] at whole
  rw [whole, trim, trimStart_trimStart, ends]

theorem Content.trimStart {line : Text} (content : Content line) :
    Content (Text.trimStart line) where
  last := trimEnd_trimStart content.last
  newline_not_mem := fun h => content.newline_not_mem ((List.dropWhile_sublist _).subset h)
  return_not_mem := fun h => content.return_not_mem ((List.dropWhile_sublist _).subset h)

/-- When the next line says something the paragraph goes on, with one space for the line feed and
the blanks behind it. -/
theorem paragraphs_of_next {line next after : Text} (content : Content line)
    (starts : trimStart line = line) (said : line ≠ []) (there : Content next) (goes : next ≠ []) :
    (cutParagraphs (line ++ '\n' :: (next ++ after))).map (fun p => trim (reflow p))
      = leadFirst (line ++ [' '])
        ((cutParagraphs (trimStart (next ++ after))).map fun p => trim (reflow p)) := by
  have speaks := isBlank_of_trimEnd goes there.last
  have blanks : '\n' ∉ (next ++ after).takeWhile blank := by
    rw [takeWhile_blank_append after speaks]
    exact fun h => there.newline_not_mem ((List.takeWhile_sublist _).subset h)
  have inline : ∀ d ∈ (next ++ after).takeWhile blank, inlineBlank d = true := by
    intro d hd
    have other : d ≠ '\n' := fun he => blanks (he ▸ hd)
    have silent : blank d = true := List.all_eq_true.mp List.all_takeWhile d hd
    simp [inlineBlank, silent, other]
  obtain ⟨c, cs, begins⟩ := List.exists_cons_of_ne_nil (trimStart_ne_nil speaks)
  have first : blank c = false := by
    refine blank_of_trimStart (t := cs) ?_
    rw [← begins, trimStart_trimStart]
  obtain ⟨piece, pieces, cut⟩ := cutParagraphs_cons (cs ++ after) first
  have opens := trim_reflow_append (t := piece) content starts said inline first
  rw [cutParagraphs_of_next content.newline_not_mem blanks, trimStart_append_of_said after speaks,
    begins, List.cons_append, cut, leadFirst_cons, List.map_cons, List.map_cons, leadFirst_cons,
    ← opens, List.append_assoc]
  rfl

/-- Joined lines, cut, reflowed and trimmed, are what they flow into. -/
theorem cutParagraphs_join {lines : List Text} (content : ∀ line ∈ lines, Content line)
    (said : lines ≠ []) (last : lines.getLast? ≠ some []) :
    ((cutParagraphs (trimStart (join "\n" lines))).map fun p => trim (reflow p)) = flow lines := by
  induction lines with
  | nil => exact absurd rfl said
  | cons line lines ih =>
      obtain ⟨here, rest⟩ := List.forall_mem_cons.mp content
      by_cases final : lines = []
      · -- The last line says something, and it is a paragraph by itself.
        subst final
        have saying : line ≠ [] := by simpa using last
        have cut := cutParagraphs_append [] here.trimStart.newline_not_mem
        rw [List.append_nil, cutParagraphs_nil, leadFirst_cons, List.append_nil] at cut
        rw [join_singleton, cut, List.map_singleton, trim_reflow_line here,
          flow_of_end saying rfl]
        rfl
      obtain ⟨next, more, rfl⟩ := List.exists_cons_of_ne_nil final
      have last' : (next :: more).getLast? ≠ some [] := by simpa using last
      have further := ih rest final last'
      rw [join_cons line final]
      by_cases saying : line = []
      · -- An empty line in front of the text is trimmed.
        subst saying
        rw [flow_of_empty, ← further]
        rfl
      have nonblank := isBlank_of_trimEnd saying here.last
      rw [trimStart_append_of_said _ nonblank]
      by_cases empty : next = []
      · -- An empty line ends the paragraph.
        subst empty
        have ends : '\n' ∈ (join "\n" ([] :: more)).takeWhile blank := by
          rw [join_cons [] (by rintro rfl; exact last' rfl)]
          exact List.mem_cons_self
        have cut := cutParagraphs_of_end here.trimStart.newline_not_mem ends
        rw [flow_of_end saying rfl, ← further]
        refine (congrArg (List.map _) cut).trans ?_
        rw [List.map_cons, trim_reflow_line here]
      · obtain ⟨there, -⟩ := List.forall_mem_cons.mp rest
        obtain ⟨after, joined⟩ := prefix_join_cons "\n" next more
        rw [flow_of_next saying (show (next :: more).headD [] ≠ [] from empty), ← further, ← joined]
        show (cutParagraphs (trimStart line ++ '\n' :: (next ++ after))).map _ = _
        exact paragraphs_of_next here.trimStart (trimStart_trimStart line)
          (trimStart_ne_nil nonblank) there empty

/-- **Lines flow into paragraphs.**  Read as free text, lines of content that do not end in an empty
one are the paragraphs that they flow into. -/
theorem paragraphs_join {lines : List Text} (content : ∀ line ∈ lines, Content line)
    (last : lines.getLast? ≠ some []) : paragraphs (join "\n" lines) = flow lines := by
  by_cases said : lines = []
  · subst said
    rfl
  have unified : unifyReturns (join "\n" lines) = join "\n" lines := by
    refine unifyReturns_of_not_mem fun h => ?_
    rcases mem_join h with h | ⟨line, hl, h⟩
    · exact absurd h (by decide)
    · exact (content line hl).return_not_mem h
  -- The last line says something, so the text ends as it does.
  obtain ⟨final, hf⟩ := Option.ne_none_iff_exists'.mp (mt List.getLast?_eq_none_iff.mp said)
  have speaks : isBlank final = false := by
    refine isBlank_of_trimEnd ?_ (content final (List.mem_of_getLast? hf)).last
    rintro rfl
    exact last hf
  obtain ⟨before, joined⟩ : final <:+ join "\n" lines := by
    obtain ⟨init, rfl⟩ := List.getLast?_eq_some_iff.mp hf
    exact suffix_join_append "\n" final init
  have ends : trimEnd (join "\n" lines) = join "\n" lines := by
    rw [← joined, trimEnd_append_of_said before speaks,
      (content final (List.mem_of_getLast? hf)).last]
  have nonblank : isBlank (join "\n" lines) = false := by
    rw [← joined, isBlank_append, speaks, Bool.and_false]
  have body : trim (unifyReturns (join "\n" lines)) = trimStart (join "\n" lines) := by
    rw [unified, trim, trimEnd_trimStart ends]
  unfold paragraphs
  simp only [body, if_neg (trimStart_ne_nil nonblank)]
  exact cutParagraphs_join content said last

end Classwright.Comment
