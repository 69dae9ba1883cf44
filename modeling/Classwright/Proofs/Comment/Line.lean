import Classwright.Proofs.Comment.Flow
import Classwright.Proofs.Comment.Packing
import Classwright.Proofs.Comment.Words

/-!
# Comment — the lines of wrapped text

What stands behind the head of a line is what the line says.  Every line of wrapped text says one
line of content or nothing; a line that says something is the head and what it says, within the
width unless that is a single word.  The first line begins with something it says, and the last one
says something, so bare lines only stand in between.

* `behind`: what a line says.
* `Laid`, `laid_of_mem_wrap`: what is known of every line.
* `begins_of_wrap`, `ends_of_wrap`: what is known of the first line and of the last.
* `exists_getLast?_separate`: how groups of lines end, from how each does.
* `exists_getLast?_wrap`: when there is a last line.
* `isChain_wrap`: how neighbouring lines are related, from how those of a paragraph are.
-/

namespace Classwright.Comment

open Text

/-- What stands behind the head of a line. -/
def behind (head line : Text) : Text := line.drop head.length

/-- A line says one line of content, and when that is not empty it is the head and the content,
within the width or a single word. -/
structure Laid (head : Text) (width : Nat) (line : Text) : Prop where
  content : Content (behind head line)
  whole : behind head line ≠ [] → line = head ++ behind head line
  room : line.length ≤ width ∨ ' ' ∉ behind head line

/-- A line begins with something it says. -/
def Begins (head line : Text) : Prop :=
  behind head line ≠ [] ∧ trimStart (behind head line) = behind head line

variable {head : Text} {width : Nat}

theorem behind_append (head t : Text) : behind head (head ++ t) = t := List.drop_left

theorem behind_trimEnd (head piece : Text) :
    behind head (trimEnd (head ++ piece)) = trimEnd piece := drop_trimEnd_append head piece

/-- A line that says something has no blanks to trim. -/
theorem Laid.trimEnd {line : Text} (laid : Laid head width line) (said : behind head line ≠ []) :
    Text.trimEnd (head ++ behind head line) = line := by
  rw [trimEnd_append_of_said head (isBlank_of_trimEnd said laid.content.last), laid.content.last,
    ← laid.whole said]

/-! ### The lines of a paragraph -/

variable {paragraph : Text}

/-- A paragraph that begins and ends with something is wrapped as its rows. -/
theorem wrapParagraph_of_solid (solid : Solid paragraph) :
    wrapParagraph head width paragraph
      = (paragraphRows head width paragraph).map (rowLine head) := by
  refine wrapParagraph_eq_paragraphRows (fun hc => ?_) (fun hc => ?_)
  · obtain ⟨c, cs, rfl⟩ := List.exists_cons_of_ne_nil solid.said
    cases hc
    cases blank_of_trimStart solid.first
  · rw [← solid.last] at hc
    cases blank_of_getLast?_trimEnd hc

theorem room_of_mem_wrapParagraph (solid : Solid paragraph) {line : Text}
    (h : line ∈ wrapParagraph head width paragraph) :
    line.length ≤ width ∨ ' ' ∉ behind head line := by
  rw [wrapParagraph_of_solid solid] at h
  obtain ⟨row, hr, rfl⟩ := List.mem_map.mp h
  by_cases wide : width < (rowLine head row).length
  · obtain ⟨t, rfl⟩ := single_of_mem_paragraphRows hr wide
    refine .inr fun hc => space_not_mem_content t ?_
    rw [rowLine, behind_trimEnd] at hc
    exact trimEnd_subset _ hc
  · exact .inl (Nat.not_lt.mp wide)

/-- A line of a paragraph is laid out. -/
theorem laid_of_mem_wrapParagraph (solid : Solid paragraph) {line : Text}
    (h : line ∈ wrapParagraph head width paragraph) : Laid head width line := by
  have room := room_of_mem_wrapParagraph solid h
  obtain ⟨pieces, broken, lines⟩ := wrapParagraph_eq_pieces head width paragraph
  rw [lines] at h
  obtain ⟨piece, hp, rfl⟩ := List.mem_map.mp h
  rw [behind_trimEnd] at room
  refine ⟨⟨?_, ?_, ?_⟩, ?_, ?_⟩
  · rw [behind_trimEnd, trimEnd_trimEnd]
  · rw [behind_trimEnd]
    exact fun hc => solid.newline_not_mem (broken.mem_of_mem hp (trimEnd_subset _ hc))
  · rw [behind_trimEnd]
    exact fun hc => solid.return_not_mem (broken.mem_of_mem hp (trimEnd_subset _ hc))
  · rw [behind_trimEnd]
    intro said
    refine trimEnd_append_of_said head ?_
    rw [Ne, trimEnd_eq_nil_iff] at said
    exact Bool.eq_false_iff.mpr said
  · rwa [behind_trimEnd]

/-- The first line of a text that begins with something begins as the text does. -/
theorem begins_of_wrapParagraph (head : Text) (width : Nat) (said : paragraph ≠ [])
    (starts : trimStart paragraph = paragraph) :
    ∃ line rest, wrapParagraph head width paragraph = line :: rest ∧ Begins head line := by
  obtain ⟨pieces, broken, lines⟩ := wrapParagraph_eq_pieces head width paragraph
  obtain ⟨c, cs, rest, rfl, -, first⟩ := broken.first said starts
  refine ⟨_, _, lines.trans List.map_cons, ?_, ?_⟩
  · rw [behind_trimEnd, Ne, trimEnd_eq_nil_iff]
    simp [isBlank, first]
  · have kept : trimStart (c :: cs) = c :: cs := by simp [trimStart, first]
    have trimmed : trimEnd (c :: cs) = trim (c :: cs) := by rw [trim, kept]
    rw [behind_trimEnd, trimmed]
    exact trimStart_of_head? fun _ => blank_of_head?_trim

/-- The last line of a text that ends with something says something. -/
theorem ends_of_wrapParagraph (head : Text) (width : Nat) (said : paragraph ≠ [])
    (ends : trimEnd paragraph = paragraph) :
    ∃ line, (wrapParagraph head width paragraph).getLast? = some line ∧ behind head line ≠ [] := by
  obtain ⟨pieces, broken, lines⟩ := wrapParagraph_eq_pieces head width paragraph
  obtain ⟨piece, hl, hne, trimmed⟩ := broken.last said ends
  refine ⟨trimEnd (head ++ piece), ?_, ?_⟩
  · rw [lines, List.getLast?_map, hl]
    rfl
  · rwa [behind_trimEnd, trimmed]

/-! ### Groups of lines -/

variable {between : Text}

theorem separate_cons (between line : Text) (lines : List Text) (groups : List (List Text)) :
    separate between ((line :: lines) :: groups) = line :: separate between (lines :: groups) := by
  cases groups with
  | nil => rfl
  | cons next groups => rfl

theorem separate_append (between : Text) (lines : List Text) {groups : List (List Text)}
    (h : groups ≠ []) :
    separate between (lines :: groups) = lines ++ between :: separate between groups := by
  obtain ⟨next, rest, rfl⟩ := List.exists_cons_of_ne_nil h
  rfl

/-- Groups with a line behind each are the groups with the line between them and, if there are any,
once more at the end. -/
theorem flatten_map_concat (between : Text) (groups : List (List Text)) :
    (groups.map (· ++ [between])).flatten
      = separate between groups ++ (if groups = [] then [] else [between]) := by
  induction groups with
  | nil => rfl
  | cons lines groups ih =>
      rw [List.map_cons, List.flatten_cons, ih, if_neg (List.cons_ne_nil _ _)]
      by_cases last : groups = []
      · subst last
        exact List.append_nil _
      · rw [if_neg last, separate_append between lines last]
        simp only [List.append_assoc, List.cons_append, List.nil_append]

theorem mem_separate {groups : List (List Text)} {line : Text}
    (h : line ∈ separate between groups) : line = between ∨ ∃ lines ∈ groups, line ∈ lines := by
  induction groups with
  | nil => cases h
  | cons lines groups ih =>
      by_cases last : groups = []
      · subst last
        exact .inr ⟨lines, List.mem_cons_self, h⟩
      · rw [separate_append between lines last] at h
        rcases List.mem_append.mp h with h | h
        · exact .inr ⟨lines, List.mem_cons_self, h⟩
        · rcases List.mem_cons.mp h with h | h
          · exact .inl h
          · refine (ih h).imp_right ?_
            rintro ⟨others, ho, hl⟩
            exact ⟨others, List.mem_cons_of_mem _ ho, hl⟩

/-- Groups of lines with a line between them make a chain when each group does and the line between
follows every last line and is followed by every first one. -/
theorem isChain_separate {R : Text → Text → Prop} {between : Text} {groups : List (List Text)}
    (chains : ∀ lines ∈ groups, lines.IsChain R)
    (before : ∀ lines ∈ groups, ∀ line, lines.getLast? = some line → R line between)
    (after : ∀ lines ∈ groups, ∃ line rest, lines = line :: rest ∧ R between line) :
    (separate between groups).IsChain R := by
  induction groups with
  | nil => exact .nil
  | cons lines groups ih =>
      obtain ⟨chain, chains⟩ := List.forall_mem_cons.mp chains
      obtain ⟨ends, before⟩ := List.forall_mem_cons.mp before
      obtain ⟨-, after⟩ := List.forall_mem_cons.mp after
      cases groups with
      | nil => exact chain
      | cons others groups =>
          obtain ⟨⟨line, rest, rfl, follows⟩, -⟩ := List.forall_mem_cons.mp after
          have further := ih chains before after
          rw [separate_append between lines (List.cons_ne_nil _ _)]
          rw [separate_cons] at further ⊢
          refine List.isChain_append.mpr ⟨chain, .cons_cons follows further, ?_⟩
          intro l hl m hm
          obtain rfl := Option.some.inj hm
          exact ends l hl

theorem begins_of_separate {ps : List Text} (starts : ∀ p ∈ ps, p ≠ [] ∧ trimStart p = p)
    {line : Text} (h : (separate between (ps.map (wrapParagraph head width))).head? = some line) :
    Begins head line := by
  cases ps with
  | nil => cases h
  | cons p ps =>
      obtain ⟨said, first⟩ := starts p List.mem_cons_self
      obtain ⟨opening, rest, lines, begins⟩ := begins_of_wrapParagraph head width said first
      rw [List.map_cons, lines, separate_cons] at h
      cases h
      exact begins

/-- Groups that each end with a line of some kind end with one together. -/
theorem exists_getLast?_separate {P : Text → Prop} (between : Text) {groups : List (List Text)}
    (some : groups ≠ []) (ends : ∀ lines ∈ groups, ∃ line, lines.getLast? = .some line ∧ P line) :
    ∃ line, (separate between groups).getLast? = .some line ∧ P line := by
  induction groups with
  | nil => exact absurd rfl some
  | cons lines groups ih =>
      obtain ⟨last, rest⟩ := List.forall_mem_cons.mp ends
      by_cases final : groups = []
      · subst final
        exact last
      · obtain ⟨line, hl, said⟩ := ih final rest
        refine ⟨line, ?_, said⟩
        rw [separate_append between _ final, List.getLast?_append, List.getLast?_cons, hl]
        rfl

theorem ends_of_separate {ps : List Text} (some : ps ≠ [])
    (ends : ∀ p ∈ ps, p ≠ [] ∧ trimEnd p = p) :
    ∃ line, (separate between (ps.map (wrapParagraph head width))).getLast? = .some line ∧
      behind head line ≠ [] := by
  refine exists_getLast?_separate between (by simpa using some) (List.forall_mem_map.mpr ?_)
  exact fun p hp => ends_of_wrapParagraph head width (ends p hp).1 (ends p hp).2

/-! ### The lines of free text -/

variable {t decoration continuation line : Text}

theorem behind_bare (decoration continuation : Text) :
    behind (Comment.head decoration continuation) (trimEnd decoration) = [] := by
  refine List.drop_eq_nil_of_le ((length_trimEnd_le decoration).trans ?_)
  simp [Comment.head]

/-- Every line of wrapped text is laid out. -/
theorem laid_of_mem_wrap (h : line ∈ wrap t decoration continuation width) :
    Laid (Comment.head decoration continuation) width line := by
  rcases mem_separate h with rfl | ⟨lines, hl, h⟩
  · have bare := behind_bare decoration continuation
    refine ⟨?_, fun said => absurd bare said, .inr (by simp [bare])⟩
    rw [bare]
    exact ⟨rfl, by simp, by simp⟩
  · obtain ⟨paragraph, hp, rfl⟩ := List.mem_map.mp hl
    exact laid_of_mem_wrapParagraph (solid_of_mem_paragraphs hp) h

/-- Wrapped text begins with something that it says. -/
theorem begins_of_wrap (h : (wrap t decoration continuation width).head? = some line) :
    Begins (Comment.head decoration continuation) line :=
  begins_of_separate (fun _ hp =>
    ⟨(solid_of_mem_paragraphs hp).said, (solid_of_mem_paragraphs hp).first⟩) h

/-- Text that says something has a last line, which says something. -/
theorem exists_getLast?_wrap (decoration continuation : Text) (width : Nat)
    (said : isBlank t = false) :
    ∃ line, (wrap t decoration continuation width).getLast? = some line ∧
      behind (Comment.head decoration continuation) line ≠ [] := by
  have lines : paragraphs t ≠ [] := by
    rw [Ne, paragraphs_eq_nil_iff, said]
    exact Bool.false_ne_true
  exact ends_of_separate lines fun _ hp =>
    ⟨(solid_of_mem_paragraphs hp).said, (solid_of_mem_paragraphs hp).last⟩

/-- Wrapped text ends with a line that says something. -/
theorem ends_of_wrap (h : (wrap t decoration continuation width).getLast? = some line) :
    behind (Comment.head decoration continuation) line ≠ [] := by
  have said : isBlank t = false := by
    rw [Bool.eq_false_iff, Ne, ← paragraphs_eq_nil_iff]
    intro none
    rw [wrap, none] at h
    cases h
  obtain ⟨final, hl, hne⟩ := exists_getLast?_wrap decoration continuation width said
  obtain rfl := Option.some.inj (hl.symm.trans h)
  exact hne

/-- Neighbouring lines of wrapped text are related when those of every paragraph are, what says
something is related to a bare line behind it, and a bare line to what begins behind it. -/
theorem isChain_wrap {R : Text → Text → Prop}
    (inside : ∀ paragraph ∈ paragraphs t,
      (wrapParagraph (Comment.head decoration continuation) width paragraph).IsChain R)
    (before : ∀ line, behind (Comment.head decoration continuation) line ≠ [] →
      R line (trimEnd decoration))
    (after : ∀ line, Begins (Comment.head decoration continuation) line →
      R (trimEnd decoration) line) :
    (wrap t decoration continuation width).IsChain R := by
  refine isChain_separate (List.forall_mem_map.mpr inside) ?_ ?_
  · rw [List.forall_mem_map]
    intro paragraph hp line last
    obtain ⟨said, -, ends, -, -⟩ := solid_of_mem_paragraphs hp
    obtain ⟨final, hf, goes⟩ := ends_of_wrapParagraph _ width said ends
    obtain rfl := Option.some.inj (hf.symm.trans last)
    exact before final goes
  · rw [List.forall_mem_map]
    intro paragraph hp
    obtain ⟨said, starts, -, -, -⟩ := solid_of_mem_paragraphs hp
    obtain ⟨line, rest, he, begins⟩ := begins_of_wrapParagraph _ width said starts
    exact ⟨line, rest, he, after line begins⟩

/-- What wrapped text says does not end in an empty line. -/
theorem getLast?_behind :
    ((wrap t decoration continuation width).map
      (behind (Comment.head decoration continuation))).getLast? ≠ some [] := by
  rw [List.getLast?_map]
  intro none
  obtain ⟨line, hl, silent⟩ := Option.map_eq_some_iff.mp none
  exact ends_of_wrap hl silent

end Classwright.Comment
