import Classwright.Proofs.Comment.Break
import Classwright.Proofs.Comment.Paragraph
import Classwright.Proofs.Text.Occurrence

/-!
# Comment — wrapping keeps the words

A line of a wrapped paragraph is a piece of the paragraph behind the head.  A paragraph is broken
into pieces at spaces alone, whatever the width, so the pieces hold its words; and whatever stands
only in words, as a part without blanks does, is found in the lines as often as in the text.

* `Broken`: a text and its pieces; `Broken.words`, `Broken.first`, `Broken.last`.
* `wrapParagraph_eq_pieces`: the lines of a paragraph are its pieces behind the head.
* `sum_map_separate`: what lines amount to, group by group.
* `sum_count_wrapParagraph`, `sum_count_wrap`: the occurrences in the lines are those in the text.
-/

namespace Classwright.Comment

open Text

/-! ### Pieces -/

/-- A text is broken into pieces at spaces.  The space of a break and the spaces behind it belong to
no piece. -/
inductive Broken : Text → List Text → Prop
  | nothing : Broken [] []
  | whole (t : Text) : Broken t [t]
  | next (piece : Text) {gap rest : Text} {pieces : List Text} (spaces : ∀ c ∈ gap, c = ' ')
      (further : Broken rest pieces) : Broken (piece ++ ' ' :: (gap ++ rest)) (piece :: pieces)

namespace Broken

variable {t : Text} {pieces : List Text}

/-- The pieces hold the words. -/
theorem words (h : Broken t pieces) : pieces.flatMap Text.words = Text.words t := by
  induction h with
  | nothing => rfl
  | whole t => exact List.append_nil _
  | next piece spaces _ ih =>
      have blanks : ∀ c ∈ ' ' :: _, blank c = true :=
        List.forall_mem_cons.mpr ⟨blank_space, fun c hc => spaces c hc ▸ blank_space⟩
      rw [List.flatMap_cons, ih]
      exact (words_append_blanks_append piece _ (List.cons_ne_nil _ _) blanks).symm

/-- The pieces are made of the text. -/
theorem mem_of_mem (h : Broken t pieces) {piece : Text} (hp : piece ∈ pieces) {c : Char}
    (hc : c ∈ piece) : c ∈ t := by
  induction h with
  | nothing => cases hp
  | whole t => exact List.mem_singleton.mp hp ▸ hc
  | next first spaces _ ih =>
      rcases List.mem_cons.mp hp with rfl | hp
      · exact List.mem_append_left _ hc
      · exact List.mem_append_right _ (List.mem_cons_of_mem _ (List.mem_append_right _ (ih hp)))

/-- The first piece begins as the text does. -/
theorem first (h : Broken t pieces) (said : t ≠ []) (starts : trimStart t = t) :
    ∃ c cs rest, pieces = (c :: cs) :: rest ∧ t.head? = some c ∧ blank c = false := by
  cases h with
  | nothing => exact absurd rfl said
  | whole =>
      obtain ⟨c, cs, rfl⟩ := List.exists_cons_of_ne_nil said
      exact ⟨c, cs, [], rfl, rfl, blank_of_trimStart starts⟩
  | next piece spaces further =>
      cases piece with
      | nil =>
          have other := blank_of_trimStart starts
          rw [blank_space] at other
          cases other
      | cons c cs => exact ⟨c, cs, _, rfl, rfl, blank_of_trimStart starts⟩

/-- The last piece ends as the text does. -/
theorem last (h : Broken t pieces) (said : t ≠ []) (ends : trimEnd t = t) :
    ∃ piece, pieces.getLast? = some piece ∧ piece ≠ [] ∧ trimEnd piece = piece := by
  induction h with
  | nothing => exact absurd rfl said
  | whole t => exact ⟨t, rfl, said, ends⟩
  | @next piece gap rest pieces spaces further ih =>
      have blanks : ∀ c ∈ ' ' :: gap, blank c = true :=
        List.forall_mem_cons.mpr ⟨blank_space, fun c hc => spaces c hc ▸ blank_space⟩
      -- The text does not end in the spaces of a break, so something stands behind them.
      have more : rest ≠ [] := by
        rintro rfl
        rw [List.append_nil] at ends
        have silent := isBlank_of_trimEnd (List.cons_ne_nil _ _) (trimEnd_of_append ends)
        rw [isBlank_eq_true_iff.mpr blanks] at silent
        cases silent
      have tail : trimEnd rest = rest := by
        rw [← List.cons_append, ← List.append_assoc] at ends
        exact trimEnd_of_append ends
      obtain ⟨final, hl, hne, trimmed⟩ := ih more tail
      refine ⟨final, ?_, hne, trimmed⟩
      rw [List.getLast?_cons, hl]
      rfl

end Broken

/-- The lines of a paragraph are the pieces of a broken paragraph behind the head. -/
theorem wrapParagraph_eq_pieces (head : Text) (width : Int) (paragraph : Text) :
    ∃ pieces, Broken paragraph pieces ∧
      wrapParagraph head width paragraph = pieces.map fun piece => trimEnd (head ++ piece) := by
  fun_induction wrapParagraph head width paragraph with
  | case1 => exact ⟨[], .nothing, rfl⟩
  | case2 paragraph => exact ⟨[paragraph], .whole paragraph, rfl⟩
  | case3 paragraph => exact ⟨[paragraph], .whole paragraph, rfl⟩
  | case4 paragraph line _ _ i found ih =>
      obtain ⟨pieces, broken, lines⟩ := ih
      obtain ⟨begun, rest, rfl, rfl⟩ := append_of_findLastBreak found
      have left : line.drop (head.length + begun.length + 1) = rest := by
        simp only [line, Nat.add_assoc, List.drop_length_add_append]
        rfl
      have spaces : ∀ c ∈ rest.takeWhile (· == ' '), c = ' ' := fun c hc =>
        beq_iff_eq.mp (List.all_eq_true.mp List.all_takeWhile c hc)
      rw [left] at broken
      have whole := broken.next begun spaces
      rw [List.takeWhile_append_dropWhile] at whole
      refine ⟨begun :: pieces, whole, ?_⟩
      rw [lines, List.map_cons]
      simp only [line, List.take_length_add_append, List.take_left]

/-! ### Occurrences -/

/-- What lines amount to is what the groups do, and what the line between groups does each time. -/
theorem sum_map_separate (weight : Text → Nat) (between : Text) (groups : List (List Text)) :
    ((separate between groups).map weight).sum
      = (groups.length - 1) * weight between
        + (groups.map fun lines => (lines.map weight).sum).sum := by
  fun_induction separate between groups with
  | case1 => simp
  | case2 lines => simp
  | case3 lines next rest ih =>
      rw [List.map_append, List.sum_append, List.map_cons, List.sum_cons, ih]
      simp only [List.map_cons, List.sum_cons, List.length_cons, Nat.add_sub_cancel, Nat.succ_mul]
      omega

section Occurrences

variable {part : Text} (hne : part ≠ []) (solid : ∀ c ∈ part, blank c = false)

variable {decoration continuation : Text} (bare : count part decoration = 0)
  (indent : ∀ c ∈ continuation, blank c = true)

include hne solid bare indent in
/-- In the lines of a paragraph a part occurs as often as in the paragraph. -/
theorem sum_count_wrapParagraph (width : Int) (paragraph : Text) :
    ((wrapParagraph (head decoration continuation) width paragraph).map (count part)).sum
      = count part paragraph := by
  obtain ⟨pieces, broken, lines⟩ :=
    wrapParagraph_eq_pieces (head decoration continuation) width paragraph
  have line : ∀ piece,
      count part (trimEnd (head decoration continuation ++ piece)) = count part piece := by
    intro piece
    have blanks : ∀ c ∈ ' ' :: continuation, blank c = true :=
      List.forall_mem_cons.mpr ⟨blank_space, indent⟩
    have parted := count_append_blanks_append hne solid decoration piece (by simp) blanks
    rw [count_trimEnd hne solid]
    simpa [head, bare] using parted
  rw [lines, List.map_map, ← sum_count_of_words hne solid broken.words]
  exact congrArg _ (List.map_congr_left fun piece _ => line piece)

include hne solid bare indent in
/-- In the lines of free text a part occurs as often as in the text. -/
theorem sum_count_wrap (t : Text) (width : Int) :
    ((wrap t decoration continuation width).map (count part)).sum = count part t := by
  have between : count part (trimEnd decoration) = 0 := by rw [count_trimEnd hne solid, bare]
  rw [wrap, sum_map_separate, between, Nat.mul_zero, Nat.zero_add, List.map_map,
    ← sum_count_of_words hne solid (words_paragraphs t)]
  exact congrArg _ (List.map_congr_left fun paragraph _ =>
    sum_count_wrapParagraph hne solid bare indent width paragraph)

end Occurrences

end Classwright.Comment
