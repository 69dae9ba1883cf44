import Classwright.Proofs.Comment.Line
import Mathlib.Algebra.Order.BigOperators.Group.List
import Mathlib.Algebra.Order.Ring.Nat

/-!
# Comment — no word is lost

Laying out a text takes away blanks, and only from where they part words; it puts nothing between
the characters of a word and changes no order.  That holds at every width, also at one that is
narrower than the head, zero or negative: a break is always a space behind the head, so each line
takes at least one character off the paragraph.

* `length_wrapParagraph_le`: a paragraph has no more lines than characters.
* `sum_length_paragraphs_le`: nor do paragraphs get longer than the text that they were cut from.
* `words_wrapParagraph`: the words behind the heads of the lines are those of the paragraph.
* `wrap_keeps_words`: so are those of free text, and no line ends in a blank.
-/

namespace Classwright.Comment

open Text

/-! ### How much is laid out -/

/-- A paragraph has no more lines than characters. -/
theorem length_wrapParagraph_le (head : Text) (width : Int) (paragraph : Text) :
    (wrapParagraph head width paragraph).length ≤ paragraph.length := by
  fun_induction wrapParagraph head width paragraph with
  | case1 => exact Nat.le_refl 0
  | case2 paragraph line said => exact List.length_pos_iff.mpr said
  | case3 paragraph line said => exact List.length_pos_iff.mpr said
  | case4 paragraph line _ _ i found ih =>
      obtain ⟨begun, rest, rfl, rfl⟩ := append_of_findLastBreak found
      have left : line.drop (head.length + begun.length + 1) = rest := by
        simp only [line, Nat.add_assoc, List.drop_length_add_append]
        rfl
      rw [left] at ih
      have shorter := ih.trans (length_dropWhile_le _ rest)
      rw [left, List.length_cons, List.length_append, List.length_cons]
      omega

theorem length_unifyReturns_le (t : Text) : (unifyReturns t).length ≤ t.length := by
  fun_induction unifyReturns t with
  | case1 => exact Nat.le_refl 0
  | case2 cs ih =>
      simp only [List.length_cons]
      omega
  | case3 c cs _ ih =>
      simp only [List.length_cons]
      omega

theorem length_trim_le (t : Text) : (trim t).length ≤ t.length :=
  (length_trimEnd_le _).trans (length_trimStart_le t)

theorem length_reflow_le (t : Text) : (reflow t).length ≤ t.length := by
  fun_induction reflow t with
  | case1 t rest broken ih =>
      have shorter := length_afterLineBreak?_lt broken
      rw [List.length_cons]
      omega
  | case2 => exact Nat.le_refl 0
  | case3 c rest _ ih => exact Nat.succ_le_succ ih

/-- Between two pieces at least one character has gone. -/
theorem sum_length_cutParagraphs_le (t : Text) :
    ((cutParagraphs t).map fun piece => piece.length + 1).sum ≤ t.length + 1 := by
  fun_induction cutParagraphs t with
  | case1 => exact Nat.le_refl 1
  | case2 c rest ends ih =>
      have shorter := length_dropWhile_le blank rest
      simp only [List.map_cons, List.sum_cons, List.length_cons, List.length_nil]
      omega
  | case3 c rest ends ih =>
      obtain ⟨piece, pieces, he⟩ := List.exists_cons_of_ne_nil (cutParagraphs_ne_nil rest)
      rw [he] at ih ⊢
      simp only [consFirst_cons, List.map_cons, List.sum_cons, List.length_cons] at ih ⊢
      omega

/-- Paragraphs, with one character for the end of each, are no longer than their text with its
end. -/
theorem sum_length_paragraphs_le (t : Text) :
    ((paragraphs t).map fun paragraph => paragraph.length + 1).sum ≤ t.length + 1 := by
  have body : (trim (unifyReturns t)).length ≤ t.length :=
    (length_trim_le _).trans (length_unifyReturns_le t)
  unfold paragraphs
  dsimp only
  split
  · exact Nat.zero_le _
  · rw [List.map_map]
    calc ((cutParagraphs (trim (unifyReturns t))).map
          ((fun paragraph => paragraph.length + 1) ∘ fun piece => trim (reflow piece))).sum
        ≤ ((cutParagraphs (trim (unifyReturns t))).map fun piece => piece.length + 1).sum :=
          List.sum_le_sum fun piece _ =>
            Nat.succ_le_succ ((length_trim_le _).trans (length_reflow_le piece))
      _ ≤ (trim (unifyReturns t)).length + 1 := sum_length_cutParagraphs_le _
      _ ≤ t.length + 1 := Nat.succ_le_succ body

theorem length_separate (between : Text) (groups : List (List Text)) :
    (separate between groups).length = (groups.length - 1) + (groups.map List.length).sum := by
  simpa using sum_map_separate (fun _ => 1) between groups

/-- Free text has no more lines than characters. -/
theorem length_wrap_le (t decoration continuation : Text) (width : Int) :
    (wrap t decoration continuation width).length ≤ t.length := by
  have cut := sum_length_paragraphs_le t
  unfold wrap
  generalize paragraphs t = ps at cut ⊢
  cases ps with
  | nil => exact Nat.zero_le _
  | cons p ps =>
      have laid : ((p :: ps).map
          fun p => (wrapParagraph (head decoration continuation) width p).length).sum
            ≤ ((p :: ps).map List.length).sum :=
        List.sum_le_sum fun p _ => length_wrapParagraph_le _ width p
      rw [List.sum_map_add, List.map_const', List.sum_replicate_nat, Nat.mul_one] at cut
      rw [length_separate, List.length_map, List.map_map]
      refine (Nat.add_le_add_left laid _).trans ?_
      rw [List.length_cons] at cut ⊢
      omega

/-! ### The words -/

/-- What reads the words of a piece off its line reads those of the paragraph off its lines. -/
theorem flatMap_wrapParagraph {f : Text → List Text} {head : Text}
    (piece : ∀ piece, f (trimEnd (head ++ piece)) = words piece) (width : Int) (paragraph : Text) :
    (wrapParagraph head width paragraph).flatMap f = words paragraph := by
  obtain ⟨pieces, broken, lines⟩ := wrapParagraph_eq_pieces head width paragraph
  rw [lines, List.flatMap_map, ← broken.words]
  exact List.flatMap_congr fun p _ => piece p

/-- The words behind the heads of the lines are those of the paragraph. -/
theorem words_wrapParagraph (head : Text) (width : Int) (paragraph : Text) :
    ((wrapParagraph head width paragraph).flatMap fun line => words (behind head line))
      = words paragraph := by
  refine flatMap_wrapParagraph (fun piece => ?_) width paragraph
  rw [behind_trimEnd, words_trimEnd]

/-- What lines hold is what the groups hold, when the line between groups holds nothing. -/
theorem flatMap_separate {α : Type} {f : Text → List α} {between : Text} (h : f between = [])
    (groups : List (List Text)) :
    (separate between groups).flatMap f = groups.flatMap fun lines => lines.flatMap f := by
  fun_induction separate between groups with
  | case1 => rfl
  | case2 lines => simp
  | case3 lines next rest ih =>
      rw [List.flatMap_append, List.flatMap_cons, h, List.nil_append, ih]
      rfl

/-- What reads the words of a piece off its line, and nothing off a bare line, reads the words of
free text off its lines. -/
theorem flatMap_wrap {f : Text → List Text} {decoration continuation : Text}
    (bare : f (trimEnd decoration) = [])
    (piece : ∀ piece, f (trimEnd (head decoration continuation ++ piece)) = words piece)
    (t : Text) (width : Int) : (wrap t decoration continuation width).flatMap f = words t := by
  refine (flatMap_separate bare _).trans ?_
  rw [List.flatMap_map, ← words_paragraphs t]
  exact List.flatMap_congr fun p _ => flatMap_wrapParagraph piece width p

theorem trimEnd_of_mem_wrapParagraph {head paragraph line : Text} {width : Int}
    (h : line ∈ wrapParagraph head width paragraph) : trimEnd line = line := by
  obtain ⟨pieces, -, lines⟩ := wrapParagraph_eq_pieces head width paragraph
  rw [lines] at h
  obtain ⟨piece, -, rfl⟩ := List.mem_map.mp h
  exact trimEnd_trimEnd _

/-- **Wrapping keeps every word.**  Whatever the width, the text is laid out on no more lines than
it has characters.  What the lines say behind their heads has the words of the text, none lost,
split or out of order, and no line ends in a blank. -/
theorem wrap_keeps_words (t decoration continuation : Text) (width : Int) :
    let head := Comment.head decoration continuation
    let lines := wrap t decoration continuation width
    lines.length ≤ t.length ∧
      (lines.flatMap fun line => words (behind head line)) = words t ∧
      ∀ line ∈ lines, trimEnd line = line := by
  intro head lines
  refine ⟨length_wrap_le t decoration continuation width, ?_, fun line hl => ?_⟩
  · have bare : words (behind head (trimEnd decoration)) = [] := by
      rw [behind_bare, words_nil]
    refine (flatMap_separate (f := fun line => words (behind head line)) bare _).trans ?_
    rw [List.flatMap_map, ← words_paragraphs t]
    exact List.flatMap_congr fun p _ => words_wrapParagraph head width p
  · rcases mem_separate hl with rfl | ⟨group, hg, hl⟩
    · exact trimEnd_trimEnd _
    · obtain ⟨paragraph, -, rfl⟩ := List.mem_map.mp hg
      exact trimEnd_of_mem_wrapParagraph hl

/-- On a width of none, every word has a line of its own. -/
example : wrap "a bb\n\nc" "//" [] (-7) = ["// a", "// bb", "//", "// c"] := by decide +kernel

end Classwright.Comment
