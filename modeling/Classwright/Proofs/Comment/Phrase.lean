import Classwright.Proofs.Comment.Flow

/-!
# Comment — paragraphs by runs of white space

Cutting a text and reflowing the pieces looks for line feeds, each time with some of the blanks
around it.  What comes of it can be said of the runs of blanks as wholes: between two words stands
one run, and all that counts is how many line feeds it holds.

* `Word`, `Gap`, `Phrase`: words, and runs of blanks between them.
* `Phrase.text`, `exists_phrase`: every text without blanks at its ends is a phrase.
* `Phrase.paragraphs`: what a reader makes of a phrase, run by run.
* `cutParagraphs_phrase`: cutting and reflowing make the same of it.
* `paragraphs_follow_runs`: the paragraphs of free text are those of its phrase.
-/

namespace Classwright.Comment

open Text

/-! ### Words and gaps -/

/-- A word: characters that are not blank, at least one. -/
structure Word where
  text : Text
  text_ne_nil : text ≠ []
  solid : ∀ c ∈ text, blank c = false

/-- A gap: blanks, at least one. -/
structure Gap where
  text : Text
  text_ne_nil : text ≠ []
  blanks : ∀ c ∈ text, blank c = true

/-- The line feeds of a gap. -/
def Gap.feeds (gap : Gap) : Nat := List.count '\n' gap.text

/-- Words with a gap from each to the next.  A gap stands between two words, so it is all of the
white space there. -/
inductive Phrase where
  | last (word : Word)
  | next (word : Word) (gap : Gap) (rest : Phrase)

namespace Phrase

/-- The phrase as it is written. -/
def text : Phrase → Text
  | last word => word.text
  | next word gap rest => word.text ++ (gap.text ++ rest.text)

/-- The paragraphs of a phrase.  A gap without line feeds stays, one line feed makes it a space,
and with more of them it ends the paragraph and is gone. -/
def paragraphs : Phrase → List Text
  | last word => [word.text]
  | next word gap rest =>
      match gap.feeds with
      | 0 => leadFirst (word.text ++ gap.text) rest.paragraphs
      | 1 => leadFirst (word.text ++ " ") rest.paragraphs
      | _ + 2 => word.text :: rest.paragraphs

end Phrase

/-! ### A word -/

namespace Word

variable (word : Word)

theorem not_mem_of_blank {c : Char} (h : blank c = true) : c ∉ word.text := fun hc => by
  rw [word.solid c hc] at h
  cases h

theorem trimEnd_text : trimEnd word.text = word.text :=
  trimEnd_of_getLast? fun c hc => word.solid c (List.mem_of_getLast? hc)

theorem trimStart_append (t : Text) : trimStart (word.text ++ t) = word.text ++ t := by
  obtain ⟨c, cs, hc⟩ := List.exists_cons_of_ne_nil word.text_ne_nil
  have first := word.solid c (hc ▸ List.mem_cons_self)
  refine trimStart_of_head? fun d hd => ?_
  rw [hc] at hd
  cases hd
  exact first

theorem content : Content word.text where
  last := word.trimEnd_text
  newline_not_mem := word.not_mem_of_blank blank_newline
  return_not_mem := word.not_mem_of_blank (by decide)

theorem reflow_append (t : Text) : reflow (word.text ++ t) = word.text ++ reflow t :=
  Comment.reflow_append t word.content.newline_not_mem word.trimEnd_text

end Word

/-! ### A gap -/

theorem inlineBlank_of_not_mem {blanks : Text} (h : ∀ c ∈ blanks, blank c = true)
    (none : '\n' ∉ blanks) : ∀ c ∈ blanks, inlineBlank c = true := by
  intro c hc
  have other : c ≠ '\n' := fun he => none (he ▸ hc)
  simp [inlineBlank, h c hc, other]

theorem Gap.newline_not_mem_iff {gap : Gap} : '\n' ∉ gap.text ↔ gap.feeds = 0 :=
  List.count_eq_zero.symm

/-- A gap with line feeds is cut at the first of them; what follows has one less. -/
theorem Gap.exists_cut {gap : Gap} (h : gap.feeds ≠ 0) :
    ∃ before after, gap.text = before ++ '\n' :: after ∧ '\n' ∉ before ∧
      (∀ c ∈ before, inlineBlank c = true) ∧ (∀ c ∈ after, blank c = true) ∧
      gap.feeds = List.count '\n' after + 1 := by
  have held : '\n' ∈ gap.text := Decidable.not_not.mp (mt newline_not_mem_iff.mp h)
  obtain ⟨before, after, whole, none⟩ := List.eq_append_cons_of_mem held
  refine ⟨before, after, whole, none,
    inlineBlank_of_not_mem (fun c hc => gap.blanks c (by simp [whole, hc])) none,
    fun c hc => gap.blanks c (by simp [whole, hc]), ?_⟩
  rw [feeds, whole, List.count_append, List.count_eq_zero.mpr none, List.count_cons_self,
    Nat.zero_add]

/-! ### Every text is a phrase -/

theorem Phrase.exists_cons_text (phrase : Phrase) :
    ∃ c t, phrase.text = c :: t ∧ blank c = false := by
  have begins : ∀ (word : Word) (t : Text), ∃ c u, word.text ++ t = c :: u ∧ blank c = false := by
    intro word t
    obtain ⟨c, cs, hc⟩ := List.exists_cons_of_ne_nil word.text_ne_nil
    exact ⟨c, cs ++ t, by rw [hc, List.cons_append], word.solid c (hc ▸ List.mem_cons_self)⟩
  cases phrase with
  | last word => simpa [Phrase.text] using begins word []
  | next word gap rest => exact begins word (gap.text ++ rest.text)

/-- A text that begins and ends with what it says is a phrase. -/
theorem exists_phrase (t : Text) (said : t ≠ []) (starts : trimStart t = t)
    (ends : trimEnd t = t) : ∃ phrase : Phrase, phrase.text = t := by
  have whole : t.takeWhile (!blank ·) ++ t.dropWhile (!blank ·) = t :=
    List.takeWhile_append_dropWhile
  have opening : t.takeWhile (!blank ·) ≠ [] := by
    obtain ⟨c, cs, rfl⟩ := List.exists_cons_of_ne_nil said
    simp [blank_of_trimStart starts]
  let word : Word := {
    text := t.takeWhile (!blank ·)
    text_ne_nil := opening
    solid := fun c hc => by simpa using List.all_eq_true.mp List.all_takeWhile c hc }
  by_cases final : t.dropWhile (!blank ·) = []
  · rw [final, List.append_nil] at whole
    exact ⟨.last word, whole⟩
  -- Behind the word stands a gap, and behind the gap the text goes on, since it ends in no blank.
  have rests : trimEnd (t.dropWhile (!blank ·)) = t.dropWhile (!blank ·) := by
    rw [← whole] at ends
    exact trimEnd_of_append ends
  have goes : trimStart (t.dropWhile (!blank ·)) ≠ [] :=
    trimStart_ne_nil (isBlank_of_trimEnd final rests)
  have spaced : (t.dropWhile (!blank ·)).takeWhile blank ≠ [] := by
    obtain ⟨c, cs, hc⟩ := List.exists_cons_of_ne_nil final
    have stopped : (!blank c) = false := blank_of_head?_dropWhile (congrArg List.head? hc)
    rw [hc, List.takeWhile_cons_of_pos (by simpa using stopped)]
    exact List.cons_ne_nil _ _
  let gap : Gap := {
    text := (t.dropWhile (!blank ·)).takeWhile blank
    text_ne_nil := spaced
    blanks := fun c hc => List.all_eq_true.mp List.all_takeWhile c hc }
  obtain ⟨rest, hr⟩ := exists_phrase (trimStart (t.dropWhile (!blank ·))) goes
    (trimStart_trimStart _) (trimEnd_trimStart rests)
  refine ⟨.next word gap rest, ?_⟩
  rw [Phrase.text, hr, trimStart]
  exact (congrArg _ List.takeWhile_append_dropWhile).trans whole
termination_by t.length
decreasing_by
  have shorter := List.length_pos_iff.mpr opening
  have trimmed := length_trimStart_le (t.dropWhile (!blank ·))
  have lengths := congrArg List.length whole
  rw [List.length_append] at lengths
  omega

/-! ### Reading a gap -/

section Reading

variable (word : Word) {c : Char} (t : Text) (first : blank c = false)

include first in
theorem isBlank_reflow_cons : isBlank (reflow (c :: t)) = false := by
  rw [isBlank_reflow]
  simp [isBlank, first]

include first in
/-- What a word begins and a further word goes on with has no blanks to trim in front of that. -/
theorem trim_word_append (between : Text) :
    trim (word.text ++ (between ++ reflow (c :: t)))
      = word.text ++ between ++ trim (reflow (c :: t)) := by
  rw [trim, word.trimStart_append, ← List.append_assoc,
    trimEnd_append_of_said _ (isBlank_reflow_cons t first), trim, trimStart_reflow t first]

include first in
/-- White space within a line stays as it is. -/
theorem trim_reflow_inline {gap : Text} (h : '\n' ∉ gap) :
    trim (reflow (word.text ++ (gap ++ c :: t)))
      = word.text ++ gap ++ trim (reflow (c :: t)) := by
  have other : '\n' ≠ c := by
    rintro rfl
    cases first
  have ends : ∀ begun : Text, trimEnd (begun ++ [c]) = begun ++ [c] := fun begun =>
    trimEnd_of_getLast? fun d hd => by
      rw [List.getLast?_concat] at hd
      cases hd
      exact first
  -- The line up to the first character of the next word is reflowed as it stands, and so is
  -- that character by itself.
  have line : reflow (gap ++ c :: t) = gap ++ reflow (c :: t) := by
    have long : reflow (gap ++ [c] ++ t) = gap ++ [c] ++ reflow t :=
      reflow_append t (by simp [h, other]) (ends gap)
    have short : reflow (c :: t) = c :: reflow t :=
      reflow_append t (show '\n' ∉ [c] by simp [other]) (ends [])
    rw [List.append_assoc, List.append_assoc] at long
    rw [short]
    exact long
  rw [word.reflow_append, line, trim_word_append word t first]

include first in
/-- White space with one line feed becomes a space. -/
theorem trim_reflow_feed {before after : Text} (hb : ∀ d ∈ before, inlineBlank d = true)
    (ha : ∀ d ∈ after, inlineBlank d = true) :
    trim (reflow (word.text ++ (before ++ '\n' :: (after ++ c :: t))))
      = word.text ++ " " ++ trim (reflow (c :: t)) := by
  rw [word.reflow_append, reflow_feed hb ha (by simpa using first)]
  exact trim_word_append word t first " "

end Reading

/-- White space at the end of a paragraph is gone. -/
theorem trim_reflow_last (word : Word) {blanks : Text} (h : ∀ d ∈ blanks, blank d = true) :
    trim (reflow (word.text ++ blanks)) = word.text := by
  have silent : isBlank (reflow blanks) = true := by
    rw [isBlank_reflow, isBlank_eq_true_iff]
    exact h
  rw [word.reflow_append, trim, word.trimStart_append,
    trimEnd_append_blanks (isBlank_eq_true_iff.mp silent), word.trimEnd_text]

/-! ### Reading a phrase -/

theorem dropWhile_blanks_append {blanks t : Text} {c : Char} (h : ∀ d ∈ blanks, blank d = true)
    (first : blank c = false) : (blanks ++ c :: t).dropWhile blank = c :: t := by
  rw [List.dropWhile_append_of_pos h, List.dropWhile_cons_of_neg (by simp [first])]

theorem takeWhile_blanks_append {blanks t : Text} {c : Char} (h : ∀ d ∈ blanks, blank d = true)
    (first : blank c = false) : (blanks ++ c :: t).takeWhile blank = blanks := by
  rw [List.takeWhile_append_of_pos h, List.takeWhile_cons_of_neg (by simp [first]),
    List.append_nil]

/-- A gap with one line feed does not end the paragraph. -/
theorem cutParagraphs_of_feed {after t piece : Text} {c : Char} {pieces : List Text}
    (line : Text) (inside : '\n' ∉ line) (blanks : ∀ d ∈ after, blank d = true)
    (further : '\n' ∉ after) (first : blank c = false)
    (rest : cutParagraphs (c :: t) = (c :: piece) :: pieces) :
    cutParagraphs (line ++ '\n' :: (after ++ c :: t))
      = (line ++ '\n' :: (after ++ c :: piece)) :: pieces := by
  have goes : '\n' ∉ (after ++ c :: t).takeWhile blank := by
    rwa [takeWhile_blanks_append blanks first]
  rw [cutParagraphs_of_next inside goes, takeWhile_blanks_append blanks first, trimStart,
    dropWhile_blanks_append blanks first, rest, leadFirst_cons, List.append_assoc, List.cons_append]

/-- A gap with more line feeds does. -/
theorem cutParagraphs_of_feeds {after : Text} {c : Char} (line t : Text) (inside : '\n' ∉ line)
    (blanks : ∀ d ∈ after, blank d = true) (further : '\n' ∈ after) (first : blank c = false) :
    cutParagraphs (line ++ '\n' :: (after ++ c :: t)) = line :: cutParagraphs (c :: t) := by
  have ends : '\n' ∈ (after ++ c :: t).takeWhile blank := by
    rwa [takeWhile_blanks_append blanks first]
  rw [cutParagraphs_of_end inside ends, trimStart, dropWhile_blanks_append blanks first]

/-- Cutting a phrase and reflowing the pieces gives its paragraphs. -/
theorem cutParagraphs_phrase (phrase : Phrase) :
    (cutParagraphs phrase.text).map (fun p => trim (reflow p)) = phrase.paragraphs := by
  induction phrase with
  | last word =>
      have cut := cutParagraphs_append [] word.content.newline_not_mem
      have read := trim_reflow_last word (show ∀ d ∈ ([] : Text), blank d = true by simp)
      rw [List.append_nil, cutParagraphs_nil, leadFirst_cons, List.append_nil] at cut
      rw [List.append_nil] at read
      rw [Phrase.text, cut, List.map_singleton, read, Phrase.paragraphs]
  | next word gap rest ih =>
      -- The rest begins with a word, so the first of its pieces does.
      obtain ⟨c, t, begins, first⟩ := rest.exists_cons_text
      obtain ⟨piece, pieces, rests⟩ := cutParagraphs_cons t first
      have solid := word.content.newline_not_mem
      rw [Phrase.text, Phrase.paragraphs, ← ih, begins, rests]
      split
      next none =>
        have inline := Gap.newline_not_mem_iff.mpr none
        rw [← List.append_assoc, cutParagraphs_append _ (by simp [solid, inline]), rests,
          leadFirst_cons, List.map_cons, List.append_assoc,
          trim_reflow_inline word piece first inline]
        rfl
      next one =>
        obtain ⟨before, after, whole, inline, hb, ha, feeds⟩ := gap.exists_cut (by omega)
        have further : '\n' ∉ after := List.count_eq_zero.mp (by omega)
        have cut := cutParagraphs_of_feed (word.text ++ before) (by simp [solid, inline]) ha
          further first rests
        have read := trim_reflow_feed word piece first hb (inlineBlank_of_not_mem ha further)
        rw [List.append_assoc, List.append_assoc] at cut
        rw [whole, List.append_assoc, List.cons_append, cut, List.map_cons, read]
        rfl
      next more =>
        obtain ⟨before, after, whole, inline, hb, ha, feeds⟩ := gap.exists_cut (by omega)
        have further : '\n' ∈ after := List.count_pos_iff.mp (by omega)
        have cut := cutParagraphs_of_feeds (word.text ++ before) t (by simp [solid, inline]) ha
          further first
        have read := trim_reflow_last word fun c hc => blank_of_inlineBlank (hb c hc)
        rw [List.append_assoc] at cut
        rw [whole, List.append_assoc, List.cons_append, cut, rests, List.map_cons, read]

/-! ### Paragraphs -/

theorem paragraphs_of_phrase {t : Text} {phrase : Phrase}
    (h : phrase.text = trim (unifyReturns t)) : paragraphs t = phrase.paragraphs := by
  obtain ⟨c, u, begins, -⟩ := phrase.exists_cons_text
  have said : phrase.text ≠ [] := by
    rw [begins]
    exact List.cons_ne_nil c u
  unfold paragraphs
  rw [← h]
  exact (if_neg said).trans (cutParagraphs_phrase phrase)

/-- **Paragraphs follow the runs of white space.**  With every return read as a line feed, a text
that is not blank is a phrase between blanks, and its paragraphs are those of the phrase; a blank
text has none.  Every paragraph is one line that begins and ends with what it says. -/
theorem paragraphs_follow_runs (t : Text) :
    (paragraphs t = [] ↔ isBlank t = true) ∧
      (isBlank t = false → ∃ phrase : Phrase, phrase.text = trim (unifyReturns t)) ∧
      (∀ phrase : Phrase, phrase.text = trim (unifyReturns t) →
        paragraphs t = phrase.paragraphs) ∧
      ∀ paragraph ∈ paragraphs t, Solid paragraph := by
  refine ⟨paragraphs_eq_nil_iff, fun said => ?_, fun phrase => paragraphs_of_phrase,
    fun paragraph => solid_of_mem_paragraphs⟩
  have nonempty : trim (unifyReturns t) ≠ [] := by
    rw [Ne, trim_eq_nil_iff, isBlank_unifyReturns, said]
    exact Bool.false_ne_true
  exact exists_phrase _ nonempty (trimStart_of_head? fun _ => blank_of_head?_trim)
    (trimEnd_trimEnd _)

theorem solid_of_any {t : Text} (h : t.any blank = false) : ∀ c ∈ t, blank c = false :=
  fun c hc => Bool.eq_false_iff.mpr (List.any_eq_false.mp h c hc)

/-- Three words, of which a return with its line feed parts the first two and an empty line the
last two. -/
def threeWords : Phrase :=
  .next ⟨"one", by decide, solid_of_any rfl⟩ ⟨"\n ", by decide, isBlank_eq_true_iff.mp rfl⟩
    (.next ⟨"two", by decide, solid_of_any rfl⟩ ⟨"\t \n\n", by decide, isBlank_eq_true_iff.mp rfl⟩
      (.last ⟨"three", by decide, solid_of_any rfl⟩))

/-- The line break becomes a space, and the empty line goes with all white space around it. -/
theorem three_words_follow_runs :
    isBlank "one\r\n two\t \r\rthree " = false ∧
      threeWords.text = trim (unifyReturns "one\r\n two\t \r\rthree ") ∧
      paragraphs "one\r\n two\t \r\rthree " = (["one two", "three"] : List Text) := by
  obtain ⟨-, -, read, -⟩ := paragraphs_follow_runs "one\r\n two\t \r\rthree "
  have written : threeWords.text = trim (unifyReturns "one\r\n two\t \r\rthree ") := by
    decide +kernel
  exact ⟨by decide, written, (read threeWords written).trans (by decide +kernel)⟩

end Classwright.Comment
