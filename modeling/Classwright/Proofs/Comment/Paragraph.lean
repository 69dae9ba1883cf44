import Classwright.Comment.Paragraph
import Classwright.Proofs.Text.Word

/-!
# Comment — paragraphs cut and reflowed

Free text is cut at blank runs, and a line break becomes a space: both only touch what stands
between words.

* `cutParagraphs_append`, `reflow_append`: a part of a line is cut nowhere and stays as it is.
* `words_cutParagraphs`, `words_reflow`: cutting and reflowing keep the words.
* `paragraphs_eq_nil_iff`: only a blank text has no paragraphs.
* `words_paragraphs`: the words of a text are those of its paragraphs, in order.
* `Solid`, `solid_of_mem_paragraphs`: a paragraph is one line that says something at either end.
-/

namespace Classwright.Comment

open Text

/-! ### Cutting -/

theorem cutParagraphs_nil : cutParagraphs [] = [[]] := by rw [cutParagraphs]

theorem cutParagraphs_of_ends {c : Char} {rest : Text} (h : endsParagraph c rest = true) :
    cutParagraphs (c :: rest) = [] :: cutParagraphs (rest.dropWhile blank) := by
  rw [cutParagraphs, if_pos h]

theorem cutParagraphs_of_not_ends {c : Char} {rest : Text} (h : endsParagraph c rest = false) :
    cutParagraphs (c :: rest) = consFirst c (cutParagraphs rest) := by
  rw [cutParagraphs, if_neg (by simp [h])]

theorem endsParagraph_of_ne {c : Char} (rest : Text) (h : c ≠ '\n') :
    endsParagraph c rest = false := by
  simp [endsParagraph, h]

theorem eq_newline_of_ends {c : Char} {rest : Text} (h : endsParagraph c rest = true) :
    c = '\n' := by
  simp only [endsParagraph, Bool.and_eq_true, beq_iff_eq] at h
  exact h.1

/-- No paragraph ends within a line. -/
theorem cutParagraphs_append {line : Text} (t : Text) (h : '\n' ∉ line) :
    cutParagraphs (line ++ t) = leadFirst line (cutParagraphs t) := by
  induction line with
  | nil => exact (leadFirst_nil (cutParagraphs_ne_nil t)).symm
  | cons c cs ih =>
      obtain ⟨hc, hcs⟩ := not_or.mp (mt List.mem_cons.mpr h)
      rw [List.cons_append, cutParagraphs_of_not_ends (endsParagraph_of_ne _ (Ne.symm hc)), ih hcs,
        consFirst_eq_leadFirst, leadFirst_leadFirst]
      rfl

/-- The pieces are made of the text. -/
theorem mem_of_mem_cutParagraphs {t piece : Text} {c : Char} (h : piece ∈ cutParagraphs t)
    (hc : c ∈ piece) : c ∈ t := by
  fun_induction cutParagraphs t generalizing piece with
  | case1 =>
      rw [List.mem_singleton.mp h] at hc
      cases hc
  | case2 d rest ends ih =>
      rcases List.mem_cons.mp h with rfl | h
      · cases hc
      · exact List.mem_cons_of_mem _ ((List.dropWhile_sublist _).subset (ih h hc))
  | case3 d rest ends ih =>
      obtain ⟨first, further, he⟩ := List.exists_cons_of_ne_nil (cutParagraphs_ne_nil rest)
      rw [he] at h ih
      rcases List.mem_cons.mp h with rfl | h
      · rcases List.mem_cons.mp hc with rfl | hc
        · exact List.mem_cons_self
        · exact List.mem_cons_of_mem _ (ih List.mem_cons_self hc)
      · exact List.mem_cons_of_mem _ (ih (List.mem_cons_of_mem _ h) hc)

/-- Every piece of a text says something when both ends of the text do; the first piece also when
what stands in front of it does. -/
theorem said_of_mem_cutParagraphs {begun t piece : Text} (ends : trimEnd t = t)
    (starts : isBlank begun = false ∨ (t ≠ [] ∧ trimStart t = t))
    (h : piece ∈ leadFirst begun (cutParagraphs t)) : isBlank piece = false := by
  fun_induction cutParagraphs t generalizing begun with
  | case1 =>
      rcases starts with said | ⟨said, -⟩
      · rw [List.mem_singleton.mp h, List.append_nil]
        exact said
      · exact absurd rfl said
  | case2 c rest cut ih =>
      have feed := eq_newline_of_ends cut
      rcases starts with said | ⟨-, starts⟩
      · have trimmed : trimEnd rest = rest := trimEnd_of_append (t := [c]) ends
        have further : rest ≠ [] := by
          rintro rfl
          simp [endsParagraph] at cut
        rw [leadFirst_cons, List.append_nil] at h
        rcases List.mem_cons.mp h with rfl | h
        · exact said
        · rw [← leadFirst_nil (cutParagraphs_ne_nil _)] at h
          refine ih (trimEnd_trimStart trimmed) (.inr ⟨?_, trimStart_trimStart rest⟩) h
          rw [Ne, ← trimStart, trimStart_eq_nil_iff, isBlank_of_trimEnd further trimmed]
          exact Bool.false_ne_true
      · rw [feed] at starts
        cases blank_of_trimStart starts
  | case3 c rest cut ih =>
      rw [leadFirst_consFirst] at h
      refine ih (trimEnd_of_append (t := [c]) ends) (.inl ?_) h
      rcases starts with said | ⟨-, starts⟩
      · rw [isBlank_append, said]
        rfl
      · simp [isBlank, blank_of_trimStart starts]

/-- Cutting keeps the words, also those of what stands in front. -/
theorem words_cutParagraphs (begun t : Text) :
    (leadFirst begun (cutParagraphs t)).flatMap words = words (begun ++ t) := by
  fun_induction cutParagraphs t generalizing begun with
  | case1 => simp
  | case2 c rest ends ih =>
      have further := ih []
      rw [leadFirst_nil (cutParagraphs_ne_nil _), List.nil_append, words_dropWhile rest fun _ => id]
        at further
      cases eq_newline_of_ends ends
      rw [leadFirst_cons, List.append_nil, List.flatMap_cons, further,
        words_append_cons begun rest blank_newline]
  | case3 c rest ends ih =>
      rw [leadFirst_consFirst, ih, List.append_assoc]
      rfl

/-! ### Reflowing -/

theorem reflow_nil : reflow [] = [] := by
  rw [reflow]
  rfl

theorem reflow_of_break {t rest : Text} (h : afterLineBreak? t = some rest) :
    reflow t = ' ' :: reflow rest := by
  rw [reflow]
  split
  next found => rw [h] at found; cases found; rfl
  next found => rw [h] at found; cases found

theorem reflow_cons {c : Char} {t : Text} (h : afterLineBreak? (c :: t) = none) :
    reflow (c :: t) = c :: reflow t := by
  rw [reflow]
  split
  next found => rw [h] at found; cases found
  next => rfl

theorem blank_of_inlineBlank {c : Char} (h : inlineBlank c = true) : blank c = true := by
  rw [inlineBlank, Bool.and_eq_true] at h
  exact h.1

/-- A line break that a text begins with is made of blanks. -/
theorem append_of_afterLineBreak? {t rest : Text} (h : afterLineBreak? t = some rest) :
    ∃ breaks, t = breaks ++ rest ∧ breaks ≠ [] ∧ ∀ c ∈ breaks, blank c = true := by
  unfold afterLineBreak? at h
  split at h
  next further he =>
    cases h
    refine ⟨t.takeWhile inlineBlank ++ '\n' :: further.takeWhile inlineBlank, ?_, by simp, ?_⟩
    · conv => lhs; rw [← List.takeWhile_append_dropWhile (p := inlineBlank) (l := t), he]
      simp
    · intro c hc
      rcases List.mem_append.mp hc with hc | hc
      · exact blank_of_inlineBlank (List.all_eq_true.mp List.all_takeWhile c hc)
      · rcases List.mem_cons.mp hc with rfl | hc
        · exact blank_newline
        · exact blank_of_inlineBlank (List.all_eq_true.mp List.all_takeWhile c hc)
  next => cases h

theorem afterLineBreak?_of_said {line : Text} (t : Text) (h : '\n' ∉ line)
    (said : isBlank line = false) : afterLineBreak? (line ++ t) = none := by
  -- Behind the blanks that the line begins with stands what it says, and that is no line feed.
  have kept : line.dropWhile inlineBlank ≠ [] := by
    rw [Ne, dropWhile_eq_nil_iff_all]
    intro silent
    have blanks : isBlank line = true := by
      rw [isBlank_eq_true_iff]
      exact fun c hc => blank_of_inlineBlank (List.all_eq_true.mp silent c hc)
    rw [said] at blanks
    cases blanks
  unfold afterLineBreak?
  rw [List.dropWhile_append, if_neg (by simpa using kept)]
  obtain ⟨c, cs, hc⟩ := List.exists_cons_of_ne_nil kept
  have inside : c ∈ line := (List.dropWhile_sublist _).subset (hc ▸ List.mem_cons_self)
  have other : c ≠ '\n' := fun he => h (he ▸ inside)
  rw [hc, List.cons_append]
  split
  next he => exact absurd (List.cons.inj he).1 other
  next => rfl

/-- A line that ends in no blank stays as it is. -/
theorem reflow_append {line : Text} (t : Text) (h : '\n' ∉ line) (ends : trimEnd line = line) :
    reflow (line ++ t) = line ++ reflow t := by
  induction line with
  | nil => rfl
  | cons c cs ih =>
      obtain ⟨-, hcs⟩ := not_or.mp (mt List.mem_cons.mpr h)
      have said := isBlank_of_trimEnd (List.cons_ne_nil c cs) ends
      have none := afterLineBreak?_of_said t h said
      rw [List.cons_append] at none
      rw [List.cons_append, reflow_cons none, ih hcs (trimEnd_of_append (t := [c]) ends)]
      rfl

/-- A line feed, with the blanks around it on its two lines, becomes a space. -/
theorem reflow_feed {before after t : Text} (hb : ∀ c ∈ before, inlineBlank c = true)
    (ha : ∀ c ∈ after, inlineBlank c = true) (first : ∀ c, t.head? = some c → blank c = false) :
    reflow (before ++ '\n' :: (after ++ t)) = ' ' :: reflow t := by
  refine reflow_of_break ?_
  have next : t.dropWhile inlineBlank = t := by
    cases t with
    | nil => rfl
    | cons c cs => simp [inlineBlank, first c rfl]
  have feed : inlineBlank '\n' = false := by decide
  simp [afterLineBreak?, feed, List.dropWhile_append_of_pos hb, List.dropWhile_append_of_pos ha,
    next]

/-- A line feed and the blanks of the next line become a space. -/
theorem reflow_newline {blanks t : Text} (h : ∀ c ∈ blanks, inlineBlank c = true)
    (first : ∀ c, t.head? = some c → blank c = false) :
    reflow ('\n' :: (blanks ++ t)) = ' ' :: reflow t :=
  reflow_feed (show ∀ c ∈ ([] : Text), inlineBlank c = true by simp) h first

/-- Nothing of a reflowed text is a line feed. -/
theorem newline_not_mem_reflow (t : Text) : '\n' ∉ reflow t := by
  fun_induction reflow t with
  | case1 t rest broken ih => simpa using ih
  | case2 => simp
  | case3 c rest none ih =>
      have other : c ≠ '\n' := by
        rintro rfl
        have feed : inlineBlank '\n' = false := by decide
        simp [afterLineBreak?, feed] at none
      simpa [Ne.symm other] using ih

/-- Reflowing brings in nothing but spaces. -/
theorem mem_of_mem_reflow {t : Text} {c : Char} (h : c ∈ reflow t) : c = ' ' ∨ c ∈ t := by
  fun_induction reflow t with
  | case1 t rest broken ih =>
      obtain ⟨breaks, rfl, -, -⟩ := append_of_afterLineBreak? broken
      rcases List.mem_cons.mp h with rfl | h
      · exact .inl rfl
      · exact (ih h).imp_right fun hc => List.mem_append_right _ hc
  | case2 => cases h
  | case3 d rest none ih =>
      rcases List.mem_cons.mp h with rfl | h
      · exact .inr List.mem_cons_self
      · exact (ih h).imp_right fun hc => List.mem_cons_of_mem _ hc

theorem isBlank_reflow (t : Text) : isBlank (reflow t) = isBlank t := by
  fun_induction reflow t with
  | case1 t rest broken ih =>
      obtain ⟨breaks, rfl, -, blanks⟩ := append_of_afterLineBreak? broken
      rw [isBlank_append, isBlank_eq_true_iff.mpr blanks, Bool.true_and, ← ih]
      rfl
  | case2 => rfl
  | case3 c rest none ih =>
      rw [isBlank, isBlank, List.all_cons, List.all_cons, ← isBlank, ih]
      rfl

/-- Reflowing keeps the words, also those of what stands in front. -/
theorem words_reflow (begun t : Text) : words (begun ++ reflow t) = words (begun ++ t) := by
  fun_induction reflow t generalizing begun with
  | case1 t rest broken ih =>
      obtain ⟨breaks, rfl, hne, blanks⟩ := append_of_afterLineBreak? broken
      have further := ih []
      rw [List.nil_append, List.nil_append] at further
      rw [words_append_cons begun _ blank_space, further,
        words_append_blanks_append begun rest hne blanks]
  | case2 => rfl
  | case3 c rest _ ih =>
      have further := ih (begun ++ [c])
      rwa [List.append_assoc, List.append_assoc] at further

/-! ### Paragraphs -/

theorem unifyReturns_of_not_mem {t : Text} (h : '\r' ∉ t) : unifyReturns t = t := by
  fun_induction unifyReturns t with
  | case1 => rfl
  | case2 cs ih => exact absurd List.mem_cons_self h
  | case3 c cs _ ih =>
      obtain ⟨hc, hcs⟩ := not_or.mp (mt List.mem_cons.mpr h)
      rw [if_neg (Ne.symm hc), ih hcs]

/-- Line feeds for returns keep the words, also those of what stands in front. -/
theorem words_unifyReturns (begun t : Text) :
    words (begun ++ unifyReturns t) = words (begun ++ t) := by
  fun_induction unifyReturns t generalizing begun with
  | case1 => rfl
  | case2 cs ih =>
      have further := ih []
      rw [List.nil_append, List.nil_append] at further
      rw [words_append_cons begun _ blank_newline, further,
        words_append_cons begun _ (by decide), words_cons cs blank_newline]
  | case3 c cs _ ih =>
      by_cases hc : c = '\r'
      · have further := ih []
        rw [List.nil_append, List.nil_append] at further
        rw [if_pos hc, hc, words_append_cons begun _ blank_newline, further,
          words_append_cons begun _ (by decide)]
      · have further := ih (begun ++ [c])
        rw [List.append_assoc, List.append_assoc] at further
        rw [if_neg hc]
        exact further

theorem isBlank_unifyReturns (t : Text) : isBlank (unifyReturns t) = isBlank t := by
  fun_induction unifyReturns t with
  | case1 => rfl
  | case2 cs ih => exact ih
  | case3 c cs _ ih =>
      by_cases hc : c = '\r'
      · rw [if_pos hc, hc]
        exact ih
      · rw [if_neg hc, isBlank, isBlank, List.all_cons, List.all_cons]
        exact congrArg _ ih

/-- Only a blank text has no paragraphs. -/
theorem paragraphs_eq_nil_iff {t : Text} : paragraphs t = [] ↔ isBlank t = true := by
  rw [← isBlank_unifyReturns, ← trim_eq_nil_iff]
  unfold paragraphs
  dsimp only
  split
  next empty => simp [empty]
  next said => simp [said, cutParagraphs_ne_nil]

/-- The words of a text are those of its paragraphs, in order. -/
theorem words_paragraphs (t : Text) : (paragraphs t).flatMap words = words t := by
  have body : words (trim (unifyReturns t)) = words t :=
    (words_trim _).trans (words_unifyReturns [] t)
  unfold paragraphs
  dsimp only
  split
  next h =>
    rw [h, words_nil] at body
    rw [← body]
    rfl
  next =>
    have cut := words_cutParagraphs [] (trim (unifyReturns t))
    rw [leadFirst_nil (cutParagraphs_ne_nil _), List.nil_append, body] at cut
    have kept : (fun piece => words (trim (reflow piece))) = words :=
      funext fun piece => (words_trim _).trans (words_reflow [] piece)
    rw [List.flatMap_map, kept, cut]

/-- A text on one line that begins and ends with what it says. -/
structure Solid (t : Text) : Prop where
  said : t ≠ []
  first : trimStart t = t
  last : trimEnd t = t
  newline_not_mem : '\n' ∉ t
  return_not_mem : '\r' ∉ t

/-- A paragraph is one line that says something at either end. -/
theorem solid_of_mem_paragraphs {t paragraph : Text} (h : paragraph ∈ paragraphs t) :
    Solid paragraph := by
  unfold paragraphs at h
  dsimp only at h
  split at h
  next => cases h
  next nonempty =>
    obtain ⟨piece, hp, rfl⟩ := List.mem_map.mp h
    have ends : trimEnd (trim (unifyReturns t)) = trim (unifyReturns t) := trimEnd_trimEnd _
    have starts : trimStart (trim (unifyReturns t)) = trim (unifyReturns t) :=
      trimStart_of_head? fun _ => blank_of_head?_trim
    have saying : isBlank piece = false := by
      rw [← leadFirst_nil (cutParagraphs_ne_nil _)] at hp
      exact said_of_mem_cutParagraphs ends (.inr ⟨nonempty, starts⟩) hp
    have inside : ∀ {c : Char}, c ∈ trim (reflow piece) → c ∈ reflow piece := fun hc =>
      (List.dropWhile_sublist _).subset (trimEnd_subset _ hc)
    constructor
    case said =>
      rw [Ne, trim_eq_nil_iff, isBlank_reflow, saying]
      exact Bool.false_ne_true
    case first => exact trimStart_of_head? fun _ => blank_of_head?_trim
    case last => exact trimEnd_trimEnd _
    case newline_not_mem => exact fun hc => newline_not_mem_reflow piece (inside hc)
    case return_not_mem =>
      intro hc
      rcases mem_of_mem_reflow (inside hc) with he | hc
      · cases he
      · have body := mem_of_mem_cutParagraphs hp hc
        exact return_not_mem_unifyReturns t
          ((List.dropWhile_sublist _).subset (trimEnd_subset _ body))

end Classwright.Comment
