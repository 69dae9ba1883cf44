import Classwright.Proofs.Text.Trim

/-!
# Comment — a paragraph as words and gaps

A paragraph on one line is a row of words with runs of spaces between them.  A word is whatever
stands between spaces; other blanks are part of it.

* `Token`: a word with the number of spaces in front of it.
* `tokens`: the tokens of a text.
* `spell`, `content`: tokens as text, with the first gap and without it.
* `content_tokens`: a text that neither begins nor ends in a space is the content of its tokens.
* `gap_pos_of_mem_tail`: behind the first token every gap is there.
-/

namespace Classwright.Comment

open Text

/-- Is the character a space? -/
def isSpace (c : Char) : Bool := c == ' '

/-- A word of a paragraph, with the number of spaces in front of it. -/
structure Token where
  gap : Nat
  word : Text
  word_ne_nil : word ≠ []
  space_not_mem : ' ' ∉ word

namespace Token

/-- The token as it stands in a text. -/
def text (token : Token) : Text := List.replicate token.gap ' ' ++ token.word

end Token

/-- The tokens of a text: its maximal runs of characters other than spaces, each with the run of
spaces in front of it. -/
def tokens (t : Text) : List Token :=
  match rest : t.dropWhile isSpace with
  | [] => []
  | c :: cs =>
      { gap := (t.takeWhile isSpace).length
        word := c :: cs.takeWhile (!isSpace ·)
        word_ne_nil := List.cons_ne_nil _ _
        space_not_mem := by
          have first : isSpace c = false := by
            have := List.head?_dropWhile_not isSpace t
            simpa [rest] using this
          intro h
          rcases List.mem_cons.mp h with rfl | h
          · cases first
          · cases List.all_eq_true.mp List.all_takeWhile ' ' h }
      :: tokens (cs.dropWhile (!isSpace ·))
termination_by t.length
decreasing_by
  have h₁ := length_dropWhile_le isSpace t
  have h₂ := length_dropWhile_le (!isSpace ·) cs
  rw [rest] at h₁
  exact Nat.lt_of_le_of_lt h₂ h₁

/-- The tokens as they stand in a text. -/
def spell (ts : List Token) : Text := ts.flatMap (·.text)

/-- The tokens as they stand at the beginning of a line, where the first gap vanishes. -/
def content : List Token → Text
  | [] => []
  | first :: rest => first.word ++ spell rest

@[simp] theorem spell_cons (t : Token) (ts : List Token) : spell (t :: ts) = t.text ++ spell ts :=
  rfl

theorem content_append {row : List Token} (h : row ≠ []) (ts : List Token) :
    content (row ++ ts) = content row ++ spell ts := by
  obtain ⟨first, rest, rfl⟩ := List.exists_cons_of_ne_nil h
  simp [content, spell]

theorem content_ne_nil {row : List Token} (h : row ≠ []) : content row ≠ [] := by
  obtain ⟨first, rest, rfl⟩ := List.exists_cons_of_ne_nil h
  exact List.append_ne_nil_of_left_ne_nil first.word_ne_nil _

/-! ### Nothing is lost -/

theorem isSpace_of_mem_takeWhile {t : Text} {c : Char} (h : c ∈ t.takeWhile isSpace) : c = ' ' :=
  beq_iff_eq.mp (List.all_eq_true.mp List.all_takeWhile c h)

theorem takeWhile_isSpace (t : Text) :
    t.takeWhile isSpace = List.replicate (t.takeWhile isSpace).length ' ' :=
  List.eq_replicate_of_mem fun _ => isSpace_of_mem_takeWhile

/-- A text that does not end in a space is its tokens. -/
theorem spell_tokens {t : Text} (h : t.getLast? ≠ some ' ') : spell (tokens t) = t := by
  fun_induction tokens t with
  | case1 t rest =>
      -- A text of spaces alone ends in one, unless it is empty.
      cases hl : t.getLast? with
      | none => exact (List.getLast?_eq_none_iff.mp hl).symm
      | some c =>
          have all := List.all_eq_true.mp (dropWhile_eq_nil_iff_all.mp rest)
          rw [beq_iff_eq.mp (all c (List.mem_of_getLast? hl))] at hl
          exact absurd hl h
  | case2 t c cs rest ih =>
      have whole : t = t.takeWhile isSpace ++ c :: cs := by
        rw [← rest, List.takeWhile_append_dropWhile]
      -- The text behind the word ends as the whole text does.
      have further : (cs.dropWhile (!isSpace ·)).getLast? ≠ some ' ' := by
        intro hl
        refine h ?_
        obtain ⟨before, hb⟩ := List.dropWhile_suffix (l := cs) (!isSpace ·)
        rw [whole, ← hb, List.getLast?_append, List.getLast?_cons, List.getLast?_append, hl]
        rfl
      rw [spell_cons, ih further, Token.text, ← takeWhile_isSpace]
      conv => rhs; rw [whole]
      simp

/-! ### Gaps -/

/-- What follows a word begins with a space. -/
theorem head?_dropWhile_word (t : Text) :
    t.dropWhile (!isSpace ·) = [] ∨ (t.dropWhile (!isSpace ·)).head? = some ' ' := by
  cases hd : t.dropWhile (!isSpace ·) with
  | nil => exact .inl rfl
  | cons c cs =>
      have stopped : (!isSpace c) = false := blank_of_head?_dropWhile (congrArg List.head? hd)
      have space : isSpace c = true := by simpa using stopped
      exact .inr (congrArg some (beq_iff_eq.mp space))

/-- In a text that begins with a space there is a gap in front of every word. -/
theorem gap_pos_of_head? {t : Text} (h : t = [] ∨ t.head? = some ' ') :
    ∀ token ∈ tokens t, 0 < token.gap := by
  fun_induction tokens t with
  | case1 => simp
  | case2 t c cs rest ih =>
      intro token hm
      rcases List.mem_cons.mp hm with rfl | hm
      · cases t with
        | nil => cases rest
        | cons d ds =>
            have space : d = ' ' := by simpa using h
            simp [space, isSpace]
      · exact ih (head?_dropWhile_word cs) token hm

/-- Behind the first token there is a gap in front of every word. -/
theorem gap_pos_of_mem_tail {t : Text} : ∀ token ∈ (tokens t).tail, 0 < token.gap := by
  unfold tokens
  split
  next => simp
  next c cs rest => exact gap_pos_of_head? (head?_dropWhile_word cs)

/-- A text that does not begin with a space has no gap in front of its first word. -/
theorem gap_of_head? {t : Text} (h : t.head? ≠ some ' ') {first : Token}
    (hf : (tokens t).head? = some first) : first.gap = 0 := by
  unfold tokens at hf
  split at hf
  next => cases hf
  next c cs rest =>
    cases hf
    cases t with
    | nil => cases rest
    | cons d ds =>
        have other : isSpace d = false := beq_eq_false_iff_ne.mpr fun he => h (congrArg some he)
        simp [other]

/-- A text that neither begins nor ends in a space is the content of its tokens. -/
theorem content_tokens {t : Text} (first : t.head? ≠ some ' ') (last : t.getLast? ≠ some ' ') :
    content (tokens t) = t := by
  have whole := spell_tokens last
  cases ht : tokens t with
  | nil =>
      rw [ht] at whole
      exact whole
  | cons token rest =>
      have none : token.gap = 0 := gap_of_head? first (congrArg List.head? ht)
      rw [ht, spell_cons, Token.text, none] at whole
      exact whole

end Classwright.Comment
