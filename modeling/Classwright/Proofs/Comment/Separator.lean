import Classwright.Proofs.Comment.Line

/-!
# Comment — bare lines between paragraphs

A bare line parts two paragraphs, so a reader expects one bare line for each pair of neighbouring
paragraphs and none besides.  A paragraph, though, may hold a word of nothing but blanks: a tab
between two spaces, say.  When such words have a line to themselves that line is as bare as one
between paragraphs.

* `Parted`: lines with so many bare ones, none next to another and none at an end.
* `parted_wrap_iff`: the lines of free text are parted by its paragraphs exactly when no line of a
  paragraph is bare.
* `Visible`: every row of a paragraph says something.
* `visible_of_spaces`: all rows do when spaces are the only blanks inside paragraphs.
* `bare_lines_iff_visible`: bare lines stand between paragraphs only, exactly when all rows do.
-/

namespace Classwright.Comment

open Text

/-! ### Bare lines -/

/-- So many lines are bare, no two of them are neighbours, and none is the first or the last. -/
structure Parted (bare : Text → Bool) (breaks : Nat) (lines : List Text) : Prop where
  amount : lines.countP bare = breaks
  apart : lines.IsChain fun line next => ¬ (bare line = true ∧ bare next = true)
  first : ∀ line, lines.head? = some line → bare line = false
  last : ∀ line, lines.getLast? = some line → bare line = false

/-- The bare lines are those between the groups and those in them. -/
theorem countP_separate {bare : Text → Bool} {between : Text} (hb : bare between = true)
    (groups : List (List Text)) :
    (separate between groups).countP bare
      = (groups.length - 1) + (groups.map (List.countP bare)).sum := by
  have one : ∀ lines : List Text,
      lines.countP bare = (lines.map fun line => if bare line then 1 else 0).sum := by
    intro lines
    induction lines with
    | nil => rfl
    | cons line lines ih =>
        rw [List.countP_cons, List.map_cons, List.sum_cons, ih, Nat.add_comm]
  rw [one, sum_map_separate, hb, if_pos rfl, Nat.mul_one]
  exact congrArg (_ + List.sum ·) (List.map_congr_left fun lines _ => (one lines).symm)

section Wrapped

variable {bare : Text → Bool} {t decoration continuation : Text} {width : Nat}

/-- The bare lines of free text are as many as the breaks between its paragraphs exactly when no
line of a paragraph is bare; and then no two are neighbours and none is at an end. -/
theorem parted_wrap_iff (between : bare (trimEnd decoration) = true)
    (silent : ∀ line, bare line = true → behind (head decoration continuation) line = []) :
    Parted bare ((paragraphs t).length - 1) (wrap t decoration continuation width) ↔
      ∀ paragraph ∈ paragraphs t,
        ∀ line ∈ wrapParagraph (head decoration continuation) width paragraph,
          bare line = false := by
  have counted := countP_separate between
    ((paragraphs t).map (wrapParagraph (head decoration continuation) width))
  rw [List.length_map, List.map_map] at counted
  have none : ((paragraphs t).map (List.countP bare ∘
      wrapParagraph (head decoration continuation) width)).sum = 0 ↔
        ∀ paragraph ∈ paragraphs t,
          ∀ line ∈ wrapParagraph (head decoration continuation) width paragraph,
            bare line = false := by
    rw [List.sum_eq_zero_iff_forall_eq_nat, List.forall_mem_map]
    simp only [Function.comp_apply, List.countP_eq_zero, Bool.not_eq_true]
  have speaks : ∀ {line}, behind (head decoration continuation) line ≠ [] → bare line = false :=
    fun goes => Bool.eq_false_iff.mpr fun he => goes (silent _ he)
  constructor
  · intro parted
    have amount := parted.amount
    rw [wrap, counted] at amount
    exact none.mp (by omega)
  · intro shown
    refine ⟨?_, ?_, fun line hl => speaks (begins_of_wrap hl).1,
      fun line hl => speaks (ends_of_wrap hl)⟩
    · rw [wrap, counted, none.mpr shown, Nat.add_zero]
    · refine isChain_wrap (fun paragraph hp => ?_) (fun line goes => ?_) fun line begins => ?_
      · refine (List.pairwise_of_forall_mem_list fun line hl next _ => ?_).isChain
        simp [shown paragraph hp line hl]
      · simp [speaks goes]
      · simp [speaks begins.1]

end Wrapped

/-! ### Rows that say something -/

/-- Every row of a paragraph says something. -/
def Visible (head : Text) (width : Nat) (paragraph : Text) : Prop :=
  ∀ row ∈ paragraphRows head width paragraph, isBlank (content row) = false

/-- What follows a text and a space is trimmed off with the space exactly when it is blank. -/
theorem trimEnd_append_space_iff (t u : Text) :
    trimEnd (t ++ ' ' :: u) = trimEnd t ↔ isBlank u = true := by
  constructor
  · intro same
    by_contra said
    have kept : isBlank (' ' :: u) = false := by
      simpa [isBlank] using said
    have shorter := length_trimEnd_le t
    have longer : 0 < (trimEnd (' ' :: u)).length := by
      rw [List.length_pos_iff, Ne, trimEnd_eq_nil_iff, kept]
      exact Bool.false_ne_true
    rw [trimEnd_append_of_said t kept] at same
    have lengths := congrArg List.length same
    rw [List.length_append] at lengths
    omega
  · intro blanks
    exact trimEnd_append_blanks
      (List.forall_mem_cons.mpr ⟨blank_space, isBlank_eq_true_iff.mp blanks⟩)

/-- The line of a row says nothing exactly when the row is blank. -/
theorem behind_rowLine_iff {head : Text} {row : List Token} :
    behind head (rowLine head row) = [] ↔ isBlank (content row) = true := by
  rw [rowLine, behind_trimEnd, trimEnd_eq_nil_iff]

/-- The line of a row is a bare decoration exactly when row and indent are blank. -/
theorem rowLine_eq_iff {decoration continuation : Text} {row : List Token} :
    rowLine (head decoration continuation) row = trimEnd decoration ↔
      isBlank continuation = true ∧ isBlank (content row) = true := by
  have whole : head decoration continuation ++ content row
      = decoration ++ ' ' :: (continuation ++ content row) := by simp [head]
  rw [rowLine, whole, trimEnd_append_space_iff, isBlank_append, Bool.and_eq_true]

/-- A property of the lines of a text's paragraphs is one of their rows. -/
theorem forall_line_iff {t head : Text} {width : Nat} {p : Text → Prop} :
    (∀ paragraph ∈ paragraphs t, ∀ line ∈ wrapParagraph head width paragraph, p line) ↔
      ∀ paragraph ∈ paragraphs t, ∀ row ∈ paragraphRows head width paragraph,
        p (rowLine head row) := by
  refine forall₂_congr fun paragraph hp => ?_
  rw [wrapParagraph_of_solid (solid_of_mem_paragraphs hp), List.forall_mem_map]

/-! ### Spaces only -/

/-- The word of a token is made of its text. -/
theorem mem_of_mem_word {t : Text} (last : t.getLast? ≠ some ' ') {token : Token}
    (ht : token ∈ tokens t) {c : Char} (hc : c ∈ token.word) : c ∈ t := by
  rw [← spell_tokens last]
  exact List.mem_flatMap.mpr ⟨token, ht, List.mem_append_right _ hc⟩

/-- When spaces are the only blanks of a paragraph, all its rows say something. -/
theorem visible_of_spaces {t head paragraph : Text} {width : Nat} (hp : paragraph ∈ paragraphs t)
    (spaces : ∀ c ∈ paragraph, blank c = true → c = ' ') : Visible head width paragraph := by
  intro row hr
  obtain ⟨token, rest, rfl⟩ := List.exists_cons_of_ne_nil (ne_nil_of_mem_paragraphRows hr)
  obtain ⟨c, cs, hc⟩ := List.exists_cons_of_ne_nil token.word_ne_nil
  have first : c ∈ token.word := hc ▸ List.mem_cons_self
  have whole : (paragraphRows head width paragraph).flatten = tokens paragraph :=
    flatten_paragraphRows paragraph
  have inside : token ∈ tokens paragraph :=
    whole ▸ List.mem_flatten.mpr ⟨_, hr, List.mem_cons_self⟩
  -- A word begins with something that is no space, and so with no blank.
  have seen : blank c = false := by
    refine Bool.eq_false_iff.mpr fun he => token.space_not_mem ?_
    rwa [← spaces c (mem_of_mem_word (ends_of_mem_paragraphs hp).2 inside first) he]
  simp [content, hc, isBlank, seen]

/-! ### Bare lines and rows -/

/-- **Bare lines between paragraphs.**  The lines of free text that say nothing behind the head are
those between its paragraphs exactly when every row of every paragraph says something.  The lines
that are the bare decoration are those between its paragraphs also when the continuation indent,
which stands on all other lines, is not blank.  All rows say something when spaces are the only
blanks inside paragraphs. -/
theorem bare_lines_iff_visible (t decoration continuation : Text) (width : Nat) :
    let head := Comment.head decoration continuation
    let lines := wrap t decoration continuation width
    let breaks := (paragraphs t).length - 1
    (Parted (fun line => behind head line = []) breaks lines ↔
      ∀ paragraph ∈ paragraphs t, Visible head width paragraph) ∧
    (Parted (fun line => line = trimEnd decoration) breaks lines ↔
      (isBlank continuation = true →
        ∀ paragraph ∈ paragraphs t, Visible head width paragraph)) ∧
    ((∀ paragraph ∈ paragraphs t, ∀ c ∈ paragraph, blank c = true → c = ' ') →
      ∀ paragraph ∈ paragraphs t, Visible head width paragraph) := by
  intro head lines breaks
  have bare : behind head (trimEnd decoration) = [] := behind_bare decoration continuation
  refine ⟨?_, ?_, fun spaces paragraph hp => visible_of_spaces hp (spaces paragraph hp)⟩
  · rw [parted_wrap_iff (decide_eq_true bare) fun _ => of_decide_eq_true, forall_line_iff]
    simp only [decide_eq_false_iff_not, behind_rowLine_iff, Bool.not_eq_true, Visible, head]
  · rw [parted_wrap_iff (decide_eq_true rfl) fun _ he => of_decide_eq_true he ▸ bare,
      forall_line_iff]
    simp only [decide_eq_false_iff_not, rowLine_eq_iff, not_and, Bool.not_eq_true, Visible, head]
    constructor
    · intro shown indent paragraph hp row hr
      exact shown paragraph hp row hr indent
    · intro shown paragraph hp row hr indent
      exact shown indent paragraph hp row hr

/-- A tab that has a line to itself leaves a bare line inside a paragraph. -/
theorem tab_leaves_bare_line :
    trimEnd "//" ≠ [] ∧ paragraphs "a \t b" = ["a \t b"] ∧
      wrap "a \t b" "//" [] 4 = ["// a", "//", "// b"] ∧
      (["// a", "//", "// b"] : List Text).countP (fun line => line = trimEnd "//") = 1 ∧
      ¬ Visible (head "//" []) 4 "a \t b" := by
  refine ⟨by decide, by decide +kernel, by decide +kernel, by decide, fun shown => ?_⟩
  have rows : (paragraphRows (head "//" []) 4 "a \t b").map content = ["a", "\t", "b"] := by
    decide +kernel
  have tab : ("\t" : Text) ∈ (paragraphRows (head "//" []) 4 "a \t b").map content := by
    rw [rows]
    decide
  obtain ⟨row, hr, he⟩ := List.mem_map.mp tab
  have said := shown row hr
  rw [he] at said
  cases said

end Classwright.Comment
