import Classwright.Proofs.Comment.Break
import Classwright.Proofs.Comment.Token
import Mathlib.Data.List.Chain

/-!
# Comment — wrapping packs words greedily

A packer takes the words of a paragraph one by one: a word goes on the line, with its gap, as long
as the line stays within the width, and begins a new line otherwise.  Wrapping, which searches
lines for spaces, lays out the same lines.

* `rows`: the tokens of a paragraph on lines, packed greedily.
* `packed`: free text as packed lines, with the bare decoration between paragraphs.
* `wrapParagraph_eq_rows`: a paragraph is wrapped as its rows.
* `wrap_eq_packed`: wrapping is packing; a row too wide is a single word, and no row had room for
  the next word.
-/

namespace Classwright.Comment

open Text

variable {head : Text} {width : Nat}

/-! ### Packing -/

/-- The tokens on lines: the ones in `row` are on the line already. -/
def rows (head : Text) (width : Nat) : (row : List Token) → List Token → List (List Token)
  | row, [] => [row]
  | row, t :: ts =>
      if (head ++ content (row ++ [t])).length ≤ width then rows head width (row ++ [t]) ts
      else row :: rows head width [t] ts

/-- The rows of a paragraph; the first token begins the first. -/
def paragraphRows (head : Text) (width : Nat) (paragraph : Text) : List (List Token) :=
  match tokens paragraph with
  | [] => []
  | t :: ts => rows head width [t] ts

/-- The line of a row: the head and the content, without blanks at the end. -/
def rowLine (head : Text) (row : List Token) : Text := trimEnd (head ++ content row)

/-- The lines of free text as a packer lays them out, with the bare decoration between
paragraphs. -/
def packed (t decoration continuation : Text) (width : Nat) : List Text :=
  let head := decoration ++ " " ++ continuation
  [trimEnd decoration].intercalate
    ((paragraphs t).map fun paragraph => (paragraphRows head width paragraph).map (rowLine head))

/-! ### What rows are -/

/-- A row is within the width or a single token. -/
def Room (head : Text) (width : Nat) (row : List Token) : Prop :=
  (head ++ content row).length ≤ width ∨ ∃ t, row = [t]

/-- The first token of the next row has no room on the row before. -/
def Full (head : Text) (width : Nat) (row next : List Token) : Prop :=
  ∃ t ts, next = t :: ts ∧ width < (head ++ content (row ++ [t])).length

theorem flatten_rows (row ts : List Token) : (rows head width row ts).flatten = row ++ ts := by
  induction ts generalizing row with
  | nil => simp [rows]
  | cons t ts ih =>
      unfold rows
      split
      · rw [ih, List.append_assoc]
        rfl
      · rw [List.flatten_cons, ih]
        rfl

theorem room_of_mem_rows {row ts : List Token} (h : Room head width row) :
    ∀ r ∈ rows head width row ts, Room head width r := by
  induction ts generalizing row with
  | nil => simpa [rows] using h
  | cons t ts ih =>
      unfold rows
      split
      next fits => exact ih (.inl fits)
      next => exact List.forall_mem_cons.mpr ⟨h, ih (.inr ⟨t, rfl⟩)⟩

theorem ne_nil_of_mem_rows {row ts : List Token} (h : row ≠ []) :
    ∀ r ∈ rows head width row ts, r ≠ [] := by
  induction ts generalizing row with
  | nil => simpa [rows] using h
  | cons t ts ih =>
      unfold rows
      split
      next => exact ih (by simp)
      next => exact List.forall_mem_cons.mpr ⟨h, ih (List.cons_ne_nil t [])⟩

/-- The first row begins with the tokens that were on the line already. -/
theorem exists_rows_eq_cons (head : Text) (width : Nat) (row ts : List Token) :
    ∃ more rest, rows head width row ts = (row ++ more) :: rest := by
  induction ts generalizing row with
  | nil => exact ⟨[], [], by simp [rows]⟩
  | cons t ts ih =>
      unfold rows
      split
      · obtain ⟨more, rest, h⟩ := ih (row ++ [t])
        exact ⟨t :: more, rest, by simpa using h⟩
      · exact ⟨[], _, by rw [List.append_nil]⟩

theorem isChain_rows (row ts : List Token) :
    (rows head width row ts).IsChain (Full head width) := by
  induction ts generalizing row with
  | nil => exact .singleton _
  | cons t ts ih =>
      unfold rows
      split
      · exact ih (row ++ [t])
      next full =>
        -- The next row is the one that `t` begins, whatever is packed onto it.
        have rest := ih [t]
        obtain ⟨more, further, he⟩ := exists_rows_eq_cons head width [t] ts
        rw [he] at rest ⊢
        exact .cons_cons ⟨t, more, rfl, Nat.lt_of_not_le full⟩ rest

/-! ### Wrapping -/

theorem dropWhile_gap (k : Nat) (t : Token) (ts : List Token) :
    (List.replicate k ' ' ++ content (t :: ts)).dropWhile (· == ' ') = content (t :: ts) := by
  obtain ⟨c, cs, hc⟩ := List.exists_cons_of_ne_nil t.word_ne_nil
  have other : c ≠ ' ' := by
    rintro rfl
    exact t.space_not_mem (by simp [hc])
  rw [List.dropWhile_append_of_pos (by simp), content, hc, List.cons_append,
    List.dropWhile_cons_of_neg (by simpa using other)]

theorem space_not_mem_content (t : Token) : ' ' ∉ content [t] := by
  simpa [content, spell] using t.space_not_mem

/-- When the next word has no room, the row before it is laid out and the rest is wrapped. -/
theorem wrapParagraph_of_full {row ts : List Token} {t : Token} (said : row ≠ [])
    (room : Room head width row) (gap : 0 < t.gap)
    (full : width < (head ++ content (row ++ [t])).length) :
    wrapParagraph head width (content (row ++ t :: ts))
      = rowLine head row :: wrapParagraph head width (content (t :: ts)) := by
  have begun : content (row ++ [t])
      = content row ++ (List.replicate t.gap ' ' ++ t.word) := by
    rw [content_append said]
    simp [spell, Token.text]
  have whole : content (row ++ t :: ts)
      = content row ++ (List.replicate t.gap ' ' ++ (t.word ++ spell ts)) := by
    rw [content_append said]
    simp [Token.text]
  have fits : (head ++ content row).length ≤ width ∨ ' ' ∉ content row := by
    rcases room with fits | ⟨u, rfl⟩
    · exact .inl fits
    · exact .inr (space_not_mem_content u)
  rw [begun] at full
  obtain ⟨k, hk, broken⟩ := findLastBreak_gap (spell ts) gap t.space_not_mem fits full
  -- Before the break stand the row and spaces of the gap, which are trimmed.
  have laid : trimEnd ((head ++ (content row
      ++ (List.replicate t.gap ' ' ++ (t.word ++ spell ts)))).take
        (head.length + ((content row).length + k))) = rowLine head row := by
    rw [List.take_length_add_append, List.take_length_add_append,
      List.take_append_of_le_length (by simp; omega), List.take_replicate, ← List.append_assoc,
      trimEnd_append_spaces]
    rfl
  -- Behind it stands what is left of the gap, which is dropped, and the rest.
  have left : ((head ++ (content row
      ++ (List.replicate t.gap ' ' ++ (t.word ++ spell ts)))).drop
        (head.length + ((content row).length + k) + 1)).dropWhile (· == ' ')
          = content (t :: ts) := by
    rw [Nat.add_assoc, Nat.add_assoc, List.drop_length_add_append, List.drop_length_add_append,
      List.drop_append_of_le_length (by simp; omega), List.drop_replicate]
    exact dropWhile_gap _ t ts
  rw [whole, wrapParagraph_of_break _ _ broken, laid, left]
  · exact List.append_ne_nil_of_left_ne_nil (content_ne_nil said) _
  · simp only [List.length_append] at full ⊢
    omega

/-- A paragraph is wrapped as its rows. -/
theorem wrapParagraph_eq_rows {row ts : List Token} (said : row ≠ []) (room : Room head width row)
    (gaps : ∀ t ∈ ts, 0 < t.gap) :
    wrapParagraph head width (content (row ++ ts))
      = (rows head width row ts).map (rowLine head) := by
  induction ts generalizing row with
  | nil =>
      rw [List.append_nil]
      rcases room with fits | ⟨t, rfl⟩
      · rw [wrapParagraph_of_fits (content_ne_nil said) fits]
        rfl
      · -- A single word is laid out as it is, too wide or not.
        by_cases fits : (head ++ content [t]).length ≤ width
        · rw [wrapParagraph_of_fits (content_ne_nil said) fits]
          rfl
        · rw [wrapParagraph_of_unbroken (content_ne_nil said) (Nat.lt_of_not_le fits)
            (findLastBreak_of_not_mem width (space_not_mem_content t))]
          rfl
  | cons t ts ih =>
      obtain ⟨gap, gaps⟩ := List.forall_mem_cons.mp gaps
      unfold rows
      split
      next fits =>
        rw [← ih (by simp) (.inl fits) gaps, List.append_assoc]
        rfl
      next full =>
        rw [List.map_cons, ← ih (by simp) (.inr ⟨t, rfl⟩) gaps,
          wrapParagraph_of_full said room gap (Nat.lt_of_not_le full)]
        rfl

theorem wrapParagraph_eq_paragraphRows {paragraph : Text} (first : paragraph.head? ≠ some ' ')
    (last : paragraph.getLast? ≠ some ' ') :
    wrapParagraph head width paragraph
      = (paragraphRows head width paragraph).map (rowLine head) := by
  have whole := content_tokens first last
  have gaps := gap_pos_of_mem_tail (t := paragraph)
  unfold paragraphRows
  cases ht : tokens paragraph with
  | nil =>
      rw [ht] at whole
      rw [← whole, wrapParagraph]
      rfl
  | cons t ts =>
      rw [ht] at whole gaps
      have laid : wrapParagraph head width (content ([t] ++ ts))
          = (rows head width [t] ts).map (rowLine head) :=
        wrapParagraph_eq_rows (by simp) (.inr ⟨t, rfl⟩) gaps
      rwa [List.singleton_append, whole] at laid

/-- The lines of free text, with a line from each group to the next. -/
theorem separate_eq_intercalate (between : Text) (groups : List (List Text)) :
    separate between groups = [between].intercalate groups := by
  induction groups with
  | nil => rfl
  | cons ls rest ih =>
      cases rest with
      | nil => simp [separate, List.intercalate]
      | cons ms rest =>
          rw [separate, ih]
          simp [List.intercalate, List.intersperse]

/-- The ends of a paragraph are no spaces. -/
theorem ends_of_mem_paragraphs {t paragraph : Text} (h : paragraph ∈ paragraphs t) :
    paragraph.head? ≠ some ' ' ∧ paragraph.getLast? ≠ some ' ' := by
  unfold paragraphs at h
  dsimp only at h
  split at h
  · cases h
  · obtain ⟨piece, -, rfl⟩ := List.mem_map.mp h
    constructor
    · intro hc
      cases blank_of_head?_trim hc
    · intro hc
      cases blank_of_getLast?_trim hc

theorem flatten_paragraphRows (paragraph : Text) :
    (paragraphRows head width paragraph).flatten = tokens paragraph := by
  unfold paragraphRows
  cases tokens paragraph with
  | nil => rfl
  | cons t ts => exact flatten_rows [t] ts

theorem isChain_paragraphRows (paragraph : Text) :
    (paragraphRows head width paragraph).IsChain (Full head width) := by
  unfold paragraphRows
  cases tokens paragraph with
  | nil => exact .nil
  | cons t ts => exact isChain_rows [t] ts

theorem ne_nil_of_mem_paragraphRows {paragraph : Text} {row : List Token}
    (h : row ∈ paragraphRows head width paragraph) : row ≠ [] := by
  unfold paragraphRows at h
  cases ht : tokens paragraph with
  | nil =>
      rw [ht] at h
      cases h
  | cons t ts =>
      rw [ht] at h
      exact ne_nil_of_mem_rows (List.cons_ne_nil t []) row h

/-- A row whose line is wider than the width is a single word without a space. -/
theorem single_of_mem_paragraphRows {paragraph : Text} {row : List Token}
    (h : row ∈ paragraphRows head width paragraph) (wide : width < (rowLine head row).length) :
    ∃ t, row = [t] := by
  have room : Room head width row := by
    unfold paragraphRows at h
    cases ht : tokens paragraph with
    | nil =>
        rw [ht] at h
        cases h
    | cons t ts =>
        rw [ht] at h
        exact room_of_mem_rows (.inr ⟨t, rfl⟩) row h
  have := length_trimEnd_le (head ++ content row)
  exact room.resolve_left (Nat.not_le.mpr (Nat.lt_of_lt_of_le wide this))

/-- **Wrapping is packing.**  Free text is wrapped as a packer lays it out.  The rows of a paragraph
are its words in order; a row whose line is too wide is a single word, which holds no space, and
no row had room for the word that begins the next. -/
theorem wrap_eq_packed (t decoration continuation : Text) (width : Nat) :
    wrap t decoration continuation width = packed t decoration continuation width ∧
      ∀ paragraph ∈ paragraphs t,
        let head := decoration ++ " " ++ continuation
        let laid := paragraphRows head width paragraph
        laid.flatten = tokens paragraph ∧
          (∀ row ∈ laid, width < (rowLine head row).length →
            ∃ token, row = [token] ∧ ' ' ∉ token.word) ∧
          laid.IsChain (Full head width) := by
  constructor
  · unfold wrap packed
    rw [separate_eq_intercalate]
    refine congrArg _ (List.map_congr_left fun paragraph h => ?_)
    obtain ⟨first, last⟩ := ends_of_mem_paragraphs h
    exact wrapParagraph_eq_paragraphRows first last
  · intro paragraph _ head laid
    refine ⟨flatten_paragraphRows paragraph, fun row hr wide => ?_, isChain_paragraphRows paragraph⟩
    obtain ⟨token, rfl⟩ := single_of_mem_paragraphRows hr wide
    exact ⟨token, rfl, token.space_not_mem⟩

/-- Two paragraphs, with a gap of two spaces and a word that is too wide. -/
def sample : Text := "aa  bb c\n\nlongest d"

/-- On nine columns the gap stays inside its line, and the long word has one of its own. -/
theorem sample_is_packed :
    wrap sample "//" [] 9 = ["// aa  bb", "// c", "//", "// longest", "// d"] ∧
      ("longest d" : Text) ∈ paragraphs sample ∧
      (paragraphRows "// " 9 "longest d").flatten = tokens "longest d" := by
  obtain ⟨same, laid⟩ := wrap_eq_packed sample "//" [] 9
  have both : paragraphs sample = ["aa  bb c", "longest d"] := by decide +kernel
  have member : ("longest d" : Text) ∈ paragraphs sample := by
    rw [both]
    exact List.mem_cons_of_mem _ List.mem_cons_self
  exact ⟨same.trans (by decide +kernel), member, (laid _ member).1⟩

end Classwright.Comment
