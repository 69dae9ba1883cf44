import Classwright.Proofs.Text.Word
import Classwright.Snippet

/-!
# Snippet — the margin

Code is moved left by the smallest indentation of the lines that say something.  Such a line is
blanks and a body that begins with none, and a margin comes off its blanks alone: no character of
the body can go, however far the line stands to the left.

* `Stands`, `exists_stands`: a line that says something as blanks and a body.
* `Stands.dedent`: without a margin, it is fewer blanks and the body up to the blanks at its end.
* `dedent_of_blank`, `words_dedent`: of a blank line nothing is left; the words of a line stay.
* `margin_le`, `exists_leading_eq_margin`, `margin_of_blank`: no line that says something stands left of
  the margin, and one of them stands at it.
-/

namespace Classwright.Snippet

open Text

/-! ### The blanks in front -/

theorem leading_append {blanks : Text} (t : Text) (h : ∀ c ∈ blanks, inlineBlank c = true) :
    leading (blanks ++ t) = blanks.length + leading t := by
  rw [leading, List.takeWhile_append_of_pos h, List.length_append]
  rfl

theorem leading_cons {c : Char} (t : Text) (h : blank c = false) : leading (c :: t) = 0 := by
  simp [leading, inlineBlank, h]

/-- A line that says something is blanks and a body that begins with no blank. -/
structure Stands (line blanks body : Text) : Prop where
  whole : line = blanks ++ body
  inline : ∀ c ∈ blanks, inlineBlank c = true
  begins : ∃ c rest, body = c :: rest ∧ blank c = false

theorem exists_stands {line : Text} (feed : '\n' ∉ line) (said : isBlank line = false) :
    ∃ blanks body, Stands line blanks body := by
  refine ⟨line.takeWhile inlineBlank, line.dropWhile inlineBlank,
    List.takeWhile_append_dropWhile.symm, List.all_eq_true.mp List.all_takeWhile, ?_⟩
  cases behind : line.dropWhile inlineBlank with
  | nil =>
      refine absurd (isBlank_eq_true_iff.mpr fun c hc => ?_) (Bool.eq_false_iff.mp said)
      have silent := List.all_eq_true.mp (dropWhile_eq_nil_iff_all.mp behind) c hc
      exact (Bool.and_eq_true_iff.mp silent).1
  | cons c rest =>
      refine ⟨c, rest, rfl, Bool.eq_false_iff.mpr fun hb => feed ?_⟩
      have ends : inlineBlank c = false := blank_of_head?_dropWhile (by rw [behind]; rfl)
      have hc : c = '\n' := by simpa [inlineBlank, hb] using ends
      exact hc ▸ (List.dropWhile_sublist _).subset (behind ▸ List.mem_cons_self)

namespace Stands

variable {line blanks body : Text} (h : Stands line blanks body)
include h

theorem isBlank_body : isBlank body = false := by
  obtain ⟨c, rest, rfl, hc⟩ := h.begins
  simp [isBlank, hc]

theorem leading_eq : leading line = blanks.length := by
  obtain ⟨c, rest, he, hc⟩ := h.begins
  rw [h.whole, leading_append body h.inline, he, leading_cons rest hc, Nat.add_zero]

/-- A margin is taken off the blanks, as far as they go. -/
theorem dedent_eq (margin : Nat) : dedent margin line = blanks.drop margin ++ trimEnd body := by
  have taken : blanks.drop (min blanks.length margin) = blanks.drop margin := by
    rcases Nat.le_total blanks.length margin with hm | hm
    · rw [Nat.min_eq_left hm, List.drop_length, List.drop_eq_nil_of_le hm]
    · rw [Nat.min_eq_right hm]
  rw [dedent, h.leading_eq, h.whole, List.drop_append_of_le_length (Nat.min_le_left _ _), taken,
    trimEnd_append_of_said _ h.isBlank_body]

/-- So what is left says the same behind fewer blanks. -/
theorem dedent (margin : Nat) :
    Stands (dedent margin line) (blanks.drop margin) (trimEnd body) := by
  refine ⟨h.dedent_eq margin, fun c hc => h.inline c (List.mem_of_mem_drop hc), ?_⟩
  obtain ⟨c, rest, rfl, hc⟩ := h.begins
  obtain ⟨d, more, he⟩ := List.exists_cons_of_ne_nil
    (mt trimEnd_eq_nil_iff.mp (Bool.eq_false_iff.mp h.isBlank_body))
  have first := trimEnd_isPrefixOf (c :: rest)
  rw [he, List.cons_prefix_cons] at first
  exact ⟨d, more, he, first.1 ▸ hc⟩

theorem isBlank_eq : isBlank line = false := by
  rw [h.whole]
  exact isBlank_append_said blanks h.isBlank_body

theorem words_eq : words line = words body := by
  rw [h.whole]
  exact words_blanks_append body fun c hc => (Bool.and_eq_true_iff.mp (h.inline c hc)).1

/-- It has no blanks in front exactly when it stands at the very left. -/
theorem trimStart_eq_iff : trimStart line = line ↔ blanks = [] := by
  obtain ⟨c, rest, rfl, hc⟩ := h.begins
  rw [h.whole]
  cases blanks with
  | nil => simp [trimStart, hc]
  | cons b bs =>
      have hb := h.inline b List.mem_cons_self
      refine iff_of_false (fun starts => ?_) (List.cons_ne_nil b bs)
      have := blank_of_trimStart starts
      rw [(Bool.and_eq_true_iff.mp hb).1] at this
      cases this

end Stands

theorem dedent_of_blank (margin : Nat) {line : Text} (h : isBlank line = true) :
    dedent margin line = [] := by
  rw [dedent, trimEnd_eq_nil_iff, isBlank_eq_true_iff]
  exact fun c hc => isBlank_eq_true_iff.mp h c (List.mem_of_mem_drop hc)

theorem trimStart_eq_self_iff {line : Text} (feed : '\n' ∉ line) (said : isBlank line = false) :
    trimStart line = line ↔ leading line = 0 := by
  obtain ⟨blanks, body, h⟩ := exists_stands feed said
  rw [h.trimStart_eq_iff, h.leading_eq, List.length_eq_zero_iff]

/-- A line stands at the very left without a margin exactly when it stands no further right. -/
theorem trimStart_dedent_iff (margin : Nat) {line : Text} (feed : '\n' ∉ line)
    (said : isBlank line = false) :
    trimStart (dedent margin line) = dedent margin line ↔ leading line ≤ margin := by
  obtain ⟨blanks, body, h⟩ := exists_stands feed said
  rw [(h.dedent margin).trimStart_eq_iff, h.leading_eq, List.drop_eq_nil_iff]

/-- A line says something without a margin exactly when it does with it. -/
theorem isBlank_dedent (margin : Nat) {line : Text} (feed : '\n' ∉ line) :
    isBlank (dedent margin line) = isBlank line := by
  cases said : isBlank line with
  | true =>
      rw [dedent_of_blank margin said]
      rfl
  | false =>
      obtain ⟨blanks, body, h⟩ := exists_stands feed said
      exact (h.dedent margin).isBlank_eq

theorem words_of_blank {t : Text} (h : isBlank t = true) : words t = [] := by
  have silent := words_append_blanks [] (isBlank_eq_true_iff.mp h)
  rwa [List.nil_append] at silent

/-- A margin takes no word. -/
theorem words_dedent (margin : Nat) {line : Text} (feed : '\n' ∉ line) :
    words (dedent margin line) = words line := by
  cases said : isBlank line with
  | true => rw [dedent_of_blank margin said, words_of_blank said, words_nil]
  | false =>
      obtain ⟨blanks, body, h⟩ := exists_stands feed said
      rw [(h.dedent margin).words_eq, words_trimEnd, h.words_eq]

theorem trimEnd_dedent (margin : Nat) (line : Text) :
    trimEnd (dedent margin line) = dedent margin line := trimEnd_trimEnd _

/-! ### The margin -/

theorem mem_indentations {ls : List Text} {width : Nat} :
    width ∈ (ls.filter fun l => !isBlank l).map leading ↔
      ∃ line ∈ ls, isBlank line = false ∧ leading line = width := by
  simp [and_assoc]

/-- Of lines that say something the margin is the smallest indentation. -/
theorem min?_eq_margin {ls : List Text} (h : ∃ line ∈ ls, isBlank line = false) :
    ((ls.filter fun l => !isBlank l).map leading).min? = some (margin ls) := by
  obtain ⟨line, hl, said⟩ := h
  have hm := mem_indentations.mpr ⟨line, hl, said, rfl⟩
  obtain ⟨least, he⟩ := Option.isSome_iff_exists.mp
    (List.isSome_min?_of_mem hm)
  rw [margin, he]
  rfl

theorem margin_le {ls : List Text} {line : Text} (h : line ∈ ls) (said : isBlank line = false) :
    margin ls ≤ leading line :=
  (List.min?_eq_some_iff.mp (min?_eq_margin ⟨line, h, said⟩)).2 _
    (mem_indentations.mpr ⟨line, h, said, rfl⟩)

/-- Some line that says something stands at the margin. -/
theorem exists_leading_eq_margin {ls : List Text} (h : ∃ line ∈ ls, isBlank line = false) :
    ∃ line ∈ ls, isBlank line = false ∧ leading line = margin ls :=
  mem_indentations.mp (List.min?_eq_some_iff.mp (min?_eq_margin h)).1

theorem margin_of_blank {ls : List Text} (h : ∀ line ∈ ls, isBlank line = true) :
    margin ls = 0 := by
  have none : ls.filter (fun l => !isBlank l) = [] :=
    List.filter_eq_nil_iff.mpr fun line hl => by simp [h line hl]
  rw [margin, none]
  rfl

end Classwright.Snippet
