import Classwright.Text.Basic

/-!
# Text — blank characters

White space is one fixed set of characters throughout: trimming, words, paragraphs and the
question whether a text says anything at all refer to `blank`.

* `blank`: the set, by code point.
* `Text.trimStart`, `Text.trimEnd`, `Text.trim`: without blanks at an end.
* `Text.isBlank`: nothing but blanks.
* `Text.words`: the maximal runs of other characters.
-/

namespace Classwright

/-- White space: the controls that move the cursor or separate information, the space, the next
line, the no-break space, and the space and line separators of Unicode. -/
def blankRanges : CodeRanges :=
  [(0x09, 0x0D), (0x1C, 0x20), (0x85, 0x85), (0xA0, 0xA0), (0x1680, 0x1680), (0x2000, 0x200A),
    (0x2028, 0x2029), (0x202F, 0x202F), (0x205F, 0x205F), (0x3000, 0x3000)]

/-- Is the character white space? -/
def blank (c : Char) : Bool := blankRanges.contains c

/-- Is the character white space within a line, that is, blank but no line feed? -/
def inlineBlank (c : Char) : Bool := blank c && c != '\n'

@[simp] theorem blank_space : blank ' ' = true := by decide

@[simp] theorem blank_newline : blank '\n' = true := by decide

namespace Text

/-! ### Trimming -/

/-- The text from its first character that is not blank. -/
def trimStart (t : Text) : Text := t.dropWhile blank

/-- The text up to its last character that is not blank. -/
def trimEnd (t : Text) : Text := (t.reverse.dropWhile blank).reverse

/-- The text without blanks at either end. -/
def trim (t : Text) : Text := trimEnd (trimStart t)

/-- Does the text hold nothing but blanks? -/
def isBlank (t : Text) : Bool := t.all blank

@[simp] theorem trimStart_nil : trimStart [] = [] := rfl

@[simp] theorem trimEnd_nil : trimEnd [] = [] := rfl

@[simp] theorem trim_nil : trim [] = [] := rfl

theorem length_dropWhile_le (p : Char → Bool) (t : Text) : (t.dropWhile p).length ≤ t.length :=
  (List.dropWhile_sublist p).length_le

theorem length_trimStart_le (t : Text) : (trimStart t).length ≤ t.length :=
  length_dropWhile_le _ t

theorem length_trimEnd_le (t : Text) : (trimEnd t).length ≤ t.length := by
  simpa [trimEnd] using length_dropWhile_le blank t.reverse

theorem dropWhile_eq_nil_iff_all {p : Char → Bool} :
    ∀ {t : Text}, t.dropWhile p = [] ↔ t.all p = true
  | [] => by simp
  | c :: cs => by
      by_cases h : p c
      · simp [h, dropWhile_eq_nil_iff_all (t := cs)]
      · simp [h]

theorem isBlank_eq_true_iff {t : Text} : isBlank t = true ↔ ∀ c ∈ t, blank c = true := by
  simp [isBlank]

theorem trimStart_eq_nil_iff {t : Text} : trimStart t = [] ↔ isBlank t = true :=
  dropWhile_eq_nil_iff_all

theorem trimEnd_eq_nil_iff {t : Text} : trimEnd t = [] ↔ isBlank t = true := by
  rw [trimEnd, List.reverse_eq_nil_iff, dropWhile_eq_nil_iff_all, List.all_reverse]
  rfl

/-- A text that keeps blanks only after dropping leading ones was blank throughout. -/
theorem isBlank_trimStart (t : Text) : isBlank (trimStart t) = isBlank t := by
  induction t with
  | nil => rfl
  | cons c cs ih =>
      by_cases h : blank c
      · simpa [trimStart, isBlank, h] using ih
      · simp [trimStart, isBlank, h]

/-- A trimmed text is empty exactly when the text is blank. -/
theorem trim_eq_nil_iff {t : Text} : trim t = [] ↔ isBlank t = true := by
  rw [trim, trimEnd_eq_nil_iff, isBlank_trimStart]

/-! ### Words -/

/-- The words of a text: its maximal runs of characters that are not blank. -/
def words (t : Text) : List Text := (split blank t).filter (· ≠ [])

@[simp] theorem words_nil : words [] = [] := rfl

end Text

end Classwright
