import Classwright.Text.Blank
import Classwright.Text.Lines

/-!
# Comment — paragraphs of free text

Free text is trimmed and cut into paragraphs where a run of blanks holds two line feeds or more;
inside a paragraph a line feed, with the blanks around it, is a single space.

* `cutParagraphs`: cuts a text at the blank runs with two line feeds, which vanish.
* `reflow`: makes one line of a text.
* `paragraphs`: both, on free text as it was written.
-/

namespace Classwright.Comment

open Text

/-! ### Cutting -/

/-- Does a paragraph end in front of `c`, where `rest` follows it? So it does at a line feed whose
run of blanks holds another. -/
def endsParagraph (c : Char) (rest : Text) : Bool :=
  c == '\n' && (rest.takeWhile blank).contains '\n'

/-- The text cut at every line feed that ends a paragraph; the blanks after that line feed go with
it. -/
def cutParagraphs : Text → List Text
  | [] => [[]]
  | c :: rest =>
      if endsParagraph c rest then [] :: cutParagraphs (rest.dropWhile blank)
      else consFirst c (cutParagraphs rest)
termination_by t => t.length
decreasing_by
  · exact Nat.lt_succ_of_le (length_dropWhile_le blank rest)
  · exact Nat.lt_succ_self _

theorem cutParagraphs_ne_nil (t : Text) : cutParagraphs t ≠ [] := by
  fun_cases cutParagraphs t with
  | case1 => simp
  | case2 => simp
  | case3 => exact consFirst_ne_nil _ _

/-! ### Reflowing -/

/-- The text after a line break that it begins with: blanks within a line, a line feed and blanks
within the next line. -/
def afterLineBreak? (t : Text) : Option Text :=
  match t.dropWhile inlineBlank with
  | '\n' :: rest => some (rest.dropWhile inlineBlank)
  | _ => none

theorem length_afterLineBreak?_lt {t rest : Text} (h : afterLineBreak? t = some rest) :
    rest.length < t.length := by
  unfold afterLineBreak? at h
  split at h
  next further e =>
    cases h
    have h₁ := length_dropWhile_le inlineBlank t
    have h₂ := length_dropWhile_le inlineBlank further
    rw [e] at h₁
    exact Nat.lt_of_le_of_lt h₂ h₁
  next => cases h

/-- The text with every line break made a single space. -/
def reflow (t : Text) : Text :=
  match _broken : afterLineBreak? t with
  | some rest => ' ' :: reflow rest
  | none =>
      match t with
      | [] => []
      | c :: rest => c :: reflow rest
termination_by t.length
decreasing_by
  · exact length_afterLineBreak?_lt ‹_›
  · exact Nat.lt_succ_self _

/-! ### Paragraphs -/

/-- The paragraphs of free text, each on one line; none when the text is blank. -/
def paragraphs (t : Text) : List Text :=
  let body := trim (unifyReturns t)
  if body = [] then [] else (cutParagraphs body).map fun p => trim (reflow p)

end Classwright.Comment
