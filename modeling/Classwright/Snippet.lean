import Classwright.Text.Blank
import Classwright.Text.Lines

/-!
# Snippet — embedded code

Code arrives between markers and at the indentation of its document. It leaves as lines relative to
its own indentation, so that it can be set at any level.

* `Snippet.withoutOpening`, `Snippet.withoutClosing`: a line without the marker at its end.
* `Snippet.margin`: the smallest indentation below the first line.
* `Snippet.normalise`: the lines of a piece of code.
-/

namespace Classwright.Snippet

open Text

/-! ### Markers -/

/-- The first line without an opening marker, and without the blanks in front of it. -/
def withoutOpening (line : Text) : Text :=
  match after? "<?" (trimStart line) with
  | none => line
  | some code => (after? "php" code).getD code

/-- The last line without a closing marker, and without the blanks behind it. -/
def withoutClosing (line : Text) : Text :=
  match after? ['>', '?'] (trimEnd line).reverse with
  | none => line
  | some code => code.reverse

/-- Applies `f` to the first line. -/
def mapFirst (f : Text → Text) : List Text → List Text
  | [] => []
  | l :: ls => f l :: ls

/-- Applies `f` to the last line. -/
def mapLast (f : Text → Text) : List Text → List Text
  | [] => []
  | [l] => [f l]
  | l :: m :: ls => l :: mapLast f (m :: ls)

/-- The lines of raw code without its markers. -/
def unmarked (raw : Text) : List Text :=
  mapLast withoutClosing (mapFirst withoutOpening (lines (unifyReturnPairs raw)))

/-! ### Indentation -/

/-- The blanks in front of a line. -/
def leading (line : Text) : Nat := (line.takeWhile inlineBlank).length

/-- The smallest indentation of the lines that say something; zero when none does. -/
def margin (ls : List Text) : Nat :=
  (((ls.filter fun l => !isBlank l).map leading).min?).getD 0

/-- The line moved left by the margin, or as far as its own blanks allow, without blanks at its
end. -/
def dedent (margin : Nat) (line : Text) : Text := trimEnd (line.drop (min (leading line) margin))

/-! ### Blank edges -/

/-- Without the last line, when that is blank. -/
def dropBlankLast (ls : List Text) : List Text :=
  match ls.getLast? with
  | none => ls
  | some l => if isBlank l then ls.dropLast else ls

/-- Without the first line, when that is blank. -/
def dropBlankFirst : List Text → List Text
  | [] => []
  | l :: ls => if isBlank l then ls else l :: ls

/-- The lines of raw code, without markers, relative to their own indentation, and without a blank
line at either end. The first line stands right behind a marker, so its indentation says
nothing. -/
def normalise (raw : Text) : List Text :=
  match unmarked raw with
  | [line] => [trim line]
  | ls => dropBlankFirst (dropBlankLast (ls.map (dedent (margin ls.tail))))

end Classwright.Snippet
