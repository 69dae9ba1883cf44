import Classwright.Text.CaseTable

/-!
# Text — capital and small letters

A letter may have a case form of several letters, and the small sigma has two: one ends a word.

* `Text.toUpper`: every character by its capital form.
* `Text.toLower`: every character by its small form, the sigma by its place in the word.
* `Text.capitalise`: the first character by its capital form.
-/

namespace Classwright

/-- The case form of a character: its expansion, else the character its run leads to, else
itself. -/
def caseForm (expansions : List (Nat × List Nat)) (runs : List CaseRun) (c : Char) : Text :=
  match expansions.lookup c.toNat with
  | some codes => codes.map Char.ofNat
  | none => [((CaseRun.find? runs c.toNat).map Char.ofNat).getD c]

/-- The capital form of a character. -/
def capitalForm (c : Char) : Text := caseForm upperExpansions upperRuns c

/-- The small form of a character that stands alone. -/
def smallForm (c : Char) : Text := caseForm lowerExpansions lowerRuns c

namespace Text

/-- The text in capitals. -/
def toUpper (t : Text) : Text := t.flatMap capitalForm

/-- The text with its first character in its capital form. -/
def capitalise : Text → Text
  | [] => []
  | c :: cs => capitalForm c ++ cs

/-! ### Small letters -/

/-- Does a letter with case come first, once the characters that context passes over are gone? -/
def beginsCased (t : Text) : Bool :=
  match t.dropWhile caseIgnorableRanges.contains with
  | [] => false
  | c :: _ => casedRanges.contains c

/-- The small form of a text whose reversed past is `before`: a sigma that a letter precedes and
none follows takes its final form. -/
def toLowerAfter : (before t : Text) → Text
  | _, [] => []
  | before, c :: cs =>
      (if c = 'Σ' then
        if beginsCased before && !beginsCased cs then ['ς'] else ['σ']
      else smallForm c) ++ toLowerAfter (c :: before) cs

/-- The text in small letters. -/
def toLower (t : Text) : Text := toLowerAfter [] t

@[simp] theorem toUpper_nil : toUpper [] = [] := rfl

@[simp] theorem toLower_nil : toLower [] = [] := rfl

end Text

end Classwright
