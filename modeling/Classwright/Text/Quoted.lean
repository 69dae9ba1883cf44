import Classwright.Text.Printable

/-!
# Text — quoted in a message

Messages show a text between quotes and on one line, so that blanks and controls can be told.

* `quoteFor`: the apostrophe, unless the text holds apostrophes and no quotation mark.
* `Text.quoted`: the text between quotes, with escapes.
-/

namespace Classwright.Text

/-- The quote that surrounds a text: a quotation mark when that saves every escape, an apostrophe
otherwise. -/
def quoteFor (t : Text) : Char := if '\'' ∈ t ∧ '"' ∉ t then '"' else '\''

/-- The last `width` hexadecimal digits of a number, in small letters. -/
def hexDigits : (width n : Nat) → Text
  | 0, _ => []
  | width + 1, n => hexDigits width (n / 16) ++ [Nat.digitChar (n % 16)]

/-- A character between quotes: the quote and the backslash are escaped, the common controls have
letters, and what does not print is given by its code point in the shortest of three widths. -/
def escaped (quote c : Char) : Text :=
  if c = quote ∨ c = '\\' then ['\\', c]
  else if c = '\n' then ['\\', 'n']
  else if c = '\r' then ['\\', 'r']
  else if c = '\t' then ['\\', 't']
  else if isPrintable c then [c]
  else if c.toNat < 0x100 then '\\' :: 'x' :: hexDigits 2 c.toNat
  else if c.toNat < 0x10000 then '\\' :: 'u' :: hexDigits 4 c.toNat
  else '\\' :: 'U' :: hexDigits 8 c.toNat

/-- The text between quotes. -/
def quoted (t : Text) : Text :=
  quoteFor t :: t.flatMap (escaped (quoteFor t)) ++ [quoteFor t]

end Classwright.Text
