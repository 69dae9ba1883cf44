import Classwright.Text.Basic

/-!
# Text — scanning from the left

A scan reads a value off the front of a text and leaves the rest, or refuses.

* `Scan`: a scan with its result.
* `Scan.char`, `Scan.exact`, `Scan.takeWhile`, `Scan.upTo`: the elementary scans.
* `Scan.many`: as many as there are.
* `Scan.whole?`: the result of a scan that leaves nothing.
-/

namespace Classwright

/-- A scan reads a value off the front of a text, or refuses. -/
abbrev Scan := StateT Text Option

namespace Scan

variable {α β : Type}

/-- Refuses. -/
def refuse : Scan α := fun _ => none

/-- Refuses unless the condition holds. -/
def check (condition : Bool) : Scan Unit := fun t => if condition then some ((), t) else none

/-- A value that may be missing, as a scan. -/
def ofOption : Option α → Scan α
  | none => refuse
  | some a => pure a

/-- One character of a class. -/
def char (p : Char → Bool) : Scan Char
  | [] => none
  | c :: cs => if p c then some (c, cs) else none

/-- A fixed text. -/
def exact (expected : Text) : Scan Unit := fun t => (Text.after? expected t).map ((), ·)

/-- The characters of a class that the text begins with, perhaps none. -/
def takeWhile (p : Char → Bool) : Scan Text := fun t => some (t.takeWhile p, t.dropWhile p)

/-- The text in front of the first `mark`, which is read as well. -/
def upTo (mark : Text) : Scan Text
  | [] => if mark = [] then some ([], []) else none
  | c :: cs =>
      match Text.after? mark (c :: cs) with
      | some rest => some ([], rest)
      | none => (upTo mark cs).map fun found => (c :: found.1, found.2)

/-- Does the text go on with this one? Nothing is read. -/
def sees (expected : Text) : Scan Bool := fun t => some (expected.isPrefixOf t, t)

/-- The value, or nothing read where the scan refuses. -/
def maybe (scan : Scan α) : Scan (Option α) := fun t =>
  match scan t with
  | some (a, rest) => some (some a, rest)
  | none => some (none, t)

/-- At most `bound` values, as many as the scan finds. -/
def upToMany (scan : Scan α) : (bound : Nat) → Scan (List α)
  | 0 => pure []
  | bound + 1 => fun t =>
      match scan t with
      | none => some ([], t)
      | some (a, rest) => (upToMany scan bound rest).map fun found => (a :: found.1, found.2)

/-- As many values as the scan finds, each of at least one character. -/
def many (scan : Scan α) : Scan (List α) := fun t => upToMany scan t.length t

/-- The result of a scan that leaves nothing of the text. -/
def whole? (scan : Scan α) (t : Text) : Option α :=
  match scan t with
  | some (a, []) => some a
  | _ => none

/-! ### White space between signs -/

/-- White space that may stand between the signs of a written form. -/
def isSpace (c : Char) : Bool := c == ' ' || c == '\t' || c == '\n' || c == '\r'

/-- White space, perhaps none. -/
def spaces : Scan Unit := do let _ ← takeWhile isSpace

/-- White space, at least one character. -/
def spaces₁ : Scan Unit := do
  let _ ← char isSpace
  spaces

end Scan

end Classwright
