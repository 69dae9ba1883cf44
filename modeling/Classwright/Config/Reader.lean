import Classwright.Config.Value
import Classwright.Text.Blank
import Classwright.Text.Lines
import Classwright.Text.Scan

/-!
# Config — values from a text

A configuration is written either with brackets, as JSON is, or as lines that each give one field a
scalar. A text that says nothing is the null value.

* `Scan.value`: a value written with brackets.
* `Value.ofJson?`: a whole text of that kind.
* `Value.ofText?`: a text of either kind.
-/

namespace Classwright.Config

open Classwright.Scan

namespace Scan

/-! ### Scalars -/

/-- The value of four digits in base sixteen. -/
def hexNumber : Text → Option Nat
  | [a, b, c, d] => do return 4096 * (← digit a) + 256 * (← digit b) + 16 * (← digit c) + (← digit d)
  | _ => none
where
  /-- The value of one digit. -/
  digit (c : Char) : Option Nat :=
    if c.isDigit then some (c.toNat - 48)
    else if 'a' ≤ c ∧ c ≤ 'f' then some (c.toNat - 87)
    else if 'A' ≤ c ∧ c ≤ 'F' then some (c.toNat - 55)
    else none

/-- A number of four digits, and the rest. -/
def unit? (t : Text) : Option (Nat × Text) := do return (← hexNumber (t.take 4), t.drop 4)

/-- The character that a numbered escape stands for, after its mark; two halves of a pair stand for
one character. -/
def numbered? (t : Text) : Option (Char × Text) := do
  let (high, rest) ← unit? t
  match rest with
  | '\\' :: 'u' :: next =>
      match unit? next with
      | some (low, rest') =>
          if 0xD800 ≤ high ∧ high < 0xDC00 ∧ 0xDC00 ≤ low ∧ low < 0xE000 then
            some (Char.ofNat (0x10000 + 0x400 * (high - 0xD800) + (low - 0xDC00)), rest')
          else some (Char.ofNat high, rest)
      | none => some (Char.ofNat high, rest)
  | _ => some (Char.ofNat high, rest)

/-- The characters with an escape of one letter. -/
def escapes : Table Char Char :=
  [('"', '"'), ('\\', '\\'), ('/', '/'), ('b', '\x08'), ('f', '\x0c'), ('n', '\n'), ('r', '\r'),
    ('t', '\t')]

/-- The text up to the closing quote, given a bound on its length. -/
def quotedRest : (bound : Nat) → Text → Option (Text × Text)
  | 0, _ => none
  | _, [] => none
  | _, '"' :: rest => some ([], rest)
  | bound + 1, '\\' :: 'u' :: rest => do
      let (c, rest) ← numbered? rest
      let (found, rest) ← quotedRest bound rest
      return (c :: found, rest)
  | bound + 1, '\\' :: mark :: rest => do
      let c ← escapes.find? mark
      let (found, rest) ← quotedRest bound rest
      return (c :: found, rest)
  | bound + 1, c :: rest => do
      let (found, rest) ← quotedRest bound rest
      return (c :: found, rest)

/-- A text between quotes. -/
def quotedText : Scan Text := do
  exact "\""
  fun t => quotedRest (t.length + 1) t

/-- The number that digits write. -/
def numberOf (digits : Text) : Nat := digits.foldl (fun n c => 10 * n + (c.toNat - 48)) 0

/-- A decimal number. -/
def number : Scan Value := do
  let minus ← maybe (exact "-")
  let whole ← takeWhile Char.isDigit
  check (whole != [])
  check (whole.length == 1 || whole.head? != some '0')
  let behind ← maybe do
    exact "."
    let digits ← takeWhile Char.isDigit
    check (digits != [])
    return digits
  let places := behind.getD []
  let units := Int.ofNat (numberOf (whole ++ places))
  return .number (if minus.isSome then -units else units) places.length

/-- A word with a meaning. -/
def word : Scan Value := do
  match ← takeWhile Char.isAlpha with
  | ['n', 'u', 'l', 'l'] => return .null
  | ['t', 'r', 'u', 'e'] => return .bool true
  | ['f', 'a', 'l', 's', 'e'] => return .bool false
  | _ => refuse

/-- A scalar. -/
def scalar : Scan Value := do
  if let some t ← maybe quotedText then return .text t
  if let some n ← maybe number then return n
  word

/-! ### Lists and records -/

/-- Items between two signs, with commas between them. -/
def between (opening closing : Text) (item : Scan α) : Scan (List α) := do
  exact opening
  spaces
  if (← maybe (exact closing)).isSome then return []
  let first ← item
  spaces
  let others ← many do
    exact ","
    spaces
    let next ← item
    spaces
    return next
  exact closing
  return first :: others

/-- A field with its value. -/
def field (value : Scan Value) : Scan (Text × Value) := do
  let name ← quotedText
  spaces
  exact ":"
  spaces
  return (name, ← value)

/-- A value, its lists and records nested no deeper than `depth`. -/
def valueWithin : (depth : Nat) → Scan Value
  | 0 => scalar
  | depth + 1 => do
      if (← sees "[") then return .list (← between "[" "]" (valueWithin depth))
      if (← sees "\x7b") then
        let fields ← between "\x7b" "\x7d" (field (valueWithin depth))
        return .record (fields.foldl (fun table (name, v) => Table.insert name v table) [])
      scalar

/-- A value with white space around it. -/
def value : Scan Value := do
  spaces
  let v ← fun t => valueWithin t.length t
  spaces
  return v

end Scan

end Config

namespace Value

open Classwright.Config

/-- The value that a text with brackets writes. -/
def ofJson? (t : Text) : Option Value := Scan.value.whole? t

/-- The scalar that the rest of a line writes; one without quotes and of no other form is a text. -/
def ofScalar (t : Text) : Value := (Scan.scalar.whole? t).getD (.text t)

/-- The field that a line writes, if it is no comment. -/
def fieldOfLine? (line : Text) : Option (Option (Text × Value)) :=
  match Text.trim line with
  | [] | '#' :: _ => some none
  | trimmed =>
      match (Scan.upTo ":").run trimmed with
      | some (name, rest) => some (some (Text.trimEnd name, ofScalar (Text.trim rest)))
      | none => none

/-- The value that lines with fields write. -/
def ofLines? (t : Text) : Option Value := do
  let fields := (← (Text.lines t).mapM fieldOfLine?).filterMap id
  return if fields = [] then .null
    else .record (fields.foldl (fun table (name, v) => Table.insert name v table) [])

/-- The value that a text writes. -/
def ofText? (t : Text) : Option Value :=
  match Text.trimStart t with
  | '\x7b' :: _ | '[' :: _ => ofJson? t
  | _ => ofLines? t

end Value

end Classwright
