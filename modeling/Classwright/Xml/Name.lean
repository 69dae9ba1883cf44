import Classwright.Xml.NameTable
import Classwright.Text.Scan

/-!
# Xml — characters, names and references

* `isXmlChar`: the characters that a document may hold.
* `Name`: a name with the prefix that stands before its colon, if any.
* `Scan.plainName`, `Scan.name`: a name without and with a prefix.
* `Reference`, `Scan.reference`: a character or an entity by its name.
-/

namespace Classwright.Xml

open Classwright.Scan

/-- Can a document hold this code point? All controls but tab, line feed and return are out, and
so are surrogates and the last two code points of the first plane. -/
def isXmlCode (n : Nat) : Bool :=
  n == 0x9 || n == 0xA || n == 0xD || (0x20 ≤ n && n < 0xD800) || (0xE000 ≤ n && n < 0xFFFE)
    || (0x10000 ≤ n && n < 0x110000)

/-- Can a document hold this character? -/
def isXmlChar (c : Char) : Bool := isXmlCode c.toNat

/-! ### Names -/

/-- Can a name begin with this character? -/
def isNameStart (c : Char) : Bool := nameStartRanges.contains c

/-- Can a name hold this character? -/
def isNameChar (c : Char) : Bool := isNameStart c || nameFurtherRanges.contains c

/-- A name, with its prefix if it has one. -/
structure Name where
  qualifier : Option Text
  base : Text
  deriving DecidableEq, Repr

namespace Scan

/-- A name without a colon. -/
def plainName : Scan Text := do
  let c ← char isNameStart
  return c :: (← takeWhile isNameChar)

/-- A name, perhaps with a prefix. -/
def name : Scan Name := do
  let first ← plainName
  match ← maybe (exact ":") with
  | none => return ⟨none, first⟩
  | some () => return ⟨some first, ← plainName⟩

/-- A row of name characters, colons among them. -/
def nameToken : Scan Text := do
  let token ← takeWhile fun c => isNameChar c || c == ':'
  check (!token.isEmpty)
  return token

end Scan

/-! ### References -/

/-- What a reference stands for: a character by its number, or an entity by its name. -/
inductive Reference where
  | char (c : Char)
  | entity (name : Text)
  deriving DecidableEq, Repr

/-- The number that digits write in a base up to sixteen. -/
def numberOf (base : Nat) (digits : Text) : Nat :=
  digits.foldl (fun n c => base * n + digit c) 0
where
  /-- The value of a digit. -/
  digit (c : Char) : Nat :=
    if c.isDigit then c.toNat - 48 else if 'a' ≤ c then c.toNat - 87 else c.toNat - 55

/-- Is the character a digit in base sixteen? -/
def isHexDigit (c : Char) : Bool :=
  c.isDigit || ('a' ≤ c && c ≤ 'f') || ('A' ≤ c && c ≤ 'F')

namespace Scan

/-- A character by its number, after the mark that announces a number. -/
def charNumber : Scan Char := do
  let hex ← maybe (exact "x")
  let digits ← takeWhile (if hex.isSome then isHexDigit else Char.isDigit)
  check (!digits.isEmpty)
  let n := numberOf (if hex.isSome then 16 else 10) digits
  check (isXmlCode n)
  return Char.ofNat n

/-- A reference, after its ampersand. -/
def reference : Scan Reference := do
  match ← maybe (exact "#") with
  | some () =>
      let c ← charNumber
      exact ";"
      return .char c
  | none =>
      let entity ← plainName
      exact ";"
      return .entity entity

end Scan

end Classwright.Xml
