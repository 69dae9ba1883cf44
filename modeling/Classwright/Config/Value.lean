import Classwright.Table
import Classwright.Text.Quoted

/-!
# Config — values

A configuration is a value: a scalar, a list of values, or fields with values.

* `Value`: values.
* `Value.field?`, `Value.isBlank`: looking at one.
* `Value.shown`: a value as messages show it.
-/

namespace Classwright

/-- A value. -/
inductive Value where
  | null
  | bool (b : Bool)
  /-- A decimal number: so many units of the last of so many places behind the point. -/
  | number (units : Int) (places : Nat)
  | text (t : Text)
  | list (items : List Value)
  | record (fields : List (Text × Value))
  deriving Repr

namespace Value

/-- The value of a whole number. -/
def int (n : Int) : Value := .number n 0

/-- The fields of a value, if it has some. -/
def fields? : Value → Option (Table Text Value)
  | record fields => some fields
  | _ => none

/-- The value of a field. -/
def field? (value : Value) (name : Text) : Option Value :=
  value.fields?.bind fun fields => fields.find? name

/-- Is the value null, no, zero or empty? -/
def isBlank : Value → Bool
  | null | bool false | text [] | list [] | record [] => true
  | number units _ => units == 0
  | _ => false

/-! ### Values in messages -/

/-- A decimal number, with at least one place behind its point if it has one. -/
def numberText (units : Int) (places : Nat) : Text :=
  if places = 0 then Text.ofInt units
  else
    let digits := Text.ofNat units.natAbs
    let padded := List.replicate (places + 1 - digits.length) '0' ++ digits
    let whole := padded.take (padded.length - places)
    let behind := padded.drop (padded.length - places)
    let needed := (behind.reverse.dropWhile (· == '0')).reverse
    Text.onlyIf (units < 0) "-" ++ whole ++ "." ++ (if needed = [] then ['0'] else needed)

mutual

/-- A value inside another as messages show it: texts between quotes. -/
def inner : Value → Text
  | null => "None"
  | bool true => "True"
  | bool false => "False"
  | number units places => numberText units places
  | text t => t.quoted
  | list items => "[" ++ innerItems items ++ "]"
  | record fields => "\x7b" ++ innerFields fields ++ "\x7d"

/-- The items of a list, with commas between them. -/
def innerItems : List Value → Text
  | [] => []
  | [item] => inner item
  | item :: next :: rest => inner item ++ ", " ++ innerItems (next :: rest)

/-- The fields of a record, with commas between them. -/
def innerFields : List (Text × Value) → Text
  | [] => []
  | [(name, item)] => name.quoted ++ ": " ++ inner item
  | (name, item) :: next :: rest =>
      name.quoted ++ ": " ++ inner item ++ ", " ++ innerFields (next :: rest)

end

/-- A value as messages show it: a text as it stands. -/
def shown : Value → Text
  | text t => t
  | value => inner value

end Value

end Classwright
