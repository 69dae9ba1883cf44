import Classwright.Text.Digit
import Classwright.Text.Blank

/-!
# Macro — placeholders

A template marks the place of its first argument by `$1`, of its second by `$2`, and so on, in
digits of any script. All places are filled at once, so what an argument says is never read again.

* `argument?`: the argument of a number.
* `substitute`: a template with its arguments.
-/

namespace Classwright.Macro

open Text

/-- The argument of a number; the first has number one. -/
def argument? (arguments : List Text) : (number : Nat) → Option Text
  | 0 => none
  | number + 1 => arguments[number]?

/-- The template with each placeholder replaced by its argument. A placeholder without an argument
stays. -/
def substitute (arguments : List Text) : (template : Text) → Text
  | [] => []
  | c :: rest =>
      if c = '$' then
        match digits rest with
        | [] => '$' :: substitute arguments rest
        | d :: ds =>
            (argument? arguments (numeral (d :: ds))).getD ('$' :: d :: ds)
              ++ substitute arguments (afterDigits rest)
      else c :: substitute arguments rest
termination_by template => template.length
decreasing_by
  · exact Nat.lt_succ_self _
  · exact Nat.lt_succ_of_le (length_dropWhile_le _ _)
  · exact Nat.lt_succ_self _

@[simp] theorem substitute_nil (arguments : List Text) : substitute arguments [] = [] := by
  simp [substitute]

/-- A text without a dollar sign is its own expansion. -/
theorem substitute_eq_self {arguments : List Text} {template : Text} (h : '$' ∉ template) :
    substitute arguments template = template := by
  induction template with
  | nil => simp
  | cons c rest ih =>
      simp only [List.mem_cons, not_or] at h
      rw [substitute, if_neg (Ne.symm h.1), ih h.2]

end Classwright.Macro
