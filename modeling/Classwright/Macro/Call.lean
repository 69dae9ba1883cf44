import Classwright.Error
import Classwright.Text.Blank

/-!
# Macro — calls and their tokens

The inside of a call is a row of tokens: a phrase between quotation marks, or a bare word up to the
next space. The first token names the macro and the rest are its arguments.

* `tokens?`: the tokens of a text without blanks in front; none when a quote never closes.
* `tokenise`: the tokens of the inside of a call.
-/

namespace Classwright.Macro

open Text

/-- What stands behind the first `mark`. -/
def behind (mark : Char) (t : Text) : Text := (t.dropWhile (· != mark)).tail

theorem length_behind_le (mark : Char) (t : Text) : (behind mark t).length ≤ t.length := by
  have := length_dropWhile_le (· != mark) t
  simp only [behind, List.length_tail]
  omega

/-- The tokens of a text that begins with no blank. -/
def tokens? : Text → Option (List Text)
  | [] => some []
  | c :: rest =>
      if c = '"' then
        if rest.contains '"' then
          (tokens? (trimStart (behind '"' rest))).map (rest.takeWhile (· != '"') :: ·)
        else none
      else (tokens? (trimStart (behind ' ' rest))).map ((c :: rest.takeWhile (· != ' ')) :: ·)
termination_by t => t.length
decreasing_by
  · exact Nat.lt_succ_of_le (Nat.le_trans (length_trimStart_le _) (length_behind_le _ _))
  · exact Nat.lt_succ_of_le (Nat.le_trans (length_trimStart_le _) (length_behind_le _ _))

/-- The tokens of the inside of a call. -/
def tokenise (call : Text) : Except Error (List Text) :=
  match tokens? (trim call) with
  | some tokens => .ok tokens
  | none => .error (.unclosedQuote call)

end Classwright.Macro
