import Classwright.Text.Basic

/-!
# Text — lines

Two notions of line meet in this library. A *line feed* alone separates lines of free text and of
embedded code, once returns have been turned into line feeds. A *line boundary* is any character
or pair that ends a line on paper or screen; a finished file is read back along these.

* `Text.lines`: the pieces between line feeds.
* `Text.unifyReturns`: a return, with the line feed that may follow it, becomes a line feed.
* `Text.unifyReturnPairs`: only a return and line feed together become a line feed.
* `Text.boundaryLines`: the lines that line boundaries end.
-/

namespace Classwright.Text

/-- The pieces between line feeds. -/
def lines (t : Text) : List Text := split (· == '\n') t

/-- Every return, with the line feed that may follow it, becomes one line feed. -/
def unifyReturns : Text → Text
  | [] => []
  | '\r' :: '\n' :: cs => '\n' :: unifyReturns cs
  | c :: cs => (if c = '\r' then '\n' else c) :: unifyReturns cs

/-- Every return that a line feed follows merges with it into one line feed. -/
def unifyReturnPairs : Text → Text
  | [] => []
  | '\r' :: '\n' :: cs => '\n' :: unifyReturnPairs cs
  | c :: cs => c :: unifyReturnPairs cs

theorem return_not_mem_unifyReturns (t : Text) : '\r' ∉ unifyReturns t := by
  fun_induction unifyReturns t with
  | case1 => simp
  | case2 cs ih => simpa using ih
  | case3 c cs _ ih =>
      by_cases h : c = '\r'
      · simpa [h] using ih
      · simpa [h, Ne.symm h] using ih

/-! ### Line boundaries -/

/-- The characters that end a line: the feeds and returns, the three information separators above
the unit separator, the next line, and the line and paragraph separators of Unicode. -/
def boundaryRanges : CodeRanges :=
  [(0x0A, 0x0D), (0x1C, 0x1E), (0x85, 0x85), (0x2028, 0x2029)]

/-- The line that `t` begins with, and what follows its boundary. -/
def nextBoundary : Text → Text × Text
  | [] => ([], [])
  | '\r' :: '\n' :: cs => ([], cs)
  | c :: cs =>
      if boundaryRanges.contains c then ([], cs)
      else
        let further := nextBoundary cs
        (c :: further.1, further.2)

theorem length_nextBoundary_le (t : Text) : (nextBoundary t).2.length ≤ t.length := by
  fun_induction nextBoundary t with
  | case1 => simp
  | case2 cs => simp only [List.length_cons]; omega
  | case3 c cs => simp
  | case4 c cs _ _ further ih => exact Nat.le_succ_of_le ih

theorem length_nextBoundary_lt {t : Text} (h : t ≠ []) : (nextBoundary t).2.length < t.length := by
  fun_cases nextBoundary t with
  | case1 => exact absurd rfl h
  | case2 cs => simp only [List.length_cons]; omega
  | case3 c cs => simp
  | case4 c cs => simpa using Nat.lt_succ_of_le (length_nextBoundary_le cs)

/-- The lines of a text, each ended by a line boundary or by the end of the text; a boundary at
the very end starts no further line. -/
def boundaryLines (t : Text) : List Text :=
  if t = [] then [] else (nextBoundary t).1 :: boundaryLines (nextBoundary t).2
termination_by t.length
decreasing_by exact length_nextBoundary_lt ‹_›

end Classwright.Text
