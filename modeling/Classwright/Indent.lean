import Classwright.Error

/-!
# Indent — leading columns and tab stops

* `Indent.width`: the columns of one level.
* `indentation`: the spaces of a level; a level below zero is refused.
* `Indent.fill`: spaces, one by one, until a text ends at a tab stop.
* `Indent.missing`: how many of these there are.
* `toTabStop`: spaces up to the next tab stop, at least one.
* `toTabStop_eq`: how many these are.
-/

namespace Classwright

/-- The columns of one level of indentation. -/
def Indent.width : Nat := 4

/-- Tab stops stand at the multiples of this column. -/
def Indent.tabStop : Nat := 4

/-- The spaces in front of a line at a level of indentation. -/
def indentation (level : Int) : Except Error Text :=
  if level < 0 then .error (.negativeIndent level)
  else .ok (List.replicate (Indent.width * level.toNat) ' ')

theorem indentation_ofNat (n : Nat) :
    indentation n = .ok (List.replicate (Indent.width * n) ' ') := by
  simp [indentation]

/-- The columns from the end of a text to the nearest tab stop; none when it ends at one. -/
def Indent.missing (t : Text) : Nat := (Indent.tabStop - t.length % Indent.tabStop) % Indent.tabStop

theorem Indent.missing_append_space {t : Text} (h : t.length % Indent.tabStop ≠ 0) :
    missing (t ++ [' ']) + 1 = missing t := by
  simp only [missing, Indent.tabStop, List.length_append, List.length_singleton] at *
  omega

/-- The text with spaces after it, one at a time, until it ends at a tab stop. -/
def Indent.fill (t : Text) : Text :=
  if t.length % Indent.tabStop = 0 then t else Indent.fill (t ++ [' '])
termination_by Indent.missing t
decreasing_by
  have := Indent.missing_append_space ‹_›
  omega

/-- The text with spaces after it up to the next tab stop. A text that already ends at a stop moves
on to the following one. -/
def toTabStop (t : Text) : Text := Indent.fill (t ++ [' '])

theorem Indent.append_space_replicate (t : Text) (n : Nat) :
    t ++ [' '] ++ List.replicate n ' ' = t ++ List.replicate (n + 1) ' ' := by
  rw [List.append_assoc, List.singleton_append, ← List.replicate_succ]

/-- Each space takes one from the missing columns, until there are none. -/
theorem Indent.fill_eq (t : Text) : fill t = t ++ List.replicate (missing t) ' ' := by
  fun_induction fill t with
  | case1 t stop => simp [missing, stop]
  | case2 t stop ih => rw [ih, append_space_replicate, missing_append_space stop]

/-- How many spaces lead to the next tab stop. -/
theorem toTabStop_eq (t : Text) :
    toTabStop t = t ++ List.replicate (Indent.tabStop - t.length % Indent.tabStop) ' ' := by
  have amount : Indent.missing (t ++ [' ']) + 1 = Indent.tabStop - t.length % Indent.tabStop := by
    simp only [Indent.missing, Indent.tabStop, List.length_append, List.length_singleton]
    omega
  rw [toTabStop, Indent.fill_eq, Indent.append_space_replicate, amount]

end Classwright
