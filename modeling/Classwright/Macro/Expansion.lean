import Classwright.Macro.Call
import Classwright.Macro.Placeholder

/-!
# Macro — expansion of a text

A call stands between double braces on one line. A text is read once into plain characters and
calls, and each call is replaced by its template with the arguments filled in; what comes out is
not read again.

* `Piece`: a plain character or the inside of a call.
* `pieces`: a text as plain characters and calls.
* `expandWith`: the text with every call replaced, by a given lookup of templates.
-/

namespace Classwright.Macro

open Text

/-! ### Finding calls -/

/-- The inside of a call that has just been opened, and what follows its end: up to the first two
closing braces on the same line. -/
def closeCall? : Text → Option (Text × Text)
  | [] => none
  | '}' :: '}' :: rest => some ([], rest)
  | c :: rest =>
      if c = '\n' then none else (closeCall? rest).map fun found => (c :: found.1, found.2)

theorem length_closeCall?_lt {t : Text} :
    ∀ {found : Text × Text}, closeCall? t = some found → found.2.length < t.length := by
  fun_induction closeCall? t with
  | case1 => intro _ h; cases h
  | case2 rest => intro _ h; cases h; simp only [List.length_cons]; omega
  | case3 => intro _ h; cases h
  | case4 c rest _ _ ih =>
      intro found h
      obtain ⟨inner, hi, rfl⟩ := Option.map_eq_some_iff.mp h
      have shorter := ih hi
      exact Nat.lt_succ_of_lt shorter

/-- A part of a text: a plain character or the inside of a call. -/
inductive Piece where
  | plain (c : Char)
  | call (inside : Text)
  deriving DecidableEq, Repr

/-- The call that a text begins with, and what follows it. -/
def callAt? (t : Text) : Option (Text × Text) := (after? "\x7b\x7b" t).bind closeCall?

theorem length_callAt?_lt {t : Text} {found : Text × Text} (h : callAt? t = some found) :
    found.2.length < t.length := by
  obtain ⟨rest, hr, hf⟩ := Option.bind_eq_some_iff.mp h
  rw [after?_eq_some_iff] at hr
  have := length_closeCall?_lt hf
  rw [hr, List.length_append]
  omega

/-- The plain characters and calls of a text, from the left. -/
def pieces (t : Text) : List Piece :=
  match _found : callAt? t with
  | some (inside, rest) => .call inside :: pieces rest
  | none =>
      match t with
      | [] => []
      | c :: rest => .plain c :: pieces rest
termination_by t.length
decreasing_by
  · exact length_callAt?_lt ‹_›
  · exact Nat.lt_succ_self _

/-! ### Replacing calls -/

/-- What a call stands for: the template that its first token names, with the other tokens as
arguments. -/
def expandCall (template? : Text → Option Text) (inside : Text) : Except Error Text := do
  match ← tokenise inside with
  | [] | [] :: _ => .error (.namelessCall ("\x7b\x7b" ++ inside ++ "\x7d\x7d"))
  | name :: arguments =>
      match template? name with
      | some template => .ok (substitute arguments template)
      | none => .error (.undefinedMacro name)

/-- What a row of pieces stands for. -/
def expandPieces (template? : Text → Option Text) : List Piece → Except Error Text
  | [] => .ok []
  | .plain c :: rest => do return c :: (← expandPieces template? rest)
  | .call inside :: rest => do
      let text ← expandCall template? inside
      return text ++ (← expandPieces template? rest)

/-- The text with every call replaced; the first call that cannot be is the failure. -/
def expandWith (template? : Text → Option Text) (t : Text) : Except Error Text :=
  expandPieces template? (pieces t)

end Classwright.Macro
