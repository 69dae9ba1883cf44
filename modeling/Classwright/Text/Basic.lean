/-!
# Text — characters in a row

Every width, column and cut of this library counts characters, so a text is the list of them.

* `Text`: a list of characters; string literals coerce to it.
* `Text.le`: the order of texts.
* `Text.join`: texts laid end to end with one separator between neighbours.
* `Text.split`: the pieces between the characters a predicate picks.
* `CodeRanges`: a set of characters given by ranges of code points.
-/

namespace Classwright

/-- A text is the list of its characters. -/
abbrev Text := List Char

instance : Coe String Text := ⟨String.toList⟩

namespace Text

/-- A natural number in decimal. -/
def ofNat (n : Nat) : Text := (toString n).toList

/-- An integer in decimal, with a minus sign when it is negative. -/
def ofInt (n : Int) : Text := (toString n).toList

/-- The text, if the condition holds; else nothing. -/
def onlyIf (condition : Bool) (t : Text) : Text := if condition then t else []

/-- The text behind `lead`, unless it is empty; then nothing. -/
def clause (lead t : Text) : Text := if t = [] then [] else lead ++ t

/-- The order of texts: by their first different characters, by code point. -/
def le : (t u : Text) → Bool
  | [], _ => true
  | _ :: _, [] => false
  | c :: cs, d :: ds => c.toNat < d.toNat || (c == d && le cs ds)

/-! ### Joining and splitting -/

/-- The texts end to end, with `separator` between neighbours. -/
def join (separator : Text) : List Text → Text
  | [] => []
  | [t] => t
  | t :: u :: ts => t ++ separator ++ join separator (u :: ts)

@[simp] theorem join_nil (separator : Text) : join separator [] = [] := rfl

@[simp] theorem join_singleton (separator t : Text) : join separator [t] = t := rfl

theorem join_cons_cons (separator t u : Text) (ts : List Text) :
    join separator (t :: u :: ts) = t ++ separator ++ join separator (u :: ts) := rfl

theorem join_cons {separator : Text} (t : Text) {ts : List Text} (h : ts ≠ []) :
    join separator (t :: ts) = t ++ (separator ++ join separator ts) := by
  cases ts with
  | nil => exact absurd rfl h
  | cons u us => rw [join_cons_cons, List.append_assoc]

theorem prefix_join_cons (separator t : Text) (ts : List Text) :
    t <+: join separator (t :: ts) := by
  cases ts with
  | nil => exact List.prefix_rfl
  | cons u us =>
      rw [join_cons t (List.cons_ne_nil u us)]
      exact List.prefix_append _ _

theorem suffix_join_append (separator t : Text) (ts : List Text) :
    t <:+ join separator (ts ++ [t]) := by
  induction ts with
  | nil => exact List.suffix_rfl
  | cons u us ih =>
      rw [List.cons_append, join_cons u (by simp)]
      exact List.suffix_append_of_suffix (List.suffix_append_of_suffix ih)

theorem mem_join {separator : Text} {ts : List Text} {c : Char} (h : c ∈ join separator ts) :
    c ∈ separator ∨ ∃ t ∈ ts, c ∈ t := by
  induction ts with
  | nil => cases h
  | cons t ts ih =>
      by_cases last : ts = []
      · rw [last, join_singleton] at h
        exact .inr ⟨t, List.mem_cons_self, h⟩
      · rw [join_cons t last] at h
        rcases List.mem_append.mp h with h | h
        · exact .inr ⟨t, List.mem_cons_self, h⟩
        · rcases List.mem_append.mp h with h | h
          · exact .inl h
          · refine (ih h).imp_right ?_
            rintro ⟨u, hu, hc⟩
            exact ⟨u, List.mem_cons_of_mem _ hu, hc⟩

/-- Puts a character in front of the first piece. -/
def consFirst (c : Char) : List Text → List Text
  | [] => [[c]]
  | p :: ps => (c :: p) :: ps

@[simp] theorem consFirst_cons (c : Char) (p : Text) (ps : List Text) :
    consFirst c (p :: ps) = (c :: p) :: ps := rfl

theorem consFirst_ne_nil (c : Char) (ps : List Text) : consFirst c ps ≠ [] := by
  cases ps <;> simp [consFirst]

/-- The pieces between the characters that `cut` picks; one more piece than such characters. -/
def split (cut : Char → Bool) : Text → List Text
  | [] => [[]]
  | c :: cs => if cut c then [] :: split cut cs else consFirst c (split cut cs)

@[simp] theorem split_nil (cut : Char → Bool) : split cut [] = [[]] := rfl

theorem split_ne_nil (cut : Char → Bool) (t : Text) : split cut t ≠ [] := by
  cases t with
  | nil => simp
  | cons c cs =>
      simp only [split]
      split
      · simp
      · exact consFirst_ne_nil _ _

/-! ### Fixed texts inside a text -/

/-- What follows `start` in a text that begins with it. -/
def after? : (start t : Text) → Option Text
  | [], t => some t
  | _ :: _, [] => none
  | s :: ss, c :: cs => if s = c then after? ss cs else none

theorem after?_eq_some_iff {start t rest : Text} :
    after? start t = some rest ↔ t = start ++ rest := by
  induction start generalizing t with
  | nil => simp [after?, eq_comm]
  | cons s ss ih =>
      cases t with
      | nil => simp [after?]
      | cons c cs =>
          by_cases h : s = c
          · simp [after?, h, ih]
          · simp [after?, h, Ne.symm h]

/-- How often `part` stands in `t`, counting from the left without overlap; a position is passed
over when the occurrence counted last still covers it (`covered` more characters). -/
def occurrences (part : Text) : (covered : Nat) → (t : Text) → Nat
  | _, [] => 0
  | covered + 1, _ :: cs => occurrences part covered cs
  | 0, c :: cs =>
      if part.isPrefixOf (c :: cs) then occurrences part (part.length - 1) cs + 1
      else occurrences part 0 cs

/-- How often `part`, which is not empty, stands in `t` without overlap. -/
def count (part t : Text) : Nat := occurrences part 0 t

end Text

/-! ### Sets of characters -/

/-- Ranges of code points, both ends included. -/
abbrev CodeRanges := List (Nat × Nat)

namespace CodeRanges

/-- Is the character in one of the ranges? -/
def contains (ranges : CodeRanges) (c : Char) : Bool :=
  ranges.any fun r => r.1 ≤ c.toNat && c.toNat ≤ r.2

end CodeRanges

end Classwright
