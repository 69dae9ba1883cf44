import Classwright.Comment.Paragraph

/-!
# Comment — wrapped lines

A paragraph is laid out behind a *head*: indentation, comment marker, a space and, for some texts,
a continuation indent. A line that is too wide breaks at the last space that leaves no more than
the width in front of it, or, when a word alone is too wide, at the first space after that word.

* `decorate`: content behind a decoration.
* `findLastBreak`: where a line breaks.
* `wrapParagraph`: the lines of one paragraph.
* `wrap`: the lines of free text, with a bare decoration between paragraphs.
-/

namespace Classwright.Comment

open Text

/-- The widest line, in columns. -/
def lineWidth : Nat := 80

/-- The content behind a decoration, one space between; the bare decoration when there is none. -/
def decorate (decoration : Text) (content : Text) : Text :=
  if content = [] then decoration else decoration ++ " " ++ content

/-! ### Where a line breaks -/

/-- The position that an index names in a text of `length` characters: a negative one counts from
the end, and none lies before the start. -/
def position (length : Nat) (index : Int) : Nat :=
  if index < 0 then (length + index).toNat else index.toNat

/-- The place of the first space of a text. -/
def firstSpace? : Text → Option Nat
  | [] => none
  | c :: cs => if c = ' ' then some 0 else (firstSpace? cs).map (· + 1)

/-- The place of the last space of a text. -/
def lastSpace? : Text → Option Nat
  | [] => none
  | c :: cs =>
      match lastSpace? cs with
      | some i => some (i + 1)
      | none => if c = ' ' then some 0 else none

/-- The space at which a line breaks: the last one from `start` up to the column after `width`,
else the first one from `start` on. -/
def findLastBreak (line : Text) (start width : Int) : Option Nat :=
  let origin := position line.length start
  let stop := position line.length (width + 1)
  let place? :=
    match lastSpace? ((line.take stop).drop origin) with
    | some i => some i
    | none => firstSpace? (line.drop origin)
  place?.map (origin + ·)

theorem firstSpace?_lt {t : Text} {i : Nat} (h : firstSpace? t = some i) : i < t.length := by
  induction t generalizing i with
  | nil => cases h
  | cons c cs ih =>
      simp only [firstSpace?] at h
      split at h
      · cases h; exact Nat.succ_pos _
      · obtain ⟨j, hj, rfl⟩ := Option.map_eq_some_iff.mp h
        exact Nat.succ_lt_succ (ih hj)

theorem lastSpace?_lt {t : Text} {i : Nat} (h : lastSpace? t = some i) : i < t.length := by
  induction t generalizing i with
  | nil => cases h
  | cons c cs ih =>
      simp only [lastSpace?] at h
      split at h
      next j hj => cases h; exact Nat.succ_lt_succ (ih hj)
      next =>
        split at h
        · cases h; exact Nat.succ_pos _
        · cases h

/-- A break lies inside the line, and not before `start`. -/
theorem findLastBreak_bounds {line : Text} {start : Nat} {width : Int} {i : Nat}
    (h : findLastBreak line start width = some i) : start ≤ i ∧ i < line.length := by
  simp only [findLastBreak, Option.map_eq_some_iff] at h
  obtain ⟨j, hj, rfl⟩ := h
  have origin_eq : position line.length start = start := by
    rw [position, if_neg (by omega)]
    rfl
  rw [origin_eq] at hj ⊢
  refine ⟨Nat.le_add_right _ _, ?_⟩
  split at hj
  next k hk =>
    cases hj
    have := lastSpace?_lt hk
    simp only [List.length_drop, List.length_take] at this
    omega
  next =>
    have := firstSpace?_lt hj
    simp only [List.length_drop] at this
    omega

/-! ### Laying out -/

/-- The lines of a paragraph behind `head`, each without trailing blanks; the spaces at a break
vanish. -/
def wrapParagraph (head : Text) (width : Int) (paragraph : Text) : List Text :=
  let line := head ++ paragraph
  if paragraph = [] then []
  else if line.length ≤ width then [trimEnd line]
  else
    match found : findLastBreak line head.length width with
    | none => [trimEnd line]
    | some i =>
        trimEnd (line.take i)
          :: wrapParagraph head width ((line.drop (i + 1)).dropWhile (· == ' '))
termination_by paragraph.length
decreasing_by
  have bounds := findLastBreak_bounds found
  have := length_dropWhile_le (· == ' ') ((head ++ paragraph).drop (i + 1))
  simp only [line, List.length_drop, List.length_append] at this bounds ⊢
  omega

/-- What stands in front of the content of every line. -/
def head (decoration continuation : Text) : Text := decoration ++ " " ++ continuation

/-- The groups of lines, with `between` from each group to the next. -/
def separate (between : Text) : List (List Text) → List Text
  | [] => []
  | [ls] => ls
  | ls :: ms :: rest => ls ++ between :: separate between (ms :: rest)

/-- Free text as decorated lines no wider than `width` where words allow it. -/
def wrap (t decoration continuation : Text) (width : Int) : List Text :=
  separate (trimEnd decoration)
    ((paragraphs t).map (wrapParagraph (head decoration continuation) width))

end Classwright.Comment
