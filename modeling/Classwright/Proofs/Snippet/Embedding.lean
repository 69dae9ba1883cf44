import Classwright.Proofs.Snippet.Remainder
import Mathlib.Data.List.Forall2

/-!
# Snippet — code that was embedded comes back

Code is embedded at some margin, between a line with an opening marker and one with a closing
marker, and its lines end in a line feed or in a return and a line feed.  A return in front of a
line feed may be lost when the lines are read, but it is a blank, and all that counts of a line is
what it is up to the blanks at its end.

* `Bears`: a line with a body behind a front, and blanks at its end.
* `Shown`, `Framed`: a line of code at a margin; a line of the frame.
* `laidOut`, `map_trimEnd_lines`: lines end to end, and what is read of them.
* `isBlank_withoutOpening`, `isBlank_withoutClosing`: nothing is left of the frame.
* `margin_of_shown`, `dedent_of_shown`: the margin of the lines, and the lines without it.
* `normalise_embedded`: embedded code, normalised, is the code.
-/

namespace Classwright.Snippet

open Text

/-! ### Embedded code -/

/-- A line with a body behind a front, and blanks at its end. -/
def Bears (front body written : Text) : Prop :=
  ∃ behind, isBlank behind = true ∧ written = front ++ (body ++ behind)

/-- A line of code as it stands at a margin: behind as many spaces, maybe with blanks at its end.
An empty line is any blank line. -/
inductive Shown (k : Nat) : Text → Text → Prop
  | empty {written : Text} (h : isBlank written = true) : Shown k [] written
  | code {line written : Text} (said : line ≠ []) (h : Bears (List.replicate k ' ') line written) :
      Shown k line written

/-- The markers in front of code. -/
def openings : List Text := ["<?php", "<?"]

/-- The marker behind code. -/
def closings : List Text := ["?>"]

/-- A line of the frame: blank, or a marker between blanks. -/
inductive Framed (markers : List Text) : Text → Prop
  | bare {written : Text} (h : isBlank written = true) : Framed markers written
  | marked {before marker written : Text} (blanks : isBlank before = true) (h : marker ∈ markers)
      (bears : Bears before marker written) : Framed markers written

/-- What ends a line: a line feed, with a return in front if it is paired. -/
def ending (paired : Bool) : Text := if paired then ['\r', '\n'] else ['\n']

/-- Lines end to end, each further one behind the ending of the line before. -/
def laidOut (first : Text) : List (Bool × Text) → Text
  | [] => first
  | (paired, line) :: rest => first ++ (ending paired ++ laidOut line rest)

/-! ### Lines up to the blanks at their end -/

/-- Lines that are the same up to the blanks at their end bear the same body. -/
theorem Bears.of_trimEnd {front body written read : Text} (h : Bears front body written)
    (said : body ≠ []) (trimmed : trimEnd body = body) (same : trimEnd read = trimEnd written) :
    Bears front body read := by
  obtain ⟨behind, blanks, rfl⟩ := h
  have kept : trimEnd (front ++ (body ++ behind)) = front ++ body := by
    rw [← List.append_assoc, trimEnd_append_blanks (isBlank_eq_true_iff.mp blanks),
      trimEnd_append_of_said front (isBlank_of_trimEnd said trimmed), trimmed]
  obtain ⟨rest, hr, whole⟩ := exists_trimEnd_append read
  exact ⟨rest, hr, by rw [whole, same, kept, List.append_assoc]⟩

theorem isBlank_of_trimEnd_eq {t u : Text} (same : trimEnd t = trimEnd u) (h : isBlank u = true) :
    isBlank t = true := by
  rw [← trimEnd_eq_nil_iff, same, trimEnd_eq_nil_iff, h]

theorem Shown.of_trimEnd {k : Nat} {line written read : Text} (h : Shown k line written)
    (trimmed : trimEnd line = line) (same : trimEnd read = trimEnd written) :
    Shown k line read := by
  cases h with
  | empty h => exact .empty (isBlank_of_trimEnd_eq same h)
  | code said h => exact .code said (h.of_trimEnd said trimmed same)

theorem Framed.of_trimEnd {markers : List Text} {written read : Text} (h : Framed markers written)
    (solid : ∀ marker ∈ markers, marker ≠ [] ∧ trimEnd marker = marker)
    (same : trimEnd read = trimEnd written) : Framed markers read := by
  cases h with
  | bare h => exact .bare (isBlank_of_trimEnd_eq same h)
  | marked blanks h bears =>
      exact .marked blanks h (bears.of_trimEnd (solid _ h).1 (solid _ h).2 same)

theorem shown_of_map_trimEnd {k : Nat} {code written read : List Text}
    (h : List.Forall₂ (Shown k) code written) (trimmed : ∀ line ∈ code, trimEnd line = line)
    (same : read.map trimEnd = written.map trimEnd) : List.Forall₂ (Shown k) code read := by
  induction h generalizing read with
  | nil =>
      rw [List.map_eq_nil_iff.mp same]
      exact .nil
  | cons shown _ ih =>
      obtain ⟨first, trimmed⟩ := List.forall_mem_cons.mp trimmed
      obtain ⟨line, rest, rfl, hl, further⟩ := List.map_eq_cons_iff.mp same
      exact .cons (shown.of_trimEnd first hl) (ih trimmed further)

/-! ### Line endings -/

/-- Returns are kept up to a line feed, except for one in front of it. -/
theorem unifyReturnPairs_feedless_append {t : Text} (u : Text) (feed : '\n' ∉ t)
    (apart : t.getLast? ≠ some '\r' ∨ u.head? ≠ some '\n') :
    unifyReturnPairs (t ++ u) = t ++ unifyReturnPairs u := by
  rw [unifyReturnPairs_append u apart, unifyReturnPairs_of_feedless feed]

/-- What is read of a line: the line, or the line without a return that stood in front of a lone
line feed. -/
theorem exists_read {line : Text} (paired : Bool) (u : Text) (feed : '\n' ∉ line) :
    ∃ read, '\n' ∉ read ∧ trimEnd read = trimEnd line ∧
      unifyReturnPairs (line ++ (ending paired ++ u)) = read ++ '\n' :: unifyReturnPairs u := by
  cases paired with
  | true => exact ⟨line, feed, rfl, unifyReturnPairs_feedless_append _ feed (.inr (by simp [ending]))⟩
  | false =>
      by_cases last : line.getLast? = some '\r'
      · obtain ⟨init, rfl⟩ := List.getLast?_eq_some_iff.mp last
        have feed : '\n' ∉ init := fun h => feed (List.mem_append_left _ h)
        refine ⟨init, feed, (trimEnd_append_blanks (isBlank_eq_true_iff.mp rfl)).symm, ?_⟩
        rw [List.append_assoc]
        exact unifyReturnPairs_feedless_append _ feed (.inr (by simp))
      · exact ⟨line, feed, rfl, unifyReturnPairs_feedless_append _ feed (.inl last)⟩

/-- Up to the blanks at their end, lines that are laid out are read as they were. -/
theorem map_trimEnd_lines {first : Text} {further : List (Bool × Text)}
    (feeds : ∀ line ∈ first :: further.map Prod.snd, '\n' ∉ line) :
    (lines (unifyReturnPairs (laidOut first further))).map trimEnd
      = (first :: further.map Prod.snd).map trimEnd := by
  induction further generalizing first with
  | nil =>
      have feed := feeds first List.mem_cons_self
      rw [laidOut, unifyReturnPairs_of_feedless feed, lines_of_feedless feed]
      rfl
  | cons next rest ih =>
      obtain ⟨paired, line⟩ := next
      obtain ⟨feed, feeds⟩ := List.forall_mem_cons.mp feeds
      obtain ⟨read, feed, same, whole⟩ := exists_read paired (laidOut line rest) feed
      rw [laidOut, whole, lines_append_cons, lines_of_feedless feed, List.map_append, ih feeds,
        List.map_singleton, same]
      rfl

/-! ### The frame -/

/-- Of a line with an opening marker only blanks are left. -/
theorem isBlank_withoutOpening {line : Text} (h : Framed openings line) :
    isBlank (withoutOpening line) = true := by
  cases h with
  | bare h =>
      rw [withoutOpening, trimStart_eq_nil_iff.mpr h]
      exact h
  | marked front h bears =>
      obtain ⟨behind, blanks, rfl⟩ := bears
      rcases List.mem_pair.mp h with rfl | rfl
      · rw [withoutOpening_long behind front]
        exact blanks
      · have alone : ¬ ("php" : Text) <+: behind := by
          -- The blanks behind the short marker do not begin with the rest of the long one.
          rintro ⟨rest, rfl⟩
          cases blanks
        rw [withoutOpening_short front alone]
        exact blanks

/-- Of a line with a closing marker only blanks are left. -/
theorem isBlank_withoutClosing {line : Text} (h : Framed closings line) :
    isBlank (withoutClosing line) = true := by
  cases h with
  | bare h =>
      rw [withoutClosing, trimEnd_eq_nil_iff.mpr h]
      exact h
  | @marked before _ _ front h bears =>
      obtain ⟨behind, blanks, rfl⟩ := bears
      obtain rfl := List.mem_singleton.mp h
      rw [withoutClosing_marked before blanks]
      exact front

/-! ### The margin -/

theorem leading_spaces_append (k : Nat) (t : Text) :
    leading (List.replicate k ' ' ++ t) = k + leading t := by
  rw [leading_append, List.length_replicate]
  intro c hc
  rw [List.eq_of_mem_replicate hc]
  decide

theorem leading_of_trimStart {t : Text} (u : Text) (said : t ≠ []) (h : trimStart t = t) :
    leading (t ++ u) = 0 := by
  obtain ⟨c, cs, rfl⟩ := List.exists_cons_of_ne_nil said
  exact leading_cons (cs ++ u) (blank_of_trimStart h)

/-- No line that says something stands left of the margin. -/
theorem Shown.le_leading {k : Nat} {line read : Text} (h : Shown k line read)
    (speaks : isBlank read = false) : k ≤ leading read := by
  cases h with
  | empty h =>
      rw [h] at speaks
      cases speaks
  | code _ h =>
      obtain ⟨behind, -, rfl⟩ := h
      rw [leading_spaces_append]
      exact Nat.le_add_right k _

/-- A line without blanks in front stands at the margin. -/
theorem Shown.leading_eq {k : Nat} {line read : Text} (h : Shown k line read) (said : line ≠ [])
    (starts : trimStart line = line) : isBlank read = false ∧ leading read = k := by
  cases h with
  | empty h => exact absurd rfl said
  | code _ h =>
      obtain ⟨behind, -, rfl⟩ := h
      constructor
      · have speaks : isBlank line = false := by
          rw [Bool.eq_false_iff, Ne, ← trimStart_eq_nil_iff, starts]
          exact said
        exact isBlank_append_said _ (isBlank_of_isPrefixOf (List.prefix_append line behind) speaks)
      · rw [leading_spaces_append, leading_of_trimStart behind said starts, Nat.add_zero]

theorem leading_of_shown {k : Nat} {code read : List Text}
    (h : List.Forall₂ (Shown k) code read) :
    (∀ r ∈ read, isBlank r = false → k ≤ leading r) ∧
      ∀ line ∈ code, line ≠ [] → trimStart line = line →
        ∃ r ∈ read, isBlank r = false ∧ leading r = k := by
  induction h with
  | nil => simp
  | cons shown _ ih =>
      obtain ⟨least, flush⟩ := ih
      refine ⟨List.forall_mem_cons.mpr ⟨shown.le_leading, least⟩, List.forall_mem_cons.mpr ⟨?_, ?_⟩⟩
      · exact fun said starts => ⟨_, List.mem_cons_self, shown.leading_eq said starts⟩
      · intro line hl said starts
        obtain ⟨r, hr, found⟩ := flush line hl said starts
        exact ⟨r, List.mem_cons_of_mem _ hr, found⟩

/-- The margin of lines of code, one of which has no blanks in front, is theirs. -/
theorem margin_of_shown {k : Nat} {code read : List Text} (h : List.Forall₂ (Shown k) code read)
    (flush : ∃ line ∈ code, line ≠ [] ∧ trimStart line = line) : margin read = k := by
  obtain ⟨least, reached⟩ := leading_of_shown h
  obtain ⟨line, hl, said, starts⟩ := flush
  obtain ⟨r, hr, speaks, at_margin⟩ := reached line hl said starts
  obtain ⟨l, hl, said, same⟩ := exists_leading_eq_margin ⟨r, hr, speaks⟩
  exact Nat.le_antisymm (at_margin ▸ margin_le hr speaks) (same ▸ least l hl said)

theorem margin_concat_of_blank (ls : List Text) {l : Text} (h : isBlank l = true) :
    margin (ls ++ [l]) = margin ls := by
  rw [margin, List.filter_append, List.filter_singleton, h]
  simp [margin]

/-! ### Without the margin -/

/-- A line of code without the margin. -/
theorem dedent_of_shown {k : Nat} {line read : Text} (h : Shown k line read)
    (trimmed : trimEnd line = line) : dedent k read = line := by
  cases h with
  | empty h => exact dedent_of_blank k h
  | code said h =>
      obtain ⟨behind, blanks, rfl⟩ := h
      rw [dedent, leading_spaces_append, Nat.min_eq_right (Nat.le_add_right k _),
        List.drop_left' List.length_replicate,
        trimEnd_append_blanks (isBlank_eq_true_iff.mp blanks), trimmed]

theorem map_dedent_of_shown {k : Nat} {code read : List Text}
    (h : List.Forall₂ (Shown k) code read) (trimmed : ∀ line ∈ code, trimEnd line = line) :
    read.map (dedent k) = code := by
  induction h with
  | nil => rfl
  | cons shown _ ih =>
      obtain ⟨first, trimmed⟩ := List.forall_mem_cons.mp trimmed
      rw [List.map_cons, dedent_of_shown shown first, ih trimmed]

/-! ### The whole -/

/-- Between blank lines, what is left are the lines without their margin. -/
theorem normalise_of_unmarked {raw opening closing : Text} {ls : List Text}
    (h : unmarked raw = opening :: (ls ++ [closing])) (first : isBlank opening = true)
    (last : isBlank closing = true) : normalise raw = ls.map (dedent (margin ls)) := by
  rw [normalise_of_several (by simp) h, margin_concat_of_blank ls last, List.map_cons,
    List.map_append, List.map_singleton, dedent_of_blank _ first, dedent_of_blank _ last,
    dropBlankLast, ← List.cons_append, List.getLast?_concat, List.dropLast_concat]
  rfl

/-- **Embedded code comes back.**  Lines of code without blanks at their ends, one of them without
blanks in front, that stand at a margin between a line with an opening marker or none and a line
with a closing marker or none, are what is left of their text, however each line ends. -/
theorem normalise_embedded {k : Nat} {code written : List Text} {opening closing : Text}
    {further : List (Bool × Text)} (trimmed : ∀ line ∈ code, trimEnd line = line)
    (flush : ∃ line ∈ code, line ≠ [] ∧ trimStart line = line)
    (shown : List.Forall₂ (Shown k) code written) (opens : Framed openings opening)
    (closes : Framed closings closing) (behind : further.map Prod.snd = written ++ [closing])
    (feeds : ∀ line ∈ opening :: further.map Prod.snd, '\n' ∉ line) :
    normalise (laidOut opening further) = code := by
  have read := map_trimEnd_lines feeds
  rw [behind, List.map_cons, List.map_append] at read
  obtain ⟨first, rest, cut, hf, read⟩ := List.map_eq_cons_iff.mp read
  obtain ⟨ls, final, rfl, hl, read⟩ := List.map_eq_append_iff.mp read
  obtain ⟨last, rfl, he⟩ := List.map_eq_singleton_iff.mp read
  have shown := shown_of_map_trimEnd shown trimmed hl
  have opens := opens.of_trimEnd (by decide) hf
  have closes := closes.of_trimEnd (by decide) he
  have left : unmarked (laidOut opening further)
      = withoutOpening first :: (ls ++ [withoutClosing last]) := by
    rw [unmarked, cut, mapFirst, ← List.cons_append, mapLast_concat, List.cons_append]
  rw [normalise_of_unmarked left (isBlank_withoutOpening opens) (isBlank_withoutClosing closes),
    margin_of_shown shown flush, map_dedent_of_shown shown trimmed]

/-- A condition in code. -/
def condition : List Text := ["if ($a):", "", "  b();", "endif;"]

/-- The lines of the condition at a margin of four, and a closing marker behind. -/
def conditionLines : List (Bool × Text) :=
  [(true, "    if ($a):"), (false, "\t "), (true, "      b();"), (false, "    endif;"),
    (true, "  ?> ")]

/-- The condition comes back from a text with both line endings. -/
theorem condition_comes_back :
    normalise "<?php \r\n    if ($a):\n\t \r\n      b();\n    endif;\r\n  ?> " = condition := by
  have shown : List.Forall₂ (Shown 4) condition ((conditionLines.map Prod.snd).dropLast) :=
    .cons (.code (by decide) ⟨[], rfl, rfl⟩) (.cons (.empty rfl)
      (.cons (.code (by decide) ⟨[], rfl, rfl⟩) (.cons (.code (by decide) ⟨[], rfl, rfl⟩) .nil)))
  have opens : Framed openings "<?php " :=
    .marked (show isBlank [] = true from rfl) List.mem_cons_self ⟨[' '], rfl, rfl⟩
  have closes : Framed closings "  ?> " :=
    .marked (show isBlank "  " = true from rfl) List.mem_cons_self ⟨[' '], rfl, rfl⟩
  have whole : normalise (laidOut "<?php " conditionLines) = condition :=
    normalise_embedded (by decide) ⟨_, List.mem_cons_self, by decide, by decide⟩ shown opens
      closes rfl (by decide)
  exact whole

end Classwright.Snippet
