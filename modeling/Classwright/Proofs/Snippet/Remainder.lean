import Classwright.Proofs.Snippet.Margin
import Classwright.Proofs.Snippet.Marker

/-!
# Snippet — what is left of raw code

Raw code loses its markers, a blank line at either end, and a margin.  Everything else stays: the
words of each line, and the steps between the indentations below the first line.  The margin is
measured below the first line too, so the first line stands where the margin of the others leaves
it, and where it was when the others say nothing.

* `Edge`, `exists_kept`: a blank line at an end, and the lines between.
* `SameSteps`, `sameSteps_dedent`: indentations that differ by as much as before.
* `normalise_keeps_words`: raw code keeps its words and its steps, and no blank ends a line.
* `Flush`, `Hanging`: lines that reach the very left, and a lone first line that does not.
* `flush_normalise_iff`: what is left reaches the very left unless such a line is all there is.
-/

namespace Classwright.Snippet

open Text

/-! ### Blank edges -/

/-- No line or one blank line, as it may be dropped at an edge. -/
inductive Edge : List Text → Prop
  | bare : Edge []
  | blank {line : Text} (h : isBlank line = true) : Edge [line]

theorem Edge.silent {ls : List Text} {line : Text} (h : Edge ls) (hl : line ∈ ls) :
    isBlank line = true := by
  cases h with
  | bare => cases hl
  | blank silent => rwa [List.mem_singleton.mp hl]

theorem exists_edge_last (ls : List Text) : ∃ back, ls = dropBlankLast ls ++ back ∧ Edge back := by
  unfold dropBlankLast
  cases last : ls.getLast? with
  | none => exact ⟨[], (List.append_nil ls).symm, .bare⟩
  | some line =>
      obtain ⟨init, rfl⟩ := List.getLast?_eq_some_iff.mp last
      cases silent : isBlank line with
      | true => exact ⟨[line], by simp [silent], .blank silent⟩
      | false => exact ⟨[], by simp [silent], .bare⟩

theorem exists_edge_first (ls : List Text) :
    ∃ front, ls = front ++ dropBlankFirst ls ∧ Edge front := by
  cases ls with
  | nil => exact ⟨[], rfl, .bare⟩
  | cons line ls =>
      cases silent : isBlank line with
      | true => exact ⟨[line], by simp [dropBlankFirst, silent], .blank silent⟩
      | false => exact ⟨[], by simp [dropBlankFirst, silent], .bare⟩

/-- An edge of lines without a margin is an edge of the lines. -/
theorem Edge.of_dedent {margin : Nat} {ls : List Text} (h : Edge (ls.map (dedent margin)))
    (feeds : ∀ line ∈ ls, '\n' ∉ line) : Edge ls := by
  rcases ls with _ | ⟨line, _ | ⟨_, _⟩⟩
  · exact .bare
  · cases h with
    | blank h => exact .blank ((isBlank_dedent margin (feeds line List.mem_cons_self)).symm.trans h)
  · cases h

/-! ### Lines without markers -/

theorem Opened.subset {line code : Text} (h : Opened line code) : code ⊆ line := by
  cases h with
  | long code _ => exact List.subset_append_of_subset_right _ (List.subset_append_right _ code)
  | short _ _ => exact List.subset_append_of_subset_right _ (List.subset_append_right _ code)
  | bare _ => exact List.Subset.refl line

theorem Closed.subset {line code : Text} (h : Closed line code) : code ⊆ line := by
  cases h with
  | marked code _ => exact List.subset_append_left code _
  | bare _ => exact List.Subset.refl line

/-- What is left of lines is made of them. -/
theorem Bared.exists_subset {ls ms : List Text} (h : Bared ls ms) :
    ∀ m ∈ ms, ∃ l ∈ ls, m ⊆ l := by
  cases h with
  | single opens closes =>
      intro m hm
      rw [List.mem_singleton.mp hm]
      exact ⟨_, List.mem_cons_self, List.Subset.trans closes.subset opens.subset⟩
  | several between opens closes =>
      intro m hm
      rcases List.mem_cons.mp hm with rfl | hm
      · exact ⟨_, List.mem_cons_self, opens.subset⟩
      · rcases List.mem_append.mp hm with hm | hm
        · exact ⟨m, List.mem_cons_of_mem _ (List.mem_append_left _ hm), List.Subset.refl m⟩
        · rw [List.mem_singleton.mp hm]
          exact ⟨_, List.mem_cons_of_mem _ (List.mem_append_right _ List.mem_cons_self),
            closes.subset⟩

theorem Bared.ne_nil {ls ms : List Text} (h : Bared ls ms) : ms ≠ [] := by
  cases h <;> exact List.cons_ne_nil _ _

theorem feedless_of_mem_unmarked {raw line : Text} (h : line ∈ unmarked raw) : '\n' ∉ line := by
  obtain ⟨source, hs, made⟩ := (bared_unmarked raw).exists_subset line h
  exact fun feed => not_mem_of_mem_split hs (made feed)

/-! ### Left lines -/

theorem normalise_of_single {raw line : Text} (h : unmarked raw = [line]) :
    normalise raw = [trim line] := by
  rw [normalise, h]

theorem normalise_of_several {raw first : Text} {rest : List Text} (several : rest ≠ [])
    (h : unmarked raw = first :: rest) :
    normalise raw = dropBlankFirst (dropBlankLast ((first :: rest).map (dedent (margin rest)))) := by
  obtain ⟨second, further, rfl⟩ := List.exists_cons_of_ne_nil several
  rw [normalise, h]
  rfl

/-- Of several lines those between blank edges are left, without their margin. -/
theorem exists_kept {raw first : Text} {rest : List Text} (several : rest ≠ [])
    (h : unmarked raw = first :: rest) :
    ∃ front kept back, first :: rest = front ++ (kept ++ back) ∧ Edge front ∧ Edge back ∧
      (∀ line ∈ kept, '\n' ∉ line) ∧ normalise raw = kept.map (dedent (margin rest)) := by
  have feeds : ∀ line ∈ first :: rest, '\n' ∉ line := fun line hl =>
    feedless_of_mem_unmarked (h ▸ hl)
  rw [normalise_of_several several h]
  obtain ⟨back, cut, behind⟩ := exists_edge_last ((first :: rest).map (dedent (margin rest)))
  obtain ⟨front, begun, before⟩ :=
    exists_edge_first (dropBlankLast ((first :: rest).map (dedent (margin rest))))
  rw [begun, List.append_assoc] at cut
  obtain ⟨top, others, whole, rfl, ho⟩ := List.map_eq_append_iff.mp cut
  obtain ⟨kept, bottom, rfl, hk, rfl⟩ := List.map_eq_append_iff.mp ho
  rw [whole] at feeds
  obtain ⟨above, feeds⟩ := List.forall_mem_append.mp feeds
  obtain ⟨between, below⟩ := List.forall_mem_append.mp feeds
  exact ⟨top, kept, bottom, whole, before.of_dedent above, behind.of_dedent below, between, hk.symm⟩

theorem map_words_dedent (margin : Nat) {ls : List Text} (feeds : ∀ line ∈ ls, '\n' ∉ line) :
    (ls.map (dedent margin)).map words = ls.map words := by
  rw [List.map_map]
  exact List.map_congr_left fun line hl => words_dedent margin (feeds line hl)

/-! ### Steps -/

/-- Line by line, the second lines stand to each other as the first: where two of the first say
something, their indentations differ by as much as those of the lines beside them. -/
def SameSteps (ls ms : List Text) : Prop :=
  ∀ p ∈ ls.zip ms, ∀ q ∈ ls.zip ms, isBlank p.1 = false → isBlank q.1 = false →
    (leading p.1 : Int) - leading q.1 = leading p.2 - leading q.2

/-- A margin that no line undercuts leaves the steps as they are. -/
theorem sameSteps_dedent {margin : Nat} {ls : List Text} (feeds : ∀ line ∈ ls, '\n' ∉ line)
    (room : ∀ line ∈ ls, isBlank line = false → margin ≤ leading line) :
    SameSteps ls (ls.map (dedent margin)) := by
  have moved : ∀ line ∈ ls, isBlank line = false →
      leading line = margin + leading (dedent margin line) := by
    intro line hl said
    obtain ⟨blanks, body, h⟩ := exists_stands (feeds line hl) said
    have fits := room line hl said
    rw [h.leading_eq] at fits ⊢
    rw [(h.dedent margin).leading_eq, List.length_drop]
    omega
  rw [SameSteps, ← List.map_prod_left_eq_zip]
  intro p hp q hq first second
  obtain ⟨line, hl, rfl⟩ := List.mem_map.mp hp
  obtain ⟨other, ho, rfl⟩ := List.mem_map.mp hq
  change (leading line : Int) - leading other
    = leading (dedent margin line) - leading (dedent margin other)
  rw [moved line hl first, moved other ho second]
  omega

/-- An edge stands before the first of the lines behind it, or nothing does. -/
theorem Edge.tail_append_map {front : List Text} (h : Edge front) (f : Text → Text)
    (kept : List Text) : (front ++ kept.map f).tail = (front ++ kept).tail.map f := by
  cases h with
  | bare => exact List.map_tail.symm
  | blank _ => rfl

/-- **Normalising takes nothing but blanks.**  What is left of raw code are its lines without
their markers, except that a blank first and a blank last line may be dropped.  They hold the same
words, line by line, and no blanks at their ends; and the lines behind the first stand to each
other in the same steps as before. -/
theorem normalise_keeps_words (raw : Text) :
    Bared (lines (unifyReturnPairs raw)) (unmarked raw) ∧
    ∃ front kept back, unmarked raw = front ++ (kept ++ back) ∧ Edge front ∧ Edge back ∧
      (normalise raw).map words = kept.map words ∧
      SameSteps (front ++ kept).tail (front ++ normalise raw).tail ∧
      ∀ line ∈ normalise raw, trimEnd line = line := by
  refine ⟨bared_unmarked raw, ?_⟩
  have feeds : ∀ line ∈ unmarked raw, '\n' ∉ line := fun line => feedless_of_mem_unmarked
  obtain ⟨first, rest, h⟩ := List.exists_cons_of_ne_nil (bared_unmarked raw).ne_nil
  by_cases several : rest = []
  · subst several
    rw [normalise_of_single h]
    refine ⟨[], [first], [], h, .bare, .bare, ?_, ?_, ?_⟩
    · rw [List.map_singleton, words_trim, List.map_singleton]
    · intro p hp
      cases hp
    · intro line hl
      rw [List.mem_singleton.mp hl]
      exact trimEnd_trimEnd _
  · rw [h] at feeds ⊢
    obtain ⟨front, kept, back, whole, before, behind, between, left⟩ := exists_kept several h
    have others : (front ++ kept).tail ⊆ rest := by
      rw [← List.append_assoc] at whole
      cases begun : front ++ kept with
      | nil => exact List.nil_subset rest
      | cons line further =>
          rw [begun, List.cons_append] at whole
          rw [(List.cons.inj whole).2]
          exact List.subset_append_left further back
    refine ⟨front, kept, back, whole, before, behind, ?_, ?_, ?_⟩
    · rw [left, map_words_dedent _ between]
    · rw [left, before.tail_append_map]
      refine sameSteps_dedent (fun line hl => ?_) fun line hl said => margin_le (others hl) said
      exact feeds line (List.mem_cons_of_mem _ (others hl))
    · rw [left]
      intro line hl
      obtain ⟨source, -, rfl⟩ := List.mem_map.mp hl
      exact trimEnd_dedent _ source

/-! ### The very left -/

/-- If any of the lines says something, one that does has no blanks in front. -/
def Flush (ls : List Text) : Prop :=
  (∃ line ∈ ls, isBlank line = false) → ∃ line ∈ ls, isBlank line = false ∧ trimStart line = line

/-- The first of several lines is the only one that says something, and has blanks in front. -/
def Hanging (ls : List Text) : Prop :=
  ∃ first rest, ls = first :: rest ∧ rest ≠ [] ∧ (∀ line ∈ rest, isBlank line = true) ∧
    isBlank first = false ∧ trimStart first ≠ first

theorem flush_of_single {raw line : Text} (h : unmarked raw = [line]) : Flush (normalise raw) := by
  rw [normalise_of_single h]
  rintro ⟨left, hl, said⟩
  refine ⟨left, hl, said, ?_⟩
  rw [List.mem_singleton.mp hl]
  exact trimStart_of_head? fun c => blank_of_head?_trim

section Several

variable {raw first : Text} {rest : List Text} (several : rest ≠ [])
  (h : unmarked raw = first :: rest)
include several h

theorem mem_normalise {line : Text} (hl : line ∈ normalise raw) :
    ∃ source ∈ first :: rest, line = dedent (margin rest) source := by
  obtain ⟨front, kept, back, whole, -, -, -, left⟩ := exists_kept several h
  rw [left] at hl
  obtain ⟨source, hs, rfl⟩ := List.mem_map.mp hl
  refine ⟨source, ?_, rfl⟩
  rw [whole]
  exact List.mem_append_right _ (List.mem_append_left _ hs)

/-- A line that says something is left. -/
theorem dedent_mem_normalise {line : Text} (hl : line ∈ first :: rest)
    (said : isBlank line = false) : dedent (margin rest) line ∈ normalise raw := by
  obtain ⟨front, kept, back, whole, before, behind, -, left⟩ := exists_kept several h
  have loud {edge : List Text} (he : Edge edge) : line ∉ edge := fun hm => by
    rw [he.silent hm] at said
    cases said
  rw [whole, List.mem_append, List.mem_append] at hl
  rw [left]
  exact List.mem_map_of_mem ((hl.resolve_left (loud before)).resolve_right (loud behind))

/-- The line at the margin is left without blanks in front. -/
theorem flush_of_several (speaks : ∃ line ∈ rest, isBlank line = false) :
    Flush (normalise raw) := by
  intro _
  obtain ⟨line, hl, said, least⟩ := exists_leading_eq_margin speaks
  have hl := List.mem_cons_of_mem first hl
  have feed : '\n' ∉ line := feedless_of_mem_unmarked (h ▸ hl)
  refine ⟨_, dedent_mem_normalise several h hl said, ?_, ?_⟩
  · rw [isBlank_dedent _ feed, said]
  · exact (trimStart_dedent_iff _ feed said).mpr (Nat.le_of_eq least)

/-- Above blank lines the first line stays where it is. -/
theorem flush_iff_of_lone (silent : ∀ line ∈ rest, isBlank line = true) :
    Flush (normalise raw) ↔ (isBlank first = false → trimStart first = first) := by
  have feed : '\n' ∉ first := feedless_of_mem_unmarked (h ▸ List.mem_cons_self)
  have lone {line : Text} (hl : line ∈ normalise raw) (said : isBlank line = false) :
      line = dedent 0 first := by
    obtain ⟨source, hs, rfl⟩ := mem_normalise several h hl
    rw [margin_of_blank silent] at said ⊢
    rcases List.mem_cons.mp hs with rfl | hs
    · rfl
    · rw [dedent_of_blank 0 (silent source hs)] at said
      cases said
  have flush (said : isBlank first = false) :
      trimStart (dedent 0 first) = dedent 0 first ↔ trimStart first = first := by
    rw [trimStart_dedent_iff 0 feed said, trimStart_eq_self_iff feed said, Nat.le_zero]
  constructor
  · intro flushes said
    have left := dedent_mem_normalise several h List.mem_cons_self said
    rw [margin_of_blank silent] at left
    obtain ⟨line, hl, speaks, starts⟩ :=
      flushes ⟨_, left, (isBlank_dedent 0 feed).trans said⟩
    rw [lone hl speaks] at starts
    exact (flush said).mp starts
  · rintro starts ⟨line, hl, speaks⟩
    have he := lone hl speaks
    have said : isBlank first = false := by rw [← isBlank_dedent 0 feed, ← he, speaks]
    exact ⟨line, hl, speaks, he ▸ (flush said).mpr (starts said)⟩

end Several

/-- **Code stands at the very left.**  When what is left of raw code says anything, one of its
lines says something without blanks in front, exactly unless the first of several lines is the
only one that says something and has blanks in front. -/
theorem flush_normalise_iff (raw : Text) : Flush (normalise raw) ↔ ¬ Hanging (unmarked raw) := by
  obtain ⟨first, rest, h⟩ := List.exists_cons_of_ne_nil (bared_unmarked raw).ne_nil
  by_cases several : rest = []
  · refine iff_of_true (flush_of_single (several ▸ h)) ?_
    rintro ⟨top, others, he, further, -⟩
    rw [h] at he
    cases he
    exact further several
  by_cases silent : ∀ line ∈ rest, isBlank line = true
  · rw [flush_iff_of_lone several h silent]
    constructor
    · rintro starts ⟨top, others, he, -, -, said, away⟩
      rw [h] at he
      cases he
      exact away (starts said)
    · intro stands said
      exact Decidable.byContradiction fun away =>
        stands ⟨first, rest, h, several, silent, said, away⟩
  · have speaks : ∃ line ∈ rest, isBlank line = false := by simpa using silent
    refine iff_of_true (flush_of_several several h speaks) ?_
    rintro ⟨top, others, he, -, mute, -⟩
    rw [h] at he
    cases he
    exact silent mute

/-- Code on the line of the opening marker, with the closing marker on a line of its own, keeps the
blank behind the marker. -/
theorem lone_line_keeps_blank :
    normalise "<?php foo();\n?>" = ([" foo();"] : List Text) ∧
      ¬ Flush (normalise "<?php foo();\n?>") := by
  have left : normalise "<?php foo();\n?>" = ([" foo();"] : List Text) := by decide +kernel
  refine ⟨left, fun flush => ?_⟩
  rw [left] at flush
  obtain ⟨line, hl, -, starts⟩ := flush ⟨_, List.mem_cons_self, by decide⟩
  rw [List.mem_singleton.mp hl] at starts
  revert starts
  decide

end Classwright.Snippet
