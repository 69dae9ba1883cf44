import Classwright.Proofs.Text.Trim
import Classwright.Text.Lines
import Classwright.Writer

/-!
# Text — lines along boundaries, written again

A line boundary is one of many characters, but a line that is written ends in a line feed.  So a
text that is cut along its boundaries and written again is the same text only if line feeds are
its only boundaries, and only as far as its lines end in no blank.

* `Text.boundary`, `Text.FeedsOnly`: a line boundary; a text with line feeds only.
* `Text.nextBoundary_cases`: what stands between a line and what follows it.
* `Text.flatMap_boundaryLines_eq_iff`: when the lines, each with a line feed, are the text.
* `Text.flatMap_sentLine_eq_iff`: when the lines as a writer sends them are the text.
-/

namespace Classwright.Text

open Writer (sentLine)

/-- Does the character end a line? -/
def boundary (c : Char) : Bool := boundaryRanges.contains c

/-- The line boundaries of a text are line feeds. -/
def FeedsOnly (t : Text) : Prop := ∀ c ∈ t, boundary c = true → c = '\n'

instance (t : Text) : Decidable (FeedsOnly t) :=
  List.decidableBAll (fun c => boundary c = true → c = '\n') t

/-! ### One line -/

/-- A text is its first line, the boundary that ends it and the rest; without a boundary there is
no rest. -/
theorem nextBoundary_cases (t : Text) :
    ((nextBoundary t).1 = t ∧ (nextBoundary t).2 = []) ∨
    (∃ c, boundary c = true ∧ t = (nextBoundary t).1 ++ c :: (nextBoundary t).2) ∨
    t = (nextBoundary t).1 ++ '\r' :: '\n' :: (nextBoundary t).2 := by
  fun_induction nextBoundary t with
  | case1 => exact .inl ⟨rfl, rfl⟩
  | case2 cs => exact .inr (.inr rfl)
  | case3 c cs _ h => exact .inr (.inl ⟨c, h, rfl⟩)
  | case4 c cs _ h further ih =>
      rcases ih with ⟨h₁, h₂⟩ | ⟨d, hd, he⟩ | he
      · exact .inl ⟨congrArg (c :: ·) h₁, h₂⟩
      · exact .inr (.inl ⟨d, hd, congrArg (c :: ·) he⟩)
      · exact .inr (.inr (congrArg (c :: ·) he))

/-- No boundary stands in the first line. -/
theorem boundary_of_mem_nextBoundary {t : Text} {c : Char} (h : c ∈ (nextBoundary t).1) :
    boundary c = false := by
  fun_induction nextBoundary t with
  | case1 => cases h
  | case2 cs => cases h
  | case3 d cs => cases h
  | case4 d cs _ hd further ih =>
      rcases List.mem_cons.mp h with rfl | h
      · exact Bool.eq_false_iff.mpr hd
      · exact ih h

/-! ### All lines -/

theorem boundary_of_mem_boundaryLines {t line : Text} {c : Char} (hl : line ∈ boundaryLines t)
    (hc : c ∈ line) : boundary c = false := by
  fun_induction boundaryLines t with
  | case1 => cases hl
  | case2 t _ ih =>
      rcases List.mem_cons.mp hl with rfl | hl
      · exact boundary_of_mem_nextBoundary hc
      · exact ih hl

/-- Whatever is written of the lines of a text, line by line and with a line feed, has line feeds
only. -/
theorem feedsOnly_of_lines {t : Text} {f : Text → Text} (h : ∀ line, f line ⊆ line ++ ['\n']) :
    FeedsOnly ((boundaryLines t).flatMap f) := by
  intro c hc hb
  obtain ⟨line, hl, hc⟩ := List.mem_flatMap.mp hc
  rcases List.mem_append.mp (h line hc) with hc | hc
  · rw [boundary_of_mem_boundaryLines hl hc] at hb
    cases hb
  · exact List.mem_singleton.mp hc

/-- The lines of a text that ends in a line feed, each with a line feed, are the text exactly when
it has line feeds only. -/
theorem flatMap_boundaryLines_eq_iff {t : Text} (ends : t = [] ∨ t.getLast? = some '\n') :
    (boundaryLines t).flatMap (· ++ ['\n']) = t ↔ FeedsOnly t := by
  constructor
  · intro h
    rw [← h]
    exact feedsOnly_of_lines fun line => List.Subset.refl _
  · intro h
    fun_induction boundaryLines t with
    | case1 => rfl
    | case2 t ht ih =>
        have last := ends.resolve_left ht
        rcases nextBoundary_cases t with ⟨whole, -⟩ | ⟨c, hc, cut⟩ | cut
        · -- The line feed at the end is a boundary, so the first line is not the whole text.
          have hm := List.mem_of_getLast? last
          rw [← whole] at hm
          exact absurd (boundary_of_mem_nextBoundary hm) (by decide)
        · have feed : c = '\n' := h c (by rw [cut]; simp) hc
          have rest : FeedsOnly (nextBoundary t).2 :=
            fun d hd => h d (by rw [cut]; simp [hd])
          have further : (nextBoundary t).2 = [] ∨ (nextBoundary t).2.getLast? = some '\n' := by
            cases he : (nextBoundary t).2.getLast? with
            | none => exact .inl (List.getLast?_eq_none_iff.mp he)
            | some d =>
                rw [cut, List.getLast?_append, List.getLast?_cons, he] at last
                exact .inr last
          rw [List.flatMap_cons, ih further rest]
          conv => rhs; rw [cut, feed]
          simp
        · -- A carriage return is a boundary, too.
          have hm : '\r' ∈ t := by rw [cut]; simp
          exact absurd (h '\r' hm (by decide)) (by decide)

/-! ### Lines as a writer sends them -/

theorem sentLine_eq (line : Text) : sentLine line = trimEnd line ++ ['\n'] := rfl

theorem length_flatMap_sentLine_le (ls : List Text) :
    (ls.flatMap sentLine).length ≤ (ls.flatMap (· ++ ['\n'])).length := by
  induction ls with
  | nil => exact Nat.le_refl _
  | cons line ls ih =>
      have := length_trimEnd_le line
      simp only [List.flatMap_cons, List.length_append, sentLine_eq] at ih ⊢
      exact Nat.add_le_add (Nat.add_le_add_right this _) ih

/-- A writer changes no line exactly when none ends in a blank. -/
theorem flatMap_sentLine_eq_flatMap_iff {ls : List Text} :
    ls.flatMap sentLine = ls.flatMap (· ++ ['\n']) ↔ ∀ line ∈ ls, trimEnd line = line := by
  induction ls with
  | nil => simp
  | cons line ls ih =>
      rw [List.flatMap_cons, List.flatMap_cons, List.forall_mem_cons, ← ih]
      constructor
      · intro h
        -- No line gets longer, so with the same length in all each has kept its own.
        have first := length_trimEnd_le line
        have rest := length_flatMap_sentLine_le ls
        have total := congrArg List.length h
        simp only [List.length_append, sentLine_eq] at total
        obtain ⟨h₁, h₂⟩ := List.append_inj h (by simp only [sentLine_eq, List.length_append]; omega)
        exact ⟨List.append_cancel_right h₁, h₂⟩
      · rintro ⟨h₁, h₂⟩
        rw [h₂, sentLine_eq, h₁]

/-- The lines of a text that ends in a line feed, as a writer sends them, are the text exactly when
it has line feeds only and none of its lines ends in a blank. -/
theorem flatMap_sentLine_eq_iff {t : Text} (ends : t = [] ∨ t.getLast? = some '\n') :
    (boundaryLines t).flatMap sentLine = t ↔
      FeedsOnly t ∧ ∀ line ∈ boundaryLines t, trimEnd line = line := by
  constructor
  · intro h
    have feeds : FeedsOnly t := by
      rw [← h]
      exact feedsOnly_of_lines fun line => List.append_subset.mpr
        ⟨List.Subset.trans (trimEnd_subset line) (List.subset_append_left _ _),
          List.subset_append_right _ _⟩
    refine ⟨feeds, flatMap_sentLine_eq_flatMap_iff.mp ?_⟩
    rw [h, (flatMap_boundaryLines_eq_iff ends).mpr feeds]
  · rintro ⟨feeds, trimmed⟩
    rw [flatMap_sentLine_eq_flatMap_iff.mpr trimmed, (flatMap_boundaryLines_eq_iff ends).mpr feeds]

end Classwright.Text
