import Classwright.Comment.Wrap
import Classwright.Proofs.Text.Trim

/-!
# Comment — where a line breaks

The search for a break knows nothing of words: it looks back for the last space within the width
and, failing that, forward for the first.  Between what fits and a word that does not it finds a
space of the gap.

* `lastSpace?_append`, `firstSpace?_append`: the last and the first space of a text.
* `append_of_findLastBreak`: a break is a space behind the head.
* `findLastBreak_append`: a break behind a head, in terms of what follows the head.
* `findLastBreak_gap`: the break is in the gap in front of the first word that does not fit.
* `wrapParagraph_of_fits`, `wrapParagraph_of_unbroken`, `wrapParagraph_of_break`: one line.
-/

namespace Classwright.Comment

open Text

/-! ### Spaces -/

theorem lastSpace?_of_not_mem {t : Text} (h : ' ' ∉ t) : lastSpace? t = none := by
  induction t with
  | nil => rfl
  | cons c cs ih =>
      obtain ⟨hc, hcs⟩ := not_or.mp (mt List.mem_cons.mpr h)
      simp only [lastSpace?, ih hcs, if_neg (Ne.symm hc)]

theorem lastSpace?_append (t : Text) {u : Text} (h : ' ' ∉ u) :
    lastSpace? (t ++ ' ' :: u) = some t.length := by
  induction t with
  | nil =>
      rw [List.nil_append, lastSpace?, lastSpace?_of_not_mem h]
      rfl
  | cons c cs ih =>
      rw [List.cons_append, lastSpace?, ih]
      rfl

theorem exists_lastSpace? (t u : Text) :
    ∃ i, lastSpace? (t ++ ' ' :: u) = some i ∧ t.length ≤ i := by
  induction t with
  | nil =>
      cases hu : lastSpace? u with
      | none => exact ⟨0, by rw [List.nil_append, lastSpace?, hu]; rfl, Nat.le_refl 0⟩
      | some i => exact ⟨i + 1, by rw [List.nil_append, lastSpace?, hu], Nat.zero_le _⟩
  | cons c cs ih =>
      obtain ⟨i, hi, le⟩ := ih
      exact ⟨i + 1, by rw [List.cons_append, lastSpace?, hi], Nat.succ_le_succ le⟩

theorem firstSpace?_of_not_mem {t : Text} (h : ' ' ∉ t) : firstSpace? t = none := by
  induction t with
  | nil => rfl
  | cons c cs ih =>
      obtain ⟨hc, hcs⟩ := not_or.mp (mt List.mem_cons.mpr h)
      rw [firstSpace?, if_neg (Ne.symm hc), ih hcs]
      rfl

theorem firstSpace?_append {t : Text} (u : Text) (h : ' ' ∉ t) :
    firstSpace? (t ++ ' ' :: u) = some t.length := by
  induction t with
  | nil => rfl
  | cons c cs ih =>
      obtain ⟨hc, hcs⟩ := not_or.mp (mt List.mem_cons.mpr h)
      rw [List.cons_append, firstSpace?, if_neg (Ne.symm hc), ih hcs]
      rfl

theorem append_of_lastSpace? {t : Text} {i : Nat} (h : lastSpace? t = some i) :
    ∃ u v, t = u ++ ' ' :: v ∧ u.length = i := by
  induction t generalizing i with
  | nil => cases h
  | cons c cs ih =>
      simp only [lastSpace?] at h
      split at h
      next j hj =>
        cases h
        obtain ⟨u, v, rfl, rfl⟩ := ih hj
        exact ⟨c :: u, v, rfl, rfl⟩
      next =>
        split at h
        next hc =>
          cases h
          exact ⟨[], cs, by rw [hc]; rfl, rfl⟩
        next => cases h

theorem append_of_firstSpace? {t : Text} {i : Nat} (h : firstSpace? t = some i) :
    ∃ u v, t = u ++ ' ' :: v ∧ u.length = i := by
  induction t generalizing i with
  | nil => cases h
  | cons c cs ih =>
      simp only [firstSpace?] at h
      split at h
      next hc =>
        cases h
        exact ⟨[], cs, by rw [hc]; rfl, rfl⟩
      next =>
        obtain ⟨j, hj, rfl⟩ := Option.map_eq_some_iff.mp h
        obtain ⟨u, v, rfl, rfl⟩ := ih hj
        exact ⟨c :: u, v, rfl, rfl⟩

/-! ### Breaks -/

/-- A line breaks at a space behind its head, whatever the width. -/
theorem append_of_findLastBreak {head t : Text} {width : Int} {i : Nat}
    (h : findLastBreak (head ++ t) head.length width = some i) :
    ∃ u v, t = u ++ ' ' :: v ∧ i = head.length + u.length := by
  have origin : position (head ++ t).length (head.length : Int) = head.length := by
    rw [position, if_neg (by omega)]
    rfl
  simp only [findLastBreak, origin, List.drop_take, List.drop_left, Option.map_eq_some_iff] at h
  obtain ⟨j, hj, rfl⟩ := h
  split at hj
  next k hk =>
    cases hj
    obtain ⟨u, v, he, rfl⟩ := append_of_lastSpace? hk
    refine ⟨u, v ++ t.drop (position (head ++ t).length (width + 1) - head.length), ?_, rfl⟩
    rw [← List.cons_append, ← List.append_assoc, ← he, List.take_append_drop]
  next =>
    obtain ⟨u, v, rfl, rfl⟩ := append_of_firstSpace? hj
    exact ⟨u, v, rfl, rfl⟩

/-- Behind a head, the break is the last space of what the width leaves, else the first space. -/
theorem findLastBreak_append (head t : Text) (width : Nat) :
    findLastBreak (head ++ t) head.length width
      = ((lastSpace? (t.take (width + 1 - head.length))).or (firstSpace? t)).map
          (head.length + ·) := by
  have origin : position (head ++ t).length (head.length : Int) = head.length := by
    rw [position, if_neg (by omega)]
    rfl
  have stop : position (head ++ t).length ((width : Int) + 1) = width + 1 := by
    rw [position, if_neg (by omega)]
    rfl
  simp only [findLastBreak, origin, stop, List.drop_take, List.drop_left]
  cases lastSpace? (t.take (width + 1 - head.length)) <;> rfl

/-- When a beginning fits and a space follows, the line does not break within the beginning. -/
theorem exists_findLastBreak {head begun : Text} {width : Nat} (more : Text)
    (fits : (head ++ begun).length ≤ width) :
    ∃ i, findLastBreak (head ++ (begun ++ ' ' :: more)) head.length width = some (head.length + i) ∧
      begun.length ≤ i := by
  rw [List.length_append] at fits
  obtain ⟨m, hm⟩ : ∃ m, width + 1 - head.length = begun.length + (m + 1) :=
    ⟨width - head.length - begun.length, by omega⟩
  obtain ⟨i, hi, le⟩ := exists_lastSpace? begun (more.take m)
  refine ⟨i, ?_, le⟩
  rw [findLastBreak_append, hm, List.take_length_add_append, List.take_succ_cons, hi]
  rfl

/-- **The break in a gap.**  When a beginning fits, or is a single word, and does not fit with the
next word, the line breaks at a space of the gap between them. -/
theorem findLastBreak_gap {head begun word : Text} {gap width : Nat} (more : Text) (hg : 0 < gap)
    (hw : ' ' ∉ word) (room : (head ++ begun).length ≤ width ∨ ' ' ∉ begun)
    (full : width < (head ++ (begun ++ (List.replicate gap ' ' ++ word))).length) :
    ∃ k < gap, findLastBreak (head ++ (begun ++ (List.replicate gap ' ' ++ (word ++ more))))
      head.length width = some (head.length + (begun.length + k)) := by
  simp only [List.length_append, List.length_replicate] at full room
  rw [findLastBreak_append]
  by_cases fits : head.length + begun.length ≤ width
  · -- The width ends in the gap or in the word: the break is the last space of the gap within it.
    obtain ⟨m, hm⟩ : ∃ m, width + 1 - head.length = begun.length + (m + 1) :=
      ⟨width - head.length - begun.length, by omega⟩
    obtain ⟨k, hk⟩ : ∃ k, min (m + 1) gap = k + 1 := ⟨min m (gap - 1), by omega⟩
    have within : (begun ++ (List.replicate gap ' ' ++ (word ++ more))).take
        (width + 1 - head.length)
        = (begun ++ List.replicate k ' ') ++ ' ' :: word.take (m + 1 - gap) := by
      rw [hm, List.take_length_add_append, List.take_append, List.take_replicate, hk,
        List.length_replicate, List.take_append_of_le_length (by omega), List.replicate_succ']
      simp
    have last := lastSpace?_append (begun ++ List.replicate k ' ')
      (mt List.mem_of_mem_take hw : ' ' ∉ word.take (m + 1 - gap))
    refine ⟨k, by omega, ?_⟩
    rw [within, last]
    simp
  · -- The beginning is a single word and too wide: the break is the first space behind it.
    have single := room.resolve_left fits
    obtain ⟨g, rfl⟩ : ∃ g, gap = g + 1 := ⟨gap - 1, by omega⟩
    have within : (begun ++ (List.replicate (g + 1) ' ' ++ (word ++ more))).take
        (width + 1 - head.length) = begun.take (width + 1 - head.length) :=
      List.take_append_of_le_length (by omega)
    refine ⟨0, hg, ?_⟩
    rw [within, lastSpace?_of_not_mem (mt List.mem_of_mem_take single), List.replicate_succ,
      List.cons_append, firstSpace?_append _ single]
    rfl

theorem findLastBreak_of_not_mem {head word : Text} (width : Nat) (h : ' ' ∉ word) :
    findLastBreak (head ++ word) head.length width = none := by
  rw [findLastBreak_append, lastSpace?_of_not_mem (mt List.mem_of_mem_take h),
    firstSpace?_of_not_mem h]
  rfl

/-! ### One line -/

variable {head paragraph : Text} {width : Nat}

theorem wrapParagraph_of_fits (said : paragraph ≠ []) (fits : (head ++ paragraph).length ≤ width) :
    wrapParagraph head width paragraph = [trimEnd (head ++ paragraph)] := by
  rw [wrapParagraph, if_neg said, if_pos (by exact_mod_cast fits)]

theorem wrapParagraph_of_unbroken (said : paragraph ≠ [])
    (full : width < (head ++ paragraph).length)
    (unbroken : findLastBreak (head ++ paragraph) head.length width = none) :
    wrapParagraph head width paragraph = [trimEnd (head ++ paragraph)] := by
  rw [wrapParagraph, if_neg said, if_neg (by omega)]
  split
  next => rfl
  next i found => rw [unbroken] at found; cases found

theorem wrapParagraph_of_break {i : Nat} (said : paragraph ≠ [])
    (full : width < (head ++ paragraph).length)
    (broken : findLastBreak (head ++ paragraph) head.length width = some i) :
    wrapParagraph head width paragraph = trimEnd ((head ++ paragraph).take i)
      :: wrapParagraph head width
        (((head ++ paragraph).drop (i + 1)).dropWhile (· == ' ')) := by
  rw [wrapParagraph, if_neg said, if_neg (by omega)]
  split
  next found => rw [broken] at found; cases found
  next j found =>
    rw [broken] at found
    cases found
    rfl

end Classwright.Comment
