import Classwright.Proofs.Text.Word
import Mathlib.Algebra.GroupWithZero.Nat

/-!
# Text — where a part occurs

A part of a text is found nowhere across a character that it does not hold.  So a part without
blanks is found in the words of a text and nowhere else.

* `Text.count_append_cons`: the occurrences in front of such a character and those behind.
* `Text.count_join`: the occurrences in texts with such a character between them.
* `Text.count_eq_sum_words`: the occurrences of a part without blanks are those in the words.
* `Text.count_eq_zero_iff`: there are none exactly when the part stands nowhere in the text.
* `Text.forall_not_infix_iff_of_words`: whether a part without blanks stands anywhere is a matter of
  the words.
-/

namespace Classwright.Text

variable {part : Text}

/-! ### One position -/

theorem occurrences_of_covered {n : Nat} (c : Char) (t : Text) :
    occurrences part (n + 1) (c :: t) = occurrences part n t := rfl

theorem occurrences_of_prefix {c : Char} {t : Text} (h : part <+: c :: t) :
    occurrences part 0 (c :: t) = occurrences part (part.length - 1) t + 1 := by
  rw [occurrences, if_pos (List.isPrefixOf_iff_prefix.mpr h)]

theorem occurrences_of_not_prefix {c : Char} {t : Text} (h : ¬ part <+: c :: t) :
    occurrences part 0 (c :: t) = occurrences part 0 t := by
  rw [occurrences, if_neg (mt List.isPrefixOf_iff_prefix.mp h)]

/-- A part that does not hold a character ends in front of it. -/
theorem prefix_append_cons_iff {c : Char} (t u : Text) (h : c ∉ part) :
    part <+: t ++ c :: u ↔ part <+: t := by
  refine ⟨fun hp => ?_, fun hp => hp.trans (List.prefix_append t _)⟩
  refine List.prefix_of_prefix_length_le hp (List.prefix_append t _) (Nat.not_lt.mp fun hl => h ?_)
  obtain ⟨rest, he⟩ := hp
  have hc : (part ++ rest)[t.length]? = some c := by rw [he]; simp
  rw [List.getElem?_append_left hl] at hc
  exact List.mem_of_getElem? hc

/-! ### Across a character -/

/-- With what is covered in front of the character, the occurrences are those on either side. -/
theorem occurrences_append_cons {c : Char} {n : Nat} {t : Text} (u : Text) (hne : part ≠ [])
    (h : c ∉ part) (hn : n ≤ t.length) :
    occurrences part n (t ++ c :: u) = occurrences part n t + occurrences part 0 u := by
  induction t generalizing n with
  | nil =>
      cases Nat.le_zero.mp hn
      have missing : ¬ part <+: c :: u := fun hp =>
        hne (List.prefix_nil.mp ((prefix_append_cons_iff [] u h).mp hp))
      rw [List.nil_append, occurrences_of_not_prefix missing, occurrences, Nat.zero_add]
  | cons d ds ih =>
      cases n with
      | succ n =>
          rw [List.cons_append, occurrences_of_covered, occurrences_of_covered,
            ih (Nat.le_of_succ_le_succ hn)]
      | zero =>
          have same : part <+: d :: (ds ++ c :: u) ↔ part <+: d :: ds :=
            prefix_append_cons_iff (d :: ds) u h
          by_cases hp : part <+: d :: ds
          · have fits : part.length - 1 ≤ ds.length := by
              have := hp.length_le
              rw [List.length_cons] at this
              omega
            rw [List.cons_append, occurrences_of_prefix (same.mpr hp), occurrences_of_prefix hp,
              ih fits]
            omega
          · rw [List.cons_append, occurrences_of_not_prefix (mt same.mp hp),
              occurrences_of_not_prefix hp, ih (Nat.zero_le _)]

/-- A part that does not hold a character occurs in front of it and behind. -/
theorem count_append_cons {c : Char} (t u : Text) (hne : part ≠ []) (h : c ∉ part) :
    count part (t ++ c :: u) = count part t + count part u :=
  occurrences_append_cons u hne h (Nat.zero_le _)

@[simp] theorem count_nil (part : Text) : count part [] = 0 := rfl

theorem count_cons {c : Char} (t : Text) (hne : part ≠ []) (h : c ∉ part) :
    count part (c :: t) = count part t :=
  (count_append_cons [] t hne h).trans (by rw [count_nil, Nat.zero_add])

theorem count_join {c : Char} (ts : List Text) (hne : part ≠ []) (h : c ∉ part) :
    count part (join [c] ts) = (ts.map (count part)).sum := by
  induction ts with
  | nil => rfl
  | cons t ts ih =>
      cases ts with
      | nil => simp
      | cons u us =>
          rw [join_cons_cons, List.append_assoc, List.singleton_append,
            count_append_cons _ _ hne h, ih]
          simp only [List.map_cons, List.sum_cons]

/-! ### In several texts -/

/-- Nothing occurs in empty texts. -/
theorem sum_count_said (ts : List Text) :
    ((ts.filter (· ≠ [])).map (count part)).sum = (ts.map (count part)).sum := by
  induction ts with
  | nil => rfl
  | cons t ts ih =>
      by_cases empty : t = []
      · rw [List.filter_cons_of_neg (by simpa using empty), ih, empty]
        simp
      · rw [List.filter_cons_of_pos (by simpa using empty), List.map_cons, List.sum_cons, ih,
          List.map_cons, List.sum_cons]

theorem sum_count_flatMap {α : Type} {f g : α → List Text}
    (h : ∀ a, ((f a).map (count part)).sum = ((g a).map (count part)).sum) (as : List α) :
    ((as.flatMap f).map (count part)).sum = ((as.flatMap g).map (count part)).sum := by
  induction as with
  | nil => rfl
  | cons a as ih =>
      rw [List.flatMap_cons, List.flatMap_cons, List.map_append, List.map_append, List.sum_append,
        List.sum_append, h, ih]

/-! ### In words -/

section Words

variable (hne : part ≠ []) (solid : ∀ c ∈ part, blank c = false)

include solid in
theorem not_mem_of_blank {c : Char} (h : blank c = true) : c ∉ part := fun hc => by
  rw [solid c hc] at h
  cases h

include hne solid in
/-- A part without blanks occurs in the words of a text and nowhere else. -/
theorem count_eq_sum_words (t : Text) : count part t = ((words t).map (count part)).sum := by
  -- What has been read of the first word stands in front of the first piece.
  have pieces : ∀ begun : Text, count part (begun ++ t)
      = ((leadFirst begun (split blank t)).map (count part)).sum := by
    induction t with
    | nil => simp
    | cons c cs ih =>
        intro begun
        by_cases hc : blank c = true
        · rw [count_append_cons _ _ hne (not_mem_of_blank solid hc), split, if_pos hc,
            leadFirst_cons, List.append_nil, List.map_cons, List.sum_cons]
          have rest := ih []
          rw [leadFirst_nil (split_ne_nil _ _)] at rest
          exact congrArg _ rest
        · rw [split, if_neg hc, leadFirst_consFirst, ← ih, List.append_assoc]
          rfl
  have whole := pieces []
  rw [leadFirst_nil (split_ne_nil _ _), List.nil_append] at whole
  rw [whole, words, sum_count_said]

include hne solid in
theorem count_of_words_append {t u v : Text} (h : words t = words u ++ words v) :
    count part t = count part u + count part v := by
  rw [count_eq_sum_words hne solid t, h, List.map_append, List.sum_append,
    ← count_eq_sum_words hne solid u, ← count_eq_sum_words hne solid v]

include hne solid in
/-- In pieces that hold the words of a text a part occurs as often as in the text. -/
theorem sum_count_of_words {pieces : List Text} {t : Text} (h : pieces.flatMap words = words t) :
    (pieces.map (count part)).sum = count part t := by
  rw [count_eq_sum_words hne solid t, ← h]
  clear h
  induction pieces with
  | nil => rfl
  | cons piece pieces ih =>
      rw [List.map_cons, List.sum_cons, ih, List.flatMap_cons, List.map_append, List.sum_append,
        ← count_eq_sum_words hne solid piece]

include hne solid in
/-- A run of blanks parts what occurs in front of it from what occurs behind. -/
theorem count_append_blanks_append (t : Text) {blanks : Text} (u : Text) (between : blanks ≠ [])
    (h : ∀ c ∈ blanks, blank c = true) :
    count part (t ++ (blanks ++ u)) = count part t + count part u :=
  count_of_words_append hne solid (words_append_blanks_append t u between h)

include hne solid in
theorem count_trimEnd (t : Text) : count part (trimEnd t) = count part t := by
  rw [count_eq_sum_words hne solid, words_trimEnd, ← count_eq_sum_words hne solid]

end Words

/-! ### Nowhere -/

theorem count_eq_zero_iff {t : Text} (hne : part ≠ []) : count part t = 0 ↔ ¬ part <:+: t := by
  induction t with
  | nil => simp [hne]
  | cons c cs ih =>
      rw [List.infix_cons_iff, not_or, ← ih]
      by_cases hp : part <+: c :: cs
      · simp [count, occurrences_of_prefix hp, hp]
      · simp [count, occurrences_of_not_prefix hp, hp]

theorem sum_count_eq_zero_iff {ts : List Text} (hne : part ≠ []) :
    (ts.map (count part)).sum = 0 ↔ ∀ t ∈ ts, ¬ part <:+: t := by
  rw [List.sum_eq_zero_iff_forall_eq_nat, List.forall_mem_map]
  exact forall₂_congr fun _ _ => count_eq_zero_iff hne

/-- A part without blanks that stands in none of several texts stands in no texts with the same
words. -/
theorem forall_not_infix_iff_of_words {ts us : List Text} (hne : part ≠ [])
    (solid : ∀ c ∈ part, blank c = false) (h : ts.flatMap words = us.flatMap words) :
    (∀ t ∈ ts, ¬ part <:+: t) ↔ ∀ u ∈ us, ¬ part <:+: u := by
  have joined := (words_join us blank_space).symm
  have same : (ts.map (count part)).sum = (us.map (count part)).sum := by
    rw [sum_count_of_words hne solid (h.trans joined), sum_count_of_words hne solid joined]
  rw [← sum_count_eq_zero_iff hne, same, sum_count_eq_zero_iff hne]

end Classwright.Text
