import Classwright.Text.Blank

/-!
# Text — what trimming keeps

Trimming at the end keeps the beginning of a text, and what it keeps ends in no blank.

* `Text.trimEnd_isPrefixOf`, `Text.trimEnd_subset`: it keeps a beginning.
* `Text.trimStart_append_blanks`, `Text.trimEnd_append_blanks`: blanks at an end go.
* `Text.trimEnd_append_of_said`, `Text.trimStart_append_of_said`: what stands next to a text that
  says something stays.
* `Text.trimStart_of_head?`, `Text.trimEnd_of_getLast?`: where there are none, all stays.
* `Text.trimStart_append_iff`: whether all stays is decided where a text begins.
* `Text.blank_of_head?_trim`, `Text.blank_of_getLast?_trim`: no blank at either end.
-/

namespace Classwright.Text

/-- A text is its trimmed beginning and the blanks behind. -/
theorem exists_trimEnd_append (t : Text) : ∃ rest, isBlank rest = true ∧ t = trimEnd t ++ rest := by
  refine ⟨(t.reverse.takeWhile blank).reverse, ?_, ?_⟩
  · rw [isBlank, List.all_reverse]
    exact List.all_takeWhile
  · rw [trimEnd, ← List.reverse_append, List.takeWhile_append_dropWhile, List.reverse_reverse]

theorem trimEnd_isPrefixOf (t : Text) : trimEnd t <+: t := by
  obtain ⟨rest, -, whole⟩ := exists_trimEnd_append t
  exact ⟨rest, whole.symm⟩

theorem trimEnd_subset (t : Text) : trimEnd t ⊆ t := (trimEnd_isPrefixOf t).subset

theorem isBlank_append (t u : Text) : isBlank (t ++ u) = (isBlank t && isBlank u) :=
  List.all_append

/-- What begins with a text that says something says something. -/
theorem isBlank_of_isPrefixOf {t u : Text} (h : t <+: u) (said : isBlank t = false) :
    isBlank u = false := by
  obtain ⟨rest, rfl⟩ := h
  rw [isBlank_append, said, Bool.false_and]

theorem isBlank_append_said (t : Text) {u : Text} (said : isBlank u = false) :
    isBlank (t ++ u) = false := by
  rw [isBlank_append, said, Bool.and_false]

theorem trimStart_ne_nil {t : Text} (h : isBlank t = false) : trimStart t ≠ [] := by
  rw [Ne, trimStart_eq_nil_iff, h]
  exact Bool.false_ne_true

/-! ### What goes -/

theorem trimStart_append_blanks {t blanks : Text} (h : ∀ c ∈ blanks, blank c = true) :
    trimStart (blanks ++ t) = trimStart t := List.dropWhile_append_of_pos h

theorem blank_of_mem_spaces {n : Nat} {c : Char} (h : c ∈ List.replicate n ' ') :
    blank c = true := by
  rw [List.eq_of_mem_replicate h]
  exact blank_space

theorem trimStart_spaces_append (n : Nat) (t : Text) :
    trimStart (List.replicate n ' ' ++ t) = trimStart t :=
  trimStart_append_blanks fun _ hc => blank_of_mem_spaces hc

theorem trimEnd_append_blanks {t blanks : Text} (h : ∀ c ∈ blanks, blank c = true) :
    trimEnd (t ++ blanks) = trimEnd t := by
  rw [trimEnd, List.reverse_append, List.dropWhile_append_of_pos]
  · rfl
  · exact fun c hc => h c (List.mem_reverse.mp hc)

theorem trimEnd_append_spaces (t : Text) (n : Nat) :
    trimEnd (t ++ List.replicate n ' ') = trimEnd t :=
  trimEnd_append_blanks fun _ hc => blank_of_mem_spaces hc

/-! ### What stays -/

/-- A text that says something keeps what stands in front of it. -/
theorem trimEnd_append_of_said {t : Text} (begun : Text) (h : isBlank t = false) :
    trimEnd (begun ++ t) = begun ++ trimEnd t := by
  have kept : t.reverse.dropWhile blank ≠ [] := by
    rw [Ne, dropWhile_eq_nil_iff_all, List.all_reverse]
    exact Bool.eq_false_iff.mp h
  rw [trimEnd, trimEnd, List.reverse_append, List.dropWhile_append, if_neg (by simpa using kept),
    List.reverse_append, List.reverse_reverse]

/-- A text that says something keeps what stands behind it. -/
theorem trimStart_append_of_said {t : Text} (rest : Text) (h : isBlank t = false) :
    trimStart (t ++ rest) = trimStart t ++ rest := by
  have kept : trimStart t ≠ [] := by
    rw [Ne, trimStart_eq_nil_iff, h]
    exact Bool.false_ne_true
  rw [trimStart, List.dropWhile_append, if_neg (by simpa [trimStart] using kept)]
  rfl

/-- Behind as many characters as stood in front, the trimmed text is left. -/
theorem drop_trimEnd_append (begun t : Text) :
    (trimEnd (begun ++ t)).drop begun.length = trimEnd t := by
  cases h : isBlank t with
  | false => rw [trimEnd_append_of_said begun h, List.drop_left]
  | true =>
      rw [trimEnd_append_blanks (isBlank_eq_true_iff.mp h), trimEnd_eq_nil_iff.mpr h]
      exact List.drop_eq_nil_of_le (length_trimEnd_le begun)

theorem trimStart_of_head? {t : Text} (h : ∀ c, t.head? = some c → blank c = false) :
    trimStart t = t := by
  cases t with
  | nil => rfl
  | cons c cs => simp [trimStart, h c rfl]

theorem trimEnd_of_getLast? {t : Text} (h : ∀ c, t.getLast? = some c → blank c = false) :
    trimEnd t = t := by
  have kept : trimStart t.reverse = t.reverse :=
    trimStart_of_head? fun c hc => h c (by rwa [List.head?_reverse] at hc)
  rw [trimEnd, ← trimStart, kept, List.reverse_reverse]

theorem blank_of_head?_dropWhile {t : Text} {p : Char → Bool} {c : Char}
    (h : (t.dropWhile p).head? = some c) : p c = false := by
  have kept := List.head?_dropWhile_not p t
  rw [h] at kept
  simpa using kept

theorem trimStart_trimStart (t : Text) : trimStart (trimStart t) = trimStart t :=
  trimStart_of_head? fun _ => blank_of_head?_dropWhile

theorem blank_of_trimStart {c : Char} {t : Text} (h : trimStart (c :: t) = c :: t) :
    blank c = false := by
  refine blank_of_head?_dropWhile (t := c :: t) ?_
  rw [← trimStart, h]
  rfl

/-- A text begins as what stands at its beginning does. -/
theorem trimStart_append_iff {t : Text} (rest : Text) (said : t ≠ []) :
    trimStart (t ++ rest) = t ++ rest ↔ trimStart t = t := by
  obtain ⟨c, cs, rfl⟩ := List.exists_cons_of_ne_nil said
  constructor
  · intro h
    simp [trimStart, blank_of_trimStart h]
  · intro h
    simp [trimStart, blank_of_trimStart h]

/-- What was trimmed at the end ends in no blank. -/
theorem blank_of_getLast?_trimEnd {t : Text} {c : Char} (h : (trimEnd t).getLast? = some c) :
    blank c = false := by
  rw [trimEnd, List.getLast?_reverse] at h
  exact blank_of_head?_dropWhile h

theorem trimEnd_trimEnd (t : Text) : trimEnd (trimEnd t) = trimEnd t :=
  trimEnd_of_getLast? fun _ => blank_of_getLast?_trimEnd

/-- What ends in no blank still does without its beginning. -/
theorem trimEnd_of_append {t u : Text} (h : trimEnd (t ++ u) = t ++ u) : trimEnd u = u := by
  refine trimEnd_of_getLast? fun c hc => ?_
  have last : (trimEnd (t ++ u)).getLast? = some c := by
    rw [h, List.getLast?_append, hc]
    rfl
  exact blank_of_getLast?_trimEnd last

/-- A beginning that ends in no blank stays. -/
theorem prefix_trimEnd_append {t : Text} (u : Text) (h : trimEnd t = t) :
    t <+: trimEnd (t ++ u) := by
  cases said : isBlank u with
  | false =>
      rw [trimEnd_append_of_said t said]
      exact List.prefix_append t _
  | true =>
      exact ⟨[], by rw [trimEnd_append_blanks (isBlank_eq_true_iff.mp said), h, List.append_nil]⟩

theorem trimEnd_trimStart {t : Text} (h : trimEnd t = t) : trimEnd (trimStart t) = trimStart t := by
  refine trimEnd_of_append (t := t.takeWhile blank) ?_
  rw [trimStart, List.takeWhile_append_dropWhile, h]

theorem isBlank_of_trimEnd {t : Text} (said : t ≠ []) (h : trimEnd t = t) : isBlank t = false := by
  rw [Bool.eq_false_iff]
  intro silent
  rw [trimEnd_eq_nil_iff.mpr silent] at h
  exact said h.symm

theorem blank_of_getLast?_trim {t : Text} {c : Char} (h : (trim t).getLast? = some c) :
    blank c = false := blank_of_getLast?_trimEnd h

theorem blank_of_head?_trim {t : Text} {c : Char} (h : (trim t).head? = some c) :
    blank c = false := by
  obtain ⟨rest, he⟩ := trimEnd_isPrefixOf (trimStart t)
  have first : (trimStart t).head? = some c := by
    rw [← he, List.head?_append]
    exact (congrArg (·.or rest.head?) h).trans rfl
  exact blank_of_head?_dropWhile first

end Classwright.Text
