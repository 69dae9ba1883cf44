import Classwright.Proofs.Text.Trim

/-!
# Text — what keeps the words

A blank belongs to no word, and it parts the words in front of it from those behind.  So nothing
that only adds, drops or replaces blanks between words changes them.

* `Text.leadFirst`: a text in front of the first piece of a text that was cut.
* `Text.split_of_none`, `Text.split_append_cons`, `Text.exists_split_concat`: where a text is cut.
* `Text.join_split`, `Text.split_join`: cut at a character and joined by it, or the other way round.
* `Text.split_join_eq_flatMap`: joined texts that hold the character themselves.
* `Text.words_append_cons`: the words in front of a blank and those behind.
* `Text.words_append_blanks`, `Text.words_blanks_append`: blanks at an end hold no word.
* `Text.words_join`: texts that a blank joins keep their words apart.
* `Text.words_trim`, `Text.words_trimEnd`: trimming keeps the words.
-/

namespace Classwright.Text

/-! ### The first piece -/

/-- The pieces with a text in front of the first. -/
def leadFirst (t : Text) : List Text → List Text
  | [] => [t]
  | p :: ps => (t ++ p) :: ps

@[simp] theorem leadFirst_cons (t p : Text) (ps : List Text) :
    leadFirst t (p :: ps) = (t ++ p) :: ps := rfl

theorem leadFirst_nil {ps : List Text} (h : ps ≠ []) : leadFirst [] ps = ps := by
  cases ps with
  | nil => exact absurd rfl h
  | cons p ps => rfl

theorem mem_leadFirst {t p : Text} {ps : List Text} (h : p ∈ leadFirst t ps) :
    (∃ u, p = t ++ u) ∨ p ∈ ps := by
  cases ps with
  | nil => exact .inl ⟨[], by rw [List.mem_singleton.mp h, List.append_nil]⟩
  | cons q qs =>
      rcases List.mem_cons.mp h with rfl | h
      · exact .inl ⟨q, rfl⟩
      · exact .inr (List.mem_cons_of_mem _ h)

theorem leadFirst_leadFirst (t u : Text) (ps : List Text) :
    leadFirst t (leadFirst u ps) = leadFirst (t ++ u) ps := by
  cases ps with
  | nil => rfl
  | cons p ps => simp

theorem consFirst_eq_leadFirst (c : Char) (ps : List Text) : consFirst c ps = leadFirst [c] ps := by
  cases ps with
  | nil => rfl
  | cons p ps => rfl

theorem leadFirst_consFirst (t : Text) (c : Char) (ps : List Text) :
    leadFirst t (consFirst c ps) = leadFirst (t ++ [c]) ps := by
  rw [consFirst_eq_leadFirst, leadFirst_leadFirst]

/-! ### Cutting -/

theorem split_of_none {cut : Char → Bool} {t : Text} (h : ∀ c ∈ t, cut c = false) :
    split cut t = [t] := by
  induction t with
  | nil => rfl
  | cons c cs ih =>
      obtain ⟨hc, hcs⟩ := List.forall_mem_cons.mp h
      rw [split, if_neg (Bool.eq_false_iff.mp hc), ih hcs, consFirst_cons]

theorem split_of_not_mem {c : Char} {t : Text} (h : c ∉ t) : split (· == c) t = [t] :=
  split_of_none fun _ hd => beq_eq_false_iff_ne.mpr fun he => h (he ▸ hd)

theorem split_append_cons {cut : Char → Bool} {c : Char} (t u : Text) (h : cut c = true) :
    split cut (t ++ c :: u) = split cut t ++ split cut u := by
  induction t with
  | nil => simp [split, h]
  | cons d ds ih =>
      rw [List.cons_append, split, split, ih]
      split
      · rfl
      · obtain ⟨p, ps, hp⟩ := List.exists_cons_of_ne_nil (split_ne_nil cut ds)
        rw [hp]
        rfl

/-- A character that is not cut ends the last piece. -/
theorem exists_split_concat {cut : Char → Bool} {c : Char} (t : Text) (h : cut c = false) :
    ∃ before last, split cut (t ++ [c]) = before ++ [last ++ [c]] := by
  induction t with
  | nil => exact ⟨[], [], by simp [split, h, consFirst]⟩
  | cons d ds ih =>
      obtain ⟨before, last, cutRest⟩ := ih
      rw [List.cons_append, split, cutRest]
      split
      · exact ⟨[] :: before, last, rfl⟩
      · cases before with
        | nil => exact ⟨[], d :: last, rfl⟩
        | cons first before => exact ⟨(d :: first) :: before, last, rfl⟩

/-! ### Cut and joined -/

theorem join_consFirst {c : Char} (separator : Text) {ps : List Text} (h : ps ≠ []) :
    join separator (consFirst c ps) = c :: join separator ps := by
  cases ps with
  | nil => exact absurd rfl h
  | cons p ps => cases ps <;> rfl

/-- The pieces between the occurrences of a character, joined by it, are the text. -/
theorem join_split (c : Char) (t : Text) : join [c] (split (· == c) t) = t := by
  induction t with
  | nil => rfl
  | cons d ds ih =>
      by_cases h : (d == c) = true
      · rw [split, if_pos h, join_cons [] (split_ne_nil _ _), ih, ← beq_iff_eq.mp h]
        rfl
      · rw [split, if_neg h, join_consFirst _ (split_ne_nil _ _), ih]

theorem not_mem_of_mem_split {c : Char} {t piece : Text} (h : piece ∈ split (· == c) t) :
    c ∉ piece := by
  induction t generalizing piece with
  | nil =>
      rw [List.mem_singleton.mp h]
      exact List.not_mem_nil
  | cons d ds ih =>
      by_cases hd : (d == c) = true
      · rw [split, if_pos hd] at h
        rcases List.mem_cons.mp h with rfl | h
        · exact List.not_mem_nil
        · exact ih h
      · obtain ⟨first, rest, hs⟩ := List.exists_cons_of_ne_nil (split_ne_nil (· == c) ds)
        rw [split, if_neg hd, hs] at h
        rw [hs] at ih
        rcases List.mem_cons.mp h with rfl | h
        · exact List.not_mem_cons_of_ne_of_not_mem (fun he => hd (beq_iff_eq.mpr he.symm))
            (ih List.mem_cons_self)
        · exact ih (List.mem_cons_of_mem _ h)

/-- Texts joined by a character are cut into the pieces of each. -/
theorem split_join_eq_flatMap {c : Char} {ts : List Text} (hne : ts ≠ []) :
    split (· == c) (join [c] ts) = ts.flatMap (split (· == c)) := by
  induction ts with
  | nil => exact absurd rfl hne
  | cons t ts ih =>
      cases ts with
      | nil => exact (List.append_nil _).symm
      | cons u us =>
          rw [join_cons_cons, List.append_assoc, List.singleton_append,
            split_append_cons t _ (by simp), ih (List.cons_ne_nil u us)]
          rfl

/-- Texts that do not hold a character, joined by it, are its pieces again. -/
theorem split_join {c : Char} {ts : List Text} (hne : ts ≠ []) (h : ∀ t ∈ ts, c ∉ t) :
    split (· == c) (join [c] ts) = ts := by
  have whole : ts.map (split (· == c)) = ts.map ([·]) :=
    List.map_congr_left fun t ht => split_of_not_mem (h t ht)
  rw [split_join_eq_flatMap hne, List.flatMap_def, whole, ← List.flatMap_def]
  exact List.flatMap_singleton' ts

/-! ### Words -/

/-- A blank parts the words in front of it from those behind. -/
theorem words_append_cons {c : Char} (t u : Text) (h : blank c = true) :
    words (t ++ c :: u) = words t ++ words u := by
  rw [words, split_append_cons t u h, List.filter_append]
  rfl

theorem words_cons {c : Char} (t : Text) (h : blank c = true) : words (c :: t) = words t :=
  words_append_cons [] t h

theorem words_blanks_append {blanks : Text} (t : Text) (h : ∀ c ∈ blanks, blank c = true) :
    words (blanks ++ t) = words t := by
  induction blanks with
  | nil => rfl
  | cons c cs ih =>
      obtain ⟨hc, hcs⟩ := List.forall_mem_cons.mp h
      rw [List.cons_append, words_cons _ hc, ih hcs]

/-- A run of blanks parts the words as one blank does. -/
theorem words_append_blanks_append {blanks : Text} (t u : Text) (hne : blanks ≠ [])
    (h : ∀ c ∈ blanks, blank c = true) : words (t ++ (blanks ++ u)) = words t ++ words u := by
  obtain ⟨c, cs, rfl⟩ := List.exists_cons_of_ne_nil hne
  obtain ⟨hc, hcs⟩ := List.forall_mem_cons.mp h
  rw [List.cons_append, words_append_cons _ _ hc, words_blanks_append u hcs]

theorem words_append_blanks {blanks : Text} (t : Text) (h : ∀ c ∈ blanks, blank c = true) :
    words (t ++ blanks) = words t := by
  cases blanks with
  | nil => rw [List.append_nil]
  | cons c cs =>
      have parted := words_append_blanks_append t [] (List.cons_ne_nil c cs) h
      rwa [List.append_nil, words_nil, List.append_nil] at parted

/-- Between texts that are joined by a blank no word runs on. -/
theorem words_join {c : Char} (ts : List Text) (h : blank c = true) :
    words (join [c] ts) = ts.flatMap words := by
  induction ts with
  | nil => rfl
  | cons t ts ih =>
      cases ts with
      | nil => exact (List.append_nil _).symm
      | cons u us =>
          rw [join_cons_cons, List.append_assoc, List.singleton_append, words_append_cons t _ h, ih]
          rfl

/-- Empty texts hold no word. -/
theorem flatMap_words_said (ts : List Text) :
    (ts.filter (· ≠ [])).flatMap words = ts.flatMap words := by
  induction ts with
  | nil => rfl
  | cons t ts ih =>
      by_cases empty : t = []
      · rw [List.filter_cons_of_neg (by simpa using empty), ih, empty]
        rfl
      · rw [List.filter_cons_of_pos (by simpa using empty), List.flatMap_cons, ih,
          List.flatMap_cons]

theorem words_trimEnd (t : Text) : words (trimEnd t) = words t := by
  obtain ⟨rest, blanks, whole⟩ := exists_trimEnd_append t
  conv => rhs; rw [whole]
  exact (words_append_blanks _ (isBlank_eq_true_iff.mp blanks)).symm

theorem words_dropWhile {p : Char → Bool} (t : Text) (h : ∀ c, p c = true → blank c = true) :
    words (t.dropWhile p) = words t := by
  conv => rhs; rw [← List.takeWhile_append_dropWhile (p := p) (l := t)]
  refine (words_blanks_append _ fun c hc => ?_).symm
  exact h c (List.all_eq_true.mp List.all_takeWhile c hc)

theorem words_trimStart (t : Text) : words (trimStart t) = words t := words_dropWhile t fun _ => id

theorem words_trim (t : Text) : words (trim t) = words t := by
  rw [trim, words_trimEnd, words_trimStart]

end Classwright.Text
