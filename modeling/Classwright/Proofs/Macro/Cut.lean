import Classwright.Macro.Call
import Classwright.Proofs.Text.Trim

/-!
# Macro — cutting tokens off a call

A call is read from its beginning, one token after the other.  A token with a quotation mark in
front reaches up to the next mark, any other token up to the next space; then the blanks that
follow are passed over.  Each token makes the rest shorter, so reading comes to an end: at the end
of the call, or at a quotation mark that no other one follows.

* `Cut`: one token, and what is left behind it; `exists_cut`: there is one unless a mark stays open.
* `Cuts`: tokens one after the other; `length_of_cuts`: no more of them than characters.
* `tokens?_eq_some_iff`, `tokens?_eq_none_iff`: the two ways in which reading ends.
-/

namespace Classwright.Macro

open Text

/-! ### One token -/

theorem bne_of_not_mem {mark : Char} {t : Text} (h : mark ∉ t) : ∀ c ∈ t, (c != mark) = true := by
  intro c hc
  exact bne_iff_ne.mpr fun same => h (same ▸ hc)

theorem takeWhile_bne_append {mark : Char} {t rest : Text} (h : mark ∉ t)
    (stop : rest = [] ∨ rest.head? = some mark) : (t ++ rest).takeWhile (· != mark) = t := by
  rw [List.takeWhile_append_of_pos (bne_of_not_mem h)]
  rcases stop with rfl | stop
  · simp
  · obtain ⟨more, rfl⟩ := List.head?_eq_some_iff.mp stop
    simp

theorem behind_append {mark : Char} {t : Text} (h : mark ∉ t) (rest : Text) :
    behind mark (t ++ rest) = behind mark rest := by
  rw [behind, List.dropWhile_append_of_pos (bne_of_not_mem h)]
  rfl

@[simp] theorem behind_cons_self (mark : Char) (rest : Text) :
    behind mark (mark :: rest) = rest := by
  simp [behind]

/-- A token is cut off the beginning of a text; what is left begins behind the blanks that follow
it. -/
inductive Cut : (t token left : Text) → Prop
  | quoted (phrase rest : Text) (closes : '"' ∉ phrase) :
      Cut ('"' :: (phrase ++ '"' :: rest)) phrase (trimStart rest)
  | bare (word rest : Text) (said : word ≠ []) (unquoted : word.head? ≠ some '"')
      (unspaced : ' ' ∉ word) (ends : rest = [] ∨ rest.head? = some ' ') :
      Cut (word ++ rest) word (trimStart rest)

/-- A text begins with a quotation mark that no other one follows. -/
def Unclosed (t : Text) : Prop := ∃ phrase, t = '"' :: phrase ∧ '"' ∉ phrase

/-- The tokens of a text are the one that is cut off it and those of what is left. -/
theorem tokens?_of_cut {t token left : Text} (h : Cut t token left) :
    tokens? t = (tokens? left).map (token :: ·) := by
  cases h with
  | quoted phrase rest closes =>
      have mark : (token ++ '"' :: rest).contains '"' = true := by simp
      rw [tokens?, if_pos rfl, if_pos mark, behind_append closes, behind_cons_self,
        takeWhile_bne_append closes (.inr rfl)]
  | bare word rest said unquoted unspaced ends =>
      obtain ⟨c, cs, rfl⟩ := List.exists_cons_of_ne_nil said
      have other : c ≠ '"' := fun he => unquoted (congrArg some he)
      have inside : ' ' ∉ cs := fun hc => unspaced (List.mem_cons_of_mem _ hc)
      have further : trimStart (behind ' ' (cs ++ rest)) = trimStart rest := by
        rw [behind_append inside]
        rcases ends with rfl | ends
        · rfl
        · obtain ⟨more, rfl⟩ := List.head?_eq_some_iff.mp ends
          rw [behind_cons_self]
          exact (trimStart_spaces_append 1 more).symm
      rw [List.cons_append, tokens?, if_neg other, further, takeWhile_bne_append inside ends]

theorem tokens?_of_unclosed {t : Text} (h : Unclosed t) : tokens? t = none := by
  obtain ⟨phrase, rfl, opened⟩ := h
  rw [tokens?, if_pos rfl, if_neg (by simpa using opened)]

/-- A token can be cut off a text that begins with no blank, unless a quotation mark stays open. -/
theorem exists_cut {t : Text} (said : t ≠ []) (starts : trimStart t = t) :
    Unclosed t ∨ ∃ token left, Cut t token left := by
  obtain ⟨c, cs, rfl⟩ := List.exists_cons_of_ne_nil said
  by_cases quoted : c = '"'
  · subst quoted
    by_cases closed : '"' ∈ cs
    · obtain ⟨phrase, rest, rfl, closes⟩ := List.eq_append_cons_of_mem closed
      exact .inr ⟨_, _, .quoted phrase rest closes⟩
    · exact .inl ⟨cs, rfl, closed⟩
  · refine .inr ⟨c :: cs.takeWhile (· != ' '), trimStart (cs.dropWhile (· != ' ')), ?_⟩
    have spaceless : ' ' ∉ c :: cs.takeWhile (· != ' ') := by
      rw [List.mem_cons, not_or]
      constructor
      · rintro rfl
        simpa using blank_of_trimStart starts
      · intro hm
        simpa using List.all_eq_true.mp List.all_takeWhile ' ' hm
    have ends : cs.dropWhile (· != ' ') = [] ∨ (cs.dropWhile (· != ' ')).head? = some ' ' := by
      cases left : cs.dropWhile (· != ' ') with
      | nil => exact .inl rfl
      | cons d ds =>
          have stop := blank_of_head?_dropWhile (p := (· != ' ')) (by rw [left, List.head?_cons])
          exact .inr (congrArg some (by simpa using stop))
    have whole := Cut.bare _ _ (List.cons_ne_nil _ _) (by simpa using quoted) spaceless ends
    rwa [List.cons_append, List.takeWhile_append_dropWhile] at whole

namespace Cut

variable {t token left : Text}

theorem length_lt (h : Cut t token left) : left.length < t.length := by
  cases h with
  | quoted phrase rest =>
      have := length_trimStart_le rest
      simp only [List.length_cons, List.length_append]
      omega
  | bare word rest said =>
      have := length_trimStart_le rest
      have := List.length_pos_iff.mpr said
      rw [List.length_append]
      omega

/-- What is left begins with no blank. -/
theorem starts (h : Cut t token left) : trimStart left = left := by
  cases h with
  | quoted phrase rest => exact trimStart_trimStart rest
  | bare word rest => exact trimStart_trimStart rest

/-- What is left ends in no blank if the text does not. -/
theorem ends (h : Cut t token left) (last : trimEnd t = t) : trimEnd left = left := by
  cases h with
  | quoted phrase rest =>
      refine trimEnd_trimStart (trimEnd_of_append (t := '"' :: (token ++ ['"'])) ?_)
      simpa using last
  | bare word rest => exact trimEnd_trimStart (trimEnd_of_append last)

end Cut

/-! ### Tokens one after the other -/

/-- So many tokens are cut off a text, one after the other, and this is left. -/
inductive Cuts : Text → List Text → Text → Prop
  | none (t : Text) : Cuts t [] t
  | more {t token rest left : Text} {tokens : List Text} (first : Cut t token rest)
      (further : Cuts rest tokens left) : Cuts t (token :: tokens) left

variable {t left : Text} {tokens : List Text}

/-- Every token takes at least one character. -/
theorem length_of_cuts (h : Cuts t tokens left) : tokens.length + left.length ≤ t.length := by
  induction h with
  | none t => simp
  | more first further ih =>
      have := first.length_lt
      rw [List.length_cons]
      omega

theorem tokens?_of_cuts (h : Cuts t tokens left) :
    tokens? t = (tokens? left).map (tokens ++ ·) := by
  induction h with
  | none t => simp
  | more first further ih =>
      rw [tokens?_of_cut first, ih, Option.map_map]
      rfl

/-- Reading ends at the end of the text or at a quotation mark that stays open. -/
theorem exists_cuts (starts : trimStart t = t) :
    ∃ tokens left, Cuts t tokens left ∧ (left = [] ∨ Unclosed left) := by
  induction size : t.length using Nat.strongRecOn generalizing t with
  | ind n ih =>
      by_cases said : t = []
      · exact ⟨[], t, .none t, .inl said⟩
      · rcases exists_cut said starts with opened | ⟨token, rest, first⟩
        · exact ⟨[], t, .none t, .inr opened⟩
        · obtain ⟨tokens, left, further, stop⟩ :=
            ih rest.length (size ▸ first.length_lt) first.starts rfl
          exact ⟨token :: tokens, left, .more first further, stop⟩

theorem tokens?_nil : tokens? [] = some [] := by rw [tokens?]

/-- A text has these tokens exactly if nothing is left behind them. -/
theorem tokens?_eq_some_iff (starts : trimStart t = t) :
    tokens? t = some tokens ↔ Cuts t tokens [] := by
  constructor
  · intro h
    obtain ⟨found, left, cuts, stop⟩ := exists_cuts starts
    have read := tokens?_of_cuts cuts
    rcases stop with rfl | opened
    · rw [h, tokens?_nil] at read
      simp only [Option.map_some, List.append_nil, Option.some.injEq] at read
      rwa [read]
    · rw [h, tokens?_of_unclosed opened] at read
      cases read
  · intro cuts
    rw [tokens?_of_cuts cuts, tokens?_nil]
    simp

/-- A text has no tokens exactly if a quotation mark behind some of them stays open. -/
theorem tokens?_eq_none_iff (starts : trimStart t = t) :
    tokens? t = none ↔ ∃ tokens left, Cuts t tokens left ∧ Unclosed left := by
  constructor
  · intro h
    obtain ⟨tokens, left, cuts, rfl | opened⟩ := exists_cuts starts
    · rw [(tokens?_eq_some_iff starts).mpr cuts] at h
      cases h
    · exact ⟨tokens, left, cuts, opened⟩
  · rintro ⟨tokens, left, cuts, opened⟩
    rw [tokens?_of_cuts cuts, tokens?_of_unclosed opened]
    rfl

end Classwright.Macro
