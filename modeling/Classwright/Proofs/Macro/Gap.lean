import Classwright.Proofs.Macro.Requote
import Mathlib.Tactic.MkIffOfInductiveProp

/-!
# Macro — the blanks between bare words

The blanks around a call and those in front of a token are passed over, whatever they are.  A bare
word, though, is cut off at a space and at no other blank.  So where the gap between two words
begins with another blank, a tab or a no-break space, the first word takes in what stands in front
of the next space: the beginning of the gap, or all of it and the next word as well.

* `PlainWord`: a word without blanks and with no quotation mark in front.
* `spread`: words with gaps between them; `merged`: the tokens that these make.
* `merged_eq_iff`: the words stay as they are exactly when all gaps begin with a space.
* `Begun`: a text that a token may begin with.
* `cuts_spread`: the merged tokens are cut off, one after the other.
* `words_come_back_iff`: this for calls.
-/

namespace Classwright.Macro

open Text

/-! ### Words and gaps -/

/-- A word without blanks, and with no quotation mark in front. -/
@[mk_iff] structure PlainWord (word : Text) : Prop where
  ne_nil : word ≠ []
  not_blank : ∀ c ∈ word, blank c = false
  not_quoted : word.head? ≠ some '"'

instance (word : Text) : Decidable (PlainWord word) :=
  -- The characters of the word are gone through, not all there are.
  haveI : Decidable (∀ c ∈ word, blank c = false) := List.decidableBAll _ word
  decidable_of_iff' _ (plainWord_iff word)

/-- Words end to end, with a gap between neighbours. -/
def spread : (words gaps : List Text) → Text
  | word :: next :: words, gap :: gaps => word ++ gap ++ spread (next :: words) gaps
  | words, _ => words.flatten

/-- Words where only a space ends one: a word takes in the gap up to its first space, and where
there is none, all of the gap and the next word. -/
def merged : (words gaps : List Text) → List Text
  | word :: next :: words, gap :: gaps =>
      if ' ' ∈ gap then (word ++ gap.takeWhile (· != ' ')) :: merged (next :: words) gaps
      else merged ((word ++ gap ++ next) :: words) gaps
  | words, _ => words

variable {words gaps : List Text}

/-- Where no pair of neighbours is left, no gap is left either. -/
theorem last_of_between (between : gaps.length = words.length - 1)
    (none : ∀ word next words' gap gaps', words = word :: next :: words' →
      gaps = gap :: gaps' → False) : gaps = [] ∧ (words = [] ∨ ∃ word, words = [word]) := by
  match words, gaps with
  | [], [] => exact ⟨rfl, .inl rfl⟩
  | [word], [] => exact ⟨rfl, .inr ⟨word, rfl⟩⟩
  | word :: next :: words, gap :: gaps => exact (none _ _ _ _ _ rfl rfl).elim

theorem length_merged_le (words gaps : List Text) :
    (merged words gaps).length ≤ words.length := by
  fun_induction merged words gaps with
  | case1 word next words gap gaps spaced ih => exact Nat.succ_le_succ ih
  | case2 word next words gap gaps unspaced ih => exact Nat.le_succ_of_le ih
  | case3 => exact Nat.le_refl _

theorem takeWhile_bne_eq_nil_iff {gap : Text} (h : ' ' ∈ gap) :
    gap.takeWhile (· != ' ') = [] ↔ gap.head? = some ' ' := by
  obtain ⟨c, cs, rfl⟩ := List.exists_cons_of_ne_nil (List.ne_nil_of_mem h)
  by_cases space : c = ' ' <;> simp [space]

/-- The words stay as they are exactly when all gaps between them begin with a space. -/
theorem merged_eq_iff (between : gaps.length = words.length - 1) :
    merged words gaps = words ↔ ∀ gap ∈ gaps, gap.head? = some ' ' := by
  fun_induction merged words gaps with
  | case1 word next words gap gaps spaced ih =>
      rw [List.cons.injEq, List.append_right_eq_self, takeWhile_bne_eq_nil_iff spaced,
        ih (Nat.succ.inj between), List.forall_mem_cons]
  | case2 word next words gap gaps unspaced ih =>
      refine iff_of_false (fun same => ?_) fun spaced => ?_
      · have short := length_merged_le ((word ++ gap ++ next) :: words) gaps
        rw [same] at short
        exact absurd short (Nat.not_succ_le_self _)
      · exact unspaced (List.mem_of_head? (spaced gap List.mem_cons_self))
  | case3 words gaps none =>
      obtain ⟨rfl, -⟩ := last_of_between between none
      simp

/-! ### Where a text begins and ends -/

/-- What stands in front of the first word stands in front of the text. -/
theorem spread_append (t word : Text) (words gaps : List Text) :
    spread ((t ++ word) :: words) gaps = t ++ spread (word :: words) gaps := by
  cases words with
  | nil => simp [spread]
  | cons next words =>
      cases gaps with
      | nil => simp [spread]
      | cons gap gaps => simp [spread]

theorem prefix_spread (word : Text) (words gaps : List Text) :
    word <+: spread (word :: words) gaps :=
  ⟨spread ([] :: words) gaps, by rw [← spread_append, List.append_nil]⟩

/-- A text that a token may begin with, in which no token ends. -/
structure Begun (t : Text) : Prop where
  ne_nil : t ≠ []
  starts : trimStart t = t
  not_quoted : t.head? ≠ some '"'
  unspaced : ' ' ∉ t

namespace Begun

variable {t u : Text}

theorem append (h : Begun t) (more : ' ' ∉ u) : Begun (t ++ u) where
  ne_nil := List.append_ne_nil_of_left_ne_nil h.ne_nil u
  starts := (trimStart_append_iff u h.ne_nil).mpr h.starts
  not_quoted := by
    rw [List.head?_append_of_ne_nil _ h.ne_nil]
    exact h.not_quoted
  unspaced := List.not_mem_append h.unspaced more

theorem starts_spread (h : Begun t) (words gaps : List Text) :
    trimStart (spread (t :: words) gaps) = spread (t :: words) gaps := by
  obtain ⟨rest, whole⟩ := prefix_spread t words gaps
  rw [← whole]
  exact (trimStart_append_iff rest h.ne_nil).mpr h.starts

end Begun

namespace PlainWord

variable {word : Text}

theorem begun (h : PlainWord word) : Begun word where
  ne_nil := h.ne_nil
  starts := trimStart_of_head? fun c hc => h.not_blank c (List.mem_of_head? hc)
  not_quoted := h.not_quoted
  unspaced := fun hm => by simpa using h.not_blank ' ' hm

theorem ends (h : PlainWord word) : trimEnd word = word :=
  trimEnd_of_getLast? fun c hc => h.not_blank c (List.mem_of_getLast? hc)

theorem said (h : PlainWord word) : isBlank word = false := isBlank_of_trimEnd h.ne_nil h.ends

end PlainWord

/-- A row of words ends in no blank. -/
theorem trimEnd_spread (plain : ∀ word ∈ words, PlainWord word)
    (between : gaps.length = words.length - 1) :
    trimEnd (spread words gaps) = spread words gaps := by
  fun_induction spread words gaps with
  | case1 word next words gap gaps ih =>
      obtain ⟨-, rest⟩ := List.forall_mem_cons.mp plain
      have said : isBlank (spread (next :: words) gaps) = false :=
        isBlank_of_isPrefixOf (prefix_spread next words gaps) (rest next List.mem_cons_self).said
      rw [trimEnd_append_of_said _ said, ih rest (Nat.succ.inj between)]
  | case2 words gaps none =>
      obtain ⟨-, rfl | ⟨word, rfl⟩⟩ := last_of_between between none
      · rfl
      · rw [List.flatten_singleton, (plain word List.mem_cons_self).ends]

theorem trim_spread (plain : ∀ word ∈ words, PlainWord word)
    (between : gaps.length = words.length - 1) : trim (spread words gaps) = spread words gaps := by
  have starts : trimStart (spread words gaps) = spread words gaps := by
    cases words with
    | nil => simp [spread]
    | cons word words => exact (plain word List.mem_cons_self).begun.starts_spread words gaps
  rw [trim, starts, trimEnd_spread plain between]

/-! ### Cutting -/

/-- A text in front of a gap with a space in it is cut off with what stands in front of the
space. -/
theorem cut_of_spaced {t gap rest : Text} (h : Begun t) (blanks : isBlank gap = true)
    (spaced : ' ' ∈ gap) (starts : trimStart rest = rest) :
    Cut (t ++ gap ++ rest) (t ++ gap.takeWhile (· != ' ')) rest := by
  obtain ⟨upper, lower, rfl, unspaced⟩ := List.eq_append_cons_of_mem spaced
  have token := h.append unspaced
  have left : trimStart (' ' :: lower ++ rest) = rest := by
    rw [trimStart_append_blanks, starts]
    exact fun c hc => isBlank_eq_true_iff.mp blanks c (List.mem_append_right upper hc)
  have cut := Cut.bare (t ++ upper) (' ' :: lower ++ rest) token.ne_nil token.not_quoted
    token.unspaced (.inr rfl)
  rw [left] at cut
  rw [takeWhile_bne_append unspaced (.inr rfl)]
  simpa only [List.append_assoc, List.cons_append] using cut

/-- The tokens that are cut off words with gaps between them are the merged ones. -/
theorem cuts_spread (begun : ∀ word ∈ words, Begun word)
    (blanks : ∀ gap ∈ gaps, isBlank gap = true) (between : gaps.length = words.length - 1) :
    Cuts (spread words gaps) (merged words gaps) [] := by
  fun_induction merged words gaps with
  | case1 word next words gap gaps spaced ih =>
      obtain ⟨first, rest⟩ := List.forall_mem_cons.mp begun
      obtain ⟨wide, blanks⟩ := List.forall_mem_cons.mp blanks
      have starts := (rest next List.mem_cons_self).starts_spread words gaps
      exact .more (cut_of_spaced first wide spaced starts) (ih rest blanks (Nat.succ.inj between))
  | case2 word next words gap gaps unspaced ih =>
      obtain ⟨first, rest⟩ := List.forall_mem_cons.mp begun
      obtain ⟨second, rest⟩ := List.forall_mem_cons.mp rest
      obtain ⟨-, blanks⟩ := List.forall_mem_cons.mp blanks
      -- The two words are read as one, which may have blanks in it but has no space.
      have joined : Begun (word ++ gap ++ next) := (first.append unspaced).append second.unspaced
      have whole : spread (word :: next :: words) (gap :: gaps)
          = spread ((word ++ gap ++ next) :: words) gaps := by
        rw [spread_append, spread]
      rw [whole]
      exact ih (List.forall_mem_cons.mpr ⟨joined, rest⟩) blanks (Nat.succ.inj between)
  | case3 words gaps none =>
      obtain ⟨rfl, rfl | ⟨word, rfl⟩⟩ := last_of_between between none
      · exact .none []
      · have first := begun word List.mem_cons_self
        have cut := Cut.bare word [] first.ne_nil first.not_quoted first.unspaced (.inl rfl)
        rw [List.append_nil] at cut
        have whole : spread [word] [] = word := List.flatten_singleton
        rw [whole]
        exact .more cut (.none [])

/-- **Words come back from a call.**  The tokens of bare words with blanks between them are the
merged ones; and these are the words themselves exactly when all the gaps begin with a space. -/
theorem words_come_back_iff (plain : ∀ word ∈ words, PlainWord word)
    (blanks : ∀ gap ∈ gaps, isBlank gap = true) (between : gaps.length = words.length - 1) :
    tokenise (spread words gaps) = .ok (merged words gaps) ∧
      (tokenise (spread words gaps) = .ok words ↔ ∀ gap ∈ gaps, gap.head? = some ' ') := by
  have read : tokenise (spread words gaps) = .ok (merged words gaps) := by
    rw [tokenise_eq_ok_iff, trim_spread plain between]
    exact cuts_spread (fun word hw => (plain word hw).begun) blanks between
  refine ⟨read, ?_⟩
  rw [read, Except.ok.injEq, merged_eq_iff between]

/-- Words come back from gaps that begin with a space, whatever other blanks are in them. -/
theorem spaced_words_come_back :
    (∀ word ∈ (["pair", "a\"b", "c"] : List Text), PlainWord word) ∧
      (∀ gap ∈ ([" \t", " \u00a0 \u2003"] : List Text), isBlank gap = true) ∧
      tokenise "pair \ta\"b \u00a0 \u2003c" = .ok ["pair", "a\"b", "c"] := by
  have plain : ∀ word ∈ (["pair", "a\"b", "c"] : List Text), PlainWord word := by decide
  have blanks : ∀ gap ∈ ([" \t", " \u00a0 \u2003"] : List Text), isBlank gap = true := by decide
  exact ⟨plain, blanks, (words_come_back_iff plain blanks rfl).2.mpr (by decide)⟩

/-- Words around a tab are one token. -/
theorem tab_joins_words :
    PlainWord "a" ∧ PlainWord "b" ∧ isBlank "\t" = true ∧
      spread ["a", "b"] ["\t"] = ("a\tb" : Text) ∧ tokenise "a\tb" = .ok ["a\tb"] ∧
      (["a\tb"] : List Text) ≠ ["a", "b"] := by
  refine ⟨by decide, by decide, by decide, by decide, ?_, by decide⟩
  decide +kernel

end Classwright.Macro
