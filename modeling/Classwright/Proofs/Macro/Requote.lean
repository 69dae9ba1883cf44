import Classwright.Proofs.Macro.Cut
import Classwright.Proofs.Outcome

/-!
# Macro — calls written again

The tokens of a call can be written down again in one fixed way: between quotation marks where
that is possible, and as they are where a token holds a quotation mark itself.  Such a token came
from a bare word, so it neither begins with a mark nor holds a space; and the last token of a call
ends in no blank.  So the call that is written again has the same tokens, whatever blanks the words
hold and whatever stood next to a closing mark.

* `Firm`: no blank at either end.
* `requoted`, `requotedRow`: a token written again, and a row of them.
* `Upright`: a token that may stand as it is if it holds a quotation mark.
* `cuts_requotedRow`: the row is cut into the tokens again.
* `tokenise_settles`: this for calls, with the exact condition under which a call has tokens.
-/

namespace Classwright.Macro

open Text

/-- The text has no blank at either end. -/
structure Firm (t : Text) : Prop where
  starts : trimStart t = t
  ends : trimEnd t = t

theorem firm_trim (t : Text) : Firm (trim t) where
  starts := trimStart_of_head? fun _ => blank_of_head?_trim
  ends := trimEnd_trimEnd _

theorem Firm.trim {t : Text} (h : Firm t) : trim t = t := by
  rw [Text.trim, h.starts, h.ends]

theorem Firm.left {t token left : Text} (h : Firm t) (cut : Cut t token left) : Firm left :=
  ⟨cut.starts, cut.ends h.ends⟩

/-- Firm texts stay firm around a space. -/
theorem Firm.append_space {t u : Text} (ht : trimStart t = t) (said : t ≠ []) (hu : Firm u)
    (more : u ≠ []) : Firm (t ++ ' ' :: u) where
  starts := (trimStart_append_iff (' ' :: u) said).mpr ht
  ends := by
    have speaks : isBlank (' ' :: u) = false :=
      isBlank_append_said [' '] (isBlank_of_trimEnd more hu.ends)
    have last : trimEnd (' ' :: u) = ' ' :: trimEnd u :=
      trimEnd_append_of_said [' '] (isBlank_of_trimEnd more hu.ends)
    rw [trimEnd_append_of_said t speaks, last, hu.ends]

/-! ### Tokens written again -/

/-- A token between quotation marks, unless it holds one. -/
def requoted (token : Text) : Text := if '"' ∈ token then token else '"' :: (token ++ ['"'])

/-- Tokens written again, one space between neighbours. -/
def requotedRow (tokens : List Text) : Text := join " " (tokens.map requoted)

/-- A token that holds a quotation mark begins with neither a mark nor a blank, and holds no
space. -/
structure Upright (token : Text) : Prop where
  unquoted : '"' ∈ token → token.head? ≠ some '"'
  unspaced : '"' ∈ token → ' ' ∉ token
  starts : '"' ∈ token → trimStart token = token

theorem requoted_ne_nil (token : Text) : requoted token ≠ [] := by
  by_cases inside : '"' ∈ token
  · rw [requoted, if_pos inside]
    exact List.ne_nil_of_mem inside
  · rw [requoted, if_neg inside]
    exact List.cons_ne_nil _ _

theorem requotedRow_ne_nil {tokens : List Text} (h : tokens ≠ []) : requotedRow tokens ≠ [] := by
  obtain ⟨token, rest, rfl⟩ := List.exists_cons_of_ne_nil h
  obtain ⟨more, whole⟩ := prefix_join_cons " " (requoted token) (rest.map requoted)
  rw [requotedRow, List.map_cons, ← whole]
  exact List.append_ne_nil_of_left_ne_nil (requoted_ne_nil token) more

/-- A token that is cut off is upright. -/
theorem upright_of_cut {t token left : Text} (starts : trimStart t = t) (h : Cut t token left) :
    Upright token := by
  cases h with
  | quoted phrase rest closes =>
      exact ⟨fun inside => absurd inside closes, fun inside => absurd inside closes,
        fun inside => absurd inside closes⟩
  | bare word rest said unquoted unspaced =>
      exact ⟨fun _ => unquoted, fun _ => unspaced, fun _ =>
        (trimStart_append_iff rest said).mp starts⟩

namespace Upright

variable {token : Text}

theorem trimStart_requoted (h : Upright token) : trimStart (requoted token) = requoted token := by
  by_cases inside : '"' ∈ token
  · rw [requoted, if_pos inside, h.starts inside]
  · rw [requoted, if_neg inside]
    exact trimStart_of_head? fun c hc => by
      cases hc
      decide

/-- A token that is written again, at the end or with a space behind it, is cut off. -/
theorem cut_requoted (h : Upright token) {rest : Text}
    (stop : rest = [] ∨ rest.head? = some ' ') :
    Cut (requoted token ++ rest) token (trimStart rest) := by
  by_cases inside : '"' ∈ token
  · rw [requoted, if_pos inside]
    exact .bare token rest (List.ne_nil_of_mem inside) (h.unquoted inside) (h.unspaced inside) stop
  · rw [requoted, if_neg inside, List.cons_append, List.append_assoc]
    exact .quoted token rest inside

end Upright

/-- The last token of a firm text ends in no blank where it is written again. -/
theorem firm_requoted_of_last {t token left : Text} (firm : Firm t) (h : Cut t token left)
    (last : left = []) : Firm (requoted token) := by
  refine ⟨(upright_of_cut firm.starts h).trimStart_requoted, ?_⟩
  have marked : trimEnd ('"' :: (token ++ ['"'])) = '"' :: (token ++ ['"']) :=
    trimEnd_append_of_said ('"' :: token) (by decide)
  by_cases inside : '"' ∈ token
  · rw [requoted, if_pos inside]
    cases h with
    | quoted phrase rest closes => exact absurd inside closes
    | bare word rest =>
        -- What stands behind the last word is blank, and a firm text ends in no blank.
        have nothing := trimEnd_append_blanks (t := token)
          (isBlank_eq_true_iff.mp (trimStart_eq_nil_iff.mp last))
        rw [firm.ends] at nothing
        have none : rest = [] := by
          have short := length_trimEnd_le token
          rw [← nothing, List.length_append] at short
          exact List.length_eq_zero_iff.mp (by omega)
        have solid := firm.ends
        rwa [none, List.append_nil] at solid
  · rw [requoted, if_neg inside, marked]

/-- A row of tokens that is written again is firm, and is cut into the same tokens. -/
theorem cuts_requotedRow {t left : Text} {tokens : List Text} (firm : Firm t)
    (h : Cuts t tokens left) (whole : left = []) :
    Firm (requotedRow tokens) ∧ Cuts (requotedRow tokens) tokens [] := by
  induction h with
  | none t => exact ⟨⟨rfl, rfl⟩, .none []⟩
  | @more t token rest left tokens first further ih =>
      obtain ⟨ends, cuts⟩ := ih (firm.left first) whole
      have upright := upright_of_cut firm.starts first
      by_cases none : tokens = []
      · subst none
        have last : rest = [] := by
          cases further
          exact whole
        have cut := upright.cut_requoted (.inl rfl)
        rw [List.append_nil] at cut
        exact ⟨firm_requoted_of_last firm first last, .more cut (.none [])⟩
      · have row : requotedRow (token :: tokens) = requoted token ++ ' ' :: requotedRow tokens :=
          join_cons _ (by simpa using none)
        have cut : Cut (requoted token ++ ' ' :: requotedRow tokens) token
            (trimStart (' ' :: requotedRow tokens)) := upright.cut_requoted (.inr rfl)
        have next : trimStart (' ' :: requotedRow tokens) = requotedRow tokens :=
          (trimStart_spaces_append 1 _).trans ends.starts
        rw [next] at cut
        rw [row]
        exact ⟨.append_space upright.trimStart_requoted (requoted_ne_nil token) ends
          (requotedRow_ne_nil none), .more cut cuts⟩

/-! ### Calls -/

theorem tokenise_eq_ok_iff {call : Text} {tokens : List Text} :
    tokenise call = .ok tokens ↔ Cuts (trim call) tokens [] := by
  rw [← tokens?_eq_some_iff (firm_trim call).starts, tokenise]
  cases tokens? (trim call) <;> simp

theorem tokenise_eq_error_iff {call : Text} :
    tokenise call = .error (.unclosedQuote call) ↔
      ∃ tokens left, Cuts (trim call) tokens left ∧ Unclosed left := by
  rw [← tokens?_eq_none_iff (firm_trim call).starts, tokenise]
  cases tokens? (trim call) <;> simp

theorem upright_of_cuts {t left : Text} {tokens : List Text} (starts : trimStart t = t)
    (h : Cuts t tokens left) : ∀ token ∈ tokens, Upright token := by
  induction h with
  | none t => simp
  | more first further ih =>
      exact List.forall_mem_cons.mpr ⟨upright_of_cut starts first, ih first.starts⟩

/-- **The tokens of a call are those of the call written again.**  A call has tokens exactly if they
are cut off it, one after the other, up to its end; written again they are the same, and one that
holds a quotation mark begins with something else and holds no space.  Otherwise the call is
refused, exactly if a quotation mark in front of what is left is the last one; cutting comes to an
end, since every token takes a character at least. -/
theorem tokenise_settles (call : Text) :
    (∀ tokens, tokenise call = .ok tokens ↔ Cuts (trim call) tokens []) ∧
    (∀ tokens, tokenise call = .ok tokens →
      tokenise (requotedRow tokens) = .ok tokens ∧
        ∀ token ∈ tokens, '"' ∈ token → token ≠ [] ∧ token.head? ≠ some '"' ∧ ' ' ∉ token) ∧
    ((∀ tokens, tokenise call ≠ .ok tokens) → tokenise call = .error (.unclosedQuote call)) ∧
    (tokenise call = .error (.unclosedQuote call) ↔
      ∃ tokens left, Cuts (trim call) tokens left ∧ Unclosed left) ∧
    ∀ tokens left, Cuts (trim call) tokens left →
      tokens.length + left.length ≤ (trim call).length := by
  refine ⟨fun tokens => tokenise_eq_ok_iff, fun tokens h => ⟨?_, ?_⟩, fun h => ?_,
    tokenise_eq_error_iff, fun tokens left => length_of_cuts⟩
  · obtain ⟨firm, cuts⟩ := cuts_requotedRow (firm_trim call) (tokenise_eq_ok_iff.mp h) rfl
    rw [tokenise_eq_ok_iff, firm.trim]
    exact cuts
  · intro token ht inside
    have upright := upright_of_cuts (firm_trim call).starts (tokenise_eq_ok_iff.mp h) token ht
    exact ⟨List.ne_nil_of_mem inside, upright.unquoted inside, upright.unspaced inside⟩
  · obtain ⟨tokens, left, cuts, rfl | opened⟩ := exists_cuts (firm_trim call).starts
    · exact absurd (tokenise_eq_ok_iff.mpr cuts) (h tokens)
    · exact tokenise_eq_error_iff.mpr ⟨tokens, left, cuts, opened⟩

/-- A call with a word right behind a phrase, marks inside of words, an empty phrase, and blanks
that are no spaces at the ends of words. -/
def glued : Text := "\u00a0pair  \"a b\"c\"d\t \"\" e\u00a0f\"g\u00a0 h\t"

/-- What the words of `glued` hold is kept, and a mark that stays open behind tokens is found. -/
theorem glued_settles :
    tokenise glued = .ok ["pair", "a b", "c\"d\t", "", "e\u00a0f\"g\u00a0", "h"] ∧
      tokenise "\"pair\" \"a b\" c\"d\t \"\" e\u00a0f\"g\u00a0 \"h\""
        = .ok ["pair", "a b", "c\"d\t", "", "e\u00a0f\"g\u00a0", "h"] ∧
      ∃ tokens left, Cuts (trim "pair \"a b\"c \"d e") tokens left ∧ Unclosed left := by
  have read : tokenise glued = .ok ["pair", "a b", "c\"d\t", "", "e\u00a0f\"g\u00a0", "h"] := by
    decide +kernel
  obtain ⟨-, again, -⟩ := tokenise_settles glued
  obtain ⟨-, -, -, refused, -⟩ := tokenise_settles "pair \"a b\"c \"d e"
  have written : requotedRow ["pair", "a b", "c\"d\t", "", "e\u00a0f\"g\u00a0", "h"]
      = "\"pair\" \"a b\" c\"d\t \"\" e\u00a0f\"g\u00a0 \"h\"" := by decide +kernel
  refine ⟨read, written ▸ (again _ read).1, refused.mp ?_⟩
  decide +kernel

end Classwright.Macro
