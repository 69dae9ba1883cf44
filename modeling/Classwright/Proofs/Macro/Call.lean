import Classwright.Proofs.Macro.Cut
import Mathlib.Data.List.Chain
import Mathlib.Data.List.Infix
import Mathlib.Tactic.MkIffOfInductiveProp

/-!
# Macro — calls as they are written

A token stands in a call bare or between quotation marks; between the tokens there is one space or
more, and there may be spaces at either end.  Cutting the call into tokens undoes all of this.

* `Token`, `Call`: tokens, and a row of them, with the way they are written.
* `cut_written`, `tokens?_written`: what becomes of a written token and of what follows it.
* `tokenise_inside`: a written call has the tokens that it was written with.
* `Seamless`: a text that can stand inside a call without ending it early.
-/

namespace Classwright.Macro

open Text

/-! ### Tokens -/

/-- A phrase that may stand between quotation marks inside a call. -/
@[mk_iff] structure Quotable (phrase : Text) : Prop where
  quote_not_mem : '"' ∉ phrase
  newline_not_mem : '\n' ∉ phrase
  not_closing : ¬ ['}', '}'] <:+: phrase

/-- A word that may stand inside a call as it is. -/
@[mk_iff] structure BareWord (word : Text) : Prop where
  ne_nil : word ≠ []
  not_blank : ∀ c ∈ word, blank c = false
  brace_not_mem : '}' ∉ word
  not_quoted : word.head? ≠ some '"'

instance (phrase : Text) : Decidable (Quotable phrase) :=
  decidable_of_iff' _ (quotable_iff phrase)

instance (word : Text) : Decidable (BareWord word) :=
  -- Otherwise all characters there are might be gone through, and not those of the word.
  haveI : Decidable (∀ c ∈ word, blank c = false) := List.decidableBAll _ word
  decidable_of_iff' _ (bareWord_iff word)

/-- A token, with the way it is written. -/
inductive Token where
  | quoted (phrase : Text) (quotable : Quotable phrase)
  | bare (word : Text) (bareWord : BareWord word)

namespace Token

/-- What the token says. -/
def text : Token → Text
  | quoted phrase _ => phrase
  | bare word _ => word

/-- The token as it is written. -/
def written : Token → Text
  | quoted phrase _ => '"' :: (phrase ++ ['"'])
  | bare word _ => word

theorem written_ne_nil (token : Token) : token.written ≠ [] := by
  cases token with
  | quoted phrase _ => exact List.cons_ne_nil _ _
  | bare word h => exact h.ne_nil

theorem blank_of_head?_written {token : Token} {c : Char} (h : token.written.head? = some c) :
    blank c = false := by
  cases token with
  | quoted phrase _ =>
      cases h
      decide
  | bare word hw => exact hw.not_blank c (List.mem_of_head? h)

theorem blank_of_getLast?_written {token : Token} {c : Char}
    (h : token.written.getLast? = some c) : blank c = false := by
  cases token with
  | quoted phrase _ =>
      rw [written, ← List.cons_append, List.getLast?_concat] at h
      cases h
      decide
  | bare word hw => exact hw.not_blank c (List.mem_of_getLast? h)

end Token

/-! ### Cutting a token off -/

/-- A written token, at the end or with a space behind it, is cut off. -/
theorem cut_written (token : Token) {rest : Text} (stop : rest = [] ∨ rest.head? = some ' ') :
    Cut (token.written ++ rest) token.text (trimStart rest) := by
  cases token with
  | quoted phrase h =>
      have whole : (Token.quoted phrase h).written ++ rest = '"' :: (phrase ++ '"' :: rest) := by
        simp [Token.written]
      rw [whole]
      exact .quoted phrase rest h.quote_not_mem
  | bare word h =>
      have unspaced : ' ' ∉ word := fun hm => by simpa using h.not_blank ' ' hm
      exact .bare word rest h.ne_nil h.not_quoted unspaced stop

/-- Behind a written token the tokens are those of what follows. -/
theorem tokens?_written (token : Token) {rest : Text}
    (stop : rest = [] ∨ rest.head? = some ' ') :
    tokens? (token.written ++ rest) = (tokens? (trimStart rest)).map (token.text :: ·) :=
  tokens?_of_cut (cut_written token stop)

/-! ### Rows of tokens -/

/-- An argument as it is written behind another token. -/
def argumentWritten (argument : Nat × Token) : Text :=
  List.replicate (argument.1 + 1) ' ' ++ argument.2.written

/-- A call: its name and its arguments, with the spaces around them. -/
structure Call where
  /-- How many spaces there are in front of the name. -/
  before : Nat := 0
  name : Token
  name_ne_nil : name.text ≠ []
  /-- The arguments, each with how many spaces there are in front of it besides the one that must
  be. -/
  arguments : List (Nat × Token) := []
  /-- How many spaces there are behind the last token. -/
  behind : Nat := 0

namespace Call

/-- What the arguments say. -/
def values (call : Call) : List Text := call.arguments.map (·.2.text)

/-- The tokens as they are written. -/
def row (call : Call) : Text := call.name.written ++ call.arguments.flatMap argumentWritten

/-- The inside of the call as it is written. -/
def inside (call : Call) : Text :=
  List.replicate call.before ' ' ++ call.row ++ List.replicate call.behind ' '

end Call

theorem trimStart_argumentWritten (argument : Nat × Token) (rest : Text) :
    trimStart (argumentWritten argument ++ rest) = argument.2.written ++ rest := by
  rw [argumentWritten, List.append_assoc, trimStart_spaces_append]
  refine trimStart_of_head? fun c hc => ?_
  rw [List.head?_append_of_ne_nil _ argument.2.written_ne_nil] at hc
  exact Token.blank_of_head?_written hc

/-- A row of written tokens has the tokens that it was written with. -/
theorem tokens?_row (token : Token) (arguments : List (Nat × Token)) :
    tokens? (token.written ++ arguments.flatMap argumentWritten)
      = some (token.text :: arguments.map (·.2.text)) := by
  induction arguments generalizing token with
  | nil =>
      rw [List.flatMap_nil, tokens?_written token (.inl rfl)]
      simp [tokens?]
  | cons argument rest ih =>
      have spaced : ((argument :: rest).flatMap argumentWritten).head? = some ' ' := by
        simp [argumentWritten, List.replicate_succ]
      rw [tokens?_written token (.inr spaced), List.flatMap_cons, trimStart_argumentWritten, ih]
      rfl

theorem blank_of_getLast?_row (token : Token) (arguments : List (Nat × Token)) {c : Char}
    (h : (token.written ++ arguments.flatMap argumentWritten).getLast? = some c) :
    blank c = false := by
  induction arguments generalizing token with
  | nil =>
      rw [List.flatMap_nil, List.append_nil] at h
      exact Token.blank_of_getLast?_written h
  | cons argument rest ih =>
      refine ih argument.2 ?_
      rw [List.flatMap_cons, argumentWritten, List.append_assoc, ← List.append_assoc,
        List.getLast?_append_of_ne_nil] at h
      · exact h
      · exact List.append_ne_nil_of_left_ne_nil argument.2.written_ne_nil _

/-- Trimming the inside of a call leaves its tokens with the spaces between them. -/
theorem trim_inside (call : Call) : trim call.inside = call.row := by
  have first : trimStart (call.row ++ List.replicate call.behind ' ')
      = call.row ++ List.replicate call.behind ' ' := by
    refine trimStart_of_head? fun c hc => ?_
    rw [Call.row, List.append_assoc,
      List.head?_append_of_ne_nil _ call.name.written_ne_nil] at hc
    exact Token.blank_of_head?_written hc
  rw [trim, Call.inside, List.append_assoc, trimStart_spaces_append, first, trimEnd_append_spaces]
  exact trimEnd_of_getLast? fun c hc => blank_of_getLast?_row _ _ hc

/-- A written call has the tokens that it was written with. -/
theorem tokenise_inside (call : Call) :
    tokenise call.inside = .ok (call.name.text :: call.values) := by
  rw [tokenise, trim_inside, Call.row, tokens?_row]
  rfl

/-! ### No early end -/

/-- A text that can stand inside a call, in front of other such texts or of the closing braces,
without ending the call early. -/
structure Seamless (t : Text) : Prop where
  newline_not_mem : '\n' ∉ t
  not_closing : t.IsChain fun c d => ¬ (c = '}' ∧ d = '}')
  not_ending : t.getLast? ≠ some '}'

theorem isChain_of_not_closing {t : Text} (h : ¬ ['}', '}'] <:+: t) :
    t.IsChain fun c d => ¬ (c = '}' ∧ d = '}') := by
  refine List.isChain_iff_forall_rel_of_append_cons_cons.mpr fun c d front rest cut both => h ?_
  obtain ⟨rfl, rfl⟩ := both
  exact ⟨front, rest, by rw [cut]; simp⟩

namespace Seamless

variable {t u : Text}

theorem of_brace_not_mem (braces : '}' ∉ t) (newlines : '\n' ∉ t) : Seamless t where
  newline_not_mem := newlines
  not_closing := isChain_of_not_closing fun h => braces (h.subset List.mem_cons_self)
  not_ending := fun h => braces (List.mem_of_getLast? h)

theorem append (ht : Seamless t) (hu : Seamless u) : Seamless (t ++ u) where
  newline_not_mem := by simp [ht.newline_not_mem, hu.newline_not_mem]
  not_closing := ht.not_closing.append hu.not_closing fun c hc d _ both =>
    ht.not_ending (both.1 ▸ hc)
  not_ending := by
    rw [List.getLast?_append]
    cases h : u.getLast? with
    | none => exact ht.not_ending
    | some c =>
        rw [Option.some_or, ← h]
        exact hu.not_ending

theorem spaces (n : Nat) : Seamless (List.replicate n ' ') :=
  of_brace_not_mem (fun h => absurd (List.eq_of_mem_replicate h) (by decide))
    (fun h => absurd (List.eq_of_mem_replicate h) (by decide))

theorem written (token : Token) : Seamless token.written := by
  cases token with
  | quoted phrase h =>
      have mark : Seamless ['"'] := of_brace_not_mem (by decide) (by decide)
      -- The closing mark keeps a brace at the end of the phrase from those of the call.
      refine mark.append ⟨by simp [h.newline_not_mem], ?_, by simp⟩
      exact (isChain_of_not_closing h.not_closing).append (.singleton _) (by simp)
  | bare word h =>
      exact of_brace_not_mem h.brace_not_mem fun hm => by simpa using h.not_blank '\n' hm

theorem inside (call : Call) : Seamless call.inside := by
  refine ((spaces _).append ((written call.name).append ?_)).append (spaces _)
  induction call.arguments with
  | nil => exact of_brace_not_mem (by simp) (by simp)
  | cons argument rest ih => exact ((spaces _).append (written argument.2)).append ih

end Seamless

end Classwright.Macro
