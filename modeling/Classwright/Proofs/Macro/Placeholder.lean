import Classwright.Macro.Placeholder
import Classwright.Proofs.Text.Trim
import Mathlib.Data.Nat.Digits.Defs

/-!
# Macro — filling the places of a template

A template is read once, whatever the arguments are: each dollar sign with the longest run of
digits behind it is a place, and every other character stands for itself.  Filling the template
puts an argument, or the place as it is written, where each place was, so nothing that an argument
says is read as a place, and a template may be cut in two wherever no run of digits is cut.

* `value`, `fill`: the number of a place, and what stands there in the end.
* `Span`, `Read`: the parts of a template, and how it is read as a row of them.
* `exists_read`, `Read.append`: every template can be read, and so can two behind each other.
* `substitute_of_read`: a template is filled part by part.
* `substitute_fills_places`: what this says of cutting, of plain text and of places.
-/

namespace Classwright.Macro

open Text

/-! ### Places -/

/-- The number that a run of digits writes, by the values of its digits from the last to the
first. -/
def value (run : Text) : Nat := Nat.ofDigits 10 (run.map fun c => (digitValue? c).getD 0).reverse

/-- A run of decimal digits, of whatever scripts. -/
def IsRun (run : Text) : Prop := run ≠ [] ∧ ∀ c ∈ run, isDigit c = true

instance (run : Text) : Decidable (IsRun run) :=
  haveI : Decidable (∀ c ∈ run, isDigit c = true) := List.decidableBAll _ run
  inferInstanceAs (Decidable (_ ∧ _))

/-- The text begins with no digit. -/
def Digitless (t : Text) : Prop := ∀ c, t.head? = some c → isDigit c = false

/-- What stands in the end where a place is written: the argument of its number, if there is one. -/
def fill (arguments : List Text) (run : Text) : Text :=
  if _h : 1 ≤ value run ∧ value run ≤ arguments.length then arguments[value run - 1]
  else '$' :: run

theorem numeral_eq_value (run : Text) : numeral run = value run := by
  rw [numeral, value, Nat.ofDigits_eq_foldr, List.foldr_reverse, List.foldl_map]
  refine congrArg (fun f => run.foldl f 0) ?_
  funext n c
  exact Nat.add_comm _ _

/-- Zeros in front do not change a number. -/
theorem value_zeros_append {zeros : Text} (h : ∀ c ∈ zeros, digitValue? c = some 0) (run : Text) :
    value (zeros ++ run) = value run := by
  induction zeros with
  | nil => rfl
  | cons c cs ih =>
      obtain ⟨hc, hcs⟩ := List.forall_mem_cons.mp h
      rw [← ih hcs, List.cons_append, value, List.map_cons, hc]
      exact Nat.ofDigits_reverse_zero_cons _

theorem argument?_eq (arguments : List Text) (number : Nat) :
    argument? arguments number
      = if _h : 1 ≤ number ∧ number ≤ arguments.length then some arguments[number - 1]
        else none := by
  cases number with
  | zero => rfl
  | succ n =>
      by_cases h : n < arguments.length
      · simp [argument?, h, Nat.succ_le_of_lt h]
      · rw [argument?, List.getElem?_eq_none (Nat.le_of_not_lt h), dif_neg fun inside => h inside.2]

theorem getD_argument? (arguments : List Text) (run : Text) :
    (argument? arguments (numeral run)).getD ('$' :: run) = fill arguments run := by
  rw [numeral_eq_value, argument?_eq, fill]
  split
  · rfl
  · rfl

/-! ### Reading a template -/

/-- A part of a template: a character that stands for itself, or a place. -/
inductive Span where
  | plain (c : Char)
  | place (run : Text) (digits : IsRun run)

/-- The part as it is written. -/
def Span.written : Span → Text
  | plain c => [c]
  | place run _ => '$' :: run

/-- What the part stands for. -/
def Span.filled (arguments : List Text) : Span → Text
  | plain c => [c]
  | place run _ => fill arguments run

/-- The template is read as these parts: no digit stands behind a plain dollar sign or behind the
digits of a place. -/
inductive Read : Text → List Span → Prop
  | nil : Read [] []
  | plain {c : Char} {t : Text} {spans : List Span} (alone : c = '$' → Digitless t)
      (rest : Read t spans) : Read (c :: t) (.plain c :: spans)
  | place {run t : Text} {spans : List Span} (digits : IsRun run) (ends : Digitless t)
      (rest : Read t spans) : Read ('$' :: (run ++ t)) (.place run digits :: spans)

theorem digitless_afterDigits (t : Text) : Digitless (afterDigits t) := fun _ =>
  blank_of_head?_dropWhile

theorem digits_of_digitless {t : Text} (h : Digitless t) : digits t = [] := by
  cases t with
  | nil => rfl
  | cons c cs => simp [digits, h c rfl]

theorem digitless_of_digits {t : Text} (h : digits t = []) : Digitless t := by
  intro c hc
  cases t with
  | nil => cases hc
  | cons d ds =>
      cases hc
      rw [Bool.eq_false_iff]
      intro digit
      simp [digits, digit] at h

theorem digitless_append {t u : Text} (ht : Digitless t) (hu : Digitless u) :
    Digitless (t ++ u) := by
  intro c hc
  cases t with
  | nil => exact hu c hc
  | cons d ds => exact ht c hc

/-- Every template can be read. -/
theorem exists_read (template : Text) : ∃ spans, Read template spans := by
  fun_induction substitute ([] : List Text) template with
  | case1 => exact ⟨[], .nil⟩
  | case2 rest none ih =>
      obtain ⟨spans, read⟩ := ih
      exact ⟨_, .plain (fun _ => digitless_of_digits none) read⟩
  | case3 rest d ds run ih =>
      obtain ⟨spans, read⟩ := ih
      have digits : IsRun (digits rest) := ⟨by simp [run], fun c hc => by
        exact List.all_eq_true.mp List.all_takeWhile c hc⟩
      have whole := Read.place digits (digitless_afterDigits rest) read
      rw [digits_append_afterDigits] at whole
      exact ⟨_, whole⟩
  | case4 c rest other ih =>
      obtain ⟨spans, read⟩ := ih
      exact ⟨_, .plain (fun he => absurd he other) read⟩

namespace Read

variable {template further : Text} {spans more : List Span}

theorem written (h : Read template spans) : template = spans.flatMap Span.written := by
  induction h with
  | nil => rfl
  | plain alone rest ih => exact congrArg (_ :: ·) ih
  | place digits ends rest ih => exact congrArg ('$' :: _ ++ ·) ih

/-- Two templates are read one behind the other, unless a digit follows the cut. -/
theorem append (h : Read template spans) (g : Read further more) (cut : Digitless further) :
    Read (template ++ further) (spans ++ more) := by
  induction h with
  | nil => exact g
  | plain alone rest ih => exact .plain (fun he => digitless_append (alone he) cut) ih
  | place digits ends rest ih =>
      rw [List.cons_append, List.append_assoc]
      exact .place digits (digitless_append ends cut) ih

end Read

/-- A template is filled part by part. -/
theorem substitute_of_read {template : Text} {spans : List Span} (h : Read template spans)
    (arguments : List Text) :
    substitute arguments template = spans.flatMap (Span.filled arguments) := by
  induction h with
  | nil => exact substitute_nil arguments
  | @plain c t spans alone rest ih =>
      rw [substitute, ih]
      split
      next dollar =>
        rw [digits_of_digitless (alone dollar), dollar]
        rfl
      next => rfl
  | @place run t spans isRun ends rest ih =>
      have within : digits (run ++ t) = run := by
        have stop := digits_of_digitless ends
        rw [digits] at stop
        rw [digits, List.takeWhile_append_of_pos isRun.2, stop, List.append_nil]
      have behind : afterDigits (run ++ t) = t := by
        have whole := digits_append_afterDigits (run ++ t)
        rw [within] at whole
        exact List.append_cancel_left whole
      obtain ⟨d, ds, rfl⟩ := List.exists_cons_of_ne_nil isRun.1
      rw [substitute, if_pos rfl, within, behind, ih, List.flatMap_cons]
      exact congrArg (· ++ _) (getD_argument? arguments (d :: ds))

/-- A run of digits behind a dollar sign is a place. -/
theorem substitute_place (arguments : List Text) {run : Text} (h : IsRun run) :
    substitute arguments ('$' :: run) = fill arguments run := by
  have read := Read.place h (fun _ none => by cases none) .nil
  rw [List.append_nil] at read
  rw [substitute_of_read read, List.flatMap_singleton]
  rfl

/-- A template is filled on both sides of a cut, unless a digit follows the cut. -/
theorem substitute_append (arguments : List Text) (template : Text) {further : Text}
    (cut : Digitless further) :
    substitute arguments (template ++ further)
      = substitute arguments template ++ substitute arguments further := by
  obtain ⟨spans, read⟩ := exists_read template
  obtain ⟨more, next⟩ := exists_read further
  rw [substitute_of_read (read.append next cut), List.flatMap_append, substitute_of_read read,
    substitute_of_read next]

/-- **All places are filled at once.**  Filling may be done on both sides of any cut that no digit
follows; it leaves a text without dollar signs as it is, and puts in a place the argument of its
number, leading zeros aside, or else the place itself.  And a template is a row of parts, found
before any argument is seen, each of which stands for itself or is such a place. -/
theorem substitute_fills_places :
    (∀ arguments template further, Digitless further →
      substitute arguments (template ++ further)
        = substitute arguments template ++ substitute arguments further) ∧
    (∀ arguments t, '$' ∉ t → substitute arguments t = t) ∧
    (∀ arguments run, IsRun run → substitute arguments ('$' :: run) = fill arguments run) ∧
    (∀ zeros run, (∀ c ∈ zeros, digitValue? c = some 0) → value (zeros ++ run) = value run) ∧
    ∀ template, ∃ spans : List Span, template = spans.flatMap Span.written ∧
      ∀ arguments, substitute arguments template = spans.flatMap (Span.filled arguments) := by
  refine ⟨fun arguments template further => substitute_append arguments template,
    fun arguments t => substitute_eq_self, fun arguments run => substitute_place arguments,
    fun zeros run h => value_zeros_append h run, fun template => ?_⟩
  obtain ⟨spans, read⟩ := exists_read template
  exact ⟨spans, read.written, substitute_of_read read⟩

/-- Digits of two scripts, a zero in front, an argument that looks like a place, and a number
without an argument. -/
theorem places_of_two_scripts_are_filled :
    Digitless "-$10" ∧ IsRun "0\u0662" ∧ '$' ∉ ("2-" : Text) ∧
      (∀ c ∈ ("0\u0660" : Text), digitValue? c = some 0) ∧
      substitute ["$2", "x"] "$1-$10"
        = substitute ["$2", "x"] "$1" ++ substitute ["$2", "x"] "-$10" ∧
      substitute ["$2", "x"] "2-" = "2-" ∧
      substitute ["$2", "x"] "$0\u0662" = fill ["$2", "x"] "0\u0662" ∧
      fill ["$2", "x"] "0\u0662" = "x" ∧ substitute ["$2", "x"] "$1-$10" = "$2-$10" ∧
      value "0\u06602" = value "2" := by
  have cut : Digitless "-$10" := by
    intro c hc
    cases hc
    decide
  have run : IsRun "0\u0662" := by decide
  have zeros : ∀ c ∈ ("0\u0660" : Text), digitValue? c = some 0 := by
    have all : ("0\u0660" : Text).all (digitValue? · == some 0) = true := by decide
    simpa only [List.all_eq_true, beq_iff_eq] using all
  obtain ⟨parted, plain, place, leading, -⟩ := substitute_fills_places
  refine ⟨cut, run, by decide, zeros, parted _ "$1" _ cut, plain _ _ (by decide), place _ _ run,
    by decide +kernel, by decide +kernel, leading "0\u0660" "2" zeros⟩

end Classwright.Macro
