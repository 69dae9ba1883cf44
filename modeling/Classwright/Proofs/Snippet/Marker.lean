import Classwright.Proofs.Text.Word
import Classwright.Snippet

/-!
# Snippet — lines without their markers

An opening marker counts at the beginning of the first line, a closing marker at the end of the
last one, each with the blanks on its outer side.  What is left of a line is said here without
reference to how it is found, and the lines without markers are shown to be just that.

* `Opened`, `Closed`, `Bared`: a line without its opening marker, a line without its closing
  marker, lines without both.
* `unifyReturnPairs_append`, `lines_append_of_feedless`, `lines_append_feedless`: how a text is
  read when another stands in front of it or behind it.
* `withoutOpening_long`, `withoutOpening_short`, `withoutClosing_marked`: a marker is taken off a
  line.
* `map_withoutOpening_long`, `map_withoutOpening_short`, `map_withoutClosing_marked`: a marker is
  taken off a text.
* `bared_unmarked`: the lines without markers are what is left of the lines.
-/

namespace Classwright.Snippet

open Text

/-! ### What is left -/

/-- A line and what is left of it without an opening marker, which is the long one if it can
be. -/
inductive Opened : Text → Text → Prop
  | long {blanks : Text} (code : Text) (h : isBlank blanks = true) :
      Opened (blanks ++ (("<?php" : Text) ++ code)) code
  | short {blanks code : Text} (h : isBlank blanks = true) (alone : ¬ ("php" : Text) <+: code) :
      Opened (blanks ++ (("<?" : Text) ++ code)) code
  | bare {line : Text}
      (h : ∀ blanks code : Text, isBlank blanks = true → line ≠ blanks ++ (("<?" : Text) ++ code)) :
      Opened line line

/-- A line and what is left of it without a closing marker. -/
inductive Closed : Text → Text → Prop
  | marked {blanks : Text} (code : Text) (h : isBlank blanks = true) :
      Closed (code ++ (("?>" : Text) ++ blanks)) code
  | bare {line : Text}
      (h : ∀ blanks code : Text, isBlank blanks = true → line ≠ code ++ (("?>" : Text) ++ blanks)) :
      Closed line line

/-- Lines and what is left of them: the first without an opening marker, the last without a
closing one. -/
inductive Bared : List Text → List Text → Prop
  | single {line code left : Text} (opens : Opened line code) (closes : Closed code left) :
      Bared [line] [left]
  | several {first last code left : Text} (between : List Text) (opens : Opened first code)
      (closes : Closed last left) :
      Bared (first :: (between ++ [last])) (code :: (between ++ [left]))

/-! ### One marker -/

theorem trimStart_marker {blanks : Text} (code : Text) (h : isBlank blanks = true) :
    trimStart (blanks ++ (("<?" : Text) ++ code)) = ("<?" : Text) ++ code :=
  trimStart_append_blanks (isBlank_eq_true_iff.mp h)

theorem trimEnd_marker {blanks : Text} (code : Text) (h : isBlank blanks = true) :
    trimEnd (code ++ (("?>" : Text) ++ blanks)) = code ++ ("?>" : Text) := by
  rw [← List.append_assoc, trimEnd_append_blanks (isBlank_eq_true_iff.mp h)]
  exact trimEnd_append_of_said code (by decide)

theorem withoutOpening_short {blanks code : Text} (h : isBlank blanks = true)
    (alone : ¬ ("php" : Text) <+: code) :
    withoutOpening (blanks ++ (("<?" : Text) ++ code)) = code := by
  have absent : after? "php" code = none := by
    refine Option.eq_none_iff_forall_ne_some.mpr fun rest hr => alone ?_
    rw [after?_eq_some_iff.mp hr]
    exact List.prefix_append _ rest
  rw [withoutOpening, trimStart_marker code h, after?_eq_some_iff.mpr rfl]
  change (after? "php" code).getD code = code
  rw [absent]
  rfl

theorem withoutOpening_long {blanks : Text} (code : Text) (h : isBlank blanks = true) :
    withoutOpening (blanks ++ (("<?php" : Text) ++ code)) = code := by
  change withoutOpening (blanks ++ (("<?" : Text) ++ (("php" : Text) ++ code))) = code
  rw [withoutOpening, trimStart_marker _ h, after?_eq_some_iff.mpr rfl]
  change (after? "php" (("php" : Text) ++ code)).getD _ = code
  rw [after?_eq_some_iff.mpr rfl]
  rfl

theorem withoutClosing_marked {blanks : Text} (code : Text) (h : isBlank blanks = true) :
    withoutClosing (code ++ (("?>" : Text) ++ blanks)) = code := by
  have ends : (code ++ ("?>" : Text)).reverse = ['>', '?'] ++ code.reverse := List.reverse_append
  rw [withoutClosing, trimEnd_marker code h, ends, after?_eq_some_iff.mpr rfl]
  exact List.reverse_reverse code

theorem opened_withoutOpening (line : Text) : Opened line (withoutOpening line) := by
  have front : isBlank (line.takeWhile blank) = true := List.all_takeWhile
  cases marker : after? "<?" (trimStart line) with
  | none =>
      rw [withoutOpening, marker]
      refine .bare fun blanks code h he => ?_
      rw [he, trimStart_marker code h, after?_eq_some_iff.mpr rfl] at marker
      cases marker
  | some code =>
      have whole : line = line.takeWhile blank ++ (("<?" : Text) ++ code) := by
        rw [← after?_eq_some_iff.mp marker, trimStart, List.takeWhile_append_dropWhile]
      rw [whole]
      by_cases long : ("php" : Text) <+: code
      · obtain ⟨rest, rfl⟩ := long
        have left := withoutOpening_long rest front
        exact left.symm ▸ .long rest front
      · rw [withoutOpening_short front long]
        exact .short front long

theorem closed_withoutClosing (line : Text) : Closed line (withoutClosing line) := by
  cases marker : after? ['>', '?'] (trimEnd line).reverse with
  | none =>
      rw [withoutClosing, marker]
      refine .bare fun blanks code h he => ?_
      have ends : (code ++ ("?>" : Text)).reverse = ['>', '?'] ++ code.reverse :=
        List.reverse_append
      rw [he, trimEnd_marker code h, ends, after?_eq_some_iff.mpr rfl] at marker
      cases marker
  | some code =>
      obtain ⟨blanks, h, whole⟩ := exists_trimEnd_append line
      rw [List.reverse_eq_iff.mp (after?_eq_some_iff.mp marker), List.reverse_append,
        List.append_assoc] at whole
      rw [whole]
      have left := withoutClosing_marked code.reverse h
      exact left.symm ▸ .marked code.reverse h

/-! ### Reading -/

/-- Two texts are read one after the other unless a return and a line feed meet between them. -/
theorem unifyReturnPairs_append {t : Text} (u : Text)
    (apart : t.getLast? ≠ some '\r' ∨ u.head? ≠ some '\n') :
    unifyReturnPairs (t ++ u) = unifyReturnPairs t ++ unifyReturnPairs u := by
  fun_induction unifyReturnPairs t with
  | case1 => rfl
  | case2 cs ih =>
      rw [List.cons_append, List.cons_append, unifyReturnPairs, ih, List.cons_append]
      refine apart.imp_left fun last => ?_
      cases cs with
      | nil => simp
      | cons d ds => rwa [List.getLast?_cons_cons, List.getLast?_cons_cons] at last
  | case3 c cs single ih =>
      have alone : ∀ rest, c = '\r' → cs ++ u = '\n' :: rest → False := by
        intro rest hc hr
        cases cs with
        | nil =>
            rw [List.nil_append] at hr
            rw [hc, hr] at apart
            simp at apart
        | cons d ds =>
            cases hr
            exact single ds hc rfl
      rw [List.cons_append, unifyReturnPairs.eq_3 c _ alone, ih, List.cons_append]
      refine apart.imp_left fun last => ?_
      cases cs with
      | nil => simp
      | cons d ds => rwa [List.getLast?_cons_cons] at last

theorem unifyReturnPairs_of_feedless {t : Text} (feed : '\n' ∉ t) : unifyReturnPairs t = t := by
  fun_induction unifyReturnPairs t with
  | case1 => rfl
  | case2 cs ih => exact absurd (List.mem_cons_of_mem _ List.mem_cons_self) feed
  | case3 c cs single ih => rw [ih (mt (List.mem_cons_of_mem c) feed)]

theorem subset_unifyReturnPairs (t : Text) : unifyReturnPairs t ⊆ t := by
  fun_induction unifyReturnPairs t with
  | case1 => exact List.Subset.refl []
  | case2 cs ih => exact List.subset_cons_of_subset _ (List.cons_subset_cons _ ih)
  | case3 c cs _ ih => exact List.cons_subset_cons c ih

theorem feed_mem_unifyReturnPairs {t : Text} : '\n' ∈ unifyReturnPairs t ↔ '\n' ∈ t := by
  fun_induction unifyReturnPairs t with
  | case1 => rfl
  | case2 cs ih => simp
  | case3 c cs _ ih => rw [List.mem_cons, List.mem_cons, ih]

theorem isBlank_unifyReturnPairs {t : Text} (h : isBlank t = true) :
    isBlank (unifyReturnPairs t) = true :=
  isBlank_eq_true_iff.mpr fun c hc => isBlank_eq_true_iff.mp h c (subset_unifyReturnPairs t hc)

theorem lines_ne_nil (t : Text) : lines t ≠ [] := split_ne_nil (· == '\n') t

theorem lines_cons_feed (t : Text) : lines ('\n' :: t) = [] :: lines t := rfl

theorem lines_cons {c : Char} (t : Text) (h : '\n' ≠ c) :
    lines (c :: t) = consFirst c (lines t) := by
  rw [lines, split, if_neg (by simpa using Ne.symm h), ← lines]

theorem lines_of_feedless {t : Text} (feed : '\n' ∉ t) : lines t = [t] := split_of_not_mem feed

theorem lines_append_cons (t u : Text) : lines (t ++ '\n' :: u) = lines t ++ lines u :=
  split_append_cons t u rfl

theorem prefix_of_lines {t first : Text} {rest : List Text} (h : lines t = first :: rest) :
    first <+: t := by
  rw [← join_split '\n' t, ← lines, h]
  exact prefix_join_cons _ first rest

/-- A text without line feeds stands in front of the first line of what follows. -/
theorem lines_append_of_feedless {t : Text} (u : Text) (feed : '\n' ∉ t) :
    lines (t ++ u) = mapFirst (t ++ ·) (lines u) := by
  obtain ⟨first, rest, h⟩ := List.exists_cons_of_ne_nil (lines_ne_nil u)
  rw [h]
  induction t with
  | nil => exact h
  | cons c cs ih =>
      obtain ⟨hc, hcs⟩ := not_or.mp (mt List.mem_cons.mpr feed)
      rw [List.cons_append, lines_cons _ hc, ih hcs]
      rfl

/-- A text without line feeds stands behind the last line of what precedes it. -/
theorem lines_append_feedless (t : Text) {u : Text} (feed : '\n' ∉ u) :
    lines (t ++ u) = mapLast (· ++ u) (lines t) := by
  induction t with
  | nil => exact lines_of_feedless feed
  | cons c cs ih =>
      obtain ⟨first, rest, h⟩ := List.exists_cons_of_ne_nil (lines_ne_nil cs)
      by_cases hc : '\n' = c
      · rw [← hc, List.cons_append, lines_cons_feed, ih, lines_cons_feed, h]
        rfl
      · rw [List.cons_append, lines_cons _ hc, ih, lines_cons _ hc, h]
        cases rest with
        | nil => rfl
        | cons second rest => rfl

/-! ### Markers of a text -/

/-- Without the long marker in front of it, a text has its own lines. -/
theorem map_withoutOpening_long {blanks : Text} (code : Text) (h : isBlank blanks = true)
    (feed : '\n' ∉ blanks) :
    mapFirst withoutOpening (lines (blanks ++ (("<?php" : Text) ++ code))) = lines code := by
  have feed : '\n' ∉ blanks ++ ("<?php" : Text) := by
    rw [List.mem_append]
    exact not_or.mpr ⟨feed, by decide⟩
  obtain ⟨first, rest, hl⟩ := List.exists_cons_of_ne_nil (lines_ne_nil code)
  rw [← List.append_assoc, lines_append_of_feedless code feed, hl, mapFirst, mapFirst,
    List.append_assoc, withoutOpening_long first h]

theorem map_withoutOpening_short {blanks code : Text} (h : isBlank blanks = true)
    (feed : '\n' ∉ blanks) (alone : ¬ ("php" : Text) <+: code) :
    mapFirst withoutOpening (lines (blanks ++ (("<?" : Text) ++ code))) = lines code := by
  have feed : '\n' ∉ blanks ++ ("<?" : Text) := by
    rw [List.mem_append]
    exact not_or.mpr ⟨feed, by decide⟩
  obtain ⟨first, rest, hl⟩ := List.exists_cons_of_ne_nil (lines_ne_nil code)
  rw [← List.append_assoc, lines_append_of_feedless code feed, hl, mapFirst, mapFirst,
    List.append_assoc, withoutOpening_short h fun hp => alone (hp.trans (prefix_of_lines hl))]

theorem mapFirst_append (f : Text → Text) {ls : List Text} (ms : List Text) (hne : ls ≠ []) :
    mapFirst f (ls ++ ms) = mapFirst f ls ++ ms := by
  obtain ⟨first, rest, rfl⟩ := List.exists_cons_of_ne_nil hne
  rfl

theorem mapLast_append (f : Text → Text) (ls : List Text) {ms : List Text} (hne : ms ≠ []) :
    mapLast f (ls ++ ms) = ls ++ mapLast f ms := by
  induction ls with
  | nil => rfl
  | cons first ls ih =>
      obtain ⟨second, rest, whole⟩ :=
        List.exists_cons_of_ne_nil (List.append_ne_nil_of_right_ne_nil ls hne)
      rw [List.cons_append, whole, mapLast, ← whole, ih, List.cons_append]

theorem mapLast_concat (f : Text → Text) (ls : List Text) (l : Text) :
    mapLast f (ls ++ [l]) = ls ++ [f l] := mapLast_append f ls (List.cons_ne_nil l [])

/-- Without the marker behind it, a text has its own lines. -/
theorem map_withoutClosing_marked {blanks : Text} (code : Text) (h : isBlank blanks = true)
    (feed : '\n' ∉ blanks) :
    mapLast withoutClosing (lines (code ++ (("?>" : Text) ++ blanks))) = lines code := by
  have feed : '\n' ∉ ("?>" : Text) ++ blanks := by
    rw [List.mem_append]
    exact not_or.mpr ⟨by decide, feed⟩
  have hl := (List.dropLast_concat_getLast (lines_ne_nil code)).symm
  rw [lines_append_feedless code feed, hl, mapLast_concat, mapLast_concat,
    withoutClosing_marked _ h, ← hl]

/-- What is left of the lines are the lines without markers. -/
theorem bared_unmarked (raw : Text) : Bared (lines (unifyReturnPairs raw)) (unmarked raw) := by
  obtain ⟨first, rest, hl⟩ := List.exists_cons_of_ne_nil (lines_ne_nil (unifyReturnPairs raw))
  rw [unmarked, hl, mapFirst]
  rcases List.eq_nil_or_concat rest with rfl | ⟨between, last, rfl⟩
  · exact .single (opened_withoutOpening first) (closed_withoutClosing _)
  · have left : mapLast withoutClosing (withoutOpening first :: (between ++ [last]))
        = withoutOpening first :: (between ++ [withoutClosing last]) :=
      mapLast_concat withoutClosing (withoutOpening first :: between) last
    rw [List.concat_eq_append, left]
    exact .several between (opened_withoutOpening first) (closed_withoutClosing last)

end Classwright.Snippet
