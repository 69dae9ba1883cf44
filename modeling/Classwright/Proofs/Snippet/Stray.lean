import Classwright.Proofs.Snippet.Embedding
import Classwright.Proofs.Text.Occurrence

/-!
# Snippet — stray markers

Markers are looked for on the first line and on the last.  White space around code may hold line
feeds, and then the markers stand on neither: the blank lines at the edges are dropped, the markers
stay.

* `Plain`: a text without markers.
* `flatMap_words_normalise`: raw code keeps its words, apart from its markers.
* `plain_iff_of_words`: so it is up to the words whether a marker is left.
* `markers_gone_iff`: no marker is left of marked code exactly when it shares its first and its last
  line with them.
-/

namespace Classwright.Snippet

open Text

/-! ### Words -/

/-- Reading a paired line ending replaces blanks by a blank. -/
theorem words_unifyReturnPairs (begun t : Text) :
    words (begun ++ unifyReturnPairs t) = words (begun ++ t) := by
  fun_induction unifyReturnPairs t generalizing begun with
  | case1 => rfl
  | case2 cs ih =>
      have rest := ih []
      rw [List.nil_append, List.nil_append] at rest
      rw [words_append_cons _ _ blank_newline, words_append_cons _ _ (by rfl),
        words_cons _ blank_newline, rest]
  | case3 c cs _ ih =>
      have rest := ih (begun ++ [c])
      rwa [List.append_assoc, List.append_assoc] at rest

theorem flatMap_words_lines (t : Text) : (lines t).flatMap words = words t := by
  rw [← words_join (lines t) blank_newline, lines, join_split]

theorem Edge.flatMap_words {ls : List Text} (h : Edge ls) : ls.flatMap words = [] := by
  cases h with
  | bare => rfl
  | blank silent => rw [List.flatMap_singleton, words_of_blank silent]

/-- Apart from its markers, raw code keeps its words. -/
theorem flatMap_words_normalise (raw : Text) :
    (normalise raw).flatMap words = (unmarked raw).flatMap words := by
  obtain ⟨first, rest, h⟩ := List.exists_cons_of_ne_nil (bared_unmarked raw).ne_nil
  by_cases several : rest = []
  · subst several
    rw [normalise_of_single h, h, List.flatMap_singleton, List.flatMap_singleton, words_trim]
  · obtain ⟨front, kept, back, whole, before, behind, between, left⟩ := exists_kept several h
    have same : (kept.map (dedent (margin rest))).flatMap words = kept.flatMap words := by
      rw [List.flatMap_def, map_words_dedent _ between, ← List.flatMap_def]
    rw [h, whole, left, same, List.flatMap_append, List.flatMap_append, before.flatMap_words,
      behind.flatMap_words, List.nil_append, List.append_nil]

/-! ### Plain texts -/

/-- No marker stands in the text. -/
def Plain (t : Text) : Prop := ¬ ("<?" : Text) <:+: t ∧ ¬ ("?>" : Text) <:+: t

theorem Plain.of_infix {t u : Text} (h : Plain u) (inside : t <:+: u) : Plain t :=
  ⟨fun found => h.1 (found.trans inside), fun found => h.2 (found.trans inside)⟩

theorem not_plain_opening {marker : Text} (h : marker ∈ openings) (t u : Text) :
    ¬ Plain (t ++ (marker ++ u)) := by
  have begins : ("<?" : Text) <+: marker := by
    revert marker
    decide
  obtain ⟨rest, rfl⟩ := begins
  exact fun plain => plain.1 ⟨t, rest ++ u, by simp⟩

theorem not_plain_closing (t u : Text) : ¬ Plain (t ++ (("?>" : Text) ++ u)) := fun plain =>
  plain.2 ⟨t, u, List.append_assoc _ _ _⟩

/-- Markers hold no blanks, so it is up to the words whether texts are plain. -/
theorem plain_iff_of_words {ts us : List Text} (h : ts.flatMap words = us.flatMap words) :
    (∀ t ∈ ts, Plain t) ↔ ∀ u ∈ us, Plain u := by
  have solid : blank '<' = false ∧ blank '?' = false ∧ blank '>' = false := by decide
  have opening : ∀ c ∈ ("<?" : Text), blank c = false := by simp [solid]
  have closing : ∀ c ∈ ("?>" : Text), blank c = false := by simp [solid]
  simp only [Plain, forall_and]
  exact and_congr (forall_not_infix_iff_of_words (by decide) opening h)
    (forall_not_infix_iff_of_words (by decide) closing h)

theorem plain_lines_iff {t : Text} : (∀ line ∈ lines t, Plain line) ↔ Plain t := by
  have same : (lines t).flatMap words = [t].flatMap words := by
    rw [flatMap_words_lines, List.flatMap_singleton]
  rw [plain_iff_of_words same, List.forall_mem_singleton]

theorem exists_line_of_not_plain {t : Text} (h : ¬ Plain t) : ∃ line ∈ lines t, ¬ Plain line := by
  simpa using mt plain_lines_iff.mp h

theorem plain_unifyReturnPairs_iff {t : Text} : Plain (unifyReturnPairs t) ↔ Plain t := by
  have same : [unifyReturnPairs t].flatMap words = [t].flatMap words := by
    rw [List.flatMap_singleton, List.flatMap_singleton]
    exact words_unifyReturnPairs [] t
  have each := plain_iff_of_words same
  rwa [List.forall_mem_singleton, List.forall_mem_singleton] at each

/-! ### Marked code -/

/-- Code between an opening and a closing marker, with white space around them. -/
def enclosed (before marker code behind : Text) : Text :=
  before ++ (marker ++ (code ++ (("?>" : Text) ++ behind)))

/-- The lines of a text, whose line endings are unified, without its markers. -/
def bareLines (t : Text) : List Text := mapLast withoutClosing (mapFirst withoutOpening (lines t))

/-- Markers begin and end with no return and no line feed, so marked code is read part by part. -/
theorem unmarked_enclosed {marker : Text} (h : marker ∈ openings) (before code behind : Text) :
    unmarked (enclosed before marker code behind)
      = bareLines (enclosed (unifyReturnPairs before) marker (unifyReturnPairs code)
          (unifyReturnPairs behind)) := by
  have solid : '\n' ∉ marker ∧ marker.getLast? ≠ some '\r' ∧ ∃ c cs, marker = c :: cs ∧ c ≠ '\n' := by
    rcases List.mem_pair.mp h with rfl | rfl
    · exact ⟨by decide, by decide, _, _, rfl, by decide⟩
    · exact ⟨by decide, by decide, _, _, rfl, by decide⟩
  obtain ⟨feed, last, c, cs, rfl, head⟩ := solid
  rw [unmarked, enclosed, unifyReturnPairs_append _ (.inr (by simpa using head)),
    unifyReturnPairs_append (t := c :: cs) _ (.inl last), unifyReturnPairs_of_feedless feed,
    unifyReturnPairs_append _ (.inr (by simp)), unifyReturnPairs_append _ (.inl (by decide)),
    unifyReturnPairs_of_feedless (t := "?>") (by decide), bareLines, enclosed]

section Marked

variable {before marker : Text} (front : isBlank before = true) (h : marker ∈ openings)
include front h

/-- On the first line the opening marker goes, and with the short one maybe the rest of the long
one. -/
theorem exists_map_withoutOpening (feed : '\n' ∉ before) (code : Text) :
    ∃ left, left <:+ code ∧ ∀ behind : Text,
      mapFirst withoutOpening (lines (enclosed before marker code behind))
        = lines (left ++ (("?>" : Text) ++ behind)) := by
  unfold enclosed
  rcases List.mem_pair.mp h with rfl | rfl
  · exact ⟨code, List.suffix_refl code, fun _ => map_withoutOpening_long _ front feed⟩
  · by_cases long : ("php" : Text) <+: code
    · obtain ⟨left, rfl⟩ := long
      refine ⟨left, List.suffix_append _ left, fun behind => ?_⟩
      rw [List.append_assoc]
      exact map_withoutOpening_long _ front feed
    · refine ⟨code, List.suffix_refl code, fun behind => map_withoutOpening_short front feed ?_⟩
      exact mt (prefix_append_cons_iff code ('>' :: behind) (by decide)).mp long

/-- With no line feed at either end both markers go. -/
theorem plain_of_feedless {code behind : Text} (feed : '\n' ∉ before) (further : '\n' ∉ behind)
    (back : isBlank behind = true) (plain : Plain code) :
    ∀ line ∈ bareLines (enclosed before marker code behind), Plain line := by
  obtain ⟨left, inside, whole⟩ := exists_map_withoutOpening front h feed code
  rw [bareLines, whole, map_withoutClosing_marked left back further, plain_lines_iff]
  exact plain.of_infix inside.isInfix

/-- Above a line feed the closing marker stays. -/
theorem exists_not_plain_of_feed_behind (code : Text) {behind : Text} (feed : '\n' ∈ behind) :
    ∃ line ∈ bareLines (enclosed before marker code behind), ¬ Plain line := by
  obtain ⟨upper, lower, rfl, -⟩ := List.eq_append_cons_of_mem feed
  -- The lines up to the last ones, and the marker in their midst.
  have opened : ∃ top left, mapFirst withoutOpening (lines (enclosed before marker code upper))
      = top ++ lines (left ++ (("?>" : Text) ++ upper)) := by
    by_cases feed : '\n' ∈ before
    · obtain ⟨first, second, rfl, -⟩ := List.eq_append_cons_of_mem feed
      refine ⟨mapFirst withoutOpening (lines first), second ++ (marker ++ code), ?_⟩
      rw [enclosed, List.append_assoc, List.cons_append, lines_append_cons,
        mapFirst_append _ _ (lines_ne_nil first)]
      simp only [List.append_assoc]
    · obtain ⟨left, -, whole⟩ := exists_map_withoutOpening front h feed code
      exact ⟨[], left, whole upper⟩
  obtain ⟨top, left, opened⟩ := opened
  obtain ⟨line, hl, stray⟩ := exists_line_of_not_plain (not_plain_closing left upper)
  refine ⟨line, ?_, stray⟩
  have cut : enclosed before marker code (upper ++ '\n' :: lower)
      = enclosed before marker code upper ++ '\n' :: lower := by simp [enclosed]
  rw [bareLines, cut, lines_append_cons, mapFirst_append _ _ (lines_ne_nil _),
    mapLast_append _ _ (lines_ne_nil lower), opened]
  exact List.mem_append_left _ (List.mem_append_right _ hl)

end Marked

/-- Below a line feed the opening marker stays. -/
theorem exists_not_plain_of_feed_before {before marker behind : Text} (h : marker ∈ openings)
    (feed : '\n' ∈ before) (code : Text) (further : '\n' ∉ behind)
    (back : isBlank behind = true) :
    ∃ line ∈ bareLines (enclosed before marker code behind), ¬ Plain line := by
  obtain ⟨upper, lower, rfl, -⟩ := List.eq_append_cons_of_mem feed
  obtain ⟨line, hl, stray⟩ := exists_line_of_not_plain (not_plain_opening h lower code)
  refine ⟨line, ?_, stray⟩
  have cut : lower ++ (marker ++ (code ++ (("?>" : Text) ++ behind)))
      = lower ++ (marker ++ code) ++ (("?>" : Text) ++ behind) := by simp
  rw [bareLines, enclosed, List.append_assoc, List.cons_append, lines_append_cons,
    mapFirst_append _ _ (lines_ne_nil upper), mapLast_append _ _ (lines_ne_nil _), cut,
    map_withoutClosing_marked _ back further]
  exact List.mem_append_right _ hl

/-- **Markers that are gone.**  Of code without markers, between an opening and a closing marker
with white space around them, no marker is left exactly when the white space holds no line
feed. -/
theorem markers_gone_iff {before marker code behind : Text} (front : isBlank before = true)
    (back : isBlank behind = true) (h : marker ∈ openings) (plain : Plain code) :
    (∀ line ∈ normalise (enclosed before marker code behind), Plain line) ↔
      '\n' ∉ before ∧ '\n' ∉ behind := by
  rw [plain_iff_of_words (flatMap_words_normalise _), unmarked_enclosed h,
    ← feed_mem_unifyReturnPairs (t := before), ← feed_mem_unifyReturnPairs (t := behind)]
  replace front := isBlank_unifyReturnPairs front
  replace back := isBlank_unifyReturnPairs back
  replace plain := plain_unifyReturnPairs_iff.mpr plain
  constructor
  · intro gone
    by_cases further : '\n' ∈ unifyReturnPairs behind
    · obtain ⟨line, hl, found⟩ :=
        exists_not_plain_of_feed_behind front h (unifyReturnPairs code) further
      exact absurd (gone line hl) found
    · refine ⟨fun feed => ?_, further⟩
      obtain ⟨line, hl, found⟩ :=
        exists_not_plain_of_feed_before h feed (unifyReturnPairs code) further back
      exact absurd (gone line hl) found
  · rintro ⟨feed, further⟩
    exact plain_of_feedless front h feed further back plain

/-- Of two lines of code with both markers on them no marker is left. -/
theorem markers_gone_from_two_lines :
    Plain " a();\n  b(); " ∧
      ∀ line ∈ normalise (enclosed "\t" "<?php" " a();\n  b(); " " "), Plain line := by
  have plain : Plain " a();\n  b(); " := ⟨by decide +kernel, by decide +kernel⟩
  have front : isBlank "\t" = true := rfl
  have back : isBlank " " = true := rfl
  have marker : ("<?php" : Text) ∈ openings := List.mem_cons_self
  exact ⟨plain, (markers_gone_iff front back marker plain).mpr ⟨by decide, by decide⟩⟩

/-- An opening marker below a line feed is left in the code. -/
theorem marker_below_feed_stays :
    isBlank "\n" = true ∧ isBlank [] = true ∧ ("<?php" : Text) ∈ openings ∧ Plain " a(); " ∧
      normalise (enclosed "\n" "<?php" " a(); " []) = ([("<?php a();" : Text)]) ∧
      ¬ Plain "<?php a();" := by
  have plain : Plain " a(); " := ⟨by decide +kernel, by decide +kernel⟩
  have left : normalise (enclosed "\n" "<?php" " a(); " []) = ([("<?php a();" : Text)]) := by
    decide +kernel
  have stray : ("<?" : Text) <:+: ("<?php a();" : Text) := by decide +kernel
  exact ⟨rfl, rfl, List.mem_cons_self, plain, left, fun free => free.1 stray⟩

end Classwright.Snippet
