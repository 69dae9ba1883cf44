import Classwright.Proofs.Comment.Frame
import Mathlib.Order.Bounds.Defs

/-!
# Comment — fields at tab stops

The types and the names in the tags of a comment stand in columns: the first two fields of a tag
each begin at a multiple of four, counted from the beginning of the line, decoration included, and
at least one space parts a field from what stands in front of it.  Where the second field begins
depends on how far the first one reaches.

* `isLeast_toTabStop`: a tab stop adds the fewest spaces that lead to one.
* `Aligned`: fields behind a text, each at a tab stop.
* `aligned_iff`: there is one way to align fields, and it is that of the line of a tag.
* `fields_at_stops`: the lines of a tag.
-/

namespace Classwright

/-! ### One tab stop -/

/-- The loop that moves a text to a tab stop adds as few spaces as lead there, but at least one. -/
theorem isLeast_toTabStop (t : Text) :
    ∃ n, toTabStop t = t ++ List.replicate n ' ' ∧ n ≤ 4 ∧
      IsLeast {n | 0 < n ∧ 4 ∣ t.length + n} n := by
  refine ⟨_, toTabStop_eq t, Nat.sub_le _ _, ⟨?_, ?_⟩, fun n hn => ?_⟩
  · simp only [Indent.tabStop]
    omega
  · simp only [Indent.tabStop]
    omega
  · obtain ⟨some, stop⟩ := hn
    simp only [Indent.tabStop]
    omega

/-- One to four spaces behind which a text ends at a multiple of four are those of the tab stop. -/
theorem toTabStop_of_dvd {t : Text} {n : Nat} (some : 0 < n) (few : n ≤ 4)
    (stop : 4 ∣ t.length + n) : toTabStop t = t ++ List.replicate n ' ' := by
  have amount : Indent.tabStop - t.length % Indent.tabStop = n := by
    simp only [Indent.tabStop]
    omega
  rw [toTabStop_eq, amount]

namespace Comment

open Text

/-! ### Fields in a row -/

/-- The fields stand behind a text, each with one to four spaces in front of it, which lead to a
column that is a multiple of four. -/
inductive Aligned : (begun : Text) → (fields : List Text) → (line : Text) → Prop
  | none (begun : Text) : Aligned begun [] begun
  | more {begun field line : Text} {fields : List Text} {n : Nat} (some : 0 < n) (few : n ≤ 4)
      (stop : 4 ∣ (begun ++ List.replicate n ' ').length)
      (further : Aligned (begun ++ List.replicate n ' ' ++ field) fields line) :
      Aligned begun (field :: fields) line

/-- A field aligned behind a text stands behind its tab stop. -/
theorem aligned_cons_iff {begun field line : Text} {fields : List Text} :
    Aligned begun (field :: fields) line ↔ Aligned (toTabStop begun ++ field) fields line := by
  constructor
  · rintro (_ | ⟨some, few, stop, further⟩)
    rw [List.length_append, List.length_replicate] at stop
    rwa [toTabStop_of_dvd some few stop]
  · intro further
    obtain ⟨n, stopped, few, ⟨some, stop⟩, -⟩ := isLeast_toTabStop begun
    rw [stopped] at further
    exact .more some few (by rwa [List.length_append, List.length_replicate]) further

/-- Fields can be aligned behind a text in one way. -/
theorem aligned_iff {begun line : Text} {fields : List Text} :
    Aligned begun fields line ↔
      line = fields.foldl (fun line field => toTabStop line ++ field) begun := by
  induction fields generalizing begun with
  | nil =>
      constructor
      · rintro ⟨⟩
        rfl
      · rintro rfl
        exact .none _
  | cons field fields ih => rw [aligned_cons_iff, ih, List.foldl_cons]

/-! ### The lines of a tag -/

/-- Behind its first two fields a tag has at most one more. -/
theorem Tag.drop_fields (tag : Tag) : tag.fields.drop 2 = tag.fields[2]?.toList := by
  have short : (tag.fields.drop 2).tail = [] := by
    rw [List.tail_drop]
    exact List.drop_eq_nil_of_le tag.length_fields
  rw [← List.head?_drop]
  cases left : tag.fields.drop 2 with
  | nil => rfl
  | cons details rest =>
      rw [left, List.tail_cons] at short
      rw [short]
      rfl

/-- **Fields at tab stops.**  The line of a tag is the decoration and the label with the first two
fields aligned behind them, and there is no other way to align them.  The tag is that line without
the blanks at its end, and below it the third field, wrapped; behind a decoration that ends in no
blank all of these lines begin with it.  Moving to a tab stop comes to an end, and takes the fewest
spaces, one at least, that lead to a multiple of four. -/
theorem fields_at_stops (tag : Tag) (decoration : Text) :
    (∀ line, Aligned (decoration ++ " @" ++ tag.name) (tag.fields.take 2) line ↔
      line = tag.headline decoration) ∧
    tag.render decoration = trimEnd (tag.headline decoration)
      :: (tag.fields[2]?).elim [] (fun details => wrap details decoration " " lineWidth) ∧
    (trimEnd decoration = decoration → ∀ line ∈ tag.render decoration, decoration <+: line) ∧
    ∀ t, ∃ n, toTabStop t = t ++ List.replicate n ' ' ∧ n ≤ 4 ∧
      IsLeast {n | 0 < n ∧ 4 ∣ t.length + n} n := by
  refine ⟨fun line => ?_, ?_, fun solid => (tagged_render solid tag).holds.decorated,
    isLeast_toTabStop⟩
  · have label : decorate decoration tag.label = decoration ++ " @" ++ tag.name := by
      rw [decorate_label, List.append_assoc]
      rfl
    rw [aligned_iff, Tag.headline, label]
  · rw [Tag.render, Tag.drop_fields]
    cases tag.fields[2]? with
    | none => rfl
    | some details => simp

/-- The tag of a static variable that has no name. -/
def nameless : Tag where
  name := "staticvar"
  fields := ["int|null", [], "how many\n\nat most"]
  name_ne_nil := by decide
  length_fields := by decide

/-- Behind a field that ends at a tab stop there are four spaces, and an empty field has a tab stop
as well; the lines of the description begin with the decoration. -/
theorem nameless_at_stops :
    trimEnd "     *" = "     *" ∧
      Aligned "     * @staticvar" ["int|null", []] "     * @staticvar   int|null    " ∧
      nameless.render "     *"
        = ["     * @staticvar   int|null", "     *  how many", "     *", "     *  at most"] ∧
      ∀ line ∈ nameless.render "     *", "     *" <+: line := by
  have solid : trimEnd "     *" = "     *" := by decide
  have line : "     * @staticvar   int|null    " = nameless.headline "     *" := by decide +kernel
  obtain ⟨aligned, -, decorated, -⟩ := fields_at_stops nameless "     *"
  exact ⟨solid, (aligned _).mpr line, by decide +kernel, decorated solid⟩

end Comment

end Classwright
