import Classwright.Proofs.Class.Described
import Classwright.Proofs.Comment.Frame

/-!
# Class — the last separator taken back

Between the braces a class is a list of parts, each of which leaves one empty line behind a line
that is not blank.  So when the closing brace is due the buffered line is the empty line of the
last part, if there is any, and otherwise the opening brace; the first is taken back, the second
stays.

* `Class.Part`, `Class.parts`: the parts of a class, in order.
* `Class.partLines`: the lines of a part; `Class.innerLines_eq`: the lines of all parts.
* `Class.Concludes`, `Class.Closes`: lines that end with one that is not blank, and with an empty
  one behind it; `Class.closes_partLines`: the lines of every part do.
* `Class.parts_eq_nil_iff`: when there are no parts.
* `Class.write_retracts_separator`: what is appended, and what of it is sent.
-/

namespace Classwright

open Comment (docblock_cases docblock_eq_ok_iff exists_getLast?_separate exists_getLast?_wrap
  indentOf prefix_of_mem_wrap separate trimEnd_marker)
open Text (isBlank)
open Writer (sentLine)
open Writing

namespace Class

/-! ### Parts -/

/-- The marks between members. -/
inductive Mark where
  | accessorsStart
  | accessorsEnd
  | helpers
  deriving DecidableEq, Repr

/-- The lines of a mark; what it opens stands apart from what is in front. -/
def Mark.lines : Mark → List Text
  | accessorsStart => [[]] ++ markLines Class.accessorsStart
  | accessorsEnd => markLines Class.accessorsEnd
  | helpers => [[]] ++ markLines helpersMark

/-- What stands between the braces of a class. -/
inductive Part where
  | traits (first : Text) (further : List Text)
  | constant (constant : Constant)
  | property (property : Property)
  | mark (mark : Mark)
  | member (member : Member)
  deriving DecidableEq, Repr

/-- The traits, if any, are one part. -/
def traitParts : List Text → List Part
  | [] => []
  | first :: further => [.traits first further]

/-- The accessors of a property that it has, the setter first. -/
def accessorsOf (property : Property) : List Part :=
  (if property.setter then [.member (.method property.setterMethod)] else [])
    ++ (if property.getter then [.member (.method property.getterMethod)] else [])

variable (c : Class)

/-- The accessors between their marks; none when no property has one. -/
def accessorParts : List Part :=
  if c.properties.filter (·.hasAccessor) ≠ [] then
    .mark .accessorsStart
      :: ((c.properties.filter (·.hasAccessor)).flatMap accessorsOf ++ [.mark .accessorsEnd])
  else []

/-- The members of a visibility; the private ones stand behind a mark. -/
def groupParts (v : Visibility) : List Part :=
  if c.members v ≠ [] then
    (if v = .privateAccess then [.mark .helpers] else []) ++ (c.members v).map .member
  else []

/-- The parts of a class between its braces, in order. -/
def parts : List Part :=
  traitParts c.traits ++ (c.constants.map .constant ++ (c.properties.map .property
    ++ (c.accessorParts ++ Visibility.all.flatMap c.groupParts)))

/-- The lines of a part, with the empty line behind. -/
def partLines : Part → Except Error (List Text)
  | .traits first further =>
      .ok ((first :: further).map (fun trait => indented memberLevel ("use " ++ trait ++ ";"))
        ++ [[]])
  | .constant constant => c.scope.constantLines constant
  | .property property => c.scope.propertyLines property
  | .mark mark => .ok mark.lines
  | .member member => c.scope.memberLines member

/-! ### The lines of all parts -/

theorem allInOrder_traitParts :
    allInOrder ((traitParts c.traits).map c.partLines)
      = .ok (statementLines (c.traits.map fun trait => "use " ++ trait ++ ";") memberLevel) := by
  cases traits : c.traits with
  | nil => rfl
  | cons first further =>
      rw [traitParts, List.map_singleton, allInOrder_singleton, partLines, statementLines,
        if_pos (by simp), List.map_map]
      rfl

theorem allInOrder_accessorsOf (property : Property) :
    allInOrder ((accessorsOf property).map c.partLines) = c.scope.accessorLines property := by
  unfold accessorsOf Scope.accessorLines
  rw [List.map_append, allInOrder_append]
  congr 1
  · cases property.setter with
    | true => exact allInOrder_singleton _
    | false => rfl
  · cases property.getter with
    | true => exact allInOrder_singleton _
    | false => rfl

theorem allInOrder_accessorParts :
    allInOrder (c.accessorParts.map c.partLines) = c.accessorBlock := by
  unfold accessorParts accessorBlock
  by_cases some : c.properties.filter (·.hasAccessor) ≠ []
  · rw [if_pos some, if_pos some, List.map_cons, allInOrder_cons, List.map_append,
      allInOrder_append, List.map_flatMap, allInOrder_flatMap, List.map_singleton,
      allInOrder_singleton]
    simp only [allInOrder_accessorsOf]
    rfl
  · rw [if_neg some, if_neg some]
    rfl

theorem allInOrder_groupParts (v : Visibility) :
    allInOrder ((c.groupParts v).map c.partLines) = c.groupLines v := by
  unfold groupParts groupLines
  by_cases some : c.members v ≠ []
  · rw [if_pos some, if_pos some, List.map_append, allInOrder_append, List.map_map]
    congr 1
    by_cases hv : v = .privateAccess
    · rw [if_pos hv, if_pos hv, List.map_singleton, allInOrder_singleton]
      rfl
    · rw [if_neg hv, if_neg hv]
      rfl
  · rw [if_neg some, if_neg some]
    rfl

/-- Between the braces a class has the lines of its parts, one after the other. -/
theorem innerLines_eq : c.innerLines = allInOrder (c.parts.map c.partLines) := by
  unfold parts
  simp only [List.map_append, allInOrder_append, List.map_map, List.map_flatMap,
    allInOrder_flatMap, allInOrder_traitParts, allInOrder_accessorParts, allInOrder_groupParts]
  rw [innerLines, fieldLines, inOrder_assoc, inOrder_assoc]
  rfl

/-! ### How a part ends -/

/-- The last of the lines is not blank. -/
def Concludes (lines : List Text) : Prop :=
  ∃ last, lines.getLast? = some last ∧ isBlank last = false

/-- The last of the lines is empty, and the one before is not blank. -/
def Closes (lines : List Text) : Prop := ∃ front, lines = front ++ [[]] ∧ Concludes front

theorem isBlank_indented (level : Int) (content : Text) :
    isBlank (indented level content) = isBlank content := by
  unfold indented
  split
  next h => rw [h]
  next =>
    rw [Text.isBlank_append, Text.isBlank_eq_true_iff.mpr fun _ => Text.blank_of_mem_spaces,
      Bool.true_and]

theorem closes_indented (begun : List Text) (level : Int) {content : Text}
    (said : isBlank content = false) : Closes (begun ++ [indented level content, []]) := by
  refine ⟨begun ++ [indented level content], by simp, _, List.getLast?_concat, ?_⟩
  rw [isBlank_indented, said]

theorem closes_concat {front : List Text} (some : front ≠ [])
    (said : ∀ line ∈ front, isBlank line = false) : Closes (front ++ [[]]) :=
  ⟨front, rfl, _, List.getLast?_eq_some_getLast some, said _ (List.getLast_mem some)⟩

theorem isBlank_semicolon (t : Text) : isBlank (t ++ ";") = false :=
  Text.isBlank_append_said t (by decide)

/-- A comment in front of code does not matter for the end. -/
theorem Closes.append {lines : List Text} (h : Closes lines) (begun : List Text) :
    Closes (begun ++ lines) := by
  obtain ⟨front, rfl, last, hl, said⟩ := h
  refine ⟨begun ++ front, (List.append_assoc ..).symm, last, ?_, said⟩
  rw [List.getLast?_append, hl]
  rfl

variable {c}

theorem closes_codeLines (scope : Scope) (method : Method) :
    Closes (scope.codeLines method ++ [[]]) := by
  unfold Scope.codeLines
  split
  next => exact closes_indented [] _ (isBlank_semicolon _)
  next =>
    have brace := closes_indented
      ([indented scope.level method.signature, indented scope.level "\x7b"]
        ++ (method.body.getD [Scope.missingBody]).map (indented (scope.level + 1)))
      scope.level (show isBlank "\x7d" = false by decide)
    simpa [Scope.bodyLines] using brace

/-- A comment is followed by code that closes. -/
theorem closes_map {result : Except Error (List Text)} {code lines : List Text}
    (closes : Closes code) (h : result.map (· ++ code) = .ok lines) : Closes lines := by
  obtain ⟨comment, -, rfl⟩ := map_eq_ok_iff.mp h
  exact closes.append comment

/-- A free comment ends with a line behind its marker. -/
theorem closes_commentLines {scope : Scope} {text : Text} {lines : List Text}
    (h : scope.commentLines text = .ok lines) : Closes lines := by
  obtain ⟨comment, hc, rfl⟩ := map_eq_ok_iff.mp h
  obtain ⟨said, -⟩ := docblock_eq_ok_iff.mp ⟨comment, hc⟩
  rcases docblock_cases hc with ⟨_, collapses, -⟩ | rfl
  · cases collapses
  · obtain ⟨last, hl, -⟩ := exists_getLast?_wrap (indentOf scope.level ++ Comment.Style.line.marker)
      [] Comment.lineWidth said
    have marked := prefix_of_mem_wrap (trimEnd_marker (.inr rfl) (indentOf scope.level))
      (List.mem_of_getLast? hl)
    have whole : Comment.multiLine .line (indentOf scope.level) text []
        = Comment.wrap text (indentOf scope.level ++ Comment.Style.line.marker) []
          Comment.lineWidth := by
      simp [Comment.multiLine, Comment.delimiterLine, Comment.Style.line]
    refine ⟨_, rfl, last, ?_, Text.isBlank_of_isPrefixOf marked ?_⟩
    · rw [whole, hl]
    · exact Text.isBlank_append_said _ (by decide)

theorem closes_memberLines {scope : Scope} {member : Member} {lines : List Text}
    (h : scope.memberLines member = .ok lines) : Closes lines := by
  cases member with
  | method method => exact closes_map (closes_codeLines scope method) h
  | comment text => exact closes_commentLines h

theorem closes_lines (mark : Mark) : Closes mark.lines := by
  have closes {mark : Text} (said : isBlank mark = false) : Closes (markLines mark) :=
    closes_indented [] memberLevel said
  cases mark with
  | accessorsStart => exact (closes (by decide)).append [[]]
  | accessorsEnd => exact closes (by decide)
  | helpers => exact (closes (by decide)).append [[]]

/-- Every part ends with a line that is not blank and an empty one. -/
theorem closes_partLines {part : Part} {lines : List Text} (h : c.partLines part = .ok lines) :
    Closes lines := by
  cases part with
  | traits first further =>
      cases h
      refine closes_concat (by simp) fun line hl => ?_
      obtain ⟨trait, -, rfl⟩ := List.mem_map.mp hl
      rw [isBlank_indented, isBlank_semicolon]
  | constant constant => exact closes_map (closes_indented [] _ (isBlank_semicolon _)) h
  | property property => exact closes_map (closes_indented [] _ (isBlank_semicolon _)) h
  | mark mark =>
      cases h
      exact closes_lines mark
  | member member => exact closes_memberLines h

/-- The lines of several parts are those of each, with an empty line behind every one. -/
theorem exists_fronts {ps : List Part} {groups : List (List Text)}
    (h : List.Forall₂ (fun part group => c.partLines part = .ok group) ps groups) :
    ∃ fronts : List (List Text), groups = fronts.map (· ++ [[]]) ∧
      List.Forall₂ (fun part front => c.partLines part = .ok (front ++ [[]])) ps fronts ∧
      ∀ front ∈ fronts, Concludes front := by
  induction h with
  | nil => exact ⟨[], rfl, .nil, by simp⟩
  | cons found _ ih =>
      obtain ⟨front, rfl, ends⟩ := closes_partLines found
      obtain ⟨fronts, rfl, rest, further⟩ := ih
      exact ⟨front :: fronts, rfl, .cons found rest, List.forall_mem_cons.mpr ⟨ends, further⟩⟩

/-! ### When there are no parts -/

theorem traitParts_eq_nil_iff {traits : List Text} : traitParts traits = [] ↔ traits = [] := by
  cases traits <;> simp [traitParts]

theorem accessorParts_eq_nil (h : c.properties = []) : c.accessorParts = [] := by
  rw [accessorParts, h]
  rfl

theorem groupParts_eq_nil_iff {v : Visibility} : c.groupParts v = [] ↔ c.members v = [] := by
  unfold groupParts
  by_cases some : c.members v ≠ []
  · rw [if_pos some]
    simp [some]
  · rw [if_neg some]
    simpa using some

/-- There are no parts exactly if there are no traits, constants, properties and members: a mark
never stands alone. -/
theorem parts_eq_nil_iff : c.parts = [] ↔
    c.traits = [] ∧ c.constants = [] ∧ c.properties = [] ∧ ∀ v, c.members v = [] := by
  unfold parts
  simp only [List.append_eq_nil_iff, List.map_eq_nil_iff, List.flatMap_eq_nil_iff,
    traitParts_eq_nil_iff, groupParts_eq_nil_iff]
  constructor
  · rintro ⟨traits, constants, properties, -, members⟩
    exact ⟨traits, constants, properties, fun v => members v (Visibility.mem_all v)⟩
  · rintro ⟨traits, constants, properties, members⟩
    exact ⟨traits, constants, properties, accessorParts_eq_nil properties, fun v _ => members v⟩

/-! ### The whole -/

/-- Up to the closing brace stand the lines of all parts, and an empty one if there is a part. -/
theorem openLines_cases {lines : List Text} (h : c.openLines = .ok lines) :
    ∃ header fronts, c.headerLines = .ok header ∧
      List.Forall₂ (fun part front => c.partLines part = .ok (front ++ [[]])) c.parts fronts ∧
      (∀ front ∈ fronts, Concludes front) ∧
      lines = header ++ ("\x7b" : Text) :: separate [] fronts
        ++ (if c.parts = [] then [] else [[]]) := by
  obtain ⟨header, rest, hh, hr, rfl⟩ := inOrder_eq_ok_iff.mp h
  obtain ⟨brace, inner, hb, hi, rfl⟩ := inOrder_eq_ok_iff.mp hr
  cases hb
  rw [innerLines_eq] at hi
  obtain ⟨groups, found, rfl⟩ := allInOrder_eq_ok_iff.mp hi
  obtain ⟨fronts, rfl, told, ends⟩ := exists_fronts (List.forall₂_map_left_iff.mp found)
  refine ⟨header, fronts, hh, told, ends, ?_⟩
  have none : fronts = [] ↔ c.parts = [] := by
    rw [← List.length_eq_zero_iff, ← List.length_eq_zero_iff, told.length_eq]
  simp only [Comment.flatten_map_concat, none, List.append_assoc, List.cons_append,
    List.nil_append]

/-- The line in front of the closing brace is not blank: it is the opening brace or the end of a
part. -/
theorem concludes_kept (header : List Text) {fronts : List (List Text)}
    (ends : ∀ front ∈ fronts, Concludes front) :
    Concludes (header ++ ("\x7b" : Text) :: separate [] fronts) := by
  by_cases none : fronts = []
  · subst none
    exact ⟨("\x7b" : Text), List.getLast?_concat, by decide⟩
  · obtain ⟨last, hl, said⟩ := exists_getLast?_separate [] none ends
    refine ⟨last, ?_, said⟩
    rw [List.getLast?_append, List.getLast?_cons, hl]
    rfl

theorem Concludes.retracted {lines : List Text} (h : Concludes lines) (p : Prop) [Decidable p] :
    retracted (lines ++ (if p then [] else [[]])) = lines := by
  obtain ⟨last, hl, said⟩ := h
  by_cases hp : p
  · rw [if_pos hp, List.append_nil, Class.retracted, hl, if_neg]
    rintro ⟨⟩
    cases said
  · rw [if_neg hp, Class.retracted, if_pos List.getLast?_concat, List.dropLast_concat]

/-- A text that says something ends with a line that is not blank, once it is trimmed. -/
theorem exists_lines_trimEnd (begun : Text) {t : Text} (said : isBlank t = false) :
    ∃ before line, Text.lines (begun ++ Text.trimEnd t) = before ++ [line] ∧
      isBlank line = false := by
  have some : Text.trimEnd t ≠ [] := by
    rw [Ne, Text.trimEnd_eq_nil_iff, said]
    exact Bool.false_ne_true
  obtain ⟨init, c, whole⟩ : ∃ init c, Text.trimEnd t = init ++ [c] :=
    ⟨_, _, (List.dropLast_concat_getLast some).symm⟩
  have solid : blank c = false := Text.blank_of_getLast?_trimEnd (t := t) (by simp [whole])
  have feed : (c == '\n') = false := by
    rw [beq_eq_false_iff_ne]
    rintro rfl
    cases solid
  obtain ⟨before, last, cut⟩ := @Text.exists_split_concat (· == '\n') c (begun ++ init) feed
  refine ⟨before, last ++ [c], ?_, Text.isBlank_append_said _ (by simp [isBlank, solid])⟩
  rw [whole, ← List.append_assoc]
  exact cut

/-- In the text that is sent, a line that is not blank ends a line that is not blank, whatever line
feeds it holds. -/
theorem Concludes.exists_lines {kept : List Text} (h : Concludes kept) (more : Text) :
    ∃ before line, Text.lines (kept.flatMap sentLine ++ more) = before ++ line :: Text.lines more ∧
      isBlank line = false := by
  obtain ⟨last, hl, said⟩ := h
  obtain ⟨init, rfl⟩ := List.getLast?_eq_some_iff.mp hl
  obtain ⟨before, line, cut, speaks⟩ := exists_lines_trimEnd (init.flatMap sentLine) said
  have whole : (init ++ [last]).flatMap sentLine ++ more
      = (init.flatMap sentLine ++ Text.trimEnd last) ++ '\n' :: more := by
    simp [sentLine]
  refine ⟨before, line, ?_, speaks⟩
  rw [whole, Text.lines, Text.split_append_cons _ _ (by rfl), ← Text.lines, ← Text.lines, cut,
    List.append_assoc, List.singleton_append]

/-- The order of the groups of members does not matter. -/
theorem write_of_perm {methods : Table Visibility (List Member)}
    (distinct : (c.methods.map Prod.fst).Nodup) (order : methods.Perm c.methods) :
    { c with methods }.write = c.write := by
  have group : ∀ v, { c with methods }.writeGroup v = c.writeGroup v := by
    intro v
    have members : { c with methods }.members v = c.members v := by
      rw [members, members, Table.find?_of_perm distinct order]
    rw [writeGroup, writeGroup, members]
    rfl
  rw [write, write, funext group]
  rfl

/-- A class that is written has lines up to the closing brace; of these it leaves all but an empty
last one. -/
theorem exists_openLines {name : Text} {writer : Writer}
    (h : runFrom c.write { name } = (.ok (), writer)) :
    ∃ lines, c.openLines = .ok lines ∧
      runFrom c.writeOpen { name } = (.ok (), Writer.push { name } lines) ∧
      writer = Writer.push { name } (retracted lines ++ [("\x7d" : Text)]) := by
  have opened := c.yields_writeOpen { name } rfl
  have written := c.yields_write { name } rfl
  rw [fileLines, ← openLines] at written
  cases found : c.openLines with
  | error error =>
      rw [found, Except.map, h] at written
      cases written
  | ok lines =>
      rw [found] at opened written
      rw [Except.map, h] at written
      exact ⟨lines, rfl, opened, congrArg Prod.snd written⟩

/-- **Only the last separator is taken back.**  A class that can be written to a new writer is sent
as the lines that it appends, without the empty line of its last part if it has a part, and with
the closing brace behind; the line in front of that brace is not blank.  The order of the groups of
members does not matter. -/
theorem write_retracts_separator {c : Class} {name : Text} {writer : Writer}
    (h : runFrom c.write { name } = (.ok (), writer)) :
    ∃ header fronts, c.headerLines = .ok header ∧
      List.Forall₂ (fun part front => c.partLines part = .ok (front ++ [[]])) c.parts fronts ∧
      (c.parts = [] ↔
        c.traits = [] ∧ c.constants = [] ∧ c.properties = [] ∧ ∀ v, c.members v = []) ∧
      let kept := header ++ ("\x7b" : Text) :: separate [] fronts
      runFrom c.writeOpen { name }
        = (.ok (), Writer.push { name } (kept ++ if c.parts = [] then [] else [[]])) ∧
      writer.close.sent = (kept ++ [("\x7d" : Text)]).flatMap sentLine ∧
      (∃ before line, Text.lines writer.close.sent = before ++ ([line, "\x7d", []] : List Text) ∧
        isBlank line = false) ∧
      ∀ methods : Table Visibility (List Member), (c.methods.map Prod.fst).Nodup →
        methods.Perm c.methods → runFrom { c with methods }.write { name } = (.ok (), writer) := by
  obtain ⟨lines, found, opened, left⟩ := exists_openLines h
  obtain ⟨header, fronts, hh, told, ends, rfl⟩ := openLines_cases found
  have concludes := concludes_kept header ends
  rw [concludes.retracted] at left
  refine ⟨header, fronts, hh, told, parts_eq_nil_iff, ?_⟩
  intro kept
  have sent : writer.close.sent = (kept ++ [("\x7d" : Text)]).flatMap sentLine := by
    rw [left, Writer.close_push_sent rfl]
    rfl
  obtain ⟨before, line, cut, speaks⟩ := concludes.exists_lines ("\x7d\n" : Text)
  refine ⟨opened, sent, ⟨before, line, ?_, speaks⟩, fun methods distinct order => ?_⟩
  · rw [sent, List.flatMap_append]
    exact cut
  · rw [write_of_perm distinct order, h]

/-- A class with a property that has no accessors, an empty group and a comment at the end. -/
def tally : Class where
  name := "Tally"
  description := "Counts things."
  properties := [{ name := "total", description := "So far.", getter := false, setter := false }]
  methods := [(.privateAccess, [.comment "Nothing else."]), (.protectedAccess, []),
    (.publicAccess, [.method { name := "count", description := "Counts one." }])]

/-- The line behind its comment is taken back, in whatever order its groups come. -/
theorem tally_retracts_separator :
    ∃ writer header fronts, runFrom tally.write {} = (.ok (), writer) ∧
      List.Forall₂ (fun part front => tally.partLines part = .ok (front ++ [[]])) tally.parts
        fronts ∧ tally.parts ≠ [] ∧
      writer.close.sent = (header ++ ("\x7b" : Text) :: separate [] fronts
        ++ [("\x7d" : Text)]).flatMap sentLine ∧
      runFrom { tally with methods := tally.methods.reverse }.write {} = (.ok (), writer) := by
  have run : runFrom tally.write {} = (.ok (), (runFrom tally.write {}).2) := by decide +kernel
  obtain ⟨header, fronts, -, told, none, -, sent, -, order⟩ := write_retracts_separator run
  refine ⟨_, header, fronts, run, told, fun h => ?_, sent,
    order _ (by decide) (List.reverse_perm _)⟩
  cases (none.mp h).2.2.1

end Class

end Classwright
