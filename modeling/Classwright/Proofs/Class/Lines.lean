import Classwright.Class.Assembly
import Classwright.Proofs.Class.Member

/-!
# Class — the lines of a file

A class is written as the lines of its parts, one after the other, without the empty line that
the last part leaves and with a closing brace.

* `Class.headerLines`, `Class.fieldLines`, `Class.groupLines`: the lines of each part.
* `Class.fileLines`: the lines of the file.
* `Class.writeOpen`, `Class.openLines`: all up to the closing brace; `Class.write_eq`: the rest.
* `Class.yields_write`: a class is written as these lines.
* `Class.text_eq`: its text is these lines as a writer sends them.
-/

namespace Classwright.Class

open Comment (Tag docblock)
open Writing

/-! ### Lines -/

/-- The lines of a comment at the left margin. -/
def headingLines (description : Text) (tags : List Tag) : Except Error (List Text) :=
  docblock (some description) tags 0 .block true

/-- The lines of statements, with an empty line behind; none when there are none. -/
def statementLines (statements : List Text) (level : Int) : List Text :=
  if statements ≠ [] then statements.map (indented level) ++ [[]] else []

/-- The lines of a mark between members. -/
def markLines (mark : Text) : List Text := [indented memberLevel mark, []]

variable (c : Class)

/-- The lines before the comments of the class. -/
def openingLines : List Text :=
  [("<?php" : Text), []] ++ ((if c.home ≠ [] then ["namespace " ++ c.home ++ ";", []] else [])
    ++ statementLines (c.uses.map fun use => "use " ++ use ++ ";") 0)

/-- The lines before the braces. -/
def headerLines : Except Error (List Text) :=
  inOrder (.ok c.openingLines)
    (inOrder (allInOrder (c.superdocs.map fun superdoc =>
        (headingLines superdoc []).map (· ++ [[]])))
      ((headingLines c.description (if c.author = [] then [] else [.author c.author])).map
        (· ++ [c.declaration])))

/-- The lines of the accessors between their marks; none when there are no accessors. -/
def accessorBlock : Except Error (List Text) :=
  if c.properties.filter (·.hasAccessor) ≠ [] then
    inOrder (.ok ([[]] ++ markLines accessorsStart))
      (inOrder (allInOrder ((c.properties.filter (·.hasAccessor)).map c.scope.accessorLines))
        (.ok (markLines accessorsEnd)))
  else .ok []

/-- The lines of the constants, the properties and their accessors. -/
def fieldLines : Except Error (List Text) :=
  inOrder (allInOrder (c.constants.map c.scope.constantLines))
    (inOrder (allInOrder (c.properties.map c.scope.propertyLines)) c.accessorBlock)

/-- The lines of the members of a visibility; the private ones stand behind a mark. -/
def groupLines (v : Visibility) : Except Error (List Text) :=
  if c.members v ≠ [] then
    inOrder (.ok (if v = .privateAccess then [[]] ++ markLines helpersMark else []))
      (allInOrder ((c.members v).map c.scope.memberLines))
  else .ok []

/-- The lines between the opening brace and the closing one, with the empty line that the last part
leaves. -/
def innerLines : Except Error (List Text) :=
  inOrder (.ok (statementLines (c.traits.map fun trait => "use " ++ trait ++ ";") memberLevel))
    (inOrder c.fieldLines (allInOrder (Visibility.all.map c.groupLines)))

/-- The lines without the last, if that is empty. -/
def retracted (lines : List Text) : List Text :=
  if lines.getLast? = some [] then lines.dropLast else lines

/-- The lines of the file. -/
def fileLines : Except Error (List Text) :=
  (inOrder c.headerLines (inOrder (.ok [("\x7b" : Text)]) c.innerLines)).map
    (retracted · ++ [("\x7d" : Text)])

/-! ### Parts -/

theorem decides_writeHeading (description : Text) (tags : List Tag) :
    Decides (writeHeading description tags) (headingLines description tags) :=
  decides_ofExcept _

theorem appends_writeStatements (statements : List Text) {level : Int} (h : 0 ≤ level) :
    Appends (writeStatements statements level) (statementLines statements level) := by
  unfold writeStatements statementLines
  by_cases hs : statements ≠ []
  · rw [if_pos hs, if_pos hs]
    exact (Appends.forM_line fun line _ => appends_append line h).bind (appends_line [])
  · rw [if_neg hs, if_neg hs]
    exact appends_pure

theorem appends_writeMark (mark : Text) : Appends (writeMark mark) (markLines mark) :=
  (appends_append mark (by decide)).bind (appends_line [])

theorem yields_writeHeader : Yields c.writeHeader c.headerLines := by
  have superdocs : Yields (c.superdocs.forM fun superdoc => do
      writeHeading superdoc []
      append [])
      (allInOrder (c.superdocs.map fun superdoc => (headingLines superdoc []).map (· ++ [[]]))) :=
    Yields.forM fun superdoc _ =>
      ((decides_writeHeading superdoc []).bind_appends fun _ _ => appends_line []).yields
  have comment := ((decides_writeHeading c.description
    (if c.author = [] then [] else [.author c.author])).bind_appends
      fun _ _ => appends_line c.declaration).yields
  have statements := appends_writeStatements (c.uses.map fun use => "use " ++ use ++ ";")
    (Int.le_refl 0)
  have opening := (appends_line "<?php").bind (appends_line [])
  unfold writeHeader headerLines openingLines
  by_cases hh : c.home ≠ []
  · have whole := (opening.bind (((appends_line ("namespace " ++ c.home ++ ";")).bind
      (appends_line [])).bind statements)).yields.bind (superdocs.bind comment)
    simpa only [hh, if_true, bind_assoc, ne_eq, not_false_eq_true, List.singleton_append]
      using whole
  · have whole := (opening.bind statements).yields.bind (superdocs.bind comment)
    simpa only [hh, if_false, bind_assoc, List.nil_append, List.singleton_append] using whole

theorem yields_writeFields : Yields c.writeFields c.fieldLines := by
  refine Yields.bind (Yields.forM fun constant _ => (Scope.decides_writeConstant constant).yields)
    (Yields.bind (Yields.forM fun property _ => (Scope.decides_writeProperty property).yields) ?_)
  unfold accessorBlock
  by_cases h : c.properties.filter (·.hasAccessor) ≠ []
  · have marked := (appends_line []).bind (appends_writeMark accessorsStart)
    have accessors : Yields ((c.properties.filter (·.hasAccessor)).forM c.scope.writeAccessors)
        (allInOrder ((c.properties.filter (·.hasAccessor)).map c.scope.accessorLines)) :=
      Yields.forM fun property _ => (Scope.decides_writeAccessors property).yields
    have whole := marked.yields.bind (accessors.bind (appends_writeMark accessorsEnd).yields)
    simpa only [h, if_true, bind_assoc, ne_eq, not_false_eq_true] using whole
  · simpa only [h, if_false] using appends_pure.yields

theorem yields_writeGroup (v : Visibility) : Yields (c.writeGroup v) (c.groupLines v) := by
  have members : Yields ((c.members v).forM c.scope.writeMember)
      (allInOrder ((c.members v).map c.scope.memberLines)) :=
    Yields.forM fun member _ => (Scope.decides_writeMember member).yields
  unfold writeGroup groupLines
  by_cases h : c.members v ≠ []
  · rw [if_pos h, if_pos h]
    by_cases hv : v = .privateAccess
    · have marked := (appends_line []).bind (appends_writeMark helpersMark)
      simpa only [hv, if_true, bind_assoc] using marked.yields.bind members
    · simpa only [hv, if_false, pure_bind] using appends_pure.yields.bind members
  · rw [if_neg h, if_neg h]
    exact appends_pure.yields

/-! ### The whole -/

theorem runFrom_retractSeparator_bind {next : Unit → Writing Unit} {writer : Writer} :
    runFrom (retractSeparator >>= next) writer =
      if writer.buffer = some [] then runFrom (deleteLast >>= next) writer
      else runFrom (next ()) writer := by
  have looked : runFrom (retractSeparator >>= next) writer
      = runFrom ((if writer.buffer = some [] then deleteLast else pure ()) >>= next) writer := rfl
  rw [looked]
  split <;> rfl

/-- Behind lines, the last is retracted if it is empty, and a line comes in its place. -/
theorem yields_retract {body : Writing Unit} {result : Except Error (List Text)} (line : Text)
    (h : Yields body result) (written : ∀ lines, result = .ok lines → lines ≠ []) :
    Yields (body >>= fun _ => retractSeparator >>= fun _ => append line)
      (result.map (retracted · ++ [line])) := by
  refine h.bind_run fun lines hl writer hw => ?_
  -- The last line is still buffered, so the writer knows it.
  obtain ⟨init, last, rfl⟩ : ∃ init last, lines = init ++ [last] :=
    ⟨_, _, (List.dropLast_concat_getLast (written lines hl)).symm⟩
  rw [runFrom_retractSeparator_bind, Writer.push_concat_buffer, retracted, List.getLast?_concat]
  by_cases he : last = []
  · rw [if_pos (by rw [he]), if_pos (by rw [he]), List.dropLast_concat]
    exact runFrom_deleteLast_append hw init last line
  · rw [if_neg (by simpa using he), if_neg (by simpa using he),
      appends_line line _ (by simpa using hw), Writer.push_push]

theorem ne_nil_of_headerLines {lines : List Text} {further : Except Error (List Text)}
    (h : inOrder c.headerLines further = .ok lines) : lines ≠ [] := by
  obtain ⟨header, rest, hh, -, rfl⟩ := inOrder_eq_ok_iff.mp h
  obtain ⟨opening, comments, ho, -, rfl⟩ := inOrder_eq_ok_iff.mp hh
  cases ho
  have first : c.openingLines ≠ [] :=
    List.append_ne_nil_of_left_ne_nil (List.cons_ne_nil ("<?php" : Text) _) _
  exact List.append_ne_nil_of_left_ne_nil (List.append_ne_nil_of_left_ne_nil first _) _

/-- Writes the class up to its closing brace, with the empty line that the last part leaves. -/
def writeOpen : Writing Unit := do
  c.writeHeader
  append "\x7b"
  writeStatements (c.traits.map fun trait => "use " ++ trait ++ ";") memberLevel
  c.writeFields
  Visibility.all.forM c.writeGroup

/-- The lines up to the closing brace. -/
def openLines : Except Error (List Text) :=
  inOrder c.headerLines (inOrder (.ok [("\x7b" : Text)]) c.innerLines)

theorem yields_writeOpen : Yields c.writeOpen c.openLines := by
  have statements := appends_writeStatements (c.traits.map fun trait => "use " ++ trait ++ ";")
    (show 0 ≤ memberLevel by decide)
  have groups : Yields (Visibility.all.forM c.writeGroup)
      (allInOrder (Visibility.all.map c.groupLines)) :=
    Yields.forM fun v _ => c.yields_writeGroup v
  exact c.yields_writeHeader.bind ((appends_line "\x7b").yields.bind
    (statements.yields.bind (c.yields_writeFields.bind groups)))

/-- Then the empty line is taken back, and the closing brace comes. -/
theorem write_eq : c.write = (do
    c.writeOpen
    retractSeparator
    append "\x7d") := by
  simp only [write, writeOpen, bind_assoc]

/-- A class is written as the lines of its file. -/
theorem yields_write : Yields c.write c.fileLines := by
  rw [write_eq]
  exact yields_retract "\x7d" c.yields_writeOpen fun lines h => c.ne_nil_of_headerLines h

/-- The text of a class is the lines of its file as a writer sends them. -/
theorem text_eq : c.text = c.fileLines.map (·.flatMap Writer.sentLine) := by
  have run := c.yields_write { name := c.name } rfl
  unfold text
  cases hl : c.fileLines with
  | ok lines =>
      rw [hl] at run
      simp only [run, Except.map, Writer.close_push_sent]
      rfl
  | error error =>
      rw [hl] at run
      have failed : runFrom c.write { name := c.name }
          = (.error error, (runFrom c.write { name := c.name }).2) := Prod.ext run rfl
      rw [failed]
      rfl

end Classwright.Class
