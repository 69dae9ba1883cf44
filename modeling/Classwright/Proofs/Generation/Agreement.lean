import Classwright.Generation
import Classwright.Proofs.Class.Lines
import Classwright.Proofs.Disk.Change
import Classwright.Proofs.Outcome
import Classwright.Proofs.Text.Boundary
import Classwright.Text.Encoded

/-!
# Generation — the outputs of one class

A class has one text and three outputs: what a writer sends of it, its rendered lines, and its
file.  The lines are cut along the line boundaries of the text, so the three agree only as far as
that text keeps to line feeds and its lines end in no blank.

* `render_of_write`: what a writer has sent once a class is written and the writer closed.
* `generateClass_run`: what a file holds once it is generated.
* `outputs_agree_iff`: when lines and file are the text that was sent.
-/

namespace Classwright.Generation

open Classwright.Action Text
open Writer (sentLine)

/-! ### Three outputs -/

/-- What was sent is rendered; it is empty or ends in a line feed. -/
theorem render_of_write {c : Class} {name : Text} {writer : Writer}
    (h : c.write.runFrom { name } = (.ok (), writer)) :
    c.render = .ok (boundaryLines writer.close.sent) ∧
      (writer.close.sent = [] ∨ writer.close.sent.getLast? = some '\n') := by
  have run := c.yields_write { name } rfl
  unfold Class.render
  rw [Class.text_eq]
  cases hl : c.fileLines with
  | error error =>
      rw [hl] at run
      cases run.symm.trans (congrArg Prod.fst h)
  | ok lines =>
      rw [hl] at run
      cases h.symm.trans run
      have sent : (Writer.push { name } lines).close.sent = lines.flatMap sentLine := by
        rw [Writer.close_push_sent rfl]
        rfl
      rw [sent]
      refine ⟨rfl, ?_⟩
      -- Every line is sent with a line feed, the last one too.
      rcases List.eq_nil_or_concat lines with rfl | ⟨init, last, rfl⟩
      · exact .inl rfl
      · rw [List.concat_eq_append, List.flatMap_append, List.flatMap_singleton, sentLine_eq,
          ← List.append_assoc]
        exact .inr List.getLast?_concat

/-- The file of a class holds its rendered lines as a writer sends them. -/
theorem generateClass_run {c : Class} {directory path : Path} {extension : Text}
    {start left : Logged Disk}
    (h : runFrom (generateClass c directory extension) start = (.ok path, left)) :
    ∃ lines, c.render = .ok lines ∧
      left.state.find path = .ok (.file (content lines).encoded) := by
  unfold generateClass at h
  obtain ⟨lines, first, rendered, h⟩ := of_runFrom_bind_ok h
  obtain ⟨-, second, -, h⟩ := of_runFrom_bind_ok h
  obtain ⟨-, third, -, h⟩ := of_runFrom_bind_ok h
  obtain ⟨⟨⟩, last, created, h⟩ := of_runFrom_bind_ok h
  cases h
  exact ⟨lines, (of_runFrom_ofExcept_ok rendered).1, Disk.find_of_createFile created⟩

theorem encoded_inj {t u : Text} : t.encoded = u.encoded ↔ t = u := by
  refine ⟨fun h => ?_, congrArg encoded⟩
  have same := congrArg decoded? h
  rw [decoded?_encoded, decoded?_encoded] at same
  exact Option.some.inj same

/-! ### Agreement -/

/-- **When the outputs of a class agree.**  Of a class that can be written, the rendered lines are
the text that a writer sends exactly if that text has line feeds only, and a generated file is that
text exactly if, besides, none of the lines ends in a blank. -/
theorem outputs_agree_iff {c : Class} {name : Text} {writer : Writer}
    (h : c.write.runFrom { name } = (.ok (), writer)) :
    ∃ lines, c.render = .ok lines ∧
      (lines.flatMap (· ++ ['\n']) = writer.close.sent ↔ FeedsOnly writer.close.sent) ∧
      ∀ directory extension start path left,
        runFrom (generateClass c directory extension) start = (.ok path, left) →
        ∃ bytes, left.state.find path = .ok (.file bytes) ∧
          (bytes = writer.close.sent.encoded ↔
            FeedsOnly writer.close.sent ∧ ∀ line ∈ lines, trimEnd line = line) := by
  obtain ⟨rendered, ends⟩ := render_of_write h
  refine ⟨_, rendered, flatMap_boundaryLines_eq_iff ends, ?_⟩
  intro directory extension start path left run
  obtain ⟨lines, again, found⟩ := generateClass_run run
  cases rendered.symm.trans again
  exact ⟨_, found, encoded_inj.trans (flatMap_sentLine_eq_iff ends)⟩

/-- A class that says nothing out of the ordinary. -/
def plainClass : Class where
  name := "A"
  description := "One."

/-- The rendered lines of a plain class are what a writer sends. -/
theorem plain_outputs_agree :
    ∃ writer lines, plainClass.write.runFrom {} = (.ok (), writer) ∧
      plainClass.render = .ok lines ∧ lines.flatMap (· ++ ['\n']) = writer.close.sent := by
  have run : plainClass.write.runFrom {} = (.ok (), (plainClass.write.runFrom {}).2) := by
    decide +kernel
  obtain ⟨lines, rendered, agree, -⟩ := outputs_agree_iff run
  exact ⟨_, lines, run, rendered, agree.mpr (by decide +kernel)⟩

/-- A class whose description holds a next-line character. -/
def twoLineClass : Class where
  name := "A"
  description := "a\u0085b"

/-- Rendering breaks the line at the next-line character, which a writer sends as it is. -/
theorem two_lines_disagree :
    ∃ writer lines, twoLineClass.write.runFrom {} = (.ok (), writer) ∧
      twoLineClass.render = .ok lines ∧ lines.flatMap (· ++ ['\n']) ≠ writer.close.sent := by
  have run : twoLineClass.write.runFrom {} = (.ok (), (twoLineClass.write.runFrom {}).2) := by
    decide +kernel
  exact ⟨_, _, run, (render_of_write run).1, by decide +kernel⟩

end Classwright.Generation
