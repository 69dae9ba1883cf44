import Classwright.Document.Input
import Classwright.Proofs.Action
import Classwright.Proofs.Document.Alike

/-!
# Document — what can fail

Reading a document fails over what the document says, and every such failure is one that the command
line reports.  The bytes of the input are another matter: when they are no text, the failure is not
reported.

* `expandWith_reports`: a macro call that cannot be expanded is reported.
* `classes_reports`, `project_reports`: reading fails with reported failures only.
* `Undecodable`: an input file whose bytes are no text.
* `load_of_undecodable`, `load_reports`: such a file fails in a way of its own, and no other does.
-/

namespace Classwright.Document

open Outcome Xml Macro

/-! ### Macro calls -/

theorem tokenise_reports (inside : Text) : Reports (tokenise inside) := by
  unfold tokenise
  split
  · exact .ok _
  · exact .error rfl

theorem expandCall_reports (template? : Text → Option Text) (inside : Text) :
    Reports (expandCall template? inside) := by
  refine (tokenise_reports inside).bind fun tokens => ?_
  split
  · exact .error rfl
  · exact .error rfl
  · split
    · exact .ok _
    · exact .error rfl

theorem expandWith_reports (template? : Text → Option Text) (t : Text) :
    Reports (expandWith template? t) := by
  unfold expandWith
  induction pieces t with
  | nil => exact .ok _
  | cons piece rest ih =>
      cases piece with
      | plain c => exact ih.bind fun _ => .ok _
      | call inside =>
          exact (expandCall_reports template? inside).bind fun _ => ih.bind fun _ => .ok _

/-! ### Documents -/

theorem root_reports (t : Text) : Reports (root t) := by
  refine FailsIn.bind ?_ fun _ => ?_
  · unfold checkCdata
    dsimp only
    split
    · exact .ok _
    · exact .error rfl
  · split
    · exact .error rfl
    · split
      · exact .ok _
      · exact .error rfl

section Registering

open Classwright.Action

/-- The action fails with reported failures only. -/
abbrev OnlyReports {σ α : Type} (action : Action σ α) : Prop :=
  FailsOnly (fun error => error.isReported = true) action

theorem register_reports (name template : Text) :
    OnlyReports (Registry.register name template) := by
  refine FailsOnly.state.bind fun registry => ?_
  dsimp only
  split
  · exact .throw_bind rfl
  · split
    · exact .throw_bind rfl
    · split
      · exact (FailsOnly.log _ _ _).bind fun _ => .put _
      · exact .put _

theorem registerMacros_reports (elements : List Element) :
    OnlyReports (registerMacros elements) := by
  induction elements with
  | nil => exact .pure ()
  | cons e rest ih =>
      exact (FailsOnly.ofExcept (required_reports e _)).bind fun _ =>
        (register_reports _ _).bind fun _ => ih

theorem macros_reports (root : Element) : OnlyReports (macros root) := by
  unfold macros
  dsimp only
  split
  · exact FailsOnly.state.bind fun _ => .log _ _ _
  · exact (registerMacros_reports _).bind fun _ => FailsOnly.state.bind fun _ => .log _ _ _

theorem expand_reports (t : Text) : OnlyReports (Registry.expand t) :=
  FailsOnly.state.bind fun registry => (FailsOnly.put _).bind fun _ =>
    .ofExcept (expandWith_reports registry.template? t)

/-- Actions are alike in that their failures are reported. -/
def reporting (σ : Type) : Likeness (Action σ) (Action σ) where
  alike action _ := OnlyReports action
  pure := FailsOnly.pure
  lift h := FailsOnly.lift h
  bind := FailsOnly.bind

theorem classes_reports (root : Element) : OnlyReports (classes root) := by
  have expanding : (reporting Registry).Readings (.expanding Registry.expand)
      (.expanding Registry.expand) := Likeness.expanding expand_reports
  exact FailsOnly.bind (Likeness.mapM (describedClass_alike expanding) _) fun _ =>
    (FailsOnly.log _ _ _).bind fun _ => .pure _

/-- A document is read or fails with a reported failure. -/
theorem project_reports (t : Text) : OnlyReports (project t) :=
  (FailsOnly.ofExcept (root_reports t)).bind fun _ => (macros_reports _).bind fun _ =>
    (classes_reports _).bind fun _ => .pure _

end Registering

/-! ### Input files -/

/-- The path leads to a file whose bytes are no text. -/
def Undecodable (disk : Disk) (path : Path) : Prop :=
  ∃ content, disk.bytes path = .ok content ∧ Text.decoded? content = none

theorem load_of_undecodable {disk : Disk} {path : Path} (h : Undecodable disk path)
    (start : Logged Registry) : (load disk path).runFrom start = (.error .undecodable, start) := by
  obtain ⟨content, found, none⟩ := h
  have lost : inputText disk path = .error .undecodable := by
    rw [inputText, found]
    simp only [Disk.textOf, none]
  rw [load, lost]
  rfl

/-- An input file that can be decoded, or is none, is read or fails with a reported failure. -/
theorem load_reports {disk : Disk} {path : Path} (h : ¬ Undecodable disk path) :
    OnlyReports (load disk path) := by
  refine (Action.FailsOnly.ofExcept fun error he => ?_).bind fun t => project_reports t
  unfold inputText at he
  split at he
  next => cases he; rfl
  next content found =>
    unfold Disk.textOf at he
    split at he
    next none => exact absurd ⟨content, found, none⟩ h
    next => cases he

end Classwright.Document
