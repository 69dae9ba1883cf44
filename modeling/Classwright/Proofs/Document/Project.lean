import Classwright.Document.Project
import Classwright.Proofs.Action
import Classwright.Proofs.Document.Alike

/-!
# Document — the run that reads a document

A document is read in three steps: the root of its text, the macros of the root, and the classes of
the root by the registry that the macros leave.

* `ofText?_of_events`: the root of a text, from what is scanned in it.
* `byTemplates`: reading through a registry is like reading by its templates.
* `exists_classes_iff`: the classes are read, one after the other, by the registry as it is.
* `exists_project_iff`: a document is read exactly when each of the steps succeeds.
-/

namespace Classwright.Document

open Outcome Xml Macro

/-- A text has the root element that its events build. -/
theorem ofText?_of_events {t : Text} {declarations : Declarations} {tokens : List Xml.Token}
    {events : List Event} {e : Element} (chars : t.all isXmlChar = true)
    (scanned : Scan.document.whole? (Text.unifyReturns t) = some (declarations, tokens))
    (replaced : declarations.entities.events? tokens = some events)
    (built : build? declarations [] none events = some e) : Element.ofText? t = some e := by
  rw [Element.ofText?, chars, scanned]
  simp only [bind, Option.bind]
  rw [replaced]
  exact built

/-! ### Classes -/

/-- An action on a registry is like a computation that has its result: whether the registry is
frozen makes no difference to the action, and is all that it changes. -/
def byTemplates (registry : Registry) : Likeness (Action Registry) (Except Error) where
  alike action result := ∀ frozen log, ∃ left,
    action.runFrom { state := { registry with frozen }, log }
      = (result, { state := { registry with frozen := left }, log })
  pure _ frozen _ := ⟨frozen, rfl⟩
  lift {_ result} _ frozen log := by
    refine ⟨frozen, ?_⟩
    rw [Action.liftM_eq_ofExcept, Action.runFrom_ofExcept]
    rfl
  bind {_ _ first other next further} h₁ h₂ frozen log := by
    obtain ⟨middle, begun⟩ := h₁ frozen log
    cases other with
    | error error => exact ⟨middle, Action.runFrom_bind_error begun⟩
    | ok a =>
        obtain ⟨left, ends⟩ := h₂ a middle log
        exact ⟨left, (Action.runFrom_bind_ok begun).trans ends⟩

/-- To expand texts through a registry is to expand them by its templates. -/
theorem readings_byTemplates (registry : Registry) :
    (byTemplates registry).Readings (.expanding Registry.expand)
      (.expanding (expandWith registry.template?)) :=
  Likeness.expanding fun t _ _ => ⟨true, Action.runFrom_ofExcept (expandWith _ t) _⟩

/-- The classes of a document are read by the registry as it is found. -/
theorem exists_classes_iff {root : Element} {start : Logged Registry} {cs : List Class} :
    (∃ left, (classes root).runFrom start = (.ok cs, left)) ↔
      (root.childrenNamed "class").mapM
        (describedClass (.expanding (expandWith start.state.template?))) = .ok cs := by
  obtain ⟨frozen, read⟩ := Likeness.mapM
    (describedClass_alike (readings_byTemplates start.state)) (root.childrenNamed "class")
    start.state.frozen start.log
  constructor
  · rintro ⟨left, run⟩
    obtain ⟨found, _, hf, run⟩ := Action.of_runFrom_bind_ok run
    obtain ⟨_, _, -, run⟩ := Action.of_runFrom_bind_ok run
    cases run
    exact congrArg Prod.fst (read.symm.trans hf)
  · intro described
    rw [described] at read
    exact ⟨_, Action.runFrom_bind_ok read⟩

/-- A class without a name fails before any text is read, so the registry stays open. -/
example : let root : Element := { tag := "classgen", children := [{ tag := "class" }] }
    ((classes root).start {}).2.state.frozen = false := by
  decide +kernel

/-- A document is read exactly when its text has a root, the macros of the root are registered, and
the registry that they leave reads the classes. -/
theorem exists_project_iff {t : Text} {start : Logged Registry} {p : Project} :
    (∃ left, (project t).runFrom start = (.ok p, left)) ↔
      ∃ r filled, root t = .ok r ∧ (macros r).runFrom start = (.ok (), filled) ∧
        p.defaultOutput = r.value "default-output" ∧
        (r.childrenNamed "class").mapM
          (describedClass (.expanding (expandWith filled.state.template?))) = .ok p.classes := by
  unfold project
  constructor
  · rintro ⟨left, run⟩
    obtain ⟨r, middle, found, further⟩ := Action.of_runFrom_bind_ok run
    obtain ⟨rooted, rfl⟩ := Action.of_runFrom_ofExcept_ok found
    obtain ⟨⟨⟩, filled, registered, rest⟩ := Action.of_runFrom_bind_ok further
    obtain ⟨cs, _, read, ends⟩ := Action.of_runFrom_bind_ok rest
    cases ends
    exact ⟨r, filled, rooted, registered, rfl, exists_classes_iff.mp ⟨_, read⟩⟩
  · rintro ⟨r, filled, rooted, registered, output, read⟩
    obtain ⟨left, read⟩ := exists_classes_iff.mpr read
    refine ⟨left, ?_⟩
    rw [rooted, Action.runFrom_bind_ok (Action.runFrom_ofExcept _ _),
      Action.runFrom_bind_ok registered, Action.runFrom_bind_ok read, Action.runFrom_pure, ← output]

end Classwright.Document
