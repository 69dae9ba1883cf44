import Classwright.Generation
import Classwright.Proofs.Disk.Change
import Classwright.Proofs.Document.Retold

/-!
# Generation — what can fail

Rendering needs descriptions, and a document that lacks one is refused when it is read.  So once a
project was read, only its output paths can make it fail.

* `Error.concernsOutput`: the failures that resolving or creating an output path has.
* `makeDirectories_failsOnly`, `createFile_failsOnly`, `writeAll_failsOnly`: writing has no others.
* `plan_failure`: planning has no others but those of rendering.
* `project_of_document_renders`: a project that was read is rendered, and fails only over paths.
-/

namespace Classwright

/-- Is the failure one of resolving or creating an output path? -/
def Error.concernsOutput : Error → Bool
  | .noOutputDirectory _ | .outputExists _ | .refusedPath _ _ => true
  | _ => false

namespace Generation

open Classwright.Action Disk Outcome

/-! ### Writing -/

/-- The action fails over output paths only. -/
abbrev OverPaths {α : Type} (action : Action Disk α) : Prop :=
  FailsOnly (fun error => error.concernsOutput = true) action

theorem makeDirectory_failsOnly (path : Path) : OverPaths (makeDirectory path) := by
  refine FailsOnly.state.bind fun disk => ?_
  split
  · exact .put _
  · split
    · exact .pure ()
    · exact .throw rfl

theorem makeDirectories_failsOnly (path : Path) : OverPaths (makeDirectories path) :=
  makeDirectories_induction (fun _ h => FailsOnly.state.bind h) (fun _ _ h₁ h₂ => h₁.bind fun _ => h₂)
    makeDirectory_failsOnly path

theorem createFile_failsOnly (path : Path) (content : Text) :
    OverPaths (createFile path content) := by
  refine FailsOnly.state.bind fun disk => ?_
  split
  · exact .put _
  · exact .throw rfl
  · exact .throw rfl

theorem write_failsOnly (planned : Planned) : OverPaths (write planned) :=
  (makeDirectories_failsOnly _).bind fun _ =>
    (FailsOnly.log _ _ _).bind fun _ => createFile_failsOnly _ _

theorem writeAll_failsOnly (batch : List Planned) : OverPaths (writeAll batch) := by
  induction batch with
  | nil => exact .pure ()
  | cons planned batch ih => exact (write_failsOnly planned).bind fun _ => ih

/-! ### Planning -/

theorem directory_failure {settings : Settings} {given : Text} {project : Project} {c : Class}
    {error : Error} (h : directory settings given project c = .error error) :
    error.concernsOutput = true := by
  unfold directory at h
  split at h
  · cases h
  · cases h
    rfl

/-- A class that is not planned has no output path, or is not rendered. -/
theorem plan_failure {settings : Settings} {given : Text} {project : Project} {disk : Disk}
    {c : Class} {error : Error} (h : plan settings given project disk c = .error error) :
    error.concernsOutput = true ∨ c.render = .error error := by
  unfold plan at h
  rcases bind_eq_error_iff.mp h with h | ⟨place, -, h⟩
  · exact .inl (directory_failure h)
  · dsimp only at h
    split at h
    · cases h
      exact .inl rfl
    · rcases bind_eq_error_iff.mp h with h | ⟨lines, -, h⟩
      · exact .inr h
      · cases h

/-! ### Projects -/

theorem generate_failsOnly {settings : Settings} {given : Text} {project : Project}
    (h : ∀ c ∈ project.classes, ∃ lines, c.render = .ok lines) :
    OverPaths (generate settings given project) := by
  refine FailsOnly.state.bind fun disk => ?_
  refine FailsOnly.bind (.ofExcept fun error he => ?_) fun batch => ?_
  · obtain ⟨c, hc, he⟩ := exists_of_mapM_eq_error he
    rcases plan_failure he with path | render
    · exact path
    · obtain ⟨lines, rendered⟩ := h c hc
      rw [rendered] at render
      cases render
  · exact (writeAll_failsOnly batch).bind fun _ => (FailsOnly.log _ _ _).bind fun _ => .pure _

/-- **What was read is rendered.**  Every class of a project that was read from a document is
rendered, and a run that generates the project fails over output paths only. -/
theorem project_of_document_renders {t : Text} {registry left : Logged Macro.Registry}
    {project : Project} (h : runFrom (Document.project t) registry = (.ok project, left)) :
    (∀ c ∈ project.classes, ∃ lines, c.render = .ok lines) ∧
      ∀ settings given disk error after,
        runFrom (generate settings given project) disk = (.error error, after) →
        error.concernsOutput = true := by
  have rendered : ∀ c ∈ project.classes, ∃ lines, c.render = .ok lines := fun c hc =>
    Class.render_eq_ok_iff.mpr (Document.described_of_project h c hc)
  exact ⟨rendered, fun settings given => generate_failsOnly rendered⟩

/-! ### A small document -/

/-- A document with one class. -/
def smallDocument : Text := "<classgen><class name='A' doc='One.'/></classgen>"

/-- Its root element. -/
def smallRoot : Xml.Element where
  tag := "classgen"
  children := [{ tag := "class", attributes := [("name", "A"), ("doc", "One.")] }]

/-- The project that it describes. -/
def smallProject : Project where
  classes := [{ name := "A", description := "One." }]

/-- Its tokens. -/
def smallTokens : List Xml.Token :=
  [.start ⟨none, "classgen"⟩ [] false,
    .start ⟨none, "class"⟩
      [(⟨none, "name"⟩, [.plain 'A']), (⟨none, "doc"⟩, "One.".toList.map .plain)] true,
    .finish ⟨none, "classgen"⟩]

theorem ofText?_smallDocument : Xml.Element.ofText? smallDocument = some smallRoot := by
  have scanned : Xml.Scan.document.whole? (Text.unifyReturns smallDocument)
      = some ({}, smallTokens) := by decide +kernel
  have events : ({} : Xml.Entities).events? smallTokens
      = some [.start ⟨none, "classgen"⟩ [],
          .start ⟨none, "class"⟩ [(⟨none, "name"⟩, "A"), (⟨none, "doc"⟩, "One.")],
          .finish ⟨none, "class"⟩, .finish ⟨none, "classgen"⟩] := by
    -- No entity is named, so nothing is looked up.
    simp [smallTokens, Xml.Entities.events?, Xml.Entities.eventsWithin?, Xml.Entities.attributes?,
      Xml.Entities.value?, Xml.Entities.valueWithin?]
    decide
  exact Document.ofText?_of_events rfl scanned events rfl

/-- The class of a small document is rendered. -/
theorem small_document_renders :
    ∃ left, runFrom (Document.project smallDocument) { state := {} } = (.ok smallProject, left) ∧
      (∀ c ∈ smallProject.classes, ∃ lines, c.render = .ok lines) ∧
      ∀ settings given disk error after,
        runFrom (generate settings given smallProject) disk = (.error error, after) →
        error.concernsOutput = true := by
  have rooted : Document.root smallDocument = .ok smallRoot := by
    rw [Document.root, ofText?_smallDocument]
    rfl
  obtain ⟨left, run⟩ : ∃ left, runFrom (Document.project smallDocument) { state := {} }
      = (.ok smallProject, left) := by
    rw [Document.project, rooted]
    exact ⟨_, Prod.ext (by decide +kernel) rfl⟩
  exact ⟨left, run, project_of_document_renders run⟩

end Generation

end Classwright
