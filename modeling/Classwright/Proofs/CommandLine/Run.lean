import Classwright.Proofs.CommandLine.Console
import Classwright.Proofs.Generation.Added
import Classwright.Proofs.Generation.Obstruction

/-!
# CommandLine — how a run ends

An ordinary run whose arguments are accepted has two good ends: every class of the document is
written, or one line on the console reports the failure.  It has two bad ones, in which it breaks
off.  The bytes of the input are no text, or a file is on the way to an output directory.

* `Complete`, `Failed`: the good ends.
* `Document.Undecodable`, `Obstructed`: what leads to the bad ones.
* `End`, `end_of_work`: the work of a run comes to an end for a reason.
* `run_ends`: a run ends well exactly when nothing leads to a bad end.
-/

namespace Classwright.CommandLine

open Classwright.Action

/-! ### Ends -/

/-- The classes of the project in the input are written, the report names their files, and the
console has nothing but what was logged. -/
structure Complete (outcome : Outcome) (disk : Disk) (arguments : Arguments) : Prop where
  ending : outcome.ending = .exit 0
  written : ∃ project left paths,
    (Document.load disk arguments.input).start {} = (.ok project, left) ∧
    List.Forall₂ (Generation.Produced {} arguments.outputDirectory project disk outcome.disk)
      project.classes paths ∧
    outcome.report = report (paths.map wrote ++ [done])
  console : ∀ notice ∈ outcome.notices, ∃ t, notice = .timed t

/-- Behind what was logged, the console has one line more, the report of the failure. -/
structure Failed (outcome : Outcome) (disk : Disk) (arguments : Arguments) : Prop where
  ending : outcome.ending = .exit 1
  silent : outcome.report = []
  console : ∃ logged, ∃ error : Error, ((generate {} arguments).start disk).1 = .error error ∧
    outcome.notices = logged ++ [.plain ("FAIL: " ++ error.message)] ∧
    ∀ notice ∈ logged, ∃ t, notice = .timed t

/-- The input describes a project that is obstructed. -/
def Obstructed (disk : Disk) (arguments : Arguments) : Prop :=
  ∃ project left, (Document.load disk arguments.input).start {} = (.ok project, left) ∧
    Generation.Obstructed {} arguments.outputDirectory project disk

/-! ### The work of a run -/

section Work

variable {settings : Settings} {loggers : Loggers} {disk : Disk} {arguments : Arguments}

theorem generate_of_load_ok {project : Project} {read : Logged Macro.Registry}
    (h : (Document.load disk arguments.input).start {} = (.ok project, read)) :
    (generate settings arguments).start disk
      = runFrom (Generation.generate settings arguments.outputDirectory project)
          { state := disk, log := read.log } := by
  have within : runFrom (Action.within (Document.load disk arguments.input) {}) { state := disk }
      = (.ok (project, read.state), { state := disk, log := read.log }) := runFrom_within_ok h
  rw [generate, Action.start, runFrom_state_bind, runFrom_bind_ok within]

theorem generate_of_load_error {error : Error} {read : Logged Macro.Registry}
    (h : (Document.load disk arguments.input).start {} = (.error error, read)) :
    (generate settings arguments).start disk
      = (.error error, { state := disk, log := read.log }) := by
  have within : runFrom (Action.within (Document.load disk arguments.input) {}) { state := disk }
      = (.error error, { state := disk, log := read.log }) := runFrom_within_error h
  rw [generate, Action.start, runFrom_state_bind, runFrom_bind_error within]

/-- What the work logs shows with its time. -/
theorem timed_of_work (heard : Heard loggers) {result : Except Error (List Path)}
    {left : Logged Disk} (h : (generate settings arguments).start disk = (result, left)) :
    ∀ notice ∈ left.log.flatMap loggers.notices, ∃ t, notice = .timed t := by
  intro notice hn
  have logs := generate_logs settings arguments { state := disk } (by simp)
  obtain ⟨record, hr, hn⟩ := List.mem_flatMap.mp hn
  rw [← Action.start, h] at logs
  exact timed_of_mem_notices (heard _ (logs record hr)) hn

theorem work_of_ok {paths : List Path} {left : Logged Disk}
    (h : (generate settings arguments).start disk = (.ok paths, left)) :
    work settings loggers disk arguments
      = { report := report (paths.map wrote ++ [done])
          notices := left.log.flatMap loggers.notices
          ending := .exit 0
          disk := left.state } := by
  unfold work
  rw [h]

theorem work_failed (heard : Heard loggers) {error : Error} {left : Logged Disk}
    (h : (generate {} arguments).start disk = (.error error, left))
    (reported : error.isReported = true) :
    Failed (work {} loggers disk arguments) disk arguments := by
  have failed := congrArg Prod.fst h
  unfold work
  rw [h]
  simp only [reported, if_true]
  exact ⟨rfl, rfl, _, error, failed, rfl, timed_of_work heard h⟩

theorem work_broken {error : Error} {left : Logged Disk}
    (h : (generate settings arguments).start disk = (.error error, left))
    (unreported : error.isReported = false) :
    (work settings loggers disk arguments).ending = .broken error := by
  unfold work
  rw [h]
  simp only [unreported, Bool.false_eq_true, if_false]

end Work

/-! ### The end of a run -/

/-- The classes of a project that was loaded are rendered. -/
theorem renders_of_load {disk : Disk} {path : Path} {project : Project}
    {read : Logged Macro.Registry}
    (h : (Document.load disk path).start {} = (.ok project, read)) :
    ∀ c ∈ project.classes, ∃ lines, c.render = .ok lines := by
  obtain ⟨t, middle, -, h⟩ := of_runFrom_bind_ok h
  exact fun c hc => Class.render_eq_ok_iff.mpr (Document.described_of_project h c hc)

section Ends

variable {disk : Disk} {arguments : Arguments} {read : Logged Macro.Registry}

theorem not_obstructed_of_load_error {error : Error}
    (h : (Document.load disk arguments.input).start {} = (.error error, read)) :
    ¬ Obstructed disk arguments := by
  rintro ⟨project, left, loaded, -⟩
  cases h.symm.trans loaded

/-- A project that was loaded is obstructed when generating it breaks off. -/
theorem obstructed_iff_breaks {project : Project}
    (h : (Document.load disk arguments.input).start {} = (.ok project, read)) :
    Obstructed disk arguments ↔
      Generation.Breaks (Generation.generate {} arguments.outputDirectory project)
        { state := disk, log := read.log } := by
  rw [Generation.generate_breaks_iff (renders_of_load h)]
  constructor
  · rintro ⟨other, left, loaded, obstructed⟩
    cases h.symm.trans loaded
    exact obstructed
  · exact fun obstructed => ⟨project, read, h, obstructed⟩

/-- An end that is good, or bad for the reason given. -/
inductive End (disk : Disk) (arguments : Arguments) (outcome : Outcome) : Prop where
  | garbled (input : Document.Undecodable disk arguments.input) (way : ¬ Obstructed disk arguments)
      (ending : outcome.ending = .broken .undecodable)
  | refused (input : ¬ Document.Undecodable disk arguments.input) (way : Obstructed disk arguments)
      (ending : ∃ path fault, outcome.ending = .broken (.refusedPath path fault))
  | well (input : ¬ Document.Undecodable disk arguments.input) (way : ¬ Obstructed disk arguments)
      (good : Complete outcome disk arguments ∨ Failed outcome disk arguments)

/-- Once a project is loaded, generating it decides on the end. -/
theorem end_of_load {loggers : Loggers} (heard : Heard loggers) {project : Project}
    (input : ¬ Document.Undecodable disk arguments.input)
    (load : (Document.load disk arguments.input).start {} = (.ok project, read)) :
    End disk arguments (work {} loggers disk arguments) := by
  have breaks := obstructed_iff_breaks load
  have begun : (generate {} arguments).start disk = _ := generate_of_load_ok load
  cases run : runFrom (Generation.generate {} arguments.outputDirectory project)
      { state := disk, log := read.log } with
  | mk result left =>
      rw [run] at begun
      rw [Generation.Breaks, run] at breaks
      cases result with
      | ok paths =>
          have way : ¬ Obstructed disk arguments := fun obstructed => by
            obtain ⟨error, failed, -⟩ := breaks.mp obstructed
            cases failed
          refine .well input way (.inl ?_)
          have produced := Generation.produced_of_generate run
          rw [work_of_ok begun]
          exact ⟨rfl, ⟨project, read, paths, load, produced, rfl⟩, timed_of_work heard begun⟩
      | error error =>
          cases reported : error.isReported with
          | true =>
              have way : ¬ Obstructed disk arguments := fun obstructed => by
                obtain ⟨_, failed, refusal⟩ := breaks.mp obstructed
                cases failed
                exact Generation.not_isRefusal_of_reported reported refusal
              exact .well input way (.inr (work_failed heard begun reported))
          | false =>
              have path := Generation.generate_failsOnly (renders_of_load load) _ _ _ run
              have refusal := Generation.isRefusal_of_not_reported path reported
              refine .refused input (breaks.mpr ⟨error, rfl, refusal⟩) ?_
              obtain ⟨refused, fault, rfl⟩ := refusal
              exact ⟨refused, fault, work_broken begun reported⟩

/-- The work of a run comes to an end that its input and the way to its directories explain. -/
theorem end_of_work {loggers : Loggers} (heard : Heard loggers) (disk : Disk)
    (arguments : Arguments) : End disk arguments (work {} loggers disk arguments) := by
  by_cases input : Document.Undecodable disk arguments.input
  · have lost := Document.load_of_undecodable input { state := {} }
    exact .garbled input (not_obstructed_of_load_error lost)
      (work_broken (generate_of_load_error lost) rfl)
  · cases load : (Document.load disk arguments.input).start {} with
    | mk result read =>
        cases result with
        | ok project => exact end_of_load heard input load
        | error error =>
            have reported := Document.load_reports input _ _ _ load
            exact .well input (not_obstructed_of_load_error load)
              (.inr (work_failed heard (generate_of_load_error load) reported))

theorem not_good_of_broken {outcome : Outcome} {error : Error}
    (h : outcome.ending = .broken error) :
    ¬ (Complete outcome disk arguments ∨ Failed outcome disk arguments) := by
  rintro (complete | failed)
  · cases h.symm.trans complete.ending
  · cases h.symm.trans failed.ending

end Ends

/-- **How an ordinary run ends.**  With accepted arguments, it writes every class or reports one
failure exactly if the bytes of its input are text and no file is on the way to an output directory
that it comes to.  Otherwise it breaks off, over the bytes or over a path that the file system
refuses. -/
theorem run_ends {environment : Environment} {disk : Disk} {list : List Text}
    {arguments : Arguments} (accepted : Arguments.ofList list = .ok arguments)
    (ordinary : Ordinary environment disk arguments) :
    let outcome := run environment disk list
    (Complete outcome disk arguments ∨ Failed outcome disk arguments ↔
      ¬ Document.Undecodable disk arguments.input ∧ ¬ Obstructed disk arguments) ∧
    (Document.Undecodable disk arguments.input → outcome.ending = .broken .undecodable) ∧
    (Obstructed disk arguments →
      ∃ path fault, outcome.ending = .broken (.refusedPath path fault)) := by
  intro outcome
  obtain ⟨loggers, heard, same⟩ := run_eq_work accepted ordinary.toDefaults
  have ended : End disk arguments outcome := by
    rw [show outcome = work {} loggers disk arguments from same]
    exact end_of_work heard disk arguments
  cases ended with
  | garbled input way ending =>
      exact ⟨iff_of_false (not_good_of_broken ending) fun clear => clear.1 input,
        fun _ => ending, fun obstructed => absurd obstructed way⟩
  | refused input way ending =>
      obtain ⟨path, fault, broken⟩ := ending
      exact ⟨iff_of_false (not_good_of_broken broken) fun clear => clear.2 way,
        fun garbled => absurd garbled input, fun _ => ⟨path, fault, broken⟩⟩
  | well input way good =>
      exact ⟨iff_of_true good ⟨input, way⟩, fun garbled => absurd garbled input,
        fun obstructed => absurd obstructed way⟩

/-! ### Two inputs -/

/-- The arguments with an input and nothing else. -/
def plainArguments : Arguments := { input := .ofText "d.xml" }

theorem plainArguments_accepted : Arguments.ofList ["d.xml"] = .ok plainArguments := by
  decide +kernel

theorem defaults_of_plainArguments {disk : Disk} (h : disk.hasFile Settings.variableFile = false) :
    Defaults [] disk plainArguments where
  variableFile := h
  settings := by simp
  logging name _ := rfl
  configuration := by simp [plainArguments]

/-- A document with a macro and a class that calls it. -/
def callingDocument : Text :=
  "<classgen default-output='o'><macros><macro name='m'>A $1.</macro></macros>"
    ++ "<class name='A' doc='\x7b\x7bm class\x7d\x7d'/></classgen>"

/-- Its root element. -/
def callingRoot : Xml.Element where
  tag := "classgen"
  attributes := [("default-output", "o")]
  text := "A $1."
  children := [
    { tag := "macros", text := "A $1.",
      children := [{ tag := "macro", attributes := [("name", "m")], text := "A $1." }] },
    { tag := "class", attributes := [("name", "A"), ("doc", "\x7b\x7bm class\x7d\x7d")] }]

/-- The project that it describes. -/
def callingProject : Project where
  defaultOutput := "o"
  classes := [{ name := "A", description := "A class." }]

/-- Its tokens. -/
def callingTokens : List Xml.Token :=
  [.start ⟨none, "classgen"⟩ [(⟨none, "default-output"⟩, [.plain 'o'])] false,
    .start ⟨none, "macros"⟩ [] false,
    .start ⟨none, "macro"⟩ [(⟨none, "name"⟩, [.plain 'm'])] false, .chars "A $1.",
    .finish ⟨none, "macro"⟩, .finish ⟨none, "macros"⟩,
    .start ⟨none, "class"⟩
      [(⟨none, "name"⟩, [.plain 'A']),
        (⟨none, "doc"⟩, "\x7b\x7bm class\x7d\x7d".toList.map .plain)] true,
    .finish ⟨none, "classgen"⟩]

theorem ofText?_callingDocument : Xml.Element.ofText? callingDocument = some callingRoot := by
  have scanned : Xml.Scan.document.whole? (Text.unifyReturns callingDocument)
      = some ({}, callingTokens) := by decide +kernel
  have events : ({} : Xml.Entities).events? callingTokens
      = some [.start ⟨none, "classgen"⟩ [(⟨none, "default-output"⟩, "o")],
          .start ⟨none, "macros"⟩ [],
          .start ⟨none, "macro"⟩ [(⟨none, "name"⟩, "m")], .chars "A $1.",
          .finish ⟨none, "macro"⟩, .finish ⟨none, "macros"⟩,
          .start ⟨none, "class"⟩
            [(⟨none, "name"⟩, "A"), (⟨none, "doc"⟩, "\x7b\x7bm class\x7d\x7d")],
          .finish ⟨none, "class"⟩, .finish ⟨none, "classgen"⟩] := by
    -- No entity is named, so nothing is looked up.
    simp [callingTokens, Xml.Entities.events?, Xml.Entities.eventsWithin?,
      Xml.Entities.attributes?, Xml.Entities.value?, Xml.Entities.valueWithin?]
    decide
  exact Document.ofText?_of_events rfl scanned events rfl

/-- A disk whose only file is this document. -/
def callingDisk : Disk where
  nodes := [(["run"], .directory), (["run", "d.xml"], .file callingDocument.encoded)]
  home := ["run"]

theorem bytes_callingDisk : callingDisk.bytes plainArguments.input = .ok callingDocument.encoded :=
  rfl

/-- What is logged when it is read. -/
def callingLog : List Log.Record :=
  [{ level := .debug, logger := Log.document, message := "Registered 1 macros" },
    { level := .debug, logger := Log.document, message := "Parsed 1 classes" }]

theorem project_callingDocument :
    ∃ left, (Document.project callingDocument).start {} = (.ok callingProject, left) ∧
      left.log = callingLog ∧
      ∀ entry ∈ left.state.templates, Macro.numbersFit entry.2 = true := by
  have rooted : Document.root callingDocument = .ok callingRoot := by
    have balanced : Document.checkCdata callingDocument = .ok () := by decide +kernel
    rw [Document.root, balanced, ofText?_callingDocument]
    rfl
  rw [Document.project, rooted]
  exact ⟨_, Prod.ext (by decide +kernel) rfl, by decide +kernel, by decide +kernel⟩

theorem load_callingDisk :
    Document.load callingDisk plainArguments.input = Document.project callingDocument := by
  have read : Document.inputText callingDisk plainArguments.input
      = .ok (Text.unifyReturns callingDocument) := by
    rw [Document.inputText, bytes_callingDisk]
    simp only [Disk.textOf, Text.decoded?_encoded]
  have plain : Text.unifyReturns callingDocument = callingDocument := by decide +kernel
  rw [Document.load, read, plain]
  exact pure_bind callingDocument Document.project

/-- A document that calls its own macro is read, and its class is written. -/
theorem calling_document_is_written :
    Arguments.ofList ["d.xml"] = .ok plainArguments ∧ Ordinary [] callingDisk plainArguments ∧
      Complete (run [] callingDisk ["d.xml"]) callingDisk plainArguments := by
  obtain ⟨left, loaded, logged, numbers⟩ := project_callingDocument
  rw [← load_callingDisk] at loaded
  have ordinary : Ordinary [] callingDisk plainArguments := by
    refine { defaults_of_plainArguments (by decide +kernel) with
      numbers := ?_, given := by decide +kernel, made := ?_ }
    · rw [loaded]
      exact numbers
    · rintro project left' same c hc directory found
      obtain rfl := Except.ok.inj (congrArg Prod.fst (loaded.symm.trans same))
      obtain rfl := List.mem_singleton.mp hc
      cases found
      decide +kernel
  have input : ¬ Document.Undecodable callingDisk plainArguments.input := by
    rintro ⟨content, found, undecoded⟩
    obtain rfl := Except.ok.inj (bytes_callingDisk.symm.trans found)
    rw [Text.decoded?_encoded] at undecoded
    cases undecoded
  have written : (runFrom (Generation.generate {} plainArguments.outputDirectory callingProject)
      { state := callingDisk, log := left.log }).1 = .ok [.ofText "o/A.php"] := by
    rw [logged]
    decide +kernel
  have way : ¬ Obstructed callingDisk plainArguments := by
    rw [obstructed_iff_breaks loaded]
    rintro ⟨fault, broken, -⟩
    cases written.symm.trans broken
  refine ⟨plainArguments_accepted, ordinary, ?_⟩
  rcases (run_ends plainArguments_accepted ordinary).1.mpr ⟨input, way⟩ with complete | failed
  · exact complete
  · obtain ⟨logged, error, fault, -⟩ := failed.console
    rw [generate_of_load_ok loaded, written] at fault
    cases fault

/-- A disk whose only file is an input that is no text. -/
def garbledDisk : Disk where
  nodes := [(["run"], .directory), (["run", "d.xml"], .file [0xff])]
  home := ["run"]

/-- An input that is no text breaks the run off. -/
theorem garbled_input_breaks_off :
    Arguments.ofList ["d.xml"] = .ok plainArguments ∧ Ordinary [] garbledDisk plainArguments ∧
      (run [] garbledDisk ["d.xml"]).ending = .broken .undecodable ∧
      ¬ (Complete (run [] garbledDisk ["d.xml"]) garbledDisk plainArguments ∨
        Failed (run [] garbledDisk ["d.xml"]) garbledDisk plainArguments) := by
  have ending : (run [] garbledDisk ["d.xml"]).ending = .broken .undecodable := by decide +kernel
  have input : Document.Undecodable garbledDisk plainArguments.input :=
    ⟨[0xff], by decide +kernel, by decide +kernel⟩
  have unread := Document.load_of_undecodable input { state := {} }
  have ordinary : Ordinary [] garbledDisk plainArguments := by
    refine { defaults_of_plainArguments (by decide +kernel) with
      numbers := ?_, given := by decide +kernel, made := ?_ }
    · rw [Action.start, unread]
      simp
    · intro project left loaded
      cases unread.symm.trans loaded
  exact ⟨plainArguments_accepted, ordinary, ending, not_good_of_broken ending⟩

end Classwright.CommandLine
